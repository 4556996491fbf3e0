/-
# Theory.JsonSize -- how long a canonical text may get

A writer that bounds its output needs a bound on the text before it is written.
`size` is one that only looks at the shape of the value: twelve bytes for a code
point, the digits of an integer, and the separators.
-/
import Inci.Theory.JsonOrder
import Mathlib.Algebra.BigOperators.Group.List.Basic

namespace Inci.Theory.Json

set_option autoImplicit false

mutual
def size : Value → Nat
  | .null => 4
  | .bool _ => 5
  | .int n => (integer n).length
  | .str s => 12 * s.length + 2
  | .arr items => sizeItems items + 2
  | .obj members => sizeMembers members + 2
def sizeItems : List Value → Nat
  | [] => 0
  | v :: rest => size v + 1 + sizeItems rest
def sizeMembers : List (Text × Value) → Nat
  | [] => 0
  | (k, v) :: rest => 12 * k.length + 4 + size v + sizeMembers rest
end

/-! ## The text is no longer -/

theorem escapePoint_length (c : Nat) : (escapePoint c).length ≤ 12 := by
  unfold escapePoint
  split_ifs <;> simp [unicodeEscape, hex4]

theorem quote_length (s : Text) : (quote s).length ≤ 12 * s.length + 2 := by
  have points : (s.flatMap escapePoint).length ≤ 12 * s.length := by
    induction s with
    | nil => simp
    | cons c rest ih =>
        have first := escapePoint_length c
        rw [List.flatMap_cons, List.length_append, List.length_cons]
        omega
  simp only [quote, List.length_cons, List.length_append, List.length_nil]
  omega

mutual
theorem render_length : ∀ v : Value, (render v).length ≤ size v
  | .null => by simp [render, size]
  | .bool true => by simp [render, size]
  | .bool false => by simp [render, size]
  | .int n => le_rfl
  | .str s => by
      rw [render, size]
      exact quote_length s
  | .arr [] => by simp [render, size]
  | .arr (v :: rest) => by
      have first := render_length v
      have others := renderItems_length rest
      simp only [render, size, sizeItems, List.length_cons, List.length_append]
      omega
  | .obj [] => by simp [render, size]
  | .obj ((k, v) :: rest) => by
      have key := quote_length k
      have first := render_length v
      have others := renderMembers_length rest
      simp only [render, size, sizeMembers, List.length_cons, List.length_append]
      omega
theorem renderItems_length : ∀ items : List Value,
    (renderItems items).length ≤ sizeItems items + 1
  | [] => by simp [renderItems]
  | v :: rest => by
      have first := render_length v
      have others := renderItems_length rest
      simp only [renderItems, sizeItems, List.length_cons, List.length_append]
      omega
theorem renderMembers_length : ∀ members : List (Text × Value),
    (renderMembers members).length ≤ sizeMembers members + 1
  | [] => by simp [renderMembers]
  | (k, v) :: rest => by
      have key := quote_length k
      have first := render_length v
      have others := renderMembers_length rest
      simp only [renderMembers, sizeMembers, List.length_cons, List.length_append]
      omega
end

/-! ## Sorting keeps the size -/

theorem sizeMembers_eq (members : List (Text × Value)) :
    sizeMembers members = (members.map fun m => 12 * m.1.length + 4 + size m.2).sum := by
  induction members with
  | nil => rfl
  | cons m rest ih =>
      obtain ⟨k, v⟩ := m
      rw [sizeMembers, ih, List.map_cons, List.sum_cons]

theorem sizeMembers_perm {members others : List (Text × Value)} (perm : members.Perm others) :
    sizeMembers members = sizeMembers others := by
  rw [sizeMembers_eq, sizeMembers_eq]
  exact (perm.map _).sum_eq

mutual
theorem size_sortKeys : ∀ v : Value, size (sortKeys v) = size v
  | .null => rfl
  | .bool _ => rfl
  | .int _ => rfl
  | .str _ => rfl
  | .arr items => by rw [sortKeys, size, size, size_sortItems items]
  | .obj members => by
      rw [sortKeys, size, size, sizeMembers_perm (List.mergeSort_perm _ _),
        size_sortMembers members]
theorem size_sortItems : ∀ items : List Value, sizeItems (sortItems items) = sizeItems items
  | [] => rfl
  | v :: rest => by rw [sortItems, sizeItems, sizeItems, size_sortKeys v, size_sortItems rest]
theorem size_sortMembers : ∀ members : List (Text × Value),
    sizeMembers (sortMembers members) = sizeMembers members
  | [] => rfl
  | (k, v) :: rest => by
      rw [sortMembers, sizeMembers, sizeMembers, size_sortKeys v, size_sortMembers rest]
end

theorem dumps_length {v : Value} {t : Text} (dumped : dumps v = some t) : t.length ≤ size v := by
  unfold dumps at dumped
  split_ifs at dumped
  cases dumped
  exact (render_length _).trans (size_sortKeys v).le

/-! ## Integers -/

theorem decimal_length {n digits : Nat} (some : 0 < digits) (bound : n < 10 ^ digits) :
    (decimal n).length ≤ digits := by
  unfold decimal
  split_ifs
  · exact some
  · rw [List.length_map, List.length_reverse]
    exact (Nat.digits_length_le_iff (by norm_num) n).mpr bound

end Inci.Theory.Json
