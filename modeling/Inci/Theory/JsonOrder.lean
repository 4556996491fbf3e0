/-
# Theory.JsonOrder -- canonical text by insertion

`Json.dumps` sorts the members of an object by merging, which the kernel does not
evaluate.  `encode` writes the same text with the members inserted in key order:
both sorts are stable, so they agree even where keys repeat.
-/
import Mathlib.Data.List.Sort
import Inci.Theory.JsonRoundTrip

namespace Inci.Theory.Json

set_option autoImplicit false

/-! ## Stable sorts agree -/

section Sorting

variable {α : Type} {le : α → α → Bool}

/-- An item goes behind the items that are strictly before it. -/
theorem orderedInsert_append {a : α} {first second : List α} (before : ∀ b ∈ first, (!le a b) = true)
    (after : ∀ b ∈ second.head?, le a b = true) :
    (first ++ second).orderedInsert (fun x y => le x y = true) a = first ++ a :: second := by
  induction first with
  | nil =>
      cases second with
      | nil => rfl
      | cons b rest => exact List.orderedInsert_cons_of_le _ _ (after b rfl)
  | cons b rest ih =>
      have strict : ¬le a b = true := by simpa using before b List.mem_cons_self
      rw [List.cons_append, List.orderedInsert_cons, if_neg strict,
        ih fun c inside => before c (List.mem_cons_of_mem _ inside)]
      rfl

theorem mergeSort_eq_insertionSort (transitive : ∀ a b c, le a b = true → le b c = true → le a c = true)
    (total : ∀ a b, (le a b || le b a) = true) (items : List α) :
    items.mergeSort le = items.insertionSort fun x y => le x y = true := by
  induction items with
  | nil => simp
  | cons a rest ih =>
      obtain ⟨first, second, whole, tail, before⟩ := List.mergeSort_cons transitive total a rest
      have sorted := List.pairwise_mergeSort transitive total (a :: rest)
      rw [whole, List.pairwise_append] at sorted
      have after : ∀ b ∈ second.head?, le a b = true := by
        intro b head
        exact List.rel_of_pairwise_cons sorted.2.1 (List.mem_of_mem_head? head)
      rw [List.insertionSort_cons, ← ih, whole, tail, orderedInsert_append before after]

end Sorting

/-! ## Canonical text -/

mutual
/-- Every object's members in key order, by insertion. -/
def orderKeys : Value → Value
  | .arr items => .arr (orderItems items)
  | .obj members => .obj ((orderMembers members).insertionSort fun a b => keyLe a b = true)
  | v => v
def orderItems : List Value → List Value
  | [] => []
  | v :: rest => orderKeys v :: orderItems rest
def orderMembers : List (Text × Value) → List (Text × Value)
  | [] => []
  | (k, v) :: rest => (k, orderKeys v) :: orderMembers rest
end

mutual
theorem orderKeys_eq : ∀ v : Value, orderKeys v = sortKeys v
  | .null => rfl
  | .bool _ => rfl
  | .int _ => rfl
  | .str _ => rfl
  | .arr items => by rw [orderKeys, sortKeys, orderItems_eq items]
  | .obj members => by
      rw [orderKeys, sortKeys, orderMembers_eq members,
        mergeSort_eq_insertionSort keyLe_trans keyLe_total]
theorem orderItems_eq : ∀ items : List Value, orderItems items = sortItems items
  | [] => rfl
  | v :: rest => by rw [orderItems, sortItems, orderKeys_eq v, orderItems_eq rest]
theorem orderMembers_eq : ∀ members : List (Text × Value), orderMembers members = sortMembers members
  | [] => rfl
  | (k, v) :: rest => by rw [orderMembers, sortMembers, orderKeys_eq v, orderMembers_eq rest]
end

/-- `json.dumps` with sorted keys, ASCII output and compact separators. -/
def encode (v : Value) : Option Text :=
  if printable v then some (render (orderKeys v)) else none

theorem encode_eq (v : Value) : encode v = dumps v := by rw [encode, dumps, orderKeys_eq]

end Inci.Theory.Json
