/-
# Theory.Watermarks -- the latest mark of each key, in a fixed order of the keys

A table keeps one mark for each key, its entries in the order of their keys'
ranks.  `record` writes a mark and puts the table back in order: it answers the
written key with the new mark and every other key as before
(`get_record_same`, `get_record_other`), and it keeps the order (`ranked_record`).

A history of readings rises when a key is never read below what it was read
before.  In a rising history the last mark of a key is its highest
(`highest_concat`), so a table of last marks is a table of maxima.
-/
import Mathlib.Data.List.Sort
import Inci.Theory.Dict

namespace Inci.Theory.Watermarks

set_option autoImplicit false

/-! ## Tables in order -/

section Tables

variable {κ ν ο : Type} [DecidableEq κ] [LinearOrder ο] {rank : κ → ο}
variable {t : List (κ × ν)} {k key : κ} {mark : ν}

/-- The entries stand in the order of their keys' ranks, no rank twice. -/
def Ranked (rank : κ → ο) (t : List (κ × ν)) : Prop := t.Pairwise fun a b => rank a.1 < rank b.1

/-- The entries of a table in the order of their keys' ranks. -/
def inOrder (rank : κ → ο) (t : List (κ × ν)) : List (κ × ν) :=
  t.insertionSort fun a b => rank a.1 ≤ rank b.1

/-- Write a mark and put the table in order. -/
def record (rank : κ → ο) (t : List (κ × ν)) (key : κ) (mark : ν) : List (κ × ν) :=
  inOrder rank (Dict.put t key mark)

omit [DecidableEq κ] in
theorem inOrder_perm : (inOrder rank t).Perm t := List.perm_insertionSort _ t

omit [DecidableEq κ] in
theorem Ranked.nodup (ranked : Ranked rank t) : (Dict.keys t).Nodup := by
  refine List.pairwise_map.mpr (ranked.imp ?_)
  intro a b before same
  rw [same] at before
  exact lt_irrefl _ before

omit [DecidableEq κ] in
/-- A table in order is not moved by sorting it. -/
theorem Ranked.inOrder_eq (ranked : Ranked rank t) : inOrder rank t = t :=
  List.Pairwise.insertionSort_eq (ranked.imp le_of_lt)

omit [DecidableEq κ] in
theorem ranked_inOrder (injective : Function.Injective rank) (nodup : (Dict.keys t).Nodup) :
    Ranked rank (inOrder rank t) := by
  have total : Std.Total fun a b : κ × ν => rank a.1 ≤ rank b.1 := ⟨fun a b => le_total _ _⟩
  have trans : IsTrans (κ × ν) fun a b => rank a.1 ≤ rank b.1 := ⟨fun a b c => le_trans⟩
  have sorted := List.pairwise_insertionSort (fun a b : κ × ν => rank a.1 ≤ rank b.1) t
  have distinct : (Dict.keys (inOrder rank t)).Nodup :=
    (inOrder_perm.map Prod.fst).nodup_iff.mpr nodup
  have both := sorted.and (List.pairwise_map.mp distinct)
  refine both.imp ?_
  rintro a b ⟨below, other⟩
  exact lt_of_le_of_ne below fun same => other (injective same)

theorem get_inOrder (nodup : (Dict.keys t).Nodup) : Dict.get (inOrder rank t) k = Dict.get t k :=
  Dict.get_perm nodup inOrder_perm

theorem ranked_record (injective : Function.Injective rank) (ranked : Ranked rank t) :
    Ranked rank (record rank t key mark) :=
  ranked_inOrder injective (Dict.nodup_put ranked.nodup)

theorem get_record_same (ranked : Ranked rank t) :
    Dict.get (record rank t key mark) key = some mark := by
  rw [record, get_inOrder (Dict.nodup_put ranked.nodup), Dict.get_put_same]

theorem get_record_other (ranked : Ranked rank t) (other : k ≠ key) :
    Dict.get (record rank t key mark) k = Dict.get t k := by
  rw [record, get_inOrder (Dict.nodup_put ranked.nodup), Dict.get_put_other other]

end Tables

/-! ## Rising histories -/

section Histories

variable {α κ : Type} [DecidableEq κ] {key : α → κ} {mark : α → Nat}
variable {history : List α} {a : α} {k : κ}

/-- A key is never read below what it was read before. -/
def Rising (key : α → κ) (mark : α → Nat) (history : List α) : Prop :=
  history.Pairwise fun a b => key a = key b → mark a ≤ mark b

/-- The highest mark of a key, if it was read at all. -/
def highest (key : α → κ) (mark : α → Nat) (history : List α) (k : κ) : Option Nat :=
  ((history.filter fun a => key a = k).map mark).max?

omit [DecidableEq κ] in
theorem rising_concat : Rising key mark (history ++ [a]) ↔
    Rising key mark history ∧ ∀ b ∈ history, key b = key a → mark b ≤ mark a := by
  rw [Rising, List.pairwise_append]
  constructor
  · rintro ⟨rising, -, last⟩
    exact ⟨rising, fun b inside => last b inside a (List.mem_singleton.mpr rfl)⟩
  · rintro ⟨rising, last⟩
    refine ⟨rising, List.pairwise_singleton _ a, ?_⟩
    intro b inside c here
    rw [List.mem_singleton.mp here]
    exact last b inside

/-- Every reading of a key is bounded by its highest. -/
theorem highest_spec {n : Nat} : highest key mark history k = some n ↔
    (∃ a ∈ history, key a = k ∧ mark a = n) ∧ ∀ a ∈ history, key a = k → mark a ≤ n := by
  rw [highest, List.max?_eq_some_iff]
  simp only [List.mem_map, List.mem_filter, decide_eq_true_eq, forall_exists_index, and_imp,
    and_assoc]
  refine and_congr_right fun _ => ⟨fun bound b inside same => bound _ b inside same rfl, ?_⟩
  rintro bound _ b inside same rfl
  exact bound b inside same

theorem highest_eq_none : highest key mark history k = none ↔ ∀ a ∈ history, key a ≠ k := by
  rw [highest, List.max?_eq_none_iff, List.map_eq_nil_iff, List.filter_eq_nil_iff]
  simp only [decide_eq_true_eq, ne_eq]

/-- The last reading of a rising history is the highest of its key. -/
theorem highest_concat (last : ∀ b ∈ history, key b = key a → mark b ≤ mark a) :
    highest key mark (history ++ [a]) (key a) = some (mark a) := by
  refine highest_spec.mpr ⟨⟨a, by simp, rfl, rfl⟩, ?_⟩
  intro b inside same
  rcases List.mem_append.mp inside with before | here
  · exact last b before same
  · rw [List.mem_singleton.mp here]

/-- A reading says nothing about the other keys. -/
theorem highest_concat_other (other : k ≠ key a) :
    highest key mark (history ++ [a]) k = highest key mark history k := by
  rw [highest, highest, List.filter_append, List.filter_singleton, decide_eq_false other.symm]
  simp

/-- What bounds every reading of a key bounds its highest, and the other way round. -/
theorem highest_le_iff {n : Nat} :
    (∀ m, highest key mark history k = some m → m ≤ n) ↔
      ∀ a ∈ history, key a = k → mark a ≤ n := by
  constructor
  · intro bound b inside same
    cases found : highest key mark history k with
    | none => exact absurd same (highest_eq_none.mp found b inside)
    | some m => exact le_trans ((highest_spec.mp found).2 b inside same) (bound m found)
  · rintro bound m found
    obtain ⟨⟨b, inside, same, rfl⟩, -⟩ := highest_spec.mp found
    exact bound b inside same

end Histories

end Inci.Theory.Watermarks
