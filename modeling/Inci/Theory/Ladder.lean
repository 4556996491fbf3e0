/-
# Theory.Ladder -- finite maps listed by descending key

A ladder is a list of items in strictly descending order of a key: a finite map
that lists each key once.  The three updates of a ladder by index (remove,
replace, append and sort again) are the updates of the map (`find_update`).
-/
import Inci.Theory.Keyed
import Mathlib.Data.List.Sort
import Mathlib.Order.Basic

namespace Inci.Theory

set_option autoImplicit false

variable {ι κ : Type} [LinearOrder κ] (key : ι → κ)

def Descending (l : List ι) : Prop := l.Pairwise fun a b => key b < key a

/-- Python's `sorted(l, key=key, reverse=True)`. -/
def sortDescending (l : List ι) : List ι := l.insertionSort fun a b => key b ≤ key a

/-- Remove the item of a key, replace it, or add it, and sort again. -/
def update (l : List ι) (k : κ) (item : Option ι) : List ι :=
  sortDescending key (match l.findIdx? (fun i => key i = k) with
    | some index => l.take index ++ item.toList ++ l.drop (index + 1)
    | none => l ++ item.toList)

variable {key} {l l' : List ι} {k : κ} {i : ι}

theorem Descending.nodup (descending : Descending key l) : (l.map key).Nodup := by
  rw [List.Nodup, List.pairwise_map]
  exact descending.imp fun below => ne_of_gt below

theorem mem_sortDescending : i ∈ sortDescending key l ↔ i ∈ l :=
  (List.perm_insertionSort _ l).mem_iff

theorem sortDescending_descending (nodup : (l.map key).Nodup) :
    Descending key (sortDescending key l) := by
  have total : Std.Total (fun a b : ι => key b ≤ key a) := ⟨fun a b => le_total (key b) (key a)⟩
  have trans : IsTrans ι fun a b => key b ≤ key a := ⟨fun _ _ _ ab bc => le_trans bc ab⟩
  have sorted := List.pairwise_insertionSort (fun a b : ι => key b ≤ key a) l
  have distinct : ((sortDescending key l).map key).Nodup :=
    ((List.perm_insertionSort _ l).map key).nodup_iff.mpr nodup
  rw [List.Nodup, List.pairwise_map] at distinct
  exact (sorted.and distinct).imp fun both => lt_of_le_of_ne both.1 (Ne.symm both.2)

/-! ## Updates -/

theorem findIdx_split {index : Nat} (found : l.findIdx? (fun i => key i = k) = some index) :
    ∃ i, key i = k ∧ l = l.take index ++ i :: l.drop (index + 1) := by
  obtain ⟨inside, here, -⟩ := List.findIdx?_eq_some_iff_getElem.mp found
  exact ⟨l[index], by simpa using here, by simp⟩

theorem mem_update {item : Option ι} (nodup : (l.map key).Nodup) :
    i ∈ update key l k item ↔ (i ∈ l ∧ key i ≠ k) ∨ item = some i := by
  rw [update, mem_sortDescending]
  split
  · rename_i index found
    obtain ⟨j, rfl, shape⟩ := findIdx_split found
    rw [shape] at nodup
    have others : ∀ i, i ∈ l ∧ key i ≠ key j ↔ i ∈ l.take index ∨ i ∈ l.drop (index + 1) := by
      intro i
      simp only [List.map_append, List.map_cons, List.nodup_append, List.nodup_cons] at nodup
      obtain ⟨-, ⟨notAfter, -⟩, apart⟩ := nodup
      constructor
      · rintro ⟨member, different⟩
        rw [shape] at member
        simp only [List.mem_append, List.mem_cons] at member
        rcases member with before | rfl | after
        · exact .inl before
        · exact absurd rfl different
        · exact .inr after
      · rintro (before | after)
        · exact ⟨List.mem_of_mem_take before,
            apart _ (List.mem_map_of_mem before) _ (List.mem_cons_self ..)⟩
        · exact ⟨List.mem_of_mem_drop after,
            fun same => notAfter (same ▸ List.mem_map_of_mem after)⟩
    rw [others]
    simp only [List.mem_append, Option.mem_toList]
    tauto
  · rename_i missing
    have absent : ∀ i ∈ l, key i ≠ k := by simpa using missing
    simp only [List.mem_append, Option.mem_toList]
    constructor
    · rintro (member | new)
      · exact .inl ⟨member, absent i member⟩
      · exact .inr new
    · rintro (⟨member, -⟩ | new)
      · exact .inl member
      · exact .inr new

theorem update_descending {item : Option ι} (nodup : (l.map key).Nodup)
    (keyed : ∀ i, item = some i → key i = k) : Descending key (update key l k item) := by
  refine sortDescending_descending ?_
  split
  · rename_i index found
    obtain ⟨j, rfl, shape⟩ := findIdx_split found
    rw [shape] at nodup
    cases item with
    | none =>
        simp only [Option.toList_none, List.append_nil]
        exact ((List.Sublist.refl _).append (List.sublist_cons_self j _)).map key |>.nodup nodup
    | some i =>
        simp only [List.map_append, List.map_cons, ← keyed i rfl] at nodup
        simpa using nodup
  · rename_i missing
    have absent : ∀ i ∈ l, key i ≠ k := by simpa using missing
    cases item with
    | none => simpa using nodup
    | some i =>
        rw [Option.toList_some, List.map_append, List.map_singleton, List.nodup_append]
        refine ⟨nodup, by simp, ?_⟩
        intro a member b last same
        obtain ⟨j, inside, rfl⟩ := List.mem_map.mp member
        simp only [List.mem_singleton] at last
        exact absent j inside (by rw [same, last, keyed i rfl])

/-- An updated ladder is the updated map. -/
theorem find_update {item : Option ι} (nodup : (l.map key).Nodup)
    (keyed : ∀ i, item = some i → key i = k) (k' : κ) :
    find key (update key l k item) k' = if k' = k then item else find key l k' := by
  have nodup' := (update_descending nodup keyed).nodup
  ext i
  rw [find_eq_some nodup', mem_update nodup]
  split_ifs with same
  · subst same
    exact ⟨fun ⟨h, here⟩ => h.resolve_left fun other => other.2 here,
      fun new => ⟨.inr new, keyed i new⟩⟩
  · rw [find_eq_some nodup]
    constructor
    · rintro ⟨⟨member, -⟩ | new, here⟩
      · exact ⟨member, here⟩
      · exact absurd (here.symm.trans (keyed i new)) same
    · rintro ⟨member, here⟩
      exact ⟨.inl ⟨member, fun bad => same (here.symm.trans bad)⟩, here⟩

end Inci.Theory
