/-
# Theory.JsonAlike -- values up to the order of their keys

`sortKeys v = sortKeys w` says that two values differ in the order of their keys
only.  Such values are written alike (`dumps_congr`), and two objects are related
when they have the same keys and related values under each (`alike_obj`).  A text
that is read and written back unchanged has its keys in order (`canonical_fixed`).
-/
import Inci.Theory.JsonReading

namespace Inci.Theory.Json

set_option autoImplicit false

/-! ## Objects in key order -/

/-- The members of an object after sorting, its values sorted too. -/
def sortedMembers (members : List (Text × Value)) : List (Text × Value) :=
  (sortMembers members).mergeSort keyLe

theorem sortKeys_obj (members : List (Text × Value)) :
    sortKeys (.obj members) = .obj (sortedMembers members) := by rw [sortKeys, sortedMembers]

theorem sortKeys_arr (items : List Value) : sortKeys (.arr items) = .arr (items.map sortKeys) := by
  rw [sortKeys, sortItems_eq_map]

theorem sortMembers_keys (members : List (Text × Value)) :
    (sortMembers members).map Prod.fst = members.map Prod.fst := by
  rw [sortMembers_eq_map, List.map_map]
  rfl

theorem sortedMembers_keys (members : List (Text × Value)) :
    ((sortedMembers members).map Prod.fst).Perm (members.map Prod.fst) := by
  have perm := (List.mergeSort_perm (sortMembers members) keyLe).map Prod.fst
  rwa [sortMembers_keys] at perm

theorem lookup_sortMembers (key : Text) (members : List (Text × Value)) :
    lookup key (sortMembers members) = (lookup key members).map sortKeys := by
  induction members with
  | nil => rfl
  | cons m rest ih =>
      obtain ⟨k, v⟩ := m
      by_cases here : k = key
      · rw [sortMembers, lookup, lookup, if_pos here, if_pos here]
        rfl
      · rw [sortMembers, lookup, lookup, if_neg here, if_neg here, ih]

theorem lookup_sortedMembers {key : Text} {members : List (Text × Value)}
    (distinct : (members.map Prod.fst).Nodup) :
    lookup key (sortedMembers members) = (lookup key members).map sortKeys := by
  have perm := (List.mergeSort_perm (sortMembers members) keyLe).symm
  rw [← lookup_sortMembers]
  exact lookup_perm (sortMembers_keys members ▸ distinct) perm

/-! ## Writing -/

theorem printableMembers_all (members : List (Text × Value)) :
    printableMembers members = true ↔ ∀ m ∈ members, printable m.2 = true := by
  induction members with
  | nil => simp [printableMembers]
  | cons m rest ih => simp [printableMembers, ih]

mutual
theorem printable_sortKeys : ∀ v : Value, printable (sortKeys v) = printable v
  | .null => rfl
  | .bool _ => rfl
  | .int _ => rfl
  | .str _ => rfl
  | .arr items => by rw [sortKeys, printable, printable, printable_sortItems items]
  | .obj members => by
      have whole : printableMembers (sortedMembers members) = printableMembers members := by
        rw [← printable_sortMembers members, Bool.eq_iff_iff, printableMembers_all,
          printableMembers_all, sortedMembers]
        exact forall_congr' fun m => by
          rw [(List.mergeSort_perm (sortMembers members) keyLe).mem_iff]
      rw [sortKeys_obj, printable, printable, whole]
theorem printable_sortItems : ∀ items : List Value,
    printableItems (sortItems items) = printableItems items
  | [] => rfl
  | v :: rest => by
      rw [sortItems, printableItems, printableItems, printable_sortKeys v, printable_sortItems rest]
theorem printable_sortMembers : ∀ members : List (Text × Value),
    printableMembers (sortMembers members) = printableMembers members
  | [] => rfl
  | (k, v) :: rest => by
      rw [sortMembers, printableMembers, printableMembers, printable_sortKeys v,
        printable_sortMembers rest]
end

/-- Values that differ in the order of their keys only are written alike. -/
theorem dumps_congr {v w : Value} (alike : sortKeys v = sortKeys w) : dumps v = dumps w := by
  rw [dumps, dumps, ← printable_sortKeys v, ← printable_sortKeys w, alike]

/-- Objects with the same keys and related values under each are related. -/
theorem alike_obj {raw members : List (Text × Value)} (distinct : (raw.map Prod.fst).Nodup)
    (distinct' : (members.map Prod.fst).Nodup)
    (known : ∀ k ∈ raw.map Prod.fst, k ∈ members.map Prod.fst)
    (each : ∀ m ∈ members, ∃ v, lookup m.1 raw = some v ∧ sortKeys v = sortKeys m.2) :
    sortKeys (.obj raw) = sortKeys (.obj members) := by
  have perm : (sortMembers raw).Perm (sortMembers members) := by
    refine (List.perm_ext_iff_of_nodup ?_ ?_).mpr ?_
    · exact (sortMembers_keys raw ▸ distinct : ((sortMembers raw).map Prod.fst).Nodup).of_map
    · exact (sortMembers_keys members ▸ distinct' : ((sortMembers members).map Prod.fst).Nodup).of_map
    rintro ⟨k, w⟩
    simp only [sortMembers_eq_map, List.mem_map, Prod.exists, Prod.mk.injEq]
    constructor
    · rintro ⟨k, v, inside, rfl, rfl⟩
      obtain ⟨⟨_, u⟩, member, rfl⟩ := List.mem_map.mp (known k (List.mem_map_of_mem inside))
      obtain ⟨v', found, same⟩ := each _ member
      obtain rfl := Option.some.inj ((lookup_of_mem distinct inside).symm.trans found)
      exact ⟨_, u, member, rfl, same.symm⟩
    · rintro ⟨k, u, member, rfl, rfl⟩
      obtain ⟨v, found, same⟩ := each _ member
      exact ⟨k, v, mem_of_lookup found, rfl, same⟩
  rw [sortKeys_obj, sortKeys_obj, sortedMembers, sortedMembers]
  congr 1
  have sorted := List.mergeSort_perm (sortMembers raw) keyLe
  have sorted' := List.mergeSort_perm (sortMembers members) keyLe
  refine @List.Perm.eq_of_pairwise _ (fun a b => keyLe a b = true) _ _ ?_
    (List.pairwise_mergeSort keyLe_trans keyLe_total _)
    (List.pairwise_mergeSort keyLe_trans keyLe_total _) (sorted.trans (perm.trans sorted'.symm))
  rintro ⟨k, v⟩ ⟨l, w⟩ inside inside' before after
  have keys : k = l := le_antisymm (of_decide_eq_true before) (of_decide_eq_true after)
  subst keys
  have fresh : ((sortMembers raw).map Prod.fst).Nodup := sortMembers_keys raw ▸ distinct
  have first := lookup_of_mem fresh (sorted.mem_iff.mp inside)
  have second := lookup_of_mem fresh (perm.mem_iff.mpr (sorted'.mem_iff.mp inside'))
  rw [Option.some.inj (first.symm.trans second)]

/-- Two readable objects of one text answer every key alike. -/
theorem dumps_lookup {one other : List (Text × Value)} (first : Readable (.obj one))
    (second : Readable (.obj other)) (same : dumps (.obj one) = dumps (.obj other)) (key : Text) :
    (lookup key one).map sortKeys = (lookup key other).map sortKeys := by
  have sorted := dumps_injective first second same
  rw [sortKeys_obj, sortKeys_obj, Value.obj.injEq] at sorted
  rw [← lookup_sortedMembers first.1, ← lookup_sortedMembers second.1, sorted]

/-! ## Canonical texts -/

/-- A text that is read and written back unchanged has its keys in order. -/
theorem canonical_fixed {t : Text} {v : Value} (points : Points t) (loaded : loads t = some v)
    (dumped : dumps v = some t) : Readable v ∧ sortKeys v = v := by
  have readable := loads_readable points loaded
  have back := loads_dumps readable dumped
  exact ⟨readable, (Option.some.inj (loaded.symm.trans back)).symm⟩

end Inci.Theory.Json
