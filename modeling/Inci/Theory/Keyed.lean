/-
# Theory.Keyed -- lists of items with distinct keys

A list whose keys are distinct is a finite map with a fixed order of its keys.
Finding is then membership (`find_eq_some`), selecting by key gives at most one
item (`filter_eq_find`), and two such lists with the same keys are equal when
they find the same items (`keyed_ext`).
-/
import Mathlib.Data.List.Nodup
import Mathlib.Data.List.Forall2

namespace Inci.Theory

set_option autoImplicit false

variable {ι κ : Type} [DecidableEq κ] (key : ι → κ)

/-- The item of a key. -/
def find (l : List ι) (k : κ) : Option ι := l.find? fun i => key i = k

variable {key} {l l' : List ι} {k : κ} {i : ι}

theorem find_key (found : find key l k = some i) : key i = k := by
  simpa using List.find?_some found

/-- With distinct keys, finding is membership. -/
theorem find_eq_some (nodup : (l.map key).Nodup) : find key l k = some i ↔ i ∈ l ∧ key i = k := by
  constructor
  · intro found
    exact ⟨List.mem_of_find?_eq_some found, find_key found⟩
  · rintro ⟨member, rfl⟩
    obtain ⟨j, found⟩ : ∃ j, find key l (key i) = some j := by
      rw [← Option.isSome_iff_exists, find, List.find?_isSome]
      exact ⟨i, member, by simp⟩
    rw [found, List.inj_on_of_nodup_map nodup (List.mem_of_find?_eq_some found) member
      (find_key found)]

theorem find_isSome : (find key l k).isSome ↔ k ∈ l.map key := by
  simp [find]

/-- Selecting by key is finding. -/
theorem filter_eq_find (nodup : (l.map key).Nodup) :
    (l.filter fun i => key i = k) = (find key l k).toList := by
  induction l with
  | nil => rfl
  | cons j rest ih =>
      obtain ⟨fresh, nodup⟩ := List.nodup_cons.mp nodup
      by_cases here : key j = k
      · have none : (rest.filter fun i => key i = k) = [] := by
          apply List.filter_eq_nil_iff.mpr
          intro i member same
          apply fresh
          rw [here, ← of_decide_eq_true same]
          exact List.mem_map_of_mem member
        simp [find, here, none]
      · simpa [find, here] using ih nodup

/-- Finding in a list whose items were changed without changing their keys. -/
theorem find_map {f : ι → ι} (keeps : ∀ i ∈ l, key (f i) = key i) :
    find key (l.map f) k = (find key l k).map f := by
  induction l with
  | nil => rfl
  | cons j rest ih =>
      have same := keeps j (List.mem_cons_self ..)
      have later := ih fun i member => keeps i (List.mem_cons_of_mem _ member)
      by_cases here : key j = k
      · simp [find, here, same]
      · simpa [find, here, same] using later

omit [DecidableEq κ] in
theorem map_key {f : ι → ι} (keeps : ∀ i ∈ l, key (f i) = key i) :
    (l.map f).map key = l.map key := by
  rw [List.map_map]
  exact List.map_congr_left keeps

/-- Two lists with the same distinct keys that find the same items are equal. -/
theorem keyed_ext (keys : l.map key = l'.map key) (nodup : (l.map key).Nodup)
    (same : ∀ k, find key l k = find key l' k) : l = l' := by
  have nodup' : (l'.map key).Nodup := keys ▸ nodup
  apply List.ext_getElem
  · simpa using congrArg List.length keys
  · intro n here there
    have sameKey : key l[n] = key l'[n] := by
      have at_n := congrArg (fun ks => ks[n]?) keys
      simpa [here, there] using at_n
    have found := (find_eq_some nodup).mpr ⟨List.getElem_mem here, sameKey⟩
    rw [same] at found
    have found' := (find_eq_some nodup').mpr ⟨List.getElem_mem there, rfl⟩
    exact Option.some.inj (found.symm.trans found')

end Inci.Theory
