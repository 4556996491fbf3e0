/-
# Theory.Dict -- insertion-ordered dictionaries

A dictionary is the list of its entries in insertion order with distinct keys.
Writing to a key it has keeps the key's place; writing to a new one appends.
-/
import Mathlib.Algebra.BigOperators.Group.List.Basic
import Mathlib.Data.List.Nodup

namespace Inci.Theory.Dict

set_option autoImplicit false

variable {κ ν : Type} [DecidableEq κ]

def get : List (κ × ν) → κ → Option ν
  | [], _ => none
  | (k, v) :: rest, key => if k = key then some v else get rest key

def put : List (κ × ν) → κ → ν → List (κ × ν)
  | [], key, value => [(key, value)]
  | (k, v) :: rest, key, value =>
      if k = key then (key, value) :: rest else (k, v) :: put rest key value

def erase (d : List (κ × ν)) (key : κ) : List (κ × ν) := d.filter fun entry => entry.1 ≠ key

def keys (d : List (κ × ν)) : List κ := d.map Prod.fst

attribute [local simp] get put

variable {d : List (κ × ν)} {k key : κ} {v value : ν}

@[simp] theorem get_put_same : get (put d key value) key = some value := by
  induction d with
  | nil => simp [put, get]
  | cons entry rest ih =>
      obtain ⟨k, v⟩ := entry
      by_cases here : k = key
      · simp [put, get, here]
      · simp [put, get, here, ih]

theorem get_put_other (other : k ≠ key) : get (put d key value) k = get d k := by
  induction d with
  | nil => simp [put, get, other.symm]
  | cons entry rest ih =>
      obtain ⟨k', v⟩ := entry
      by_cases here : k' = key
      · subst here
        simp [put, get, other.symm]
      · by_cases found : k' = k
        · subst found
          simp [put, get, here]
        · simp [put, get, here, found, ih]

@[simp] theorem get_erase_same : get (erase d key) key = none := by
  induction d with
  | nil => rfl
  | cons entry rest ih =>
      obtain ⟨k, v⟩ := entry
      by_cases here : k = key
      · simpa [erase, here] using ih
      · simpa [erase, here, get] using ih

theorem get_erase_other (other : k ≠ key) : get (erase d key) k = get d k := by
  induction d with
  | nil => rfl
  | cons entry rest ih =>
      obtain ⟨k', v⟩ := entry
      by_cases here : k' = key
      · subst here
        simpa [erase, get, other.symm] using ih
      · by_cases found : k' = k
        · subst found
          simp [erase, get, here]
        · simpa [erase, get, here, found] using ih

theorem get_isSome : (get d key).isSome ↔ key ∈ keys d := by
  induction d with
  | nil => simp [get, keys]
  | cons entry rest ih =>
      obtain ⟨k, v⟩ := entry
      by_cases here : k = key
      · simp [get, keys, here]
      · simpa [get, keys, here, Ne.symm here] using ih

theorem mem_keys_of_get (found : get d key = some value) : key ∈ keys d :=
  get_isSome.mp (by simp [found])

theorem get_eq_none : get d key = none ↔ key ∉ keys d := by
  rw [← get_isSome, Option.not_isSome_iff_eq_none]

/-- With distinct keys, `get` finds exactly the entries. -/
theorem get_eq_some (nodup : (keys d).Nodup) : get d key = some value ↔ (key, value) ∈ d := by
  induction d with
  | nil => simp [get]
  | cons entry rest ih =>
      obtain ⟨k, v⟩ := entry
      obtain ⟨fresh, nodup⟩ := List.nodup_cons.mp nodup
      by_cases here : k = key
      · subst here
        have absent : (k, value) ∉ rest := fun inside => fresh (List.mem_map.mpr ⟨_, inside, rfl⟩)
        simp [get, absent, eq_comm]
      · simp [get, here, Ne.symm here, ih nodup]

/-- With distinct keys, the order of the entries does not matter to `get`. -/
theorem get_perm {d' : List (κ × ν)} (nodup : (keys d').Nodup) (perm : d.Perm d') :
    get d key = get d' key := by
  have nodup' : (keys d).Nodup := (perm.map Prod.fst).nodup_iff.mpr nodup
  refine Option.ext fun value => ?_
  rw [get_eq_some nodup', get_eq_some nodup, perm.mem_iff]

theorem keys_put : keys (put d key value) = if key ∈ keys d then keys d else keys d ++ [key] := by
  induction d with
  | nil => simp [put, keys]
  | cons entry rest ih =>
      obtain ⟨k, v⟩ := entry
      by_cases here : k = key
      · simp [put, keys, here]
      · have step : keys ((k, v) :: put rest key value) = k :: keys (put rest key value) := rfl
        have whole : keys ((k, v) :: rest) = k :: keys rest := rfl
        rw [put, if_neg here, step, ih, whole]
        by_cases member : key ∈ keys rest
        · simp [member]
        · simp [member, Ne.symm here]

theorem mem_keys_put : k ∈ keys (put d key value) ↔ k = key ∨ k ∈ keys d := by
  rw [keys_put]
  by_cases member : key ∈ keys d
  · rw [if_pos member]
    constructor
    · exact Or.inr
    · rintro (rfl | there)
      · exact member
      · exact there
  · rw [if_neg member, List.mem_append, List.mem_singleton, or_comm]

theorem nodup_put (nodup : (keys d).Nodup) : (keys (put d key value)).Nodup := by
  rw [keys_put]
  by_cases member : key ∈ keys d
  · rwa [if_pos member]
  · rw [if_neg member]
    apply List.Nodup.append nodup (List.nodup_singleton key)
    intro k there here
    rw [List.mem_singleton] at here
    exact member (here ▸ there)

/-- What holds of every entry and of the written one holds afterwards. -/
theorem forall_put {P : κ × ν → Prop} (each : ∀ entry ∈ d, P entry) (written : P (key, value)) :
    ∀ entry ∈ put d key value, P entry := by
  induction d with
  | nil =>
      intro entry member
      rw [List.mem_singleton.mp member]
      exact written
  | cons first rest ih =>
      intro entry member
      by_cases here : first.1 = key
      · rw [put, if_pos here] at member
        rcases List.mem_cons.mp member with rfl | later
        · exact written
        · exact each entry (List.mem_cons_of_mem _ later)
      · rw [put, if_neg here] at member
        rcases List.mem_cons.mp member with rfl | later
        · exact each _ List.mem_cons_self
        · exact ih (fun e there => each e (List.mem_cons_of_mem _ there)) entry later

theorem length_put : (put d key value).length = if key ∈ keys d then d.length else d.length + 1 := by
  have lengths : (keys (put d key value)).length = _ := congrArg List.length keys_put
  have plain : (keys (put d key value)).length = (put d key value).length := List.length_map _
  rw [← plain, lengths]
  by_cases member : key ∈ keys d
  · rw [if_pos member, if_pos member, keys, List.length_map]
  · rw [if_neg member, if_neg member, List.length_append, keys, List.length_map]
    rfl

theorem mem_keys_erase : k ∈ keys (erase d key) ↔ k ≠ key ∧ k ∈ keys d := by
  simp only [keys, erase, List.mem_map, List.mem_filter, decide_eq_true_eq]
  constructor
  · rintro ⟨entry, ⟨member, other⟩, rfl⟩
    exact ⟨other, entry, member, rfl⟩
  · rintro ⟨other, entry, member, rfl⟩
    exact ⟨entry, ⟨member, other⟩, rfl⟩

theorem nodup_erase (nodup : (keys d).Nodup) : (keys (erase d key)).Nodup :=
  nodup.sublist (List.Sublist.map Prod.fst List.filter_sublist)

theorem length_erase_le : (erase d key).length ≤ d.length := List.length_filter_le _ _

theorem erase_absent (absent : key ∉ keys d) : erase d key = d := by
  apply List.filter_eq_self.mpr
  intro entry member
  have other : entry.1 ≠ key := by
    rintro rfl
    exact absent (List.mem_map_of_mem member)
  exact decide_eq_true other

/-- What `get` finds may be set, or removed. -/
def write (d : List (κ × ν)) (key : κ) : Option ν → List (κ × ν)
  | some value => put d key value
  | none => erase d key

@[simp] theorem get_write_same (now : Option ν) : get (write d key now) key = now := by
  cases now with
  | some value => exact get_put_same
  | none => exact get_erase_same

theorem get_write_other (other : k ≠ key) (now : Option ν) :
    get (write d key now) k = get d k := by
  cases now with
  | some value => exact get_put_other other
  | none => exact get_erase_other other

theorem nodup_write (nodup : (keys d).Nodup) (now : Option ν) :
    (keys (write d key now)).Nodup := by
  cases now with
  | some value => exact nodup_put nodup
  | none => exact nodup_erase nodup

/-! ## From a list of entries -/

/-- The dictionary a list of entries makes, the later entry of a key winning. -/
def ofEntries (entries : List (κ × ν)) : List (κ × ν) :=
  entries.foldl (fun d entry => put d entry.1 entry.2) []

theorem put_fresh (fresh : key ∉ keys d) : put d key value = d ++ [(key, value)] := by
  induction d with
  | nil => rfl
  | cons entry rest ih =>
      obtain ⟨k, v⟩ := entry
      rw [keys, List.map_cons, List.mem_cons, not_or] at fresh
      rw [put, if_neg (Ne.symm fresh.1), ih fresh.2]
      rfl

/-- Entries with distinct keys are the dictionary they make. -/
theorem ofEntries_eq (nodup : (keys d).Nodup) : ofEntries d = d := by
  have split : ∀ (later earlier : List (κ × ν)), (keys (earlier ++ later)).Nodup →
      later.foldl (fun d entry => put d entry.1 entry.2) earlier = earlier ++ later := by
    intro later
    induction later with
    | nil => intro earlier _; exact (List.append_nil earlier).symm
    | cons entry rest ih =>
        intro earlier nodup
        have fresh : entry.1 ∉ keys earlier := by
          rw [keys, List.map_append, List.nodup_append] at nodup
          exact fun inside => nodup.2.2 _ inside entry.1 (by simp) rfl
        rw [List.foldl_cons, put_fresh fresh, ih (earlier ++ [entry])]
        · simp
        · simpa using nodup
  exact split d [] nodup

/-! ## Mapped values -/

section Mapped

variable {μ : Type} (f : ν → μ)

def mapValues (d : List (κ × ν)) : List (κ × μ) := d.map fun entry => (entry.1, f entry.2)

theorem get_mapValues : get (mapValues f d) key = (get d key).map f := by
  induction d with
  | nil => rfl
  | cons entry rest ih =>
      obtain ⟨k, v⟩ := entry
      by_cases here : k = key
      · simp [mapValues, get, here]
      · simpa [mapValues, get, here] using ih

theorem mapValues_put : mapValues f (put d key value) = put (mapValues f d) key (f value) := by
  induction d with
  | nil => rfl
  | cons entry rest ih =>
      obtain ⟨k, v⟩ := entry
      by_cases here : k = key
      · simp [mapValues, put, here]
      · simpa [mapValues, put, here] using ih

theorem mapValues_erase : mapValues f (erase d key) = erase (mapValues f d) key := by
  rw [mapValues, mapValues, erase, erase, List.filter_map]
  rfl

theorem put_put : put (put d key v) key value = put d key value := by
  induction d with
  | nil => simp [put]
  | cons entry rest ih =>
      obtain ⟨k, w⟩ := entry
      by_cases here : k = key
      · simp [put, here]
      · simp [put, here, ih]

theorem erase_put : erase (put d key value) key = erase d key := by
  induction d with
  | nil => simp [put, erase]
  | cons entry rest ih =>
      obtain ⟨k, w⟩ := entry
      by_cases here : k = key
      · simp [put, erase, here]
      · simpa [put, erase, here] using ih

end Mapped

/-! ## Sums over the values -/

section Sums

variable {M : Type} [AddCommMonoid M] (f : ν → M)

def total (d : List (κ × ν)) : M := (d.map fun entry => f entry.2).sum

/-- What a key contributes to the sum. -/
def share (d : List (κ × ν)) (key : κ) : M := ((get d key).map f).getD 0

theorem total_put : total f (put d key value) + share f d key = total f d + f value := by
  induction d with
  | nil => simp [total, share, put, get]
  | cons entry rest ih =>
      obtain ⟨k, v⟩ := entry
      by_cases here : k = key
      · simp only [total, share, put, get, here, if_true, List.map_cons, List.sum_cons,
          Option.map_some, Option.getD_some]
        rw [add_comm (f value), add_right_comm, add_comm (f v)]
      · simp only [total, share, put, get, here, if_false, List.map_cons, List.sum_cons] at ih ⊢
        rw [add_assoc, ih, add_assoc]

theorem total_erase (nodup : (keys d).Nodup) :
    total f (erase d key) + share f d key = total f d := by
  induction d with
  | nil => simp [total, share, erase, get]
  | cons entry rest ih =>
      obtain ⟨k, v⟩ := entry
      obtain ⟨absent, nodup⟩ := List.nodup_cons.mp nodup
      by_cases here : k = key
      · subst here
        have gone : erase ((k, v) :: rest) k = rest := by
          rw [erase, List.filter_cons_of_neg (by simp)]
          exact erase_absent absent
        rw [gone]
        simp [total, share, get, add_comm]
      · have kept : erase ((k, v) :: rest) key = (k, v) :: erase rest key := by
          rw [erase, List.filter_cons_of_pos (by simpa using here)]
          rfl
        rw [kept]
        simp only [total, share, get, here, if_false, List.map_cons, List.sum_cons] at ih ⊢
        rw [add_assoc, ih nodup]

/-- A write changes the sum by what it changes at its key. -/
theorem total_write (key : κ) (nodup : (keys d).Nodup) (now : Option ν) :
    total f (write d key now) + share f d key = total f d + (now.map f).getD 0 := by
  cases now with
  | some value => exact total_put f
  | none => exact (total_erase f nodup).trans (add_zero _).symm

end Sums

end Inci.Theory.Dict
