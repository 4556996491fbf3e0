/-
# Theory.Ranking -- sorting by a key

`sortOn` sorts a list by a key into a linear order.  Where no two items share a key the sorted
list does not depend on the order of the list (`sortOn_perm`), and the items before another in
it are those of a smaller key (`sortOn_pairwise`).
-/
import Mathlib.Data.List.Nodup
import Mathlib.Data.List.Sort
import Mathlib.Order.Basic

namespace Inci.Theory

set_option autoImplicit false

variable {ι κ : Type} [LinearOrder κ] (key : ι → κ)

def sortOn (l : List ι) : List ι := l.mergeSort fun a b => decide (key a ≤ key b)

theorem sortOn_perm_self (l : List ι) : (sortOn key l).Perm l := List.mergeSort_perm l _

@[simp] theorem mem_sortOn {l : List ι} {a : ι} : a ∈ sortOn key l ↔ a ∈ l :=
  (sortOn_perm_self key l).mem_iff

theorem sortOn_sorted (l : List ι) : (sortOn key l).Pairwise fun a b => key a ≤ key b := by
  have trans (a b c : ι) (one : decide (key a ≤ key b) = true)
      (other : decide (key b ≤ key c) = true) : decide (key a ≤ key c) = true := by
    simp only [decide_eq_true_eq] at one other ⊢
    exact one.trans other
  have total (a b : ι) : (decide (key a ≤ key b) || decide (key b ≤ key a)) = true := by
    simp only [Bool.or_eq_true, decide_eq_true_eq]
    exact le_total _ _
  have sorted := List.pairwise_mergeSort trans total l
  exact sorted.imp fun less => of_decide_eq_true less

/-- With distinct keys, the keys grow along the sorted list. -/
theorem sortOn_pairwise {l : List ι} (distinct : (l.map key).Nodup) :
    (sortOn key l).Pairwise fun a b => key a < key b := by
  have different : ((sortOn key l).map key).Nodup :=
    ((sortOn_perm_self key l).map key).nodup_iff.mpr distinct
  have apart := List.pairwise_map.mp different
  exact ((sortOn_sorted key l).and apart).imp fun both => lt_of_le_of_ne both.1 both.2

/-- With distinct keys, the order of the list does not matter to the sorted one. -/
theorem sortOn_perm {l l' : List ι} (perm : l.Perm l') (distinct : (l.map key).Nodup) :
    sortOn key l = sortOn key l' := by
  have both : (sortOn key l).Perm (sortOn key l') :=
    ((sortOn_perm_self key l).trans perm).trans (sortOn_perm_self key l').symm
  refine both.eq_of_pairwise ?_ (sortOn_sorted key l) (sortOn_sorted key l')
  intro a b here there less more
  have inside : a ∈ l := (mem_sortOn key).mp here
  have inside' : b ∈ l := perm.mem_iff.mpr ((mem_sortOn key).mp there)
  exact List.inj_on_of_nodup_map distinct inside inside' (le_antisymm less more)

@[simp] theorem sortOn_singleton (a : ι) : sortOn key [a] = [a] := List.mergeSort_singleton a

theorem sortOn_pair {a b : ι} (less : key a < key b) : sortOn key [a, b] = [a, b] := by
  apply List.mergeSort_of_pairwise
  simp [less.le]

theorem sortOn_swap {a b : ι} (less : key a < key b) : sortOn key [b, a] = [a, b] := by
  rw [← sortOn_pair key less]
  exact sortOn_perm key (List.Perm.swap a b []) (by simp [less.ne'])

/-- The one member of a list with distinct keys that has the key of it. -/
theorem filter_key {l : List ι} (distinct : (l.map key).Nodup) {a : ι} (member : a ∈ l) :
    l.filter (fun b => key b = key a) = [a] := by
  induction l with
  | nil => cases member
  | cons b rest ih =>
      obtain ⟨fresh, later⟩ := List.nodup_cons.mp distinct
      rcases List.mem_cons.mp member with rfl | inside
      · rw [List.filter_cons_of_pos (by simp), List.filter_eq_nil_iff.mpr]
        intro c there same
        exact fresh (List.mem_map.mpr ⟨c, there, of_decide_eq_true same⟩)
      · rw [List.filter_cons_of_neg, ih later inside]
        intro same
        exact fresh (List.mem_map.mpr ⟨a, inside, (of_decide_eq_true same).symm⟩)

end Inci.Theory
