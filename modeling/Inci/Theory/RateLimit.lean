/-
# Theory.RateLimit -- schedules of which any window holds so many

A schedule is a list of times.  `Limited` says that no half-open window of a given width holds
more than so many of them; an interval that `n` windows cover then holds at most `n` times as
many (`Limited.count_le`).  Clusters one window apart meet the limit in every window they
begin (`clusters_limited`), so the bound is the best there is.
-/
import Mathlib.Algebra.Order.Group.Basic
import Mathlib.Algebra.Order.Ring.Int
import Mathlib.Algebra.Order.Monoid.Unbundled.Pow
import Mathlib.Tactic.Abel
import Mathlib.Tactic.Linarith

namespace Inci.Theory.RateLimit

set_option autoImplicit false

/-! ## Counting -/

section

variable {K : Type} [LinearOrder K] {low high : K} {times : List K}

/-- How many of the times lie from `low` up to before `high`. -/
def count (low high : K) (times : List K) : ℕ := times.countP fun t => low ≤ t ∧ t < high

theorem count_append (low high : K) (times others : List K) :
    count low high (times ++ others) = count low high times + count low high others :=
  List.countP_append

theorem count_mono {low' high' : K} (lower : low' ≤ low) (higher : high ≤ high') :
    count low high times ≤ count low' high' times := by
  apply List.countP_mono_left
  intro t _ inside
  simp only [decide_eq_true_eq] at inside ⊢
  exact ⟨lower.trans inside.1, inside.2.trans_le higher⟩

theorem count_le_split (low mid high : K) (times : List K) :
    count low high times ≤ count low mid times + count mid high times := by
  induction times with
  | nil => exact le_rfl
  | cons t rest ih =>
      simp only [count, List.countP_cons, decide_eq_true_eq] at ih ⊢
      rcases lt_or_ge t mid with before | after
      · by_cases inside : low ≤ t ∧ t < high
        · rw [if_pos inside, if_pos (⟨inside.1, before⟩ : low ≤ t ∧ t < mid)]
          omega
        · rw [if_neg inside]
          omega
      · by_cases inside : low ≤ t ∧ t < high
        · rw [if_pos inside, if_pos (⟨after, inside.2⟩ : mid ≤ t ∧ t < high)]
          omega
        · rw [if_neg inside]
          omega

theorem count_all (inside : ∀ t ∈ times, low ≤ t ∧ t < high) :
    count low high times = times.length := by
  apply List.countP_eq_length.mpr
  intro t member
  exact decide_eq_true (inside t member)

theorem count_none (outside : ∀ t ∈ times, t < low ∨ high ≤ t) : count low high times = 0 := by
  apply List.countP_eq_zero.mpr
  intro t member inside
  have between := of_decide_eq_true inside
  rcases outside t member with before | after
  · exact absurd between.1 (not_le.mpr before)
  · exact absurd between.2 (not_lt.mpr after)

theorem count_replicate (low high t : K) (n : ℕ) :
    count low high (List.replicate n t) = if low ≤ t ∧ t < high then n else 0 := by
  unfold count
  rw [List.countP_replicate]
  simp only [decide_eq_true_eq]

/-- Only the part of a window counts that the times lie in. -/
theorem count_clip {low' high' : K} (inside : ∀ t ∈ times, low' ≤ t ∧ t < high') :
    count low high times = count (max low' low) (min high' high) times := by
  apply List.countP_congr
  intro t member
  have between := inside t member
  simp only [decide_eq_true_eq, max_le_iff, lt_min_iff]
  exact ⟨fun ⟨one, other⟩ => ⟨⟨between.1, one⟩, between.2, other⟩,
    fun ⟨⟨_, one⟩, _, other⟩ => ⟨one, other⟩⟩

end

/-! ## Clusters -/

section

variable {K : Type} [AddCommGroup K]

/-- `n` clusters of `size` times each, one window apart. -/
def clusters (window : K) (size : ℕ) (start : K) : ℕ → List K
  | 0 => []
  | n + 1 => List.replicate size start ++ clusters window size (start + window) n

theorem length_clusters (window : K) (size : ℕ) (start : K) (n : ℕ) :
    (clusters window size start n).length = n * size := by
  induction n generalizing start with
  | zero => simp [clusters]
  | succ n ih =>
      rw [clusters, List.length_append, List.length_replicate, ih, Nat.succ_mul, Nat.add_comm]

end

/-! ## Limits -/

variable {K : Type} [AddCommGroup K] [LinearOrder K]

/-- Any half-open window holds at most so many of the times. -/
def Limited (window : K) (most : ℤ) (times : List K) : Prop :=
  ∀ t, (count t (t + window) times : ℤ) ≤ most

variable {window : K} {most : ℤ} {times : List K}

/-- What `n` windows hold, one after the other. -/
theorem Limited.count_windows (limited : Limited window most times) (low : K) (n : ℕ) :
    (count low (low + n • window) times : ℤ) ≤ n * most := by
  induction n with
  | zero =>
      have empty : count low (low + 0 • window) times = 0 := by
        apply count_none
        intro t _
        rw [zero_nsmul, add_zero]
        exact lt_or_ge t low
      rw [empty]
      simp
  | succ n ih =>
      have split := count_le_split low (low + n • window) (low + (n + 1) • window) times
      have last := limited (low + n • window)
      rw [add_assoc, ← succ_nsmul] at last
      push_cast
      rw [add_mul, one_mul]
      omega

/-- What an interval holds that `n` windows cover. -/
theorem Limited.count_le (limited : Limited window most times) {low high : K} {n : ℕ}
    (covered : high ≤ low + n • window) : (count low high times : ℤ) ≤ n * most := by
  have held := limited.count_windows low n
  have part : count low high times ≤ count low (low + n • window) times :=
    count_mono le_rfl covered
  omega

/-! ## The limit of clusters -/

variable [IsOrderedAddMonoid K]

theorem mem_clusters (positive : 0 ≤ window) {size : ℕ} {start t : K} {n : ℕ}
    (member : t ∈ clusters window size start n) :
    start ≤ t ∧ ∃ k < n, t = start + k • window := by
  induction n generalizing start with
  | zero => simp [clusters] at member
  | succ n ih =>
      rcases List.mem_append.mp member with first | later
      · rw [List.eq_of_mem_replicate first]
        exact ⟨le_rfl, 0, n.succ_pos, by simp⟩
      · obtain ⟨from_next, k, less, place⟩ := ih later
        refine ⟨(le_add_of_nonneg_right positive).trans from_next, k + 1, by omega, ?_⟩
        rw [place, succ_nsmul]
        abel

/-- No window holds more than one cluster. -/
theorem clusters_limited (positive : 0 ≤ window) (size : ℕ) (start : K) (n : ℕ) :
    Limited window size (clusters window size start n) := by
  intro t
  induction n generalizing start with
  | zero => simp [clusters, count]
  | succ n ih =>
      rw [clusters, count_append]
      rcases le_or_gt t start with before | after
      · have rest : count t (t + window) (clusters window size (start + window) n) = 0 := by
          apply count_none
          intro u member
          have later := (mem_clusters positive member).1
          exact .inr ((add_le_add_left before window).trans later)
        have first : count t (t + window) (List.replicate size start) ≤ size :=
          List.countP_le_length.trans (by simp)
        omega
      · have first : count t (t + window) (List.replicate size start) = 0 := by
          apply count_none
          intro u member
          rw [List.eq_of_mem_replicate member]
          exact .inl after
        rw [first, Nat.zero_add]
        exact ih (start + window)

/-- The clusters all lie in an interval that goes beyond the last one. -/
theorem clusters_inside (positive : 0 ≤ window) {size : ℕ} {low high : K} {n : ℕ}
    (room : low + (n - 1) • window < high) :
    ∀ t ∈ clusters window size low n, low ≤ t ∧ t < high := by
  intro t member
  obtain ⟨from_low, k, less, rfl⟩ := mem_clusters positive member
  refine ⟨from_low, lt_of_le_of_lt ?_ room⟩
  have steps : k ≤ n - 1 := by omega
  exact add_le_add_right (nsmul_le_nsmul_left positive steps) low

end Inci.Theory.RateLimit
