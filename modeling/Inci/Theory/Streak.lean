/-
# Theory.Streak -- counting unbroken streaks

`shown k x` says that observation `k` showed `x`.  `Streak shown good k n` says that the last
`n` of the first `k` observations all showed one good value.  A counter that adds one where a
good value repeats the one before it, starts again at one where it does not, and at zero where
the value is not good, is the length of the longest streak (`Longest.next`): an observation that
is different or not good always breaks the streak.
-/
import Mathlib.Order.Nat

namespace Inci.Theory

set_option autoImplicit false

variable {α : Type} {shown : ℕ → α → Prop} {good : α → Prop} {k n : ℕ} {x : α} {prior : Option α}

/-- The last `n` of the first `k` observations show one good value. -/
def Streak (shown : ℕ → α → Prop) (good : α → Prop) (k n : ℕ) : Prop :=
  n ≤ k ∧ (0 < n → ∃ x, good x ∧ ∀ i, k ≤ i + n → i < k → shown i x)

/-- A streak holds every shorter one. -/
theorem Streak.shorter {m : ℕ} (streak : Streak shown good k n) (shorter : m ≤ n) :
    Streak shown good k m := by
  obtain ⟨room, same⟩ := streak
  refine ⟨shorter.trans room, fun some => ?_⟩
  obtain ⟨x, fine, all⟩ := same (by omega)
  exact ⟨x, fine, fun i late early => all i (by omega) early⟩

/-- A streak one observation ago. -/
theorem Streak.before (streak : Streak shown good (k + 1) (n + 1)) : Streak shown good k n := by
  obtain ⟨room, same⟩ := streak
  obtain ⟨x, fine, all⟩ := same (Nat.succ_pos n)
  exact ⟨by omega, fun _ => ⟨x, fine, fun i late early => all i (by omega) (by omega)⟩⟩

/-- A counter after `k` observations, beside the last value shown. -/
structure Longest (shown : ℕ → α → Prop) (good : α → Prop) (k n : ℕ) (prior : Option α) : Prop where
  streak : Streak shown good k n
  whole : ¬Streak shown good k (n + 1)
  first : prior = none → k = 0
  last : ∀ x, prior = some x → 0 < k ∧ shown (k - 1) x

theorem longest_zero : Longest shown good 0 0 none :=
  ⟨⟨le_refl 0, fun none => absurd none (lt_irrefl 0)⟩, fun streak => Nat.not_succ_le_zero 0 streak.1,
    fun _ => rfl, fun _ known => nomatch known⟩

theorem Longest.bound {m : ℕ} (longest : Longest shown good k n prior)
    (streak : Streak shown good k m) : m ≤ n := by
  by_contra longer
  exact longest.whole (streak.shorter (by omega))

/-- One good observation is a streak. -/
theorem streak_one (fine : good x) (seen : shown k x) : Streak shown good (k + 1) 1 := by
  refine ⟨by omega, fun _ => ⟨x, fine, fun i late early => ?_⟩⟩
  obtain rfl : i = k := by omega
  exact seen

variable [DecidableEq α]

/-- The counter after one more observation. -/
def countAfter (fine : Bool) (n : ℕ) (prior : Option α) (x : α) : ℕ :=
  if fine then if prior = some x then n + 1 else 1 else 0

/-- The counter is the longest streak after every observation. -/
theorem Longest.next {fine : Bool} (longest : Longest shown good k n prior)
    (once : ∀ i y z, shown i y → shown i z → y = z) (seen : shown k x) (known : fine = true ↔ good x) :
    Longest shown good (k + 1) (countAfter fine n prior x) (some x) := by
  have first : prior = none → k = 0 := longest.first
  have final : ∀ y, some x = some y → 0 < k + 1 ∧ shown (k + 1 - 1) y := by
    rintro y same
    cases same
    exact ⟨Nat.succ_pos k, seen⟩
  suffices counts : Streak shown good (k + 1) (countAfter fine n prior x) ∧
      ¬Streak shown good (k + 1) (countAfter fine n prior x + 1) from
    ⟨counts.1, counts.2, fun none => absurd none (Option.some_ne_none x), final⟩
  unfold countAfter
  cases fine with
  | false =>
      -- the last observation is part of no streak
      refine ⟨⟨Nat.zero_le _, fun none => absurd none (lt_irrefl 0)⟩, ?_⟩
      rintro ⟨-, same⟩
      obtain ⟨y, fine, all⟩ := same Nat.one_pos
      have here := once k y x (all k (by omega) (by omega)) seen
      rw [here] at fine
      exact nomatch known.mpr fine
  | true =>
      have good' : good x := known.mp rfl
      by_cases same : prior = some x
      · rw [if_pos rfl, if_pos same]
        obtain ⟨some, shown'⟩ := longest.last x same
        refine ⟨⟨Nat.succ_le_succ longest.streak.1, fun _ => ⟨x, good', fun i late early => ?_⟩⟩,
          fun longer => longest.whole longer.before⟩
        by_cases now : i = k
        · rw [now]
          exact seen
        · obtain ⟨y, -, all⟩ := longest.streak.2 (by omega)
          have here := once (k - 1) y x (all (k - 1) (by omega) (by omega)) shown'
          rw [← here]
          exact all i (by omega) (by omega)
      · rw [if_pos rfl, if_neg same]
        refine ⟨⟨by omega, fun _ => ⟨x, good', fun i late early => ?_⟩⟩, fun longer => same ?_⟩
        · obtain rfl : i = k := by omega
          exact seen
        · -- a streak of two would have the value before
          obtain ⟨y, -, all⟩ := longer.2 (by omega)
          have room := longer.1
          obtain rfl := once k y x (all k (by omega) (by omega)) seen
          cases before : prior with
          | none =>
              have start := first before
              omega
          | some z =>
              obtain ⟨-, shown'⟩ := longest.last z before
              rw [once (k - 1) z y shown' (all (k - 1) (by omega) (by omega))]

end Inci.Theory
