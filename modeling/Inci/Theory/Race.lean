/-
# Theory.Race -- the chance to win a race of independent steps

Two sides count steps from a score.  `stop` says which scores decide the race and what
they are worth; elsewhere the next step goes to the first side with chance `p`.  `race` is
the chance of the first side by recursion on the depth of the calls, so `none` says that
the recursion has gone too deep.

A race that comes to an end at every score has a chance (`race_defined`), one that may go
on for ever has none (`race_undefined`).  The chance is coherent: it stays between the
values of the ends, a step won is worth no less than a step lost (`advantage`), it rises
with `p` (`race_mono`) and with the score (`race_step_le`), and the chances of the two
sides add up (`race_complement`).
-/
import Mathlib.Algebra.Order.Ring.Defs
import Mathlib.Tactic.Linarith
import Mathlib.Tactic.Ring

namespace Inci.Theory

set_option autoImplicit false

section

variable {α : Type} [Add α] [Mul α]

/-- The chance to win from `a` steps to `b`. -/
def race (stop : ℤ → ℤ → Option α) (p q : α) : ℕ → ℤ → ℤ → Option α
  | 0, _, _ => none
  | depth + 1, a, b =>
      match stop a b with
      | some v => some v
      | none => do
          let won ← race stop p q depth (a + 1) b
          let lost ← race stop p q depth a (b + 1)
          pure (p * won + q * lost)

variable {stop : ℤ → ℤ → Option α} {p q : α} {depth : ℕ} {a b : ℤ}

theorem race_stopped {v : α} (stopped : stop a b = some v) :
    race stop p q (depth + 1) a b = some v := by
  rw [race, stopped]

theorem race_open (running : stop a b = none) {v : α} :
    race stop p q (depth + 1) a b = some v ↔
      ∃ won lost, race stop p q depth (a + 1) b = some won ∧
        race stop p q depth a (b + 1) = some lost ∧ p * won + q * lost = v := by
  simp [race, running, Option.bind_eq_some_iff]

/-- A deeper recursion finds the same chance. -/
theorem race_deeper {deep : ℕ} (deeper : depth ≤ deep) {v : α}
    (found : race stop p q depth a b = some v) : race stop p q deep a b = some v := by
  induction depth generalizing deep a b v with
  | zero => exact nomatch found
  | succ depth ih =>
      obtain ⟨deep, rfl⟩ : ∃ d, deep = d + 1 := ⟨deep - 1, by omega⟩
      have further : depth ≤ deep := by omega
      cases stopped : stop a b with
      | some w =>
          rw [race_stopped stopped] at found ⊢
          exact found
      | none =>
          obtain ⟨won, lost, first, second, total⟩ := (race_open stopped).mp found
          exact (race_open stopped).mpr ⟨won, lost, ih further first, ih further second, total⟩

theorem race_unique {deep : ℕ} {v w : α} (found : race stop p q depth a b = some v)
    (found' : race stop p q deep a b = some w) : v = w := by
  have one := race_deeper (Nat.le_max_left depth deep) found
  have two := race_deeper (Nat.le_max_right depth deep) found'
  exact Option.some.inj (one.symm.trans two)

/-- A race that is decided before the steps add up to `total`. -/
theorem race_defined {R : ℤ → ℤ → Prop} {total : ℤ}
    (ends : ∀ a b, R a b → stop a b = none → a + b < total ∧ R (a + 1) b ∧ R a (b + 1))
    (start : R a b) (enough : (total - (a + b)).toNat < depth) :
    ∃ v, race stop p q depth a b = some v := by
  induction depth generalizing a b with
  | zero => omega
  | succ depth ih =>
      cases stopped : stop a b with
      | some v => exact ⟨v, race_stopped stopped⟩
      | none =>
          obtain ⟨early, left, right⟩ := ends a b start stopped
          obtain ⟨won, first⟩ := ih left (by omega)
          obtain ⟨lost, second⟩ := ih right (by omega)
          exact ⟨_, (race_open stopped).mpr ⟨won, lost, first, second, rfl⟩⟩

/-- A race that some steps never decide. -/
theorem race_undefined {R : ℤ → ℤ → Prop}
    (open' : ∀ a b, R a b → stop a b = none ∧ (R (a + 1) b ∨ R a (b + 1))) (start : R a b) :
    race stop p q depth a b = none := by
  induction depth generalizing a b with
  | zero => rfl
  | succ depth ih =>
      obtain ⟨running, onward⟩ := open' a b start
      rw [race, running]
      rcases onward with first | second
      · rw [ih first]
        rfl
      · rw [ih second]
        cases race stop p q depth (a + 1) b <;> rfl

end

/-! ## Weighing a step -/

section Mixing

variable {α : Type} [CommRing α] [LinearOrder α] [IsStrictOrderedRing α]
variable {p p' x x' y y' : α}

/-- A better chance of the better outcome, and better outcomes. -/
theorem mix_le_mix (low : 0 ≤ p) (more : p ≤ p') (high : p' ≤ 1) (won : x ≤ x') (lost : y ≤ y')
    (better : y' ≤ x') : p * x + (1 - p) * y ≤ p' * x' + (1 - p') * y' := by
  calc p * x + (1 - p) * y
      ≤ p * x' + (1 - p) * y' := add_le_add (mul_le_mul_of_nonneg_left won low)
        (mul_le_mul_of_nonneg_left lost (by linarith))
    _ ≤ p' * x' + (1 - p') * y' := by
        have gain : 0 ≤ (p' - p) * (x' - y') := mul_nonneg (by linarith) (by linarith)
        linarith [gain]

theorem le_mix (low : 0 ≤ p) (won : y ≤ x) : y ≤ p * x + (1 - p) * y := by
  have gain : 0 ≤ p * (x - y) := mul_nonneg low (by linarith)
  linarith

theorem mix_le (high : p ≤ 1) (won : y ≤ x) : p * x + (1 - p) * y ≤ x := by
  have gain : 0 ≤ (1 - p) * (x - y) := mul_nonneg (by linarith) (by linarith)
  linarith

end Mixing

/-! ## Coherence -/

section Coherence

variable {α : Type} [CommRing α] [LinearOrder α] [IsStrictOrderedRing α]
variable {stop stop' : ℤ → ℤ → Option α} {p p' v v' : α} {depth : ℕ} {a b : ℤ}

/-- Every end is worth a chance. -/
def Valued (stop : ℤ → ℤ → Option α) : Prop :=
  ∀ a b v, stop a b = some v → 0 ≤ v ∧ v ≤ 1

/-- Of the two scores after a running one, one is the end for its side where the other is
an end. -/
def Decisive (stop : ℤ → ℤ → Option α) : Prop :=
  ∀ a b, stop a b = none →
    (∀ v, stop (a + 1) b = some v → v = 1 ∨ stop a (b + 1) = some 0) ∧
    ∀ v, stop a (b + 1) = some v → v = 0 ∨ stop (a + 1) b = some 1

/-- An end that is not lost stays an end of no less worth after a step more. -/
def Rising (stop : ℤ → ℤ → Option α) : Prop :=
  ∀ a b v, stop a b = some v → v = 0 ∨ ∃ w, stop (a + 1) b = some w ∧ v ≤ w

theorem race_valued (valued : Valued stop) (low : 0 ≤ p) (high : p ≤ 1)
    (found : race stop p (1 - p) depth a b = some v) : 0 ≤ v ∧ v ≤ 1 := by
  induction depth generalizing a b v with
  | zero => exact nomatch found
  | succ depth ih =>
      cases stopped : stop a b with
      | some w =>
          rw [race_stopped stopped] at found
          obtain rfl := Option.some.inj found
          exact valued a b w stopped
      | none =>
          obtain ⟨won, lost, first, second, rfl⟩ := (race_open stopped).mp found
          obtain ⟨won_nonneg, won_le⟩ := ih first
          obtain ⟨lost_nonneg, lost_le⟩ := ih second
          constructor
          · have weighed := mul_nonneg low won_nonneg
            have weighed' := mul_nonneg (sub_nonneg.mpr high) lost_nonneg
            linarith
          · have weighed := mul_le_mul_of_nonneg_left won_le low
            have weighed' := mul_le_mul_of_nonneg_left lost_le (sub_nonneg.mpr high)
            linarith

/-- A step won is worth no less than a step lost. -/
theorem advantage (valued : Valued stop) (decisive : Decisive stop) (low : 0 ≤ p) (high : p ≤ 1)
    {x y : α} (running : stop a b = none) (won : race stop p (1 - p) depth (a + 1) b = some x)
    (lost : race stop p (1 - p) depth a (b + 1) = some y) : y ≤ x := by
  induction depth generalizing a b x y with
  | zero => exact nomatch won
  | succ depth ih =>
      have bounds := race_valued valued low high won
      have bounds' := race_valued valued low high lost
      obtain ⟨first, second⟩ := decisive a b running
      cases ahead : stop (a + 1) b with
      | some v =>
          rw [race_stopped ahead] at won
          obtain rfl := Option.some.inj won
          rcases first v ahead with rfl | behind
          · exact bounds'.2
          · rw [race_stopped behind] at lost
            obtain rfl := Option.some.inj lost
            exact bounds.1
      | none =>
          cases behind : stop a (b + 1) with
          | some w =>
              rw [race_stopped behind] at lost
              obtain rfl := Option.some.inj lost
              rcases second w behind with rfl | taken
              · exact bounds.1
              · exact nomatch ahead.symm.trans taken
          | none =>
              -- both races pass through the score after a step each
              obtain ⟨x', x'', up, level, rfl⟩ := (race_open ahead).mp won
              obtain ⟨y', y'', level', down, rfl⟩ := (race_open behind).mp lost
              obtain rfl : x'' = y' := race_unique level level'
              calc p * x'' + (1 - p) * y'' ≤ x'' := mix_le high (ih behind level' down)
                _ ≤ p * x' + (1 - p) * x'' := le_mix low (ih ahead up level)

/-- The chance rises with the chance of a step, over ends of rising worth. -/
theorem race_mono (shape : ∀ a b, stop a b = none ↔ stop' a b = none)
    (worth : ∀ a b v v', stop a b = some v → stop' a b = some v' → v ≤ v')
    (valued : Valued stop') (decisive : Decisive stop') (low : 0 ≤ p) (more : p ≤ p')
    (high : p' ≤ 1) (found : race stop p (1 - p) depth a b = some v)
    (found' : race stop' p' (1 - p') depth a b = some v') : v ≤ v' := by
  induction depth generalizing a b v v' with
  | zero => exact nomatch found
  | succ depth ih =>
      cases stopped : stop a b with
      | some w =>
          cases stopped' : stop' a b with
          | none => exact nomatch stopped.symm.trans ((shape a b).mpr stopped')
          | some w' =>
              rw [race_stopped stopped] at found
              rw [race_stopped stopped'] at found'
              obtain rfl := Option.some.inj found
              obtain rfl := Option.some.inj found'
              exact worth a b w w' stopped stopped'
      | none =>
          have stopped' := (shape a b).mp stopped
          obtain ⟨x, y, won, lost, rfl⟩ := (race_open stopped).mp found
          obtain ⟨x', y', won', lost', rfl⟩ := (race_open stopped').mp found'
          exact mix_le_mix low more high (ih won won') (ih lost lost')
            (advantage valued decisive (low.trans more) high stopped' won' lost')

/-- A step more is worth no less. -/
theorem race_step_le (valued : Valued stop) (decisive : Decisive stop) (rising : Rising stop)
    (low : 0 ≤ p) (high : p ≤ 1) {deep : ℕ} (found : race stop p (1 - p) depth a b = some v)
    (found' : race stop p (1 - p) deep (a + 1) b = some v') : v ≤ v' := by
  cases depth with
  | zero => exact nomatch found
  | succ depth =>
      cases stopped : stop a b with
      | some w =>
          rw [race_stopped stopped] at found
          obtain rfl := Option.some.inj found
          rcases rising a b w stopped with rfl | ⟨w', after, more⟩
          · exact (race_valued valued low high found').1
          · have final : race stop p (1 - p) 1 (a + 1) b = some w' := race_stopped after
            rw [race_unique found' final]
            exact more
      | none =>
          obtain ⟨won, lost, first, second, rfl⟩ := (race_open stopped).mp found
          rw [race_unique found' first]
          exact mix_le high (advantage valued decisive low high stopped first second)

omit [LinearOrder α] [IsStrictOrderedRing α] in
/-- The other side's chance is the rest, where the ends the race can come to are opposed. -/
theorem race_complement {R : ℤ → ℤ → Prop}
    (closed : ∀ a b, R a b → stop a b = none → R (a + 1) b ∧ R a (b + 1))
    (opposed : ∀ a b, R a b → stop' b a = (stop a b).map (1 - ·)) (start : R a b)
    (found : race stop p (1 - p) depth a b = some v) :
    race stop' (1 - p) (1 - (1 - p)) depth b a = some (1 - v) := by
  induction depth generalizing a b v with
  | zero => exact nomatch found
  | succ depth ih =>
      have mirrored := opposed a b start
      cases stopped : stop a b with
      | some w =>
          rw [stopped] at mirrored
          rw [race_stopped stopped] at found
          obtain rfl := Option.some.inj found
          exact race_stopped mirrored
      | none =>
          rw [stopped] at mirrored
          obtain ⟨won, lost, first, second, rfl⟩ := (race_open stopped).mp found
          obtain ⟨left, right⟩ := closed a b start stopped
          refine (race_open mirrored).mpr ⟨1 - lost, 1 - won, ih right second, ih left first, ?_⟩
          ring

omit [LinearOrder α] [IsStrictOrderedRing α] in
/-- Where no step is won the race is worth its end after steps lost. -/
theorem race_lost {n : ℕ} (running : ∀ k < n, stop a (b + k) = none) {w : α}
    (stopped : stop a (b + n) = some w) (found : race stop 0 (1 - 0) depth a b = some v) :
    v = w := by
  induction n generalizing b depth v with
  | zero =>
      cases depth with
      | zero => exact nomatch found
      | succ depth =>
          have ended : stop a b = some w := by simpa using stopped
          rw [race_stopped ended] at found
          exact (Option.some.inj found).symm
  | succ n ih =>
      cases depth with
      | zero => exact nomatch found
      | succ depth =>
          have open' : stop a b = none := by simpa using running 0 (Nat.succ_pos n)
          obtain ⟨won, lost, -, second, rfl⟩ := (race_open open').mp found
          have same : lost = w := by
            refine ih (b := b + 1) (fun k less => ?_) ?_ second
            · have next := running (k + 1) (Nat.succ_lt_succ less)
              rw [Nat.cast_succ, add_comm (k : ℤ) 1, ← add_assoc] at next
              exact next
            · rw [Nat.cast_succ, add_comm (n : ℤ) 1, ← add_assoc] at stopped
              exact stopped
          rw [same]
          ring

end Coherence

/-- Values that exist all the way and never fall from one integer to the next. -/
theorem rising_chain {α : Type} [Preorder α] {R : ℤ → α → Prop} {low high : ℤ}
    (found : ∀ k, low ≤ k → k ≤ high → ∃ v, R k v)
    (step : ∀ k v w, low ≤ k → k < high → R k v → R (k + 1) w → v ≤ w)
    (same : ∀ k v w, R k v → R k w → v ≤ w) (order : low ≤ high) {v w : α}
    (first : R low v) (last : R high w) : v ≤ w := by
  have reached : ∀ n : ℕ, low + n ≤ high → ∀ u, R (low + n) u → v ≤ u := by
    intro n
    induction n with
    | zero =>
        intro _ u here
        rw [Nat.cast_zero, add_zero] at here
        exact same low v u first here
    | succ n ih =>
        intro within u here
        rw [Nat.cast_succ, ← add_assoc] at here within
        obtain ⟨t, between⟩ := found (low + n) (by omega) (by omega)
        exact (ih (by omega) t between).trans
          (step (low + n) t u (by omega) (by omega) between here)
  have steps : low + ((high - low).toNat : ℕ) = high := by omega
  exact reached (high - low).toNat (le_of_eq steps) w (by rw [steps]; exact last)

end Inci.Theory
