/-
# Theory.Bisection -- halving an interval by a test

`bisect` halves an interval, keeping the half that the test of the middle points to.  The test
may fail.  The ends it keeps have passed or failed the test (`bisect_bracket`), the width is
halved at every turn (`bisect_width`), and a test that holds at more points leads no further
down (`bisect_mono`): up to the first middle where two tests part the intervals are the same,
and from there on they lie on its two sides.  No monotone test is asked for.
-/
import Inci.Theory.Checks
import Mathlib.Algebra.Order.Field.Basic
import Mathlib.Tactic.Linarith
import Mathlib.Tactic.Ring

namespace Inci.Theory

set_option autoImplicit false

section

variable {α ε : Type} [Field α]

/-- The middle of an interval. -/
def middle (ends : α × α) : α := (ends.1 + ends.2) / 2

/-- The interval after `n` halvings; `below` says whether a point lies below the one sought. -/
def bisect (below : α → Except ε Bool) : ℕ → α × α → Except ε (α × α)
  | 0, ends => .ok ends
  | n + 1, ends => do
      match ← below (middle ends) with
      | true => bisect below n (middle ends, ends.2)
      | false => bisect below n (ends.1, middle ends)

variable {below below' : α → Except ε Bool} {n : ℕ} {ends ends' found found' : α × α}

theorem bisect_succ : bisect below (n + 1) ends = .ok found ↔
    (below (middle ends) = .ok true ∧ bisect below n (middle ends, ends.2) = .ok found) ∨
    (below (middle ends) = .ok false ∧ bisect below n (ends.1, middle ends) = .ok found) := by
  rw [bisect]
  cases answer : below (middle ends) with
  | error e => simp [bind, Except.bind]
  | ok b => cases b <;> simp [bind, Except.bind]

/-- A test that answers the same where it answers finds the same interval. -/
theorem bisect_agree (agree : ∀ x b, below x = .ok b → below' x = .ok b)
    (halved : bisect below n ends = .ok found) : bisect below' n ends = .ok found := by
  induction n generalizing ends with
  | zero => exact halved
  | succ n ih =>
      rcases bisect_succ.mp halved with ⟨right, rest⟩ | ⟨left, rest⟩
      · exact bisect_succ.mpr (Or.inl ⟨agree _ _ right, ih rest⟩)
      · exact bisect_succ.mpr (Or.inr ⟨agree _ _ left, ih rest⟩)

/-- What holds of the first ends and of every point the test sends them to holds of the last. -/
theorem bisect_bracket {Low High : α → Prop} (passed : ∀ x, below x = .ok true → Low x)
    (failed : ∀ x, below x = .ok false → High x) (halved : bisect below n ends = .ok found)
    (low : Low ends.1) (high : High ends.2) : Low found.1 ∧ High found.2 := by
  induction n generalizing ends with
  | zero =>
      obtain rfl := Except.ok.inj halved
      exact ⟨low, high⟩
  | succ n ih =>
      rcases bisect_succ.mp halved with ⟨right, rest⟩ | ⟨left, rest⟩
      · have raised : Low (middle ends, ends.2).1 := passed _ right
        exact ih rest raised high
      · have lowered : High (ends.1, middle ends).2 := failed _ left
        exact ih rest low lowered

theorem bisect_width [CharZero α] (halved : bisect below n ends = .ok found) :
    found.2 - found.1 = (ends.2 - ends.1) / 2 ^ n := by
  induction n generalizing ends with
  | zero =>
      obtain rfl := Except.ok.inj halved
      rw [pow_zero, div_one]
  | succ n ih =>
      have half : ends.2 - middle ends = (ends.2 - ends.1) / 2 ∧
          middle ends - ends.1 = (ends.2 - ends.1) / 2 := by
        unfold middle
        constructor <;> ring
      rw [pow_succ', ← div_div]
      rcases bisect_succ.mp halved with ⟨-, rest⟩ | ⟨-, rest⟩
      · rw [ih rest, ← half.1]
      · rw [ih rest, ← half.2]

end

section Order

variable {α ε : Type} [Field α] [LinearOrder α] [IsStrictOrderedRing α]
variable {below below' : α → Except ε Bool} {n : ℕ} {ends found found' : α × α}

theorem middle_between (order : ends.1 ≤ ends.2) : ends.1 ≤ middle ends ∧ middle ends ≤ ends.2 := by
  unfold middle
  constructor <;> linarith

/-- The intervals lie in each other. -/
theorem bisect_within (order : ends.1 ≤ ends.2) (halved : bisect below n ends = .ok found) :
    ends.1 ≤ found.1 ∧ found.1 ≤ found.2 ∧ found.2 ≤ ends.2 := by
  induction n generalizing ends with
  | zero =>
      obtain rfl := Except.ok.inj halved
      exact ⟨le_refl _, order, le_refl _⟩
  | succ n ih =>
      obtain ⟨left, right⟩ := middle_between order
      rcases bisect_succ.mp halved with ⟨-, rest⟩ | ⟨-, rest⟩
      · obtain ⟨first, ordered, last⟩ := ih right rest
        exact ⟨left.trans first, ordered, last⟩
      · obtain ⟨first, ordered, last⟩ := ih left rest
        exact ⟨first, ordered, last.trans right⟩

/-- A test that answers everywhere in the interval finds one. -/
theorem bisect_total (answers : ∀ x, ends.1 ≤ x → x ≤ ends.2 → ∃ b, below x = .ok b)
    (order : ends.1 ≤ ends.2) : ∃ found, bisect below n ends = .ok found := by
  induction n generalizing ends with
  | zero => exact ⟨ends, rfl⟩
  | succ n ih =>
      obtain ⟨left, right⟩ := middle_between order
      obtain ⟨b, answer⟩ := answers (middle ends) left right
      cases b with
      | true =>
          have upper : ∀ x, (middle ends, ends.2).1 ≤ x → x ≤ ends.2 → ∃ b, below x = .ok b :=
            fun x least most => answers x (left.trans least) most
          obtain ⟨found, rest⟩ := ih upper right
          exact ⟨found, bisect_succ.mpr (Or.inl ⟨answer, rest⟩)⟩
      | false =>
          have lower : ∀ x, ends.1 ≤ x → x ≤ (ends.1, middle ends).2 → ∃ b, below x = .ok b :=
            fun x least most => answers x least (most.trans right)
          obtain ⟨found, rest⟩ := @ih (ends.1, middle ends) lower left
          exact ⟨found, bisect_succ.mpr (Or.inr ⟨answer, rest⟩)⟩

/-- A test that holds at more points ends in the same interval or above it. -/
theorem bisect_mono (more : ∀ x, below x = .ok true → below' x ≠ .ok false)
    (order : ends.1 ≤ ends.2) (halved : bisect below n ends = .ok found)
    (halved' : bisect below' n ends = .ok found') : found = found' ∨ found.2 ≤ found'.1 := by
  induction n generalizing ends with
  | zero => exact Or.inl (Except.ok.inj (halved.symm.trans halved'))
  | succ n ih =>
      obtain ⟨left, right⟩ := middle_between order
      rcases bisect_succ.mp halved with ⟨up, rest⟩ | ⟨down, rest⟩ <;>
        rcases bisect_succ.mp halved' with ⟨up', rest'⟩ | ⟨down', rest'⟩
      · exact ih right rest rest'
      · exact absurd down' (more _ up)
      · right
        exact (bisect_within left rest).2.2.trans (bisect_within right rest').1
      · exact ih left rest rest'

theorem middle_le_middle (order : found.1 ≤ found.2) (order' : found'.1 ≤ found'.2)
    (apart : found = found' ∨ found.2 ≤ found'.1) : middle found ≤ middle found' := by
  rcases apart with rfl | apart
  · exact le_refl _
  · exact (middle_between order).2.trans (apart.trans (middle_between order').1)

end Order

end Inci.Theory
