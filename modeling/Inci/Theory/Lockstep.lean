/-
# Theory.Lockstep -- two computations that fail together

Two programs keep in lockstep when they answer with related results or both
fail, with whatever errors.  The relation goes through the operators that build
programs: a refusal under equivalent conditions, a branch, a sequence.
-/
import Inci.Theory.Checks

namespace Inci.Theory

set_option autoImplicit false

variable {ε η α β γ δ : Type}

/-- Both answer, and the results are related, or both fail. -/
def Lockstep (R : α → β → Prop) : Except ε α → Except η β → Prop
  | .ok a, .ok b => R a b
  | .error _, .error _ => True
  | _, _ => False

namespace Lockstep

variable {R : α → β → Prop} {S : γ → δ → Prop}

theorem pure {a : α} {b : β} (related : R a b) :
    Lockstep R (Pure.pure a : Except ε α) (Pure.pure b : Except η β) := related

theorem error (e : ε) (f : η) : Lockstep R (.error e : Except ε α) (.error f : Except η β) :=
  trivial

/-- The rest runs on related answers. -/
theorem bind {x : Except ε α} {y : Except η β} {f : α → Except ε γ} {g : β → Except η δ}
    (first : Lockstep R x y) (rest : ∀ a b, R a b → Lockstep S (f a) (g b)) :
    Lockstep S (x >>= f) (y >>= g) := by
  cases x with
  | error e =>
      cases y with
      | error e' => trivial
      | ok b => exact first.elim
  | ok a =>
      cases y with
      | error e' => exact first.elim
      | ok b => exact rest a b first

theorem map {x : Except ε α} {y : Except η β} {f : α → γ} {g : β → δ}
    (first : Lockstep R x y) (rest : ∀ a b, R a b → S (f a) (g b)) :
    Lockstep S (f <$> x) (g <$> y) := by
  cases x with
  | error e =>
      cases y with
      | error e' => trivial
      | ok b => exact first.elim
  | ok a =>
      cases y with
      | error e' => exact first.elim
      | ok b => exact rest a b first

theorem ite {c d : Prop} [Decidable c] [Decidable d] {x x' : Except ε α} {y y' : Except η β}
    (both : c ↔ d) (yes : c → Lockstep R x y) (no : ¬c → Lockstep R x' y') :
    Lockstep R (if c then x else x') (if d then y else y') := by
  by_cases here : c
  · rw [if_pos here, if_pos (both.mp here)]
    exact yes here
  · rw [if_neg here, if_neg fun there => here (both.mpr there)]
    exact no here

theorem refuse {c d : Prop} [Decidable c] [Decidable d] {e : ε} {f : η} (both : c ↔ d) :
    Lockstep (fun _ _ => ¬c) (refuse c e) (refuse d f) := by
  unfold Theory.refuse
  by_cases here : c
  · rw [if_pos here, if_pos (both.mp here)]
    trivial
  · rw [if_neg here, if_neg fun there => here (both.mpr there)]
    exact here

/-- Two checks keep in lockstep when one accepts exactly where the other does. -/
theorem check {x : Except ε Unit} {y : Except η Unit} (both : x = .ok () ↔ y = .ok ()) :
    Lockstep (fun _ _ => x = .ok ()) x y := by
  cases x with
  | error e =>
      cases y with
      | error f => trivial
      | ok b => exact (nomatch both.mpr rfl)
  | ok a =>
      cases y with
      | error f => exact (nomatch both.mp rfl)
      | ok b => exact rfl

theorem failing {x : Except ε α} {y : Except η β} (left : ∀ a, x ≠ .ok a)
    (right : ∀ b, y ≠ .ok b) : Lockstep R x y := by
  cases x with
  | ok a => exact absurd rfl (left a)
  | error e =>
      cases y with
      | ok b => exact absurd rfl (right b)
      | error f => trivial

theorem imp {R' : α → β → Prop} {x : Except ε α} {y : Except η β} (first : Lockstep R x y)
    (weaker : ∀ a b, R a b → R' a b) : Lockstep R' x y := by
  cases x with
  | error e =>
      cases y with
      | error e' => trivial
      | ok b => exact first.elim
  | ok a =>
      cases y with
      | error e' => exact first.elim
      | ok b => exact weaker a b first

/-- What one answers, the other answers too. -/
theorem answer {x : Except ε α} {y : Except η β} {a : α} (both : Lockstep R x y) (ok : x = .ok a) :
    ∃ b, y = .ok b ∧ R a b := by
  subst ok
  cases y with
  | error e => exact both.elim
  | ok b => exact ⟨b, rfl, both⟩

end Lockstep

end Inci.Theory
