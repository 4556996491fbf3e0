/-
# Theory.Failures -- which failures a chain of checks can end in

`FailsOnly p attempt` says that every failure of `attempt` satisfies `p`.  The
rules follow the shape of a program: a chain fails only as its steps do, where a
later step may use what the earlier ones answered.
-/
import Inci.Theory.Checks

namespace Inci.Theory

set_option autoImplicit false

variable {ε α β : Type} {p : ε → Prop}

structure FailsOnly (p : ε → Prop) (attempt : Except ε α) : Prop where
  fails : ∀ e, attempt = .error e → p e

@[simp] theorem failsOnly_ok (a : α) : FailsOnly p (.ok a : Except ε α) := by
  constructor
  intro e failed
  cases failed

@[simp] theorem failsOnly_pure (a : α) : FailsOnly p (pure a : Except ε α) := failsOnly_ok a

@[simp] theorem failsOnly_error {e : ε} : FailsOnly p (.error e : Except ε α) ↔ p e := by
  constructor
  · intro only
    exact only.fails e rfl
  · intro holds
    constructor
    intro e' failed
    cases failed
    exact holds

theorem FailsOnly.bind {attempt : Except ε α} {next : α → Except ε β} (first : FailsOnly p attempt)
    (rest : ∀ a, attempt = .ok a → FailsOnly p (next a)) : FailsOnly p (attempt >>= next) := by
  constructor
  intro e failed
  rcases bind_eq_error.mp failed with here | ⟨a, answered, later⟩
  · exact first.fails e here
  · exact (rest a answered).fails e later

theorem FailsOnly.map {attempt : Except ε α} {f : α → β} (only : FailsOnly p attempt) :
    FailsOnly p (f <$> attempt) :=
  ⟨fun e failed => only.fails e (map_eq_error.mp failed)⟩

theorem FailsOnly.ite {c : Prop} [Decidable c] {yes no : Except ε α}
    (onYes : c → FailsOnly p yes) (onNo : ¬c → FailsOnly p no) :
    FailsOnly p (if c then yes else no) := by
  split_ifs with here
  · exact onYes here
  · exact onNo here

@[simp] theorem failsOnly_refuse {broken : Prop} [Decidable broken] {reason : ε}
    (holds : p reason) : FailsOnly p (refuse broken reason) := by
  constructor
  intro e failed
  obtain ⟨-, rfl⟩ := (refuse_eq_error broken reason e).mp failed
  exact holds

theorem FailsOnly.checkAll {check : α → Except ε Unit} {items : List α}
    (each : ∀ a ∈ items, FailsOnly p (check a)) : FailsOnly p (Theory.checkAll check items) := by
  induction items with
  | nil => exact failsOnly_ok ()
  | cons a rest ih =>
      refine (each a (List.mem_cons_self ..)).bind fun _ _ => ih fun b member => ?_
      exact each b (List.mem_cons_of_mem _ member)

theorem FailsOnly.checkSome {check : α → Except ε Unit} {value : Option α}
    (each : ∀ a, value = some a → FailsOnly p (check a)) :
    FailsOnly p (Theory.checkSome check value) := by
  cases value with
  | none => exact failsOnly_ok ()
  | some a => exact each a rfl

/-- An attempt whose failures are all caught fails only with the wrapper. -/
theorem recover_caught {attempt : Except ε α} {caught : ε → Bool} {wrapped : ε}
    (only : FailsOnly (fun e => caught e = true) attempt) :
    FailsOnly (· = wrapped) (recover attempt caught wrapped) := by
  constructor
  intro e failed
  rcases recover_eq_error failed with wrapping | ⟨escaped, uncaught⟩
  · exact wrapping
  · rw [only.fails e escaped] at uncaught
    cases uncaught

end Inci.Theory
