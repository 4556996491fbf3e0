/-
# Theory.Checks -- validators as sequences of refusals

A validator reads its argument field by field and refuses at the first field
that breaks the contract, so it is a chain of `refuse` steps in `Except ε`.
The simp set of this module turns the statement "the chain accepts" into the
conjunction of the negated guards, and "the chain answers `b`" into the guards
together with the answer, without unfolding the monad at every use.
-/
import Mathlib.Data.List.Forall2
import Mathlib.Tactic.Basic

namespace Inci.Theory

set_option autoImplicit false

variable {ε α β : Type}

/-- Refuse with `reason` when `broken` holds. -/
def refuse (broken : Prop) [Decidable broken] (reason : ε) : Except ε Unit :=
  if broken then .error reason else .ok ()

/-- Run a computation and answer with `wrapped` for the failures it catches. -/
def recover (attempt : Except ε α) (caught : ε → Bool) (wrapped : ε) : Except ε α :=
  match attempt with
  | .ok a => .ok a
  | .error e => if caught e then .error wrapped else .error e

@[simp] theorem refuse_eq_ok (broken : Prop) [Decidable broken] (reason : ε) (a : Unit) :
    refuse broken reason = .ok a ↔ ¬ broken := by
  unfold refuse; split <;> simp_all

theorem refuse_ok {broken : Prop} [Decidable broken] (reason : ε) (fine : ¬broken) :
    refuse broken reason = .ok () := if_neg fine

theorem refuse_eq_error (broken : Prop) [Decidable broken] (reason e : ε) :
    refuse broken reason = .error e ↔ broken ∧ reason = e := by
  unfold refuse; split <;> simp_all

@[simp] theorem ok_bind (a : α) (next : α → Except ε β) :
    ((Except.ok a : Except ε α) >>= next) = next a := rfl

@[simp] theorem error_bind (e : ε) (next : α → Except ε β) :
    ((Except.error e : Except ε α) >>= next) = .error e := rfl

@[simp] theorem exists_unit {p : Unit → Prop} : (∃ u, p u) ↔ p () :=
  ⟨fun ⟨_, h⟩ => h, fun h => ⟨(), h⟩⟩

/-- A chain answers exactly when its first step does and the rest does after it. -/
@[simp] theorem bind_eq_ok {attempt : Except ε α} {next : α → Except ε β} {b : β} :
    (attempt >>= next) = .ok b ↔ ∃ a, attempt = .ok a ∧ next a = .ok b := by
  cases attempt <;> simp

/-- A chain fails with its first step's failure, or with the rest's. -/
theorem bind_eq_error {attempt : Except ε α} {next : α → Except ε β} {e : ε} :
    (attempt >>= next) = .error e ↔
      attempt = .error e ∨ ∃ a, attempt = .ok a ∧ next a = .error e := by
  cases attempt <;> simp

@[simp] theorem map_eq_ok {attempt : Except ε α} {f : α → β} {b : β} :
    (f <$> attempt) = .ok b ↔ ∃ a, attempt = .ok a ∧ f a = b := by
  cases attempt <;> simp [Functor.map, Except.map]

theorem map_eq_error {attempt : Except ε α} {f : α → β} {e : ε} :
    (f <$> attempt) = .error e ↔ attempt = .error e := by
  cases attempt <;> simp [Functor.map, Except.map]

@[simp] theorem pure_eq_ok (a b : α) : (pure a : Except ε α) = .ok b ↔ a = b := by
  simp [pure, Except.pure]

/-- A branching computation answers when each branch does where it is taken. -/
theorem answers_ite {c : Prop} [Decidable c] {yes no : Except ε α} (taken : c → ∃ a, yes = .ok a)
    (skipped : ¬c → ∃ a, no = .ok a) : ∃ a, (if c then yes else no) = .ok a := by
  split_ifs with here
  · exact taken here
  · exact skipped here

/-- A wrapped attempt answers exactly as the attempt does. -/
@[simp] theorem recover_eq_ok {attempt : Except ε α} {caught : ε → Bool} {wrapped : ε} {a : α} :
    recover attempt caught wrapped = .ok a ↔ attempt = .ok a := by
  cases attempt with
  | ok b => simp [recover]
  | error e => by_cases h : caught e <;> simp [recover, h]

/-- A wrapped attempt fails with the wrapper, or with a failure it does not catch. -/
theorem recover_eq_error {attempt : Except ε α} {caught : ε → Bool} {wrapped e : ε}
    (failed : recover attempt caught wrapped = .error e) :
    e = wrapped ∨ (attempt = .error e ∧ caught e = false) := by
  cases attempt with
  | ok b => simp [recover] at failed
  | error e' =>
      by_cases h : caught e'
      · simp only [recover, h, if_true, Except.error.injEq] at failed
        exact Or.inl failed.symm
      · simp only [recover, h, Bool.false_eq_true, if_false, Except.error.injEq] at failed
        subst failed
        exact Or.inr ⟨rfl, by simpa using h⟩

/-- Check every item of a list in order. -/
def checkAll (check : α → Except ε Unit) : List α → Except ε Unit
  | [] => .ok ()
  | a :: rest => check a >>= fun _ => checkAll check rest

@[simp] theorem checkAll_eq_ok (check : α → Except ε Unit) (items : List α) (u : Unit) :
    checkAll check items = .ok u ↔ ∀ a ∈ items, check a = .ok () := by
  induction items with
  | nil => simp [checkAll]
  | cons a rest ih => simp [checkAll, ih]

/-- Compute an answer for every item of a list, in order. -/
def collect (answer : α → Except ε β) : List α → Except ε (List β)
  | [] => .ok []
  | a :: rest => do
      let b ← answer a
      let bs ← collect answer rest
      pure (b :: bs)

theorem collect_eq_ok {answer : α → Except ε β} {items : List α} {answers : List β} :
    collect answer items = .ok answers ↔
      List.Forall₂ (fun a b => answer a = .ok b) items answers := by
  induction items generalizing answers with
  | nil => simp [collect, eq_comm]
  | cons a rest ih =>
      cases answers with
      | nil => simp [collect]
      | cons b bs => simp [collect, List.forall₂_cons, ih]

/-- Each answer is that of an item. -/
theorem collect_mem {answer : α → Except ε β} {items : List α} {answers : List β}
    (collected : collect answer items = .ok answers) {b : β} (inside : b ∈ answers) :
    ∃ a ∈ items, answer a = .ok b := by
  have each := collect_eq_ok.mp collected
  induction each with
  | nil => exact absurd inside List.not_mem_nil
  | @cons a b' rest bs here later ih =>
      rcases List.mem_cons.mp inside with rfl | below
      · exact ⟨a, List.mem_cons_self, here⟩
      · obtain ⟨item, member, answered⟩ := ih (collect_eq_ok.mpr later) below
        exact ⟨item, List.mem_cons_of_mem a member, answered⟩

/-- Check the value when there is one. -/
def checkSome (check : α → Except ε Unit) : Option α → Except ε Unit
  | none => .ok ()
  | some a => check a

@[simp] theorem checkSome_eq_ok (check : α → Except ε Unit) (value : Option α) (u : Unit) :
    checkSome check value = .ok u ↔ ∀ a, value = some a → check a = .ok () := by
  cases value <;> simp [checkSome]

/-! A first answer wins: `if c then some a else rest` -/

theorem first_eq_none {c : Prop} [Decidable c] {a : α} {rest : Option α} :
    (if c then some a else rest) = none ↔ ¬c ∧ rest = none := by
  split_ifs with here <;> simp [here]

theorem first_ne {c : Prop} [Decidable c] {a b : α} {rest : Option α} (other : a ≠ b)
    (later : rest ≠ some b) : (if c then some a else rest) ≠ some b := by
  split_ifs
  · simpa using other
  · exact later

end Inci.Theory
