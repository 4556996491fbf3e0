/-
# Theory.Effects -- programs that change a state and may raise

An `Effect` runs in a state and answers or raises; either way the state is the
one it stopped in, so a failure half way leaves what was done before it.  A
`Triple` bounds both endings: from a state with the precondition, an answer
satisfies the postcondition and a failure the exceptional one.

The rules follow the ways an effect is built.  `Keeps` is the triple of a
property that holds throughout; with a relation to the first state as the
property it bounds what the whole effect can change.
-/
import Mathlib.Tactic.Basic

namespace Inci.Theory

set_option autoImplicit false

abbrev Effect (σ ε : Type) := ExceptT ε (StateM σ)

variable {σ ε α β : Type}

namespace Effect

/-- Run from a state: the answer or the failure, and the state left behind. -/
def runFrom (m : Effect σ ε α) (s : σ) : Except ε α × σ := m s

theorem runFrom_pure (a : α) (s : σ) : runFrom (pure a : Effect σ ε α) s = (.ok a, s) := rfl

theorem runFrom_get (s : σ) : runFrom (get : Effect σ ε σ) s = (.ok s, s) := rfl

theorem runFrom_modify (f : σ → σ) (s : σ) :
    runFrom (modify f : Effect σ ε PUnit) s = (.ok ⟨⟩, f s) := rfl

theorem runFrom_ofExcept (attempt : Except ε α) (s : σ) :
    runFrom (ofExcept attempt : Effect σ ε α) s = (attempt, s) := by
  cases attempt <;> rfl

theorem runFrom_bind (m : Effect σ ε α) (next : α → Effect σ ε β) (s : σ) :
    runFrom (m >>= next) s = match runFrom m s with
      | (.ok a, t) => runFrom (next a) t
      | (.error e, t) => (.error e, t) := by
  simp only [runFrom, bind, ExceptT.bind, ExceptT.mk, StateT.bind]
  cases m s with
  | mk result t => cases result <;> rfl

end Effect

open Effect

/-- An effect on a part of a larger state. -/
def Effect.within {τ : Type} (part : τ → σ) (place : τ → σ → τ) (m : Effect σ ε α) :
    Effect τ ε α :=
  fun t => ((runFrom m (part t)).1, place t (runFrom m (part t)).2)

/-- `except`: what follows a failure starts from the state the failure stopped in. -/
def Effect.handle {ε' : Type} (m : Effect σ ε α) (handler : ε → Effect σ ε' α) : Effect σ ε' α :=
  fun s => match runFrom m s with
    | (.ok a, t) => (.ok a, t)
    | (.error e, t) => runFrom (handler e) t

theorem Effect.runFrom_handle {ε' : Type} {m : Effect σ ε α} {handler : ε → Effect σ ε' α} {a : α}
    {s t : σ} (answered : runFrom m s = (.ok a, t)) : runFrom (handle m handler) s = (.ok a, t) := by
  show handle m handler s = _
  rw [handle]
  simp only [answered]

/-! ## Triples -/

/-- From `P`, an answer ends in `Q` and a failure in `R`. -/
def Triple (P : σ → Prop) (m : Effect σ ε α) (Q : α → σ → Prop) (R : σ → Prop) : Prop :=
  ∀ s, P s → match runFrom m s with
    | (.ok a, t) => Q a t
    | (.error _, t) => R t

section Rules

variable {P P' : σ → Prop} {Q Q' : α → σ → Prop} {R R' : σ → Prop} {m : Effect σ ε α}

theorem Triple.answer (a : α) : Triple (Q a) (pure a : Effect σ ε α) Q R := fun _ holds => holds

theorem Triple.raise (e : ε) : Triple R (throw e : Effect σ ε α) Q R :=
  fun _ holds => holds

theorem Triple.bind {next : α → Effect σ ε β} {S : α → σ → Prop} {Q : β → σ → Prop}
    (first : Triple P m S R) (rest : ∀ a, Triple (S a) (next a) Q R) :
    Triple P (m >>= next) Q R := by
  intro s holds
  have middle := first s holds
  rw [runFrom_bind]
  revert middle
  cases runFrom m s with
  | mk result t =>
      cases result with
      | ok a => exact fun reached => rest a t reached
      | error e => exact fun failed => failed

theorem Triple.weaken (triple : Triple P m Q R) (pre : ∀ s, P' s → P s)
    (post : ∀ a s, Q a s → Q' a s) (raised : ∀ s, R s → R' s) : Triple P' m Q' R' := by
  intro s holds
  have run := triple s (pre s holds)
  revert run
  cases runFrom m s with
  | mk result t =>
      cases result with
      | ok a => exact post a t
      | error e => exact raised t

/-- A triple may be proved for each first state on its own. -/
theorem Triple.pointwise (each : ∀ s₀, P s₀ → Triple (fun s => s = s₀) m Q R) : Triple P m Q R :=
  fun s holds => each s holds s rfl

/-- What a precondition says beside the state is given. -/
theorem Triple.given {fact : Prop} (triple : fact → Triple P m Q R) :
    Triple (fun s => P s ∧ fact) m Q R :=
  fun s holds => triple holds.2 s holds.1

/-- A triple for each value, from a state that has one of them. -/
theorem Triple.some {ι : Type} {P : ι → σ → Prop} (each : ∀ i, Triple (P i) m Q R) :
    Triple (fun s => ∃ i, P i s) m Q R := by
  rintro s ⟨i, holds⟩
  exact each i s holds

/-- After the state is read it is known. -/
theorem Triple.get_bind {next : σ → Effect σ ε α}
    (rest : ∀ s₀, P s₀ → Triple (fun s => s = s₀) (next s₀) Q R) : Triple P (get >>= next) Q R :=
  fun s holds => by
    rw [runFrom_bind, runFrom_get]
    exact rest s holds s rfl

theorem Triple.both (one : Triple P m Q R) (other : Triple P' m Q' R') :
    Triple (fun s => P s ∧ P' s) m (fun a s => Q a s ∧ Q' a s) (fun s => R s ∧ R' s) := by
  rintro s ⟨holds, holds'⟩
  have first := one s holds
  have second := other s holds'
  revert first second
  cases runFrom m s with
  | mk result t => cases result <;> exact fun first second => ⟨first, second⟩

/-- Nothing is asked of either ending. -/
theorem Triple.total : Triple P m (fun _ _ => True) fun _ => True := by
  intro s _
  cases runFrom m s with
  | mk result t => cases result <;> trivial

theorem Triple.starting {s₀ : σ} (triple : Triple P m Q R) (holds : P s₀) :
    Triple (fun s => s = s₀) m Q R := by
  rintro _ rfl
  exact triple _ holds

/-- A known run of the effect. -/
theorem Triple.known {s₀ t : σ} {a : α} (run : runFrom m s₀ = (.ok a, t)) (reached : Q a t) :
    Triple (fun s => s = s₀) m Q R := by
  rintro _ rfl
  rw [run]
  exact reached

theorem Triple.modify_from {Q : PUnit → σ → Prop} {s₀ : σ} {f : σ → σ} (reached : Q ⟨⟩ (f s₀)) :
    Triple (fun s => s = s₀) (modify f : Effect σ ε PUnit) Q R := by
  rintro _ rfl
  exact reached

/-- From a known state a change leads to a known state. -/
theorem Triple.modify_bind {s₀ : σ} {f : σ → σ} {next : PUnit → Effect σ ε α}
    (rest : Triple (fun s => s = f s₀) (next ⟨⟩) Q R) :
    Triple (fun s => s = s₀) (modify f >>= next) Q R := by
  rintro _ rfl
  rw [runFrom_bind, runFrom_modify]
  exact rest _ rfl

/-- A known state is read. -/
theorem Triple.read_bind {s₀ : σ} {next : σ → Effect σ ε α}
    (rest : Triple (fun s => s = s₀) (next s₀) Q R) :
    Triple (fun s => s = s₀) (get >>= next) Q R := by
  rintro _ rfl
  rw [runFrom_bind, runFrom_get]
  exact rest _ rfl

theorem Triple.answer_from {s₀ : σ} {a : α} (reached : Q a s₀) :
    Triple (fun s => s = s₀) (pure a : Effect σ ε α) Q R := by
  rintro _ rfl
  exact reached

/-- A computed answer leaves the state; only its failure reaches the exceptional ending. -/
theorem Triple.except_bind {attempt : Except ε β} {next : β → Effect σ ε α}
    (rest : ∀ b, attempt = .ok b → Triple P (next b) Q R) (raised : ∀ s, P s → R s) :
    Triple P (ofExcept attempt >>= next) Q R := by
  cases attempt with
  | ok b => exact rest b rfl
  | error e => exact raised

theorem Triple.except_ok {b : β} {next : β → Effect σ ε α} (rest : Triple P (next b) Q R) :
    Triple P (ofExcept (.ok b) >>= next) Q R := rest

theorem Triple.except_error {e : ε} {next : β → Effect σ ε α} (raised : ∀ s, P s → R s) :
    Triple P (ofExcept (.error e) >>= next) Q R := raised

theorem Triple.ite {c : Prop} [Decidable c] {other : Effect σ ε α} (yes : c → Triple P m Q R)
    (no : ¬c → Triple P other Q R) : Triple P (if c then m else other) Q R := by
  by_cases holds : c
  · rw [if_pos holds]
    exact yes holds
  · rw [if_neg holds]
    exact no holds

/-- On a part, the rest of the state stays. -/
theorem Triple.within {τ : Type} {part : τ → σ} {place : τ → σ → τ} {I : τ → Prop} {J : α → τ → Prop}
    {K : τ → Prop}
    (inner : ∀ t, I t → Triple (fun s => s = part t) m (fun a s => J a (place t s))
      fun s => K (place t s)) :
    Triple I (Effect.within part place m) J K := by
  intro t holds
  have run := inner t holds (part t) rfl
  revert run
  unfold Effect.within
  simp only [runFrom]
  cases m (part t) with
  | mk result s => cases result <;> exact fun reached => reached

theorem Triple.handle {ε' : Type} {S : σ → Prop} {handler : ε → Effect σ ε' α}
    (triple : Triple P m Q S) (handled : ∀ e, Triple S (handler e) Q R) :
    Triple P (Effect.handle m handler) Q R := by
  intro s holds
  have run := triple s holds
  revert run
  unfold Effect.handle
  simp only [runFrom]
  cases m s with
  | mk result t =>
      cases result with
      | ok a => exact fun reached => reached
      | error e => exact fun failed => handled e t failed

/-- What both endings satisfy, the state afterwards does. -/
theorem Triple.after {I : σ → Prop} (triple : Triple P m (fun _ => I) I) {s : σ} (holds : P s) :
    I (runFrom m s).2 := by
  have run := triple s holds
  revert run
  cases runFrom m s with
  | mk result t => cases result <;> exact fun after => after

end Rules

/-! ## Properties that hold throughout -/

/-- The property survives the effect, however it ends. -/
def Keeps (I : σ → Prop) (m : Effect σ ε α) : Prop := Triple I m (fun _ => I) I

section Keeping

variable {I : σ → Prop} {m : Effect σ ε α}

theorem Keeps.answer (a : α) : Keeps I (pure a : Effect σ ε α) := fun _ holds => holds

theorem Keeps.raise (e : ε) : Keeps I (throw e : Effect σ ε α) := fun _ holds => holds

theorem Keeps.read : Keeps I (get : Effect σ ε σ) := fun _ holds => holds

theorem Keeps.change {f : σ → σ} (kept : ∀ s, I s → I (f s)) :
    Keeps I (modify f : Effect σ ε PUnit) :=
  fun s holds => kept s holds

theorem Keeps.except (attempt : Except ε α) : Keeps I (ofExcept attempt : Effect σ ε α) := by
  intro s holds
  cases attempt <;> exact holds

theorem Keeps.bind {next : α → Effect σ ε β} (first : Keeps I m) (rest : ∀ a, Keeps I (next a)) :
    Keeps I (m >>= next) := Triple.bind first rest

theorem Keeps.ite {c : Prop} [Decidable c] {other : Effect σ ε α} (yes : c → Keeps I m)
    (no : ¬c → Keeps I other) : Keeps I (if c then m else other) := by
  by_cases holds : c
  · rw [if_pos holds]
    exact yes holds
  · rw [if_neg holds]
    exact no holds

theorem Keeps.both {J : σ → Prop} (one : Keeps I m) (other : Keeps J m) :
    Keeps (fun s => I s ∧ J s) m := Triple.both one other

/-- A kept property is there after an answer. -/
theorem Keeps.reached (kept : Keeps I m) : Triple I m (fun _ => I) fun _ => True :=
  kept.weaken (fun _ holds => holds) (fun _ _ holds => holds) fun _ _ => trivial

/-- A kept property is there for what follows. -/
theorem Keeps.before {next : α → Effect σ ε β} {Q : β → σ → Prop} {R : σ → Prop}
    (kept : Keeps I m) (raised : ∀ s, I s → R s) (rest : ∀ a, Triple I (next a) Q R) :
    Triple I (m >>= next) Q R :=
  Triple.bind (kept.weaken (fun _ holds => holds) (fun _ _ holds => holds) raised) rest

theorem Keeps.within {τ : Type} {part : τ → σ} {place : τ → σ → τ} {J : τ → Prop}
    (inner : ∀ t, J t → Triple (fun s => s = part t) m (fun _ s => J (place t s))
      fun s => J (place t s)) :
    Keeps J (Effect.within part place m) := Triple.within inner

theorem Keeps.handle {ε' : Type} {handler : ε → Effect σ ε' α} (kept : Keeps I m)
    (handled : ∀ e, Keeps I (handler e)) : Keeps I (Effect.handle m handler) :=
  Triple.handle kept handled

/-- The state after a kept property's effect has it, answer or failure. -/
theorem Keeps.after (kept : Keeps I m) {s : σ} (holds : I s) : I (runFrom m s).2 :=
  Triple.after kept holds

end Keeping

/-! ## What can fail -/

/-- From `P`, a failure is one of these. -/
def Fails (P : σ → Prop) (E : ε → Prop) (m : Effect σ ε α) : Prop :=
  ∀ s, P s → ∀ e, (runFrom m s).1 = .error e → E e

section Failing

variable {P : σ → Prop} {E : ε → Prop} {m : Effect σ ε α}

theorem Fails.answer (a : α) : Fails P E (pure a : Effect σ ε α) := fun _ _ _ failed => nomatch failed

theorem Fails.raise {e : ε} (known : E e) : Fails P E (throw e : Effect σ ε α) := by
  intro s _ e' failed
  cases failed
  exact known

theorem Fails.read : Fails P E (get : Effect σ ε σ) := fun _ _ _ failed => nomatch failed

theorem Fails.change (f : σ → σ) : Fails P E (modify f : Effect σ ε PUnit) :=
  fun _ _ _ failed => nomatch failed

theorem Fails.except {attempt : Except ε α} (known : ∀ e, attempt = .error e → E e) :
    Fails P E (ofExcept attempt : Effect σ ε α) := by
  intro s _ e failed
  rw [runFrom_ofExcept] at failed
  exact known e failed

/-- What follows fails from where the first part can end. -/
theorem Fails.bind {next : α → Effect σ ε β} {S : α → σ → Prop} (first : Fails P E m)
    (reached : Triple P m S fun _ => True) (rest : ∀ a, Fails (S a) E (next a)) :
    Fails P E (m >>= next) := by
  intro s holds e failed
  rw [runFrom_bind] at failed
  have known := first s holds
  have after := reached s holds
  revert failed known after
  cases runFrom m s with
  | mk result t =>
      cases result with
      | ok a => exact fun failed _ after => rest a t after e failed
      | error e' =>
          intro failed known _
          cases failed
          exact known _ rfl

/-- Where every failure from any state is known, so it is in sequence. -/
theorem Fails.sequence {next : α → Effect σ ε β} (first : Fails (fun _ => True) E m)
    (rest : ∀ a, Fails (fun _ => True) E (next a)) : Fails P E (m >>= next) := by
  exact fun s _ => Fails.bind first Triple.total rest s trivial

theorem Fails.ite {c : Prop} [Decidable c] {other : Effect σ ε α} (yes : c → Fails P E m)
    (no : ¬c → Fails P E other) : Fails P E (if c then m else other) := by
  by_cases holds : c
  · rw [if_pos holds]
    exact yes holds
  · rw [if_neg holds]
    exact no holds

theorem Fails.within {τ : Type} {I : τ → Prop} {part : τ → σ} {place : τ → σ → τ}
    (inner : Fails (fun _ => True) E m) : Fails I E (Effect.within part place m) :=
  fun t _ => inner (part t) trivial

theorem Fails.handle {ε' : Type} {E' : ε' → Prop} {handler : ε → Effect σ ε' α}
    (inner : Fails P E m) (handled : ∀ e, E e → Fails (fun _ => True) E' (handler e)) :
    Fails P E' (Effect.handle m handler) := by
  intro s holds e failed
  have known := inner s holds
  revert failed known
  unfold Effect.handle
  simp only [runFrom]
  cases m s with
  | mk result t =>
      cases result with
      | ok a => exact fun failed => nomatch failed
      | error e' => exact fun failed known => handled e' (known e' rfl) t trivial e failed

theorem Fails.given {fact : Prop} (fails : fact → Fails P E m) : Fails (fun s => P s ∧ fact) E m :=
  fun s holds => fails holds.2 s holds.1

theorem Fails.any {m : Effect σ ε α} : Fails P (fun _ => True) m := fun _ _ _ _ => trivial

theorem Fails.of {P' : σ → Prop} (fails : Fails P E m) (pre : ∀ s, P' s → P s) : Fails P' E m :=
  fun s holds => fails s (pre s holds)

end Failing

end Inci.Theory
