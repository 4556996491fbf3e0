/-
# Theory.Traces -- runs recorded as their steps

A step knows the state it starts from and the state it leads to.  A trace is a
chain of steps, each from where the one before it led.  An invariant of the steps
taken so far and the state reached is kept by a trace when every step keeps it
(`Trace.invariant`), from any point of the trace on (`Trace.split`).
-/
import Mathlib.Tactic.Basic

namespace Inci.Theory

set_option autoImplicit false

variable {σ τ : Type}

/-- The steps lead from one state to another. -/
inductive Trace (source target : τ → σ) (Step : τ → Prop) (start : σ) : List τ → σ → Prop
  | nil : Trace source target Step start [] start
  | snoc {taken : List τ} (t : τ) (earlier : Trace source target Step start taken (source t))
      (step : Step t) : Trace source target Step start (taken ++ [t]) (target t)

namespace Trace

variable {source target : τ → σ} {Step : τ → Prop} {start middle last : σ} {taken more : List τ}

theorem cons {t : τ} (step : Step t) (later : Trace source target Step (target t) taken last) :
    Trace source target Step (source t) (t :: taken) last := by
  induction later with
  | nil => exact .snoc t .nil step
  | snoc u earlier next ih => exact .snoc u ih next

/-- A trace goes through the state between any two of its parts. -/
theorem split (trace : Trace source target Step start (taken ++ more) last) :
    ∃ middle, Trace source target Step start taken middle ∧
      Trace source target Step middle more last := by
  generalize whole : taken ++ more = steps at trace
  induction trace generalizing more with
  | nil =>
      obtain ⟨rfl, rfl⟩ := List.append_eq_nil_iff.mp whole
      exact ⟨start, .nil, .nil⟩
  | snoc t earlier step ih =>
      rcases List.eq_nil_or_concat more with rfl | ⟨front, u, rfl⟩
      · rw [List.append_nil] at whole
        exact ⟨target t, whole ▸ .snoc t earlier step, .nil⟩
      · rw [List.concat_eq_append, ← List.append_assoc] at whole
        obtain ⟨rfl, same⟩ := List.append_inj' whole rfl
        obtain rfl := List.singleton_inj.mp same
        obtain ⟨middle, first, second⟩ := ih rfl
        exact ⟨middle, first, List.concat_eq_append ▸ .snoc u second step⟩

theorem eq_of_nil (trace : Trace source target Step start [] last) : last = start := by
  generalize none : ([] : List τ) = steps at trace
  cases trace with
  | nil => rfl
  | snoc t _ _ => simp at none

/-- The first step of a trace starts where the trace does. -/
theorem head {t : τ} (trace : Trace source target Step start (t :: taken) last) :
    source t = start ∧ Step t ∧ Trace source target Step (target t) taken last := by
  have parts : Trace source target Step start ([t] ++ taken) last := trace
  obtain ⟨middle, first, rest⟩ := split parts
  generalize one : [t] = steps at first
  cases first with
  | nil => exact nomatch one
  | snoc u earlier step =>
      obtain ⟨rfl, same⟩ := List.append_inj' (show [] ++ [t] = _ from one) rfl
      obtain rfl := List.singleton_inj.mp same
      exact ⟨eq_of_nil earlier, step, rest⟩

theorem mem (trace : Trace source target Step start taken last) {t : τ} (member : t ∈ taken) :
    Step t := by
  induction trace with
  | nil => exact nomatch member
  | snoc u earlier step ih =>
      rcases List.mem_append.mp member with before | here
      · exact ih before
      · rwa [List.mem_singleton.mp here]

/-- What holds at the start and is kept by every step holds at the end. -/
theorem invariant {P : List τ → σ → Prop} (trace : Trace source target Step start taken last)
    (starts : P [] start)
    (keeps : ∀ before t, P before (source t) → Step t → P (before ++ [t]) (target t)) :
    P taken last := by
  induction trace with
  | nil => exact starts
  | snoc t earlier step ih => exact keeps _ t ih step

end Trace

end Inci.Theory
