/-
# Journal.LiveSteps -- what a call can do to the journal

The journal of a runtime goes on (`Going`) or has ended (`Stopped`): with a terminal that is durable,
or with a write that was begun and failed.  Once it has ended the runtime is sealed.  Every part of a
call keeps the two (`Safe`), whatever the coordinator, the gate and the disk answer.

A call that fails behind a durable raw record leaves the runtime sealed or its coordinator shut
(`Barred`), so that nothing is appended behind records that were not applied.
-/
import Inci.Journal.Sequencer
import Inci.Journal.WriteFailure

namespace Inci.Journal

open Inci.Theory
open Inci.Theory.Json (Text text)
open EventRuntime (Sealed)

set_option autoImplicit false

/-! ## Journals -/

/-- The event is a terminal with the runtime's state and trace; a clean one needs every raw record
to be applied. -/
def Terminates (st : FoundationState) (tr : Bytes) (applied : Prop) (w : JournalWriter)
    (clean : Bool) (reason : Text) (event : PersistedEvent) : Prop :=
  (clean = true → applied) ∧ ∃ content, canonicalStateBytes st = .ok content ∧
    Offers w (w.terminal clean reason (hexText tr) (hexdigest content) st.lastAppliedRawSeq) event

/-- What a failed write had begun: an ordinary record, which the reader expects next where a part
of it came into the file, or a terminal. -/
def Attempted (st : FoundationState) (tr : Bytes) (applied : Prop) (w : JournalWriter) (kept : Nat)
    (event : PersistedEvent) : Prop :=
  (event.recordKind ≠ .control ∧ (kept = 0 ∨ Expected w event)) ∨
    ∃ clean reason, Terminates st tr applied w clean reason event

section Journal

variable (m : SessionManifest) (start : PersistedEvent) (st : FoundationState) (tr : Bytes)

/-- The journal goes on behind these records. -/
structure Going (events : List PersistedEvent) (rt : EventRuntime) : Prop where
  session : rt.writer.sessionManifest = m
  state : rt.state = st
  trace : rt.trace = tr
  step : InStep rt.writer (start :: events)
  unwritten : rt.writer.capability.terminalWritten = false
  unclean : rt.writer.capability.terminalCleanDurable = false

/-- How a journal ends behind these records: `w₀` is the writer before the last one. -/
inductive Ending (applied : Prop) (events : List PersistedEvent) (w : JournalWriter) : Prop where
  | begun (w₀ : JournalWriter) (event : PersistedEvent) (kept : Nat)
      (session : w₀.sessionManifest = m) (step : InStep w₀ (start :: events))
      (encoded : Encoded event)
      (offered : Attempted st tr applied w₀ kept event)
      (file : w.capability.file = fileOf (start :: events) ++ (frameOf event).take kept)
      (unwritten : w.capability.terminalWritten = false)
      (unclean : w.capability.terminalCleanDurable = false)
  | ended (w₀ : JournalWriter) (event : PersistedEvent) (clean : Bool) (reason : Text)
      (session : w₀.sessionManifest = m) (step : InStep w₀ (start :: events))
      (offered : Terminates st tr applied w₀ clean reason event)
      (durable : Ended w (start :: events ++ [event]) clean)
      (written : w.capability.terminalWritten = true)
      (cleanly : w.capability.terminalCleanDurable = clean)

structure Stopped (applied : Prop) (events : List PersistedEvent) (rt : EventRuntime) : Prop where
  session : rt.writer.sessionManifest = m
  state : rt.state = st
  trace : rt.trace = tr
  ending : Ending m start st tr applied events rt.writer

/-- A journal that has ended belongs to a runtime that takes no more calls. -/
def Safe (applied : Prop) (events : List PersistedEvent) (rt : EventRuntime) : Prop :=
  Going m start st tr events rt ∨ (Stopped m start st tr applied events rt ∧ rt.Sealed)

end Journal

/-- A coordinator that was asked about was not ready. -/
def Left (s : Surroundings) (rt : EventRuntime) : Prop :=
  ∃ i < rt.moment, (s.answer i).coordinator ≠ .ready

/-- The runtime appends nothing more. -/
def Barred (s : Surroundings) (rt : EventRuntime) : Prop := rt.Sealed ∨ Left s rt

/-- The property holds when another question was answered. -/
def Aging (P : EventRuntime → Prop) : Prop :=
  ∀ rt, P rt → P { rt with moment := rt.moment + 1 }

section Safety

variable {m : SessionManifest} {start : PersistedEvent} {st : FoundationState} {tr : Bytes}
  {applied : Prop} {events : List PersistedEvent} {s : Surroundings} {rt : EventRuntime}
  {P Q : EventRuntime → Prop}

theorem Aging.and (one : Aging P) (other : Aging Q) : Aging fun rt => P rt ∧ Q rt :=
  fun rt both => ⟨one rt both.1, other rt both.2⟩

theorem Aging.or (one : Aging P) (other : Aging Q) : Aging fun rt => P rt ∨ Q rt :=
  fun rt either => either.imp (one rt) (other rt)

theorem Aging.const (fact : Prop) : Aging fun _ => fact := fun _ holds => holds

theorem going_aging : Aging (Going m start st tr events) := fun _ going =>
  ⟨going.session, going.state, going.trace, going.step, going.unwritten, going.unclean⟩

theorem stopped_aging : Aging (Stopped m start st tr applied events) := fun _ stopped =>
  ⟨stopped.session, stopped.state, stopped.trace, stopped.ending⟩

theorem sealed_aging : Aging Sealed := fun _ holds => holds

theorem left_aging : Aging (Left s) := by
  rintro rt ⟨i, earlier, other⟩
  exact ⟨i, Nat.lt_succ_of_lt earlier, other⟩

theorem safe_aging : Aging (Safe m start st tr applied events) :=
  going_aging.or (stopped_aging.and sealed_aging)

/-! ## Sealing -/

theorem sealed_poison (rt : EventRuntime) : rt.poison.Sealed := Or.inl rfl

theorem sealed_close (rt : EventRuntime) : rt.close.Sealed := Or.inr (Or.inl rfl)

theorem Going.poison (going : Going m start st tr events rt) :
    Going m start st tr events rt.poison :=
  ⟨going.session, going.state, going.trace, going.step, going.unwritten, going.unclean⟩

theorem Going.close (going : Going m start st tr events rt) :
    Going m start st tr events rt.close :=
  ⟨going.session, going.state, going.trace, going.step, going.unwritten, going.unclean⟩

theorem Stopped.poison (stopped : Stopped m start st tr applied events rt) :
    Stopped m start st tr applied events rt.poison :=
  ⟨stopped.session, stopped.state, stopped.trace, stopped.ending⟩

theorem Stopped.close (stopped : Stopped m start st tr applied events rt) :
    Stopped m start st tr applied events rt.close :=
  ⟨stopped.session, stopped.state, stopped.trace, stopped.ending⟩

/-- A safe runtime that is sealed. -/
def Shut (m : SessionManifest) (start : PersistedEvent) (st : FoundationState) (tr : Bytes)
    (applied : Prop) (events : List PersistedEvent) (rt : EventRuntime) : Prop :=
  Safe m start st tr applied events rt ∧ rt.Sealed

theorem Safe.poison (safe : Safe m start st tr applied events rt) :
    Shut m start st tr applied events rt.poison := by
  rcases safe with going | ⟨stopped, -⟩
  · exact ⟨Or.inl going.poison, sealed_poison rt⟩
  · exact ⟨Or.inr ⟨stopped.poison, sealed_poison rt⟩, sealed_poison rt⟩

theorem Safe.close (safe : Safe m start st tr applied events rt) :
    Shut m start st tr applied events rt.close := by
  rcases safe with going | ⟨stopped, -⟩
  · exact ⟨Or.inl going.close, sealed_close rt⟩
  · exact ⟨Or.inr ⟨stopped.close, sealed_close rt⟩, sealed_close rt⟩

theorem Safe.going (safe : Safe m start st tr applied events rt) (open_ : ¬rt.Sealed) :
    Going m start st tr events rt :=
  safe.resolve_right fun ended => open_ ended.2

end Safety

/-! ## Questions -/

section Questions

variable {s : Surroundings} {P R : EventRuntime → Prop}

theorem ask_spec (aging : Aging P) :
    Triple P (ask s) (fun a rt => P rt ∧ ∃ i, i + 1 = rt.moment ∧ a = s.answer i) R := by
  intro rt holds
  exact ⟨aging rt holds, rt.moment, rfl, rfl⟩

theorem ask_keeps (aging : Aging P) : Keeps P (ask s) :=
  (ask_spec aging).weaken (fun _ holds => holds) (fun _ _ answered => answered.1) fun _ holds => holds

/-- What follows a question. -/
theorem ask_then {α : Type} {next : Moment → Runtime α} {Q : α → EventRuntime → Prop}
    (aging : Aging P) (rest : ∀ a, Triple P (next a) Q R) : Triple P (ask s >>= next) Q R :=
  Triple.bind ((ask_spec aging).weaken (fun _ holds => holds) (fun _ _ answered => answered.1)
    fun _ raised => raised) rest

theorem reraising_spec {α : Type} {call : Runtime α} {handler : Raised → Runtime Unit}
    {Q : α → EventRuntime → Prop} {S : EventRuntime → Prop} (called : Triple P call Q S)
    (handled : ∀ e, Triple S (handler e) (fun _ => R) R) : Triple P (reraising call handler) Q R :=
  Triple.handle called fun e => Triple.bind (handled e) fun _ => Triple.raise e

theorem answering_spec {α β : Type} {call : Runtime α} {answer : β} {S : α → EventRuntime → Prop}
    {Q : β → EventRuntime → Prop} (called : Triple P call S R)
    (reached : ∀ a rt, S a rt → Q answer rt) :
    Triple P (answering call answer) Q R :=
  Triple.bind called fun a => (Triple.answer answer).weaken (reached a) (fun _ _ holds => holds)
    fun _ holds => holds

theorem gate_keeps (aging : Aging P) : Keeps P (gate s) := by
  refine Keeps.bind (ask_keeps aging) fun a => ?_
  cases a.gate with
  | none => exact Keeps.answer a
  | some e => exact Keeps.raise e

theorem Standing.rank_ready {standing : Standing} : standing.rank ≤ 0 ↔ standing = .ready := by
  cases standing <;> decide

/-- The coordinator operates only where every earlier answer found it ready. -/
theorem requireProviderOperation_spec (aging : Aging P) :
    Triple P (requireProviderOperation s) (fun _ rt => P rt ∧ ¬Left s rt)
      fun rt => P rt ∧ Left s rt := by
  refine Triple.bind (ask_spec aging) fun a => ?_
  cases stands : a.coordinator with
  | ready =>
      rintro rt ⟨holds, i, last, rfl⟩
      refine ⟨holds, ?_⟩
      rintro ⟨j, earlier, other⟩
      have before := s.rank_mono (show j ≤ i by omega)
      rw [stands] at before
      exact other (Standing.rank_ready.mp before)
  | shut =>
      rintro rt ⟨holds, i, last, rfl⟩
      exact ⟨holds, i, by omega, by rw [stands]; decide⟩
  | halted =>
      rintro rt ⟨holds, i, last, rfl⟩
      exact ⟨holds, i, by omega, by rw [stands]; decide⟩

/-- A call of the writer, from what the writer answers. -/
theorem writing_spec {call : JournalWriter → Conditions → JournalWriter.Closing →
      Except JournalError PersistedEvent × JournalWriter}
    {Q : PersistedEvent → EventRuntime → Prop} (aging : Aging P)
    (answered : ∀ rt c closing e w', P rt → call rt.writer c closing = (.ok e, w') →
      Q e { rt with writer := w' })
    (raised : ∀ rt c closing e w', P rt → call rt.writer c closing = (.error e, w') →
      R { rt with writer := w' }) : Triple P (writing s call) Q R := by
  refine Triple.bind (ask_spec aging) fun a => Triple.get_bind fun rt known => ?_
  refine Triple.modify_bind ?_
  cases answer : call rt.writer a.write a.closing with
  | mk result w' =>
      cases result with
      | ok e =>
          rintro _ rfl
          exact answered rt a.write a.closing e w' known.1 answer
      | error e =>
          rintro _ rfl
          exact raised rt a.write a.closing e w' known.1 answer

end Questions

/-! ## Terminals -/

section Terminals

variable {m : SessionManifest} {start : PersistedEvent} {st : FoundationState} {tr : Bytes}
  {applied : Prop} {events : List PersistedEvent} {s : Surroundings}

/-- A write that failed leaves a safe runtime: the writer as it was, or poisoned. -/
theorem Going.failed {rt : EventRuntime} {w' : JournalWriter} {event : PersistedEvent} {kept : Nat}
    (going : Going m start st tr events rt) (encoded : Encoded event)
    (offered : Attempted st tr applied rt.writer kept event)
    (session : w'.sessionManifest = rt.writer.sessionManifest) (poisoned : w'.poisoned = true)
    (part : WriteCapability.Torn rt.writer.sessionManifest rt.writer.capability w'.capability
      (frameOf event) kept) :
    Safe m start st tr applied events { rt with writer := w' } := by
  refine Or.inr ⟨⟨session.trans going.session, going.state, going.trace, ?_⟩,
    Or.inr (Or.inr poisoned)⟩
  exact .begun rt.writer event kept going.session going.step encoded offered
    (by rw [part.file, going.step.file]) (part.terminal.trans going.unwritten)
    (part.clean.trans going.unclean)

theorem closeWriter_spec {clean : Bool} {reason : Text} (fine : clean = true → applied) :
    Triple (Going m start st tr events) (closeWriter s clean reason)
      (fun _ => Stopped m start st tr applied events) (Safe m start st tr applied events) := by
  refine Triple.get_bind fun rt going => ?_
  cases written : canonicalStateBytes rt.state with
  | error e =>
      refine Triple.except_error fun rt' same => ?_
      rw [same]
      exact Or.inl going
  | ok content =>
      refine Triple.except_ok ?_
      have offers : ∀ {event}, Offers rt.writer (rt.writer.terminal clean reason (hexText rt.trace)
          (hexdigest content) rt.state.lastAppliedRawSeq) event →
            Terminates st tr applied rt.writer clean reason event := by
        intro event offered
        rw [going.trace, going.state] at offered
        exact ⟨fine, content, going.state ▸ written, offered⟩
      refine (writing_spec (P := fun rt' => Going m start st tr events rt' ∧ rt'.writer = rt.writer)
        (going_aging.and fun _ same => same) ?_ ?_).starting ⟨going, rfl⟩
      · rintro rt' c closing e w' ⟨here, same⟩ done
        rw [same] at done
        cases JournalWriter.close_cases going.step going.unclean done with
        | refused _ raised =>
            obtain ⟨e', other⟩ := raised
            cases other
        | torn event kept offered encoded session poisoned part raised =>
            obtain ⟨e', other⟩ := raised
            cases other
        | durable event offered session ended marked cleanly answered =>
            exact ⟨session.trans going.session, here.state, here.trace,
              .ended rt.writer event clean reason going.session going.step (offers offered) ended
                marked cleanly⟩
      · rintro rt' c closing e w' ⟨here, same⟩ done
        rw [same] at done
        cases JournalWriter.close_cases going.step going.unclean done with
        | refused stays _ =>
            rw [stays, ← same]
            exact Or.inl here
        | torn event kept offered encoded session poisoned part _ =>
            rw [← same] at offers offered session part
            exact here.failed encoded (Or.inr ⟨clean, reason, offers offered⟩) session poisoned part
        | durable event offered session ended marked cleanly answered =>
            rcases answered with other | ⟨poisoned, -⟩
            · cases other
            · exact Or.inr ⟨⟨session.trans going.session, here.state, here.trace,
                .ended rt.writer event clean reason going.session going.step (offers offered) ended
                  marked cleanly⟩, Or.inr (Or.inr poisoned)⟩

theorem Going.shut {rt : EventRuntime} (going : Going m start st tr events rt) :
    Shut m start st tr applied events rt.close := Safe.close (Or.inl going)

theorem Stopped.shut {rt : EventRuntime} (stopped : Stopped m start st tr applied events rt) :
    Shut m start st tr applied events rt.close :=
  ⟨Or.inr ⟨stopped.close, sealed_close rt⟩, sealed_close rt⟩

theorem attemptPreobservedGlobalHalt_spec :
    Triple (Going m start st tr events) (attemptPreobservedGlobalHalt s)
      (fun _ => Shut m start st tr applied events) (Shut m start st tr applied events) := by
  refine ask_then going_aging fun a => Triple.ite (fun _ => ?_) fun _ => ?_
  · intro rt going
    exact going.shut
  · refine Triple.handle (S := Safe m start st tr applied events) (Triple.bind
      (closeWriter_spec fun clean => absurd clean Bool.false_ne_true) fun _ => ?_) fun e => ?_
    · intro rt stopped
      exact stopped.shut
    · unfold uncertainGlobalHalt
      split
      · intro rt safe
        exact safe.poison
      · intro rt safe
        exact safe.close

/-- A safe runtime that appends nothing more. -/
def Blocked (s : Surroundings) (m : SessionManifest) (start : PersistedEvent) (st : FoundationState)
    (tr : Bytes) (applied : Prop) (events : List PersistedEvent) (rt : EventRuntime) : Prop :=
  Safe m start st tr applied events rt ∧ Barred s rt

theorem Shut.blocked {rt : EventRuntime} (shut : Shut m start st tr applied events rt) :
    Blocked s m start st tr applied events rt := ⟨shut.1, Or.inl shut.2⟩

/-- The coordinator operates, and then every earlier answer found it ready. -/
theorem requireCoordinator_spec (fact : Prop) :
    Triple (fun rt => Going m start st tr events rt ∧ (fact ∨ Left s rt)) (requireCoordinator s)
      (fun _ rt => Going m start st tr events rt ∧ fact)
      (Blocked s m start st tr applied events) := by
  refine reraising_spec (S := fun rt => Going m start st tr events rt ∧ Left s rt)
    ((requireProviderOperation_spec (going_aging.and ((Aging.const fact).or left_aging))).weaken
      (fun _ holds => holds) ?_ ?_) fun e => ?_
  · rintro _ rt ⟨⟨going, either⟩, ready⟩
    exact ⟨going, either.resolve_right ready⟩
  · rintro rt ⟨⟨going, -⟩, left⟩
    exact ⟨going, left⟩
  · refine Triple.ite (fun _ => ?_) fun _ => ?_
    · exact attemptPreobservedGlobalHalt_spec.weaken (fun _ holds => holds.1)
        (fun _ _ shut => shut.blocked) fun _ shut => shut.blocked
    · rintro rt ⟨going, left⟩
      exact ⟨Or.inl going, Or.inr left⟩

/-- The coordinator operates, or the runtime is blocked. -/
theorem requireCoordinator_keeps :
    Triple (Going m start st tr events) (requireCoordinator s)
      (fun _ => Going m start st tr events) (Blocked s m start st tr applied events) :=
  (requireCoordinator_spec True).weaken (fun _ going => ⟨going, Or.inl trivial⟩)
    (fun _ _ going => going.1) fun _ blocked => blocked

/-! ## Halts -/

/-- Either it goes on, or the runtime is shut. -/
def GoesOn (m : SessionManifest) (start : PersistedEvent) (st : FoundationState) (tr : Bytes)
    (applied : Prop) (events : List PersistedEvent) (goes : Bool) (rt : EventRuntime) : Prop :=
  (goes = true ∧ Going m start st tr events rt) ∨
    (goes = false ∧ Shut m start st tr applied events rt)

theorem operating_spec : Triple (Going m start st tr events) (operating s)
    (GoesOn m start st tr applied events) (Blocked s m start st tr applied events) := by
  refine Triple.handle (S := fun rt => Going m start st tr events rt ∧ Left s rt)
    (answering_spec (requireProviderOperation_spec going_aging)
      fun _ rt holds => Or.inl ⟨rfl, holds.1⟩) fun e => Triple.ite (fun _ => ?_) fun _ => ?_
  · exact answering_spec (attemptPreobservedGlobalHalt_spec.weaken (fun _ holds => holds.1)
      (fun _ _ shut => shut) fun _ shut => shut.blocked) fun _ rt shut => Or.inr ⟨rfl, shut⟩
  · rintro rt ⟨going, left⟩
    exact ⟨Or.inl going, Or.inr left⟩

theorem authorizeHalt_spec : Triple (Going m start st tr events) (authorizeHalt s)
    (GoesOn m start st tr applied events) (Blocked s m start st tr applied events) := by
  refine Triple.handle (S := Going m start st tr events)
    (answering_spec (gate_keeps going_aging) fun _ rt going => Or.inl ⟨rfl, going⟩) fun e =>
      Triple.ite (fun _ => ?_) fun _ => ?_
  · intro rt going
    exact Or.inr ⟨rfl, going.shut⟩
  · intro rt going
    exact Or.inl ⟨rfl, going⟩

/-- Where it does not go on there is no terminal, and the runtime is blocked. -/
theorem goesOn_then {goes : Bool} {next : Runtime (Option PersistedEvent)}
    (rest : Triple (Going m start st tr events) next
      (fun _ => Blocked s m start st tr applied events) (Blocked s m start st tr applied events)) :
    Triple (GoesOn m start st tr applied events goes) (if goes = false then pure none else next)
      (fun _ => Blocked s m start st tr applied events)
      (Blocked s m start st tr applied events) := by
  cases goes with
  | true =>
      refine rest.weaken ?_ (fun _ _ holds => holds) fun _ holds => holds
      rintro rt (⟨-, going⟩ | ⟨stop, -⟩)
      · exact going
      · cases stop
  | false =>
      rintro rt (⟨on, -⟩ | ⟨-, shut⟩)
      · cases on
      · exact shut.blocked

/-- A halt blocks the runtime, whether it writes a terminal or not. -/
theorem attemptHalt_spec {reason : Text} :
    Triple (Safe m start st tr applied events) (attemptHalt s reason)
      (fun _ => Blocked s m start st tr applied events)
      (Blocked s m start st tr applied events) := by
  refine Triple.get_bind fun rt safe => Triple.ite (fun sealed => ?_) fun open_ => ?_
  · rintro _ rfl
    exact ⟨safe, Or.inl sealed⟩
  · refine Triple.starting ?_ (safe.going open_)
    refine Triple.bind operating_spec fun _ => goesOn_then ?_
    refine Triple.bind authorizeHalt_spec fun _ => goesOn_then ?_
    refine Triple.handle (S := Safe m start st tr applied events) (Triple.bind
      (closeWriter_spec fun clean => absurd clean Bool.false_ne_true) fun terminal => ?_) fun e => ?_
    · intro rt stopped
      exact stopped.shut.blocked
    · unfold uncertainHalt
      split
      · intro rt safe
        exact safe.poison.blocked
      · intro rt safe
        exact safe.poison.blocked

theorem halting_spec {reason : String} :
    Triple (Safe m start st tr applied events) (halting s reason)
      (fun _ => Blocked s m start st tr applied events)
      (Blocked s m start st tr applied events) :=
  answering_spec attemptHalt_spec fun _ _ blocked => blocked

theorem poisonUnlessClosed_spec :
    Triple (Safe m start st tr applied events) poisonUnlessClosed
      (fun _ => Blocked s m start st tr applied events)
      (Blocked s m start st tr applied events) := by
  intro rt safe
  show Blocked s m start st tr applied events (if rt.closed = true then rt else rt.poison)
  split
  · next closed => exact ⟨safe, Or.inl (Or.inr (Or.inl closed))⟩
  · exact safe.poison.blocked

theorem poison_spec :
    Triple (ε := Raised) (Safe m start st tr applied events) (modify EventRuntime.poison)
      (fun _ => Blocked s m start st tr applied events)
      (Blocked s m start st tr applied events) :=
  fun _ safe => safe.poison.blocked

/-- A property between being blocked and being safe. -/
structure Between (s : Surroundings) (m : SessionManifest) (start : PersistedEvent)
    (st : FoundationState) (tr : Bytes) (applied : Prop) (events : List PersistedEvent)
    (P : EventRuntime → Prop) : Prop where
  safe : ∀ rt, P rt → Safe m start st tr applied events rt
  blocked : ∀ rt, Blocked s m start st tr applied events rt → P rt

theorem safe_between :
    Between s m start st tr applied events (Safe m start st tr applied events) :=
  ⟨fun _ safe => safe, fun _ blocked => blocked.1⟩

/-- A runtime that is safe, and blocked where the fact fails. -/
def Guarded (s : Surroundings) (m : SessionManifest) (start : PersistedEvent) (st : FoundationState)
    (tr : Bytes) (applied : Prop) (events : List PersistedEvent) (rt : EventRuntime) : Prop :=
  Safe m start st tr applied events rt ∧ (applied ∨ Barred s rt)

theorem guarded_between :
    Between s m start st tr applied events (Guarded s m start st tr applied events) :=
  ⟨fun _ guarded => guarded.1, fun _ blocked => ⟨blocked.1, Or.inr blocked.2⟩⟩

section Handlers

variable {P : EventRuntime → Prop}

theorem Between.keeps {α : Type} {call : Runtime α}
    (between : Between s m start st tr applied events P)
    (blocks : Triple (Safe m start st tr applied events) call
      (fun _ => Blocked s m start st tr applied events)
      (Blocked s m start st tr applied events)) : Keeps P call :=
  blocks.weaken between.safe (fun _ => between.blocked) between.blocked

theorem onDenial_keeps (between : Between s m start st tr applied events P) (e : Raised) :
    Keeps P (onDenial s e) := by
  unfold onDenial
  split
  · exact between.keeps halting_spec
  · exact between.keeps poisonUnlessClosed_spec
  · exact Keeps.answer ()

theorem onCapture_keeps (between : Between s m start st tr applied events P) (e : Raised) :
    Keeps P (onCapture s e) := by
  unfold onCapture
  split
  · exact between.keeps halting_spec
  · exact between.keeps halting_spec
  · exact between.keeps poisonUnlessClosed_spec
  · exact Keeps.answer ()

theorem onAppend_keeps (between : Between s m start st tr applied events P) (e : Raised) :
    Keeps P (onAppend s e) := by
  unfold onAppend
  split
  · exact between.keeps halting_spec
  · exact between.keeps halting_spec
  · exact between.keeps poison_spec
  · exact between.keeps poisonUnlessClosed_spec
  · exact Keeps.answer ()

end Handlers

/-- Whatever fails behind a durable raw record blocks the runtime. -/
theorem onReduce_spec (reason : Text) (e : Raised) :
    Triple (Safe m start st tr applied events) (onReduce s reason e)
      (fun _ => Blocked s m start st tr applied events)
      (Blocked s m start st tr applied events) := by
  unfold onReduce
  split
  · exact halting_spec
  · exact halting_spec
  · exact poison_spec
  · exact poisonUnlessClosed_spec
  · exact answering_spec attemptHalt_spec fun _ _ blocked => blocked

theorem onTerminal_keeps (e : Raised) :
    Keeps (Safe m start st tr applied events) (onTerminal e) := by
  unfold onTerminal
  split
  · intro rt safe
    exact safe.poison.1
  · exact Keeps.answer ()

end Terminals

end Inci.Journal
