/-
# Journal.Writing -- the writer and the reader in step

`InStep` ties an open writer to the reader of its file: when the loop has read
the written records it stands exactly where the writer does.  Creation brings
the two in step and every accepted append keeps them there.  What carries the
step is that the capability lets no record through under a control name, so the
reader meets none.
-/
import Inci.Journal.Sessions

namespace Inci.Journal

open Inci.Theory
open Inci.Theory.Json (Text text)
open Inci.Theory.Layout (size)

set_option autoImplicit false

/-! ## What an accepted write did -/

theorem candidate_ok {event event' : PersistedEvent} {frame : Bytes}
    (built : candidate event = .ok (event', frame)) :
    event' = event ∧ encodeFrame event = .ok frame := by
  obtain ⟨_, -, built⟩ := bind_eq_ok.mp built
  obtain ⟨found, encoded, built⟩ := bind_eq_ok.mp built
  rw [pure_eq_ok, Prod.mk.injEq] at built
  exact ⟨built.1.symm, built.2 ▸ encoded⟩

namespace JournalWriter

/-- The capability's answer to a frame. -/
def written (w : JournalWriter) (frame : Bytes) (halted : Bool) (c : Conditions) :
    Except WriteFailure Unit × WriteCapability :=
  if halted then w.capability.writeHaltControl w.sessionManifest frame c
  else w.capability.writeAll w.sessionManifest frame c

theorem writeEncodedEvent_ok {w w' : JournalWriter} {event stored : PersistedEvent} {frame : Bytes}
    {halted : Bool} {c : Conditions}
    (accepted : w.writeEncodedEvent event frame halted c = (.ok stored, w')) :
    stored = event ∧ event.ingestSeq = w.nextSeq ∧ ∃ capability,
      w.written frame halted c = (.ok (), capability) ∧
        w' = { w with capability := capability }.recorded event := by
  unfold writeEncodedEvent at accepted
  cases writable : w.requireWritable with
  | error e =>
      rw [writable] at accepted
      exact nomatch accepted
  | ok u =>
      rw [writable] at accepted
      by_cases other : event.ingestSeq ≠ w.nextSeq
      · simp only [if_pos other] at accepted
        exact nomatch accepted
      · simp only [if_neg other] at accepted
        rw [not_not] at other
        cases answer : w.written frame halted c with
        | mk result capability =>
            unfold written at answer
            rw [answer] at accepted
            cases result with
            | ok u =>
                simp only [Prod.mk.injEq, Except.ok.injEq] at accepted
                exact ⟨accepted.1.symm, other, capability, rfl, accepted.2.symm⟩
            | error failure =>
                by_cases full : failure = .capacity ∧ halted = false
                · simp only [if_pos full] at accepted
                  exact nomatch accepted
                · simp only [if_neg full] at accepted
                  exact nomatch accepted

theorem append_ok {w w' : JournalWriter} {built : Candidate} {stored : PersistedEvent}
    {halted : Bool} {c : Conditions} (accepted : w.append built halted c = (.ok stored, w')) :
    ∃ frame capability, built = .ok (stored, frame) ∧ stored.ingestSeq = w.nextSeq ∧
      w.written frame halted c = (.ok (), capability) ∧
        w' = { w with capability := capability }.recorded stored := by
  unfold append at accepted
  cases writable : w.requireWritable with
  | error e =>
      rw [writable] at accepted
      exact nomatch accepted
  | ok u =>
      rw [writable] at accepted
      cases built with
      | error reason => exact nomatch accepted
      | ok pair =>
          obtain ⟨event, frame⟩ := pair
          obtain ⟨rfl, seq, capability, answer, after⟩ := writeEncodedEvent_ok accepted
          exact ⟨frame, capability, rfl, seq, answer, after⟩

end JournalWriter

/-! ## What the capability let through -/

namespace WriteCapability

/-- The capability with the frame in its file. -/
def extended (capability : WriteCapability) (frame : Bytes) : WriteCapability :=
  { capability with file := capability.file ++ frame }

theorem append_ok {capability after : WriteCapability} {frame : Bytes} {c : Conditions}
    {durable : WriteCapability → WriteCapability}
    (landed : capability.append frame c durable = (.ok (), after)) :
    after = durable (capability.extended frame) := by
  unfold append at landed
  cases ending : c.landed with
  | none =>
      rw [ending] at landed
      exact (congrArg Prod.snd landed).symm
  | some kept =>
      rw [ending] at landed
      exact nomatch landed

/-- In a started session an ordinary frame or a clean terminal gets through `write_all`. -/
theorem writeAll_ok {m : SessionManifest} {capability after : WriteCapability} {frame : Bytes}
    {c : Conditions} (prefixed : capability.walPrefixDurable = true)
    (started : capability.sessionStartDurable = true)
    (landed : capability.writeAll m frame c = (.ok (), after)) :
    (frameRole m frame = .ok .ordinary ∧ after = capability.extended frame) ∨
      (frameRole m frame = .ok (.terminal true) ∧ after = { capability.extended frame with
        terminalWritten := true, terminalCleanDurable := true }) := by
  unfold writeAll at landed
  by_cases usable : capability.Usable c
  · rw [if_neg (not_not.mpr usable), prefixed, if_neg (by decide)] at landed
    split at landed
    · exact nomatch landed
    · cases judged : frameRole m frame with
      | error e =>
          rw [judged] at landed
          exact nomatch landed
      | ok role =>
          simp only [judged, started] at landed
          cases role with
          | sessionStart => exact nomatch landed
          | ordinary =>
              by_cases low : c.lowDisk = true
              · simp only [reduceCtorEq, decide_false, Bool.true_eq_false, if_false, if_pos low]
                  at landed
                exact nomatch landed
              · simp only [reduceCtorEq, decide_false, Bool.true_eq_false, if_false, if_neg low]
                  at landed
                exact Or.inl ⟨rfl, append_ok landed⟩
          | terminal clean =>
              cases clean with
              | false => exact nomatch landed
              | true =>
                  simp only [reduceCtorEq, decide_false, Bool.true_eq_false, if_false] at landed
                  exact Or.inr ⟨rfl, append_ok landed⟩
  · rw [if_pos usable] at landed
    exact nomatch landed

theorem writeHaltControl_ok {m : SessionManifest} {capability after : WriteCapability}
    {frame : Bytes} {c : Conditions}
    (landed : capability.writeHaltControl m frame c = (.ok (), after)) :
    frameRole m frame = .ok (.terminal false) ∧ after = { capability.extended frame with
      haltConsumed := true, terminalWritten := true } := by
  unfold writeHaltControl at landed
  split at landed
  · exact nomatch landed
  · split at landed
    · exact nomatch landed
    · split at landed
      · exact nomatch landed
      · split at landed
        · next role => exact ⟨role, append_ok landed⟩
        · exact nomatch landed

end WriteCapability

theorem terminalRole_ok {m : SessionManifest} {event : PersistedEvent} {role : FrameRole}
    (judged : terminalRole m event = .ok role) :
    event.recordKind = .control ∧ ∃ clean, role = .terminal clean := by
  obtain ⟨_, bound, judged⟩ := bind_eq_ok.mp judged
  rw [refuse_eq_ok, not_or, not_not] at bound
  refine ⟨bound.1, ?_⟩
  split at judged
  · exact nomatch judged
  · obtain ⟨clean, -, judged⟩ := bind_eq_ok.mp judged
    split at judged
    · obtain ⟨_, -, judged⟩ := bind_eq_ok.mp judged
      obtain ⟨_, -, judged⟩ := bind_eq_ok.mp judged
      rw [pure_eq_ok] at judged
      exact ⟨clean, judged.symm⟩
    · exact nomatch judged

/-- A control name needs a control record. -/
theorem eventRole_ok {m : SessionManifest} {event : PersistedEvent} {role : FrameRole}
    (judged : eventRole m event = .ok role) (ordinary : event.recordKind ≠ .control) :
    role = .ordinary ∧ event.eventType ≠ sessionStartType ∧ event.eventType ≠ sessionHaltType := by
  unfold eventRole at judged
  by_cases start : event.eventType = sessionStartType
  · rw [if_pos start] at judged
    obtain ⟨_, bound, -⟩ := bind_eq_ok.mp judged
    rw [refuse_eq_ok, not_or, not_not] at bound
    exact absurd bound.1 ordinary
  · rw [if_neg start] at judged
    by_cases halt : event.eventType = sessionHaltType
    · rw [if_pos halt] at judged
      exact absurd (terminalRole_ok judged).1 ordinary
    · rw [if_neg halt] at judged
      exact ⟨(Except.ok.inj judged).symm, start, halt⟩

theorem frameRole_frameOf (m : SessionManifest) {event : PersistedEvent} (encoded : Encoded event) :
    frameRole m (frameOf event) = eventRole m event := by
  obtain ⟨prefixBytes, metadata, trailer, framed, same⟩ := encoded.framed
  rw [same, frameRole_framed m framed]

/-! ## In step -/

/-- The reader's loop when it has read what the writer wrote. -/
def readerState (w : JournalWriter) : WalkState where
  offset := w.capability.file.length
  expectedSeq := w.nextSeq
  recordCount := w.recordCount
  rawCount := w.rawCount
  derivedCount := w.derivedCount
  lastGoodSeq := w.recordCount
  lastRawSeq := w.latestRawSeq
  manifest := some w.sessionManifest
  terminalClean := false
  terminalSeen := false

/-- An open writer and the records of its file. -/
structure InStep (w : JournalWriter) (events : List PersistedEvent) : Prop where
  valid : w.sessionManifest.validate = .ok ()
  file : w.capability.file = fileOf events
  encoded : ∀ event ∈ events, Encoded event
  read : ∀ check, advanceAll check .start events = .ok (readerState w)
  numbered : w.nextSeq = w.recordCount + 1
  prefixed : w.capability.walPrefixDurable = true
  started : w.capability.sessionStartDurable = true

section Steps

variable {w : JournalWriter} {events : List PersistedEvent} {event : PersistedEvent}

/-- An ordinary record of the session that the reader expects next. -/
structure Expected (w : JournalWriter) (event : PersistedEvent) : Prop where
  encoded : Encoded event
  sequence : event.ingestSeq = w.nextSeq
  session : event.sessionId = w.sessionManifest.sessionId
  ordinary : event.recordKind ≠ .control
  named : event.eventType ≠ sessionStartType
  parent : event.recordKind = .derived → event.parentIngestSeq = some w.latestRawSeq

/-- The writer after an ordinary record. -/
def JournalWriter.wrote (w : JournalWriter) (event : PersistedEvent) : JournalWriter :=
  { w with capability := w.capability.extended (frameOf event) }.recorded event

theorem advance_expected (check : TerminalCheck) (expected : Expected w event)
    (numbered : w.nextSeq = w.recordCount + 1) :
    advance check (readerState w) event = .ok (readerState (w.wrote event)) := by
  have sequence := expected.sequence
  have later : ∃ st, admitLater check w.sessionManifest (readerState w) event = .ok st ∧
      { st.next event with offset := (readerState w).offset + (frameOf event).length } =
        readerState (w.wrote event) := by
    rw [admitLater, refuse_ok _ (not_not.mpr expected.session), ok_bind,
      refuse_ok _ expected.named, ok_bind]
    cases kind : event.recordKind with
    | raw =>
        refine ⟨_, rfl, ?_⟩
        simp [WalkState.next, readerState, JournalWriter.wrote, JournalWriter.recorded, kind,
          sequence, numbered, JournalWriter.latestRawSeq, WriteCapability.extended]
    | derived =>
        refine ⟨{ readerState w with derivedCount := w.derivedCount + 1 },
          bind_eq_ok.mpr ⟨(), refuse_ok _ (not_not.mpr (expected.parent kind)), rfl⟩, ?_⟩
        simp [WalkState.next, readerState, JournalWriter.wrote, JournalWriter.recorded, kind,
          sequence, numbered, JournalWriter.latestRawSeq, WriteCapability.extended]
    | control => exact absurd kind expected.ordinary
  obtain ⟨st, admitted, same⟩ := later
  have turn : event.ingestSeq = (readerState w).expectedSeq := sequence
  have admission : admitRecord check (readerState w) event = .ok (st.next event) :=
    bind_eq_ok.mpr ⟨(), refuse_ok _ (not_not.mpr turn), bind_eq_ok.mpr ⟨st, admitted, rfl⟩⟩
  refine bind_eq_ok.mpr ⟨(), refuse_ok _ Bool.false_ne_true, bind_eq_ok.mpr ⟨_, admission, ?_⟩⟩
  rw [pure_eq_ok]
  exact same

theorem InStep.wrote (step : InStep w events) (expected : Expected w event) :
    InStep (w.wrote event) (events ++ [event]) where
  valid := step.valid
  file := by
    rw [fileOf_snoc, ← step.file]
    rfl
  encoded := by
    intro e inside
    rcases List.mem_append.mp inside with before | last
    · exact step.encoded e before
    · rw [List.mem_singleton.mp last]
      exact expected.encoded
  read := by
    intro check
    rw [advanceAll_append, step.read check, ok_bind, advanceAll,
      advance_expected check expected step.numbered]
    rfl
  numbered := by
    show w.nextSeq + 1 = w.recordCount + 1 + 1
    rw [step.numbered]
  prefixed := step.prefixed
  started := step.started

/-- An accepted append of an ordinary record of the session. -/
theorem InStep.append {w' : JournalWriter} {built : Candidate} {c : Conditions}
    (step : InStep w events) (accepted : w.append built false c = (.ok event, w'))
    (fine : ∀ frame, built = .ok (event, frame) → encodeFrame event = .ok frame ∧
      event.sessionId = w.sessionManifest.sessionId ∧ event.recordKind ≠ .control ∧
        (event.recordKind = .derived → event.parentIngestSeq = some w.latestRawSeq)) :
    w' = w.wrote event ∧ Expected w event ∧ InStep w' (events ++ [event]) := by
  obtain ⟨frame, capability, built, sequence, landed, rfl⟩ := JournalWriter.append_ok accepted
  obtain ⟨frame_ok, session, ordinary, parent⟩ := fine frame built
  obtain ⟨encoded, rfl⟩ := encoded_of_ok frame_ok
  have role := frameRole_frameOf w.sessionManifest encoded
  rcases WriteCapability.writeAll_ok step.prefixed step.started landed with ⟨judged, rfl⟩ | ⟨judged, -⟩
  · rw [role] at judged
    have named := (eventRole_ok judged ordinary).2.1
    have expected : Expected w event := ⟨encoded, sequence, session, ordinary, named, parent⟩
    exact ⟨rfl, expected, step.wrote expected⟩
  · rw [role] at judged
    exact nomatch (eventRole_ok judged ordinary).1

theorem rawCandidate_ok {lib : TextLibrary} {captured : CapturedInput} {frame : Bytes}
    (built : w.rawCandidate lib captured = .ok (event, frame)) :
    event = captured.rawRecord w.nextSeq ∧ encodeFrame event = .ok frame ∧
      captured.sessionId = w.sessionManifest.sessionId := by
  obtain ⟨_, -, built⟩ := bind_eq_ok.mp built
  obtain ⟨_, -, built⟩ := bind_eq_ok.mp built
  obtain ⟨_, session, built⟩ := bind_eq_ok.mp built
  rw [refuse_eq_ok, not_not] at session
  have built : candidate (captured.rawRecord w.nextSeq) = .ok (event, frame) := by
    split at built
    · obtain ⟨_, -, built⟩ := bind_eq_ok.mp built
      exact built
    · obtain ⟨_, -, built⟩ := bind_eq_ok.mp built
      exact built
  obtain ⟨rfl, encoded⟩ := candidate_ok built
  exact ⟨rfl, encoded, session⟩

theorem derivedCandidate_ok {parent : PersistedEvent} {draft : DerivedDraft} {frame : Bytes}
    (built : w.derivedCandidate parent draft = .ok (event, frame)) :
    event = derivedRecord parent draft w.nextSeq ∧ encodeFrame event = .ok frame ∧
      parent.sessionId = w.sessionManifest.sessionId ∧ w.latestRaw = some parent := by
  obtain ⟨_, bound, built⟩ := bind_eq_ok.mp built
  simp only [refuse_eq_ok, not_or, not_not] at bound
  obtain ⟨rfl, encoded⟩ := candidate_ok built
  exact ⟨rfl, encoded, bound.2⟩

/-- An accepted raw append keeps the two in step. -/
theorem InStep.appendRaw {lib : TextLibrary} {w' : JournalWriter} {captured : CapturedInput}
    {c : Conditions} (step : InStep w events)
    (accepted : w.appendRaw lib captured c = (.ok event, w')) :
    event = captured.rawRecord w.nextSeq ∧ w' = w.wrote event ∧ Expected w event ∧
      InStep w' (events ++ [event]) := by
  obtain ⟨frame, -, built, -⟩ := JournalWriter.append_ok accepted
  have shape := (rawCandidate_ok built).1
  refine ⟨shape, step.append accepted fun frame built => ?_⟩
  obtain ⟨rfl, encoded, session⟩ := rawCandidate_ok built
  exact ⟨encoded, session, nofun, nofun⟩

/-- So does an accepted derived append, whose parent is the latest raw record. -/
theorem InStep.appendDerived {w' : JournalWriter} {parent : PersistedEvent} {draft : DerivedDraft}
    {c : Conditions} (step : InStep w events)
    (accepted : w.appendDerived parent draft c = (.ok event, w')) :
    event = derivedRecord parent draft w.nextSeq ∧ w' = w.wrote event ∧ Expected w event ∧
      InStep w' (events ++ [event]) := by
  obtain ⟨frame, -, built, -⟩ := JournalWriter.append_ok accepted
  have shape := (derivedCandidate_ok built).1
  refine ⟨shape, step.append accepted fun frame built => ?_⟩
  obtain ⟨rfl, encoded, session, latest⟩ := derivedCandidate_ok built
  refine ⟨encoded, session, nofun, fun _ => ?_⟩
  rw [JournalWriter.latestRawSeq, latest]
  rfl

end Steps

/-! ## Creation -/

theorem startCandidate_ok {m : SessionManifest} {start : PersistedEvent} {frame : Bytes}
    (built : JournalWriter.startCandidate m = .ok (start, frame)) : ∃ payload,
      canonicalSessionManifestBytes m = some payload ∧ start = startEvent m payload ∧
        encodeFrame start = .ok frame := by
  obtain ⟨_, -, built⟩ := bind_eq_ok.mp built
  split at built
  · exact nomatch built
  · next payload written =>
      obtain ⟨rfl, encoded⟩ := candidate_ok built
      exact ⟨payload, written, rfl, encoded⟩

theorem WriteCapability.writeAll_start {m : SessionManifest} {capability after : WriteCapability}
    {frame : Bytes} {c : Conditions} (prefixed : capability.walPrefixDurable = true)
    (fresh : capability.sessionStartDurable = false)
    (landed : capability.writeAll m frame c = (.ok (), after)) :
    after = { capability.extended frame with sessionStartDurable := true } := by
  unfold WriteCapability.writeAll at landed
  by_cases usable : capability.Usable c
  · rw [if_neg (not_not.mpr usable), prefixed, if_neg (by decide)] at landed
    split at landed
    · exact nomatch landed
    · cases judged : frameRole m frame with
      | error e =>
          rw [judged] at landed
          exact nomatch landed
      | ok role =>
          simp only [judged, fresh] at landed
          cases role with
          | sessionStart =>
              simp only [decide_true, Bool.false_eq_true, if_false] at landed
              exact append_ok landed
          | ordinary => exact nomatch landed
          | terminal clean => exact nomatch landed
  · rw [if_pos usable] at landed
    exact nomatch landed

theorem WriteCapability.writeAll_prefix {m : SessionManifest} {after : WriteCapability}
    {c : Conditions} (landed : issued.writeAll m filePrefixBytes c = (.ok (), after)) :
    after = { issued.extended filePrefixBytes with walPrefixDurable := true } := by
  unfold WriteCapability.writeAll at landed
  by_cases usable : issued.Usable c
  · have fresh : issued.walPrefixDurable = false := rfl
    rw [if_neg (not_not.mpr usable), if_pos fresh, if_neg (not_not.mpr rfl)] at landed
    exact append_ok landed
  · rw [if_pos usable] at landed
    exact nomatch landed

/-- The writer once its session start is durable. -/
def JournalWriter.opened (m : SessionManifest) (payload : Bytes) : JournalWriter where
  capability := { WriteCapability.issued with
    file := fileOf [startEvent m payload], walPrefixDurable := true, sessionStartDurable := true }
  sessionManifest := m
  sessionStart := startEvent m payload
  nextSeq := 2
  recordCount := 1
  rawCount := 0
  derivedCount := 0
  latestRaw := none
  closed := false
  poisoned := false

theorem create_ok {m : SessionManifest} {first second : Conditions} {w : JournalWriter}
    (created : JournalWriter.create m first second = .ok w) : ∃ payload,
      canonicalSessionManifestBytes m = some payload ∧ Encoded (startEvent m payload) ∧
        w = JournalWriter.opened m payload := by
  unfold JournalWriter.create at created
  cases built : JournalWriter.startCandidate m with
  | error reason =>
      rw [built] at created
      exact nomatch created
  | ok pair =>
      obtain ⟨start, frame⟩ := pair
      obtain ⟨payload, written, rfl, frame_ok⟩ := startCandidate_ok built
      obtain ⟨encoded, rfl⟩ := encoded_of_ok frame_ok
      refine ⟨payload, written, encoded, ?_⟩
      cases opened : WriteCapability.issued.writeAll m filePrefixBytes first with
      | mk result capability =>
          cases result with
          | error e =>
              simp only [built, opened] at created
              exact nomatch created
          | ok u =>
              obtain rfl := WriteCapability.writeAll_prefix opened
              simp only [built, opened] at created
              split at created
              · exact nomatch created
              · next stored after answered =>
                  obtain rfl := Except.ok.inj created
                  obtain ⟨rfl, -, capability, landed, rfl⟩ :=
                    JournalWriter.writeEncodedEvent_ok answered
                  obtain rfl := WriteCapability.writeAll_start rfl rfl landed
                  simp [JournalWriter.opened, JournalWriter.recorded, JournalWriter.fresh,
                    WriteCapability.extended, WriteCapability.issued, fileOf, startEvent,
                    controlEvent]

/-- The reader's first turn finds the session's own manifest. -/
theorem manifestFromStart_start {m : SessionManifest} {payload : Bytes}
    (valid : m.validate = .ok ()) (written : canonicalSessionManifestBytes m = some payload) :
    manifestFromStart (startEvent m payload) = .ok m := by
  have read := manifest_read valid written
  refine bind_eq_ok.mpr ⟨(), refuse_ok _ (by simp [startEvent, controlEvent]), ?_⟩
  simp only [startEvent, controlEvent, read]
  exact bind_eq_ok.mpr ⟨(), refuse_ok _ (not_not.mpr rfl), rfl⟩

/-- A created writer and the reader of its file are in step. -/
theorem opened_inStep {m : SessionManifest} {payload : Bytes} (valid : m.validate = .ok ())
    (written : canonicalSessionManifestBytes m = some payload)
    (encoded : Encoded (startEvent m payload)) :
    InStep (JournalWriter.opened m payload) [startEvent m payload] where
  valid := valid
  file := rfl
  encoded := by
    intro event inside
    rw [List.mem_singleton.mp inside]
    exact encoded
  read := by
    intro check
    have admission : admitRecord check .start (startEvent m payload) =
        .ok (WalkState.next { WalkState.start with manifest := some m } (startEvent m payload)) :=
      bind_eq_ok.mpr ⟨(), refuse_ok _ (not_not.mpr rfl),
        bind_eq_ok.mpr ⟨m, manifestFromStart_start valid written, rfl⟩⟩
    have turn : advance check .start (startEvent m payload) =
        .ok (readerState (JournalWriter.opened m payload)) := by
      refine bind_eq_ok.mpr ⟨(), refuse_ok _ Bool.false_ne_true,
        bind_eq_ok.mpr ⟨_, admission, ?_⟩⟩
      rw [pure_eq_ok]
      simp [WalkState.next, WalkState.start, readerState, JournalWriter.opened, startEvent,
        controlEvent, fileOf_length, JournalWriter.latestRawSeq]
    exact bind_eq_ok.mpr ⟨_, turn, rfl⟩
  numbered := rfl
  prefixed := rfl
  started := rfl

end Inci.Journal
