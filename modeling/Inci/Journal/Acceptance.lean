/-
# Journal.Acceptance -- what the writer accepts when every write succeeds

The other modules say what an accepted call did.  Here are the calls that are
accepted: a valid manifest opens a journal, a valid capture and a valid draft are
appended, and a terminal of permitted content closes it.  What is asked beside
validity is that the numbers print and that a payload is below the capture limit.
-/
import Inci.Journal.Closing
import Inci.Journal.CodecRoundTrip

namespace Inci.Journal

open Inci.Theory
open Inci.Theory.Json (Text text)
open Inci.Theory.Layout (size)

set_option autoImplicit false

/-! ## Valid records -/

theorem safeIdentifier_renamed {value : Text} {first second : String}
    (safe : safeIdentifier value first = .ok ()) : safeIdentifier value second = .ok () := by
  rw [safeIdentifier, refuse_eq_ok] at safe ⊢
  exact safe

/-- A control record of a session, whatever its payload. -/
theorem controlEvent_valid {m : SessionManifest} (valid : m.validate = .ok ()) {seq : Nat}
    (positive : 1 ≤ seq) {eventType contentType : Text}
    (named : controlContentType eventType = some contentType) (payload : Bytes) :
    (controlEvent m seq eventType contentType payload).validate = .ok () := by
  simp only [SessionManifest.validate, bind_eq_ok, exists_unit] at valid
  obtain ⟨-, session, -⟩ := valid
  have entity := session
  simp only [validateSessionId, bind_eq_ok, exists_unit] at entity
  have names : safeIdentifier eventType "event_type" = .ok () ∧
      validateContentType contentType = .ok () := by
    unfold controlContentType at named
    by_cases start : eventType = sessionStartType
    · rw [if_pos start, Option.some.injEq] at named
      subst start named
      exact ⟨refuse_ok _ (by decide), refuse_ok _ (by decide)⟩
    · rw [if_neg start] at named
      by_cases halt : eventType = sessionHaltType
      · rw [if_pos halt, Option.some.injEq] at named
        subst halt named
        exact ⟨refuse_ok _ (by decide), refuse_ok _ (by decide)⟩
      · rw [if_neg halt] at named
        exact nomatch named
  have source : safeIdentifier (text "tennis-v1") "source_id" = .ok () :=
    refuse_ok _ (by decide)
  have channel : safeIdentifier (text "session-control") "channel_id" = .ok () :=
    refuse_ok _ (by decide)
  have deadline : (controlEvent m seq eventType contentType payload).validateRetention = .ok () := by
    rw [PersistedEvent.validateRetention, if_neg fun both => both.2 rfl]
    exact refuse_ok _ (not_not.mpr rfl)
  have encoding : validatePayloadEncoding (text "canonical-json-v1") = .ok () :=
    refuse_ok _ (by decide)
  have transform : safeIdentifier (text "identity-public-market-v1") "payload_transform" = .ok () :=
    refuse_ok _ (by decide)
  have known : text "identity-public-market-v1" ∈ recordPayloadTransforms := by decide
  have digest : sha256 (hexdigest payload) "payload_sha256" = .ok () :=
    refuse_ok _ (by rw [hexdigest_matches]; decide)
  simp only [PersistedEvent.validate, bind_eq_ok, exists_unit]
  exact ⟨refuse_ok _ (not_not.mpr rfl), refuse_ok _ (not_lt.mpr positive), session, names.1,
    source, safeIdentifier_renamed entity.1, refuse_ok _ (Nat.lt_irrefl 1),
    refuse_ok _ (not_not.mpr rfl), channel, refuse_ok _ (not_not.mpr rfl), rfl, names.2, encoding,
    transform, refuse_ok _ (not_not.mpr known), digest, refuse_ok _ (not_not.mpr rfl),
    refuse_ok _ (not_not.mpr rfl), deadline, refuse_ok _ (not_not.mpr
      ⟨named, rfl, rfl, rfl, rfl, rfl, rfl, rfl, rfl, rfl, rfl, rfl, rfl, rfl, rfl, rfl, rfl, rfl,
        rfl⟩)⟩

/-- The sequence number a raw record is given decides nothing else of it. -/
theorem rawRecord_valid {captured : CapturedInput} {seq : Nat}
    (valid : (captured.rawRecord 1).validate = .ok ()) (positive : 1 ≤ seq) :
    (captured.rawRecord seq).validate = .ok () := by
  simp only [PersistedEvent.validate, bind_eq_ok, exists_unit] at valid ⊢
  obtain ⟨version, -, others⟩ := valid
  exact ⟨version, refuse_ok _ (not_lt.mpr positive), others⟩

/-- A draft under a valid raw record before it. -/
theorem derivedRecord_valid {parent : PersistedEvent} {draft : DerivedDraft} {seq : Nat}
    (valid : parent.validate = .ok ()) (raw : parent.recordKind = .raw)
    (fits : draft.validate = .ok ()) (later : parent.ingestSeq < seq) :
    (derivedRecord parent draft seq).validate = .ok () := by
  simp only [PersistedEvent.validate, bind_eq_ok, exists_unit] at valid ⊢
  simp only [DerivedDraft.validate, bind_eq_ok, exists_unit] at fits
  obtain ⟨-, positive, session, -, source, entity, -, endpoint, channel, request, provider, -, -,
    -, -, -, -, -, retention, -⟩ := valid
  rw [positiveInteger, refuse_eq_ok, not_lt] at positive
  have content : validateContentType derivedContentType = .ok () := refuse_ok _ (by decide)
  have transform : safeIdentifier (text "derived-canonical-v1") "payload_transform" = .ok () :=
    refuse_ok _ (by decide)
  have known : text "derived-canonical-v1" ∈ recordPayloadTransforms := by decide
  have digest : sha256 (hexdigest draft.payload) "payload_sha256" = .ok () :=
    refuse_ok _ (by rw [hexdigest_matches]; decide)
  have order : ¬(parent.ingestSeq < 1 ∨ seq ≤ parent.ingestSeq) := by omega
  have contract : ¬(derivedContentType ≠ derivedContentType ∨
      text "derived-canonical-v1" ≠ text "derived-canonical-v1") := by simp
  have deadline : (derivedRecord parent draft seq).validateRetention = .ok () := by
    have kind : parent.recordKind ≠ .control := by rw [raw]; decide
    have kind' : (derivedRecord parent draft seq).recordKind ≠ .control := by
      intro control
      cases control
    unfold PersistedEvent.validateRetention at retention ⊢
    by_cases provided : parent.sourceKind = .provider
    · rw [if_pos ⟨provided, kind⟩] at retention
      rw [if_pos ⟨provided, kind'⟩]
      exact retention
    · rw [if_neg fun both => provided both.1] at retention ⊢
      exact retention
  exact ⟨refuse_ok _ (not_not.mpr rfl), refuse_ok _ (not_lt.mpr (positive.trans later.le)),
    session, fits.1, source, entity, fits.2.1, endpoint, channel, request, provider, content,
    fits.2.2, transform, refuse_ok _ (not_not.mpr known), digest, refuse_ok _ (not_not.mpr rfl),
    bind_eq_ok.mpr ⟨(), refuse_ok _ order, refuse_ok _ contract⟩, deadline, rfl⟩

/-! ## Candidates -/

/-- A record that the codec writes and a frame holds. -/
structure Writable (e : PersistedEvent) : Prop where
  valid : e.validate = .ok ()
  prints : Prints e
  manifest : SessionStartPayload e
  numbered : e.ingestSeq < 2 ^ 64
  small : e.payload.length ≤ maxCaptureBytes

theorem Writable.encoded {e : PersistedEvent} (fits : Writable e) : Encoded e := by
  obtain ⟨frame, encoded⟩ :=
    encodeFrame_total fits.valid fits.prints fits.manifest fits.numbered fits.small
  exact (encoded_of_ok encoded).1

theorem Writable.candidate {e : PersistedEvent} (fits : Writable e) :
    Journal.candidate e = .ok (e, frameOf e) := by
  refine bind_eq_ok.mpr ⟨(), ?_, bind_eq_ok.mpr ⟨frameOf e, fits.encoded, rfl⟩⟩
  rw [fits.valid]
  rfl

/-- The first bytes of a frame tell it from the file's own prefix. -/
theorem Encoded.magic {e : PersistedEvent} (encoded : Encoded e) :
    (frameOf e).take 4 = frameMagic ∧ frameOf e ≠ filePrefixBytes := by
  obtain ⟨prefixBytes, metadata, trailer, framed, same⟩ := encoded.framed
  have packed := framed.prefixed
  have named : (frameOf e).take 4 = frameMagic := by
    simp only [Layout.pack] at packed
    split at packed
    · next fits =>
        obtain ⟨tail, -, rfl⟩ := Option.map_eq_some_iff.mp packed
        rw [same, frameBytes, List.append_assoc]
        exact List.take_left' fits
    · cases packed
  refine ⟨named, fun whole => ?_⟩
  rw [whole] at named
  exact absurd named (by decide)

/-! ## Writes that succeed -/

theorem eventRole_ordinary (m : SessionManifest) {e : PersistedEvent}
    (named : e.eventType ≠ sessionStartType ∧ e.eventType ≠ sessionHaltType) :
    eventRole m e = .ok .ordinary := by
  rw [eventRole, if_neg named.1, if_neg named.2]

namespace WriteCapability

variable {m : SessionManifest} {capability : WriteCapability} {e : PersistedEvent}

theorem writeAll_ordinary (usable : capability.Usable .smooth)
    (prefixed : capability.walPrefixDurable = true)
    (started : capability.sessionStartDurable = true) (encoded : Encoded e)
    (role : eventRole m e = .ok .ordinary) :
    capability.writeAll m (frameOf e) .smooth = (.ok (), capability.extended (frameOf e)) := by
  have magic := encoded.magic
  rw [writeAll, if_neg (not_not.mpr usable), if_neg (by rw [prefixed]; decide),
    if_neg (not_or.mpr ⟨magic.2, not_not.mpr magic.1⟩), frameRole_frameOf m encoded, role]
  simp only [started, reduceCtorEq, decide_false, Bool.true_eq_false, if_false]
  rfl

theorem writeAll_sessionStart (usable : capability.Usable .smooth)
    (prefixed : capability.walPrefixDurable = true)
    (fresh : capability.sessionStartDurable = false) (encoded : Encoded e)
    (role : eventRole m e = .ok .sessionStart) :
    capability.writeAll m (frameOf e) .smooth =
      (.ok (), { capability.extended (frameOf e) with sessionStartDurable := true }) := by
  have magic := encoded.magic
  rw [writeAll, if_neg (not_not.mpr usable), if_neg (by rw [prefixed]; decide),
    if_neg (not_or.mpr ⟨magic.2, not_not.mpr magic.1⟩), frameRole_frameOf m encoded, role]
  simp only [fresh, decide_true, Bool.false_eq_true, if_false]
  rfl

theorem writeAll_terminal (usable : capability.Usable .smooth)
    (prefixed : capability.walPrefixDurable = true)
    (started : capability.sessionStartDurable = true) (encoded : Encoded e)
    (role : eventRole m e = .ok (.terminal true)) :
    capability.writeAll m (frameOf e) .smooth = (.ok (), { capability.extended (frameOf e) with
      terminalWritten := true, terminalCleanDurable := true }) := by
  have magic := encoded.magic
  rw [writeAll, if_neg (not_not.mpr usable), if_neg (by rw [prefixed]; decide),
    if_neg (not_or.mpr ⟨magic.2, not_not.mpr magic.1⟩), frameRole_frameOf m encoded, role]
  simp only [started, reduceCtorEq, decide_false, Bool.true_eq_false, if_false]
  rfl

theorem writeHaltControl_terminal (usable : capability.Usable .smooth)
    (prefixed : capability.walPrefixDurable = true)
    (started : capability.sessionStartDurable = true) (first : capability.haltConsumed = false)
    (encoded : Encoded e) (role : eventRole m e = .ok (.terminal false)) :
    capability.writeHaltControl m (frameOf e) .smooth = (.ok (), { capability.extended (frameOf e)
      with haltConsumed := true, terminalWritten := true }) := by
  rw [writeHaltControl, if_neg (not_not.mpr usable), if_neg (by rw [prefixed, started]; decide),
    if_neg (by rw [first]; decide), frameRole_frameOf m encoded, role]
  rfl

end WriteCapability

/-! ## Calls that are accepted -/

theorem JournalWriter.writeEncodedEvent_accepts {w : JournalWriter} {event : PersistedEvent}
    {frame : Bytes} {halted : Bool} {c : Conditions} {capability : WriteCapability}
    (writable : w.requireWritable = .ok ()) (turn : event.ingestSeq = w.nextSeq)
    (landed : w.written frame halted c = (.ok (), capability)) :
    w.writeEncodedEvent event frame halted c =
      (.ok event, { w with capability := capability }.recorded event) := by
  unfold JournalWriter.written at landed
  simp only [JournalWriter.writeEncodedEvent, writable, turn, ne_eq, not_true, if_false, landed]

/-- An open writer whose next write can succeed. -/
structure Ready (w : JournalWriter) (events : List PersistedEvent) : Prop where
  step : InStep w events
  usable : w.capability.Usable .smooth
  unhalted : w.capability.haltConsumed = false
  open_ : w.requireWritable = .ok ()
  counted : w.recordCount = w.rawCount + w.derivedCount + 1
  earlier : w.latestRawSeq < w.nextSeq

namespace Ready

variable {w : JournalWriter} {events : List PersistedEvent} {e : PersistedEvent}

theorem append (ready : Ready w events) (fits : Writable e) (turn : e.ingestSeq = w.nextSeq)
    (ordinary : eventRole w.sessionManifest e = .ok .ordinary) :
    w.append (.ok (e, frameOf e)) false .smooth = (.ok e, w.wrote e) := by
  have landed := WriteCapability.writeAll_ordinary ready.usable ready.step.prefixed
    ready.step.started fits.encoded ordinary
  have written : w.written (frameOf e) false .smooth = _ := landed
  simp only [JournalWriter.append, ready.open_]
  exact JournalWriter.writeEncodedEvent_accepts ready.open_ turn written

theorem wrote (ready : Ready w events) (expected : Expected w e) :
    Ready (w.wrote e) (events ++ [e]) := by
  have counted := ready.counted
  have earlier := ready.earlier
  refine ⟨ready.step.wrote expected, ready.usable, ready.unhalted, ready.open_, ?_, ?_⟩
  · cases kind : e.recordKind with
    | raw => simp only [JournalWriter.wrote, JournalWriter.recorded, kind, if_true, reduceCtorEq,
        if_false]; omega
    | derived => simp only [JournalWriter.wrote, JournalWriter.recorded, kind, if_true, reduceCtorEq,
        if_false]; omega
    | control => exact absurd kind expected.ordinary
  · show (w.wrote e).latestRawSeq < w.nextSeq + 1
    by_cases raw : e.recordKind = .raw
    · simp only [JournalWriter.latestRawSeq, JournalWriter.wrote, JournalWriter.recorded, raw,
        if_true, expected.sequence]
      omega
    · have same : (w.wrote e).latestRawSeq = w.latestRawSeq := by
        simp only [JournalWriter.latestRawSeq, JournalWriter.wrote, JournalWriter.recorded, raw,
          if_false]
      omega

/-- A valid capture is appended. -/
theorem appendRaw {lib : TextLibrary} {captured : CapturedInput} (seq : Nat)
    (ready : Ready w events) (turn : w.nextSeq = seq)
    (valid : validateCapturedInput lib captured w.sessionManifest = .ok ())
    (prints : Prints (captured.rawRecord seq)) (numbered : seq < 2 ^ 64)
    (small : captured.payload.length ≤ maxCaptureBytes)
    (named : captured.eventType ≠ sessionStartType ∧ captured.eventType ≠ sessionHaltType) :
    w.appendRaw lib captured .smooth =
        (.ok (captured.rawRecord seq), w.wrote (captured.rawRecord seq)) ∧
      Ready (w.wrote (captured.rawRecord seq)) (events ++ [captured.rawRecord seq]) := by
  subst turn
  have positive : 1 ≤ w.nextSeq := by rw [ready.step.numbered]; omega
  have checked := valid
  simp only [validateCapturedInput, bind_eq_ok, exists_unit] at checked
  obtain ⟨session, -, -, first, binding⟩ := checked
  rw [refuse_eq_ok, not_not] at session
  have record := rawRecord_valid (recover_eq_ok.mp first) positive
  have fits : Writable (captured.rawRecord w.nextSeq) :=
    ⟨record, prints, fun control => (by cases control), numbered, small⟩
  have ordinary := eventRole_ordinary (e := captured.rawRecord w.nextSeq) w.sessionManifest named
  have built : w.rawCandidate lib captured =
      .ok (captured.rawRecord w.nextSeq, frameOf (captured.rawRecord w.nextSeq)) := by
    refine bind_eq_ok.mpr ⟨(), recover_eq_ok.mpr valid, bind_eq_ok.mpr
      ⟨(), refuse_ok _ (not_lt.mpr small), bind_eq_ok.mpr
        ⟨(), refuse_ok _ (not_not.mpr session), ?_⟩⟩⟩
    by_cases provided : captured.sourceKind = .provider
    · rw [if_pos provided] at binding ⊢
      rw [refuse_eq_ok] at binding
      exact bind_eq_ok.mpr ⟨(), refuse_ok _ binding, fits.candidate⟩
    · rw [if_neg provided] at binding ⊢
      rw [refuse_eq_ok, not_or] at binding
      exact bind_eq_ok.mpr ⟨(), refuse_ok _ binding.2, fits.candidate⟩
  refine ⟨?_, ready.wrote ⟨fits.encoded, rfl, session, fun control => (by cases control), named.1,
    fun derived => by cases derived⟩⟩
  rw [JournalWriter.appendRaw, built, ready.append fits rfl ordinary]

/-- A valid draft is appended to the latest raw record. -/
theorem appendDerived {parent : PersistedEvent} {draft : DerivedDraft} (seq : Nat)
    (ready : Ready w events) (turn : w.nextSeq = seq) (latest : w.latestRaw = some parent) (raw : parent.recordKind = .raw)
    (session : parent.sessionId = w.sessionManifest.sessionId) (valid : parent.validate = .ok ())
    (before : parent.ingestSeq < seq) (fits : draft.validate = .ok ())
    (prints : Prints (derivedRecord parent draft seq)) (numbered : seq < 2 ^ 64)
    (small : draft.payload.length ≤ maxCaptureBytes)
    (named : draft.eventType ≠ sessionStartType ∧ draft.eventType ≠ sessionHaltType) :
    w.appendDerived parent draft .smooth =
        (.ok (derivedRecord parent draft seq), w.wrote (derivedRecord parent draft seq)) ∧
      Ready (w.wrote (derivedRecord parent draft seq))
        (events ++ [derivedRecord parent draft seq]) := by
  subst turn
  have record := derivedRecord_valid valid raw fits before
  have writable : Writable (derivedRecord parent draft w.nextSeq) :=
    ⟨record, prints, fun control => (by cases control), numbered, small⟩
  have ordinary := eventRole_ordinary (e := derivedRecord parent draft w.nextSeq) w.sessionManifest
    named
  have built : w.derivedCandidate parent draft = .ok (derivedRecord parent draft w.nextSeq,
      frameOf (derivedRecord parent draft w.nextSeq)) := by
    refine bind_eq_ok.mpr ⟨(), refuse_ok _ ?_, writable.candidate⟩
    simp only [raw, session, latest, ne_eq, not_true, or_self, not_false_eq_true]
  refine ⟨?_, ready.wrote ⟨writable.encoded, rfl, session, nofun, named.1, fun _ => ?_⟩⟩
  · rw [JournalWriter.appendDerived, built, ready.append writable rfl ordinary]
  · rw [JournalWriter.latestRawSeq, latest]
    rfl

end Ready

/-! ## Creation -/

theorem manifest_terse {m : SessionManifest} (valid : m.validate = .ok ()) :
    ∀ entry ∈ m.projection, Terse entry.2 := by
  simp only [SessionManifest.validate, validateSessionId, bind_eq_ok, exists_unit] at valid
  obtain ⟨-, ⟨session, -⟩, -, d1, d2, d3, d4, d5, d6, d7, d8, d9, d10, d11, d12, d13, i1, i2, i3,
    i4, -⟩ := valid
  simp only [SessionManifest.projection, List.mem_cons, List.not_mem_nil, or_false,
    forall_eq_or_imp, forall_eq]
  exact ⟨trivial, safeIdentifier_terse session, trivial, sha256_terse d1, sha256_terse d2,
    sha256_terse d3, sha256_terse d4, safeIdentifier_terse i1, safeIdentifier_terse i2,
    safeIdentifier_terse i3, sha256_terse d5, sha256_terse d6, sha256_terse d7,
    safeIdentifier_terse i4, sha256_terse d8, sha256_terse d9, sha256_terse d10, sha256_terse d11,
    sha256_terse d12, sha256_terse d13, trivial, trivial, trivial, trivial, trivial⟩

/-- A valid manifest that prints has its canonical bytes, and they are few. -/
theorem manifest_written {m : SessionManifest} (valid : m.validate = .ok ())
    (prints : Json.printable (.obj m.projection) = true) :
    ∃ payload, canonicalSessionManifestBytes m = some payload ∧ payload.length ≤ maxCaptureBytes := by
  have keys : ∀ k ∈ sessionManifestKeys, k.length ≤ 36 := by
    simp only [sessionManifestKeys, List.map_cons, List.map_nil, Json.text_ofList]
    decide
  obtain ⟨payload, written, short⟩ := terse_written (manifest_terse valid)
    (fun entry inside => keys entry.1 (projection_keys m ▸ List.mem_map_of_mem inside)) prints
  refine ⟨payload, written, short.trans ?_⟩
  show 25 * 4800 + 2 ≤ 8388608
  omega

/-- The capability once the file's own prefix is durable. -/
def WriteCapability.headed : WriteCapability :=
  { issued.extended filePrefixBytes with walPrefixDurable := true }

theorem opened_recorded (m : SessionManifest) (payload : Bytes) :
    JournalWriter.opened m payload =
      { JournalWriter.fresh m (startEvent m payload) .headed with
        capability := { WriteCapability.headed.extended (frameOf (startEvent m payload)) with
          sessionStartDurable := true } }.recorded (startEvent m payload) := by
  simp [JournalWriter.opened, JournalWriter.recorded, JournalWriter.fresh, WriteCapability.extended,
    WriteCapability.issued, WriteCapability.headed, fileOf, startEvent, controlEvent]

/-- A valid manifest opens a journal. -/
theorem create_accepts {m : SessionManifest} (valid : m.validate = .ok ())
    (prints : Json.printable (.obj m.projection) = true)
    (numbers : ∀ payload, Prints (startEvent m payload)) :
    ∃ payload, canonicalSessionManifestBytes m = some payload ∧
      JournalWriter.create m .smooth .smooth = .ok (JournalWriter.opened m payload) ∧
      Ready (JournalWriter.opened m payload) [startEvent m payload] := by
  obtain ⟨payload, written, small⟩ := manifest_written valid prints
  have evaluable : m.researchEvaluable = false := by
    simp only [SessionManifest.validate, bind_eq_ok, exists_unit] at valid
    obtain ⟨-, -, -, -, -, -, -, -, -, -, -, -, -, -, -, -, -, -, -, -, evaluable⟩ := valid
    rw [refuse_eq_ok, not_not] at evaluable
    exact evaluable
  have start : Writable (startEvent m payload) := by
    refine ⟨controlEvent_valid valid le_rfl (if_pos rfl) payload, numbers payload, fun _ _ => ?_,
      (by decide : 1 < 2 ^ 64), small⟩
    have read := manifest_read valid written
    show ((strictObject payload sessionManifestKeys).bind manifestOf).isSome = true
    rw [read]
    rfl
  have role : eventRole m (startEvent m payload) = .ok .sessionStart := by
    have named : (startEvent m payload).eventType = sessionStartType := rfl
    rw [eventRole, if_pos named]
    refine bind_eq_ok.mpr ⟨(), refuse_ok _ ?_, rfl⟩
    simp [startEvent, controlEvent, written]
  have first : WriteCapability.issued.writeAll m filePrefixBytes .smooth = (.ok (), .headed) := by
    have fresh : WriteCapability.issued.walPrefixDurable = false := rfl
    rw [WriteCapability.writeAll, if_neg (by decide), if_pos fresh, if_neg (not_not.mpr rfl)]
    rfl
  have second := @WriteCapability.writeAll_sessionStart m .headed _ ⟨rfl, rfl, rfl, rfl⟩ rfl rfl
    start.encoded role
  have built : JournalWriter.startCandidate m =
      .ok (startEvent m payload, frameOf (startEvent m payload)) := by
    refine bind_eq_ok.mpr ⟨(), refuse_ok _ (not_not.mpr evaluable), ?_⟩
    rw [written]
    exact start.candidate
  refine ⟨payload, written, ?_, opened_inStep valid written start.encoded, ⟨rfl, rfl, rfl, rfl⟩, rfl,
    rfl, rfl, (by decide : 0 < 2)⟩
  have landed := @JournalWriter.writeEncodedEvent_accepts
    (JournalWriter.fresh m (startEvent m payload) .headed) (startEvent m payload)
    (frameOf (startEvent m payload)) false .smooth _ rfl rfl second
  rw [JournalWriter.create, built]
  simp only [first, landed]
  rw [opened_recorded]

/-! ## Closing -/

section Closing

variable {w : JournalWriter} {events : List PersistedEvent} {t : Terminal} {manifestSha256 : Text}
  {payload : Bytes}

theorem terminal_terse {m : SessionManifest} (fits : t.Valid) (valid : m.validate = .ok ())
    (digest : matchesSha256 manifestSha256 = true) :
    ∀ entry ∈ t.members m manifestSha256, Terse entry.2 := by
  have strings := manifest_digests valid digest
  have hex : ∀ {value : Text}, matchesSha256 value = true → Terse (.str value) := by
    intro value fine
    have named : sha256 value "" = .ok () := refuse_ok _ (by rw [fine]; exact nofun)
    exact sha256_terse named
  have reasons : ∀ clean, ∀ reason ∈ permittedReasons clean, reason.length ≤ 193 := by
    simp only [Bool.forall_bool, permittedReasons, Bool.false_eq_true, if_false, if_true,
      cleanTerminalReasons, haltedTerminalReasons, List.map_cons, List.map_nil, Json.text_ofList]
    decide
  intro entry inside
  simp only [Terminal.members, List.append_assoc, List.mem_append, List.mem_map] at inside
  rcases inside with first | ⟨d, known, rfl⟩ | last
  · simp only [List.mem_cons, List.not_mem_nil, or_false] at first
    rcases first with rfl | rfl | rfl | rfl | rfl | rfl | rfl | rfl | rfl
    · trivial
    · trivial
    · exact ⟨(permittedReasons_ascii _ _ fits.reason).1, reasons _ _ fits.reason⟩
    · exact hex fits.trace
    · exact hex fits.finalState
    all_goals trivial
  · exact hex (strings d known)
  · simp only [List.mem_cons, List.not_mem_nil, or_false] at last
    rcases last with rfl | rfl <;> trivial

/-- A terminal of the writer's counts is written under the capability's own checks. -/
theorem Ready.role (ready : Ready w events) (fits : t.Valid)
    (counts : t.recordCountBeforeTerminal = w.recordCount ∧ t.rawCount = w.rawCount ∧
      t.derivedCount = w.derivedCount)
    (applied : t.lastAppliedRawSeq ≤ w.latestRawSeq)
    (known : sessionManifestSha256 w.sessionManifest = some manifestSha256)
    (written : canonicalJsonBytes (.obj (t.members w.sessionManifest manifestSha256)) =
      some payload) :
    eventRole w.sessionManifest (haltEvent w.sessionManifest w.nextSeq payload) =
      .ok (.terminal t.clean) := by
  have digest := sessionManifestSha256_matches known
  obtain ⟨raw, read, same⟩ := terminal_read fits ready.step.valid digest written
  have grammar := terminalGrammar_members retentionTexts true fits ready.step.valid digest same
  obtain ⟨-, -, -, -, carried⟩ :=
    @Terminal.members_values t w.sessionManifest manifestSha256
  have carried := carried.congr same
  have bound : Carries raw (provenanceDigests w.sessionManifest manifestSha256)
      (provenanceNumbers w.sessionManifest) :=
    carried.sub (fun d inside => List.mem_append_right _ inside)
      fun n inside => List.mem_append_right _ inside
  have records := carried.2 ("record_count_before_terminal", t.recordCountBeforeTerminal) (by simp)
  have raws := carried.2 ("raw_count", t.rawCount) (by simp)
  have derived := carried.2 ("derived_count", t.derivedCount) (by simp)
  have last := carried.2 ("last_applied_raw_seq", t.lastAppliedRawSeq) (by simp)
  have numbered := ready.step.numbered
  have counted := ready.counted
  have earlier := ready.earlier
  have kind : (haltEvent w.sessionManifest w.nextSeq payload).eventType = sessionHaltType := rfl
  rw [eventRole, if_neg (by rw [kind]; decide), if_pos kind]
  refine bind_eq_ok.mpr ⟨(), refuse_ok _ (by simp [haltEvent, controlEvent]), ?_⟩
  simp only [haltEvent, controlEvent, read]
  refine bind_eq_ok.mpr ⟨_, grammar, ?_⟩
  simp only [known, records, raws, derived, last]
  refine bind_eq_ok.mpr ⟨(), refuse_ok _ (not_not.mpr bound), bind_eq_ok.mpr ⟨(), refuse_ok _ ?_,
    rfl⟩⟩
  show ¬(t.recordCountBeforeTerminal + 1 ≠ w.nextSeq ∨
    t.recordCountBeforeTerminal < t.rawCount + t.derivedCount + 1 ∨
      w.nextSeq ≤ t.lastAppliedRawSeq)
  omega

/-- A terminal of permitted content closes the journal. -/
theorem Ready.close {clean : Bool} {reason traceSha256 finalStateSha256 : Text}
    {lastAppliedRawSeq : Nat} {m : SessionManifest} (seq : Nat) (t : Terminal) (ready : Ready w events)
    (session : w.sessionManifest = m) (turn : w.nextSeq = seq)
    (counts : w.terminal clean reason traceSha256 finalStateSha256 lastAppliedRawSeq = t)
    (fits : t.Valid) (ended : clean = true → lastAppliedRawSeq = w.latestRawSeq)
    (halted : clean = false → lastAppliedRawSeq ≤ w.latestRawSeq)
    (printed : Json.printable (.obj m.projection) = true)
    (prints : ∀ digest, Json.printable (.obj (t.members m digest)) = true)
    (numbers : ∀ payload, Prints (haltEvent m seq payload)) (numbered : seq < 2 ^ 64) :
    ∃ payload, (w.close clean reason traceSha256 finalStateSha256 lastAppliedRawSeq .smooth
      .smooth).1 = .ok (haltEvent m seq payload) := by
  subst session turn counts
  obtain ⟨content, manifest, -⟩ := manifest_written ready.step.valid printed
  have known : sessionManifestSha256 w.sessionManifest = some (hexdigest content) := by
    rw [sessionManifestSha256, manifest, Option.map_some]
  have digest := sessionManifestSha256_matches known
  have keys : ∀ k ∈ writtenKeys, k.length ≤ 36 := by
    simp only [writtenKeys, provenanceDigestNames, List.cons_append, List.nil_append, List.map_cons,
      List.map_nil, Json.text_ofList]
    decide
  have named : ∀ entry ∈ (w.terminal clean reason traceSha256 finalStateSha256
      lastAppliedRawSeq).members w.sessionManifest (hexdigest content), entry.1 ∈ writtenKeys := by
    intro entry inside
    have listed := List.mem_map_of_mem (f := Prod.fst) inside
    simpa only [Terminal.members, writtenKeys, provenanceDigests, provenanceDigestNames,
      List.map_cons, List.map_nil, List.cons_append, List.nil_append] using listed
  obtain ⟨payload, written, short⟩ := terse_written
    (terminal_terse fits ready.step.valid digest)
    (fun entry inside => keys _ (named entry inside)) (prints _)
  have applied : lastAppliedRawSeq ≤ w.latestRawSeq := by
    cases clean with
    | true => exact (ended rfl).le
    | false => exact halted rfl
  have role := ready.role fits ⟨rfl, rfl, rfl⟩ applied known written
  have positive : 1 ≤ w.nextSeq := by rw [ready.step.numbered]; omega
  have record : Writable (haltEvent w.sessionManifest w.nextSeq payload) := by
    refine ⟨controlEvent_valid ready.step.valid positive ?_ payload, numbers payload,
      fun _ other => absurd (show sessionHaltType = sessionStartType from other) (by decide),
      numbered, short.trans ?_⟩
    · rw [controlContentType, if_neg (by decide), if_pos rfl]
    · show 24 * 4800 + 2 ≤ 8388608
      omega
  have built : w.haltCandidate (w.terminal clean reason traceSha256 finalStateSha256
      lastAppliedRawSeq) = .ok (haltEvent w.sessionManifest w.nextSeq payload,
        frameOf (haltEvent w.sessionManifest w.nextSeq payload)) := by
    refine bind_eq_ok.mpr ⟨payload, ?_, record.candidate⟩
    refine bind_eq_ok.mpr ⟨(), refuse_ok _ (not_not.mpr fits.reason), bind_eq_ok.mpr
      ⟨(), refuse_ok _ (by rw [fits.trace]; decide), bind_eq_ok.mpr
        ⟨(), refuse_ok _ (by rw [fits.finalState]; decide), bind_eq_ok.mpr
          ⟨(), refuse_ok _ fun both => both.2 (ended both.1), bind_eq_ok.mpr
            ⟨(), refuse_ok _ fun both => absurd (halted both.1) (not_le.mpr both.2), ?_⟩⟩⟩⟩⟩
    simp only [known, written]
    rfl
  have landed : ∃ capability, w.written (frameOf (haltEvent w.sessionManifest w.nextSeq payload))
      (!clean) .smooth = (.ok (), capability) := by
    cases clean with
    | true => exact ⟨_, WriteCapability.writeAll_terminal ready.usable ready.step.prefixed
        ready.step.started record.encoded role⟩
    | false => exact ⟨_, WriteCapability.writeHaltControl_terminal ready.usable
        ready.step.prefixed ready.step.started ready.unhalted record.encoded role⟩
  obtain ⟨capability, landed⟩ := landed
  have stored := @JournalWriter.writeEncodedEvent_accepts w
    (haltEvent w.sessionManifest w.nextSeq payload) _ _ _ _ ready.open_ rfl landed
  refine ⟨payload, ?_⟩
  simp only [JournalWriter.close, JournalWriter.append, ready.open_, built, stored,
    JournalWriter.Closing.smooth, Bool.true_eq_false, and_false, if_false]

end Closing

end Inci.Journal
