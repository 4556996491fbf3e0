/-
# Journal.Writer -- the journal writer

An append builds the candidate record and its frame first, refuses what breaks
the contract, and only then writes.  A refused candidate leaves the writer as it
is; a failed write poisons it, since bytes may have changed.  `candidate` and
`writeEncodedEvent` are those two halves.
-/
import Inci.Journal.Capability
import Inci.Journal.Capture

namespace Inci.Journal

open Inci.Theory
open Inci.Theory.Json (Text text)

set_option autoImplicit false

inductive JournalError where
  | validation (reason : String)
  | durability (reason : String)
  | diskLow
  deriving DecidableEq

structure JournalWriter where
  capability : WriteCapability
  sessionManifest : SessionManifest
  sessionStart : PersistedEvent
  nextSeq : Nat
  recordCount : Nat
  rawCount : Nat
  derivedCount : Nat
  latestRaw : Option PersistedEvent
  closed : Bool
  poisoned : Bool
  deriving DecidableEq

/-- A candidate record and the frame it is written as. -/
abbrev Candidate := Except String (PersistedEvent × Bytes)

/-- The record's contract and its frame; a broken contract is the stable refusal. -/
def candidate (event : PersistedEvent) : Candidate := do
  recover event.validate (fun _ => true) "journal_candidate_invalid"
  let frame ← encodeFrame event
  pure (event, frame)

/-- `_control_event` -/
def controlEvent (m : SessionManifest) (ingestSeq : Nat) (eventType contentType : Text)
    (payload : Bytes) : PersistedEvent where
  journalVersion := 1
  recordKind := .control
  ingestSeq := ingestSeq
  sessionId := m.sessionId
  eventType := eventType
  eventVersion := 1
  sourceKind := .system
  sourceId := text "tennis-v1"
  sourceEntityId := m.sessionId
  endpointId := none
  endpointState := .absent
  channelId := some (text "session-control")
  channelState := .safeOriginal
  requestId := none
  requestIdState := .absent
  sourceWallNs := none
  sourceGeneratedNs := none
  localWallNs := m.createdWallNs
  localMonotonicNs := 0
  clockUncertaintyNs := 0
  connectionEpoch := 0
  providerSequence := none
  parentIngestSeq := none
  contentType := contentType
  payloadEncoding := text "canonical-json-v1"
  payloadTransform := text "identity-public-market-v1"
  retentionDeleteByNs := none
  payloadSha256 := hexdigest payload
  payload := payload

def startEvent (m : SessionManifest) (payload : Bytes) : PersistedEvent :=
  controlEvent m 1 sessionStartType (text "application/vnd.inci.session-manifest+json") payload

def haltEvent (m : SessionManifest) (ingestSeq : Nat) (payload : Bytes) : PersistedEvent :=
  controlEvent m ingestSeq sessionHaltType (text "application/vnd.inci.session-terminal+json")
    payload

/-- The derived record of a draft: the draft's content in the envelope of its parent. -/
def derivedRecord (parent : PersistedEvent) (draft : DerivedDraft) (ingestSeq : Nat) :
    PersistedEvent :=
  { parent with
    journalVersion := 1
    recordKind := .derived
    ingestSeq := ingestSeq
    eventType := draft.eventType
    eventVersion := draft.eventVersion
    parentIngestSeq := some parent.ingestSeq
    contentType := derivedContentType
    payloadEncoding := draft.payloadEncoding
    payloadTransform := text "derived-canonical-v1"
    payloadSha256 := hexdigest draft.payload
    payload := draft.payload }

namespace JournalWriter

/-! ## Writing one frame -/

def requireWritable (w : JournalWriter) : Except JournalError Unit := do
  refuse (w.poisoned = true) (.durability "journal_durability_uncertain")
  refuse (w.closed = true) (.validation "journal_already_closed")

def poisonAfterAttempt (w : JournalWriter) : JournalWriter :=
  { w with poisoned := true, capability := w.capability.close }

/-- The writer after a durable record. -/
def recorded (w : JournalWriter) (event : PersistedEvent) : JournalWriter :=
  { w with
    nextSeq := w.nextSeq + 1
    recordCount := w.recordCount + 1
    rawCount := w.rawCount + if event.recordKind = .raw then 1 else 0
    derivedCount := w.derivedCount + if event.recordKind = .derived then 1 else 0
    latestRaw := if event.recordKind = .raw then some event else w.latestRaw }

def writeEncodedEvent (w : JournalWriter) (event : PersistedEvent) (frame : Bytes) (halted : Bool)
    (c : Conditions) : Except JournalError PersistedEvent × JournalWriter :=
  match w.requireWritable with
  | .error e => (.error e, w)
  | .ok () =>
      if event.ingestSeq ≠ w.nextSeq then (.error (.validation "journal_sequence_invalid"), w)
      else
        let written :=
          if halted then w.capability.writeHaltControl w.sessionManifest frame c
          else w.capability.writeAll w.sessionManifest frame c
        let after := { w with capability := written.2 }
        match written.1 with
        | .ok () => (.ok event, after.recorded event)
        | .error failure =>
            if failure = .capacity ∧ halted = false then (.error .diskLow, after)
            else (.error (.durability "journal_durability_uncertain"),
              { after with nextSeq := w.nextSeq + 1 }.poisonAfterAttempt)

/-! ## Opening -/

def fresh (m : SessionManifest) (start : PersistedEvent) (capability : WriteCapability) :
    JournalWriter := ⟨capability, m, start, 1, 0, 0, 0, none, false, false⟩

def startCandidate (m : SessionManifest) : Candidate := do
  refuse (m.researchEvaluable ≠ false) "research_evaluable_must_be_literal_false"
  match canonicalSessionManifestBytes m with
  | none => .error "journal_candidate_invalid"
  | some payload => candidate (startEvent m payload)

/-- `JournalWriter.create`, with the conditions of its two writes. -/
def create (m : SessionManifest) (first second : Conditions) : Except JournalError JournalWriter :=
  match startCandidate m with
  | .error reason => .error (.validation reason)
  | .ok (start, frame) =>
      match WriteCapability.issued.writeAll m filePrefixBytes first with
      | (.error _, _) => .error (.durability "journal_durability_uncertain")
      | (.ok (), capability) =>
          match (fresh m start capability).writeEncodedEvent start frame false second with
          | (.error e, _) => .error e
          | (.ok _, w) => .ok w

/-! ## Appending -/

/-- The candidate's refusal, or the write of its frame. -/
def append (w : JournalWriter) (candidate : Candidate) (halted : Bool) (c : Conditions) :
    Except JournalError PersistedEvent × JournalWriter :=
  match w.requireWritable, candidate with
  | .error e, _ => (.error e, w)
  | .ok (), .error reason => (.error (.validation reason), w)
  | .ok (), .ok (event, frame) => w.writeEncodedEvent event frame halted c

def rawCandidate (lib : TextLibrary) (w : JournalWriter) (captured : CapturedInput) : Candidate := do
  recover (validateCapturedInput lib captured w.sessionManifest) (fun _ => true)
    "captured_input_invalid"
  refuse (maxCaptureBytes < captured.payload.length) "captured_payload_invalid"
  refuse (captured.sessionId ≠ w.sessionManifest.sessionId) "captured_session_mismatch"
  if captured.sourceKind = .provider then
    refuse (captured.sourceId ≠ w.sessionManifest.providerId ∨
      captured.retentionDeleteByNs ≠ some w.sessionManifest.requiredRetentionUntilNs)
      "captured_provider_binding_mismatch"
  else
    refuse (captured.retentionDeleteByNs ≠ none) "captured_nonprovider_retention_invalid"
  candidate (captured.rawRecord w.nextSeq)

def appendRaw (lib : TextLibrary) (w : JournalWriter) (captured : CapturedInput) (c : Conditions) :
    Except JournalError PersistedEvent × JournalWriter :=
  w.append (w.rawCandidate lib captured) false c

def derivedCandidate (w : JournalWriter) (parent : PersistedEvent) (draft : DerivedDraft) :
    Candidate := do
  refuse (parent.recordKind ≠ .raw ∨ parent.sessionId ≠ w.sessionManifest.sessionId ∨
    w.latestRaw ≠ some parent) "derived_parent_invalid"
  candidate (derivedRecord parent draft w.nextSeq)

def appendDerived (w : JournalWriter) (parent : PersistedEvent) (draft : DerivedDraft)
    (c : Conditions) : Except JournalError PersistedEvent × JournalWriter :=
  w.append (w.derivedCandidate parent draft) false c

/-! ## Closing -/

def latestRawSeq (w : JournalWriter) : Nat :=
  match w.latestRaw with
  | none => 0
  | some raw => raw.ingestSeq

/-- The terminal of the writer's own counts. -/
def terminal (w : JournalWriter) (clean : Bool) (reason traceSha256 finalStateSha256 : Text)
    (lastAppliedRawSeq : Nat) : Terminal :=
  ⟨clean, reason, traceSha256, finalStateSha256, w.recordCount, w.rawCount, w.derivedCount,
    lastAppliedRawSeq⟩

/-- `_terminal_payload` -/
def terminalPayload (w : JournalWriter) (t : Terminal) : Except String Bytes := do
  refuse (t.reason ∉ permittedReasons t.clean) "terminal_reason_invalid"
  refuse (matchesSha256 t.traceSha256 = false) "terminal_witness_invalid"
  refuse (matchesSha256 t.finalStateSha256 = false) "terminal_witness_invalid"
  refuse (t.clean = true ∧ t.lastAppliedRawSeq ≠ w.latestRawSeq) "terminal_last_applied_invalid"
  refuse (t.clean = false ∧ w.latestRawSeq < t.lastAppliedRawSeq) "terminal_last_applied_invalid"
  match sessionManifestSha256 w.sessionManifest with
  | none => .error "journal_candidate_invalid"
  | some manifestSha256 =>
      match canonicalJsonBytes (.obj (t.members w.sessionManifest manifestSha256)) with
      | none => .error "journal_candidate_invalid"
      | some payload => pure payload

def haltCandidate (w : JournalWriter) (t : Terminal) : Candidate := do
  let payload ← w.terminalPayload t
  candidate (haltEvent w.sessionManifest w.nextSeq payload)

/-- How the steps after the terminal's write go. -/
structure Closing where
  /-- The coordinator acknowledges the clean terminal. -/
  acknowledges : Bool
  /-- The capability closes. -/
  releases : Bool
  deriving DecidableEq

/-- The closing that succeeds. -/
def Closing.smooth : Closing := ⟨true, true⟩

/-- `_close` -/
def close (w : JournalWriter) (clean : Bool) (reason traceSha256 finalStateSha256 : Text)
    (lastAppliedRawSeq : Nat) (c : Conditions) (closing : Closing) :
    Except JournalError PersistedEvent × JournalWriter :=
  let t := w.terminal clean reason traceSha256 finalStateSha256 lastAppliedRawSeq
  match w.append (w.haltCandidate t) (!clean) c with
  | (.error e, after) => (.error e, after)
  | (.ok stored, after) =>
      if clean = true ∧ closing.acknowledges = false then
        (.error (.durability "journal_clean_ack_uncertain"),
          { after.poisonAfterAttempt with closed := true })
      else if closing.releases = false then
        (.error (.durability "journal_durability_uncertain"),
          { after with closed := true, poisoned := true })
      else (.ok stored, { after with closed := true, capability := after.capability.close })

end JournalWriter

end Inci.Journal
