/-
# Journal.WriteRead -- a written journal is read back

A session is a created writer and a list of operations that it accepts one after
the other.  `write_then_read` reads its file back: the scan and the diagnostic
iteration raise nothing, yield the written records and report the writer's own
counts.
-/
import Inci.Journal.Acceptance

namespace Inci.Journal

open Inci.Theory
open Inci.Theory.Json (Text text)
open Inci.Theory.Layout (size)

set_option autoImplicit false

/-! ## Sessions -/

/-- One call of the writer, with what the coordinator and the disk answer to it. -/
inductive Operation where
  | appendRaw (captured : CapturedInput) (c : Conditions)
  /-- A derived append on the latest raw record. -/
  | appendDerived (draft : DerivedDraft) (c : Conditions)
  | close (clean : Bool) (reason traceSha256 finalStateSha256 : Text) (lastAppliedRawSeq : Nat)
      (c : Conditions) (closing : JournalWriter.Closing)

def Operation.perform (lib : TextLibrary) (w : JournalWriter) :
    Operation → Except JournalError PersistedEvent × JournalWriter
  | .appendRaw captured c => w.appendRaw lib captured c
  | .appendDerived draft c =>
      match w.latestRaw with
      | none => (.error (.validation "derived_parent_invalid"), w)
      | some parent => w.appendDerived parent draft c
  | .close clean reason traceSha256 finalStateSha256 lastAppliedRawSeq c closing =>
      w.close clean reason traceSha256 finalStateSha256 lastAppliedRawSeq c closing

/-- The writer after operations that it accepts, and their records. -/
def performAll (lib : TextLibrary) :
    JournalWriter → List Operation → Option (JournalWriter × List PersistedEvent)
  | w, [] => some (w, [])
  | w, operation :: rest =>
      match operation.perform lib w with
      | (.error _, _) => none
      | (.ok event, after) => (performAll lib after rest).map fun r => (r.1, event :: r.2)

/-- A session's writer and all its records. -/
def session (lib : TextLibrary) (m : SessionManifest) (first second : Conditions)
    (operations : List Operation) : Option (JournalWriter × List PersistedEvent) :=
  match JournalWriter.create m first second with
  | .error _ => none
  | .ok w => (performAll lib w operations).map fun r => (r.1, w.sessionStart :: r.2)

/-- Whether a session ends with a close, and how. -/
def ending (operations : List Operation) : Option Bool :=
  match operations.getLast? with
  | some (.close clean _ _ _ _ _ _) => some clean
  | _ => none

/-- The issue a scan reports for a session's ending. -/
def endingIssue : Option Bool → Option ScanIssue
  | none => some .missingTerminal
  | some true => none
  | some false => some .haltedTerminal

/-! ## One operation -/

theorem closed_refuses (lib : TextLibrary) {w : JournalWriter} (closed : w.closed = true)
    (operation : Operation) : ∃ e, (operation.perform lib w).1 = .error e := by
  have refused : ∃ e, w.requireWritable = .error e := by
    unfold JournalWriter.requireWritable
    by_cases poisoned : w.poisoned = true
    · exact ⟨.durability "journal_durability_uncertain", by simp [refuse, poisoned]⟩
    · exact ⟨.validation "journal_already_closed", by simp [refuse, poisoned, closed]⟩
  obtain ⟨e, refused⟩ := refused
  have append : ∀ built halted c, w.append built halted c = (.error e, w) := by
    intro built halted c
    unfold JournalWriter.append
    rw [refused]
  cases operation with
  | appendRaw captured c => exact ⟨e, congrArg Prod.fst (append _ _ _)⟩
  | appendDerived draft c =>
      cases latest : w.latestRaw with
      | none =>
          refine ⟨.validation "derived_parent_invalid", ?_⟩
          simp only [Operation.perform, latest]
      | some parent =>
          refine ⟨e, ?_⟩
          simp only [Operation.perform, latest]
          exact congrArg Prod.fst (append _ _ _)
  | close clean reason traceSha256 finalStateSha256 lastAppliedRawSeq c closing =>
      refine ⟨e, ?_⟩
      simp only [Operation.perform, JournalWriter.close, append]

theorem close_ok {w w' : JournalWriter} {clean : Bool} {reason traceSha256 finalStateSha256 : Text}
    {lastAppliedRawSeq : Nat} {c : Conditions} {closing : JournalWriter.Closing}
    {event : PersistedEvent} (accepted : w.close clean reason traceSha256 finalStateSha256
      lastAppliedRawSeq c closing = (.ok event, w')) :
    ∃ after, w.append (w.haltCandidate (w.terminal clean reason traceSha256 finalStateSha256
        lastAppliedRawSeq)) (!clean) c = (.ok event, after) ∧
      w' = { after with closed := true, capability := after.capability.close } := by
  unfold JournalWriter.close at accepted
  cases answer : w.append (w.haltCandidate (w.terminal clean reason traceSha256 finalStateSha256
      lastAppliedRawSeq)) (!clean) c with
  | mk result after =>
      cases result with
      | error e =>
          simp only [answer] at accepted
          exact nomatch accepted
      | ok stored =>
          simp only [answer] at accepted
          split at accepted
          · exact nomatch accepted
          · split at accepted
            · exact nomatch accepted
            · obtain ⟨same, after'⟩ := Prod.mk.inj accepted
              exact ⟨after, by rw [Except.ok.inj same], after'.symm⟩

/-- The file and the counts of a writer that has ended. -/
theorem Ended.closing {w : JournalWriter} {events : List PersistedEvent} {clean : Bool}
    (ended : Ended w events clean) :
    Ended { w with closed := true, capability := w.capability.close } events clean :=
  ⟨ended.file, ended.encoded, ended.scanned, ended.replayed⟩

/-- An accepted operation appends its record, or ends the session with it. -/
theorem InStep.perform {lib : TextLibrary} {w w' : JournalWriter} {events : List PersistedEvent}
    {operation : Operation} {event : PersistedEvent} (step : InStep w events)
    (accepted : operation.perform lib w = (.ok event, w')) :
    (ending [operation] = none ∧ InStep w' (events ++ [event])) ∨
      (∃ clean, ending [operation] = some clean ∧ w'.closed = true ∧
        Ended w' (events ++ [event]) clean) := by
  cases operation with
  | appendRaw captured c => exact Or.inl ⟨rfl, (step.appendRaw accepted).2.2.2⟩
  | appendDerived draft c =>
      cases latest : w.latestRaw with
      | none =>
          simp only [Operation.perform, latest] at accepted
          exact nomatch accepted
      | some parent =>
          simp only [Operation.perform, latest] at accepted
          exact Or.inl ⟨rfl, (step.appendDerived accepted).2.2.2⟩
  | close clean reason traceSha256 finalStateSha256 lastAppliedRawSeq c closing =>
      obtain ⟨after, appended, rfl⟩ := close_ok accepted
      obtain ⟨-, -, -, -, -, ended⟩ := step.terminal ⟨rfl, rfl, rfl⟩ appended
      exact Or.inr ⟨clean, rfl, rfl, ended.closing⟩

/-- The operations of a session, by induction from the first. -/
theorem InStep.performAll {lib : TextLibrary} {operations : List Operation} :
    ∀ {w w' : JournalWriter} {events more : List PersistedEvent}, InStep w events →
      Journal.performAll lib w operations = some (w', more) →
      (ending operations = none ∧ InStep w' (events ++ more)) ∨
        (∃ clean, ending operations = some clean ∧ Ended w' (events ++ more) clean) := by
  induction operations with
  | nil =>
      intro w w' events more step run
      obtain ⟨rfl, rfl⟩ := Prod.mk.inj (Option.some.inj run)
      exact Or.inl ⟨rfl, by rwa [List.append_nil]⟩
  | cons operation rest ih =>
      intro w w' events more step run
      cases answer : operation.perform lib w with
      | mk result after =>
          cases result with
          | error e =>
              simp only [Journal.performAll, answer] at run
              exact nomatch run
          | ok event =>
              simp only [Journal.performAll, answer, Option.map_eq_some_iff] at run
              obtain ⟨⟨last, others⟩, run, same⟩ := run
              obtain ⟨rfl, rfl⟩ := Prod.mk.inj same
              have joined : events ++ event :: others = (events ++ [event]) ++ others := by simp
              rcases step.perform answer with ⟨open_, next⟩ | ⟨clean, ended, closed, next⟩
              · have finish := ih next run
                rw [← joined] at finish
                cases rest with
                | nil =>
                    rcases finish with ⟨-, last⟩ | ⟨_, impossible, -⟩
                    · exact Or.inl ⟨open_, last⟩
                    · exact nomatch impossible
                | cons second others => simpa [ending] using finish
              · cases rest with
                | nil =>
                    obtain ⟨rfl, rfl⟩ := Prod.mk.inj (Option.some.inj run)
                    exact Or.inr ⟨clean, ended, next⟩
                | cons second others =>
                    obtain ⟨e, refused⟩ := closed_refuses lib closed second
                    simp only [Journal.performAll] at run
                    split at run
                    · exact nomatch run
                    · next accepted =>
                        rw [accepted] at refused
                        exact nomatch refused

/-- An operation that is accepted before others that are. -/
theorem performAll_accepts {lib : TextLibrary} {w after : JournalWriter} (operation : Operation)
    {rest : List Operation} {event : PersistedEvent} (answer : operation.perform lib w = (.ok event, after))
    (others : ∃ run, performAll lib after rest = some run) :
    ∃ run, performAll lib w (operation :: rest) = some run := by
  obtain ⟨run, performed⟩ := others
  refine ⟨(run.1, event :: run.2), ?_⟩
  rw [performAll, answer]
  exact Option.map_eq_some_iff.mpr ⟨run, performed, rfl⟩

/-- What a session's file holds, and where the reader stands after it. -/
theorem session_reads {lib : TextLibrary} {m : SessionManifest} {first second : Conditions}
    {operations : List Operation} {w : JournalWriter} {events : List PersistedEvent}
    (valid : m.validate = .ok ())
    (run : session lib m first second operations = some (w, events)) :
    w.capability.file = fileOf events ∧ (∀ event ∈ events, Encoded event) ∧
      ∃ clean : Bool × Bool, ending operations = (if clean.1 then some clean.2 else none) ∧
        advanceAll validateTerminal .start events =
          .ok { readerState w with terminalSeen := clean.1, terminalClean := clean.1 && clean.2 } := by
  unfold session at run
  cases created : JournalWriter.create m first second with
  | error e =>
      rw [created] at run
      exact nomatch run
  | ok opened =>
      simp only [created, Option.map_eq_some_iff] at run
      obtain ⟨⟨w', more⟩, performed, same⟩ := run
      obtain ⟨rfl, rfl⟩ := Prod.mk.inj same
      clear same
      obtain ⟨payload, written, encoded, rfl⟩ := create_ok created
      rcases (opened_inStep valid written encoded).performAll performed with
        ⟨open_, step⟩ | ⟨clean, ended, step⟩
      · exact ⟨step.file, step.encoded, (false, false), open_, step.read validateTerminal⟩
      · refine ⟨step.file, step.encoded, (true, clean), ended, ?_⟩
        rw [Bool.true_and]
        exact step.scanned

/-- A written journal is read back: the scan and the diagnostic iteration of a
session's file raise nothing, yield its records in order and report its counts. -/
theorem write_then_read {lib : TextLibrary} {m : SessionManifest} {first second : Conditions}
    {operations : List Operation} {w : JournalWriter} {events : List PersistedEvent}
    (valid : m.validate = .ok ())
    (run : session lib m first second operations = some (w, events)) :
    iterRecords w.capability.file true = (events, .ok ()) ∧
      scan w.capability.file false = .ok
        { fileSize := w.capability.file.length
          lastGoodOffset := w.capability.file.length
          lastGoodIngestSeq := w.recordCount
          recordCount := w.recordCount
          rawCount := w.rawCount
          derivedCount := w.derivedCount
          terminalClean := decide (ending operations = some true)
          issue := endingIssue (ending operations)
          walValid := true } := by
  obtain ⟨file, encoded, ⟨seen, clean⟩, ended, read⟩ := session_reads valid run
  have walked := walk_whole encoded read
  rw [← file] at walked
  constructor
  · rw [iterRecords, walked]
    exact Prod.ext rfl (bind_eq_ok.mpr ⟨_, rfl, refuse_ok _ (by simp)⟩)
  · rw [scan, walked, ended]
    refine bind_eq_ok.mpr ⟨_, rfl, bind_eq_ok.mpr ⟨(), refuse_ok _ (by simp), ?_⟩⟩
    cases seen with
    | false => rfl
    | true => cases clean <;> rfl

/-! ## A session that is read back -/

/-- The library functions on ASCII texts without a URL. -/
def asciiLibrary : TextLibrary where
  casefold := List.map fun c => if 65 ≤ c ∧ c ≤ 90 then c + 32 else c
  isalnum := isAlphanumeric
  upper := List.map fun c => if isLower c then c - 32 else c
  urls := fun _ => []
  urlsplit := fun _ => none

def sampleDigest : Text := List.replicate 64 97

def sampleManifest : SessionManifest where
  schemaVersion := 1
  sessionId := text "00000000-0000-4000-8000-000000000001"
  createdWallNs := 10
  configFileSha256 := sampleDigest
  configCanonicalSha256 := sampleDigest
  codeSha256 := sampleDigest
  researchRequestSha256 := sampleDigest
  providerId := text "provider"
  productTier := text "tier"
  sourceLineageId := text "lineage"
  providerManifestFileSha256 := sampleDigest
  providerManifestCanonicalSha256 := sampleDigest
  entitlementIdSha256 := sampleDigest
  termsVersion := text "v1"
  permissionArtifactSha256 := sampleDigest
  qualificationArtifactSha256 := sampleDigest
  qualificationTraceSha256 := sampleDigest
  adapterCodeSha256 := sampleDigest
  authContractSha256 := sampleDigest
  quotaContractSha256 := sampleDigest
  sessionEndNs := 20
  requiredRetentionUntilNs := 30
  accessExpiresAtNs := 40
  analysisExpiresAtNs := 50
  researchEvaluable := false

def sampleCapture : CapturedInput where
  sessionId := sampleManifest.sessionId
  eventType := text "book"
  eventVersion := 1
  sourceKind := .kalshi
  sourceId := text "kalshi"
  sourceEntityId := text "market"
  endpointId := none
  endpointState := .absent
  channelId := some (text "orderbook")
  channelState := .safeOriginal
  requestId := none
  requestIdState := .absent
  sourceWallNs := none
  sourceGeneratedNs := none
  localWallNs := 12
  localMonotonicNs := 5
  clockUncertaintyNs := 0
  connectionEpoch := 1
  providerSequence := none
  contentType := text "application/json"
  payloadEncoding := text "json"
  payloadTransform := text "identity-public-market-v1"
  retentionDeleteByNs := none
  payload := Utf8.ascii (text "[1]")

def sampleDraft : DerivedDraft :=
  ⟨text "note", 1, text "canonical-json-v1", Utf8.ascii (text "\x7b\x7d")⟩

def sampleOperations : List Operation :=
  [.appendRaw sampleCapture .smooth, .appendDerived sampleDraft .smooth,
    .appendRaw sampleCapture .smooth,
    .close false (text "operator_halt") sampleDigest sampleDigest 2 .smooth .smooth]

theorem sampleManifest_valid : sampleManifest.validate = .ok () := by decide

theorem sampleCapture_valid :
    validateCapturedInput asciiLibrary sampleCapture sampleManifest = .ok () := by decide +kernel

theorem sampleDraft_valid : sampleDraft.validate = .ok () := by decide

/-- The sample operations are accepted one after the other. -/
theorem sampleOperations_accepted : ∃ run,
    session asciiLibrary sampleManifest .smooth .smooth sampleOperations = some run := by
  obtain ⟨payload, -, created, ready⟩ :=
    create_accepts sampleManifest_valid rfl fun payload => rfl
  have named : sampleCapture.eventType ≠ sessionStartType ∧
      sampleCapture.eventType ≠ sessionHaltType := by decide
  have drafted : sampleDraft.eventType ≠ sessionStartType ∧
      sampleDraft.eventType ≠ sessionHaltType := by decide
  have raw : (sampleCapture.rawRecord 2).validate = .ok () := by
    have checked := sampleCapture_valid
    simp only [validateCapturedInput, bind_eq_ok, exists_unit] at checked
    obtain ⟨-, -, -, first, -⟩ := checked
    exact rawRecord_valid (recover_eq_ok.mp first) (by decide)
  obtain ⟨first, ready⟩ := ready.appendRaw 2 rfl sampleCapture_valid rfl (by decide)
    (by decide) named
  obtain ⟨second, ready⟩ := ready.appendDerived 3 rfl rfl rfl rfl raw (by decide) sampleDraft_valid rfl (by decide) (by decide) drafted
  obtain ⟨third, ready⟩ := ready.appendRaw 4 rfl sampleCapture_valid rfl (by decide)
    (by decide) named
  have permitted : text "operator_halt" ∈ permittedReasons false := by decide
  have digest : matchesSha256 sampleDigest = true := by decide
  obtain ⟨terminal, closed⟩ := ready.close 5
    ⟨false, text "operator_halt", sampleDigest, sampleDigest, 4, 2, 1, 2⟩ rfl rfl rfl ⟨permitted, digest, digest⟩
    (fun ended => (Bool.false_ne_true ended).elim) (fun _ => (by decide : 2 ≤ 4)) rfl
    (fun digest => rfl) (fun payload => rfl) (by decide)
  have performed : ∃ run, performAll asciiLibrary (JournalWriter.opened sampleManifest payload)
      sampleOperations = some run :=
    performAll_accepts _ first (performAll_accepts _ second (performAll_accepts _ third
      (performAll_accepts _ (Prod.ext closed rfl) ⟨_, rfl⟩)))
  obtain ⟨run, performed⟩ := performed
  refine ⟨(run.1, startEvent sampleManifest payload :: run.2), ?_⟩
  rw [session, created]
  exact Option.map_eq_some_iff.mpr ⟨run, performed, rfl⟩

theorem write_then_read_halted :
    ∃ run, session asciiLibrary sampleManifest .smooth .smooth sampleOperations = some run ∧
      iterRecords run.1.capability.file true = (run.2, .ok ()) := by
  obtain ⟨⟨w, events⟩, run⟩ := sampleOperations_accepted
  exact ⟨(w, events), run, (write_then_read sampleManifest_valid run).1⟩

end Inci.Journal
