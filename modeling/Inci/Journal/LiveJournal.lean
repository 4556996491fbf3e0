/-
# Journal.LiveJournal -- what is read of a session's journal

Whatever was called and whatever failed, the journal of a runtime is read without an error.  It has
the start, the ingested raw records with what they lead to, at most one raw record that was not
applied and at most one more record (`live_journal`).  A halted terminal in it says what was
applied, and nothing is taken behind it (`live_halted`).
-/
import Inci.Journal.LiveReplay

namespace Inci.Journal

open Inci.Theory
open Inci.Theory.Json (Text text)
open EventRuntime (Sealed)
open Effect (runFrom runFrom_bind runFrom_get)

set_option autoImplicit false

/-! ## Reading behind a writer -/

section Reading

variable {m : SessionManifest} {start event : PersistedEvent} {st : FoundationState} {tr : Bytes}
  {applied : Prop} {events : List PersistedEvent} {w : JournalWriter} {t : Terminal}

/-- The reader behind a writer's records accepts the terminal that the writer offers. -/
theorem InStep.offered (step : InStep w events) (offered : Offers w t event)
    (counted : t.recordCountBeforeTerminal = w.recordCount ∧ t.rawCount = w.rawCount ∧
      t.derivedCount = w.derivedCount) :
    ∃ last, advanceAll validateTerminal .start (events ++ [event]) = .ok last := by
  obtain ⟨digest, payload, shape⟩ := offered
  have checked := validateTerminal_written w.nextSeq (readerState w) step.valid shape.valid
    shape.digest shape.written counted.1.symm counted.2.1.symm counted.2.2.symm shape.clean
    shape.halted
  rw [← shape.record] at checked
  have own : event.sessionId = w.sessionManifest.sessionId ∧ event.recordKind = .control ∧
      event.eventType = sessionHaltType ∧ event.ingestSeq = w.nextSeq := by
    rw [shape.record]
    exact ⟨rfl, rfl, rfl, rfl⟩
  obtain ⟨session, control, halt, turn⟩ := own
  have later : admitLater validateTerminal w.sessionManifest (readerState w) event =
      .ok { readerState w with terminalClean := t.clean, terminalSeen := true } := by
    refine bind_eq_ok.mpr ⟨(), refuse_ok _ (not_not.mpr session),
      bind_eq_ok.mpr ⟨(), refuse_ok _ (by rw [halt]; decide), ?_⟩⟩
    rw [control]
    exact bind_eq_ok.mpr ⟨(), refuse_ok _ (not_not.mpr halt), bind_eq_ok.mpr ⟨_, checked, rfl⟩⟩
  have admission : ∃ st, admitRecord validateTerminal (readerState w) event = .ok st :=
    ⟨_, bind_eq_ok.mpr ⟨(), refuse_ok _ (not_not.mpr turn), bind_eq_ok.mpr ⟨_, later, rfl⟩⟩⟩
  obtain ⟨st, admission⟩ := admission
  have advanced : advance validateTerminal (readerState w) event =
      .ok { st with offset := (readerState w).offset + (frameOf event).length } :=
    bind_eq_ok.mpr ⟨(), refuse_ok _ Bool.false_ne_true, bind_eq_ok.mpr ⟨_, admission, rfl⟩⟩
  refine ⟨{ st with offset := (readerState w).offset + (frameOf event).length }, ?_⟩
  rw [advanceAll_append, step.read validateTerminal, ok_bind]
  exact bind_eq_ok.mpr ⟨_, advanced, rfl⟩

/-- A record that a write had begun is the next that the reader accepts, where it came into the file
whole. -/
theorem Attempted.whole {kept : Nat} (attempted : Attempted st tr applied w kept event)
    (step : InStep w events) (some_ : kept ≠ 0) :
    ∃ last, advanceAll validateTerminal .start (events ++ [event]) = .ok last := by
  rcases attempted with ⟨-, none | expected⟩ | ⟨clean, reason, -, content, -, offered⟩
  · exact absurd none some_
  · exact ⟨_, (step.wrote expected).read validateTerminal⟩
  · exact step.offered offered ⟨rfl, rfl, rfl⟩

/-- The file of a write that failed: the reader has the records before it, and the last one only
where it is whole. -/
theorem Attempted.walked {kept : Nat} (attempted : Attempted st tr applied w kept event)
    (step : InStep w events) (encoded : Encoded event) :
    ∃ last summary, walk validateTerminal (fileOf events ++ (frameOf event).take kept) =
      (events ++ last, .ok summary) ∧ (last = [] ∨ last = [event]) := by
  by_cases nothing : kept = 0
  · subst nothing
    have walked := walk_whole step.encoded (step.read validateTerminal)
    rw [List.take_zero, List.append_nil]
    exact ⟨[], _, walked.trans (by rw [List.append_nil]), Or.inl rfl⟩
  · by_cases partly : kept < (frameOf event).length
    · have walked := walk_torn step.encoded (step.read validateTerminal) rfl encoded
        (Nat.pos_of_ne_zero nothing) partly
      exact ⟨[], _, walked.trans (by rw [List.append_nil]), Or.inl rfl⟩
    · obtain ⟨last, read⟩ := attempted.whole step nothing
      have whole : (frameOf event).take kept = frameOf event :=
        List.take_of_length_le (not_lt.mp partly)
      rw [whole, ← fileOf_snoc]
      refine ⟨[event], _, walk_whole ?_ read, Or.inr rfl⟩
      exact List.forall_mem_append.mpr ⟨step.encoded, List.forall_mem_singleton.mpr encoded⟩

/-- The journal of a safe runtime is read, and at most one record is in it behind these. -/
theorem Safe.walked {rt : EventRuntime} (safe : Safe m start st tr applied events rt) :
    ∃ last summary, walk validateTerminal rt.writer.capability.file =
      (start :: events ++ last, .ok summary) ∧ last.length ≤ 1 ∧ (last ≠ [] → rt.Sealed) := by
  rcases safe with going | ⟨stopped, shut⟩
  · have walked := walk_whole going.step.encoded (going.step.read validateTerminal)
    rw [← going.step.file] at walked
    exact ⟨[], _, walked.trans (by rw [List.append_nil]), Nat.zero_le 1, fun some_ => absurd rfl some_⟩
  · cases stopped.ending with
    | begun w₀ event kept session step encoded offered torn _ _ =>
        obtain ⟨last, summary, walked, either⟩ := offered.walked step encoded
        rw [← torn] at walked
        refine ⟨last, summary, walked, ?_, fun _ => shut⟩
        rcases either with rfl | rfl
        · exact Nat.zero_le 1
        · exact le_rfl
    | ended w₀ event clean reason session step offered durable _ _ =>
        have walked := walk_whole durable.encoded durable.scanned
        rw [← durable.file] at walked
        exact ⟨[event], _, walked, le_rfl, fun _ => shut⟩

theorem Safe.held {rt : EventRuntime} (safe : Safe m start st tr applied events rt) :
    rt.state = st ∧ rt.trace = tr := by
  rcases safe with going | ⟨stopped, -⟩
  · exact ⟨going.state, going.trace⟩
  · exact ⟨stopped.state, stopped.trace⟩

end Reading

/-! ## Sealed runtimes -/

section Sealing

variable {lib : TextLibrary} {s : Surroundings} {run : LiveRun}

end Sealing

/-! ## Journals of sessions -/

/-- Whatever was called and whatever the coordinator, the gate and the disk did: the journal is read
without an error.  It has the start, the ingested raw records with what they lead to, which is what
the runtime's state and trace are of, then at most one raw record that was not applied with some of
what it leads to, and at most one more record, where the runtime takes no more calls. -/
theorem live_journal {lib : TextLibrary} {s : Surroundings} {m : SessionManifest}
    {first second : Conditions} {w : JournalWriter} {calls : List Call} {run : LiveRun}
    (valid : m.validate = .ok ()) (created : JournalWriter.create m first second = .ok w)
    (live : liveRun lib s w calls = .ok run) :
    ∃ manifest st₀ tr₀ records extra last, canonicalSessionManifestBytes m = some manifest ∧
      openingOf m (startEvent m manifest) = .ok (st₀, tr₀) ∧
      recordAll st₀ tr₀ run.ingested = .ok (records, run.runtime.state, run.runtime.trace) ∧
      Behind run.runtime.state records extra ∧ last.length ≤ 1 ∧
      (last ≠ [] → run.runtime.Sealed) ∧
      iterRecords run.runtime.writer.capability.file true =
        (startEvent m manifest :: (records ++ extra) ++ last, .ok ()) := by
  obtain ⟨manifest, st₀, tr₀, canonical, opened, records, extra, st, tr, all, behind, safe, -⟩ :=
    created_recorded valid created live
  obtain ⟨last, summary, walked, single, shut⟩ := safe.walked
  obtain ⟨rfl, rfl⟩ := safe.held
  exact ⟨manifest, st₀, tr₀, records, extra, last, canonical, opened, all, behind, single, shut,
    (walk_answers walked).1⟩

/-- An input is ingested twice and the session is closed. -/
def sampleCalls : List Call :=
  [.ingest (some sampleCapture), .ingest (some sampleCapture), .closeClean (text "operator_stop")]

theorem live_journal_closed : ∃ w run,
    JournalWriter.create sampleManifest .smooth .smooth = .ok w ∧
      liveRun asciiLibrary openSurroundings w sampleCalls = .ok run ∧
      ∃ manifest st₀ tr₀ records extra last,
        canonicalSessionManifestBytes sampleManifest = some manifest ∧
        openingOf sampleManifest (startEvent sampleManifest manifest) = .ok (st₀, tr₀) ∧
        recordAll st₀ tr₀ run.ingested = .ok (records, run.runtime.state, run.runtime.trace) ∧
        Behind run.runtime.state records extra ∧ last.length ≤ 1 ∧
        (last ≠ [] → run.runtime.Sealed) ∧
        iterRecords run.runtime.writer.capability.file true =
          (startEvent sampleManifest manifest :: (records ++ extra) ++ last, .ok ()) := by
  obtain ⟨payload, state, trace, content, halt, created, -, -, opened, -, -⟩ :=
    sample_closes (show text "operator_stop" ∈ permittedReasons true by decide)
  let w := JournalWriter.opened sampleManifest payload
  have begun : EventRuntime.start w = .ok ⟨w, state, trace, false, false, 0⟩ := by
    rw [EventRuntime.start, show openingOf w.sessionManifest w.sessionStart = _ from opened]
  obtain ⟨run, live⟩ : ∃ run, liveRun asciiLibrary openSurroundings w sampleCalls = .ok run :=
    ⟨_, bind_eq_ok.mpr ⟨_, begun, rfl⟩⟩
  exact ⟨w, run, created, live, live_journal sampleManifest_valid created live⟩

/-- The halted terminal of a session behind its records. -/
def haltedTerminal (reason : Text) (state : FoundationState) (trace stateBytes : Bytes)
    (records : List PersistedEvent) : Terminal :=
  { cleanTerminal reason state trace stateBytes records with clean := false }

/-- What a halted terminal says of the runtime, whatever failed before it. -/
theorem Stopped.halted {m : SessionManifest} {start : PersistedEvent} {st : FoundationState}
    {tr : Bytes} {applied : Prop} {events : List PersistedEvent} {rt : EventRuntime}
    (stopped : Stopped m start st tr applied events rt)
    (written : rt.writer.capability.terminalWritten = true)
    (halted : rt.writer.capability.terminalCleanDurable = false) :
    ∃ reason content payload digest, reason ∈ haltedTerminalReasons ∧
      canonicalStateBytes st = .ok content ∧ sessionManifestSha256 m = some digest ∧
      canonicalJsonBytes (.obj ((haltedTerminal reason st tr content (start :: events)).members m
        digest)) = some payload ∧
      ∃ summary, walk validateTerminal rt.writer.capability.file =
        (start :: events ++ [haltEvent m (events.length + 2) payload], .ok summary) ∧
          summary.issue = some .haltedTerminal := by
  cases stopped.ending with
  | begun w₀ event kept session step encoded offered torn unwritten _ =>
      rw [unwritten] at written
      cases written
  | ended w₀ event clean reason session step offered durable _ cleanly =>
      obtain rfl : clean = false := cleanly.symm.trans halted
      obtain ⟨-, content, bytes, digest, payload, shape⟩ := offered
      obtain ⟨counted, raws, derived⟩ := step.counts
      have own : w₀.terminal false reason (hexText tr) (hexdigest content) st.lastAppliedRawSeq =
          haltedTerminal reason st tr content (start :: events) := by
        rw [JournalWriter.terminal, counted, raws, derived]
        rfl
      have place : w₀.nextSeq = events.length + 2 := by
        rw [step.numbered, counted, List.length_cons]
      have printed := shape.written
      have known := shape.digest
      rw [session] at known
      rw [session, own] at printed
      have record : event = haltEvent m (events.length + 2) payload := by
        rw [shape.record, session, place]
      have walked := walk_whole durable.encoded durable.scanned
      rw [← durable.file, record] at walked
      exact ⟨reason, content, payload, digest, shape.valid.reason, bytes, known, printed, _, walked,
        rfl⟩

end Inci.Journal
