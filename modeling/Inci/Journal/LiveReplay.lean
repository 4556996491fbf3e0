/-
# Journal.LiveReplay -- a closed session replays to its own state

A session that closed cleanly is replayed exactly, and whatever file of a session replays exactly
replays to the state, the trace and the counts that its runtime has (`live_replays`).  The replay and
the runtime are separate code: the one reads the journal back and derives again, the other appends
and reduces as it goes.
-/
import Inci.Journal.ExactReplay
import Inci.Journal.LiveSession

namespace Inci.Journal

open Inci.Theory
open Inci.Theory.Json (Text text)
open EventRuntime (Sealed)
open Effect (runFrom runFrom_bind runFrom_get runFrom_modify runFrom_pure runFrom_ofExcept
  runFrom_handle)

set_option autoImplicit false

/-! ## Counts -/

/-- A reduction counts one more raw record and one more derived one. -/
theorem reduceEvent_counts {state : FoundationState} {raw : PersistedEvent} {reduction : Reduction}
    (reduced : reduceEvent state raw = .ok reduction) :
    reduction.state.rawCount = state.rawCount + 1 ∧
      reduction.state.derivedCount = state.derivedCount + 1 ∧ reduction.outputs.length = 1 := by
  simp only [reduceEvent, reductionOf, foundationState, bind_eq_ok, exists_unit, pure_eq_ok]
    at reduced
  obtain ⟨-, -, -, -, -, -, -, output, -, after, ⟨-, rfl⟩, -, -, rfl⟩ := reduced
  exact ⟨rfl, rfl, rfl⟩

/-- The counts of a state are those of the records it was reduced from. -/
theorem recordAll_counts {raws records : List PersistedEvent} {state last : FoundationState}
    {trace final : Bytes} (recorded : recordAll state trace raws = .ok (records, last, final)) :
    last.rawCount = state.rawCount + raws.length ∧ last.derivedCount =
      state.derivedCount + records.countP fun e => decide (e.recordKind = .derived) := by
  induction raws generalizing state trace records with
  | nil =>
      obtain ⟨rfl, rfl, rfl⟩ := recorded
      exact ⟨rfl, rfl⟩
  | cons e rest ih =>
      obtain ⟨reduced, done, recorded⟩ := bind_eq_ok.mp recorded
      obtain ⟨⟨others, last', final'⟩, behind, recorded⟩ := bind_eq_ok.mp recorded
      rw [pure_eq_ok] at recorded
      obtain ⟨rfl, rfl, rfl⟩ := recorded
      obtain ⟨raws, derived⟩ := ih behind
      obtain ⟨reduction, applied, same, rebuilt, -⟩ := reduceRaw_ok done
      obtain ⟨one, more, single⟩ := reduceEvent_counts applied
      have kind : e.recordKind ≠ .derived := by
        rw [reduceRaw_kind done]
        exact RecordKind.noConfusion
      have all : reduced.derived.countP (fun e => decide (e.recordKind = .derived)) = 1 := by
        rw [List.countP_eq_length.mpr fun d inside =>
            decide_eq_true (reduceRaw_derived done d inside).2,
          ← (collect_eq_ok.mp rebuilt).length_eq, List.length_zipIdx, single]
      rw [raws, derived, same, one, more, List.length_cons,
        List.countP_cons_of_neg (by simpa using kind), List.countP_append, all]
      omega

/-! ## The last record -/

theorem derivedRecords_kind {raw e : PersistedEvent} {drafts : List DerivedDraft}
    (inside : e ∈ derivedRecords raw drafts) : e.recordKind = .derived := by
  obtain ⟨entry, -, rfl⟩ := List.mem_map.mp inside
  rfl

/-- Behind the start there is no control record but the terminal. -/
theorem Behind.ordinary {st : FoundationState} {records extra : List PersistedEvent}
    (behind : Behind st records extra) : ∀ e ∈ extra, e.recordKind ≠ .control := by
  intro e inside control
  cases behind with
  | nothing => cases inside
  | unapplied raw drafts kind place derives =>
      rcases List.mem_cons.mp inside with rfl | derived
      · rw [kind] at control
        cases control
      · rw [derivedRecords_kind derived] at control
        cases control

section Last

variable {m : SessionManifest} {digest reason : Text} {start event : PersistedEvent}
  {body events : List PersistedEvent} {w : JournalWriter} {st : FoundationState} {tr : Bytes}
  {applied : Prop}

/-- A journal does not end with an ordinary record. -/
theorem journal_open (ordinary : ∀ e ∈ body, e.recordKind ≠ .control)
    (journal : journalRecords m reason (rawsOf events) = some events) : events ≠ start :: body := by
  obtain ⟨manifest, _, _, records, _, _, _, payload, -, -, -, -, -, same⟩ := journalRecords_ok journal
  intro other
  obtain ⟨-, tail⟩ := List.cons.inj (same.symm.trans other)
  exact ordinary (haltEvent m (records.length + 2) payload) (by rw [← tail]; simp) rfl

/-- The last record of a journal says that the session is clean. -/
theorem journal_clean (valid : m.validate = .ok ()) (listed : reason ∈ cleanTerminalReasons)
    (journal : journalRecords m reason (rawsOf events) = some events)
    (same : events = start :: body ++ [event]) (session : w.sessionManifest = m)
    (offered : event.recordKind ≠ .control ∨
      ∃ clean reason, Terminates st tr applied w clean reason event) : applied := by
  obtain ⟨manifest, state, trace, records, last, final, content, payload, canonical, opened,
    recorded, written, printed, shape⟩ := journalRecords_ok journal
  have ends : event = haltEvent m (records.length + 2) payload := by
    rw [same, List.cons_append] at shape
    have tail := (List.cons.inj shape).2
    exact List.singleton_inj.mp (List.append_inj_right' tail rfl)
  rcases offered with ordinary | ⟨clean, reason', permitted, content', written', digest', payload',
    terminal⟩
  · exact absurd (ends ▸ rfl) ordinary
  · subst session
    obtain rfl : payload = payload' := congrArg PersistedEvent.payload (ends.symm.trans terminal.record)
    obtain rfl : hexdigest manifest = digest' := by
      have known := terminal.digest
      rw [sessionManifestSha256_canonical canonical] at known
      exact Option.some.inj known
    have matched := sessionManifestSha256_matches terminal.digest
    have fits : (cleanTerminal reason last final content
        (startEvent w.sessionManifest manifest :: records)).Valid :=
      ⟨listed,
        hexText_matches (recordAll_digest (initialTrace_digest (openingOf_trace opened)) recorded),
        hexdigest_matches content⟩
    obtain ⟨raw, read, label, -⟩ := terminal_readBack valid fits matched printed
    obtain ⟨raw', read', label', -⟩ := terminal_readBack valid terminal.valid matched terminal.written
    obtain rfl := Option.some.inj (read.symm.trans read')
    exact permitted (Option.some.inj (label'.symm.trans label))

/-- The records of a session that replay exactly: the start, what was ingested, and the terminal. -/
theorem Safe.journal {records extra : List PersistedEvent} {rt : EventRuntime}
    (valid : m.validate = .ok ()) (behind : Behind st records extra)
    (ordinary : ∀ e ∈ records, e.recordKind ≠ .control)
    (safe : Safe m start st tr (extra = []) (records ++ extra) rt)
    (encoded : ∀ e ∈ events, Encoded e) (file : rt.writer.capability.file = fileOf events)
    (listed : reason ∈ cleanTerminalReasons)
    (journal : journalRecords m reason (rawsOf events) = some events) :
    rt.Sealed ∧ extra = [] ∧ ∃ terminal, events = start :: records ++ [terminal] := by
  have unended : events ≠ start :: (records ++ extra) :=
    journal_open (List.forall_mem_append.mpr ⟨ordinary, behind.ordinary⟩) journal
  rcases safe with going | ⟨stopped, shut⟩
  · have same := fileOf_injective encoded going.step.encoded (file.symm.trans going.step.file)
    exact absurd same unended
  · refine ⟨shut, ?_⟩
    cases stopped.ending with
    | begun w₀ event kept session step fits offered torn _ _ =>
        rcases fileOf_torn encoded step.encoded fits (file.symm.trans torn) with same | same
        · exact absurd same unended
        · have nothing := journal_clean valid listed journal same session
            (offered.imp_left And.left)
          subst nothing
          exact ⟨rfl, event, by rw [same, List.append_nil]⟩
    | ended w₀ event clean label session step offered durable _ _ =>
        have same := fileOf_injective encoded durable.encoded (file.symm.trans durable.file)
        have nothing := journal_clean valid listed journal same session
          (Or.inr ⟨clean, label, offered⟩)
        subst nothing
        exact ⟨rfl, event, by rw [same, List.append_nil]⟩

end Last

/-! ## Sessions -/

section Session

variable {m : SessionManifest} {digest : Text} {manifest tr₀ : Bytes} {st₀ : FoundationState}
  {s : Surroundings} {ingested : List PersistedEvent} {rt : EventRuntime}

theorem openingOf_state {start : PersistedEvent}
    (opened : openingOf m start = .ok (st₀, tr₀)) : st₀ = ⟨m.sessionId, 0, 0, 0, []⟩ := by
  obtain ⟨_, started, opened⟩ := bind_eq_ok.mp opened
  obtain ⟨_, -, opened⟩ := bind_eq_ok.mp opened
  rw [pure_eq_ok, Prod.mk.injEq] at opened
  obtain ⟨_, -, started⟩ := bind_eq_ok.mp started
  rw [pure_eq_ok] at started
  exact opened.1.symm.trans started.symm

/-- A replay that is exact answers what the runtime has. -/
theorem Recorded.replayed {r : ReplayResult} (valid : m.validate = .ok ())
    (canonical : canonicalSessionManifestBytes m = some manifest)
    (opened : openingOf m (startEvent m manifest) = .ok (st₀, tr₀))
    (recorded : Recorded s m (startEvent m manifest) st₀ tr₀ ingested rt)
    (done : replay m digest rt.writer.capability.file = .ok r) (exactly : r.exactReplay = true) :
    rt.Sealed ∧ r.state = some rt.state ∧ r.traceSha256 = some (hexText rt.trace) ∧
      r.rawCount = ingested.length ∧ r.rawCount = rt.state.rawCount ∧
        r.derivedCount = rt.state.derivedCount := by
  obtain ⟨records, extra, st, tr, all, behind, safe, -⟩ := recorded
  obtain ⟨known, reason, listed, events, summed, walked, whole, journal⟩ :=
    exact_records ⟨r, done, exactly⟩
  obtain ⟨last, file, encoded, -, -⟩ := walk_exact walked whole
  obtain ⟨raws, ordinary⟩ := recordAll_raws all
  have held : rt.state = st ∧ rt.trace = tr := by
    rcases safe with going | ⟨stopped, -⟩
    · exact ⟨going.state, going.trace⟩
    · exact ⟨stopped.state, stopped.trace⟩
  obtain ⟨shut, rfl, terminal, rfl⟩ := safe.journal valid behind ordinary encoded file listed journal
  refine ⟨shut, ?_⟩
  have control : terminal.recordKind = .control := by
    obtain ⟨_, _, _, _, _, _, _, _, -, -, -, -, -, shape⟩ := journalRecords_ok journal
    have tail := (List.cons.inj shape).2
    rw [List.singleton_inj.mp (List.append_inj_right' tail rfl)]
    rfl
  have same : rawsOf (startEvent m manifest :: records ++ [terminal]) = ingested := by
    rw [List.cons_append, rawsOf_session _ _ _ rfl control, raws]
  obtain ⟨r', manifest', state, trace, records', last', final, done', -, canonical', opened', all',
    state', trace', raws', derived'⟩ := journal_answer valid known listed walked whole journal
  obtain rfl := Except.ok.inj (done.symm.trans done')
  obtain rfl := Option.some.inj (canonical.symm.trans canonical')
  obtain ⟨rfl, rfl⟩ := Prod.mk.inj (Except.ok.inj (opened.symm.trans opened'))
  rw [same, all] at all'
  obtain ⟨rfl, rfl, rfl⟩ := all'
  rw [same] at raws'
  rw [countP_terminal (by decide) _ control, List.countP_cons_of_neg
    (by simp [startEvent, controlEvent])] at derived'
  obtain ⟨rawCount, derivedCount⟩ := recordAll_counts all
  obtain rfl := openingOf_state opened
  rw [held.1, held.2, rawCount, derivedCount, Nat.zero_add, Nat.zero_add]
  exact ⟨state', trace', raws', raws', derived'⟩

/-- A clean terminal that is durable ends a journal that replays exactly. -/
theorem Recorded.replays (valid : m.validate = .ok ())
    (canonical : canonicalSessionManifestBytes m = some manifest)
    (opened : openingOf m (startEvent m manifest) = .ok (st₀, tr₀))
    (recorded : Recorded s m (startEvent m manifest) st₀ tr₀ ingested rt)
    (clean : rt.writer.capability.terminalCleanDurable = true) :
    ReplaysExactly m (hexdigest manifest) rt.writer.capability.file := by
  obtain ⟨records, extra, st, tr, all, -, going | ⟨stopped, -⟩, -⟩ := recorded
  · rw [going.unclean] at clean
    cases clean
  · cases stopped.ending with
    | begun w₀ event kept session step fits offered torn _ unclean =>
        rw [unclean] at clean
        cases clean
    | ended w₀ event label reason session step offered durable _ cleanly =>
        obtain rfl : label = true := cleanly.symm.trans clean
        obtain ⟨nothing, content, written, terminal⟩ := offered
        obtain rfl := nothing rfl
        rw [List.append_nil] at step durable
        have journal := step.journal session canonical opened all written terminal
        obtain ⟨_, _, shape⟩ := terminal
        obtain ⟨r, done, exactly, -⟩ := durable.replays valid canonical opened all
          shape.valid.reason journal (by rw [shape.record]; rfl)
        exact ⟨r, done, exactly⟩

end Session

/-! ## Closing at once -/

/-- Surroundings that grant everything. -/
def openSurroundings : Surroundings where
  answer := fun _ => ⟨.ready, true, none, 2 ^ 63 - 1, false, none, .smooth, .smooth⟩
  latched := fun _ => le_rfl

section Closed

variable {w : JournalWriter} {st : FoundationState} {tr content : Bytes} {halt : PersistedEvent}
  {clean : Bool} {reason : Text}

/-- Where everything is granted, a close is the writer's. -/
theorem closeWriter_open {moment : Nat} (written : canonicalStateBytes st = .ok content)
    (closed : (w.close clean reason (hexText tr) (hexdigest content) st.lastAppliedRawSeq .smooth
      .smooth).1 = .ok halt) :
    runFrom (closeWriter openSurroundings clean reason) ⟨w, st, tr, false, false, moment⟩ =
      (.ok halt, ⟨(w.close clean reason (hexText tr) (hexdigest content) st.lastAppliedRawSeq .smooth
        .smooth).2, st, tr, false, false, moment + 1⟩) := by
  simp only [closeWriter, runFrom_bind, runFrom_get, written, Except.mapError, runFrom_ofExcept,
    writing, ask, runFrom_modify, runFrom_pure, openSurroundings, closed]

theorem unsealed {moment : Nat} (fresh : w.poisoned = false) :
    ¬EventRuntime.Sealed ⟨w, st, tr, false, false, moment⟩ := by
  simp [EventRuntime.Sealed, fresh]

theorem requireOwnerAndHealthy_open {moment : Nat} (fresh : w.poisoned = false) :
    runFrom requireOwnerAndHealthy ⟨w, st, tr, false, false, moment⟩ =
      (.ok (), ⟨w, st, tr, false, false, moment⟩) := by
  rw [requireOwnerAndHealthy, runFrom_bind, runFrom_get]
  simp only [if_neg (unsealed fresh)]
  rfl

/-- The run of one call on a runtime that opens where everything is granted. -/
theorem liveRun_open (lib : TextLibrary) {call : Call} {rt : EventRuntime}
    (opened : openingOf w.sessionManifest w.sessionStart = .ok (st, tr))
    (performed : LiveRun.offer lib openSurroundings ⟨⟨w, st, tr, false, false, 3⟩, []⟩ call =
      ⟨rt, []⟩) : liveRun lib openSurroundings w [call] = .ok ⟨rt, []⟩ := by
  have begun : EventRuntime.start w = .ok ⟨w, st, tr, false, false, 0⟩ := by
    rw [EventRuntime.start, opened]
  rw [liveRun, begun, ok_bind]
  exact congrArg Except.ok performed

/-- A session that is closed at once is closed by its writer. -/
theorem liveRun_closes (lib : TextLibrary)
    (opened : openingOf w.sessionManifest w.sessionStart = .ok (st, tr))
    (written : canonicalStateBytes st = .ok content) (fresh : w.poisoned = false)
    (closed : (w.close true (text "operator_stop") (hexText tr) (hexdigest content)
      st.lastAppliedRawSeq .smooth .smooth).1 = .ok halt) :
    liveRun lib openSurroundings w [.closeClean (text "operator_stop")] =
      .ok ⟨⟨(w.close true (text "operator_stop") (hexText tr) (hexdigest content)
        st.lastAppliedRawSeq .smooth .smooth).2, st, tr, false, true, 7⟩, []⟩ := by
  have performed : runFrom (closeClean openSurroundings (text "operator_stop"))
      ⟨w, st, tr, false, false, 3⟩ = (.ok halt, ⟨(w.close true (text "operator_stop") (hexText tr)
        (hexdigest content) st.lastAppliedRawSeq .smooth .smooth).2, st, tr, false, true, 7⟩) := by
    rw [closeClean, runFrom_bind, requireOwnerAndHealthy_open fresh]
    simp only [ne_eq, not_true_eq_false, if_false, closeCleanInternal]
    rw [runFrom_bind, show runFrom (reraising _ _) _ =
      (.ok (), (⟨w, st, tr, false, false, 5⟩ : EventRuntime)) from rfl]
    simp only
    rw [runFrom_bind, reraising, runFrom_handle (closeWriter_open written closed)]
    rfl
  refine liveRun_open lib opened ?_
  rw [LiveRun.offer, performCall, runFrom_bind, performed]
  rfl

end Closed

/-! ## Replays of sessions -/

/-- A runtime that closed cleanly leaves a journal that replays exactly.  Whatever was called, a
journal that replays exactly belongs to a runtime that takes no more calls, and replays to its state,
its trace and its counts: one raw record for each input that was ingested. -/
theorem live_replays {m : SessionManifest} {s : Surroundings} {lib : TextLibrary}
    {first second : Conditions} {w : JournalWriter} {calls : List Call} {run : LiveRun} (valid : m.validate = .ok ())
    (created : JournalWriter.create m first second = .ok w)
    (live : liveRun lib s w calls = .ok run) :
    ∃ digest, sessionManifestSha256 m = some digest ∧
      (run.runtime.writer.capability.terminalCleanDurable = true →
        ReplaysExactly m digest run.runtime.writer.capability.file) ∧
      ∀ r, replay m digest run.runtime.writer.capability.file = .ok r → r.exactReplay = true →
        run.runtime.Sealed ∧ r.state = some run.runtime.state ∧
          r.traceSha256 = some (hexText run.runtime.trace) ∧
          r.rawCount = run.ingested.length ∧ r.rawCount = run.runtime.state.rawCount ∧
          r.derivedCount = run.runtime.state.derivedCount := by
  obtain ⟨manifest, st₀, tr₀, canonical, opened, recorded⟩ := created_recorded valid created live
  exact ⟨hexdigest manifest, sessionManifestSha256_canonical canonical,
    recorded.replays valid canonical opened,
    fun r done exactly => recorded.replayed valid canonical opened done exactly⟩

/-- A session that is closed at once replays exactly. -/
theorem live_replays_closed : ∃ w run digest,
    JournalWriter.create sampleManifest .smooth .smooth = .ok w ∧
      liveRun asciiLibrary openSurroundings w [.closeClean (text "operator_stop")] = .ok run ∧
      ReplaysExactly sampleManifest digest run.runtime.writer.capability.file ∧
      run.runtime.Sealed := by
  obtain ⟨payload, state, trace, content, halt, created, -, step, opened, written, closed⟩ :=
    sample_closes (show text "operator_stop" ∈ permittedReasons true by decide)
  have live := liveRun_closes (w := JournalWriter.opened sampleManifest payload) asciiLibrary
    opened written rfl closed
  obtain ⟨digest, -, clean, exactly⟩ := live_replays sampleManifest_valid created live
  have durable := clean <| by
    cases JournalWriter.close_cases step rfl (Prod.ext closed rfl) with
    | refused _ raised =>
        obtain ⟨e, other⟩ := raised
        cases other
    | torn event kept offered encoded session poisoned part raised =>
        obtain ⟨e, other⟩ := raised
        cases other
    | durable event offered session ended marked cleanly answered => exact cleanly
  obtain ⟨r, done, same⟩ := durable
  exact ⟨_, _, digest, created, live, ⟨r, done, same⟩, (exactly r done same).1⟩

end Inci.Journal
