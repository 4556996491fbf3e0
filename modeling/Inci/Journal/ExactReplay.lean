/-
# Journal.ExactReplay -- which files replay exactly

`journalRecords` is the journal of a session that applied given raw records and closed cleanly.
A file replays exactly when it is read whole and its records are the journal of the raw records
among them (`exact_replay_iff`).  Everything else in such a file is fixed by them, byte for byte.
-/
import Inci.Journal.CleanTerminal

namespace Inci.Journal

open Inci.Theory
open Inci.Theory.Json (Text text Value lookup)

set_option autoImplicit false

/-! ## Exact replays -/

/-- The records of a session that applied these raw records and closed cleanly. -/
def journalRecords (m : SessionManifest) (reason : Text) (raws : List PersistedEvent) :
    Option (List PersistedEvent) := do
  let manifest ← canonicalSessionManifestBytes m
  let start := startEvent m manifest
  let (state, trace) ← (openingOf m start).toOption
  let (records, last, final) ← (recordAll state trace raws).toOption
  let content ← (canonicalStateBytes last).toOption
  let t := cleanTerminal reason last final content (start :: records)
  let payload ← canonicalJsonBytes (.obj (t.members m (hexdigest manifest)))
  some (start :: records ++ [haltEvent m (records.length + 2) payload])

/-- The replay of the file answers, and says that it is exact. -/
def ReplaysExactly (m : SessionManifest) (digest : Text) (file : Bytes) : Prop :=
  ∃ r, replay m digest file = .ok r ∧ r.exactReplay = true

theorem replayResult_exact {m : SessionManifest} {digest : Text} {p : Progress} {s : ScanSummary} :
    (∃ r, replayResult m digest p s = .ok r ∧ r.exactReplay = true) ↔
      p.state.isSome = true ∧ p.trace.isSome = true ∧ s.terminalClean = true ∧ s.walValid = true ∧
        s.issue = none ∧ terminalReport m digest p s = .ok none := by
  unfold replayResult
  cases reported : terminalReport m digest p s with
  | error e => simp
  | ok mismatch => simp [and_assoc]

/-- What the replay answers of the state and the trace is what its loop ended with, and its counts
are the scan's. -/
theorem replayResult_held {m : SessionManifest} {digest : Text} {p : Progress} {s : ScanSummary}
    {r : ReplayResult} (answered : replayResult m digest p s = .ok r) :
    r.state = p.state ∧ r.traceSha256 = p.trace.map hexText ∧ r.rawCount = s.rawCount ∧
      r.derivedCount = s.derivedCount := by
  obtain ⟨mismatch, -, answered⟩ := bind_eq_ok.mp answered
  rw [pure_eq_ok] at answered
  subst answered
  exact ⟨rfl, rfl, rfl, rfl⟩

theorem finishPending_pending (p : Progress) : p.finishPending.pendingExpected = [] ∧
    p.finishPending.pendingStored = [] ∧ p.finishPending.pendingStoredCount = 0 := by
  unfold Progress.finishPending
  split
  · exact ⟨rfl, rfl, rfl⟩
  · exact ⟨rfl, rfl, rfl⟩

/-- The loop at the terminal finishes what is pending, and nothing is pending behind it. -/
theorem records_terminal {terminal : PersistedEvent} (control : terminal.recordKind = .control)
    (body : List PersistedEvent) (p : Progress) :
    ((body ++ [terminal]).foldl Progress.record p).finishPending =
      { (body.foldl Progress.record p).finishPending with terminal := some terminal } := by
  obtain ⟨expected, stored, count⟩ := finishPending_pending (body.foldl Progress.record p)
  rw [List.foldl_append, List.foldl_cons, List.foldl_nil, Progress.record, control]
  show Progress.finishPending { (body.foldl Progress.record p).finishPending with
    terminal := some terminal } = _
  rw [Progress.finishPending, if_pos (Or.inr ⟨expected, count⟩), Progress.withoutPending]
  simp only [expected, stored, count]

/-- The clean terminal that the replay's loop expects. -/
theorem terminal_record {m : SessionManifest} {digest reason : Text} {p : Progress}
    {s : ScanSummary} {terminal : PersistedEvent} {records : List PersistedEvent} {raw : Members}
    {state : FoundationState} {trace content : Bytes} (valid : terminal.validate = .ok ())
    (control : terminal.recordKind = .control) (halt : terminal.eventType = sessionHaltType)
    (session : terminal.sessionId = m.sessionId)
    (read : strictObject terminal.payload terminalKeys = some raw)
    (version : member raw "terminal_version" natural = some 1)
    (evaluable : member raw "research_evaluable" boolean = some false)
    (held : p.state = some state) (known : p.trace = some trace)
    (written : canonicalStateBytes state = .ok content)
    (records_ : s.recordCount = records.length + 1)
    (raws : s.rawCount = records.countP fun e => decide (e.recordKind = .raw))
    (derived : s.derivedCount = records.countP fun e => decide (e.recordKind = .derived))
    (labelled : member raw "reason" string = some reason)
    (silent : terminalMismatch m digest p s terminal raw = none) :
    ∃ payload, canonicalJsonBytes (.obj ((cleanTerminal reason state trace content
      records).members m digest)) = some payload ∧
        terminal = haltEvent m terminal.ingestSeq payload := by
  obtain ⟨⟨state', trace', content', held', known', written', counted, rawCount, derivedCount,
    applied, finalState, traced⟩, carried, wall, monotonic, clean, -⟩ :=
    terminalMismatch_none.mp silent
  obtain rfl := Option.some.inj (held.symm.trans held')
  obtain rfl := Option.some.inj (known.symm.trans known')
  obtain rfl := Except.ok.inj (written.symm.trans written')
  rw [records_, Nat.add_sub_cancel] at counted
  rw [raws] at rawCount
  rw [derived] at derivedCount
  refine ⟨terminal.payload, ?_, ?_⟩
  · refine terminal_payload (t := cleanTerminal reason state trace content records) read version
      clean labelled evaluable ⟨?_, ?_⟩
    · refine List.forall_mem_append.mpr ⟨?_, carried.1⟩
      simp only [List.forall_mem_cons]
      exact ⟨traced, finalState, fun _ none => absurd none List.not_mem_nil⟩
    · refine List.forall_mem_append.mpr ⟨?_, carried.2⟩
      simp only [List.forall_mem_cons]
      exact ⟨counted, rawCount, derivedCount, applied, fun _ none => absurd none List.not_mem_nil⟩
  · have fixed := control_record valid control session wall monotonic
      (by rw [halt]; exact (if_neg (by decide)).trans (if_pos rfl))
    rw [halt] at fixed
    exact fixed

theorem terminalReport_none {m : SessionManifest} {digest : Text} {p : Progress} {s : ScanSummary}
    {terminal : PersistedEvent} (ends : p.terminal = some terminal) :
    terminalReport m digest p s = .ok none ↔
      ∃ raw, strictObject terminal.payload terminalKeys = some raw ∧ p.mismatch = none ∧
        terminalMismatch m digest p s terminal raw = none := by
  rw [terminalReport, ends]
  cases read : strictObject terminal.payload terminalKeys with
  | none => simp [replayTerminalPayload, read]
  | some raw =>
      cases earlier : p.mismatch with
      | none => simp [replayTerminalPayload, read]
      | some found => simp [replayTerminalPayload, read]

theorem rawsOf_session (start : PersistedEvent) (body : List PersistedEvent)
    (terminal : PersistedEvent) (first : start.recordKind = .control)
    (last : terminal.recordKind = .control) :
    rawsOf (start :: (body ++ [terminal])) = rawsOf body := by
  have ends : rawsOf [terminal] = [] := rawsOf_other fun e inside => by
    rw [List.mem_singleton.mp inside, last]
    exact RecordKind.noConfusion
  rw [rawsOf, List.filter_cons_of_neg (by simp [first])]
  show rawsOf (body ++ [terminal]) = _
  rw [rawsOf_append, ends, List.append_nil]

/-- A terminal counts as no record of another kind. -/
theorem countP_terminal {kind : RecordKind} (other : kind ≠ .control) (records : List PersistedEvent)
    {terminal : PersistedEvent} (control : terminal.recordKind = .control) :
    (records ++ [terminal]).countP (fun e => decide (e.recordKind = kind)) =
      records.countP fun e => decide (e.recordKind = kind) := by
  rw [List.countP_append, List.countP_singleton, control]
  simp [other.symm]

/-- Records that the replay's loop and its terminal's comparison are silent on are a journal. -/
theorem silent_journal {m : SessionManifest} {digest : Text} {manifest trace : Bytes}
    {state : FoundationState} {body : List PersistedEvent} {terminal : PersistedEvent}
    {s : ScanSummary} {st : WalkState} {clean : Bool}
    (encoded : ∀ e ∈ startEvent m manifest :: (body ++ [terminal]), Encoded e)
    (ordinary : ∀ e ∈ body, e.recordKind ≠ .control) (control : terminal.recordKind = .control)
    (halt : terminal.eventType = sessionHaltType) (session : terminal.sessionId = m.sessionId)
    (place : terminal.ingestSeq = body.length + 2)
    (checked : validateReplayTerminalGrammar m st terminal = .ok clean)
    (canonical : canonicalSessionManifestBytes m = some manifest)
    (opened : openingOf m (startEvent m manifest) = .ok (state, trace))
    (known : sessionManifestSha256 m = some digest)
    (records : s.recordCount = (startEvent m manifest :: body).length + 1)
    (raws : s.rawCount =
      (startEvent m manifest :: body).countP fun e => decide (e.recordKind = .raw))
    (derived : s.derivedCount =
      (startEvent m manifest :: body).countP fun e => decide (e.recordKind = .derived))
    {p : Progress}
    (looped : (body.foldl Progress.record (Progress.within state trace [] [])).finishPending = p)
    (reported : terminalReport m digest { p with terminal := some terminal } s = .ok none) :
    ∃ reason ∈ cleanTerminalReasons, journalRecords m reason
      (rawsOf (startEvent m manifest :: (body ++ [terminal]))) =
        some (startEvent m manifest :: (body ++ [terminal])) := by
  obtain ⟨raw, read, silent, compared⟩ := (terminalReport_none rfl).mp reported
  -- nothing is pending at the start, so the body starts with a raw record
  obtain ⟨missing, rest, last, final, rfl, nothing, recorded, rfl⟩ :=
    Progress.recorded_of_silent (fun e inside => absurd inside List.not_mem_nil)
      (fun e inside => encoded e (List.mem_cons_of_mem _ (List.mem_append_left _ inside)))
      ordinary (Nat.zero_le _) looped silent
  obtain rfl : missing = [] := nothing
  rw [List.nil_append] at encoded ordinary place records raws derived ⊢
  obtain ⟨⟨members, label⟩, judged, -⟩ := bind_eq_ok.mp checked
  obtain ⟨read', version, -, evaluable⟩ := terminalRecord_ok judged
  obtain rfl := Option.some.inj (read.symm.trans read')
  obtain ⟨⟨last', final', content, held, traced, written, -⟩, -, -, -, -, reason, listed,
    labelled⟩ := terminalMismatch_none.mp compared
  obtain rfl : last = last' := Option.some.inj held
  obtain rfl : final = final' := Option.some.inj traced
  have valid : terminal.validate = .ok () := by
    obtain ⟨prefixBytes, metadata, trailer, framed, -⟩ :=
      (encoded terminal (by simp)).framed
    exact (encodeRecord_decodeRecord framed.decoded).1
  obtain ⟨payload, printed, same⟩ := terminal_record valid control halt session read version
    evaluable rfl rfl written records raws derived labelled compared
  have digested : digest = hexdigest manifest := by
    rw [sessionManifestSha256, canonical] at known
    exact (Option.some.inj known).symm
  have applied := rawsOf_session (startEvent m manifest) rest terminal rfl control
  refine ⟨reason, listed, ?_⟩
  rw [applied, journalRecords, canonical]
  simp only [Option.bind_eq_bind, Option.bind_some, toOption_eq_some.mpr opened,
    toOption_eq_some.mpr recorded, toOption_eq_some.mpr written, ← digested, printed]
  rw [same, place]
  rfl

theorem openingOf_trace {m : SessionManifest} {start : PersistedEvent} {state : FoundationState}
    {trace : Bytes} (opened : openingOf m start = .ok (state, trace)) :
    initialTrace start = .ok trace := by
  simp only [openingOf, bind_eq_ok, pure_eq_ok, Prod.mk.injEq] at opened
  obtain ⟨_, -, _, seeded, -, rfl⟩ := opened
  exact seeded

theorem replayManifest_started {start : PersistedEvent} {m : SessionManifest}
    (started : manifestFromStart start = .ok m) : replayManifest start = .ok m := by
  obtain ⟨_, -, started⟩ := bind_eq_ok.mp started
  rw [replayManifest]
  cases loaded : (strictObject start.payload sessionManifestKeys).bind manifestOf with
  | none =>
      rw [loaded] at started
      cases started
  | some found =>
      rw [loaded] at started
      obtain ⟨_, -, started⟩ := bind_eq_ok.mp started
      exact started

/-- The records of a file that replays exactly are the journal of its raw records. -/
theorem exact_records {m : SessionManifest} {digest : Text} {file : Bytes}
    (replays : ReplaysExactly m digest file) :
    sessionManifestSha256 m = some digest ∧ ∃ reason ∈ cleanTerminalReasons, ∃ events s,
      iterReplayRecords file = (events, .ok s) ∧ s.walValid = true ∧
        journalRecords m reason (rawsOf events) = some events := by
  obtain ⟨r, done, exact_⟩ := replays
  obtain ⟨_, -, done⟩ := bind_eq_ok.mp done
  obtain ⟨_, known, done⟩ := bind_eq_ok.mp done
  rw [refuse_eq_ok, not_not] at known
  refine ⟨known, ?_⟩
  cases walked : iterReplayRecords file with
  | mk events finished =>
    rw [walked] at done
    cases events with
    | nil =>
        obtain ⟨s, -, done⟩ := bind_eq_ok.mp done
        obtain ⟨opened, -⟩ := replayResult_exact.mp ⟨r, done, exact_⟩
        cases opened
    | cons start rest =>
        obtain ⟨persisted, held, done⟩ := bind_eq_ok.mp done
        split at done
        · rw [pure_eq_ok] at done
          subst done
          cases exact_
        · next own =>
          rw [not_or, not_not, not_not] at own
          obtain ⟨-, rfl⟩ := own
          split at done
          · cases done
          · next state trace opened =>
            obtain ⟨s, rfl, done⟩ := bind_eq_ok.mp done
            obtain ⟨-, -, clean, valid, -, reported⟩ := replayResult_exact.mp ⟨r, done, exact_⟩
            obtain ⟨ends, -, encoded, turns, rfl⟩ := walk_exact walked valid
            have counted := start_counted.advanceAll turns
            have ended : ends.terminalSeen = true := by
              by_contra reading
              have unclean := counted.unended (Bool.not_eq_true _ ▸ reading)
              rw [show ends.terminalClean = true from clean] at unclean
              cases unclean
            obtain ⟨start', body, terminal, found, st, same, started, -, ordinary, control, halt,
              session, place, checked⟩ := advanceAll_ended turns ended
            obtain ⟨rfl, rfl⟩ := List.cons.inj same
            obtain rfl := Except.ok.inj ((replayManifest_started started).symm.trans held)
            have seeded := openingOf_trace opened
            obtain ⟨manifest, canonical, rfl⟩ := start_record seeded held
            rw [records_terminal control] at reported
            obtain ⟨reason, listed, journal⟩ := silent_journal encoded ordinary control halt session
              place checked canonical opened known
              (counted.records.trans (by simp))
              (counted.raws.trans (countP_terminal (by decide) _ control))
              (counted.derived.trans (countP_terminal (by decide) _ control)) rfl reported
            exact ⟨reason, listed, _, _, rfl, valid, journal⟩

/-- The parts of a journal. -/
theorem journalRecords_ok {m : SessionManifest} {reason : Text} {raws events : List PersistedEvent}
    (journal : journalRecords m reason raws = some events) :
    ∃ manifest state trace records last final content payload,
      canonicalSessionManifestBytes m = some manifest ∧
      openingOf m (startEvent m manifest) = .ok (state, trace) ∧
      recordAll state trace raws = .ok (records, last, final) ∧
      canonicalStateBytes last = .ok content ∧
      canonicalJsonBytes (.obj ((cleanTerminal reason last final content
        (startEvent m manifest :: records)).members m (hexdigest manifest))) = some payload ∧
      events = startEvent m manifest :: (records ++ [haltEvent m (records.length + 2) payload]) := by
  obtain ⟨manifest, canonical, journal⟩ := Option.bind_eq_some_iff.mp journal
  obtain ⟨⟨state, trace⟩, opened, journal⟩ := Option.bind_eq_some_iff.mp journal
  obtain ⟨⟨records, last, final⟩, recorded, journal⟩ := Option.bind_eq_some_iff.mp journal
  obtain ⟨content, written, journal⟩ := Option.bind_eq_some_iff.mp journal
  obtain ⟨payload, printed, journal⟩ := Option.bind_eq_some_iff.mp journal
  exact ⟨manifest, state, trace, records, last, final, content, payload, canonical,
    toOption_eq_some.mp opened, toOption_eq_some.mp recorded, toOption_eq_some.mp written, printed,
    (Option.some.inj journal).symm⟩

/-- The payload of a terminal, as it is read back. -/
theorem terminal_readBack {m : SessionManifest} {digest : Text} {t : Terminal} {payload : Bytes}
    (valid : m.validate = .ok ()) (fits : t.Valid) (known : matchesSha256 digest = true)
    (printed : canonicalJsonBytes (.obj (t.members m digest)) = some payload) :
    ∃ raw, strictObject payload terminalKeys = some raw ∧
      member raw "clean" boolean = some t.clean ∧ member raw "reason" string = some t.reason ∧
      Carries raw
        ([("trace_sha256", t.traceSha256), ("final_state_sha256", t.finalStateSha256)] ++
          provenanceDigests m digest)
        ([("record_count_before_terminal", t.recordCountBeforeTerminal), ("raw_count", t.rawCount),
          ("derived_count", t.derivedCount), ("last_applied_raw_seq", t.lastAppliedRawSeq)] ++
          provenanceNumbers m) := by
  obtain ⟨raw, read, alike⟩ := terminal_read fits valid known printed
  obtain ⟨clean, reason, -, -, carried⟩ := @Terminal.members_values t m digest
  exact ⟨raw, read, (member_congr alike _ _).trans clean, (member_congr alike _ _).trans reason,
    carried.congr alike⟩

/-- The terminal of a journal is one that the replay reports nothing of. -/
theorem journal_silent {m : SessionManifest} {digest reason : Text} {last : FoundationState}
    {final content payload : Bytes} {records : List PersistedEvent} {s : ScanSummary} (seq : Nat)
    (valid : m.validate = .ok ()) (known : matchesSha256 digest = true)
    (listed : reason ∈ cleanTerminalReasons) (written : canonicalStateBytes last = .ok content)
    (fits : (cleanTerminal reason last final content records).Valid)
    (printed : canonicalJsonBytes (.obj ((cleanTerminal reason last final content
      records).members m digest)) = some payload)
    (counted : s.recordCount = records.length + 1)
    (raws : s.rawCount = records.countP fun e => decide (e.recordKind = .raw))
    (derived : s.derivedCount = records.countP fun e => decide (e.recordKind = .derived)) :
    terminalReport m digest { Progress.within last final [] [] with
      terminal := some (haltEvent m seq payload) } s = .ok none := by
  obtain ⟨raw, read, clean, labelled, digests, numbers⟩ := terminal_readBack valid fits known printed
  obtain ⟨own, shared⟩ := List.forall_mem_append.mp digests
  obtain ⟨counts, retention⟩ := List.forall_mem_append.mp numbers
  simp only [List.forall_mem_cons] at own counts
  refine (terminalReport_none rfl).mpr ⟨raw, read, rfl, terminalMismatch_none.mpr ⟨?_,
    ⟨shared, retention⟩, rfl, rfl, clean, reason, listed, labelled⟩⟩
  rw [counted, raws, derived, Nat.add_sub_cancel]
  exact ⟨last, final, content, rfl, rfl, written, counts.1, counts.2.1, counts.2.2.1, counts.2.2.2.1,
    own.2.1, own.1⟩

/-- A reader of a journal ends behind its clean terminal. -/
theorem journal_ends {m : SessionManifest} {manifest payload : Bytes} {t : Terminal} {digest : Text}
    {records : List PersistedEvent} {seq : Nat} {ends : WalkState} (valid : m.validate = .ok ())
    (fits : t.Valid) (known : matchesSha256 digest = true)
    (printed : canonicalJsonBytes (.obj (t.members m digest)) = some payload)
    (turns : advanceAll validateReplayTerminalGrammar .start
      ((startEvent m manifest :: records) ++ [haltEvent m seq payload]) = .ok ends) :
    ends.terminalSeen = true ∧ ends.terminalClean = t.clean := by
  rw [advanceAll_append] at turns
  obtain ⟨st, earlier, turns⟩ := bind_eq_ok.mp turns
  obtain ⟨found, -, first⟩ := advanceAll_manifest earlier
  obtain ⟨next, stepped, turns⟩ := bind_eq_ok.mp turns
  obtain rfl : next = ends := Except.ok.inj turns
  obtain ⟨-, -, -, -, control⟩ := advance_later first stepped
  obtain ⟨-, ended, checked⟩ := control rfl
  obtain ⟨⟨raw, label⟩, judged, graded⟩ := bind_eq_ok.mp checked
  obtain ⟨read, -, labelled, -⟩ := terminalRecord_ok judged
  obtain ⟨raw', read', clean, -⟩ := terminal_readBack valid fits known printed
  obtain rfl : raw = raw' := Option.some.inj (read.symm.trans read')
  have same : label = t.clean := Option.some.inj (labelled.symm.trans clean)
  exact ⟨ended, (Except.ok.inj graded).symm.trans same⟩

/-- A file of a journal's records replays exactly, to the state and the trace they lead to. -/
theorem journal_answer {m : SessionManifest} {digest reason : Text} {file : Bytes}
    {events : List PersistedEvent} {s : ScanSummary} (valid : m.validate = .ok ())
    (known : sessionManifestSha256 m = some digest) (listed : reason ∈ cleanTerminalReasons)
    (walked : iterReplayRecords file = (events, .ok s)) (whole : s.walValid = true)
    (journal : journalRecords m reason (rawsOf events) = some events) :
    ∃ r manifest state trace records last final, replay m digest file = .ok r ∧
      r.exactReplay = true ∧ canonicalSessionManifestBytes m = some manifest ∧
      openingOf m (startEvent m manifest) = .ok (state, trace) ∧
      recordAll state trace (rawsOf events) = .ok (records, last, final) ∧
      r.state = some last ∧ r.traceSha256 = some (hexText final) ∧
      r.rawCount = (rawsOf events).length ∧
      r.derivedCount = events.countP fun e => decide (e.recordKind = .derived) := by
  obtain ⟨manifest, state, trace, records, last, final, content, payload, canonical, opened,
    recorded, written, printed, same⟩ := journalRecords_ok journal
  obtain rfl : hexdigest manifest = digest := by
    rw [sessionManifestSha256, canonical] at known
    exact Option.some.inj known
  have matched := sessionManifestSha256_matches known
  have kinds : ∀ e ∈ rawsOf events, e.recordKind = .raw := fun e inside =>
    of_decide_eq_true (List.mem_filter.mp inside).2
  have looped : (records.foldl Progress.record (Progress.within state trace [] [])).finishPending =
      Progress.within last final [] [] := Progress.record_recorded kinds recorded
  have fits : (cleanTerminal reason last final content (startEvent m manifest :: records)).Valid :=
    ⟨listed, hexText_matches (recordAll_digest (initialTrace_digest (openingOf_trace opened)) recorded),
      hexdigest_matches content⟩
  obtain ⟨ends, -, -, turns, rfl⟩ := walk_exact walked whole
  have counted := start_counted.advanceAll turns
  have total : ends.rawCount = (rawsOf events).length :=
    counted.raws.trans List.countP_eq_length_filter
  have derivedTotal : ends.derivedCount = events.countP fun e => decide (e.recordKind = .derived) :=
    counted.derived
  rw [List.nil_append, same] at counted
  obtain ⟨ended, clean⟩ := journal_ends valid fits matched printed (same ▸ turns)
  have held : replayManifest (startEvent m manifest) = .ok m := by
    have read := manifest_read valid canonical
    rw [replayManifest, show (startEvent m manifest).payload = manifest from rfl, read]
  have silent := journal_silent (s := summary ends ⟨none, ends.offset, ends.offset, none⟩)
    (records.length + 2) valid matched listed written fits printed
    (counted.records.trans (by simp))
    (counted.raws.trans (countP_terminal (by decide) (startEvent m manifest :: records) rfl))
    (counted.derived.trans (countP_terminal (by decide) (startEvent m manifest :: records) rfl))
  obtain ⟨r, answered, exact_⟩ := replayResult_exact.mpr ⟨rfl, rfl, clean, rfl, by
    show (if ends.terminalSeen then if ends.terminalClean then none else _ else _) = none
    rw [ended, clean]
    rfl, silent⟩
  obtain ⟨held_, traced, raws, derived⟩ := replayResult_held answered
  refine ⟨r, manifest, state, trace, records, last, final, ?_, exact_, canonical, opened, recorded,
    held_, traced, raws.trans total, derived.trans derivedTotal⟩
  rw [replay, refuse_ok _ (by rw [matched]; decide), ok_bind,
    refuse_ok _ (not_not.mpr known), ok_bind, walked, same]
  show (replayManifest (startEvent m manifest) >>= _) = _
  rw [held, ok_bind, if_neg (not_or.mpr ⟨not_not.mpr known, not_not.mpr rfl⟩)]
  simp only [opened]
  rw [ok_bind, records_terminal rfl]
  show replayResult m (hexdigest manifest) { (records.foldl Progress.record
    (Progress.within state trace [] [])).finishPending with terminal := _ } _ = _
  rw [looped]
  exact answered

/-! ## Sessions that close cleanly -/

theorem lengthBytes_some {n : Nat} (fits : n < 2 ^ 64) : ∃ bytes, lengthBytes n = some bytes := by
  have small : (Layout.Item.unsigned 8).Fits n := fits
  rw [lengthBytes, Layout.pack, if_pos small]
  exact ⟨_, rfl⟩

/-- A record that has a frame has a digest. -/
theorem Encoded.digest {e : PersistedEvent} (encoded : Encoded e) :
    ∃ digest, recordDigest e = .ok digest := by
  obtain ⟨prefixBytes, metadata, trailer, framed, -⟩ := encoded.framed
  have bounded := framed.bounded
  simp only [maxFrameBytes] at bounded
  obtain ⟨first, packed⟩ := lengthBytes_some (n := metadata.length) (by omega)
  obtain ⟨second, packed'⟩ := lengthBytes_some (n := e.payload.length) (by omega)
  rw [recordDigest, canonicalRecordBytes, framed.encoded]
  simp only [Option.bind_eq_bind, Option.bind_some, packed, packed']
  exact ⟨_, rfl⟩

theorem Encoded.requireValid {e : PersistedEvent} (encoded : Encoded e) :
    requireValidEvent e = .ok () := by
  obtain ⟨prefixBytes, metadata, trailer, framed, -⟩ := encoded.framed
  refine refuse_ok _ (not_not.mpr ?_)
  rw [framed.encoded, Option.bind_some]
  exact framed.decoded

/-- A session start that has a frame opens its session. -/
theorem openingOf_start {m : SessionManifest} {manifest : Bytes} (valid : m.validate = .ok ())
    (canonical : canonicalSessionManifestBytes m = some manifest)
    (encoded : Encoded (startEvent m manifest)) :
    ∃ state trace, openingOf m (startEvent m manifest) = .ok (state, trace) := by
  have session : validateSessionId m.sessionId = .ok () := by
    simp only [SessionManifest.validate, bind_eq_ok, exists_unit] at valid
    exact valid.2.1
  have started : initialState m.sessionId = .ok ⟨m.sessionId, 0, 0, 0, []⟩ := by
    refine bind_eq_ok.mpr ⟨(), ?_, rfl⟩
    rw [validateState, refuse_ok _ (not_not.mpr session)]
    rfl
  obtain ⟨digest, known⟩ := encoded.digest
  have found : payloadManifest manifest = .ok m := by
    rw [payloadManifest, manifest_read valid canonical]
    exact bind_eq_ok.mpr ⟨(), refuse_ok _ (not_not.mpr canonical), rfl⟩
  have seeded : initialTrace (startEvent m manifest) =
      .ok (Sha256.digest (traceSeedDomain ++ digest)) := by
    refine bind_eq_ok.mpr ⟨(), encoded.requireValid, bind_eq_ok.mpr ⟨(), refuse_ok _ ?_,
      bind_eq_ok.mpr ⟨m, found, bind_eq_ok.mpr ⟨(), refuse_ok _ ?_,
      bind_eq_ok.mpr ⟨digest, known, rfl⟩⟩⟩⟩⟩
    · simp [startEvent, controlEvent]
    · simp [startEvent, controlEvent]
  exact ⟨_, _, bind_eq_ok.mpr ⟨_, started, bind_eq_ok.mpr ⟨_, seeded, rfl⟩⟩⟩

/-- The counts of a writer are those of its records. -/
theorem InStep.counts {w : JournalWriter} {events : List PersistedEvent} (step : InStep w events) :
    w.recordCount = events.length ∧
      w.rawCount = events.countP (fun e => decide (e.recordKind = .raw)) ∧
      w.derivedCount = events.countP fun e => decide (e.recordKind = .derived) := by
  have counted := start_counted.advanceAll (step.read validateTerminal)
  exact ⟨counted.records, counted.raws, counted.derived⟩

theorem sessionManifestSha256_canonical {m : SessionManifest} {manifest : Bytes}
    (canonical : canonicalSessionManifestBytes m = some manifest) :
    sessionManifestSha256 m = some (hexdigest manifest) := by
  rw [sessionManifestSha256, canonical, Option.map_some]

section Clean

variable {m : SessionManifest} {manifest trace final content : Bytes} {w w' : JournalWriter}
  {state last : FoundationState} {raws records : List PersistedEvent} {event : PersistedEvent}
  {reason : Text} {c : Conditions}

/-- The terminal that a writer of recorded records accepts makes them a journal. -/
theorem InStep.journal (step : InStep w (startEvent m manifest :: records))
    (session : w.sessionManifest = m) (canonical : canonicalSessionManifestBytes m = some manifest)
    (opened : openingOf m (startEvent m manifest) = .ok (state, trace))
    (recorded : recordAll state trace raws = .ok (records, last, final))
    (written : canonicalStateBytes last = .ok content)
    (shape : ∃ digest payload, TerminalOf w (w.terminal true reason (hexText final)
      (hexdigest content) last.lastAppliedRawSeq) event digest payload) :
    journalRecords m reason raws = some (startEvent m manifest :: records ++ [event]) := by
  obtain ⟨digest, payload, shape⟩ := shape
  obtain ⟨counted, raw, derived⟩ := step.counts
  have own : w.terminal true reason (hexText final) (hexdigest content) last.lastAppliedRawSeq =
      cleanTerminal reason last final content (startEvent m manifest :: records) := by
    rw [JournalWriter.terminal, counted, raw, derived]
    rfl
  obtain rfl : hexdigest manifest = digest := by
    have known := shape.digest
    rw [session, sessionManifestSha256_canonical canonical] at known
    exact Option.some.inj known
  have printed := shape.written
  rw [session, own] at printed
  have place : w.nextSeq = records.length + 2 := by
    rw [step.numbered, counted, List.length_cons]
  rw [journalRecords, canonical]
  simp only [Option.bind_eq_bind, Option.bind_some, toOption_eq_some.mpr opened,
    toOption_eq_some.mpr recorded, toOption_eq_some.mpr written, printed]
  rw [shape.record, session, place]

/-- A journal whose terminal is durable replays exactly, to the state and the trace that the
terminal was written with. -/
theorem Ended.replays (valid : m.validate = .ok ())
    (canonical : canonicalSessionManifestBytes m = some manifest)
    (opened : openingOf m (startEvent m manifest) = .ok (state, trace))
    (recorded : recordAll state trace raws = .ok (records, last, final))
    (listed : reason ∈ cleanTerminalReasons)
    (journal : journalRecords m reason raws = some (startEvent m manifest :: records ++ [event]))
    (control : event.recordKind = .control)
    (ended : Ended w (startEvent m manifest :: records ++ [event]) true) :
    ∃ r, replay m (hexdigest manifest) w.capability.file = .ok r ∧ r.exactReplay = true ∧
      r.state = some last ∧ r.traceSha256 = some (hexText final) ∧ r.rawCount = raws.length ∧
        r.derivedCount = records.countP fun e => decide (e.recordKind = .derived) := by
  have walked := walk_whole ended.encoded ended.replayed
  rw [← ended.file] at walked
  have same : rawsOf (startEvent m manifest :: records ++ [event]) = raws := by
    rw [List.cons_append, rawsOf_session _ _ _ rfl control, (recordAll_raws recorded).1]
  obtain ⟨r, manifest', state', trace', records', last', final', done, exact_, canonical', opened',
    recorded', held, traced, raws', derived⟩ := journal_answer valid
      (sessionManifestSha256_canonical canonical) listed walked rfl (same ▸ journal)
  obtain rfl := Option.some.inj (canonical.symm.trans canonical')
  obtain ⟨rfl, rfl⟩ := Prod.mk.inj (Except.ok.inj (opened.symm.trans opened'))
  rw [same] at recorded' raws'
  rw [recorded] at recorded'
  obtain ⟨rfl, rfl, rfl⟩ := recorded'
  refine ⟨r, done, exact_, held, traced, raws', derived.trans ?_⟩
  rw [countP_terminal (by decide) _ control, List.countP_cons_of_neg
    (by simp [startEvent, controlEvent])]

end Clean

/-- Which files replay exactly: those that are read whole and whose records are the journal of the
raw records among them.  The file is then those records' bytes. -/
theorem exact_replay_iff {m : SessionManifest} {digest : Text} {file : Bytes}
    (valid : m.validate = .ok ()) :
    ReplaysExactly m digest file ↔ sessionManifestSha256 m = some digest ∧
      ∃ reason ∈ cleanTerminalReasons, ∃ events s, iterReplayRecords file = (events, .ok s) ∧
        s.walValid = true ∧ file = fileOf events ∧
          journalRecords m reason (rawsOf events) = some events := by
  constructor
  · intro replays
    obtain ⟨known, reason, listed, events, s, walked, whole, journal⟩ := exact_records replays
    obtain ⟨-, same, -⟩ := walk_exact walked whole
    exact ⟨known, reason, listed, events, s, walked, whole, same, journal⟩
  · rintro ⟨known, reason, listed, events, s, walked, whole, -, journal⟩
    obtain ⟨r, _, _, _, _, _, _, done, exact_, -⟩ :=
      journal_answer valid known listed walked whole journal
    exact ⟨r, done, exact_⟩

/-- The sample session can be closed at once, for every reason there is. -/
theorem sample_closes {clean : Bool} {reason : Text} (permitted : reason ∈ permittedReasons clean) :
    ∃ payload state trace content halt,
    JournalWriter.create sampleManifest .smooth .smooth =
      .ok (JournalWriter.opened sampleManifest payload) ∧
    canonicalSessionManifestBytes sampleManifest = some payload ∧
    InStep (JournalWriter.opened sampleManifest payload) [startEvent sampleManifest payload] ∧
    openingOf sampleManifest (startEvent sampleManifest payload) = .ok (state, trace) ∧
    canonicalStateBytes state = .ok content ∧
    ((JournalWriter.opened sampleManifest payload).close clean reason (hexText trace)
      (hexdigest content) state.lastAppliedRawSeq .smooth .smooth).1 =
        .ok (haltEvent sampleManifest 2 halt) := by
  obtain ⟨payload, canonical, created, ready⟩ :=
    create_accepts sampleManifest_valid rfl fun payload => rfl
  obtain ⟨state, trace, opened⟩ := openingOf_start sampleManifest_valid canonical
    (ready.step.encoded _ (List.mem_singleton_self _))
  have started : initialState sampleManifest.sessionId = .ok state := by
    obtain ⟨_, started, rest⟩ := bind_eq_ok.mp opened
    obtain ⟨_, -, rest⟩ := bind_eq_ok.mp rest
    rw [pure_eq_ok, Prod.mk.injEq] at rest
    exact rest.1 ▸ started
  obtain rfl : (⟨sampleManifest.sessionId, 0, 0, 0, []⟩ : FoundationState) = state :=
    Except.ok.inj (show initialState sampleManifest.sessionId = _ from started)
  obtain ⟨content, printed⟩ : ∃ content, writeCanonical
      (⟨sampleManifest.sessionId, 0, 0, 0, []⟩ : FoundationState).projection = .ok content :=
    writeCanonical_ok (by decide)
  have written : canonicalStateBytes ⟨sampleManifest.sessionId, 0, 0, 0, []⟩ = .ok content :=
    bind_eq_ok.mpr ⟨(), rfl, printed⟩
  have traced := hexText_matches (initialTrace_digest (openingOf_trace opened))
  obtain ⟨halt, closed⟩ := ready.close (m := sampleManifest) 2
    ⟨clean, reason, hexText trace, hexdigest content, 1, 0, 0, 0⟩ rfl rfl rfl
    ⟨permitted, traced, hexdigest_matches content⟩ (fun _ => rfl) (fun _ => Nat.zero_le _) rfl
    (fun digest => rfl) (fun payload => rfl) (by decide)
  exact ⟨payload, _, trace, content, halt, created, canonical, ready.step, opened, written, closed⟩

/-- A session that is closed at once replays exactly. -/
theorem exact_replay_iff_closed : ∃ digest file, ReplaysExactly sampleManifest digest file := by
  obtain ⟨payload, state, trace, content, halt, -, canonical, step, opened, written, closed⟩ :=
    sample_closes (show text "operator_stop" ∈ permittedReasons true by decide)
  obtain ⟨after, appended, -⟩ := close_ok (Prod.ext closed rfl)
  obtain ⟨shape, -, -, -, -, ended⟩ := step.terminal ⟨rfl, rfl, rfl⟩ appended
  have walked := walk_whole ended.encoded ended.replayed
  exact ⟨_, _, (exact_replay_iff sampleManifest_valid).mpr
    ⟨sessionManifestSha256_canonical canonical, text "operator_stop", by decide, _, _, walked, rfl,
      rfl, step.journal rfl canonical opened rfl written shape⟩⟩

end Inci.Journal
