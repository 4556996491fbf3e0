/-
# Journal.ReplayWalk -- the scan and the replay iteration in lockstep

Both loops read the same frames, and differ at the terminal record only: the replay
iteration accepts every terminal the scan accepts (`grammar_of_valid`), and the scan
refuses one that the iteration accepts for its reason, its bindings or its counts
(`wrong_terminal`).  So the loops go turn by turn together until such a terminal
(`walkFrom_agrees`, `walkFrom_differs`).  The length of a file is fuel enough for
either loop (`walk_fuel`).
-/
import Inci.Journal.TornWrites

namespace Inci.Journal

open Inci.Theory
open Inci.Theory.Json (Text text)
open Inci.Theory.Layout (size)

set_option autoImplicit false

/-! ## What a run of records leaves behind -/

/-- The sequence of the last raw record, or zero. -/
def lastRawSeq (events : List PersistedEvent) : Nat :=
  let raws := events.filter fun e => decide (e.recordKind = .raw)
  (raws.getLast?.map PersistedEvent.ingestSeq).getD 0

/-- The manifest of the first record. -/
def openingManifest (events : List PersistedEvent) : Option SessionManifest :=
  events.head?.bind fun first => (manifestFromStart first).toOption

/-- The counts that a terminal after these records is compared with. -/
def readCounts (events : List PersistedEvent) : WalkState :=
  { WalkState.start with
    recordCount := events.length
    rawCount := events.countP fun e => decide (e.recordKind = .raw)
    derivedCount := events.countP fun e => decide (e.recordKind = .derived)
    lastRawSeq := lastRawSeq events }

/-- The loop has read these records and no terminal. -/
structure Reached (st : WalkState) (events : List PersistedEvent) : Prop where
  counted : Counted st events
  lastRaw : st.lastRawSeq = lastRawSeq events
  manifest : st.manifest = openingManifest events

theorem start_reached : Reached .start [] := ⟨start_counted, rfl, rfl⟩

theorem lastRawSeq_snoc (events : List PersistedEvent) (event : PersistedEvent) :
    lastRawSeq (events ++ [event]) =
      if event.recordKind = .raw then event.ingestSeq else lastRawSeq events := by
  unfold lastRawSeq
  by_cases raw : event.recordKind = .raw
  · rw [List.filter_append, if_pos raw, List.filter_cons_of_pos (by simpa using raw)]
    simp
  · rw [List.filter_append, if_neg raw, List.filter_cons_of_neg (by simpa using raw)]
    simp

theorem openingManifest_snoc {events : List PersistedEvent} (event : PersistedEvent)
    (opened : events ≠ []) : openingManifest (events ++ [event]) = openingManifest events := by
  cases events with
  | nil => exact absurd rfl opened
  | cons first rest => rfl

/-- What a later record does to the manifest and to the last raw sequence. -/
theorem admitLater_lastRaw {check : TerminalCheck} {m : SessionManifest} {st next : WalkState}
    {event : PersistedEvent} (admitted : admitLater check m st event = .ok next) :
    next.manifest = st.manifest ∧ next.lastRawSeq =
      if event.recordKind = .raw then event.ingestSeq else st.lastRawSeq := by
  obtain ⟨_, -, admitted⟩ := bind_eq_ok.mp admitted
  obtain ⟨_, -, admitted⟩ := bind_eq_ok.mp admitted
  cases kind : event.recordKind with
  | raw =>
      rw [kind] at admitted
      obtain rfl := Except.ok.inj admitted
      exact ⟨rfl, rfl⟩
  | derived =>
      rw [kind] at admitted
      obtain ⟨_, -, admitted⟩ := bind_eq_ok.mp admitted
      obtain rfl := Except.ok.inj admitted
      exact ⟨rfl, rfl⟩
  | control =>
      rw [kind] at admitted
      obtain ⟨_, -, admitted⟩ := bind_eq_ok.mp admitted
      obtain ⟨clean, -, admitted⟩ := bind_eq_ok.mp admitted
      obtain rfl := Except.ok.inj admitted
      exact ⟨rfl, rfl⟩

theorem manifestFromStart_first {event : PersistedEvent} {m : SessionManifest}
    (started : manifestFromStart event = .ok m) : event.ingestSeq = 1 := by
  obtain ⟨_, first, -⟩ := bind_eq_ok.mp started
  rw [refuse_eq_ok, not_or, not_not] at first
  exact first.1

/-- A turn of the loop adds its record. -/
theorem Reached.turn {check : TerminalCheck} {st next : WalkState} {event : PersistedEvent}
    {events : List PersistedEvent} (reached : Reached st events) (reading : st.terminalSeen = false)
    (admission : admitRecord check st event = .ok next) (offset : Nat) :
    Reached { next with offset } (events ++ [event]) := by
  have stepped : Journal.advance check st event =
      .ok { next with offset := st.offset + (frameOf event).length } := by
    have unended : ¬st.terminalSeen = true := by
      rw [reading]
      exact Bool.false_ne_true
    rw [Journal.advance, refuse_ok _ unended, ok_bind, admission]
    rfl
  have counted := reached.counted.advance stepped
  have same : Counted { next with offset } (events ++ [event]) :=
    ⟨counted.records, counted.expected, counted.last, counted.raws, counted.derived,
      counted.unended⟩
  obtain ⟨_, turn, admission⟩ := bind_eq_ok.mp admission
  rw [refuse_eq_ok, not_not] at turn
  cases opened : st.manifest with
  | none =>
      rw [opened] at admission
      obtain ⟨m, started, admission⟩ := bind_eq_ok.mp admission
      obtain rfl := Except.ok.inj admission
      have kind := manifestFromStart_control started
      -- a first record has the first sequence, so there was none before it
      have empty : events = [] := by
        have first := manifestFromStart_first started
        have expected := reached.counted.expected
        exact List.length_eq_zero_iff.mp (by omega)
      refine ⟨same, ?_, ?_⟩
      · rw [lastRawSeq_snoc, if_neg (by rw [kind]; exact RecordKind.noConfusion)]
        exact reached.lastRaw
      · rw [empty]
        show some m = (manifestFromStart event).toOption
        rw [started]
        rfl
  | some m =>
      rw [opened] at admission
      obtain ⟨later, accepted, admission⟩ := bind_eq_ok.mp admission
      obtain rfl := Except.ok.inj admission
      obtain ⟨manifest, lastRaw⟩ := admitLater_lastRaw accepted
      have nonempty : events ≠ [] := by
        rintro rfl
        exact nomatch opened.symm.trans reached.manifest
      refine ⟨same, ?_, ?_⟩
      · rw [lastRawSeq_snoc, ← reached.lastRaw]
        exact lastRaw
      · rw [openingManifest_snoc event nonempty, ← reached.manifest]
        exact manifest

/-! ## The two checks of a terminal -/

/-- What the scan raises for a terminal of the right shape. -/
def wrongTerminal : List String :=
  ["journal_terminal_reason_invalid", "journal_terminal_binding_invalid",
    "journal_terminal_count_invalid"]

/-- The grammar without the reason accepts what the grammar with it accepts. -/
theorem terminalGrammar_weaken {texts : TerminalRefusals} {raw : Members} {clean : Bool}
    (accepted : terminalGrammar texts true raw = .ok clean) :
    terminalGrammar texts false raw = .ok clean := by
  unfold terminalGrammar at accepted ⊢
  cases isClean : member raw "clean" boolean with
  | none =>
      rw [isClean] at accepted
      cases accepted
  | some c =>
      cases isReason : member raw "reason" string with
      | none =>
          rw [isClean, isReason] at accepted
          cases accepted
      | some reason =>
          rw [isClean, isReason] at accepted
          obtain ⟨_, shape, accepted⟩ := bind_eq_ok.mp accepted
          obtain ⟨_, -, accepted⟩ := bind_eq_ok.mp accepted
          exact bind_eq_ok.mpr ⟨(), shape, bind_eq_ok.mpr
            ⟨(), refuse_ok _ (fun asked => Bool.false_ne_true asked.1), accepted⟩⟩

/-- The grammar with the reason refuses for the reason what the one without it accepts. -/
theorem terminalGrammar_reason {texts : TerminalRefusals} {raw : Members} {clean : Bool}
    {e : String} (accepted : terminalGrammar texts false raw = .ok clean)
    (refused : terminalGrammar texts true raw = .error e) : e = texts.reason := by
  unfold terminalGrammar at accepted refused
  cases isClean : member raw "clean" boolean with
  | none =>
      rw [isClean] at accepted
      cases accepted
  | some c =>
      cases isReason : member raw "reason" string with
      | none =>
          rw [isClean, isReason] at accepted
          cases accepted
      | some reason =>
          rw [isClean, isReason] at accepted refused
          obtain ⟨_, shape, accepted⟩ := bind_eq_ok.mp accepted
          obtain ⟨_, -, accepted⟩ := bind_eq_ok.mp accepted
          rcases bind_eq_error.mp refused with first | ⟨_, -, refused⟩
          · cases first.symm.trans shape
          rcases bind_eq_error.mp refused with second | ⟨_, -, refused⟩
          · exact ((refuse_eq_error _ _ _).mp second).2.symm
          · cases accepted.symm.trans refused

theorem terminalRecord_weaken {m : SessionManifest} {event : PersistedEvent} {raw : Members}
    {clean : Bool} (accepted : terminalRecord true m event = .ok (raw, clean)) :
    terminalRecord false m event = .ok (raw, clean) := by
  obtain ⟨_, record, accepted⟩ := bind_eq_ok.mp accepted
  refine bind_eq_ok.mpr ⟨(), record, ?_⟩
  cases found : strictObject event.payload terminalKeys with
  | none =>
      rw [found] at accepted
      exact nomatch accepted
  | some members =>
      rw [found] at accepted
      obtain ⟨c, grammar, accepted⟩ := bind_eq_ok.mp accepted
      exact bind_eq_ok.mpr ⟨c, terminalGrammar_weaken grammar, accepted⟩

theorem terminalRecord_reason {m : SessionManifest} {event : PersistedEvent} {raw : Members}
    {clean : Bool} {e : String} (accepted : terminalRecord false m event = .ok (raw, clean))
    (refused : terminalRecord true m event = .error e) : e = journalTexts.reason := by
  obtain ⟨_, record, accepted⟩ := bind_eq_ok.mp accepted
  rcases bind_eq_error.mp refused with first | ⟨_, -, refused⟩
  · exact nomatch first.symm.trans record
  cases found : strictObject event.payload terminalKeys with
  | none =>
      rw [found] at accepted
      exact nomatch accepted
  | some members =>
      rw [found] at accepted refused
      obtain ⟨c, grammar, -⟩ := bind_eq_ok.mp accepted
      rcases bind_eq_error.mp refused with reason | ⟨_, -, refused⟩
      · exact terminalGrammar_reason grammar reason
      · exact nomatch refused

/-- A terminal the scan accepts, the replay iteration accepts. -/
theorem grammar_of_valid {m : SessionManifest} {st : WalkState} {event : PersistedEvent}
    {clean : Bool} (valid : validateTerminal m st event = .ok clean) :
    validateReplayTerminalGrammar m st event = .ok clean := by
  obtain ⟨⟨raw, c⟩, record, valid⟩ := bind_eq_ok.mp valid
  refine bind_eq_ok.mpr ⟨(raw, c), terminalRecord_weaken record, ?_⟩
  dsimp only at valid
  split at valid
  · obtain ⟨_, -, valid⟩ := bind_eq_ok.mp valid
    obtain ⟨_, -, valid⟩ := bind_eq_ok.mp valid
    obtain ⟨_, -, valid⟩ := bind_eq_ok.mp valid
    exact valid
  · exact nomatch valid

/-- A terminal that the replay iteration alone accepts has a wrong reason, a wrong binding or
wrong counts. -/
theorem wrong_terminal {m : SessionManifest} {st : WalkState} {event : PersistedEvent}
    {clean : Bool} {e : String} (grammar : validateReplayTerminalGrammar m st event = .ok clean)
    (refused : validateTerminal m st event = .error e) : e ∈ wrongTerminal := by
  obtain ⟨⟨raw, c⟩, record, -⟩ := bind_eq_ok.mp grammar
  rcases bind_eq_error.mp refused with reason | ⟨⟨raw', c'⟩, -, refused⟩
  · rw [terminalRecord_reason record reason]
    exact List.mem_cons_self
  have binding : "journal_terminal_binding_invalid" ∈ wrongTerminal := by decide
  have count : "journal_terminal_count_invalid" ∈ wrongTerminal := by decide
  dsimp only at refused
  split at refused
  · rcases bind_eq_error.mp refused with broken | ⟨_, -, refused⟩
    · exact ((refuse_eq_error _ _ _).mp broken).2 ▸ binding
    rcases bind_eq_error.mp refused with broken | ⟨_, -, refused⟩
    · exact ((refuse_eq_error _ _ _).mp broken).2 ▸ count
    rcases bind_eq_error.mp refused with broken | ⟨_, -, refused⟩
    · exact ((refuse_eq_error _ _ _).mp broken).2 ▸ count
    · exact nomatch refused
  · exact Except.error.inj refused ▸ count

/-- The terminal is compared with the counts of the records only. -/
theorem validateTerminal_counts {m : SessionManifest} {st : WalkState} {event : PersistedEvent}
    {events : List PersistedEvent} (reached : Reached st events) :
    validateTerminal m st event = validateTerminal m (readCounts events) event := by
  have records := reached.counted.records
  have raws := reached.counted.raws
  have derived := reached.counted.derived
  have last := reached.lastRaw
  unfold validateTerminal
  rw [records, raws, derived, last]
  rfl

/-! ## Turns -/

variable {file : Bytes}

/-- A record the scan admits, the replay iteration admits alike. -/
theorem admit_agrees {st next : WalkState} {event : PersistedEvent}
    (admission : admitRecord validateTerminal st event = .ok next) :
    admitRecord validateReplayTerminalGrammar st event = .ok next := by
  obtain ⟨_, turn, admission⟩ := bind_eq_ok.mp admission
  refine bind_eq_ok.mpr ⟨(), turn, ?_⟩
  cases opened : st.manifest with
  | none =>
      rw [opened] at admission
      exact admission
  | some m =>
      rw [opened] at admission
      obtain ⟨later, accepted, admission⟩ := bind_eq_ok.mp admission
      refine bind_eq_ok.mpr ⟨later, ?_, admission⟩
      obtain ⟨_, session, accepted⟩ := bind_eq_ok.mp accepted
      obtain ⟨_, start, accepted⟩ := bind_eq_ok.mp accepted
      refine bind_eq_ok.mpr ⟨(), session, bind_eq_ok.mpr ⟨(), start, ?_⟩⟩
      cases kind : event.recordKind with
      | raw =>
          rw [kind] at accepted
          exact accepted
      | derived =>
          rw [kind] at accepted
          exact accepted
      | control =>
          rw [kind] at accepted
          obtain ⟨_, halt, accepted⟩ := bind_eq_ok.mp accepted
          obtain ⟨clean, valid, accepted⟩ := bind_eq_ok.mp accepted
          exact bind_eq_ok.mpr
            ⟨(), halt, bind_eq_ok.mpr ⟨clean, grammar_of_valid valid, accepted⟩⟩

/-- A record the replay iteration alone admits is a terminal that the scan refuses. -/
theorem admit_differs {st next : WalkState} {event : PersistedEvent} {e : String}
    (admission : admitRecord validateReplayTerminalGrammar st event = .ok next)
    (refused : admitRecord validateTerminal st event = .error e) :
    next.terminalSeen = true ∧ ∃ m, st.manifest = some m ∧
      validateReplayTerminalGrammar m st event = .ok next.terminalClean ∧
      validateTerminal m st event = .error e := by
  obtain ⟨_, turn, admission⟩ := bind_eq_ok.mp admission
  rcases bind_eq_error.mp refused with first | ⟨_, -, refused⟩
  · exact nomatch first.symm.trans turn
  cases opened : st.manifest with
  | none =>
      rw [opened] at admission refused
      exact nomatch admission.symm.trans refused
  | some m =>
      rw [opened] at admission refused
      obtain ⟨later, accepted, admission⟩ := bind_eq_ok.mp admission
      obtain rfl := Except.ok.inj admission
      rcases bind_eq_error.mp refused with refused | ⟨_, -, refused⟩
      on_goal 2 => exact nomatch refused
      obtain ⟨_, session, accepted⟩ := bind_eq_ok.mp accepted
      obtain ⟨_, start, accepted⟩ := bind_eq_ok.mp accepted
      rcases bind_eq_error.mp refused with first | ⟨_, -, refused⟩
      · exact nomatch first.symm.trans session
      rcases bind_eq_error.mp refused with first | ⟨_, -, refused⟩
      · exact nomatch first.symm.trans start
      cases kind : event.recordKind with
      | raw =>
          rw [kind] at accepted refused
          exact nomatch accepted.symm.trans refused
      | derived =>
          rw [kind] at accepted refused
          exact nomatch accepted.symm.trans refused
      | control =>
          rw [kind] at accepted refused
          obtain ⟨_, halt, accepted⟩ := bind_eq_ok.mp accepted
          obtain ⟨clean, grammar, accepted⟩ := bind_eq_ok.mp accepted
          obtain rfl := Except.ok.inj accepted
          rcases bind_eq_error.mp refused with first | ⟨_, -, refused⟩
          · exact nomatch first.symm.trans halt
          rcases bind_eq_error.mp refused with wrong | ⟨_, -, refused⟩
          · exact ⟨rfl, m, rfl, grammar, wrong⟩
          · exact nomatch refused

/-- The loop's turn at a record. -/
theorem walkFrom_record {check : TerminalCheck} {st : WalkState} {frame : FrameRead}
    {event : PersistedEvent} (read : readFrame file st.offset = .ok frame)
    (found : frame.event = some event) (reading : st.terminalSeen = false) (fuel : Nat) :
    walkFrom check file (fuel + 1) st = match admitRecord check st event with
      | .error e => ([], .error e)
      | .ok admitted =>
          let rest := walkFrom check file fuel { admitted with offset := frame.endOffset }
          (event :: rest.1, rest.2) := by
  rw [walkFrom, read]
  cases admission : admitRecord check st event with
  | error e => simp only [reading, Bool.false_eq_true, false_and, if_false, found, admission]
  | ok admitted => simp only [reading, Bool.false_eq_true, false_and, if_false, found, admission]

/-- The loop's turn where no record is left. -/
theorem walkFrom_last {check : TerminalCheck} {st : WalkState} {frame : FrameRead}
    (read : readFrame file st.offset = .ok frame) (found : frame.event = none) (fuel : Nat) :
    walkFrom check file (fuel + 1) st =
      if st.terminalSeen = true ∧ ¬(frame.issue = none ∧ frame.observedSize = st.offset) then
        ([], .error "journal_bytes_after_terminal")
      else ([], .ok (summary st frame)) := by
  rw [walkFrom, read]
  simp only [found, true_and]

/-- The loop raises at a record past the terminal. -/
theorem walkFrom_past {check : TerminalCheck} {st : WalkState} {frame : FrameRead}
    {event : PersistedEvent} (read : readFrame file st.offset = .ok frame)
    (found : frame.event = some event) (ended : st.terminalSeen = true) (fuel : Nat) :
    walkFrom check file (fuel + 1) st = ([], .error "journal_bytes_after_terminal") := by
  rw [walkFrom, read]
  simp only [ended, found, reduceCtorEq, false_and, not_false_eq_true, and_self, if_true]

/-- More turns than the file has bytes left change nothing. -/
theorem walk_fuel {check : TerminalCheck} {fuel : Nat} {st : WalkState}
    (enough : file.length ≤ st.offset + fuel) (more : Nat) :
    walkFrom check file (fuel + 1 + more) st = walkFrom check file (fuel + 1) st := by
  induction fuel generalizing st with
  | zero =>
      have read := readFrame_end enough
      rw [Nat.add_right_comm, walkFrom_last read rfl, walkFrom_last read rfl]
  | succ fuel ih =>
      rw [Nat.add_right_comm]
      cases read : readFrame file st.offset with
      | error e => rw [walkFrom, walkFrom, read]
      | ok frame =>
          cases found : frame.event with
          | none => rw [walkFrom_last read found, walkFrom_last read found]
          | some event =>
              by_cases ended : st.terminalSeen = true
              · rw [walkFrom_past read found ended, walkFrom_past read found ended]
              · have reading := Bool.not_eq_true _ ▸ ended
                have onward := (readFrame_advances read found).1
                rw [walkFrom_record read found reading, walkFrom_record read found reading]
                cases admitRecord check st event with
                | error e => rfl
                | ok admitted =>
                    have rest := @ih { admitted with offset := frame.endOffset }
                      (show file.length ≤ frame.endOffset + fuel by omega)
                    simp only [rest]

/-! ## Walks -/

/-- Where the scan's loop completes, the replay iteration's loop goes the same way. -/
theorem walkFrom_agrees {fuel : Nat} {st : WalkState} {s : ScanSummary}
    (completed : (walkFrom validateTerminal file fuel st).2 = .ok s) :
    walkFrom validateReplayTerminalGrammar file fuel st =
      walkFrom validateTerminal file fuel st := by
  induction fuel generalizing st with
  | zero => cases completed
  | succ fuel ih =>
      cases read : readFrame file st.offset with
      | error e => rw [walkFrom, walkFrom, read]
      | ok frame =>
          cases found : frame.event with
          | none => rw [walkFrom_last read found, walkFrom_last read found]
          | some event =>
              by_cases ended : st.terminalSeen = true
              · rw [walkFrom_past read found ended, walkFrom_past read found ended]
              · have reading := Bool.not_eq_true _ ▸ ended
                rw [walkFrom_record read found reading] at completed
                rw [walkFrom_record read found reading, walkFrom_record read found reading]
                cases admission : admitRecord validateTerminal st event with
                | error e =>
                    rw [admission] at completed
                    cases completed
                | ok admitted =>
                    rw [admission] at completed
                    simp only [admit_agrees admission, ih completed]

/-- A loop that completes past the terminal reads nothing more. -/
theorem walkFrom_ended {check : TerminalCheck} {fuel : Nat} {st : WalkState} {s : ScanSummary}
    (ended : st.terminalSeen = true) (completed : (walkFrom check file fuel st).2 = .ok s) :
    (walkFrom check file fuel st).1 = [] ∧ s.terminalClean = st.terminalClean := by
  cases fuel with
  | zero => cases completed
  | succ fuel =>
      cases read : readFrame file st.offset with
      | error e =>
          rw [walkFrom, read] at completed
          cases completed
      | ok frame =>
          cases found : frame.event with
          | none =>
              rw [walkFrom_last read found] at completed ⊢
              split at completed
              · cases completed
              · next clear =>
                  rw [if_neg clear]
                  obtain rfl := Except.ok.inj completed
                  exact ⟨rfl, rfl⟩
          | some event =>
              rw [walkFrom_past read found ended] at completed
              cases completed

/-- Where the replay iteration's loop completes alone, its last record is a terminal that the
scan refuses. -/
theorem walkFrom_differs {fuel : Nat} {st : WalkState} {s : ScanSummary} {e : String}
    {events : List PersistedEvent} (reached : Reached st events)
    (replayed : (walkFrom validateReplayTerminalGrammar file fuel st).2 = .ok s)
    (refused : (walkFrom validateTerminal file fuel st).2 = .error e) :
    ∃ more event m,
      (walkFrom validateReplayTerminalGrammar file fuel st).1 = more ++ [event] ∧
      (walkFrom validateTerminal file fuel st).1 = more ∧
      openingManifest (events ++ more) = some m ∧
      validateReplayTerminalGrammar m (readCounts (events ++ more)) event = .ok s.terminalClean ∧
      validateTerminal m (readCounts (events ++ more)) event = .error e := by
  induction fuel generalizing st events with
  | zero => cases replayed
  | succ fuel ih =>
      cases read : readFrame file st.offset with
      | error e =>
          rw [walkFrom, read] at replayed
          cases replayed
      | ok frame =>
          cases found : frame.event with
          | none =>
              rw [walkFrom_last read found] at replayed refused
              cases replayed.symm.trans refused
          | some event =>
              by_cases ended : st.terminalSeen = true
              · rw [walkFrom_past read found ended] at replayed
                cases replayed
              have reading := Bool.not_eq_true _ ▸ ended
              rw [walkFrom_record read found reading] at replayed refused ⊢
              rw [walkFrom_record read found reading]
              cases replay : admitRecord validateReplayTerminalGrammar st event with
              | error e =>
                  rw [replay] at replayed
                  cases replayed
              | ok next =>
                  rw [replay] at replayed
                  cases admission : admitRecord validateTerminal st event with
                  | error e' =>
                      rw [admission] at refused
                      obtain rfl := Except.error.inj refused
                      obtain ⟨seen, m, opened, grammar, wrong⟩ := admit_differs replay admission
                      obtain ⟨nothing, clean⟩ := @walkFrom_ended _ _ _
                        { next with offset := frame.endOffset } _ seen replayed
                      refine ⟨[], event, m, ?_, rfl, ?_, ?_, ?_⟩
                      · simp only [nothing, List.nil_append]
                      · rw [List.append_nil, ← reached.manifest, opened]
                      · rw [clean]
                        exact grammar
                      · rw [List.append_nil, ← validateTerminal_counts reached]
                        exact wrong
                  | ok admitted =>
                      rw [admission] at refused
                      have same : admitted = next :=
                        Except.ok.inj ((admit_agrees admission).symm.trans replay)
                      subst same
                      obtain ⟨more, last, m, walked, walked', opened, grammar, wrong⟩ :=
                        ih (reached.turn reading admission frame.endOffset) replayed refused
                      rw [List.append_assoc] at opened grammar wrong
                      refine ⟨event :: more, last, m, ?_, ?_, opened, grammar, wrong⟩
                      · simp only [walked, List.cons_append]
                      · simp only [walked']

/-- Where the scan completes, the replay iteration completes with the same records and the same
summary, and where the replay iteration raises, the scan raises.  Where the replay iteration
completes alone, it has read one record more, a terminal that its grammar accepts and that the
scan refuses for a wrong reason, wrong bindings or wrong counts. -/
theorem replay_walk (file : Bytes) :
    (∀ requireClean s, scan file requireClean = .ok s →
      iterReplayRecords file = ((iterRecords file true).1, .ok s) ∧
        (iterRecords file true).2 = .ok ()) ∧
    (∀ e, (iterReplayRecords file).2 = .error e →
      ∀ requireClean, ∃ e', scan file requireClean = .error e') ∧
    ∀ s e, (iterReplayRecords file).2 = .ok s → scan file false = .error e →
      ∃ before event m, (iterReplayRecords file).1 = before ++ [event] ∧
        iterRecords file true = (before, .error e) ∧ openingManifest before = some m ∧
        validateReplayTerminalGrammar m (readCounts before) event = .ok s.terminalClean ∧
        validateTerminal m (readCounts before) event = .error e ∧ e ∈ wrongTerminal := by
  have agrees : ∀ s, (walk validateTerminal file).2 = .ok s →
      iterReplayRecords file = walk validateTerminal file := by
    intro s completed
    unfold iterReplayRecords walk at *
    split at completed
    · exact nomatch completed
    · rfl
    · exact walkFrom_agrees completed
  refine ⟨fun requireClean s scanned => ?_, fun e raised requireClean => ?_,
    fun s e replayed scanned => ?_⟩
  · obtain ⟨found, completed, scanned⟩ := bind_eq_ok.mp scanned
    obtain ⟨_, -, scanned⟩ := bind_eq_ok.mp scanned
    obtain rfl := Except.ok.inj scanned
    refine ⟨(agrees found completed).trans (Prod.ext rfl completed), ?_⟩
    exact bind_eq_ok.mpr ⟨found, completed, refuse_ok _ fun asked => nomatch asked.1⟩
  · cases scanned : scan file requireClean with
    | error e' => exact ⟨e', rfl⟩
    | ok s =>
        obtain ⟨found, completed, -⟩ := bind_eq_ok.mp scanned
        rw [agrees found completed, completed] at raised
        exact nomatch raised
  · have refused : (walk validateTerminal file).2 = .error e := by
      rcases bind_eq_error.mp scanned with refused | ⟨found, -, later⟩
      · exact refused
      rcases bind_eq_error.mp later with asked | ⟨_, -, later⟩
      · exact nomatch ((refuse_eq_error _ _ _).mp asked).1.1
      · exact nomatch later
    have raises : (iterRecords file true).2 = .error e := by
      show ((walk validateTerminal file).2 >>= _) = _
      rw [refused]
      rfl
    have differs : ∃ before event m, (iterReplayRecords file).1 = before ++ [event] ∧
        (walk validateTerminal file).1 = before ∧ openingManifest before = some m ∧
        validateReplayTerminalGrammar m (readCounts before) event = .ok s.terminalClean ∧
        validateTerminal m (readCounts before) event = .error e := by
      unfold iterReplayRecords walk at *
      cases header : readFileHeader file with
      | error e' =>
          rw [header] at replayed
          exact nomatch replayed
      | ok issue =>
          cases issue with
          | some issue =>
              rw [header] at refused
              exact nomatch refused
          | none =>
              rw [header] at replayed refused
              exact walkFrom_differs start_reached replayed refused
    obtain ⟨before, event, m, replay, read, opened, grammar, wrong⟩ := differs
    exact ⟨before, event, m, replay, Prod.ext read raises, opened, grammar, wrong,
      wrong_terminal grammar wrong⟩

end Inci.Journal
