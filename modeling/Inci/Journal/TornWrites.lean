/-
# Journal.TornWrites -- a journal cut off at any byte

A crash leaves the first bytes of a session's file.  `recordsBy` are the records
whose frames end inside them.  `torn_write_safe` reads such a file: whatever the
offset, the scan yields exactly these records, and it tells an offset between two
frames from one inside a frame or inside the header.
-/
import Inci.Journal.WriteRead

namespace Inci.Journal

open Inci.Theory
open Inci.Theory.Json (Text text)
open Inci.Theory.Layout (size)

set_option autoImplicit false

/-! ## Frame ends -/

/-- Each record with the offset its frame ends at. -/
def frameEnds (start : Nat) : List PersistedEvent → List (PersistedEvent × Nat)
  | [] => []
  | event :: rest =>
      (event, start + (frameOf event).length) :: frameEnds (start + (frameOf event).length) rest

/-- The records whose frames end by an offset. -/
def recordsBy (events : List PersistedEvent) (n : Nat) : List PersistedEvent :=
  ((frameEnds (size filePrefix) events).filter fun r => decide (r.2 ≤ n)).map Prod.fst

/-- The offset is right after the file's prefix or after a frame. -/
def FrameBoundary (events : List PersistedEvent) (n : Nat) : Prop :=
  n = size filePrefix ∨ n ∈ (frameEnds (size filePrefix) events).map Prod.snd

instance (events : List PersistedEvent) (n : Nat) : Decidable (FrameBoundary events n) :=
  inferInstanceAs (Decidable (_ ∨ _))

/-- The frames after an offset end after it. -/
theorem frameEnds_after {events : List PersistedEvent} :
    ∀ {start : Nat}, ∀ r ∈ frameEnds start events, start ≤ r.2 := by
  induction events with
  | nil => exact fun r inside => nomatch inside
  | cons event rest ih =>
      intro start r inside
      rcases List.mem_cons.mp inside with rfl | later
      · exact Nat.le_add_right _ _
      · have after := ih r later
        omega

/-- Where an offset falls among whole frames: after some of them, and inside the next
one if there is a part of it. -/
structure CutAt (start : Nat) (events before after : List PersistedEvent) (n : Nat) : Prop where
  split : events = before ++ after
  kept : ((frameEnds start events).filter fun r => decide (r.2 ≤ n)).map Prod.fst = before
  reached : start + (before.flatMap frameOf).length ≤ n
  boundary : (n = start ∨ n ∈ (frameEnds start events).map Prod.snd) ↔
    n = start + (before.flatMap frameOf).length
  partly : ∀ event rest, after = event :: rest →
    n < start + (before.flatMap frameOf).length + (frameOf event).length
  whole : after = [] → n = start + (before.flatMap frameOf).length

theorem cutAt_exists {events : List PersistedEvent} :
    ∀ {start n : Nat}, (∀ event ∈ events, Encoded event) → start ≤ n →
      n ≤ start + (events.flatMap frameOf).length → ∃ before after, CutAt start events before after n := by
  induction events with
  | nil =>
      intro start n _ low high
      have none : start + (([] : List PersistedEvent).flatMap frameOf).length = start := by
        rw [List.flatMap_nil, List.length_nil, Nat.add_zero]
      rw [none] at high
      have same : n = start := le_antisymm high low
      refine ⟨[], [], rfl, rfl, none.trans_le low, ?_,
        fun _ _ impossible => absurd impossible.symm (List.cons_ne_nil _ _), fun _ => same.trans none.symm⟩
      rw [none, frameEnds, List.map_nil]
      exact ⟨fun either => either.resolve_right List.not_mem_nil, Or.inl⟩
  | cons event rest ih =>
      intro start n encoded low high
      have long : 0 < (frameOf event).length :=
        Nat.zero_lt_of_lt (Encoded.length event (encoded event List.mem_cons_self))
      rw [List.flatMap_cons, List.length_append] at high
      by_cases inside : n < start + (frameOf event).length
      · have none : ∀ r ∈ frameEnds start (event :: rest), n < r.2 := by
          intro r member
          rcases List.mem_cons.mp member with rfl | later
          · exact inside
          · exact inside.trans_le (frameEnds_after r later)
        have empty : start + (([] : List PersistedEvent).flatMap frameOf).length = start := by
          rw [List.flatMap_nil, List.length_nil, Nat.add_zero]
        refine ⟨[], event :: rest, rfl, ?_, empty.trans_le low, ?_, ?_,
          fun impossible => absurd impossible (List.cons_ne_nil _ _)⟩
        · rw [List.filter_eq_nil_iff.mpr, List.map_nil]
          intro r member
          rw [decide_eq_true_eq, not_le]
          exact none r member
        · rw [empty]
          refine ⟨fun at_ => ?_, Or.inl⟩
          rcases at_ with same | member
          · exact same
          · obtain ⟨r, known, same⟩ := List.mem_map.mp member
            exact absurd (none r known) (by omega)
        · intro event' rest' same
          obtain ⟨rfl, rfl⟩ := List.cons.inj same
          rw [empty]
          exact inside
      · rw [not_lt] at inside
        obtain ⟨before, after, cut⟩ := ih
          (fun e member => encoded e (List.mem_cons_of_mem _ member)) inside (by omega)
        have sum : start + ((event :: before).flatMap frameOf).length =
            start + (frameOf event).length + (before.flatMap frameOf).length := by
          rw [List.flatMap_cons, List.length_append]
          omega
        refine ⟨event :: before, after, ?_, ?_, ?_, ?_, ?_, ?_⟩
        · rw [cut.split]
          rfl
        · rw [frameEnds, List.filter_cons_of_pos (by simpa using inside), List.map_cons, cut.kept]
        · rw [sum]
          exact cut.reached
        · rw [sum, ← cut.boundary, frameEnds, List.map_cons, List.mem_cons]
          have past : n ≠ start := by omega
          simp only [past, false_or]
        · intro event' rest' same
          rw [sum]
          exact cut.partly event' rest' same
        · intro same
          rw [sum]
          exact cut.whole same

/-! ## The reader's counts -/

/-- The loop's counters when it has read these records. -/
structure Counted (st : WalkState) (events : List PersistedEvent) : Prop where
  records : st.recordCount = events.length
  expected : st.expectedSeq = events.length + 1
  last : st.lastGoodSeq = events.length
  raws : st.rawCount = events.countP fun e => decide (e.recordKind = .raw)
  derived : st.derivedCount = events.countP fun e => decide (e.recordKind = .derived)
  unended : st.terminalSeen = false → st.terminalClean = false

theorem manifestFromStart_control {event : PersistedEvent} {m : SessionManifest}
    (started : manifestFromStart event = .ok m) : event.recordKind = .control := by
  obtain ⟨_, first, -⟩ := bind_eq_ok.mp started
  rw [refuse_eq_ok, not_or, not_or, not_not, not_not] at first
  exact first.2.1

/-- What a later record does to the counters. -/
theorem admitLater_counts {check : TerminalCheck} {m : SessionManifest} {st next : WalkState}
    {event : PersistedEvent} (admitted : admitLater check m st event = .ok next) :
    next.recordCount = st.recordCount ∧ next.expectedSeq = st.expectedSeq ∧
      next.rawCount = st.rawCount + (if event.recordKind = .raw then 1 else 0) ∧
      next.derivedCount = st.derivedCount + (if event.recordKind = .derived then 1 else 0) ∧
      (next.terminalSeen = false → next.terminalClean = st.terminalClean ∧
        st.terminalSeen = false) := by
  obtain ⟨_, -, admitted⟩ := bind_eq_ok.mp admitted
  obtain ⟨_, -, admitted⟩ := bind_eq_ok.mp admitted
  cases kind : event.recordKind with
  | raw =>
      rw [kind] at admitted
      obtain rfl := Except.ok.inj admitted
      exact ⟨rfl, rfl, rfl, rfl, fun reading => ⟨rfl, reading⟩⟩
  | derived =>
      rw [kind] at admitted
      obtain ⟨_, -, admitted⟩ := bind_eq_ok.mp admitted
      obtain rfl := Except.ok.inj admitted
      exact ⟨rfl, rfl, rfl, rfl, fun reading => ⟨rfl, reading⟩⟩
  | control =>
      rw [kind] at admitted
      obtain ⟨_, -, admitted⟩ := bind_eq_ok.mp admitted
      obtain ⟨clean, -, admitted⟩ := bind_eq_ok.mp admitted
      obtain rfl := Except.ok.inj admitted
      exact ⟨rfl, rfl, rfl, rfl, nofun⟩

theorem Counted.advance {check : TerminalCheck} {st next : WalkState} {event : PersistedEvent}
    {events : List PersistedEvent} (counted : Counted st events)
    (stepped : Journal.advance check st event = .ok next) : Counted next (events ++ [event]) := by
  obtain ⟨_, -, stepped⟩ := bind_eq_ok.mp stepped
  obtain ⟨admitted, admission, stepped⟩ := bind_eq_ok.mp stepped
  obtain rfl := Except.ok.inj stepped
  obtain ⟨_, turn, admission⟩ := bind_eq_ok.mp admission
  rw [refuse_eq_ok, not_not] at turn
  have records := counted.records
  have expected := counted.expected
  have raws := counted.raws
  have derived := counted.derived
  cases first : st.manifest with
  | none =>
      rw [first] at admission
      obtain ⟨m, started, admission⟩ := bind_eq_ok.mp admission
      obtain rfl := Except.ok.inj admission
      have kind := manifestFromStart_control started
      refine ⟨?_, ?_, ?_, ?_, ?_, counted.unended⟩
      · simp only [WalkState.next, records, List.length_append, List.length_singleton]
      · simp only [WalkState.next, expected, List.length_append, List.length_singleton]
      · simp only [WalkState.next, turn, expected, List.length_append, List.length_singleton]
      · simp [WalkState.next, raws, kind]
      · simp [WalkState.next, derived, kind]
  | some m =>
      rw [first] at admission
      obtain ⟨later, accepted, admission⟩ := bind_eq_ok.mp admission
      obtain rfl := Except.ok.inj admission
      obtain ⟨records', expected', raws', derived', ended⟩ := admitLater_counts accepted
      refine ⟨?_, ?_, ?_, ?_, ?_, fun reading => ?_⟩
      · simp only [WalkState.next, records', records, List.length_append, List.length_singleton]
      · simp only [WalkState.next, expected', expected, List.length_append, List.length_singleton]
      · simp only [WalkState.next, turn, expected, List.length_append, List.length_singleton]
      · show later.rawCount = _
        rw [raws', raws, List.countP_append, List.countP_singleton]
        simp only [decide_eq_true_eq]
      · show later.derivedCount = _
        rw [derived', derived, List.countP_append, List.countP_singleton]
        simp only [decide_eq_true_eq]
      · obtain ⟨same, open_⟩ := ended reading
        exact same.trans (counted.unended open_)

theorem Counted.advanceAll {check : TerminalCheck} {more : List PersistedEvent} :
    ∀ {st next : WalkState} {events : List PersistedEvent}, Counted st events →
      Journal.advanceAll check st more = .ok next → Counted next (events ++ more) := by
  induction more with
  | nil =>
      intro st next events counted read
      obtain rfl := Except.ok.inj read
      rwa [List.append_nil]
  | cons event rest ih =>
      intro st next events counted read
      obtain ⟨middle, stepped, read⟩ := bind_eq_ok.mp read
      have joined : events ++ event :: rest = (events ++ [event]) ++ rest := by simp
      rw [joined]
      exact ih (counted.advance stepped) read

theorem start_counted : Counted .start [] := ⟨rfl, rfl, rfl, rfl, rfl, fun _ => rfl⟩

/-- A loop that goes on has not met the terminal. -/
theorem advanceAll_reading {check : TerminalCheck} {st next : WalkState} {event : PersistedEvent}
    {rest : List PersistedEvent} (read : advanceAll check st (event :: rest) = .ok next) :
    st.terminalSeen = false := by
  obtain ⟨_, stepped, -⟩ := bind_eq_ok.mp read
  obtain ⟨_, reading, -⟩ := bind_eq_ok.mp stepped
  rwa [refuse_eq_ok, Bool.not_eq_true] at reading

/-! ## Cut files -/

/-- What a scan reports of the first bytes of a session's file. -/
def cutSummary (file : Bytes) (events : List PersistedEvent) (closed : Option Bool) (n : Nat) :
    ScanSummary where
  fileSize := n
  lastGoodOffset := if n < size filePrefix then 0 else (fileOf (recordsBy events n)).length
  lastGoodIngestSeq := (recordsBy events n).length
  recordCount := (recordsBy events n).length
  rawCount := (recordsBy events n).countP fun e => decide (e.recordKind = .raw)
  derivedCount := (recordsBy events n).countP fun e => decide (e.recordKind = .derived)
  terminalClean := decide (n = file.length ∧ closed = some true)
  issue :=
    if ¬FrameBoundary events n then some .tornTail
    else if n = file.length then endingIssue closed
    else some .missingTerminal
  walValid := decide (FrameBoundary events n)

section Cuts

variable {events before after : List PersistedEvent} {n : Nat}

theorem CutAt.fileOf_take (cut : CutAt (size filePrefix) events before after n) :
    (fileOf events).take n =
      fileOf before ++ (after.flatMap frameOf).take (n - (fileOf before).length) := by
  have reached := cut.reached
  rw [← fileOf_length] at reached
  have split : fileOf events = fileOf before ++ after.flatMap frameOf := by
    rw [cut.split, fileOf, fileOf, List.flatMap_append, List.append_assoc]
  rw [split, List.take_append, List.take_of_length_le reached]

/-- The header alone is torn when the file is shorter than it. -/
theorem walk_header {file : Bytes} (check : TerminalCheck) (short : file.length < size filePrefix) :
    walk check file = ([], .ok ⟨file.length, 0, 0, 0, 0, 0, false, some .tornTail, false⟩) := by
  have length : (pread file 0 (size filePrefix)).length = file.length := by
    rw [pread_length]
    omega
  rw [walk, header_torn short]
  simp only [headerSummary, length]

theorem frameBoundary_header (events : List PersistedEvent) (short : n < size filePrefix) :
    ¬FrameBoundary events n ∧ recordsBy events n = [] := by
  constructor
  · rintro (same | inside)
    · omega
    · obtain ⟨r, known, same⟩ := List.mem_map.mp inside
      have after := frameEnds_after r known
      omega
  · rw [recordsBy, List.filter_eq_nil_iff.mpr, List.map_nil]
    intro r known
    have after := frameEnds_after r known
    rw [decide_eq_true_eq]
    omega

end Cuts

/-- The records and the summary of a scan give its two answers. -/
theorem walk_answers {file : Bytes} {events : List PersistedEvent} {found : ScanSummary}
    (walked : walk validateTerminal file = (events, .ok found)) :
    iterRecords file true = (events, .ok ()) ∧ scan file false = .ok found := by
  constructor
  · rw [iterRecords, walked]
    exact Prod.ext rfl (bind_eq_ok.mpr ⟨_, rfl, refuse_ok _ (by simp)⟩)
  · rw [scan, walked]
    exact bind_eq_ok.mpr ⟨_, rfl, bind_eq_ok.mpr ⟨(), refuse_ok _ (by simp), rfl⟩⟩

/-- Every first part of a session's file is read: the scan yields the records whose
frames end inside it, and reports where it was cut. -/
theorem torn_write_safe {lib : TextLibrary} {m : SessionManifest} {first second : Conditions}
    {operations : List Operation} {w : JournalWriter} {events : List PersistedEvent}
    (valid : m.validate = .ok ())
    (run : session lib m first second operations = some (w, events)) {n : Nat}
    (inside : n ≤ w.capability.file.length) :
    iterRecords (w.capability.file.take n) true = (recordsBy events n, .ok ()) ∧
      scan (w.capability.file.take n) false =
        .ok (cutSummary w.capability.file events (ending operations) n) := by
  obtain ⟨file, encoded, ⟨seen, clean⟩, ended, read⟩ := session_reads valid run
  apply walk_answers
  by_cases header : n < size filePrefix
  · have length : (w.capability.file.take n).length = n := by
      rw [List.length_take, Nat.min_eq_left inside]
    have short : n ≠ w.capability.file.length := by
      rw [file, fileOf_length]
      omega
    obtain ⟨loose, none⟩ := frameBoundary_header events header
    rw [walk_header _ (by rw [length]; exact header), length, none, cutSummary, none]
    simp only [header, if_true, loose, not_false_eq_true, short, false_and, decide_false,
      List.length_nil, List.countP_nil]
  · rw [not_lt] at header
    obtain ⟨before, after, cut⟩ := cutAt_exists encoded header
      (by rw [← fileOf_length, ← file]; exact inside)
    have kept : recordsBy events n = before := cut.kept
    have boundary : FrameBoundary events n ↔ n = (fileOf before).length := by
      rw [fileOf_length]
      exact cut.boundary
    have part := cut.fileOf_take
    have encodedBefore : ∀ event ∈ before, Encoded event := fun event known =>
      encoded event (cut.split ▸ List.mem_append_left _ known)
    rw [cut.split, advanceAll_append] at read
    obtain ⟨st, readBefore, readAfter⟩ := bind_eq_ok.mp read
    have counted := start_counted.advanceAll readBefore
    rw [List.nil_append] at counted
    have offset : st.offset = (fileOf before).length := by
      rw [advanceAll_offset readBefore, fileOf_length]
      rfl
    rw [file, part]
    cases after with
    | nil =>
        have all : before = events := by rw [cut.split, List.append_nil]
        subst all
        have whole : n = (fileOf before).length := by
          rw [fileOf_length]
          exact cut.whole rfl
        obtain rfl := Except.ok.inj readAfter
        rw [List.flatMap_nil, List.take_nil, List.append_nil, walk_whole encodedBefore readBefore,
          kept]
        refine Prod.ext rfl (congrArg Except.ok ?_)
        have start : (readerState w).offset = (fileOf before).length := offset
        rw [offset, summary, counted.last, counted.records, counted.raws, counted.derived, cutSummary,
          kept, ← whole, ended]
        simp only [start, ← whole, boundary.mpr whole, not_lt.mpr header, not_true, if_false, if_true, true_and,
          decide_true, Option.isNone_none]
        cases seen with
        | false => rfl
        | true => cases clean <;> rfl
    | cons event rest =>
        have reading := advanceAll_reading readAfter
        have last : Encoded event := encoded event (by rw [cut.split]; simp)
        have long : 0 < (frameOf event).length := Nat.zero_lt_of_lt (Encoded.length event last)
        have partly := cut.partly event rest rfl
        rw [← fileOf_length] at partly
        have reached := cut.reached
        rw [← fileOf_length] at reached
        have before_end : n ≠ (fileOf events).length := by
          rw [cut.split, fileOf_length, List.flatMap_append, List.length_append, List.flatMap_cons,
            List.length_append]
          rw [fileOf_length] at partly
          omega
        by_cases whole : n = (fileOf before).length
        · rw [← whole, Nat.sub_self, List.take_zero, List.append_nil,
            walk_whole encodedBefore readBefore, kept]
          refine Prod.ext rfl (congrArg Except.ok ?_)
          rw [offset, summary, counted.last, counted.records, counted.raws, counted.derived,
            cutSummary, kept, ← whole, reading, counted.unended reading]
          simp only [offset, ← whole, boundary.mpr whole, not_lt.mpr header, before_end, not_true, if_false,
            false_and, decide_false, Bool.false_eq_true, decide_true, Option.isNone_none]
        · have taken : ((event :: rest).flatMap frameOf).take (n - (fileOf before).length) =
              (frameOf event).take (n - (fileOf before).length) := by
            rw [List.flatMap_cons, List.take_append_of_le_length (by omega)]
          have length : (fileOf before).length + (n - (fileOf before).length) = n := by omega
          rw [taken, walk_torn encodedBefore readBefore reading last (by omega) (by omega), kept,
            length]
          refine Prod.ext rfl (congrArg Except.ok ?_)
          rw [offset, summary, counted.last, counted.records, counted.raws, counted.derived,
            cutSummary, kept, counted.unended reading]
          have loose : ¬FrameBoundary events n := fun at_ => whole (boundary.mp at_)
          simp only [offset, loose, torn, not_lt.mpr header, before_end, not_false_eq_true, if_true, if_false,
            false_and, decide_false, Option.isNone_some]

/-- The file of the sample session without its last byte. -/
theorem torn_write_safe_byte : ∃ w events,
    session asciiLibrary sampleManifest .smooth .smooth sampleOperations = some (w, events) ∧
      iterRecords (w.capability.file.take (w.capability.file.length - 1)) true =
        (recordsBy events (w.capability.file.length - 1), .ok ()) ∧
      scan (w.capability.file.take (w.capability.file.length - 1)) false =
        .ok (cutSummary w.capability.file events (some false) (w.capability.file.length - 1)) := by
  obtain ⟨⟨w, events⟩, run⟩ := sampleOperations_accepted
  exact ⟨w, events, run, torn_write_safe sampleManifest_valid run (Nat.sub_le _ _)⟩

end Inci.Journal
