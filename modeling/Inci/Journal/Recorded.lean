/-
# Journal.Recorded -- the records a session is made of

`recordAll` is what a session holds for its raw records: each is followed by the records that the
reducer derives from it, and the state and the trace go on from there.  The replay's loop, which
keeps what is stored behind a raw record and compares it only when the next record comes, finds no
difference exactly on these records (`record_recorded`, `recorded_of_silent`).
-/
import Inci.Journal.ReadExact
import Inci.Journal.ReplayCore

namespace Inci.Journal

open Inci.Theory
open Inci.Theory.Json (Text text)

set_option autoImplicit false

/-- The records behind a session's start, and the state and the trace they lead to. -/
def recordAll (state : FoundationState) (trace : Bytes) :
    List PersistedEvent → Except ReducerFailure (List PersistedEvent × FoundationState × Bytes)
  | [] => .ok ([], state, trace)
  | raw :: rest => do
      let reduced ← reduceRaw state trace raw
      let (records, last, final) ← recordAll reduced.state reduced.trace rest
      pure (raw :: (reduced.derived ++ records), last, final)

/-- The raw records among records. -/
def rawsOf (events : List PersistedEvent) : List PersistedEvent :=
  events.filter fun e => decide (e.recordKind = .raw)

theorem rawsOf_append (first second : List PersistedEvent) :
    rawsOf (first ++ second) = rawsOf first ++ rawsOf second := List.filter_append first second

theorem rawsOf_cons_raw {e : PersistedEvent} (raw : e.recordKind = .raw)
    (rest : List PersistedEvent) : rawsOf (e :: rest) = e :: rawsOf rest :=
  List.filter_cons_of_pos (by simpa using raw)

theorem rawsOf_other {events : List PersistedEvent} (other : ∀ e ∈ events, e.recordKind ≠ .raw) :
    rawsOf events = [] := by
  refine List.filter_eq_nil_iff.mpr fun e inside => ?_
  simpa using other e inside

/-! ## One raw record -/

section Reduced

variable {state : FoundationState} {trace : Bytes} {raw : PersistedEvent} {reduced : Reduced}

theorem reduceRaw_ok (done : reduceRaw state trace raw = .ok reduced) :
    ∃ reduction, reduceEvent state raw = .ok reduction ∧ reduced.state = reduction.state ∧
      collect (fun (entry : DerivedDraft × Nat) =>
        reconstructDerived raw entry.1 (raw.ingestSeq + entry.2 + 1)) reduction.outputs.zipIdx =
          .ok reduced.derived ∧
      nextTrace trace raw reduced.derived reduced.state = .ok reduced.trace := by
  obtain ⟨reduction, applied, done⟩ := bind_eq_ok.mp done
  obtain ⟨derived, rebuilt, done⟩ := bind_eq_ok.mp done
  obtain ⟨next, extended, done⟩ := bind_eq_ok.mp done
  rw [pure_eq_ok] at done
  subst done
  exact ⟨reduction, applied, rfl, rebuilt, extended⟩

theorem reconstructDerived_ok {draft : DerivedDraft} {seq : Nat} {e : PersistedEvent}
    (rebuilt : reconstructDerived raw draft seq = .ok e) :
    e = derivedRecord raw draft seq ∧ e.validate = .ok () := by
  unfold reconstructDerived at rebuilt
  split at rebuilt
  · next valid =>
    obtain rfl := Except.ok.inj rebuilt
    exact ⟨rfl, valid⟩
  · cases rebuilt

/-- What is derived is valid and of the derived kind. -/
theorem reduceRaw_derived (done : reduceRaw state trace raw = .ok reduced) :
    ∀ e ∈ reduced.derived, e.validate = .ok () ∧ e.recordKind = .derived := by
  obtain ⟨reduction, -, -, rebuilt, -⟩ := reduceRaw_ok done
  intro e inside
  obtain ⟨entry, -, each⟩ := collect_mem rebuilt inside
  obtain ⟨rfl, valid⟩ := reconstructDerived_ok each
  exact ⟨valid, rfl⟩

end Reduced

theorem reduceRaw_kind {state : FoundationState} {trace : Bytes} {raw : PersistedEvent}
    {reduced : Reduced} (done : reduceRaw state trace raw = .ok reduced) :
    raw.recordKind = .raw := by
  obtain ⟨_, -, -, -, extended⟩ := reduceRaw_ok done
  obtain ⟨_, -, extended⟩ := bind_eq_ok.mp extended
  obtain ⟨_, -, extended⟩ := bind_eq_ok.mp extended
  obtain ⟨_, kind, -⟩ := bind_eq_ok.mp extended
  rw [refuse_eq_ok, not_not] at kind
  exact kind

/-- The raw records of recorded records are the ones they were recorded for, and none of them
is a control record. -/
theorem recordAll_raws {raws records : List PersistedEvent} {state last : FoundationState}
    {trace final : Bytes} (recorded : recordAll state trace raws = .ok (records, last, final)) :
    rawsOf records = raws ∧ ∀ e ∈ records, e.recordKind ≠ .control := by
  induction raws generalizing state trace records with
  | nil =>
      obtain ⟨rfl, rfl, rfl⟩ := recorded
      exact ⟨rfl, fun e inside => absurd inside List.not_mem_nil⟩
  | cons e rest ih =>
      obtain ⟨reduced, done, recorded⟩ := bind_eq_ok.mp recorded
      obtain ⟨⟨others, last', final'⟩, behind, recorded⟩ := bind_eq_ok.mp recorded
      rw [pure_eq_ok] at recorded
      obtain ⟨rfl, rfl, rfl⟩ := recorded
      obtain ⟨same, ordinary⟩ := ih behind
      have kind := reduceRaw_kind done
      have derived := fun d inside => (reduceRaw_derived done d inside).2
      constructor
      · rw [rawsOf_cons_raw kind, rawsOf_append, same, rawsOf_other, List.nil_append]
        intro d inside raw
        rw [derived d inside] at raw
        cases raw
      · intro d inside control
        rcases List.mem_cons.mp inside with rfl | behind
        · rw [kind] at control
          cases control
        · rcases List.mem_append.mp behind with here | later
          · rw [derived d here] at control
            cases control
          · exact ordinary d later control

/-- Recording goes on where it stopped. -/
theorem recordAll_append {first second records others : List PersistedEvent}
    {state middle last : FoundationState} {trace next final : Bytes}
    (before : recordAll state trace first = .ok (records, middle, next))
    (behind : recordAll middle next second = .ok (others, last, final)) :
    recordAll state trace (first ++ second) = .ok (records ++ others, last, final) := by
  induction first generalizing state trace records with
  | nil =>
      obtain ⟨rfl, rfl, rfl⟩ := before
      exact behind
  | cons e rest ih =>
      obtain ⟨reduced, done, before⟩ := bind_eq_ok.mp before
      obtain ⟨⟨recorded, middle', next'⟩, later, before⟩ := bind_eq_ok.mp before
      rw [pure_eq_ok] at before
      obtain ⟨rfl, rfl, rfl⟩ := before
      rw [List.cons_append, recordAll, done, ok_bind, ih later, ok_bind]
      simp only [List.cons_append, List.append_assoc]
      rfl

/-! ## Comparing -/

/-- Valid records that are written alike, one by one, are the same records. -/
theorem map_encodeRecord_injective {one other : List PersistedEvent}
    (valid : ∀ e ∈ one, e.validate = .ok ()) (encoded : ∀ e ∈ other, Encoded e)
    (same : one.map encodeRecord = other.map encodeRecord) : one = other := by
  induction one generalizing other with
  | nil =>
      rw [List.map_nil] at same
      exact (List.map_eq_nil_iff.mp same.symm).symm
  | cons e rest ih =>
      cases other with
      | nil => cases same
      | cons f others =>
          obtain ⟨here, later⟩ := List.cons.inj same
          obtain ⟨prefixBytes, metadata, trailer, framed, -⟩ :=
            (encoded f List.mem_cons_self).framed
          have valid' := (encodeRecord_decodeRecord framed.decoded).1
          rw [framed.encoded] at here
          rw [encodeRecord_injective (valid e List.mem_cons_self) valid' here framed.encoded,
            ih (fun g inside => valid g (List.mem_cons_of_mem _ inside))
              (fun g inside => encoded g (List.mem_cons_of_mem _ inside)) later]

theorem compareDerivedSequences_self (events : List PersistedEvent) :
    compareDerivedSequences events events = none := by
  rw [compareDerivedSequences, if_neg (lt_irrefl _), if_neg (lt_irrefl _), if_pos rfl]

/-- No difference is found between records that are the same, and only there. -/
theorem compareDerivedSequences_none {expected stored : List PersistedEvent}
    (valid : ∀ e ∈ expected, e.validate = .ok ()) (encoded : ∀ e ∈ stored, Encoded e)
    (silent : compareDerivedSequences expected stored = none) : expected = stored := by
  unfold compareDerivedSequences at silent
  split at silent
  · cases silent
  · split at silent
    · cases silent
    · split at silent
      · next same => exact map_encodeRecord_injective valid encoded same
      · split at silent
        · cases silent
        · cases silent

/-! ## The loop -/

namespace Progress

/-- The loop behind some of the records that are stored for a raw record, without a mismatch. -/
def within (state : FoundationState) (trace : Bytes) (expected stored : List PersistedEvent) :
    Progress := ⟨some state, some trace, none, none, false, expected, stored, stored.length⟩

variable {state : FoundationState} {trace : Bytes} {expected stored : List PersistedEvent}
variable {e : PersistedEvent}

theorem finishPending_mismatch {p : Progress} {found : ReplayMismatch}
    (reported : p.mismatch = some found) : p.finishPending.mismatch = some found := by
  unfold finishPending
  split
  · exact reported
  · show (p.mismatch <|> _) = some found
    rw [reported]
    rfl

theorem raw_mismatch {p : Progress} {found : ReplayMismatch}
    (kept : p.finishPending.mismatch = some found) : (p.raw e).mismatch = some found := by
  unfold raw
  simp only
  split
  · exact kept
  · split
    · split
      · exact kept
      · show (p.finishPending.mismatch <|> _) = some found
        rw [kept]
        rfl
    · exact kept

/-- The first mismatch stays. -/
theorem record_mismatch {p : Progress} {found : ReplayMismatch}
    (reported : p.mismatch = some found) : (p.record e).mismatch = some found := by
  have kept := finishPending_mismatch reported
  unfold record
  split
  · exact raw_mismatch kept
  · unfold derived
    split
    · exact reported
    · exact reported
  · exact kept

theorem records_mismatch {events : List PersistedEvent} {p : Progress} {found : ReplayMismatch}
    (reported : p.mismatch = some found) :
    (events.foldl record p).finishPending.mismatch = some found := by
  induction events generalizing p with
  | nil => exact finishPending_mismatch reported
  | cons e rest ih => exact ih (record_mismatch reported)

theorem within_finished (state : FoundationState) (trace : Bytes) (stored : List PersistedEvent) :
    (within state trace stored stored).finishPending = within state trace [] [] := by
  unfold finishPending
  split
  · rfl
  · show (Progress.withoutPending _) = _
    simp only [within, report, withoutPending, lt_irrefl, if_false, compareDerivedSequences_self]
    rfl

/-- What is stored is what is expected where nothing is reported. -/
theorem within_silent (valid : ∀ e ∈ expected, e.validate = .ok ())
    (encoded : ∀ e ∈ stored, Encoded e)
    (silent : (within state trace expected stored).finishPending.mismatch = none) :
    expected = stored := by
  unfold finishPending at silent
  split at silent
  · next nothing =>
    rcases nothing with failed | ⟨none, zero⟩
    · cases failed
    · exact none.trans (List.length_eq_zero_iff.mp zero).symm
  · change (if expected.length < stored.length then some ReplayMismatch.derivedExtra
      else compareDerivedSequences expected stored) = none at silent
    split at silent
    · cases silent
    · exact compareDerivedSequences_none valid encoded silent

/-- A derived record is one more that is stored. -/
theorem record_derived {p : Progress} (kind : e.recordKind = .derived)
    (going : p.reductionFailed = false) :
    p.record e = { p with
      pendingStoredCount := p.pendingStoredCount + 1
      pendingStored := if p.pendingStored.length < p.pendingExpected.length + 1 then
        p.pendingStored ++ [e] else p.pendingStored } := by
  rw [record, kind]
  show p.derived e = _
  rw [derived, if_neg (by rw [going]; exact Bool.false_ne_true)]

theorem within_derived (kind : e.recordKind = .derived) (room : stored.length ≤ expected.length) :
    (within state trace expected stored).record e =
      within state trace expected (stored ++ [e]) := by
  have more : (within state trace expected stored).pendingStored.length <
      (within state trace expected stored).pendingExpected.length + 1 := Nat.lt_succ_of_le room
  rw [record_derived kind rfl, if_pos more, within, within, List.length_append,
    List.length_singleton]

theorem within_raw {reduced : Reduced} (kind : e.recordKind = .raw)
    (done : reduceRaw state trace e = .ok reduced) :
    (within state trace stored stored).record e =
      within reduced.state reduced.trace reduced.derived [] := by
  simp only [record, kind, raw, within_finished]
  simp only [within, Bool.false_eq_true, if_false, done, List.length_nil]

/-- A raw record that is not reduced is reported. -/
theorem within_refused {reason : ReducerFailure} (kind : e.recordKind = .raw)
    (refused : reduceRaw state trace e = .error reason) :
    ((within state trace stored stored).record e).mismatch = some .rawReduction := by
  simp only [record, kind, raw, within_finished]
  simp only [within, Bool.false_eq_true, if_false, refused]
  rfl

theorem finishPending_overfull {p : Progress} (going : p.reductionFailed = false)
    (more : p.pendingExpected.length < p.pendingStoredCount) :
    ∃ found, p.finishPending.mismatch = some found := by
  unfold finishPending
  rw [if_neg, if_pos more]
  · cases earlier : p.mismatch with
    | none => exact ⟨.derivedExtra, by rw [withoutPending, report, earlier]; rfl⟩
    | some found => exact ⟨found, by rw [withoutPending, report, earlier]; rfl⟩
  · rintro (failed | ⟨-, zero⟩)
    · rw [going] at failed
      cases failed
    · omega

/-- More records than expected are reported, whatever comes behind them. -/
theorem records_overfull {events : List PersistedEvent} {p : Progress}
    (going : p.reductionFailed = false) (more : p.pendingExpected.length < p.pendingStoredCount)
    (ordinary : ∀ e ∈ events, e.recordKind ≠ .control) :
    ∃ found, (events.foldl record p).finishPending.mismatch = some found := by
  induction events generalizing p with
  | nil => exact finishPending_overfull going more
  | cons e rest ih =>
      obtain ⟨here, later⟩ := List.forall_mem_cons.mp ordinary
      cases kind : e.recordKind with
      | raw =>
          obtain ⟨found, reported⟩ := finishPending_overfull going more
          have kept : (p.record e).mismatch = some found := by
            rw [record, kind]
            exact raw_mismatch reported
          rw [List.foldl_cons]
          exact ⟨found, records_mismatch kept⟩
      | derived =>
          rw [List.foldl_cons, record_derived kind going]
          exact ih going (Nat.lt_succ_of_lt more) later
      | control => exact absurd kind here

/-! ## Whole sessions -/

/-- What the reducer derives from raw records is stored behind each of them. -/
theorem within_stored {events : List PersistedEvent}
    (kinds : ∀ e ∈ events, e.recordKind = .derived)
    (room : stored.length + events.length ≤ expected.length) :
    events.foldl record (within state trace expected stored) =
      within state trace expected (stored ++ events) := by
  induction events generalizing stored with
  | nil => rw [List.foldl_nil, List.append_nil]
  | cons e rest ih =>
      obtain ⟨here, later⟩ := List.forall_mem_cons.mp kinds
      rw [List.length_cons] at room
      rw [List.foldl_cons, within_derived here (by omega),
        ih later (by rw [List.length_append, List.length_singleton]; omega), List.append_assoc]
      rfl

/-- The loop reports nothing on recorded records, and ends with their state and trace. -/
theorem record_recorded {raws records : List PersistedEvent} {last : FoundationState}
    {final : Bytes} (kinds : ∀ e ∈ raws, e.recordKind = .raw)
    (recorded : recordAll state trace raws = .ok (records, last, final)) :
    (records.foldl record (within state trace stored stored)).finishPending =
      within last final [] [] := by
  induction raws generalizing state trace stored records with
  | nil =>
      obtain ⟨rfl, rfl, rfl⟩ := recorded
      exact within_finished _ _ _
  | cons e rest ih =>
      obtain ⟨here, later⟩ := List.forall_mem_cons.mp kinds
      obtain ⟨reduced, done, recorded⟩ := bind_eq_ok.mp recorded
      obtain ⟨⟨others, last', final'⟩, behind, recorded⟩ := bind_eq_ok.mp recorded
      rw [pure_eq_ok] at recorded
      obtain ⟨rfl, rfl, rfl⟩ := recorded
      have kind := fun d inside => (reduceRaw_derived done d inside).2
      rw [List.foldl_cons, within_raw here done, List.foldl_append,
        within_stored kind (by rw [List.length_nil, Nat.zero_add]), List.nil_append]
      exact ih later behind

/-- Where the loop reports nothing, the records are recorded ones: first what is still missing
of the pending ones, then raw records and what they lead to. -/
theorem recorded_of_silent {events : List PersistedEvent} {end_ : Progress}
    (valid : ∀ e ∈ expected, e.validate = .ok () ∧ e.recordKind = .derived)
    (encoded : ∀ e ∈ stored ++ events, Encoded e)
    (ordinary : ∀ e ∈ events, e.recordKind ≠ .control) (room : stored.length ≤ expected.length)
    (ended : (events.foldl record (within state trace expected stored)).finishPending = end_)
    (silent : end_.mismatch = none) :
    ∃ missing records last final, events = missing ++ records ∧ stored ++ missing = expected ∧
      recordAll state trace (rawsOf records) = .ok (records, last, final) ∧
        end_ = within last final [] [] := by
  induction events generalizing state trace expected stored with
  | nil =>
      rw [List.append_nil] at encoded
      rw [List.foldl_nil] at ended
      obtain rfl := within_silent (fun e inside => (valid e inside).1) encoded (ended ▸ silent)
      rw [within_finished] at ended
      exact ⟨[], [], state, trace, rfl, List.append_nil _, rfl, ended.symm⟩
  | cons e rest ih =>
      obtain ⟨here, later⟩ := List.forall_mem_cons.mp ordinary
      rw [List.foldl_cons] at ended
      cases kind : e.recordKind with
      | control => exact absurd kind here
      | derived =>
          rw [within_derived kind room] at ended
          by_cases more : (stored ++ [e]).length ≤ expected.length
          · obtain ⟨missing, records, last, final, rfl, rfl, recorded, done⟩ :=
              ih valid (by simpa using encoded) later more ended
            exact ⟨e :: missing, records, last, final, rfl, by simp, recorded, done⟩
          · obtain ⟨found, reported⟩ := records_overfull
              (p := within state trace expected (stored ++ [e])) rfl (not_le.mp more) later
            rw [ended, silent] at reported
            cases reported
      | raw =>
          have settled : (within state trace expected stored).finishPending.mismatch = none := by
            cases reported : (within state trace expected stored).finishPending.mismatch with
            | none => rfl
            | some found =>
                have kept : ((within state trace expected stored).record e).mismatch =
                    some found := by
                  rw [record, kind]
                  exact raw_mismatch reported
                rw [← ended, records_mismatch kept] at silent
                cases silent
          obtain rfl := within_silent (fun e inside => (valid e inside).1)
            (fun e inside => encoded e (List.mem_append_left _ inside)) settled
          cases done : reduceRaw state trace e with
          | error reason =>
              rw [← ended, records_mismatch (within_refused kind done)] at silent
              cases silent
          | ok reduced =>
              rw [within_raw kind done] at ended
              have derived := reduceRaw_derived done
              obtain ⟨missing, records, last, final, rfl, same, recorded, finished⟩ :=
                ih derived (by simpa using fun e inside => encoded e (by simp [inside]))
                  later (Nat.zero_le _) ended
              rw [List.nil_append] at same
              subst same
              refine ⟨[], e :: (reduced.derived ++ records), last, final, rfl, List.append_nil _,
                ?_, finished⟩
              have raws : rawsOf (e :: (reduced.derived ++ records)) = e :: rawsOf records := by
                rw [rawsOf_cons_raw kind, rawsOf_append, rawsOf_other, List.nil_append]
                intro d inside other
                rw [(derived d inside).2] at other
                cases other
              rw [raws, recordAll, done, ok_bind, recorded]
              rfl

end Progress

end Inci.Journal
