/-
# Journal.Reducer -- the foundation state summarizes the records applied

`Summarizes` is what a state says of the records that led to it.  The initial
state summarizes none (`Summarizes.initial`), an acceptable record keeps the
summary (`Summarizes.append`), and a summary is always valid and is written
(`Summarizes.accepted`, `Summarizes.written`), so the checks the reducer repeats never
refuse a state it reached.  `Acceptable` is then the exact condition under which a
record is applied (`Summarizes.reduces`, `Summarizes.acceptable`): it asks nothing
of the records of other sources but that their sequence numbers are smaller.
-/
import Inci.Journal.Foundation
import Inci.Journal.RecordIdentity

namespace Inci.Journal

open Inci.Theory
open Inci.Theory.Json (Text text Value)
open Watermarks (Ranked Rising highest)

set_option autoImplicit false

variable {sessionId : Text} {applied : List PersistedEvent} {s : FoundationState}
variable {e : PersistedEvent}

/-! ## Sorting sources -/

theorem SourceKind.value_injective : Function.Injective SourceKind.value := by
  intro kind kind'
  cases kind <;> cases kind' <;> decide

theorem SourceKey.rank_injective : Function.Injective SourceKey.rank := by
  rintro ⟨kind, id⟩ ⟨kind', id'⟩ same
  obtain ⟨values, ids⟩ := Prod.mk.inj (toLex.injective same)
  exact Prod.ext (SourceKind.value_injective values) ids

/-! ## Numbers that print -/

/-- Below a number that prints, every number does. -/
theorem printable_of_le {m n : Nat} (le : m ≤ n) (prints : Json.printable (.int n) = true) :
    Json.printable (.int m) = true := by
  simp only [Json.printable, decide_eq_true_eq, Int.natAbs_natCast] at prints ⊢
  have length : ∀ k : Nat, (Json.decimal k).length = max 1 (Nat.digits 10 k).length := by
    intro k
    unfold Json.decimal
    by_cases zero : k = 0
    · rw [if_pos zero, zero]
      rfl
    · have some : 0 < (Nat.digits 10 k).length :=
        List.length_pos_of_ne_nil (Nat.digits_ne_nil_iff_ne_zero.mpr zero)
      rw [if_neg zero, List.length_map, List.length_reverse]
      omega
  have digits := Nat.le_length_digits_le 10 m n le
  rw [length] at prints ⊢
  omega

theorem writeCanonical_ok {members : Members}
    (prints : ∀ m ∈ members, Json.printable m.2 = true) :
    ∃ content, writeCanonical members = .ok content := by
  have whole : Json.printable (.obj members) = true := (printableMembers_iff members).mpr prints
  have dumped : Json.dumps (.obj members) = some (Json.render (Json.sortKeys (.obj members))) :=
    if_pos whole
  refine ⟨Utf8.ascii (Json.render (Json.sortKeys (.obj members))), ?_⟩
  rw [writeCanonical, canonicalJsonBytes_eq_some.mpr ⟨_, dumped, rfl⟩]

theorem printableItems_of (items : List Value) (prints : ∀ v ∈ items, Json.printable v = true) :
    Json.printableItems items = true := by
  induction items with
  | nil => rfl
  | cons v rest ih =>
      rw [Json.printableItems, prints v List.mem_cons_self,
        ih fun w inside => prints w (List.mem_cons_of_mem _ inside)]
      rfl

theorem Prints.number {n : Nat} (prints : Prints e) (name : String)
    (field : (text name, Value.int n) ∈ e.metadataProjection) : Json.printable (.int n) = true :=
  (printableMembers_iff _).mp prints _ field

theorem Prints.ingestSeq (prints : Prints e) : Json.printable (.int e.ingestSeq) = true :=
  prints.number "ingest_seq" (by simp [PersistedEvent.metadataProjection])

/-! ## The entries of a state -/

theorem checkEntries_ok {entries : List (SourceKey × Nat)} {seen : List SourceKey}
    (safe : ∀ entry ∈ entries, safeIdentifier entry.1.2 "source_id" = .ok ())
    (distinct : (Dict.keys entries).Nodup) (fresh : ∀ key ∈ Dict.keys entries, key ∉ seen) :
    checkEntries seen entries = .ok () := by
  induction entries generalizing seen with
  | nil => rfl
  | cons entry rest ih =>
      obtain ⟨alone, distinct⟩ := List.nodup_cons.mp distinct
      have later : ∀ key ∈ Dict.keys rest, key ∉ entry.1 :: seen := by
        intro key inside known
        rcases List.mem_cons.mp known with rfl | before
        · exact alone inside
        · exact fresh key (List.mem_cons_of_mem _ inside) before
      have here := safe entry List.mem_cons_self
      rw [checkEntries, refuse_ok _ (not_not.mpr here), ok_bind,
        refuse_ok _ (fresh entry.1 List.mem_cons_self), ok_bind]
      exact ih (fun other inside => safe other (List.mem_cons_of_mem _ inside)) distinct later

/-- Increasing positive numbers are at least as many as the last of them says. -/
theorem length_le_last {numbers : List Nat} (increasing : numbers.Pairwise (· < ·))
    (positive : ∀ n ∈ numbers, 1 ≤ n) : numbers.length ≤ numbers.getLast?.getD 0 := by
  induction numbers using List.reverseRecOn with
  | nil => exact le_rfl
  | append_singleton front last ih =>
      obtain ⟨before, -, below⟩ := List.pairwise_append.mp increasing
      have shorter := ih before fun n inside => positive n (List.mem_append_left _ inside)
      have one := positive last (by simp)
      rw [List.getLast?_concat, List.length_append, List.length_singleton, Option.getD_some]
      cases found : front.getLast? with
      | none =>
          rw [found, Option.getD_none] at shorter
          omega
      | some n =>
          have less := below n (List.mem_of_getLast? found) last (by simp)
          rw [found, Option.getD_some] at shorter
          omega

/-! ## Summaries -/

/-- What a state says of the records that led to it. -/
structure Summarizes (sessionId : Text) (applied : List PersistedEvent) (s : FoundationState) :
    Prop where
  session : s.sessionId = sessionId
  raw : s.rawCount = applied.length
  derived : s.derivedCount = applied.length
  last : s.lastAppliedRawSeq = (applied.map PersistedEvent.ingestSeq).getLast?.getD 0
  increasing : (applied.map PersistedEvent.ingestSeq).Pairwise (· < ·)
  ranked : Ranked SourceKey.rank s.sourceEpochs
  epochs : ∀ key, Dict.get s.sourceEpochs key =
    highest PersistedEvent.sourceKey PersistedEvent.connectionEpoch applied key
  rising : Rising PersistedEvent.sourceKey PersistedEvent.connectionEpoch applied
  valid : ∀ e ∈ applied, e.validate = .ok ()
  prints : ∀ e ∈ applied, Prints e

/-- A record that can be applied after the ones before it. -/
structure Acceptable (sessionId : Text) (applied : List PersistedEvent) (e : PersistedEvent) :
    Prop where
  valid : e.validate = .ok ()
  prints : Prints e
  raw : e.recordKind = .raw
  session : e.sessionId = sessionId
  later : ∀ a ∈ applied, a.ingestSeq < e.ingestSeq
  risen : ∀ a ∈ applied, a.sourceKey = e.sourceKey → a.connectionEpoch ≤ e.connectionEpoch

/-- The state after a record. -/
def FoundationState.after (s : FoundationState) (e : PersistedEvent) : FoundationState :=
  { s with
    lastAppliedRawSeq := e.ingestSeq
    rawCount := s.rawCount + 1
    derivedCount := s.derivedCount + 1
    sourceEpochs := Watermarks.record SourceKey.rank s.sourceEpochs e.sourceKey e.connectionEpoch }

theorem valid_positive (valid : e.validate = .ok ()) : 1 ≤ e.ingestSeq := by
  simp only [PersistedEvent.validate, positiveInteger, bind_eq_ok, exists_unit] at valid
  obtain ⟨-, positive, -⟩ := valid
  rw [refuse_eq_ok] at positive
  omega

theorem valid_sourceId (valid : e.validate = .ok ()) :
    safeIdentifier e.sourceId "source_id" = .ok () := by
  simp only [PersistedEvent.validate, bind_eq_ok, exists_unit] at valid
  obtain ⟨-, -, -, -, safe, -⟩ := valid
  exact safe

namespace Summarizes

theorem initial : Summarizes sessionId [] ⟨sessionId, 0, 0, 0, []⟩ where
  session := rfl
  raw := rfl
  derived := rfl
  last := rfl
  increasing := .nil
  ranked := .nil
  epochs _ := rfl
  rising := .nil
  valid _ inside := absurd inside List.not_mem_nil
  prints _ inside := absurd inside List.not_mem_nil

/-- An entry is the highest epoch of a record that was applied. -/
theorem entry (sums : Summarizes sessionId applied s) {entry : SourceKey × Nat}
    (inside : entry ∈ s.sourceEpochs) :
    ∃ a ∈ applied, a.sourceKey = entry.1 ∧ a.connectionEpoch = entry.2 := by
  have found := (Dict.get_eq_some sums.ranked.nodup).mpr inside
  rw [sums.epochs] at found
  exact (Watermarks.highest_spec.mp found).1

theorem positive (sums : Summarizes sessionId applied s) :
    ∀ n ∈ applied.map PersistedEvent.ingestSeq, 1 ≤ n := by
  intro n inside
  obtain ⟨a, member, rfl⟩ := List.mem_map.mp inside
  exact valid_positive (sums.valid a member)

theorem count_le (sums : Summarizes sessionId applied s) : s.rawCount ≤ s.lastAppliedRawSeq := by
  have bound := length_le_last sums.increasing sums.positive
  rwa [List.length_map, ← sums.raw, ← sums.last] at bound

/-- No more sources than records. -/
theorem sources_le (sums : Summarizes sessionId applied s) :
    s.sourceEpochs.length ≤ s.rawCount := by
  have inside : Dict.keys s.sourceEpochs ⊆ applied.map PersistedEvent.sourceKey := by
    intro key member
    obtain ⟨entry, held, rfl⟩ := List.mem_map.mp member
    obtain ⟨a, before, same, -⟩ := sums.entry held
    exact List.mem_map.mpr ⟨a, before, same⟩
  have bound := (sums.ranked.nodup.subperm inside).length_le
  rwa [Dict.keys, List.length_map, List.length_map, ← sums.raw] at bound

theorem some_source (sums : Summarizes sessionId applied s) (some : applied ≠ []) :
    s.sourceEpochs ≠ [] := by
  intro none
  obtain ⟨a, rest, rfl⟩ := List.exists_cons_of_ne_nil some
  have found := sums.epochs a.sourceKey
  rw [none] at found
  exact Watermarks.highest_eq_none.mp found.symm a List.mem_cons_self rfl

/-- The state's own check never refuses a summary. -/
theorem accepted (sums : Summarizes sessionId applied s)
    (named : validateSessionId sessionId = .ok ()) : validateState s = .ok () := by
  have entries : checkEntries [] s.sourceEpochs = .ok () := by
    refine checkEntries_ok ?_ sums.ranked.nodup fun _ _ => List.not_mem_nil
    intro entry inside
    obtain ⟨a, member, same, -⟩ := sums.entry inside
    rw [← same]
    exact valid_sourceId (sums.valid a member)
  have sorted := sums.ranked.inOrder_eq
  rw [validateState, refuse_ok _ (not_not.mpr (sums.session ▸ named)), ok_bind, entries, ok_bind,
    refuse_ok _ (not_not.mpr sorted.symm), ok_bind,
    refuse_ok _ (not_not.mpr (sums.raw.trans sums.derived.symm)), ok_bind]
  by_cases empty : applied = []
  · subst empty
    have zero : s.rawCount = 0 := sums.raw
    have none : s.sourceEpochs = [] := List.length_eq_zero_iff.mp
      (Nat.le_zero.mp (zero ▸ sums.sources_le))
    rw [if_pos zero, refuse_ok]
    rintro (last | some)
    · exact last sums.last
    · exact some none
  · have count := List.length_pos_of_ne_nil empty
    rw [← sums.raw] at count
    have above := sums.count_le
    have sources := sums.sources_le
    rw [if_neg (by omega), refuse_ok]
    rintro (zero | fewer | none | more)
    · omega
    · omega
    · exact sums.some_source empty none
    · omega

/-- The last sequence number of a summary prints, and so do its counts. -/
theorem printable (sums : Summarizes sessionId applied s) :
    Json.printable (.int s.lastAppliedRawSeq) = true := by
  rw [sums.last]
  cases found : (applied.map PersistedEvent.ingestSeq).getLast? with
  | none => rfl
  | some n =>
      obtain ⟨a, member, rfl⟩ := List.mem_map.mp (List.mem_of_getLast? found)
      exact (sums.prints a member).ingestSeq

/-- A summary is always written. -/
theorem written (sums : Summarizes sessionId applied s)
    (named : validateSessionId sessionId = .ok ()) :
    ∃ content, canonicalStateBytes s = .ok content := by
  have last := sums.printable
  have raw := printable_of_le sums.count_le last
  have derived : Json.printable (.int s.derivedCount) = true := by
    rwa [sums.derived, ← sums.raw]
  have sources : Json.printable (.arr (s.sourceEpochs.map sourceEpochObject)) = true := by
    refine printableItems_of _ fun v inside => ?_
    obtain ⟨entry, held, rfl⟩ := List.mem_map.mp inside
    obtain ⟨a, member, -, same⟩ := sums.entry held
    have epoch : Json.printable (.int entry.2) = true := by
      rw [← same]
      exact (sums.prints a member).number "connection_epoch"
        (by simp [PersistedEvent.metadataProjection])
    refine (printableMembers_iff _).mpr (List.forall_iff_forall_mem.mp ?_)
    exact ⟨rfl, rfl, epoch⟩
  have each : ∀ m ∈ s.projection, Json.printable m.2 = true :=
    List.forall_iff_forall_mem.mp ⟨by decide, rfl, last, raw, derived, sources⟩
  obtain ⟨content, wrote⟩ := writeCanonical_ok each
  exact ⟨content, by rw [canonicalStateBytes, sums.accepted named, ok_bind, wrote]⟩

/-! ## Applying a record -/

/-- An acceptable record keeps the summary. -/
theorem append (sums : Summarizes sessionId applied s) (fits : Acceptable sessionId applied e) :
    Summarizes sessionId (applied ++ [e]) (s.after e) where
  session := sums.session
  raw := by rw [FoundationState.after, List.length_append, sums.raw]; rfl
  derived := by rw [FoundationState.after, List.length_append, sums.derived]; rfl
  last := by rw [FoundationState.after, List.map_append, List.map_singleton, List.getLast?_concat]; rfl
  increasing := by
    rw [List.map_append, List.pairwise_append]
    refine ⟨sums.increasing, List.pairwise_singleton _ _, ?_⟩
    intro n before m here
    obtain ⟨a, member, rfl⟩ := List.mem_map.mp before
    rw [List.mem_singleton.mp here]
    exact fits.later a member
  ranked := Watermarks.ranked_record SourceKey.rank_injective sums.ranked
  epochs key := by
    by_cases own : key = e.sourceKey
    · subst own
      rw [FoundationState.after, Watermarks.get_record_same sums.ranked, Watermarks.highest_concat fits.risen]
    · rw [FoundationState.after, Watermarks.get_record_other sums.ranked own,
        Watermarks.highest_concat_other own, sums.epochs]
  rising := Watermarks.rising_concat.mpr ⟨sums.rising, fits.risen⟩
  valid a inside := by
    rcases List.mem_append.mp inside with before | here
    · exact sums.valid a before
    · exact List.mem_singleton.mp here ▸ fits.valid
  prints a inside := by
    rcases List.mem_append.mp inside with before | here
    · exact sums.prints a before
    · exact List.mem_singleton.mp here ▸ fits.prints

/-- Being after every record applied is being after the last of them. -/
theorem last_lt_iff (sums : Summarizes sessionId applied s) (positive : 1 ≤ e.ingestSeq) :
    s.lastAppliedRawSeq < e.ingestSeq ↔ ∀ a ∈ applied, a.ingestSeq < e.ingestSeq := by
  rw [sums.last]
  have increasing := sums.increasing
  clear sums
  induction applied using List.reverseRecOn with
  | nil =>
      constructor
      · intro _ a inside
        exact absurd inside List.not_mem_nil
      · intro _
        exact positive
  | append_singleton front last ih =>
      rw [List.map_append, List.map_singleton] at increasing
      rw [List.map_append, List.map_singleton, List.getLast?_concat, Option.getD_some]
      constructor
      · intro after a inside
        rcases List.mem_append.mp inside with before | here
        · have less := (List.pairwise_append.mp increasing).2.2 _
            (List.mem_map_of_mem before) last.ingestSeq (by simp)
          omega
        · rwa [List.mem_singleton.mp here]
      · intro after
        exact after last (by simp)

end Summarizes

/-- The codec accepts a valid event that prints and, as a session start, holds a manifest. -/
theorem requireValidEvent_ok : requireValidEvent e = .ok () ↔
    e.validate = .ok () ∧ Prints e ∧ SessionStartPayload e := by
  rw [requireValidEvent, refuse_eq_ok, not_not, Option.bind_eq_some_iff]
  constructor
  · rintro ⟨⟨metadata, payload⟩, encoded, decoded⟩
    obtain ⟨valid, manifest, -⟩ := encodeRecord_decodeRecord decoded
    exact ⟨valid, (encodeRecord_iff valid).mp ⟨_, _, encoded⟩, manifest⟩
  · rintro ⟨valid, prints, manifest⟩
    obtain ⟨metadata, payload, encoded⟩ := (encodeRecord_iff valid).mpr prints
    exact ⟨⟨metadata, payload⟩, encoded, (decodeRecord_of_encoded valid encoded).mpr manifest⟩

theorem rawAccepted_ok (prints : Prints e) : ∃ draft, rawAccepted e = .ok draft := by
  obtain ⟨content, wrote⟩ := writeCanonical_ok (List.forall_iff_forall_mem.mp
    ⟨rfl, rfl, prints.ingestSeq, rfl⟩ : ∀ m ∈ [(text "input_event_type", Value.str e.eventType),
      (text "input_payload_sha256", .str e.payloadSha256),
      (text "parent_ingest_seq", .int e.ingestSeq), (text "source_id", .str e.sourceId)],
      Json.printable m.2 = true)
  have fine : (⟨text "raw_accepted", 1, text "canonical-json-v1", content⟩ :
      DerivedDraft).validate = .ok () := by
    simp only [DerivedDraft.validate]
    decide
  refine ⟨⟨text "raw_accepted", 1, text "canonical-json-v1", content⟩, ?_⟩
  rw [rawAccepted, wrote, ok_bind]
  simp only [fine]

/-- An acceptable record is applied, and the answer is the state after it. -/
theorem Summarizes.reduces (sums : Summarizes sessionId applied s)
    (named : validateSessionId sessionId = .ok ()) (fits : Acceptable sessionId applied e) :
    ∃ output, reduceEvent s e = .ok ⟨s.after e, [output]⟩ := by
  obtain ⟨content, before⟩ := sums.written named
  have grown := sums.append fits
  obtain ⟨content', after⟩ := grown.written named
  have known : requireValidEvent e = .ok () := requireValidEvent_ok.mpr
    ⟨fits.valid, fits.prints, fun control => nomatch fits.raw.symm.trans control⟩
  have session : e.sessionId = s.sessionId := fits.session.trans sums.session.symm
  have later := (sums.last_lt_iff (valid_positive fits.valid)).mpr fits.later
  have risen : checkSome (fun prior => refuse (e.connectionEpoch < prior)
      (ReducerFailure.reducerValidation "source_epoch_regression"))
      (Dict.get s.sourceEpochs e.sourceKey) = .ok () := by
    rw [checkSome_eq_ok, sums.epochs]
    intro prior found
    exact refuse_ok _ (not_lt.mpr (Watermarks.highest_le_iff.mpr fits.risen prior found))
  obtain ⟨output, drafted⟩ := rawAccepted_ok fits.prints
  have built : foundationState (s.after e) = .ok (s.after e) := by
    rw [foundationState, grown.accepted named]
    rfl
  have checked : reductionOf ⟨s.after e, [output]⟩ = .ok ⟨s.after e, [output]⟩ := by
    rw [reductionOf, after]
    rfl
  refine ⟨output, ?_⟩
  rw [reduceEvent, before, ok_bind, known, ok_bind, refuse_ok _ (not_not.mpr fits.raw), ok_bind,
    refuse_ok _ (not_not.mpr session), ok_bind, refuse_ok _ (not_le.mpr later), ok_bind]
  simp only [Dict.ofEntries_eq sums.ranked.nodup]
  rw [risen, ok_bind, drafted, ok_bind]
  change foundationState (s.after e) >>= _ = _
  rw [built, ok_bind, checked]

/-- Only acceptable records are applied. -/
theorem Summarizes.acceptable (sums : Summarizes sessionId applied s) {reduction : Reduction}
    (reduced : reduceEvent s e = .ok reduction) : Acceptable sessionId applied e := by
  simp only [reduceEvent, bind_eq_ok, exists_unit, refuse_eq_ok, checkSome_eq_ok, not_not,
    not_le, not_lt, Dict.ofEntries_eq sums.ranked.nodup] at reduced
  obtain ⟨-, -, known, raw, session, later, risen, -⟩ := reduced
  obtain ⟨valid, prints, -⟩ := requireValidEvent_ok.mp known
  refine ⟨valid, prints, raw, session.trans sums.session,
    (sums.last_lt_iff (valid_positive valid)).mp later, Watermarks.highest_le_iff.mp ?_⟩
  intro n found
  rw [← sums.epochs] at found
  exact risen n found

/-! ## Runs -/

namespace ReducerRun

variable {run : ReducerRun}

/-- An offered record is applied when it is acceptable; else the run is as it was. -/
theorem offer_cases (sums : Summarizes sessionId run.applied run.state)
    (named : validateSessionId sessionId = .ok ()) (e : PersistedEvent) :
    (Acceptable sessionId run.applied e ∧
      run.offer e = ⟨run.state.after e, run.applied ++ [e]⟩) ∨
    (¬Acceptable sessionId run.applied e ∧ run.offer e = run) := by
  by_cases fits : Acceptable sessionId run.applied e
  · obtain ⟨output, reduced⟩ := sums.reduces named fits
    exact Or.inl ⟨fits, by rw [offer, reduced]⟩
  · refine Or.inr ⟨fits, ?_⟩
    cases reduced : reduceEvent run.state e with
    | ok reduction => exact absurd (sums.acceptable reduced) fits
    | error reason => rw [offer, reduced]

/-- Every offer keeps the summary. -/
theorem offer_sums (sums : Summarizes sessionId run.applied run.state)
    (named : validateSessionId sessionId = .ok ()) (e : PersistedEvent) :
    Summarizes sessionId (run.offer e).applied (run.offer e).state := by
  rcases run.offer_cases sums named e with ⟨fits, moved⟩ | ⟨-, stayed⟩
  · rw [moved]
    exact sums.append fits
  · rwa [stayed]

/-- So does every run, and it applies some of what it is offered, in order. -/
theorem offers_sums (sums : Summarizes sessionId run.applied run.state)
    (named : validateSessionId sessionId = .ok ()) (offered : List PersistedEvent) :
    Summarizes sessionId (offered.foldl offer run).applied (offered.foldl offer run).state ∧
      ∃ more, (offered.foldl offer run).applied = run.applied ++ more ∧
        more.Sublist offered := by
  induction offered generalizing run with
  | nil => exact ⟨sums, [], (List.append_nil _).symm, .slnil⟩
  | cons e rest ih =>
      obtain ⟨ends, more, applied, part⟩ := ih (run.offer_sums sums named e)
      refine ⟨ends, ?_⟩
      rw [List.foldl_cons, applied]
      rcases run.offer_cases sums named e with ⟨-, moved⟩ | ⟨-, stayed⟩
      · exact ⟨e :: more, by rw [moved, List.append_assoc]; rfl, part.cons_cons e⟩
      · exact ⟨more, by rw [stayed], part.cons e⟩

/-- No offer lowers the epoch of a source, or moves one but the record's own. -/
theorem offer_epochs (sums : Summarizes sessionId run.applied run.state)
    (named : validateSessionId sessionId = .ok ()) (e : PersistedEvent) :
    (∀ key, key ≠ e.sourceKey → Dict.get (run.offer e).state.sourceEpochs key =
      Dict.get run.state.sourceEpochs key) ∧
    ∀ key epoch, Dict.get run.state.sourceEpochs key = some epoch →
      ∃ now, Dict.get (run.offer e).state.sourceEpochs key = some now ∧ epoch ≤ now := by
  rcases run.offer_cases sums named e with ⟨fits, moved⟩ | ⟨-, stayed⟩
  · rw [moved]
    refine ⟨fun key other => Watermarks.get_record_other sums.ranked other, ?_⟩
    intro key epoch held
    by_cases own : key = e.sourceKey
    · subst own
      rw [sums.epochs] at held
      exact ⟨e.connectionEpoch, Watermarks.get_record_same sums.ranked,
        Watermarks.highest_le_iff.mpr fits.risen epoch held⟩
    · exact ⟨epoch, (Watermarks.get_record_other sums.ranked own).trans held, le_rfl⟩
  · rw [stayed]
    exact ⟨fun _ _ => rfl, fun key epoch held => ⟨epoch, held, le_rfl⟩⟩

end ReducerRun

theorem initialState_ok {start : FoundationState} : initialState sessionId = .ok start ↔
    validateSessionId sessionId = .ok () ∧ start = ⟨sessionId, 0, 0, 0, []⟩ := by
  constructor
  · intro opened
    simp only [initialState, foundationState, bind_eq_ok, exists_unit] at opened
    obtain ⟨checked, answer⟩ := opened
    simp only [validateState, bind_eq_ok, exists_unit, refuse_eq_ok, not_not] at checked
    exact ⟨checked.1, ((pure_eq_ok _ _).mp answer).symm⟩
  · rintro ⟨named, rfl⟩
    rw [initialState, foundationState, Summarizes.initial.accepted named]
    rfl

/-- In every run of the reducer from an initial state, whatever is offered: the state is
always written; it counts the records applied; their sequence numbers increase up to the last
applied one; its sources are sorted without duplicates, each with the highest epoch applied for
it.  A record is applied exactly when it is acceptable, and else the run stays as it is; no
offer lowers an epoch or touches the entry of another source. -/
theorem foundation_reducer {start : FoundationState} (opened : initialState sessionId = .ok start)
    (offered : List PersistedEvent) :
    let run := reducerRun start offered
    (∃ content, canonicalStateBytes run.state = .ok content) ∧
    run.applied.Sublist offered ∧
    run.state.rawCount = run.applied.length ∧ run.state.derivedCount = run.applied.length ∧
    (run.applied.map PersistedEvent.ingestSeq).Pairwise (· < ·) ∧
    run.state.lastAppliedRawSeq = (run.applied.map PersistedEvent.ingestSeq).getLast?.getD 0 ∧
    Ranked SourceKey.rank run.state.sourceEpochs ∧
    (∀ key, Dict.get run.state.sourceEpochs key =
      highest PersistedEvent.sourceKey PersistedEvent.connectionEpoch run.applied key) ∧
    ∀ e : PersistedEvent,
      ((∃ reduction, reduceEvent run.state e = .ok reduction) ↔
        Acceptable sessionId run.applied e) ∧
      (Acceptable sessionId run.applied e →
        (run.offer e).applied = run.applied ++ [e] ∧
          run.state.lastAppliedRawSeq < (run.offer e).state.lastAppliedRawSeq) ∧
      (¬Acceptable sessionId run.applied e → run.offer e = run) ∧
      (∀ key, key ≠ e.sourceKey → Dict.get (run.offer e).state.sourceEpochs key =
        Dict.get run.state.sourceEpochs key) ∧
      ∀ key epoch, Dict.get run.state.sourceEpochs key = some epoch →
        ∃ now, Dict.get (run.offer e).state.sourceEpochs key = some now ∧ epoch ≤ now := by
  obtain ⟨named, rfl⟩ := initialState_ok.mp opened
  intro run
  obtain ⟨sums, more, applied, part⟩ := ReducerRun.offers_sums
    (show Summarizes sessionId (ReducerRun.mk ⟨sessionId, 0, 0, 0, []⟩ []).applied _ from
      Summarizes.initial) named offered
  change Summarizes sessionId run.applied run.state at sums
  change run.applied = [] ++ more at applied
  rw [← List.nil_append more, ← applied] at part
  refine ⟨sums.written named, part, sums.raw, sums.derived, sums.increasing, sums.last,
    sums.ranked, sums.epochs, fun e => ⟨⟨?_, ?_⟩, ?_, ?_, run.offer_epochs sums named e⟩⟩
  · rintro ⟨reduction, reduced⟩
    exact sums.acceptable reduced
  · intro fits
    obtain ⟨output, reduced⟩ := sums.reduces named fits
    exact ⟨_, reduced⟩
  · intro fits
    rcases run.offer_cases sums named e with ⟨-, moved⟩ | ⟨unfit, -⟩
    · rw [moved]
      exact ⟨rfl, (sums.last_lt_iff (valid_positive fits.valid)).mpr fits.later⟩
    · exact absurd fits unfit
  · intro unfit
    rcases run.offer_cases sums named e with ⟨fits, -⟩ | ⟨-, stayed⟩
    · exact absurd fits unfit
    · exact stayed

/-- The reducer of the sample session applies the raw record of the sample capture. -/
theorem foundation_reducer_sample : ∃ start reduction,
    initialState sampleManifest.sessionId = .ok start ∧
      reduceEvent start (sampleCapture.rawRecord 2) = .ok reduction := by
  have named : validateSessionId sampleManifest.sessionId = .ok () := by decide +kernel
  have opened := initialState_ok.mpr ⟨named, rfl⟩
  have valid : (sampleCapture.rawRecord 2).validate = .ok () := by
    have checked := sampleCapture_valid
    simp only [validateCapturedInput, bind_eq_ok, exists_unit] at checked
    obtain ⟨-, -, -, first, -⟩ := checked
    exact rawRecord_valid (recover_eq_ok.mp first) (by decide)
  obtain ⟨-, -, -, -, -, -, -, -, each⟩ := foundation_reducer opened []
  obtain ⟨reduction, reduced⟩ := (each (sampleCapture.rawRecord 2)).1.mpr
    ⟨valid, by decide +kernel, rfl, rfl, fun _ none => absurd none List.not_mem_nil,
      fun _ none => absurd none List.not_mem_nil⟩
  exact ⟨_, reduction, opened, reduced⟩

end Inci.Journal
