/-
# Journal.LiveIngest -- the records of a running session

The state and the trace of a runtime are those of the raw records whose ingest has returned, and the
journal is made of these records, of at most one raw record behind them that was not applied, and of
what was derived from it (`Recorded`).  A call keeps this, however it ends.
-/
import Inci.Journal.LiveSteps
import Inci.Journal.Recorded

namespace Inci.Journal

open Inci.Theory
open Inci.Theory.Json (Text text)
open EventRuntime (Sealed)

set_option autoImplicit false

/-- The derived records of drafts, numbered behind their parent. -/
def derivedRecords (raw : PersistedEvent) (drafts : List DerivedDraft) : List PersistedEvent :=
  drafts.zipIdx.map fun entry => derivedRecord raw entry.1 (raw.ingestSeq + entry.2 + 1)

theorem derivedRecords_snoc (raw : PersistedEvent) (drafts : List DerivedDraft)
    (last : DerivedDraft) : derivedRecords raw (drafts ++ [last]) =
      derivedRecords raw drafts ++ [derivedRecord raw last (raw.ingestSeq + drafts.length + 1)] := by
  simp [derivedRecords, List.zipIdx_append]

/-- Valid derived records are what the replay reconstructs. -/
theorem derivedRecords_reconstructed {raw : PersistedEvent} {drafts : List DerivedDraft}
    (valid : ∀ e ∈ derivedRecords raw drafts, e.validate = .ok ()) :
    collect (fun (entry : DerivedDraft × Nat) =>
      reconstructDerived raw entry.1 (raw.ingestSeq + entry.2 + 1)) drafts.zipIdx =
        .ok (derivedRecords raw drafts) := by
  have each : ∀ entries : List (DerivedDraft × Nat),
      (∀ e ∈ entries.map fun entry => derivedRecord raw entry.1 (raw.ingestSeq + entry.2 + 1),
        e.validate = .ok ()) →
      collect (fun (entry : DerivedDraft × Nat) =>
        reconstructDerived raw entry.1 (raw.ingestSeq + entry.2 + 1)) entries =
          .ok (entries.map fun entry => derivedRecord raw entry.1 (raw.ingestSeq + entry.2 + 1)) := by
    intro entries valid
    induction entries with
    | nil => rfl
    | cons entry rest ih =>
        rw [List.map_cons, List.forall_mem_cons] at valid
        rw [collect, reconstructDerived, valid.1, ih valid.2]
        rfl
  exact each _ valid

section Ingest

variable {m : SessionManifest} {start : PersistedEvent} {st : FoundationState} {tr : Bytes}
  {applied : Prop} {events : List PersistedEvent} {s : Surroundings} {lib : TextLibrary}
  {captured : CapturedInput}

/-! ## Before the raw record -/

theorem authorizeIngest_keeps {P : EventRuntime → Prop} (aging : Aging P) :
    Keeps P (authorizeIngest lib s captured) :=
  Keeps.bind (gate_keeps aging) fun _ => Keeps.bind Keeps.read fun _ => Keeps.except _

theorem authorizePersist_keeps {P : EventRuntime → Prop} (aging : Aging P) :
    Keeps P (authorizePersist lib s captured) := by
  refine Keeps.bind Keeps.read fun rt => Keeps.bind (Keeps.except _) fun _ =>
    Keeps.ite (fun _ => Keeps.answer _) fun _ => Keeps.bind (gate_keeps aging) fun a => ?_
  exact Keeps.ite (fun _ => Keeps.raise _) fun _ => Keeps.answer _

/-- The coordinator and the gate let an input in only where every raw record is applied. -/
theorem authorizeCapture_spec :
    Triple (fun rt => Going m start st tr events rt ∧ (applied ∨ Left s rt))
      (authorizeCapture lib s captured) (fun _ rt => Going m start st tr events rt ∧ applied)
      (Guarded s m start st tr applied events) := by
  have aging : Aging fun rt => Going m start st tr events rt ∧ applied :=
    going_aging.and (Aging.const applied)
  have guarded : ∀ rt, Going m start st tr events rt ∧ applied →
      Guarded s m start st tr applied events rt := fun _ holds => ⟨Or.inl holds.1, Or.inl holds.2⟩
  refine Triple.bind (S := fun _ rt => Going m start st tr events rt ∧ applied)
    (reraising_spec (S := Guarded s m start st tr applied events) ?_
      (onCapture_keeps guarded_between)) fun deleteBy =>
        Triple.ite (fun _ => ?_) fun _ _ holds => holds
  · refine Triple.bind ((requireCoordinator_spec _).weaken (fun _ holds => holds)
      (fun _ _ holds => holds) guarded_between.blocked) fun _ => ?_
    exact (authorizeIngest_keeps aging).before guarded fun _ =>
      (authorizePersist_keeps aging).weaken (fun _ holds => holds) (fun _ _ holds => holds) guarded
  · exact Triple.bind ((guarded_between.keeps halting_spec).weaken guarded
      (fun _ _ holds => holds) fun _ holds => holds) fun _ => Triple.raise _

/-! ## Appending -/

theorem Going.wrote {rt : EventRuntime} {w' : JournalWriter} {event : PersistedEvent}
    (going : Going m start st tr events rt) (wrote : w' = rt.writer.wrote event)
    (step : InStep w' (start :: events ++ [event])) :
    Going m start st tr (events ++ [event]) { rt with writer := w' } := by
  subst wrote
  exact ⟨going.session, going.state, going.trace, step, going.unwritten, going.unclean⟩

theorem Going.nextSeq {rt : EventRuntime} (going : Going m start st tr events rt) :
    rt.writer.nextSeq = events.length + 2 := by
  have counted := (start_counted.advanceAll (going.step.read validateTerminal)).records
  rw [going.step.numbered, show rt.writer.recordCount = _ from counted]
  simp

/-- An ordinary record of the session, a part of which is in the file. -/
theorem attempted_record {w w' : JournalWriter} {event : PersistedEvent} {kept : Nat}
    (encoded : Encoded event) (sequence : event.ingestSeq = w.nextSeq)
    (session : event.sessionId = w.sessionManifest.sessionId)
    (ordinary : event.recordKind ≠ .control)
    (parent : event.recordKind = .derived → event.parentIngestSeq = some w.latestRawSeq)
    (part : WriteCapability.Torn w.sessionManifest w.capability w'.capability (frameOf event) kept) :
    Attempted st tr applied w kept event := by
  refine Or.inl ⟨ordinary, part.judged.imp_right fun known => ?_⟩
  obtain ⟨role, judged⟩ := known
  rw [frameRole_frameOf _ encoded] at judged
  exact ⟨encoded, sequence, session, ordinary, (eventRole_ok judged ordinary).2.1, parent⟩

theorem appendRawRecord_spec :
    Triple (Going m start st tr events) (appendRawRecord lib s captured)
      (fun raw rt => Going m start st tr (events ++ [raw]) rt ∧ raw.recordKind = .raw ∧
        raw.ingestSeq = events.length + 2)
      (Safe m start st tr applied events) := by
  refine reraising_spec (S := Safe m start st tr applied events) ?_
    (onAppend_keeps (s := s) safe_between)
  refine Triple.bind (requireCoordinator_keeps.weaken (fun _ holds => holds)
    (fun _ _ holds => holds) fun _ blocked => blocked.1) fun _ => writing_spec going_aging ?_ ?_
  · intro rt c closing e w' going accepted
    obtain ⟨shape, wrote, -, step⟩ := going.step.appendRaw accepted
    refine ⟨going.wrote wrote step, shape ▸ rfl, ?_⟩
    rw [shape]
    exact going.nextSeq
  · intro rt c closing e w' going failed
    rcases JournalWriter.append_error going.step.prefixed failed with
      same | ⟨event, frame, kept, built, poisoned, session, part⟩
    · rw [same]
      exact Or.inl going
    · obtain ⟨rfl, framed, own⟩ := rawCandidate_ok built
      obtain ⟨encoded, rfl⟩ := encoded_of_ok framed
      exact going.failed encoded (attempted_record encoded rfl own RecordKind.noConfusion
        (fun derived => by cases derived) part) session poisoned part

/-! ## Reducing -/

theorem authorizeRaw_keeps {P : EventRuntime → Prop} (aging : Aging P) {raw : PersistedEvent}
    {refusal : String} : Keeps P (authorizeRaw s raw refusal) :=
  Keeps.bind Keeps.read fun _ => Keeps.ite (fun _ => Keeps.raise _) fun _ =>
    Keeps.bind (gate_keeps aging) fun _ => Keeps.answer ()

theorem under_spec {α : Type} {reason : String} {call : Runtime α} {P R : EventRuntime → Prop}
    {Q : α → EventRuntime → Prop} (called : Triple P call Q R) : Triple P (under reason call) Q R :=
  Triple.handle called fun _ => Triple.raise _

/-- One draft: its record is appended, or the journal is safe without it. -/
theorem appendDerived_spec {raw : PersistedEvent} {draft : DerivedDraft} :
    Triple (Going m start st tr events) (writing s fun w c _ => w.appendDerived raw draft c)
      (fun stored rt => Going m start st tr (events ++ [stored]) rt ∧
        stored = derivedRecord raw draft (events.length + 2))
      (Safe m start st tr applied events) := by
  refine writing_spec going_aging ?_ ?_
  · intro rt c closing e w' going accepted
    obtain ⟨shape, wrote, -, step⟩ := going.step.appendDerived accepted
    exact ⟨going.wrote wrote step, going.nextSeq ▸ shape⟩
  · intro rt c closing e w' going failed
    rcases JournalWriter.append_error going.step.prefixed failed with
      same | ⟨event, frame, kept, built, poisoned, session, part⟩
    · rw [same]
      exact Or.inl going
    · obtain ⟨rfl, framed, own, latest⟩ := derivedCandidate_ok built
      obtain ⟨encoded, rfl⟩ := encoded_of_ok framed
      exact going.failed encoded (attempted_record encoded rfl own RecordKind.noConfusion (fun _ => by
        rw [JournalWriter.latestRawSeq, latest]
        rfl) part) session poisoned part

/-- The drafts one behind the other; a failure leaves the records of the first of them. -/
theorem storeOutputs_spec {raw : PersistedEvent} {records : List PersistedEvent}
    (place : raw.ingestSeq = records.length + 2) {rest : List DerivedDraft} :
    ∀ {done : List DerivedDraft},
      Triple (Going m start st tr (records ++ raw :: derivedRecords raw done)) (storeOutputs s raw rest)
        (fun stored rt => Going m start st tr (records ++ raw :: derivedRecords raw (done ++ rest)) rt ∧
          derivedRecords raw done ++ stored = derivedRecords raw (done ++ rest))
        (fun rt => ∃ more, more <+: rest ∧
          Safe m start st tr applied (records ++ raw :: derivedRecords raw (done ++ more)) rt) := by
  induction rest with
  | nil =>
      intro done rt going
      simp only [List.append_nil]
      exact ⟨going, List.append_nil _⟩
  | cons draft rest ih =>
      intro done
      have next : ∀ stored, stored = derivedRecord raw draft
            ((records ++ raw :: derivedRecords raw done).length + 2) →
          records ++ raw :: derivedRecords raw done ++ [stored] =
            records ++ raw :: derivedRecords raw (done ++ [draft]) ∧
          derivedRecords raw done ++ [stored] = derivedRecords raw (done ++ [draft]) := by
        rintro _ rfl
        have seq : (records ++ raw :: derivedRecords raw done).length + 2 =
            raw.ingestSeq + done.length + 1 := by
          rw [place, List.length_append, List.length_cons, derivedRecords, List.length_map,
            List.length_zipIdx]
          omega
        rw [derivedRecords_snoc, seq]
        simp
      have stop : ∀ rt, Safe m start st tr applied (records ++ raw :: derivedRecords raw done) rt →
          ∃ more, more <+: draft :: rest ∧
            Safe m start st tr applied (records ++ raw :: derivedRecords raw (done ++ more)) rt :=
        fun rt safe => ⟨[], List.nil_prefix, by rwa [List.append_nil]⟩
      have aging : Aging (Going m start st tr (records ++ raw :: derivedRecords raw done)) :=
        going_aging
      refine Triple.bind (under_spec (Triple.bind (requireCoordinator_keeps.weaken
        (fun _ holds => holds) (fun _ _ holds => holds) fun rt blocked => stop rt blocked.1) fun _ =>
          (authorizeRaw_keeps aging).before (fun rt going => stop rt (Or.inl going)) fun _ =>
            appendDerived_spec.weaken (fun _ holds => holds) (fun _ _ holds => holds) stop))
        fun stored => ?_
      intro rt appended
      obtain ⟨going, shape⟩ := appended
      obtain ⟨grown, listed⟩ := next stored shape
      rw [grown] at going
      have others := @ih (done ++ [draft])
      rw [List.append_assoc, List.singleton_append] at others
      refine Triple.bind (others.weaken (fun _ holds => holds) (fun _ _ holds => holds) ?_)
        (fun more => ?_) rt going
      · rintro rt ⟨more, within, safe⟩
        rw [List.append_assoc, List.singleton_append] at safe
        exact ⟨draft :: more, List.cons_prefix_cons.mpr ⟨rfl, within⟩, safe⟩
      · rintro rt ⟨going, same⟩
        rw [← listed, List.append_assoc, List.singleton_append] at same
        exact ⟨going, same⟩

theorem lifted_spec {α : Type} {P : EventRuntime → Prop} (attempt : Except ReducerFailure α) :
    Triple P (ofExcept (attempt.mapError Raised.reducer) : Runtime α)
      (fun a rt => P rt ∧ attempt = .ok a) P := by
  intro rt holds
  cases attempt with
  | ok a => exact ⟨holds, rfl⟩
  | error e => exact holds

/-- Drafts that a raw record leads to, up to a failure. -/
def Derives (st : FoundationState) (raw : PersistedEvent) (drafts : List DerivedDraft) : Prop :=
  drafts = [] ∨ ∃ reduction, reduceEvent st raw = .ok reduction ∧ drafts <+: reduction.outputs

theorem Encoded.validate {e : PersistedEvent} (encoded : Encoded e) : e.validate = .ok () := by
  obtain ⟨prefixBytes, metadata, trailer, framed, -⟩ := encoded.framed
  exact (encodeRecord_decodeRecord framed.decoded).1

/-- Behind a durable raw record: all its derived records are appended and the state and the trace
are the reduction's, or the journal is safe with the first of them. -/
theorem reduceDurable_spec {raw : PersistedEvent} {records : List PersistedEvent}
    (place : raw.ingestSeq = records.length + 2) :
    Triple (Going m start st tr (records ++ [raw])) (reduceDurable s raw)
      (fun reduced rt => ∃ derived, Going m start st tr (records ++ raw :: derived) rt ∧
        reduceRaw st tr raw = .ok ⟨reduced.1, reduced.2, derived⟩)
      (fun rt => ∃ drafts, Derives st raw drafts ∧
        Safe m start st tr applied (records ++ raw :: derivedRecords raw drafts) rt) := by
  have aging : ∀ {events}, Aging (Going m start st tr events) := going_aging
  have none : ∀ rt, Safe m start st tr applied (records ++ [raw]) rt → ∃ drafts,
      Derives st raw drafts ∧
        Safe m start st tr applied (records ++ raw :: derivedRecords raw drafts) rt :=
    fun rt safe => ⟨[], Or.inl rfl, safe⟩
  refine Triple.get_bind fun rt going => ?_
  rw [going.state, going.trace]
  refine Triple.starting ?_ going
  refine Triple.bind (under_spec (Triple.bind (requireCoordinator_keeps.weaken (fun _ holds => holds)
    (fun _ _ holds => holds) fun rt blocked => none rt blocked.1) fun _ =>
      (authorizeRaw_keeps aging).before (fun rt going => none rt (Or.inl going)) fun _ =>
        (lifted_spec _).weaken (fun _ holds => holds) (fun _ _ holds => holds)
          fun rt going => none rt (Or.inl going))) fun reduction => Triple.given fun reduced => ?_
  have some : ∀ more, more <+: reduction.outputs → Derives st raw more :=
    fun more within => Or.inr ⟨reduction, reduced, within⟩
  have stores := @storeOutputs_spec m start st tr applied s raw records place reduction.outputs []
  simp only [List.nil_append] at stores
  refine Triple.bind (stores.weaken (fun _ holds => holds) (fun _ _ holds => holds) ?_)
    fun stored => Triple.given fun same => ?_
  · rintro rt ⟨more, within, safe⟩
    exact ⟨more, some more within, safe⟩
  · have last : ∀ rt, Safe m start st tr applied
        (records ++ raw :: derivedRecords raw reduction.outputs) rt → ∃ drafts,
          Derives st raw drafts ∧
            Safe m start st tr applied (records ++ raw :: derivedRecords raw drafts) rt :=
      fun rt safe => ⟨reduction.outputs, some _ List.prefix_rfl, safe⟩
    refine Triple.bind (S := fun _ =>
      Going m start st tr (records ++ raw :: derivedRecords raw reduction.outputs)) (under_spec
        (Triple.bind (requireCoordinator_keeps.weaken (fun _ holds => holds) (fun _ _ holds => holds)
          fun rt blocked => last rt blocked.1) fun _ =>
        (gate_keeps aging).before (fun rt going => last rt (Or.inl going)) fun a =>
          Triple.ite (fun _ rt going => last rt (Or.inl going)) fun _ _ going => going)) fun _ => ?_
    refine Triple.bind (under_spec ((lifted_spec _).weaken (fun _ holds => holds)
      (fun _ _ holds => holds) fun rt going => last rt (Or.inl going))) fun trace =>
        Triple.given fun traced => ?_
    intro rt going
    refine ⟨derivedRecords raw reduction.outputs, going, ?_⟩
    have valid : ∀ e ∈ derivedRecords raw reduction.outputs, e.validate = .ok () := fun e inside =>
      (going.step.encoded e (by simp [inside])).validate
    obtain rfl : stored = derivedRecords raw reduction.outputs := same
    rw [reduceRaw, reduced, ok_bind, derivedRecords_reconstructed valid, ok_bind, traced, ok_bind]
    rfl

end Ingest

end Inci.Journal
