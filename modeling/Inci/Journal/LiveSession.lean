/-
# Journal.LiveSession -- the journal of a running session

`Recorded` holds of a session's runtime after every run of calls: its state and its trace are those of
the raw records whose ingest has returned, its journal is the start, these records with what they lead
to, and at most one raw record behind them that was not applied.  Where there is one, nothing more is
appended.
-/
import Inci.Journal.LiveIngest

namespace Inci.Journal

open Inci.Theory
open Inci.Theory.Json (Text text)
open EventRuntime (Sealed)

set_option autoImplicit false

/-- What a journal holds behind the records of the ingested inputs. -/
inductive Behind (st : FoundationState) (records : List PersistedEvent) : List PersistedEvent → Prop
  | nothing : Behind st records []
  | unapplied (raw : PersistedEvent) (drafts : List DerivedDraft) (kind : raw.recordKind = .raw)
      (place : raw.ingestSeq = records.length + 2) (derives : Derives st raw drafts) :
      Behind st records (raw :: derivedRecords raw drafts)

/-- The runtime of a session that started with `st₀` and `tr₀` and has ingested these records. -/
def Recorded (s : Surroundings) (m : SessionManifest) (start : PersistedEvent)
    (st₀ : FoundationState) (tr₀ : Bytes) (ingested : List PersistedEvent) (rt : EventRuntime) :
    Prop :=
  ∃ records extra st tr, recordAll st₀ tr₀ ingested = .ok (records, st, tr) ∧
    Behind st records extra ∧ Guarded s m start st tr (extra = []) (records ++ extra) rt

/-- A run of the session so far, with the state and the trace it has. -/
structure Applied (st₀ : FoundationState) (tr₀ : Bytes) (ingested records extra : List PersistedEvent)
    (st : FoundationState) (tr : Bytes) : Prop where
  recorded : recordAll st₀ tr₀ ingested = .ok (records, st, tr)
  behind : Behind st records extra

section Calls

variable {s : Surroundings} {lib : TextLibrary} {m : SessionManifest} {start : PersistedEvent}
  {st₀ st : FoundationState} {tr₀ tr : Bytes} {ingested records extra events : List PersistedEvent}
  {applied : Prop}

theorem Applied.guarded {rt : EventRuntime} (run : Applied st₀ tr₀ ingested records extra st tr)
    (guarded : Guarded s m start st tr (extra = []) (records ++ extra) rt) :
    Recorded s m start st₀ tr₀ ingested rt :=
  ⟨records, extra, st, tr, run.recorded, run.behind, guarded⟩

theorem going_guarded {rt : EventRuntime}
    (holds : Going m start st tr events rt ∧ (applied ∨ Left s rt)) :
    Guarded s m start st tr applied events rt := ⟨Or.inl holds.1, holds.2.imp_right Or.inr⟩

/-- What keeps the runtime guarded keeps the session. -/
theorem Applied.keeps {α : Type} {call : Runtime α}
    (run : Applied st₀ tr₀ ingested records extra st tr)
    (kept : Keeps (Guarded s m start st tr (extra = []) (records ++ extra)) call) :
    Triple (fun rt => Going m start st tr (records ++ extra) rt ∧ (extra = [] ∨ Left s rt)) call
      (fun _ => Recorded s m start st₀ tr₀ ingested) (Recorded s m start st₀ tr₀ ingested) :=
  kept.weaken (fun _ => going_guarded) (fun _ _ => run.guarded) fun _ => run.guarded

/-- A healthy runtime's journal goes on; a call on another one raises and changes nothing. -/
theorem healthy_then {α : Type} {next : Runtime α} {Q : α → EventRuntime → Prop}
    (rest : ∀ records extra st tr, Applied st₀ tr₀ ingested records extra st tr →
      Triple (fun rt => Going m start st tr (records ++ extra) rt ∧ (extra = [] ∨ Left s rt)) next Q
        (Recorded s m start st₀ tr₀ ingested)) :
    Triple (Recorded s m start st₀ tr₀ ingested) (requireOwnerAndHealthy >>= fun _ => next) Q
      (Recorded s m start st₀ tr₀ ingested) := by
  rintro rt ⟨records, extra, st, tr, recorded, behind, guarded⟩
  have healthy : Triple (fun r => r = rt) requireOwnerAndHealthy (fun _ r => r = rt ∧ ¬rt.Sealed)
      (Recorded s m start st₀ tr₀ ingested) := by
    refine Triple.read_bind (Triple.ite (fun _ => ?_) fun open_ => ?_)
    · rintro _ rfl
      exact ⟨records, extra, st, tr, recorded, behind, guarded⟩
    · rintro _ rfl
      exact ⟨rfl, open_⟩
  refine Triple.bind healthy (fun _ => Triple.given fun open_ => ?_) rt rfl
  exact (rest records extra st tr ⟨recorded, behind⟩).starting ⟨guarded.1.going open_,
    guarded.2.imp_right fun barred => barred.resolve_left open_⟩

/-! ## Closing -/

/-- The coordinator and the gate answer only where every raw record is applied. -/
theorem denying_spec {α : Type} {answer : Moment → Runtime α}
    (answers : ∀ a, Keeps (fun rt => Going m start st tr events rt ∧ applied) (answer a)) :
    Triple (fun rt => Going m start st tr events rt ∧ (applied ∨ Left s rt))
      (reraising (do
        requireCoordinator s
        let a ← gate s
        answer a) (onDenial s)) (fun _ rt => Going m start st tr events rt ∧ applied)
      (Guarded s m start st tr applied events) := by
  have aging : Aging fun rt => Going m start st tr events rt ∧ applied :=
    going_aging.and (Aging.const applied)
  have guarded : ∀ rt, Going m start st tr events rt ∧ applied →
      Guarded s m start st tr applied events rt := fun _ holds => ⟨Or.inl holds.1, Or.inl holds.2⟩
  refine reraising_spec (S := Guarded s m start st tr applied events) ?_
    (onDenial_keeps guarded_between)
  refine Triple.bind ((requireCoordinator_spec _).weaken (fun _ holds => holds) (fun _ _ holds => holds)
    guarded_between.blocked) fun _ => (gate_keeps aging).before guarded fun a => ?_
  exact (answers a).weaken (fun _ holds => holds) (fun _ _ holds => holds) guarded

theorem checkSessionEnd_spec :
    Triple (fun rt => Going m start st tr events rt ∧ (applied ∨ Left s rt)) (checkSessionEnd s)
      (fun _ rt => Going m start st tr events rt ∧ applied)
      (Guarded s m start st tr applied events) :=
  denying_spec fun a => Keeps.answer a.ended

theorem Safe.guarded {rt : EventRuntime} (safe : Safe m start st tr applied events rt)
    (all : applied) : Guarded s m start st tr applied events rt := ⟨safe, Or.inl all⟩

theorem markCleanTerminal_keeps {terminal : PersistedEvent} :
    Keeps (Safe m start st tr applied events) (markCleanTerminal s terminal) := by
  refine Keeps.bind (ask_keeps safe_aging) fun a => ?_
  cases a.bookkeeping with
  | none => exact Keeps.answer terminal
  | some e =>
      rintro rt (going | ⟨stopped, -⟩)
      · exact Or.inl ⟨going.session, going.state, going.trace, going.step, going.unwritten,
          going.unclean⟩
      · exact Or.inr ⟨⟨stopped.session, stopped.state, stopped.trace, stopped.ending⟩, Or.inl rfl⟩

/-- A clean close is written only where every raw record is applied. -/
theorem closeCleanInternal_spec {reason : Text} :
    Triple (fun rt => Going m start st tr events rt ∧ (applied ∨ Left s rt))
      (closeCleanInternal s reason) (fun _ => Guarded s m start st tr applied events)
      (Guarded s m start st tr applied events) := by
  refine Triple.bind (denying_spec fun a => Keeps.answer ()) fun _ => Triple.given fun all => ?_
  refine Triple.weaken (P := Going m start st tr events)
    (Q := fun _ => Safe m start st tr applied events) (R := Safe m start st tr applied events) ?_
    (fun _ holds => holds) (fun _ _ safe => safe.guarded all) fun _ safe => safe.guarded all
  refine Triple.bind (S := fun _ => Stopped m start st tr applied events)
    (reraising_spec (closeWriter_spec fun _ => all) fun e => ?_) fun terminal => ?_
  · exact onTerminal_keeps e
  · refine Triple.bind (S := fun _ => Safe m start st tr applied events) ?_
      fun _ => markCleanTerminal_keeps
    intro rt stopped
    exact stopped.shut.1

theorem haltDurably_spec {reason : Text} :
    Triple (Safe m start st tr applied events) (haltDurably s reason)
      (fun _ => Guarded s m start st tr applied events) (Guarded s m start st tr applied events) := by
  refine Triple.bind (attemptHalt_spec.weaken (fun _ safe => safe)
    (fun _ rt blocked => guarded_between.blocked rt blocked) guarded_between.blocked) fun terminal => ?_
  cases terminal with
  | none => exact Triple.raise _
  | some terminal => exact fun _ holds => holds

/-! ## Ingesting -/

theorem Terminates.mono {w : JournalWriter} {clean : Bool} {reason : Text} {event : PersistedEvent}
    {less more : Prop} (implies : less → more) (ends : Terminates st tr less w clean reason event) :
    Terminates st tr more w clean reason event := ⟨fun ended => implies (ends.1 ended), ends.2⟩

theorem Ending.mono {w : JournalWriter} {less more : Prop} (implies : less → more)
    (ending : Ending m start st tr less events w) : Ending m start st tr more events w := by
  cases ending with
  | begun w₀ event kept session step encoded offered file unwritten unclean =>
      exact .begun w₀ event kept session step encoded (offered.imp_right fun ends => by
        obtain ⟨clean, reason, ends⟩ := ends
        exact ⟨clean, reason, ends.mono implies⟩) file unwritten unclean
  | ended w₀ event clean reason session step offered durable written cleanly =>
      exact .ended w₀ event clean reason session step (offered.mono implies) durable written cleanly

theorem Blocked.guarded {rt : EventRuntime} {less more : Prop} (implies : less → more)
    (blocked : Blocked s m start st tr less events rt) : Guarded s m start st tr more events rt := by
  obtain ⟨safe, barred⟩ := blocked
  refine ⟨safe.imp_right fun ended => ⟨?_, ended.2⟩, Or.inr barred⟩
  exact ⟨ended.1.session, ended.1.state, ended.1.trace, ended.1.ending.mono implies⟩

/-- The reduction moves the runtime on, or its failure blocks it behind the raw record. -/
theorem reducing_spec {raw : PersistedEvent}
    (recorded : recordAll st₀ tr₀ ingested = .ok (records, st, tr)) (kind : raw.recordKind = .raw)
    (place : raw.ingestSeq = records.length + 2) :
    Triple (Going m start st tr (records ++ [raw])) (reducing s raw)
      (fun reduced rt => ∃ derived, Going m start st tr (records ++ raw :: derived) rt ∧
        reduceRaw st tr raw = .ok ⟨reduced.1, reduced.2, derived⟩)
      (Recorded s m start st₀ tr₀ ingested) := by
  refine Triple.handle (@reduceDurable_spec m start st tr False s raw records place) fun failure =>
    Triple.bind (S := fun _ => Recorded s m start st₀ tr₀ ingested)
      (Triple.some fun drafts => ?_) fun _ => Triple.raise _
  rintro rt ⟨derives, safe⟩
  have blocked : ∀ rt, Blocked s m start st tr False (records ++ raw :: derivedRecords raw drafts) rt →
      Recorded s m start st₀ tr₀ ingested rt := fun rt blocked =>
    ⟨records, _, st, tr, recorded, .unapplied raw drafts kind place derives,
      blocked.guarded fun never => never.elim⟩
  exact ((onReduce_spec failure.1 failure.2).weaken (fun _ holds => holds) (fun _ => blocked) blocked)
    rt safe

/-- A raw record that an ingest returns is the next of the session's. -/
theorem ingest_spec {captured : Option CapturedInput} :
    Triple (Recorded s m start st₀ tr₀ ingested) (ingest lib s captured)
      (fun raw => Recorded s m start st₀ tr₀ (ingested ++ [raw]))
      (Recorded s m start st₀ tr₀ ingested) := by
  refine healthy_then fun records extra st tr run => ?_
  cases captured with
  | none =>
      exact Triple.bind (run.keeps (guarded_between.keeps halting_spec)) fun _ => Triple.raise _
  | some captured =>
      refine Triple.bind (authorizeCapture_spec.weaken (fun _ holds => holds) (fun _ _ holds => holds)
        fun _ => run.guarded) fun _ => Triple.given fun all => ?_
      subst all
      have appended := @appendRawRecord_spec m start st tr ([] = ([] : List PersistedEvent)) records s
        lib captured
      simp only [List.append_nil]
      refine Triple.bind (appended.weaken (fun _ holds => holds) (fun _ _ holds => holds)
        fun rt safe => run.guarded (by rw [List.append_nil]; exact safe.guarded rfl)) fun raw => ?_
      rintro rt ⟨going, kind, place⟩
      refine Triple.bind (reducing_spec run.recorded kind place) (fun reduced => ?_) rt going
      refine Triple.some fun derived => ?_
      rintro rt ⟨going, done⟩
      have next : recordAll st tr [raw] = .ok (raw :: derived, reduced.1, reduced.2) := by
        rw [recordAll, done, ok_bind, recordAll, ok_bind]
        simp only [List.append_nil]
        rfl
      refine ⟨records ++ raw :: derived, [], reduced.1, reduced.2,
        recordAll_append run.recorded next, .nothing, ?_⟩
      rw [List.append_nil]
      exact ⟨Or.inl ⟨going.session, rfl, rfl, going.step, going.unwritten, going.unclean⟩, Or.inl rfl⟩

/-! ## Calls -/

theorem Applied.closeClean {reason : Text} (run : Applied st₀ tr₀ ingested records extra st tr) :
    Triple (fun rt => Going m start st tr (records ++ extra) rt ∧ (extra = [] ∨ Left s rt))
      (closeCleanInternal s reason) (fun _ => Recorded s m start st₀ tr₀ ingested)
      (Recorded s m start st₀ tr₀ ingested) :=
  closeCleanInternal_spec.weaken (fun _ holds => holds) (fun _ _ => run.guarded) fun _ => run.guarded

/-- What follows the question whether the session has ended. -/
theorem Applied.sessionEnd {α : Type} {next : Bool → Runtime α}
    (run : Applied st₀ tr₀ ingested records extra st tr)
    (rest : ∀ ended, Triple
      (fun rt => Going m start st tr (records ++ extra) rt ∧ (extra = [] ∨ Left s rt)) (next ended)
      (fun _ => Recorded s m start st₀ tr₀ ingested) (Recorded s m start st₀ tr₀ ingested)) :
    Triple (fun rt => Going m start st tr (records ++ extra) rt ∧ (extra = [] ∨ Left s rt))
      (checkSessionEnd s >>= next) (fun _ => Recorded s m start st₀ tr₀ ingested)
      (Recorded s m start st₀ tr₀ ingested) :=
  Triple.bind (checkSessionEnd_spec.weaken (fun _ holds => holds)
    (fun _ _ holds => ⟨holds.1, Or.inl holds.2⟩) fun _ => run.guarded) rest

theorem Applied.stays {α : Type} (answer : α) (run : Applied st₀ tr₀ ingested records extra st tr) :
    Triple (ε := Raised)
      (fun rt => Going m start st tr (records ++ extra) rt ∧ (extra = [] ∨ Left s rt)) (pure answer)
      (fun _ => Recorded s m start st₀ tr₀ ingested) (Recorded s m start st₀ tr₀ ingested) :=
  fun _ holds => run.guarded (going_guarded holds)

/-- A call other than an ingest keeps what the session has recorded. -/
theorem pollEntitlement_keeps : Keeps (Recorded s m start st₀ tr₀ ingested) (pollEntitlement s) :=
  healthy_then fun _ _ _ _ run => run.sessionEnd fun _ => Triple.ite
    (fun _ => Triple.bind run.closeClean fun terminal => Keeps.answer (some terminal))
    fun _ => run.stays none

theorem checkIngressSessionEnd_keeps :
    Keeps (Recorded s m start st₀ tr₀ ingested) (checkIngressSessionEnd s) := by
  refine healthy_then fun records extra st tr run => ?_
  exact checkSessionEnd_spec.weaken (fun _ holds => holds)
    (fun _ _ holds => run.guarded (going_guarded ⟨holds.1, Or.inl holds.2⟩)) fun _ => run.guarded

theorem closeIngressSessionEnd_keeps :
    Keeps (Recorded s m start st₀ tr₀ ingested) (closeIngressSessionEnd s) := by
  refine healthy_then fun records extra st tr run => run.sessionEnd fun ended =>
    Triple.ite (fun _ => ?_) fun _ => run.closeClean
  exact Triple.bind (run.keeps (guarded_between.keeps poison_spec)) fun _ => Triple.raise _

theorem closeClean_keeps {reason : Text} :
    Keeps (Recorded s m start st₀ tr₀ ingested) (closeClean s reason) :=
  healthy_then fun _ _ _ _ run => Triple.ite
    (fun _ _ holds => run.guarded (going_guarded holds)) fun _ => run.closeClean

theorem Applied.halt {reason : Text} (run : Applied st₀ tr₀ ingested records extra st tr) :
    Triple (fun rt => Going m start st tr (records ++ extra) rt ∧ (extra = [] ∨ Left s rt))
      (haltDurably s reason) (fun _ => Recorded s m start st₀ tr₀ ingested)
      (Recorded s m start st₀ tr₀ ingested) :=
  run.keeps (haltDurably_spec.weaken (fun _ guarded => guarded.1) (fun _ _ holds => holds)
    fun _ holds => holds)

theorem closeHalted_keeps {reason : Text} :
    Keeps (Recorded s m start st₀ tr₀ ingested) (closeHalted s reason) :=
  healthy_then fun _ _ _ _ run => Triple.ite
    (fun _ _ holds => run.guarded (going_guarded holds)) fun _ => run.halt

theorem closeIngressBackpressure_keeps :
    Keeps (Recorded s m start st₀ tr₀ ingested) (closeIngressBackpressure s) :=
  healthy_then fun _ _ _ _ run => run.halt

theorem closeIngressOwnerUnresponsive_keeps :
    Keeps (Recorded s m start st₀ tr₀ ingested) (closeIngressOwnerUnresponsive s) :=
  healthy_then fun _ _ _ _ run => run.halt

/-- One call: the raw record it returns is the session's next, and nothing else is. -/
theorem performCall_spec (call : Call) :
    Triple (Recorded s m start st₀ tr₀ ingested) (performCall lib s call)
      (fun raws => Recorded s m start st₀ tr₀ (ingested ++ raws))
      (Recorded s m start st₀ tr₀ ingested) := by
  have silent : ∀ {α : Type} {other : Runtime α}, Keeps (Recorded s m start st₀ tr₀ ingested) other →
      Triple (Recorded s m start st₀ tr₀ ingested) (other >>= fun _ => pure [])
        (fun raws => Recorded s m start st₀ tr₀ (ingested ++ raws))
        (Recorded s m start st₀ tr₀ ingested) := by
    intro α other kept
    refine Triple.bind kept fun _ rt holds => ?_
    show Recorded s m start st₀ tr₀ (ingested ++ []) rt
    rwa [List.append_nil]
  cases call with
  | ingest captured => exact Triple.bind ingest_spec fun raw => fun _ holds => holds
  | pollEntitlement => exact silent pollEntitlement_keeps
  | checkIngressSessionEnd => exact silent checkIngressSessionEnd_keeps
  | closeIngressSessionEnd => exact silent closeIngressSessionEnd_keeps
  | closeClean reason => exact silent closeClean_keeps
  | closeHalted reason => exact silent closeHalted_keeps
  | closeIngressBackpressure => exact silent closeIngressBackpressure_keeps
  | closeIngressOwnerUnresponsive => exact silent closeIngressOwnerUnresponsive_keeps

/-! ## Runs -/

theorem LiveRun.offer_recorded {run : LiveRun} (call : Call)
    (holds : Recorded s m start st₀ tr₀ run.ingested run.runtime) :
    Recorded s m start st₀ tr₀ (run.offer lib s call).ingested (run.offer lib s call).runtime := by
  have performed := (performCall_spec call : Triple _ (performCall lib s call) _ _) run.runtime holds
  revert performed
  unfold LiveRun.offer
  cases Effect.runFrom (performCall lib s call) run.runtime with
  | mk result rt =>
      cases result with
      | ok raws => exact fun reached => reached
      | error e => exact fun reached => reached

theorem LiveRun.offers_recorded {calls : List Call} {run : LiveRun}
    (holds : Recorded s m start st₀ tr₀ run.ingested run.runtime) :
    Recorded s m start st₀ tr₀ (calls.foldl (LiveRun.offer lib s) run).ingested
      (calls.foldl (LiveRun.offer lib s) run).runtime := by
  induction calls generalizing run with
  | nil => exact holds
  | cons call rest ih => exact ih (LiveRun.offer_recorded call holds)

theorem claimRuntime_keeps :
    Keeps (Going m start st tr events) (claimRuntime s) := by
  refine Keeps.bind (ask_keeps going_aging) fun a => ?_
  cases a.bookkeeping with
  | none => exact Keeps.answer ()
  | some e =>
      intro rt going
      exact ⟨going.session, going.state, going.trace, ⟨going.step.valid, going.step.file,
        going.step.encoded, going.step.read, going.step.numbered, going.step.prefixed,
        going.step.started⟩, going.unwritten, going.unclean⟩

theorem onOpening_keeps : Keeps (Safe m start st tr applied events) (onOpening s) := by
  refine Keeps.bind Keeps.read fun rt => Keeps.ite (fun _ => ?_) fun _ => Keeps.answer ()
  exact Keeps.handle (safe_between.keeps halting_spec) fun _ => Keeps.answer ()

/-- The opening of a runtime, whether it goes through or not. -/
theorem authorizeSession_spec :
    Triple (Going m start st tr events) (authorizeSession s)
      (fun _ => Safe m start st tr applied events) (Safe m start st tr applied events) := by
  refine Triple.bind (claimRuntime_keeps.weaken (fun _ holds => holds) (fun _ _ holds => holds)
    fun _ => Or.inl) fun _ => reraising_spec (S := Safe m start st tr applied events) ?_ fun _ => ?_
  · refine Triple.bind (requireCoordinator_keeps.weaken (fun _ holds => holds)
      (fun _ _ holds => holds) fun _ blocked => blocked.1) fun _ => ?_
    exact Triple.bind ((gate_keeps going_aging).weaken (fun _ holds => holds) (fun _ _ holds => holds)
      fun _ => Or.inl) fun _ _ => Or.inl
  · refine Keeps.bind onOpening_keeps fun _ rt safe => safe.close.1

/-- Whatever is called, the journal and the runtime stay together. -/
theorem liveRun_recorded {w : JournalWriter} {calls : List Call} {run : LiveRun}
    (session : w.sessionManifest = m) (begun : w.sessionStart = start)
    (step : InStep w [start]) (unwritten : w.capability.terminalWritten = false)
    (unclean : w.capability.terminalCleanDurable = false)
    (live : liveRun lib s w calls = .ok run) :
    ∃ st₀ tr₀, openingOf m start = .ok (st₀, tr₀) ∧
      Recorded s m start st₀ tr₀ run.ingested run.runtime := by
  obtain ⟨rt, opened, live⟩ := bind_eq_ok.mp live
  rw [pure_eq_ok] at live
  unfold EventRuntime.start at opened
  split at opened
  · next st tr opening =>
    rw [session, begun] at opening
    obtain rfl := Except.ok.inj opened
    refine ⟨st, tr, opening, ?_⟩
    subst live
    refine LiveRun.offers_recorded ⟨[], [], st, tr, rfl, .nothing, ?_, Or.inl rfl⟩
    exact Triple.after authorizeSession_spec ⟨session, rfl, rfl, step, unwritten, unclean⟩
  · cases opened

end Calls

/-- A created journal and the runs on it. -/
theorem created_recorded {lib : TextLibrary} {s : Surroundings} {m : SessionManifest}
    {first second : Conditions} {w : JournalWriter} {calls : List Call} {run : LiveRun}
    (valid : m.validate = .ok ()) (created : JournalWriter.create m first second = .ok w)
    (live : liveRun lib s w calls = .ok run) :
    ∃ manifest st₀ tr₀, canonicalSessionManifestBytes m = some manifest ∧
      openingOf m (startEvent m manifest) = .ok (st₀, tr₀) ∧
      Recorded s m (startEvent m manifest) st₀ tr₀ run.ingested run.runtime := by
  obtain ⟨manifest, canonical, encoded, rfl⟩ := create_ok created
  obtain ⟨st₀, tr₀, opened, recorded⟩ : ∃ st₀ tr₀, openingOf m (startEvent m manifest) =
      .ok (st₀, tr₀) ∧ Recorded s m (startEvent m manifest) st₀ tr₀ run.ingested run.runtime :=
    liveRun_recorded rfl rfl (opened_inStep valid canonical encoded) rfl rfl live
  exact ⟨manifest, st₀, tr₀, canonical, opened, recorded⟩

end Inci.Journal
