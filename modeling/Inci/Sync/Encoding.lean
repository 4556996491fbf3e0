/-
# Sync.Encoding -- the sessions that can be encoded

Every number of a constructed session is below the integer bound, and what its cursors hold has
a digest.  Only the magnitude of a pending move is not checked when the session is built.  It
comes from an input, and an input without a digest fails its call, so a call always answers
with a session that can be encoded again: no run of calls leads to a session without a digest
(`reachable_session_encodes`).
-/
import Inci.Sync.Isolation

namespace Inci.Sync

open Inci.Theory Inci.Expert Inci.Tennis Inci.Market Inci.Binding

set_option autoImplicit false

variable {s : SynchronizationSessionState} {evidence : SynchronizationInput}
  {now : PairedTimeObservation} {ctx : Context} {std next last : Standing}

/-! ## Cursors -/

/-- The magnitude of the pending move, if there is one, can be written. -/
def BookSyncCursor.Measured (c : BookSyncCursor) : Prop :=
  ∀ p, c.pendingMove = some p → Encodes (.decimal p.maxMagnitude)

theorem PendingBookMove.encodes_iff {p : PendingBookMove} (good : p.postInit = .ok ()) :
    Encodes p.py ↔ Encodes (.decimal p.maxMagnitude) := by
  have bounds := PendingBookMove.postInit_eq_ok.mp good
  simpa [PendingBookMove.py, Encodes, EncodesFields, bounds.firstMove, bounds.lastMove,
    bounds.firstEpoch, bounds.firstSequence, bounds.lastEpoch, bounds.lastSequence, bounds.count,
    bounds.bookFloor] using fun _ floor present => bounds.tennisFloor floor present

theorem CausalPointWitness.encodes {w : CausalPointWitness} (good : w.postInit = .ok ()) :
    Encodes w.py := by
  simp only [CausalPointWitness.postInit, bind_eq_ok, exists_unit, integer_eq_ok] at good
  simp [CausalPointWitness.py, Encodes, EncodesFields, good]

theorem LastSyncEmission.encodes {e : LastSyncEmission} (good : e.postInit = .ok ()) :
    Encodes e.py := by
  simp only [LastSyncEmission.postInit, bind_eq_ok, exists_unit, integer_eq_ok,
    positiveInteger_eq_ok] at good
  simp [LastSyncEmission.py, Encodes, EncodesFields, good]

theorem TennisSyncCursor.encodes {c : TennisSyncCursor} (parts : c.checkParts = .ok ()) :
    Encodes c.py := by
  cases holds : c.tennis with
  | none =>
      obtain ⟨-, -, -, unwitnessed⟩ := (TennisSyncCursor.checkParts_none holds).mp parts
      simp [TennisSyncCursor.py, Encodes, EncodesFields, holds, unwitnessed]
  | some t =>
      obtain ⟨-, holding⟩ := (TennisSyncCursor.checkParts_some holds).mp parts
      simp only [TennisSyncCursor.py, Encodes, EncodesFields, holds, encodes_text, encodes_option,
        true_and, and_true]
      refine ⟨fun t' same => ?_, by simp, by simp, fun w present => ?_⟩
      · exact Option.some.inj same ▸ holding.encodes
      · exact CausalPointWitness.encodes (holding.witness w present).1

theorem BookSyncCursor.encodes_iff {c : BookSyncCursor} (parts : c.checkParts = .ok ()) :
    Encodes c.py ↔ c.Measured := by
  cases holds : c.book with
  | none =>
      obtain ⟨-, empty⟩ := (BookSyncCursor.checkParts_none holds).mp parts
      simp [BookSyncCursor.py, BookSyncCursor.Measured, Encodes, EncodesFields, holds,
        empty.pending, empty.causal, empty.consumed, empty.emission]
  | some b =>
      obtain ⟨-, holding⟩ := (BookSyncCursor.checkParts_some holds).mp parts
      have book : Encodes b.py := holding.encodes
      have causal : ∀ w, c.causalPointWitness = some w → Encodes w.py := fun w here =>
        CausalPointWitness.encodes (holding.witnesses w (mem_witnesses.mpr (.inl here))).1
      have consumed : ∀ w, c.consumedPointWitness = some w → Encodes w.py := fun w here =>
        CausalPointWitness.encodes (holding.witnesses w (mem_witnesses.mpr (.inr here))).1
      have emission : ∀ e, c.lastEmission = some e → Encodes e.py := fun e here =>
        LastSyncEmission.encodes (holding.emission e here).1
      have pending : (∀ p, c.pendingMove = some p → Encodes p.py) ↔ c.Measured :=
        forall₂_congr fun p here => PendingBookMove.encodes_iff (holding.pending p here).constructed
      rw [← pending]
      simp only [BookSyncCursor.py, Encodes, EncodesFields, holds, encodes_text, encodes_option,
        true_and, and_true]
      constructor
      · rintro ⟨-, -, -, pending, -⟩
        exact pending
      · intro pending
        exact ⟨fun b' same => Option.some.inj same ▸ book, by simp, by simp, pending, causal,
          consumed, emission⟩

/-! ## Sessions -/

/-- A constructed session can be encoded when its artifacts and its pending moves can be. -/
theorem SynchronizationSessionState.Constructed.encodes_iff (good : s.Constructed) :
    Encodes s.py ↔ (Encodes s.bindingUniverse.py ∧ Encodes s.policy.py) ∧
      ∀ c ∈ s.bookCursors, c.Measured := by
  have books : (∀ c ∈ s.bookCursors, Encodes c.py) ↔ ∀ c ∈ s.bookCursors, c.Measured :=
    forall₂_congr fun c inside => BookSyncCursor.encodes_iff (good.bookParts c inside)
  rw [session_encodes, books]
  constructor
  · rintro ⟨artifacts, -, -, -, measured⟩
    exact ⟨artifacts, measured⟩
  · rintro ⟨artifacts, measured⟩
    exact ⟨artifacts, good.decisions, fun o here =>
      PairedTimeObservation.encodes (good.observation o here),
      fun c inside => TennisSyncCursor.encodes (good.tennisParts c inside), measured⟩

/-! ## What a call does to pending moves -/

/-- The books of a standing have magnitudes that can be written. -/
def Standing.Measured (std : Standing) : Prop :=
  ∀ ticker c, std.book ticker = some c → c.Measured

theorem Standing.Measured.set (measured : std.Measured) {c : BookSyncCursor} (here : c.Measured) :
    (std.set c).Measured := by
  intro ticker found
  rw [Standing.set_book]
  split_ifs
  · rintro (_ | _)
    exact here
  · exact measured ticker found

theorem Standing.Measured.retennis (measured : std.Measured) {tc : TennisSyncCursor}
    {change : BookSyncCursor → BookSyncCursor}
    (kept : ∀ c : BookSyncCursor, c.Measured → (change c).Measured) :
    (std.retennis tc change).Measured := by
  intro ticker c found
  obtain ⟨before, here, rfl⟩ := Option.map_eq_some_iff.mp found
  exact kept before (measured ticker before here)

theorem BookSyncCursor.Measured.explain {c : BookSyncCursor} (measured : c.Measured)
    (policy : SyncPolicy) (t : TennisState) (witness : Option CausalPointWitness) :
    (c.explain policy t witness).Measured := by
  unfold BookSyncCursor.explain
  split
  · split_ifs
    · intro p pending
      cases pending
    · exact measured
  · exact measured

theorem executableMove_encodes (encodable : Encodes evidence.py) {r : BookTransitionResult}
    (sent : evidence.bookTransition = some r) : Encodes (.decimal r.executableMove) := by
  simp only [SynchronizationInput.py, Encodes, EncodesFields, sent, PyValue.option] at encodable
  have result : Encodes r.py := by tauto
  simp only [BookTransitionResult.py, Encodes, EncodesFields] at result ⊢
  exact result.2.2.2.1

theorem grown_measured {tc : TennisSyncCursor} {c : BookSyncCursor} {r : BookTransitionResult}
    (measured : c.Measured) (move : Encodes (.decimal r.executableMove)) :
    Encodes (.decimal (grown tc c r).maxMagnitude) := by
  unfold grown
  cases before : c.pendingMove with
  | none => exact move
  | some p =>
      rcases max_choice p.maxMagnitude r.executableMove with larger | larger
      · show Encodes (.decimal (max p.maxMagnitude r.executableMove))
        rw [larger]
        exact measured p before
      · show Encodes (.decimal (max p.maxMagnitude r.executableMove))
        rw [larger]
        exact move

theorem recordIfLarge_measured {policy : SyncPolicy} {tc : TennisSyncCursor}
    {c accepted recorded : BookSyncCursor} {r : BookTransitionResult}
    (checked : r.postInit = .ok ()) (measured : accepted.Measured)
    (move : Encodes (.decimal r.executableMove))
    (answer : recordIfLarge policy tc c accepted r = .ok recorded) : recorded.Measured := by
  unfold recordIfLarge at answer
  split_ifs at answer with large
  · obtain ⟨moves, -⟩ := largeMove_iff.mp large.2
    obtain ⟨-, rfl⟩ := recordMove_eq_ok (accepted_of_postInit checked moves) answer
    have moved : (accepted.move (grown tc accepted r)).Measured := by
      intro p pending
      obtain rfl := Option.some.inj pending
      exact grown_measured measured move
    unfold BookSyncCursor.explainIn
    split
    · exact moved
    · exact moved.explain _ _ _
  · obtain rfl := (pure_eq_ok _ _).mp answer
    exact measured

theorem Ingested.measured {plan : Plan} (ingested : Ingested ctx std evidence next plan)
    (input : evidence.Constructed) (encodable : Encodes evidence.py) (measured : std.Measured) :
    next.Measured := by
  cases ingested with
  | misbound | clock | unbound => exact measured
  | origin event tennis =>
      refine measured.retennis fun c before p pending => ?_
      obtain ⟨old, held, rfl⟩ := Option.map_eq_some_iff.mp pending
      exact before old held
  | transition prior event r point =>
      exact measured.retennis fun c before => BookSyncCursor.Measured.explain
        (c := c.forget (appliedCorrection event r)) before _ _ _
  | market ticker cursor recorded event r stateSha256 inputSha256 about found fed computed state
      sealed records =>
      obtain ⟨-, sent⟩ := recomputedBook_eq_ok computed
      refine measured.set (recordIfLarge_measured (input.book r sent.symm).1 ?_
        (executableMove_encodes encodable sent.symm) records)
      exact fun p pending => measured ticker cursor found p (pendingAfter_kept pending)
  | resnapshot ticker cursor book required stateSha256 inputSha256 about found =>
      exact measured.set fun p pending => measured ticker cursor found p pending

theorem verdicts_measured {tickers : List String} {verdicts : List Verdict}
    (answer : std.verdicts ctx tickers = .ok (last, verdicts)) (measured : std.Measured) :
    last.Measured := by
  induction tickers generalizing std verdicts with
  | nil =>
      obtain ⟨rfl, -⟩ := Standing.verdicts_nil answer
      exact measured
  | cons ticker rest ih =>
      obtain ⟨middle, verdict, others, evaluated, later, -⟩ := Standing.verdicts_cons answer
      refine ih later ?_
      cases evaluated with
      | withheld => exact measured
      | emitted t b c sealed found =>
          exact measured.set fun p pending => measured ticker c found p pending

theorem react_measured {verdicts : List Verdict}
    (answer : std.react ctx evidence = .ok (last, verdicts)) (input : evidence.Constructed)
    (encodable : Encodes evidence.py) (measured : std.Measured) : last.Measured := by
  simp only [Standing.react, bind_eq_ok, Prod.exists] at answer
  obtain ⟨next, plan, ingests, answer⟩ := answer
  have ingested := (Standing.ingest_cases ingests).measured input encodable measured
  cases plan with
  | judge tickers => exact verdicts_measured answer ingested
  | withhold tickers reason =>
      obtain ⟨rfl, -⟩ := Prod.mk.inj ((pure_eq_ok _ _).mp answer)
      exact ingested

/-- The session a call answers with can be encoded. -/
theorem synchronize_state_encodes {t : SynchronizationTransitionResult}
    (answer : synchronize s evidence now = .ok t) : Encodes t.state.py := by
  have encodable := synchronize_encodes answer
  obtain ⟨good, frame, -⟩ := synchronize_next answer
  obtain ⟨ctx, std, admitted⟩ := admitted_of_ok answer
  obtain ⟨artifacts, books⟩ := admitted.good.encodes_iff.mp encodable.1
  have measured : std.Measured := by
    intro ticker c found
    exact books c (admitted.good.bookAt_eq_some.mp ((admitted.stands.book ticker).trans found)).1
  obtain ⟨last, verdicts, rs, reacts, -, recorded⟩ := admitted.synchronize_eq_ok.mp answer
  have after := react_measured reacts admitted.constructed encodable.2 measured
  refine good.encodes_iff.mpr ⟨by rw [frame]; exact artifacts, ?_⟩
  rw [(transition_eq_ok recorded).1]
  intro c inside
  obtain ⟨old, before, rfl⟩ := List.mem_map.mp inside
  unfold putBook
  split_ifs with here
  · cases found : last.book old.ticker with
    | none => exact books old before
    | some changed => exact after old.ticker changed found
  · exact books old before

/-! ## Runs -/

/-- A session is opened with a policy that has a digest and without pending moves. -/
theorem started_encodes {u : BindingUniverse} {policy : SyncPolicy}
    {first : SynchronizationSessionState} (encodes : Encodes u.py)
    (started : synchronizationSessionFromArtifacts u policy = .ok first) : Encodes first.py := by
  simp only [synchronizationSessionFromArtifacts, bind_eq_ok, session_eq_ok] at started
  obtain ⟨_, -, -, -, -, -, _, -, _, -, _, -, digest, computed, good, rfl⟩ := started
  have bounded : Encodes policy.py := (domainSha256_total _ _).mp ⟨digest, computed⟩
  refine good.encodes_iff.mpr ⟨⟨encodes, bounded⟩, fun c inside p pending => ?_⟩
  have blank := (good.unobserved rfl).2.2 c inside
  have empty := (BookSyncCursor.checkParts_none blank).mp (good.bookParts c inside)
  rw [empty.2.pending] at pending
  cases pending

theorem calls_encode {first : SynchronizationSessionState} (encodes : Encodes first.py)
    (calls : List SyncCall) : Encodes (first.calls calls).1.py := by
  induction calls generalizing first with
  | nil => exact encodes
  | cons c rest ih =>
      refine ih ?_
      unfold SynchronizationSessionState.call
      cases answer : synchronize first c.evidence c.now with
      | ok t => exact synchronize_state_encodes answer
      | error e => exact encodes

/-- Whatever is called, and whatever fails, the session has its digest. -/
theorem reachable_session_encodes {u : BindingUniverse} {policy : SyncPolicy}
    {first : SynchronizationSessionState} (encodes : Encodes u.py)
    (started : synchronizationSessionFromArtifacts u policy = .ok first) (calls : List SyncCall) :
    ∃ digest, expertContractSha256 (first.calls calls).1.py = .ok digest :=
  (domainSha256_total _ _).mpr (calls_encode (started_encodes encodes started) calls)

theorem reachable_session_encodes_opening :
    ∃ digest, expertContractSha256 (opening.calls emittingCalls).1.py = .ok digest :=
  reachable_session_encodes openingUniverse_encodes opening_of_artifacts _

end Inci.Sync
