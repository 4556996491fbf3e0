/-
# Sync.Totality -- a call fails only with session drift

Below the integer bounds and on values that can be encoded, every constructor a
call runs outside a `try` accepts, so what is left is the drift error
(`synchronize_drifts`).
-/
import Inci.Sync.Isolation

namespace Inci.Sync

open Inci.Theory Inci.Expert Inci.Tennis Inci.Market Inci.Binding

set_option autoImplicit false

variable {s : SynchronizationSessionState} {evidence : SynchronizationInput}
  {now : PairedTimeObservation} {ctx : Context} {std next last : Standing}

/-- The attempt fails with session drift, if it fails. -/
abbrev Drifts {α : Type} (attempt : Except ExpertError α) : Prop :=
  FailsOnly (· = .drift) attempt

theorem drifts_required {α : Type} (item : Option α) : Drifts (required item) := by
  cases item with
  | none => exact failsOnly_error.mpr rfl
  | some a => exact failsOnly_ok a

theorem drifts_digest {v : PyValue} (encodable : Encodes v) : Drifts (expertContractSha256 v) := by
  obtain ⟨digest, computed, -⟩ := digest_of_encodes encodable
  rw [computed]
  exact failsOnly_ok digest

/-! ## Ingestion -/

/-- The state a complete snapshot starts a match with can be encoded. -/
theorem origin_encodes {event : ProviderSnapshot} {t : TennisState}
    (computed : originOf event = .ok t) : Encodes t.py := by
  have good := TennisState.postInit_eq_ok.mp (originOf_eq_ok computed).1
  simp only [originOf, recover_eq_ok, bind_eq_ok, exists_unit, pure_eq_ok] at computed
  obtain ⟨t', started, -, rfl⟩ := computed
  simp only [stateFromSnapshot, bind_eq_ok, TennisState.construct_eq_ok, Prod.exists] at started
  obtain ⟨bytes, digest, sealed, -, -, -, -, -, rfl⟩ := started
  simp only [ProviderSnapshot.semantic, eventSemantic, bind_eq_ok] at sealed
  obtain ⟨_, canonical, -⟩ := sealed
  simp only [canonicalExpertBytes, bind_eq_ok] at canonical
  obtain ⟨projected, projects, -⟩ := canonical
  have encodes := (project_total _).mp ⟨projected, projects⟩
  simp only [Encodes, EncodesFields, ProviderSnapshot.fields, encodesFields_append,
    MatchIdentity.py, encodes_text, encodes_nat, and_true, true_and] at encodes
  obtain ⟨⟨⟨⟨start, format⟩, score⟩, -⟩, -⟩ := encodes
  simp only [stateFromSnapshotFields, BlockMetadata.clear] at good ⊢
  simp only [TennisState.py, Encodes, encodesFields_append, MatchIdentity.py, EncodesFields,
    encodes_text, encodes_nat, encodes_option, and_true, true_and]
  refine ⟨⟨⟨start, format⟩, score⟩, good.correctionEpoch, good.revision, good.sourceWall, good.generatedWall,
    good.received, good.uncertainty, ?_⟩
  simp

theorem drifts_origin (encodable : Encodes evidence.py) : Drifts (std.origin ctx evidence) := by
  unfold Standing.origin
  refine FailsOnly.bind (failsOnly_refuse rfl) fun _ _ => ?_
  split
  · rename_i event provider
    refine FailsOnly.bind (failsOnly_refuse rfl) fun _ _ => ?_
    refine FailsOnly.bind (recover_caught ?_) fun t computed => ?_
    · refine FailsOnly.bind (caught_stateFromSnapshot event) fun t _ => ?_
      exact FailsOnly.bind (caught_validateTennisState t) fun _ _ => failsOnly_pure _
    · refine FailsOnly.ite (fun _ => failsOnly_pure _) fun _ => ?_
      refine FailsOnly.bind (drifts_digest encodable) fun _ _ => ?_
      exact FailsOnly.bind (drifts_digest (origin_encodes computed)) fun _ _ => failsOnly_pure _
  · exact failsOnly_error.mpr rfl

theorem caught_applyProviderEvent (t : TennisState) (event : ProviderEvent) :
    Caught (applyProviderEvent t event) := by
  cases event with
  | point e => exact caught_applyPoint t e
  | lifecycle e => exact caught_applyLifecycle t e
  | snapshot e => exact caught_applyCorrection t e

/-- The witness of an applied point is always constructed. -/
theorem pointWitness_total {prior : TennisState} {event : ProviderEvent}
    {r : TennisTransitionResult} {matchId : String} (advance : ProviderAdvance prior event r)
    (good : r.state.postInit = .ok ()) (named : SafeId matchId) :
    ∃ witness, pointWitness matchId event r = .ok witness := by
  obtain ⟨epoch, revision, digest, received⟩ := tennis_postInit_bounds good
  unfold pointWitness
  split
  · rename_i e
    split_ifs with applied
    · refine ⟨_, bind_eq_ok.mpr ⟨(), ?_, rfl⟩⟩
      have semantic := advance.applied applied.1
      simp only [CausalPointWitness.postInit, bind_eq_ok, exists_unit, safeId_eq_ok, integer_eq_ok,
        sha256_eq_ok]
      exact ⟨named, epoch, revision, semantic ▸ digest, received⟩
    · exact ⟨none, rfl⟩
  · exact ⟨none, rfl⟩

theorem tennisTransition_encodes (encodable : Encodes evidence.py) {r : TennisTransitionResult}
    (sent : evidence.tennisTransition = some r) : Encodes r.state.py := by
  simp only [SynchronizationInput.py, Encodes, EncodesFields, sent, PyValue.option] at encodable
  have result : Encodes r.py := by tauto
  simp only [TennisTransitionResult.py, Encodes, EncodesFields] at result
  exact result.1

theorem bookTransition_encodes (encodable : Encodes evidence.py) {r : BookTransitionResult}
    (sent : evidence.bookTransition = some r) : Encodes r.state.py := by
  simp only [SynchronizationInput.py, Encodes, EncodesFields, sent, PyValue.option] at encodable
  have result : Encodes r.py := by tauto
  simp only [BookTransitionResult.py, Encodes, EncodesFields] at result
  exact result.1

theorem resnapshot_encodes (encodable : Encodes evidence.py) {b : BookState}
    (sent : evidence.bookResnapshotState = some b) : Encodes b.py := by
  simp only [SynchronizationInput.py, Encodes, EncodesFields, sent, PyValue.option] at encodable
  tauto

theorem drifts_transition (valid : std.Valid ctx.pair) (input : evidence.Constructed)
    (encodable : Encodes evidence.py) : Drifts (std.transition ctx evidence) := by
  unfold Standing.transition
  split
  · rename_i prior event held provider
    refine FailsOnly.bind (failsOnly_refuse rfl) fun _ _ => ?_
    refine FailsOnly.bind (recover_caught ?_) fun r computed => ?_
    · refine FailsOnly.bind (caught_applyProviderEvent prior event) fun r _ => ?_
      refine FailsOnly.bind (failsOnly_refuse rfl) fun _ _ => ?_
      exact FailsOnly.bind (caught_validateTennisState _) fun _ _ => failsOnly_pure _
    · obtain ⟨answer, sent, -⟩ := recomputedTennis_eq_ok computed
      obtain ⟨witness, pointed⟩ := pointWitness_total (applyProviderEvent_advance answer)
        (input.tennis r sent.symm) valid.safeId
      have state : Encodes r.state.py := tennisTransition_encodes encodable sent.symm
      rw [pointed, ok_bind]
      refine FailsOnly.bind (drifts_digest state) fun _ _ => ?_
      exact FailsOnly.bind (drifts_digest encodable) fun _ _ => failsOnly_pure _
  · exact failsOnly_error.mpr rfl

theorem caught_applyBookEvent {c : BookSyncCursor} {previous : Option String} {event : BookEvent}
    (holding : ∀ b, c.book = some b → b.postInit = .ok ()) (fed : event.postInit = .ok ()) :
    Caught (applyBookEvent c previous event) := by
  unfold applyBookEvent
  cases held : c.book with
  | none =>
      cases event with
      | snapshot e =>
          exact FailsOnly.bind (failsOnly_refuse rfl) fun _ _ => caught_bookFromSnapshot fed
      | delta e => exact failsOnly_error.mpr rfl
      | lifecycle e => exact failsOnly_error.mpr rfl
  | some b =>
      refine FailsOnly.bind (failsOnly_refuse rfl) fun _ _ => ?_
      cases event with
      | snapshot e => exact caught_applyBookSnapshot (holding b held) fed
      | delta e => exact caught_applyBookDelta (holding b held)
      | lifecycle e => exact caught_applyMarketLifecycle (holding b held)

/-- The move of an accepted large event is always recorded while its burst can be counted. -/
theorem recordIfLarge_total {pair : MatchBinding × BindingMetadata} {policy : SyncPolicy}
    {tc : TennisSyncCursor} {c accepted : BookSyncCursor} {r : BookTransitionResult}
    (ok : BookOk pair tc accepted) (tennisOk : TennisOk pair tc)
    (holds : accepted.book = some r.state) (checked : r.postInit = .ok ())
    (further : c.book.isSome → movesMarket r →
      ∀ p, accepted.pendingMove = some p → p.last < bookCoordinates r.state)
    (counts : ∀ p, accepted.pendingMove = some p → p.moveCount + 1 < integerBound) :
    ∃ recorded, recordIfLarge policy tc c accepted r = .ok recorded := by
  unfold recordIfLarge
  split_ifs with large
  · obtain ⟨moves, positive, -⟩ := largeMove_iff.mp large.2
    have accepts := accepted_of_postInit checked moves
    have grows := PendingBookMove.postInit_eq_ok.mpr
      (grown_constructed ok holds tennisOk accepts positive (further large.1 moves) counts)
    have moved := ok.move holds grows
    have built := moved.construct
    unfold BookSyncCursor.move at built
    simp only [recordMove, grownPending_eq accepts, pendingBookMove, grows, ok_bind, pure_bind,
      built]
    cases held : tc.tennis with
    | none =>
        unfold explainPending
        split
        · cases ‹none = some _›
        · exact ⟨_, rfl⟩
    | some t =>
        refine ⟨_, explainPending_total moved held fun w last => ?_⟩
        exact moved.matchId ▸ tennisOk.current held last
  · exact ⟨accepted, rfl⟩

/-- No counter of a burst of the standing is used up. -/
def Standing.Countable (std : Standing) : Prop :=
  ∀ ticker c p, std.book ticker = some c → c.pendingMove = some p → p.moveCount + 1 < integerBound

theorem drifts_market (valid : std.Valid ctx.pair) (countable : std.Countable)
    (input : evidence.Constructed) (encodable : Encodes evidence.py) {ticker : String}
    (about : evidence.ticker = some ticker) : Drifts (std.market ctx evidence ticker) := by
  unfold Standing.market
  refine FailsOnly.bind (drifts_required _) fun c found => ?_
  have found := required_eq_ok.mp found
  have ok := valid.book ticker c found
  split
  · exact failsOnly_error.mpr rfl
  · rename_i event fed
    refine FailsOnly.bind (recover_caught ?_) fun r computed => ?_
    · refine FailsOnly.bind (caught_applyBookEvent (fun b held => (ok.holding held).constructed)
        (input.bookEvent event fed)) fun _ _ => ?_
      exact FailsOnly.bind (failsOnly_refuse rfl) fun _ _ => failsOnly_pure _
    · obtain ⟨answer, sent⟩ := recomputedBook_eq_ok computed
      have encodes := bookTransition_encodes encodable sent.symm
      refine FailsOnly.bind (drifts_digest encodes) fun stateSha256 state => ?_
      refine FailsOnly.bind (drifts_digest encodable) fun inputSha256 sealed => ?_
      have accepted := accepted_ok valid input about found computed state sealed
      have checked := (input.book r sent.symm).1
      have total : ∃ recorded, recordIfLarge ctx.frame.policy std.tennis c (c.hold r.state stateSha256
          inputSha256 (pendingAfter c event std.tennis.tennis r)) r = .ok recorded := by
        refine recordIfLarge_total accepted valid.tennis rfl checked ?_ ?_
        · intro held moves p kept
          obtain ⟨b, holds⟩ := Option.isSome_iff_exists.mp held
          have pending := (ok.holding holds).pending p (pendingAfter_kept kept)
          exact pending.last.trans_lt ((applyBookEvent_advance holds answer).moved moves)
        · exact fun p kept => countable ticker c p found (pendingAfter_kept kept)
      obtain ⟨recorded, records⟩ := total
      simp only [records, ok_bind]
      exact failsOnly_pure _

theorem drifts_resnapshot (valid : std.Valid ctx.pair) (encodable : Encodes evidence.py)
    {ticker : String} : Drifts (std.resnapshot evidence ticker) := by
  unfold Standing.resnapshot
  refine FailsOnly.bind (drifts_required _) fun c found => ?_
  have ok := valid.book ticker c (required_eq_ok.mp found)
  split
  · exact failsOnly_error.mpr rfl
  · rename_i b held
    refine FailsOnly.bind (failsOnly_refuse rfl) fun _ _ => ?_
    refine FailsOnly.bind (recover_caught
      (caught_requireBookResnapshot (ok.holding held).constructed)) fun required _ => ?_
    refine FailsOnly.bind (failsOnly_refuse rfl) fun _ sent => ?_
    have sent : some required = evidence.bookResnapshotState := by simpa using sent
    refine FailsOnly.bind (drifts_digest (resnapshot_encodes encodable sent.symm)) fun _ _ => ?_
    exact FailsOnly.bind (drifts_digest encodable) fun _ _ => failsOnly_pure _

/-- Ingesting a constructed input fails only with drift. -/
theorem drifts_ingest (valid : std.Valid ctx.pair) (countable : std.Countable)
    (input : evidence.Constructed) (encodable : Encodes evidence.py) :
    Drifts (std.ingest ctx evidence) := by
  have shape := input.shape
  unfold SynchronizationInput.validShape at shape
  unfold Standing.ingest
  split
  · exact drifts_origin encodable
  · exact drifts_transition valid input encodable
  · rename_i absent notOrigin notTransition
    cases kind : evidence.kind <;> simp_all
  · rename_i ticker about _ _
    refine FailsOnly.ite (fun _ => failsOnly_pure _) fun _ => ?_
    split
    · exact drifts_market valid countable input encodable about
    · exact drifts_resnapshot valid encodable
    · exact failsOnly_pure _

/-! ## The whole call -/

theorem caught_bindingMetadataFor {u : BindingUniverse} (accepted : u.postInit = .ok ())
    (b : MatchBinding) : Caught (bindingMetadataFor u b) := by
  unfold bindingMetadataFor
  rw [accepted, ok_bind]
  split
  · exact failsOnly_pure _
  · exact failsOnly_error.mpr rfl

/-- A constructed session is compatible with its own artifacts, or the call drifts. -/
theorem drifts_compatible (good : s.Constructed) :
    Drifts (assertSynchronizationSessionCompatible s s.bindingUniverse s.policy) := by
  have artifacts := good.artifacts
  simp only [SessionFrame.checkArtifacts, bind_eq_ok, exists_unit, recover_eq_ok] at artifacts
  obtain ⟨computed, ⟨accepted, pin, computes⟩, -, policy, -, digest, sealed, -⟩ := artifacts
  refine recover_caught ?_
  rw [accepted, policy, SynchronizationSessionState.postInit_eq_ok.mpr good]
  simp only [ok_bind]
  refine FailsOnly.bind ?_ fun _ _ => ?_
  · simp only [bindingUniverseSha256, accepted, pin, computes, ok_bind]
    exact FailsOnly.bind caught_refuse_contract fun _ _ => failsOnly_pure _
  refine FailsOnly.bind (failsOnly_refuse rfl) fun _ _ => ?_
  rw [sealed, ok_bind]
  refine FailsOnly.bind (failsOnly_refuse rfl) fun _ _ => ?_
  refine FailsOnly.bind (FailsOnly.checkAll fun pair _ => ?_) fun _ _ => ?_
  · exact FailsOnly.bind (caught_bindingMetadataFor accepted pair.1) fun _ _ => failsOnly_refuse rfl
  refine FailsOnly.bind (FailsOnly.checkAll fun tc _ => ?_) fun _ _ => ?_
  · exact FailsOnly.checkSome fun t _ => caught_validateTennisState t
  refine FailsOnly.checkAll fun c inside => FailsOnly.checkSome fun b holds => ?_
  have holding := ((BookSyncCursor.checkParts_some holds).mp (good.bookParts c inside)).2
  rw [holding.constructed]
  exact failsOnly_ok _

/-- No integer of the session is so large that a call could bring it to the bound. -/
structure SynchronizationSessionState.Roomy (s : SynchronizationSessionState) : Prop where
  decisions : s.decisionSequence + 2 < integerBound
  moves : ∀ c ∈ s.bookCursors, ∀ p, c.pendingMove = some p → p.moveCount + 1 < integerBound

theorem subjects_listed {binding : MatchBinding} (constructed : binding.postInit = .ok ())
    (input : evidence.Constructed) : ∀ ticker ∈ evidence.subjects binding, Ticker ticker := by
  simp only [MatchBinding.postInit, bind_eq_ok, exists_unit, ticker_eq_ok] at constructed
  obtain ⟨-, -, -, -, -, -, -, -, -, home, away, -⟩ := constructed
  intro ticker member
  unfold SynchronizationInput.subjects at member
  split at member
  · simp only [sortedTickers, List.mem_mergeSort, List.mem_cons, List.not_mem_nil, or_false] at member
    rcases member with rfl | rfl
    · exact home
    · exact away
  · simp only [sortedTickers, List.mem_mergeSort, List.mem_cons, List.not_mem_nil, or_false] at member
    rcases member with rfl | rfl
    · exact home
    · exact away
  · exact input.ticker ticker (by simpa using member)

theorem subjects_length (binding : MatchBinding) : (evidence.subjects binding).length ≤ 2 := by
  unfold SynchronizationInput.subjects
  split
  · simp [sortedTickers]
  · simp [sortedTickers]
  · cases evidence.ticker <;> simp

/-- Carrying out the plan of an ingested input fails only with drift. -/
theorem drifts_carriedOut (ready : Ready ctx s std) (built : ctx.Built)
    (input : evidence.Constructed) (small : s.decisionSequence + 2 < integerBound) {plan : Plan}
    (ingests : std.ingest ctx evidence = .ok (next, plan)) :
    Drifts (carriedOut ctx s (next, plan)) := by
  have ingested := Standing.ingest_cases ingests
  have subjects := ingest_subjects ingests
  have listed := subjects_listed built.binding input
  have short : (evidence.subjects ctx.pair.1).length ≤ 2 := subjects_length ctx.pair.1
  cases planned : plan with
  | judge tickers =>
      rw [planned] at subjects
      have subjects : tickers = evidence.subjects ctx.pair.1 := subjects
      refine results_drift (ready.ingested ingested input) built (subjects ▸ listed) ?_
      show s.decisionSequence + tickers.length < integerBound
      rw [subjects]
      omega
  | withhold tickers reason =>
      rw [planned] at subjects
      have subjects : tickers = evidence.subjects ctx.pair.1 := subjects
      have untrusted := ingested.withheld_untrusted planned
      refine FailsOnly.bind ?_ fun _ _ => failsOnly_pure _
      rw [collect_map fun ticker member =>
        withheld_total ready.valid.safeId (listed ticker (subjects ▸ member)) untrusted]
      exact failsOnly_ok _

theorem Admitted.drifts (admitted : Admitted s evidence now ctx std)
    (bindings : ∀ pair ∈ s.bindingUniverse.pairs, pair.1.postInit = .ok ())
    (encodable : Encodes s.py) (encodableInput : Encodes evidence.py) (roomy : s.Roomy) :
    Drifts (synchronize s evidence now) := by
  have ready := admitted.ready
  have built : ctx.Built := ⟨admitted.frame ▸ admitted.good.universeDigest,
    admitted.frame ▸ admitted.good.policyDigest, bindings ctx.pair admitted.member,
    admitted.clock ▸ admitted.observation⟩
  have countable : std.Countable := by
    intro ticker c p found pending
    have inside := (admitted.good.bookAt_eq_some.mp ((admitted.stands.book ticker).trans found)).1
    exact roomy.moves c inside p pending
  rw [admitted.synchronize_eq]
  refine FailsOnly.bind (drifts_ingest ready.valid countable admitted.constructed encodableInput)
    fun planned ingests => ?_
  obtain ⟨next, plan⟩ := planned
  refine FailsOnly.bind (drifts_carriedOut ready built admitted.constructed roomy.decisions
    ingests) fun answered carried => ?_
  obtain ⟨s', rs⟩ := answered
  obtain ⟨last, verdicts, carries, published, rfl⟩ := (carriedOut_eq_ok ready
    (Standing.ingest_cases ingests) admitted.constructed).mp carried
  have reacts : std.react ctx evidence = .ok (last, verdicts) :=
    bind_eq_ok.mpr ⟨(next, plan), ingests, carries⟩
  obtain ⟨inputSha256, sealed, -⟩ := digest_of_encodes encodableInput
  obtain ⟨priorSha256, prior, -⟩ := digest_of_encodes encodable
  have after := ready.reacted admitted.constructed reacts published
  have recorded := transition_total admitted reacts published after.good sealed prior
  show Drifts (transition s (putIn ctx (s.observe now) last
    (s.decisionSequence + emissions verdicts)) evidence now rs)
  rw [recorded]
  exact failsOnly_ok _

/-- Below the integer bounds and on values that can be encoded, a call of a constructed
session with a constructed input fails only with session drift. -/
theorem synchronize_drifts (good : s.Constructed)
    (bindings : ∀ pair ∈ s.bindingUniverse.pairs, pair.1.postInit = .ok ())
    (input : evidence.postInit = .ok ()) (observation : now.postInit = .ok ())
    (encodable : Encodes s.py) (encodableInput : Encodes evidence.py) (roomy : s.Roomy) :
    Drifts (synchronize s evidence now) := by
  by_cases admits : ∃ ctx std, Admitted s evidence now ctx std
  · obtain ⟨ctx, std, admitted⟩ := admits
    exact admitted.drifts bindings encodable encodableInput roomy
  · -- a call that is not admitted has drifted before it looks at the match
    refine FailsOnly.bind (drifts_compatible good) fun _ compatible => ?_
    rw [observation, input]
    refine FailsOnly.bind (failsOnly_ok ()) fun _ _ => ?_
    refine FailsOnly.bind (failsOnly_refuse rfl) fun _ forward => ?_
    refine FailsOnly.bind (failsOnly_ok ()) fun _ _ => ?_
    rw [selectedBinding_eq good.universe_accepted]
    refine FailsOnly.bind (drifts_required _) fun pair selected => ?_
    obtain ⟨member, about⟩ :=
      (find_eq_some good.universe_accepted.matches_nodup).mp (required_eq_ok.mp selected)
    obtain ⟨std, stands⟩ := good.stands member
    exact absurd ⟨⟨s.toSessionFrame, pair, now⟩, std, compatible, observation, by simpa using forward,
      input, rfl, rfl, member, about, stands⟩ admits

/-! ## Reachable sessions -/

theorem calls_constructed (good : s.Constructed) (calls : List SyncCall) :
    (s.calls calls).1.Constructed ∧ (s.calls calls).1.toSessionFrame = s.toSessionFrame := by
  induction calls generalizing s with
  | nil => exact ⟨good, rfl⟩
  | cons c rest ih =>
      have step : (s.call c).1.Constructed ∧ (s.call c).1.toSessionFrame = s.toSessionFrame := by
        unfold SynchronizationSessionState.call
        cases answer : synchronize s c.evidence c.now with
        | ok t => exact ⟨(synchronize_next answer).1, (synchronize_next answer).2.1⟩
        | error e => exact ⟨good, rfl⟩
      obtain ⟨later, frame⟩ := ih step.1
      exact ⟨later, frame.trans step.2⟩

theorem started_constructed {u : BindingUniverse} {policy : SyncPolicy}
    (started : synchronizationSessionFromArtifacts u policy = .ok s) :
    s.Constructed ∧ s.bindingUniverse = u := by
  simp only [synchronizationSessionFromArtifacts, bind_eq_ok, session_eq_ok] at started
  obtain ⟨_, -, -, -, -, -, _, -, _, -, _, -, _, -, good, rfl⟩ := started
  exact ⟨good, rfl⟩

/-- From every reachable session a call with a constructed input and observation, below the
integer bounds and on values that can be encoded, answers a session that passes all its
checks or raises session drift, and nothing else. -/
theorem session_invariant {u : BindingUniverse} {policy : SyncPolicy}
    {first : SynchronizationSessionState}
    (bindings : ∀ pair ∈ u.pairs, pair.1.postInit = .ok ())
    (started : synchronizationSessionFromArtifacts u policy = .ok first)
    (calls : List SyncCall) (input : evidence.postInit = .ok ())
    (observation : now.postInit = .ok ()) (encodable : Encodes (first.calls calls).1.py)
    (encodableInput : Encodes evidence.py) (roomy : (first.calls calls).1.Roomy) :
    (∃ t, synchronize (first.calls calls).1 evidence now = .ok t ∧ t.state.postInit = .ok ()) ∨
      synchronize (first.calls calls).1 evidence now = .error .drift := by
  obtain ⟨good, universe_eq⟩ := started_constructed started
  obtain ⟨reached, frame⟩ := calls_constructed good calls
  have drifts : Drifts (synchronize (first.calls calls).1 evidence now) := by
    refine synchronize_drifts reached ?_ input observation encodable encodableInput roomy
    rw [frame, universe_eq]
    exact bindings
  cases answer : synchronize (first.calls calls).1 evidence now with
  | ok t =>
      exact .inl ⟨t, rfl, SynchronizationSessionState.postInit_eq_ok.mpr (synchronize_next answer).1⟩
  | error e => exact .inr (congrArg Except.error (drifts.fails e answer))

theorem openAt_roomy {observed : Option PairedTimeObservation} :
    (openAt openingUniverse openingPolicy observed).Roomy := by
  have unknown := (openSession_constructed opening_artifacts).unobserved rfl
  refine ⟨small_integer (show 0 + 2 ≤ 100 by decide), fun c inside p pending => ?_⟩
  have empty := (BookSyncCursor.checkParts_none (unknown.2.2 c inside)).mp
    ((openSession_constructed opening_artifacts).bookParts c inside)
  rw [empty.2.pending] at pending
  cases pending

theorem scoreInput_encodes : Encodes scoreInput.py := by
  have one : 1 < integerBound := small_integer (by decide)
  have ten : 10 < integerBound := small_integer (by decide)
  simp [scoreInput, firstScore, openingSnapshot, openingMatch, openingScore, openingTimes,
    SynchronizationInput.py, clockInput, Encodes, EncodesFields, EncodesAll, SyncInputKind.py,
    ProviderEvent.py, ProviderSnapshot.py, ProviderSnapshot.fields, MatchIdentity.py, Score.py,
    EventTimes.py, MatchFormat.py, MatchStatus.py, TerminationKind.py, ScoreValue.py,
    PlayerSide.py, integerBound_pos, one, ten]

def openingClock : SyncCall := ⟨clockInput "match-1" "EV-1-H", openingNow⟩

/-- The first score of a match, after a clock call. -/
theorem session_invariant_opening :
    (∃ t, synchronize (opening.calls [openingClock]).1 scoreInput openingNow = .ok t ∧
        t.state.postInit = .ok ()) ∨
      synchronize (opening.calls [openingClock]).1 scoreInput openingNow = .error .drift := by
  have unobserved : ∀ o : PairedTimeObservation, none = some o → o.postInit = .ok () := by
    intro o observed
    cases observed
  obtain ⟨t, answer, state⟩ := openAt_clock opening_artifacts unobserved openingUniverse_encodes
    openingNow_constructed rfl
    (show firstPair ∈ openingUniverse.pairs by simp [openingUniverse, BindingUniverse.pairs])
  have reached : (opening.calls [openingClock]).1 =
      openAt openingUniverse openingPolicy (some openingNow) := by
    rw [← state]
    simp only [SynchronizationSessionState.calls, SynchronizationSessionState.call]
    rw [show synchronize opening openingClock.evidence openingClock.now = .ok t from answer]
  have constructed : ∀ o, some openingNow = some o → o.postInit = .ok () := by
    intro o observed
    exact Option.some.inj observed ▸ openingNow_constructed
  have encodable := openAt_encodes opening_artifacts constructed openingUniverse_encodes
  rw [← reached] at encodable
  exact session_invariant (fun pair member => (opening_startable pair member).constructed)
    opening_of_artifacts _ (by decide +kernel) openingNow_constructed encodable
    scoreInput_encodes (reached ▸ openAt_roomy)

end Inci.Sync
