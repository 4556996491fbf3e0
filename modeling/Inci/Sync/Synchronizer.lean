/-
# Sync.Synchronizer -- one input against the whole session

The functions of `synchronizer` in their order.  A helper that reads only the
policy or the digests of a session takes its frame.  Building a cursor, a session
or a result runs its constructor, and a failed constructor outside a `try` is the
error the step raises.
-/
import Inci.Market.Steps
import Inci.Sync.Results

namespace Inci.Sync

open Inci.Theory Inci.Expert Inci.Tennis Inci.Market Inci.Binding

set_option autoImplicit false

/-- `_drift()` -/
def drift {α : Type} : Except ExpertError α := .error .drift

/-! ## Constructors -/

/-- `_tennis_cursor` -/
def tennisCursor (cursor : TennisSyncCursor) : Except ExpertError TennisSyncCursor := do
  cursor.postInit
  pure cursor

/-- `_book_cursor` -/
def bookCursor (cursor : BookSyncCursor) : Except ExpertError BookSyncCursor := do
  cursor.postInit
  pure cursor

/-- `_session` -/
def session (state : SynchronizationSessionState) :
    Except ExpertError SynchronizationSessionState := do
  state.postInit
  pure state

def syncResult (result : SyncResult) : Except ExpertError SyncResult := do
  result.postInit
  pure result

/-- The result that emits nothing. -/
def withheld (matchId ticker : String) (reason : SyncReason) : Except ExpertError SyncResult :=
  syncResult ⟨matchId, ticker, none, none, reason⟩

def pendingBookMove (pending : PendingBookMove) : Except ExpertError PendingBookMove := do
  pending.postInit
  pure pending

/-- `_with_observation` -/
def withObservation (prior : SynchronizationSessionState) (observation : PairedTimeObservation) :
    Except ExpertError SynchronizationSessionState :=
  session { prior with lastObservation := some observation }

def replaceTennis (cursors : List TennisSyncCursor) (cursor : TennisSyncCursor) :
    List TennisSyncCursor :=
  cursors.map fun item => if item.canonicalMatchId = cursor.canonicalMatchId then cursor else item

def replaceBook (cursors : List BookSyncCursor) (cursor : BookSyncCursor) :
    List BookSyncCursor :=
  cursors.map fun item =>
    if item.canonicalMatchId = cursor.canonicalMatchId ∧ item.ticker = cursor.ticker then cursor
    else item

/-- `_replace_book_cursor` -/
def replaceBookCursor (state : SynchronizationSessionState) (cursor : BookSyncCursor) :
    Except ExpertError SynchronizationSessionState :=
  session { state with bookCursors := replaceBook state.bookCursors cursor }

/-! ## Selection -/

/-- `if len(matches) != 1: _drift()`, then `matches[0]`. -/
def theOnly {α : Type} : List α → Except ExpertError α
  | [item] => .ok item
  | _ => drift

/-- `_binding` -/
def selectedBinding (frame : SessionFrame) (canonicalMatchId : String) :
    Except ExpertError (MatchBinding × BindingMetadata) :=
  theOnly (frame.bindingUniverse.pairs.filter fun pair =>
    pair.1.canonicalMatchId = canonicalMatchId)

/-- `_selected_tennis_cursor` -/
def selectedTennisCursor (state : SynchronizationSessionState) (canonicalMatchId : String) :
    Except ExpertError TennisSyncCursor :=
  theOnly (state.tennisCursors.filter fun cursor => cursor.canonicalMatchId = canonicalMatchId)

/-- `_selected_book_cursor` -/
def selectedBookCursor (state : SynchronizationSessionState) (canonicalMatchId ticker : String) :
    Except ExpertError BookSyncCursor :=
  theOnly (state.bookCursors.filter fun cursor =>
    cursor.canonicalMatchId = canonicalMatchId ∧ cursor.ticker = ticker)

/-! ## The first session -/

/-- The tennis cursor of a match nothing is known about. -/
def firstTennisCursor (pair : MatchBinding × BindingMetadata) :
    Except ExpertError TennisSyncCursor := do
  let bindingSha256 ← expertContractSha256 pair.1.py
  let bindingMetadataSha256 ← expertContractSha256 pair.2.py
  tennisCursor
    { canonicalMatchId := pair.1.canonicalMatchId
      bindingSha256
      bindingMetadataSha256
      tennis := none
      lastStateSha256 := none
      lastInputSha256 := none
      lastPointWitness := none }

/-- The book cursor of a market nothing is known about. -/
def firstBookCursor (pair : MatchBinding × BindingMetadata) (ticker : String) :
    Except ExpertError BookSyncCursor := do
  let bindingSha256 ← expertContractSha256 pair.1.py
  let bindingMetadataSha256 ← expertContractSha256 pair.2.py
  bookCursor
    { canonicalMatchId := pair.1.canonicalMatchId
      ticker
      bindingSha256
      bindingMetadataSha256
      book := none
      lastStateSha256 := none
      lastInputSha256 := none
      pendingMove := none
      causalPointWitness := none
      consumedPointWitness := none
      lastEmission := none }

/-- `synchronization_session_from_artifacts` -/
def synchronizationSessionFromArtifacts (bindingUniverse : BindingUniverse) (policy : SyncPolicy) :
    Except ExpertError SynchronizationSessionState := do
  let universeSha256 ← recover (do
      let computed ← bindingUniverseSha256 bindingUniverse
      policy.postInit
      pure computed)
    ExpertError.isValueError .drift
  refuse (policy.universeSha256 ≠ universeSha256) .drift
  refuse ((bindingUniverse.bindings.map providerTriple).dedup.length ≠ 1) .drift
  let indexed ← collect (fun pair => do
      let metadata ← recover (bindingMetadataFor bindingUniverse pair.1)
        ExpertError.isValueError .drift
      refuse (metadata ≠ pair.2) .drift
      pure (pair.1, metadata)) bindingUniverse.pairs
  let tennisCursors ← collect firstTennisCursor (indexed.mergeSort fun a b =>
    decide (a.1.canonicalMatchId ≤ b.1.canonicalMatchId))
  let bookCursors ← collect (fun item => firstBookCursor item.1 item.2)
    (indexed.flatMap fun pair => [(pair, pair.1.homeMarketTicker), (pair, pair.1.awayMarketTicker)])
  let syncPolicySha256 ← expertContractSha256 policy.py
  session
    { bindingUniverse
      policy
      universeSha256
      syncPolicySha256
      decisionSequence := 0
      lastObservation := none
      tennisCursors
      bookCursors := bookCursors.mergeSort fun a b =>
        decide (toLex (a.canonicalMatchId, a.ticker) ≤ toLex (b.canonicalMatchId, b.ticker)) }

/-- `assert_synchronization_session_compatible` -/
def assertSynchronizationSessionCompatible (state : SynchronizationSessionState)
    (bindingUniverse : BindingUniverse) (policy : SyncPolicy) : Check :=
  recover (do
      bindingUniverse.postInit
      policy.postInit
      state.postInit
      let computed ← bindingUniverseSha256 bindingUniverse
      refuse (state.bindingUniverse ≠ bindingUniverse ∨ state.policy ≠ policy ∨
        state.universeSha256 ≠ computed) .drift
      let digest ← expertContractSha256 policy.py
      refuse (state.syncPolicySha256 ≠ digest ∨ policy.universeSha256 ≠ computed) .drift
      checkAll (fun pair => do
          let metadata ← bindingMetadataFor bindingUniverse pair.1
          refuse (metadata ≠ pair.2) .drift) bindingUniverse.pairs
      checkAll (fun cursor => checkSome validateTennisState cursor.tennis) state.tennisCursors
      checkAll (fun cursor => checkSome BookState.postInit cursor.book) state.bookCursors)
    ExpertError.isRuntimeError .drift

/-! ## Explanations -/

/-- `_point_identity` -/
def pointIdentity (w : CausalPointWitness) : String × Nat × Nat × String :=
  (w.canonicalMatchId, w.correctionEpoch, w.revision, w.eventSemanticSha256)

/-- The witness is a point of the state's epoch, not used before, that came no later
than the first move and no longer than the window before the last. -/
def explains (pending : PendingBookMove) (witness : CausalPointWitness)
    (consumed : Option CausalPointWitness) (tennis : TennisState) (policy : SyncPolicy) : Bool :=
  decide (¬(pending.tennisCorrectionEpochFloor = none ∨
    witness.canonicalMatchId ≠ pending.canonicalMatchId ∨
    witness.correctionEpoch ≠ tennis.correctionEpoch ∨
    (∃ used ∈ consumed, pointIdentity witness = pointIdentity used) ∨
    pending.firstMoveMonotonicNs < witness.receivedMonotonicNs ∨
    policy.explanationWindowNs + witness.receivedMonotonicNs < pending.lastMoveMonotonicNs))

/-- `_explain_pending`; there is no witness before there is a tennis state. -/
def explainPending (cursor : BookSyncCursor) (witness : Option CausalPointWitness)
    (tennis : Option TennisState) (policy : SyncPolicy) : Except ExpertError BookSyncCursor :=
  match cursor.pendingMove, witness, tennis with
  | some pending, some witness, some tennis =>
      if explains pending witness cursor.consumedPointWitness tennis policy then
        bookCursor { cursor with
          pendingMove := none
          causalPointWitness := some witness
          consumedPointWitness := some witness }
      else pure cursor
  | _, _, _ => pure cursor

/-! ## Evaluation -/

/-- `_BINDING_BLOCK_REASONS` -/
def bindingBlockReasons : List TennisTransitionReason :=
  [.identityMismatch, .sourceLineageMismatch, .revisionDomainMismatch, .formatMismatch]

/-- The clock conditions of `_block_reason`. -/
def clockUncertain (policy : SyncPolicy) (tennis : TennisState) (book : BookState)
    (observation : PairedTimeObservation) : Bool :=
  decide (observation.monotonicNs < tennis.lastReceivedMonotonicNs ∨
    observation.monotonicNs < book.bookObservedMonotonicNs ∨
    observation.monotonicNs < book.lifecycleObservedMonotonicNs ∨
    policy.maxClockUncertaintyNs < observation.clockUncertaintyNs ∨
    policy.maxClockUncertaintyNs < tennis.lastClockUncertaintyNs ∨
    policy.maxClockUncertaintyNs < book.bookClockUncertaintyNs ∨
    policy.maxClockUncertaintyNs < book.lifecycleClockUncertaintyNs ∨
    policy.maxScoreBookSkewNs <
      ((tennis.lastReceivedMonotonicNs : Int) - book.bookObservedMonotonicNs).natAbs)

/-- What `_block_reason` reads once both states are there. -/
def standingReason (policy : SyncPolicy) (tennis : TennisState) (book : BookState)
    (pendingMove : Option PendingBookMove) (observation : PairedTimeObservation) :
    Option SyncReason :=
  if ∃ reason ∈ tennis.blockReason, reason ∉ bindingBlockReasons ∧ reason ≠ .providerEventGap then
    some .correctionPending
  else if tennis.blockReason = some .providerEventGap ∨ book.sequenceGap = true then
    some .sequenceGap
  else if book.trusted = false then some .bookUntrusted
  else if tennis.status = .scheduled then some .matchNotStarted
  else if tennis.status = .suspended then some .matchSuspended
  else if tennis.status = .ended ∨ tennis.status = .cancelled then some .matchEnded
  else if book.marketStatus = .suspended then some .marketSuspended
  else if book.marketStatus = .preopen then some .marketNotOpen
  else if book.marketStatus = .closed ∨ book.marketStatus = .settled ∨
      book.marketStatus = .cancelled then some .marketEnded
  else if tennis.serverForNextPoint = none then some .unknownServer
  else if clockUncertain policy tennis book observation then some .clockUncertain
  else if tennis.lastReceivedMonotonicNs + policy.maxScoreAgeNs < observation.monotonicNs then
    some .scoreStale
  else if book.bookObservedMonotonicNs + policy.maxBookAgeNs < observation.monotonicNs then
    some .bookStale
  else if book.lifecycleObservedMonotonicNs + policy.maxLifecycleAgeNs <
      observation.monotonicNs then some .lifecycleStale
  else if book.yesBids = [] ∧ book.noBids = [] then some .bookNotExecutable
  else if book.scheduledCloseWallNs ≤ observation.wallNs ∨
      book.scheduledCloseWallNs < observation.wallNs + policy.minimumCloseHorizonNs then
    some .closeHorizonInsufficient
  else if pendingMove.isSome then some .unexplainedBookMove
  else none

/-- `_block_reason` -/
def blockReason (policy : SyncPolicy) (binding : MatchBinding) (tennis : Option TennisState)
    (cursor : BookSyncCursor) (observation : PairedTimeObservation) :
    Except ExpertError (Option SyncReason) :=
  match tennis with
  | none => pure (some .snapshotIncomplete)
  | some tennis =>
      if bindingDrift tennis binding = true ∨ ∃ r ∈ tennis.blockReason, r ∈ bindingBlockReasons then
        pure (some .bindingDrift)
      else
        match cursor.book with
        | none => pure (some .snapshotIncomplete)
        | some book => do
            validateTennisState tennis
            pure (standingReason policy tennis book cursor.pendingMove observation)

/-- `_fingerprint` -/
def fingerprint (frame : SessionFrame) (binding : MatchBinding) (metadata : BindingMetadata)
    (tennis : TennisState) (book : BookState) : Except ExpertError String :=
  synchronizationEmissionFingerprint frame.universeSha256 frame.syncPolicySha256 binding metadata
    tennis book

def trustedSnapshot (snapshot : TrustedSnapshot) : Except ExpertError TrustedSnapshot := do
  snapshot.postInit
  pure snapshot

/-- `_opportunity` -/
def opportunity (frame : SessionFrame) (binding : MatchBinding) (snapshot : TrustedSnapshot) :
    Except ExpertError OpportunityFrame := do
  let bindingSha256 ← expertContractSha256 binding.py
  let snapshotSha256 ← expertContractSha256 snapshot.py
  let opportunityId ← opportunityIdentity frame.universeSha256 { snapshot with binding }
    bindingSha256 snapshotSha256
  let built : OpportunityFrame :=
    { opportunityId
      universeSha256 := frame.universeSha256
      canonicalMatchId := binding.canonicalMatchId
      ticker := snapshot.book.ticker
      decisionSequence := snapshot.decisionSequence
      decisionTime := snapshot.decisionTime
      bindingSha256
      providerRevision := snapshot.tennis.revision
      bookConnectionEpoch := snapshot.book.connectionEpoch
      bookSequence := snapshot.book.sequence
      snapshotSha256
      snapshot }
  built.postInit
  pure built

def lastSyncEmission (emission : LastSyncEmission) : Except ExpertError LastSyncEmission := do
  emission.postInit
  pure emission

/-- The state was emitted already: same provider position and event, same book position. -/
def alreadyEmitted (prior : LastSyncEmission) (tennis : TennisState) (book : BookState) : Bool :=
  decide (tennisCoordinates tennis = prior.provider ∧
    tennis.lastEventSemanticSha256 = prior.providerEventSemanticSha256 ∧
    bookCoordinates book = prior.book)

/-- `_evaluate` -/
def evaluate (state : SynchronizationSessionState) (binding : MatchBinding)
    (metadata : BindingMetadata) (ticker : String) (observation : PairedTimeObservation) :
    Except ExpertError (SynchronizationSessionState × SyncResult) := do
  let matchId := binding.canonicalMatchId
  let tennisCursor ← selectedTennisCursor state matchId
  let cursor ← selectedBookCursor state matchId ticker
  match ← blockReason state.policy binding tennisCursor.tennis cursor observation with
  | some reason => do
      let result ← withheld matchId ticker reason
      pure (state, result)
  | none =>
      match tennisCursor.tennis, cursor.book with
      | some tennis, some book => do
          let fingerprint ← fingerprint state.toSessionFrame binding metadata tennis book
          if ∃ prior ∈ cursor.lastEmission, alreadyEmitted prior tennis book = true then do
            let result ← withheld matchId ticker .duplicateStateSuppressed
            pure (state, result)
          else do
            refuse (∃ prior ∈ cursor.lastEmission, fingerprint = prior.fingerprintSha256) .drift
            let decisionSequence := state.decisionSequence + 1
            let snapshot ← trustedSnapshot
              { decisionSequence
                decisionTime := observation
                tennis
                book
                binding
                syncPolicySha256 := state.syncPolicySha256
                causalProviderRevision :=
                  cursor.causalPointWitness.map CausalPointWitness.revision }
            let opportunity ← opportunity state.toSessionFrame binding snapshot
            let emission ← lastSyncEmission
              { fingerprintSha256 := fingerprint
                providerCorrectionEpoch := tennis.correctionEpoch
                providerRevision := tennis.revision
                providerEventSemanticSha256 := tennis.lastEventSemanticSha256
                bookConnectionEpoch := book.connectionEpoch
                bookSequence := book.sequence }
            let emittedCursor ← bookCursor { cursor with lastEmission := some emission }
            let emitted ← session { state with
              decisionSequence
              bookCursors := replaceBook state.bookCursors emittedCursor }
            let result ← syncResult
              ⟨matchId, ticker, some snapshot, some opportunity, .trustedSynchronized⟩
            pure (emitted, result)
      | _, _ => .error .assertion

/-- `_results_for_tickers` -/
def resultsForTickers (binding : MatchBinding) (metadata : BindingMetadata)
    (observation : PairedTimeObservation) : SynchronizationSessionState → List String →
    Except ExpertError (SynchronizationSessionState × List SyncResult)
  | state, [] => pure (state, [])
  | state, ticker :: rest => do
      let (next, result) ← evaluate state binding metadata ticker observation
      let (last, results) ← resultsForTickers binding metadata observation next rest
      pure (last, result :: results)

/-- `_transition` -/
def transition (prior state : SynchronizationSessionState) (evidence : SynchronizationInput)
    (observation : PairedTimeObservation) (results : List SyncResult) :
    Except ExpertError SynchronizationTransitionResult := do
  let inputSha256 ← expertContractSha256 evidence.py
  let priorSessionSha256 ← expertContractSha256 prior.py
  let result : SynchronizationTransitionResult :=
    { state
      input := evidence
      inputSha256
      priorSessionSha256
      priorDecisionSequence := prior.decisionSequence
      observation
      results }
  result.postInit
  pure result

/-! ## Pending moves -/

/-- `_new_pending` -/
def newPending (cursor : BookSyncCursor) (transition : BookTransitionResult)
    (tennis : Option TennisState) : Except ExpertError PendingBookMove :=
  match transition.moveObservedMonotonicNs, transition.acceptedEventSha256 with
  | some observed, some digest => pendingBookMove
      { canonicalMatchId := cursor.canonicalMatchId
        ticker := cursor.ticker
        firstMoveMonotonicNs := observed
        lastMoveMonotonicNs := observed
        firstConnectionEpoch := transition.connectionEpoch
        firstSequence := transition.sequence
        firstEventSha256 := digest
        lastConnectionEpoch := transition.connectionEpoch
        lastSequence := transition.sequence
        lastEventSha256 := digest
        moveCount := 1
        maxMagnitude := transition.executableMove
        tennisCorrectionEpochFloor := tennis.map fun t => t.correctionEpoch
        bookConnectionEpochFloor := transition.connectionEpoch }
  | _, _ => .error .assertion

/-- `_extended_pending` -/
def extendedPending (pending : PendingBookMove) (transition : BookTransitionResult) :
    Except ExpertError PendingBookMove :=
  match transition.moveObservedMonotonicNs, transition.acceptedEventSha256 with
  | some observed, some digest => pendingBookMove { pending with
      lastMoveMonotonicNs := observed
      lastConnectionEpoch := transition.connectionEpoch
      lastSequence := transition.sequence
      lastEventSha256 := digest
      moveCount := pending.moveCount + 1
      maxMagnitude := max pending.maxMagnitude transition.executableMove }
  | _, _ => .error .assertion

/-- `_paired_reset` -/
def pairedReset (pending : PendingBookMove) (tennis : Option TennisState) (book : BookState) :
    Bool :=
  match tennis, pending.tennisCorrectionEpochFloor with
  | some tennis, some floor => decide (floor < tennis.correctionEpoch ∧
      pending.bookConnectionEpochFloor < book.connectionEpoch ∧
      pending.lastMoveMonotonicNs ≤ tennis.lastReceivedMonotonicNs ∧
      pending.lastMoveMonotonicNs ≤ book.bookObservedMonotonicNs)
  | _, _ => false

/-! ## Tennis inputs -/

/-- The origin's correction epoch becomes the floor of a move that has none;
`_pending_with_floor` builds it. -/
def withFloor (matchId : String) (epoch : Nat) (cursor : BookSyncCursor) :
    Except ExpertError BookSyncCursor :=
  match cursor.pendingMove with
  | some pending =>
      if cursor.canonicalMatchId = matchId ∧ pending.tennisCorrectionEpochFloor = none then do
        let floored ← pendingBookMove { pending with tennisCorrectionEpochFloor := some epoch }
        bookCursor { cursor with pendingMove := some floored }
      else pure cursor
  | none => pure cursor

/-- `_ingest_tennis_origin` -/
def ingestTennisOrigin (state : SynchronizationSessionState) (binding : MatchBinding)
    (metadata : BindingMetadata) (evidence : SynchronizationInput)
    (observation : PairedTimeObservation) :
    Except ExpertError (SynchronizationSessionState × List SyncResult) := do
  let cursor ← selectedTennisCursor state binding.canonicalMatchId
  refuse (cursor.tennis.isSome) .drift
  match evidence.providerEvent with
  | some (.snapshot event) => do
      refuse (event.snapshotComplete = false) .drift
      let tennis ← recover (do
          let tennis ← stateFromSnapshot event
          validateTennisState tennis
          pure tennis)
        ExpertError.isRuntimeError .drift
      if bindingDrift tennis binding then do
        let results ← collect (withheld binding.canonicalMatchId · .bindingDrift)
          (sortedTickers binding)
        pure (state, results)
      else do
        let inputSha256 ← expertContractSha256 evidence.py
        let stateSha256 ← expertContractSha256 tennis.py
        let updatedCursor ← tennisCursor { cursor with
          tennis := some tennis
          lastStateSha256 := some stateSha256
          lastInputSha256 := some inputSha256
          lastPointWitness := none }
        let updatedBooks ← collect (withFloor binding.canonicalMatchId tennis.correctionEpoch)
          state.bookCursors
        let updated ← session { state with
          tennisCursors := replaceTennis state.tennisCursors updatedCursor
          bookCursors := updatedBooks }
        resultsForTickers binding metadata observation updated (sortedTickers binding)
  | _ => drift

/-- The machine's answer to a provider event. -/
def applyProviderEvent (tennis : TennisState) :
    ProviderEvent → Except ExpertError TennisTransitionResult
  | .point event => applyPoint tennis event
  | .lifecycle event => applyLifecycle tennis event
  | .snapshot event => applyCorrection tennis event

/-- The witness an applied point leaves. -/
def pointWitness (matchId : String) (event : ProviderEvent) (recomputed : TennisTransitionResult) :
    Except ExpertError (Option CausalPointWitness) :=
  match event with
  | .point _ =>
      if recomputed.disposition = .applied ∧ recomputed.reason = .pointApplied then do
        let witness : CausalPointWitness :=
          { canonicalMatchId := matchId
            correctionEpoch := recomputed.state.correctionEpoch
            revision := recomputed.state.revision
            eventSemanticSha256 := recomputed.eventSemanticSha256
            receivedMonotonicNs := recomputed.state.lastReceivedMonotonicNs }
        witness.postInit
        pure (some witness)
      else pure none
  | _ => pure none

/-- `applied_correction` -/
def appliedCorrection (event : ProviderEvent) (recomputed : TennisTransitionResult) : Bool :=
  event.isSnapshot && decide (recomputed.disposition = .applied ∧
    recomputed.reason = .correctionApplied)

/-- The book cursor of the match after a tennis transition. -/
def afterTennis (matchId : String) (applied : Bool) (witness : Option CausalPointWitness)
    (tennis : TennisState) (policy : SyncPolicy) (cursor : BookSyncCursor) :
    Except ExpertError BookSyncCursor :=
  if cursor.canonicalMatchId ≠ matchId then pure cursor
  else do
    let copied ← bookCursor { cursor with
      causalPointWitness := if applied then none else cursor.causalPointWitness }
    explainPending copied witness (some tennis) policy

/-- `_ingest_tennis_transition` -/
def ingestTennisTransition (state : SynchronizationSessionState) (binding : MatchBinding)
    (metadata : BindingMetadata) (evidence : SynchronizationInput)
    (observation : PairedTimeObservation) :
    Except ExpertError (SynchronizationSessionState × List SyncResult) := do
  let cursor ← selectedTennisCursor state binding.canonicalMatchId
  match cursor.tennis, evidence.providerEvent with
  | some prior, some event => do
      refuse (evidence.previousStateSha256 ≠ cursor.lastStateSha256) .drift
      let recomputed ← recover (do
          let recomputed ← applyProviderEvent prior event
          refuse (some recomputed ≠ evidence.tennisTransition) .drift
          validateTennisState recomputed.state
          pure recomputed)
        ExpertError.isRuntimeError .drift
      let matchId := binding.canonicalMatchId
      let newPointWitness ← pointWitness matchId event recomputed
      let applied := appliedCorrection event recomputed
      let witness := if applied then none else newPointWitness <|> cursor.lastPointWitness
      let stateSha256 ← expertContractSha256 recomputed.state.py
      let inputSha256 ← expertContractSha256 evidence.py
      let updatedCursor ← tennisCursor { cursor with
        tennis := some recomputed.state
        lastStateSha256 := some stateSha256
        lastInputSha256 := some inputSha256
        lastPointWitness := witness }
      let updatedBooks ← collect
        (afterTennis matchId applied newPointWitness recomputed.state state.policy)
        state.bookCursors
      let updated ← session { state with
        tennisCursors := replaceTennis state.tennisCursors updatedCursor
        bookCursors := updatedBooks }
      resultsForTickers binding metadata observation updated (sortedTickers binding)
  | _, _ => drift

/-! ## Book inputs -/

/-- The book operation an event asks for; a book starts with a snapshot. -/
def applyBookEvent (cursor : BookSyncCursor) (previousStateSha256 : Option String)
    (event : BookEvent) : Except ExpertError BookTransitionResult :=
  match cursor.book, event with
  | none, .snapshot snapshot => do
      refuse (previousStateSha256.isSome) .drift
      bookFromSnapshot snapshot
  | none, _ => drift
  | some book, event => do
      refuse (previousStateSha256 ≠ cursor.lastStateSha256) .drift
      match event with
      | .snapshot snapshot => applyBookSnapshot book snapshot
      | .delta delta => applyBookDelta book delta
      | .lifecycle lifecycle => applyMarketLifecycle book lifecycle

/-- An accepted snapshot or delta that moved the market by the threshold or more. -/
def largeMove (policy : SyncPolicy) (recomputed : BookTransitionResult) : Bool :=
  decide ((recomputed.acceptedEventKind = some .snapshot ∨
      recomputed.acceptedEventKind = some .delta) ∧
    0 < recomputed.executableMove ∧ policy.largeBookMoveThreshold ≤ recomputed.executableMove)

/-- The pending move an accepted snapshot leaves: none after a paired reset. -/
def pendingAfter (cursor : BookSyncCursor) (event : BookEvent) (tennis : Option TennisState)
    (recomputed : BookTransitionResult) : Option PendingBookMove :=
  match cursor.pendingMove with
  | some pending =>
      if cursor.book.isSome ∧ event.isSnapshot = true ∧
          recomputed.acceptedEventKind = some .snapshot ∧
          pairedReset pending tennis recomputed.state = true then none
      else some pending
  | none => none

/-- A burst of large moves starts or grows. -/
def grownPending (tennisCursor : TennisSyncCursor) (cursor : BookSyncCursor)
    (recomputed : BookTransitionResult) : Except ExpertError PendingBookMove :=
  match cursor.pendingMove with
  | none => newPending cursor recomputed tennisCursor.tennis
  | some pending => extendedPending pending recomputed

/-- The cursor after a large move, which may be explained at once. -/
def recordMove (policy : SyncPolicy) (tennisCursor : TennisSyncCursor) (cursor : BookSyncCursor)
    (recomputed : BookTransitionResult) : Except ExpertError BookSyncCursor := do
  let pending ← grownPending tennisCursor cursor recomputed
  let moved ← bookCursor { cursor with
    pendingMove := some pending
    causalPointWitness := none }
  explainPending moved tennisCursor.lastPointWitness tennisCursor.tennis policy

/-- The first book of a cursor moves nothing. -/
def recordIfLarge (policy : SyncPolicy) (tennisCursor : TennisSyncCursor)
    (cursor acceptedCursor : BookSyncCursor) (recomputed : BookTransitionResult) :
    Except ExpertError BookSyncCursor :=
  if cursor.book.isSome ∧ largeMove policy recomputed = true then
    recordMove policy tennisCursor acceptedCursor recomputed
  else pure acceptedCursor

/-- `_ingest_book_transition` -/
def ingestBookTransition (state : SynchronizationSessionState) (binding : MatchBinding)
    (metadata : BindingMetadata) (evidence : SynchronizationInput) (ticker : String)
    (observation : PairedTimeObservation) :
    Except ExpertError (SynchronizationSessionState × List SyncResult) := do
  let matchId := binding.canonicalMatchId
  let cursor ← selectedBookCursor state matchId ticker
  match evidence.bookEvent with
  | none => drift
  | some event => do
      let recomputed ← recover (do
          let recomputed ← applyBookEvent cursor evidence.previousStateSha256 event
          refuse (some recomputed ≠ evidence.bookTransition) .drift
          pure recomputed)
        ExpertError.isRuntimeError .drift
      let tennisCursor ← selectedTennisCursor state matchId
      let stateSha256 ← expertContractSha256 recomputed.state.py
      let inputSha256 ← expertContractSha256 evidence.py
      let acceptedCursor ← bookCursor { cursor with
        book := some recomputed.state
        lastStateSha256 := some stateSha256
        lastInputSha256 := some inputSha256
        pendingMove := pendingAfter cursor event tennisCursor.tennis recomputed }
      let recorded ← recordIfLarge state.policy tennisCursor cursor acceptedCursor recomputed
      let updated ← replaceBookCursor state recorded
      resultsForTickers binding metadata observation updated [ticker]

/-- `_ingest_resnapshot_required` -/
def ingestResnapshotRequired (state : SynchronizationSessionState) (binding : MatchBinding)
    (metadata : BindingMetadata) (evidence : SynchronizationInput) (ticker : String)
    (observation : PairedTimeObservation) :
    Except ExpertError (SynchronizationSessionState × List SyncResult) := do
  let cursor ← selectedBookCursor state binding.canonicalMatchId ticker
  match cursor.book with
  | none => drift
  | some book => do
      refuse (evidence.previousStateSha256 ≠ cursor.lastStateSha256) .drift
      let required ← recover (requireBookResnapshot book) ExpertError.isRuntimeError .drift
      refuse (some required ≠ evidence.bookResnapshotState) .drift
      let stateSha256 ← expertContractSha256 required.py
      let inputSha256 ← expertContractSha256 evidence.py
      let updatedCursor ← bookCursor { cursor with
        book := some required
        lastStateSha256 := some stateSha256
        lastInputSha256 := some inputSha256 }
      let updated ← replaceBookCursor state updatedCursor
      resultsForTickers binding metadata observation updated [ticker]

/-! ## Synchronization -/

/-- The observation is earlier than the session's last one. -/
def observationRegresses (state : SynchronizationSessionState) (now : PairedTimeObservation) :
    Bool :=
  decide (∃ last ∈ state.lastObservation,
    now.monotonicNs < last.monotonicNs ∨ now.wallNs < last.wallNs)

/-- The step of `synchronize` on the session that carries the new observation. -/
def ingest (state : SynchronizationSessionState) (binding : MatchBinding)
    (metadata : BindingMetadata) (evidence : SynchronizationInput) (now : PairedTimeObservation) :
    Except ExpertError (SynchronizationSessionState × List SyncResult) :=
  match evidence.kind, evidence.ticker with
  | .tennisOrigin, _ => ingestTennisOrigin state binding metadata evidence now
  | .tennisTransition, _ => ingestTennisTransition state binding metadata evidence now
  | _, none => .error .assertion
  | kind, some ticker =>
      if ticker ≠ binding.homeMarketTicker ∧ ticker ≠ binding.awayMarketTicker then do
        let result ← withheld binding.canonicalMatchId ticker .contractMismatch
        pure (state, [result])
      else
        match kind with
        | .bookTransition => ingestBookTransition state binding metadata evidence ticker now
        | .bookResnapshotRequired =>
            ingestResnapshotRequired state binding metadata evidence ticker now
        | _ => resultsForTickers binding metadata now state [ticker]

/-- `synchronize` -/
def synchronize (state : SynchronizationSessionState) (evidence : SynchronizationInput)
    (now : PairedTimeObservation) : Except ExpertError SynchronizationTransitionResult := do
  assertSynchronizationSessionCompatible state state.bindingUniverse state.policy
  recover now.postInit ExpertError.isValueError .drift
  refuse (observationRegresses state now = true) .drift
  recover evidence.postInit ExpertError.isValueError .drift
  let (binding, metadata) ← selectedBinding state.toSessionFrame evidence.canonicalMatchId
  let observed ← withObservation state now
  let (last, results) ← ingest observed binding metadata evidence now
  transition state last evidence now results

end Inci.Sync
