/-
# Sync.Results -- inputs, trusted snapshots and transitions

What goes into the synchronizer and what comes out of it.  An input carries the
event with the transition its sender computed; a trusted result carries the
snapshot and the opportunity sealed over it; the transition result re-checks the
whole step it reports.
-/
import Inci.Sync.Contracts

namespace Inci.Sync

open Inci.Theory Inci.Expert Inci.Tennis Inci.Market Inci.Binding

set_option autoImplicit false

/-! ## Inputs -/

inductive ProviderEvent where
  | snapshot (event : ProviderSnapshot)
  | point (event : ProviderPoint)
  | lifecycle (event : ProviderLifecycle)
  deriving DecidableEq

def ProviderEvent.postInit : ProviderEvent → Check
  | .snapshot event => event.postInit
  | .point event => event.postInit
  | .lifecycle event => event.postInit

def ProviderEvent.py : ProviderEvent → PyValue
  | .snapshot event => event.py
  | .point event => event.py
  | .lifecycle event => event.py

def ProviderEvent.isSnapshot : ProviderEvent → Bool
  | .snapshot _ => true
  | _ => false

inductive BookEvent where
  | snapshot (event : BookSnapshot)
  | delta (event : BookDelta)
  | lifecycle (event : MarketLifecycle)
  deriving DecidableEq

def BookEvent.ticker : BookEvent → String
  | .snapshot event => event.ticker
  | .delta event => event.ticker
  | .lifecycle event => event.ticker

def BookEvent.postInit : BookEvent → Check
  | .snapshot event => event.postInit
  | .delta event => event.postInit
  | .lifecycle event => event.postInit

def BookEvent.py : BookEvent → PyValue
  | .snapshot event => event.py
  | .delta event => event.py
  | .lifecycle event => event.py

def BookEvent.isSnapshot : BookEvent → Bool
  | .snapshot _ => true
  | _ => false

structure SynchronizationInput where
  kind : SyncInputKind
  canonicalMatchId : String
  ticker : Option String
  previousStateSha256 : Option String
  providerEvent : Option ProviderEvent
  tennisTransition : Option TennisTransitionResult
  bookEvent : Option BookEvent
  bookTransition : Option BookTransitionResult
  bookResnapshotState : Option BookState
  deriving DecidableEq

/-- Which parts an input of each kind has. -/
def SynchronizationInput.validShape (self : SynchronizationInput) : Bool :=
  match self.kind with
  | .tennisOrigin => decide (self.ticker = none ∧ self.previousStateSha256 = none ∧
      (∃ event ∈ self.providerEvent, event.isSnapshot = true) ∧
      self.tennisTransition = none ∧ self.bookEvent = none ∧ self.bookTransition = none ∧
      self.bookResnapshotState = none)
  | .tennisTransition => decide (self.ticker = none ∧ self.previousStateSha256.isSome ∧
      self.providerEvent.isSome ∧ self.tennisTransition.isSome ∧ self.bookEvent = none ∧
      self.bookTransition = none ∧ self.bookResnapshotState = none)
  | .bookTransition => decide (self.ticker.isSome ∧
      (self.previousStateSha256.isSome ∨ ∃ event ∈ self.bookEvent, event.isSnapshot = true) ∧
      self.providerEvent = none ∧ self.tennisTransition = none ∧ self.bookEvent.isSome ∧
      self.bookResnapshotState = none)
  | .bookResnapshotRequired => decide (self.ticker.isSome ∧ self.previousStateSha256.isSome ∧
      self.providerEvent = none ∧ self.tennisTransition = none ∧ self.bookEvent = none ∧
      self.bookTransition = none ∧ self.bookResnapshotState.isSome)
  | .clock => decide (self.ticker.isSome ∧ self.previousStateSha256 = none ∧
      self.providerEvent = none ∧ self.tennisTransition = none ∧ self.bookEvent = none ∧
      self.bookTransition = none ∧ self.bookResnapshotState = none)

/-- Every ticker the input mentions. -/
def SynchronizationInput.tickers (self : SynchronizationInput) : List String :=
  self.ticker.toList ++ (self.bookEvent.map BookEvent.ticker).toList ++
    (self.bookTransition.map fun r => r.state.ticker).toList ++
    (self.bookResnapshotState.map BookState.ticker).toList

def SynchronizationInput.postInit (self : SynchronizationInput) : Check := do
  safeId self.canonicalMatchId "canonical_match_id"
  checkSome (Expert.ticker · "ticker") self.ticker
  checkSome (sha256 · "previous_state_sha256") self.previousStateSha256
  refuse (self.validShape = false) (.contract "synchronization_input_shape")
  refuse (1 < self.tickers.dedup.length) (.contract "synchronization_input_ticker")
  checkSome ProviderEvent.postInit self.providerEvent
  checkSome TennisTransitionResult.postInit self.tennisTransition
  checkSome (fun r => r.state.postInit) self.tennisTransition
  checkSome BookEvent.postInit self.bookEvent
  checkSome BookTransitionResult.postInit self.bookTransition
  checkSome (fun r => r.state.postInit) self.bookTransition
  checkSome BookState.postInit self.bookResnapshotState

def SynchronizationInput.py (i : SynchronizationInput) : PyValue :=
  .contract "SynchronizationInput" [
    ("kind", i.kind.py), ("canonical_match_id", .text i.canonicalMatchId),
    ("ticker", .option .text i.ticker),
    ("previous_state_sha256", .option .text i.previousStateSha256),
    ("provider_event", .option ProviderEvent.py i.providerEvent),
    ("tennis_transition", .option TennisTransitionResult.py i.tennisTransition),
    ("book_event", .option BookEvent.py i.bookEvent),
    ("book_transition", .option BookTransitionResult.py i.bookTransition),
    ("book_resnapshot_state", .option BookState.py i.bookResnapshotState)]

/-! ## Trusted snapshots -/

structure TrustedSnapshot where
  decisionSequence : Nat
  decisionTime : PairedTimeObservation
  tennis : TennisState
  book : BookState
  binding : MatchBinding
  syncPolicySha256 : String
  causalProviderRevision : Option Nat
  deriving DecidableEq

/-- `_binding_drift`: the state is not of the match the binding names. -/
def bindingDrift (tennis : TennisState) (binding : MatchBinding) : Bool :=
  decide (tennis.providerMatchId ≠ binding.providerMatchId ∨
    tennis.homePlayerId ≠ binding.providerHomePlayerId ∨
    tennis.awayPlayerId ≠ binding.providerAwayPlayerId ∨
    tennis.providerSourceId ≠ binding.providerSourceId ∨
    tennis.revisionDomainId ≠ binding.revisionDomainId ∨
    tennis.sourceLineageSha256 ≠ binding.sourceLineageSha256 ∨
    tennis.matchFormat ≠ binding.matchFormat ∨
    tennis.scheduledStartWallNs ≠ binding.scheduledStartWallNs)

def TrustedSnapshot.postInit (self : TrustedSnapshot) : Check := do
  positiveInteger self.decisionSequence "decision_sequence"
  sha256 self.syncPolicySha256 "sync_policy_sha256"
  match self.causalProviderRevision with
  | none => .ok ()
  | some revision => do
      integer revision "causal_provider_revision"
      refuse (self.tennis.revision < revision) (.contract "causal_provider_revision")
  refuse (bindingDrift self.tennis self.binding = true) (.contract "binding_mismatch")
  refuse (self.book.ticker ≠ self.binding.homeMarketTicker ∧
    self.book.ticker ≠ self.binding.awayMarketTicker) (.contract "book_ticker")
  refuse (self.tennis.snapshotComplete = false ∨ self.tennis.blockReason.isSome ∨
    self.tennis.status ≠ .live ∨ self.tennis.serverForNextPoint.isNone ∨
    self.tennis.winner.isSome ∨ self.tennis.retiredSide.isSome) (.contract "tennis_untrusted")
  refuse (self.book.trusted = false ∨ self.book.sequenceGap = true ∨
    self.book.marketStatus ≠ .open ∨ (self.book.yesBids = [] ∧ self.book.noBids = []))
    (.contract "book_untrusted")
  refuse (self.decisionTime.monotonicNs < max (max self.tennis.lastReceivedMonotonicNs
    self.book.bookObservedMonotonicNs) self.book.lifecycleObservedMonotonicNs)
    (.contract "decision_time")
  refuse (self.book.scheduledCloseWallNs ≤ self.decisionTime.wallNs) (.contract "decision_time")

def TrustedSnapshot.py (s : TrustedSnapshot) : PyValue := .contract "TrustedSnapshot" [
  ("decision_sequence", .nat s.decisionSequence), ("decision_time", s.decisionTime.py),
  ("tennis", s.tennis.py), ("book", s.book.py), ("binding", s.binding.py),
  ("sync_policy_sha256", .text s.syncPolicySha256),
  ("causal_provider_revision", .option .nat s.causalProviderRevision)]

structure OpportunityFrame where
  opportunityId : String
  universeSha256 : String
  canonicalMatchId : String
  ticker : String
  decisionSequence : Nat
  decisionTime : PairedTimeObservation
  bindingSha256 : String
  providerRevision : Nat
  bookConnectionEpoch : Nat
  bookSequence : Nat
  snapshotSha256 : String
  snapshot : TrustedSnapshot
  deriving DecidableEq

/-- The digest that identifies an opportunity. -/
def opportunityIdentity (universeSha256 : String) (snapshot : TrustedSnapshot)
    (bindingSha256 snapshotSha256 : String) : Except ExpertError String :=
  domainSha256 "INCI-OPPORTUNITY-ID-V1" (.dict [
    ("universe_sha256", .text universeSha256),
    ("canonical_match_id", .text snapshot.binding.canonicalMatchId),
    ("ticker", .text snapshot.book.ticker),
    ("decision_sequence", .nat snapshot.decisionSequence),
    ("decision_time", snapshot.decisionTime.py), ("binding_sha256", .text bindingSha256),
    ("provider_revision", .nat snapshot.tennis.revision),
    ("book_connection_epoch", .nat snapshot.book.connectionEpoch),
    ("book_sequence", .nat snapshot.book.sequence),
    ("snapshot_sha256", .text snapshotSha256)])

def OpportunityFrame.postInit (self : OpportunityFrame) : Check := do
  sha256 self.opportunityId "opportunity_id"
  sha256 self.universeSha256 "universe_sha256"
  safeId self.canonicalMatchId "canonical_match_id"
  Expert.ticker self.ticker "ticker"
  positiveInteger self.decisionSequence "decision_sequence"
  sha256 self.bindingSha256 "binding_sha256"
  integer self.providerRevision "provider_revision"
  integer self.bookConnectionEpoch "book_connection_epoch"
  positiveInteger self.bookSequence "book_sequence"
  sha256 self.snapshotSha256 "snapshot_sha256"
  let bindingDigest ← expertContractSha256 self.snapshot.binding.py
  let snapshotDigest ← expertContractSha256 self.snapshot.py
  refuse (self.canonicalMatchId ≠ self.snapshot.binding.canonicalMatchId ∨
    self.ticker ≠ self.snapshot.book.ticker ∨
    self.decisionSequence ≠ self.snapshot.decisionSequence ∨
    self.decisionTime ≠ self.snapshot.decisionTime ∨ self.bindingSha256 ≠ bindingDigest ∨
    self.providerRevision ≠ self.snapshot.tennis.revision ∨
    self.bookConnectionEpoch ≠ self.snapshot.book.connectionEpoch ∨
    self.bookSequence ≠ self.snapshot.book.sequence ∨ self.snapshotSha256 ≠ snapshotDigest)
    (.contract "opportunity_snapshot_mismatch")
  let expected ← opportunityIdentity self.universeSha256 self.snapshot bindingDigest snapshotDigest
  refuse (self.opportunityId ≠ expected) (.contract "opportunity_id")

/-! ## Results -/

structure SyncResult where
  canonicalMatchId : String
  ticker : String
  snapshot : Option TrustedSnapshot
  opportunity : Option OpportunityFrame
  reason : SyncReason
  deriving DecidableEq

/-- The constructor checks of a snapshot and of what it holds. -/
def TrustedSnapshot.checkParts (self : TrustedSnapshot) : Check := do
  self.decisionTime.postInit
  self.tennis.postInit
  self.book.postInit
  self.binding.postInit
  self.postInit

def SyncResult.postInit (self : SyncResult) : Check := do
  safeId self.canonicalMatchId "canonical_match_id"
  Expert.ticker self.ticker "ticker"
  refuse (¬(self.reason = .trustedSynchronized ↔
      self.snapshot.isSome ∧ self.opportunity.isSome) ∨
    (self.reason ≠ .trustedSynchronized ∧ (self.snapshot.isSome ∨ self.opportunity.isSome)))
    (.contract "sync_result_shape")
  match self.snapshot, self.opportunity with
  | some snapshot, some opportunity => do
      recover (do
          snapshot.checkParts
          opportunity.postInit)
        ExpertError.isValueError (.contract "sync_result_snapshot")
      refuse (snapshot.binding.canonicalMatchId ≠ self.canonicalMatchId ∨
        snapshot.book.ticker ≠ self.ticker ∨
        opportunity.canonicalMatchId ≠ self.canonicalMatchId ∨
        opportunity.ticker ≠ self.ticker ∨ opportunity.snapshot ≠ snapshot)
        (.contract "sync_result_snapshot")
  | _, _ => .ok ()

/-- `_synchronization_emission_fingerprint` -/
def synchronizationEmissionFingerprint (universeSha256 syncPolicySha256 : String)
    (binding : MatchBinding) (bindingMetadata : BindingMetadata) (tennis : TennisState)
    (book : BookState) : Except ExpertError String := do
  sha256 universeSha256 "universe_sha256"
  sha256 syncPolicySha256 "sync_policy_sha256"
  let bindingSha256 ← expertContractSha256 binding.py
  let bindingMetadataSha256 ← expertContractSha256 bindingMetadata.py
  domainSha256 "INCI-SYNC-EMISSION-FINGERPRINT-V1" (.dict [
    ("schema", .text "synchronization_emission_fingerprint_v1"),
    ("universe_sha256", .text universeSha256), ("sync_policy_sha256", .text syncPolicySha256),
    ("binding_sha256", .text bindingSha256),
    ("binding_metadata_sha256", .text bindingMetadataSha256),
    ("provider_source_id", .text tennis.providerSourceId),
    ("revision_domain_id", .text tennis.revisionDomainId),
    ("source_lineage_sha256", .text tennis.sourceLineageSha256),
    ("provider_correction_epoch", .nat tennis.correctionEpoch),
    ("provider_revision", .nat tennis.revision),
    ("provider_event_semantic_sha256", .text tennis.lastEventSemanticSha256),
    ("ticker", .text book.ticker), ("book_connection_epoch", .nat book.connectionEpoch),
    ("book_sequence", .nat book.sequence), ("book_event_sha256", .text book.lastEventSha256)])

/-! ## Transitions -/

structure SynchronizationTransitionResult where
  state : SynchronizationSessionState
  input : SynchronizationInput
  inputSha256 : String
  priorSessionSha256 : String
  priorDecisionSequence : Nat
  observation : PairedTimeObservation
  results : List SyncResult
  deriving DecidableEq

/-- The results that were emitted. -/
def trustedResults (results : List SyncResult) : List SyncResult :=
  results.filter fun r => r.reason = .trustedSynchronized

/-- The two tickers of a binding in sorted order. -/
def sortedTickers (binding : MatchBinding) : List String :=
  [binding.homeMarketTicker, binding.awayMarketTicker].mergeSort fun a b => decide (a ≤ b)

/-- The results are of the tickers the input is about. -/
def SynchronizationTransitionResult.validResults (self : SynchronizationTransitionResult)
    (bindingPairs : List (MatchBinding × BindingMetadata)) : Bool :=
  match self.input.kind with
  | .tennisOrigin | .tennisTransition =>
      decide (bindingPairs.length = 1 ∧ self.results.length = 2 ∧
        (∀ r ∈ self.results, r.canonicalMatchId = self.input.canonicalMatchId) ∧
        ∀ pair ∈ bindingPairs, self.results.map SyncResult.ticker = sortedTickers pair.1)
  | _ =>
      decide (bindingPairs.length = 1 ∧ self.results.length = 1 ∧
        ∀ r ∈ self.results, r.canonicalMatchId = self.input.canonicalMatchId ∧
          some r.ticker = self.input.ticker)

/-- A trusted result against the cursors it was emitted from. -/
def SynchronizationTransitionResult.checkTrusted (self : SynchronizationTransitionResult)
    (pair : MatchBinding × BindingMetadata) (tennisMatches : List TennisSyncCursor)
    (result : SyncResult) : Check := do
  match result.snapshot, result.opportunity with
  | some snapshot, some opportunity =>
      let bookMatches := self.state.bookCursors.filter fun cursor =>
        cursor.canonicalMatchId = result.canonicalMatchId ∧ cursor.ticker = result.ticker
      match tennisMatches, bookMatches with
      | [tennisCursor], [bookCursor] => do
          refuse (snapshot.binding ≠ pair.1 ∨ snapshot.decisionTime ≠ self.observation ∨
            tennisCursor.tennis ≠ some snapshot.tennis ∨
            bookCursor.book ≠ some snapshot.book ∨
            snapshot.syncPolicySha256 ≠ self.state.syncPolicySha256 ∨
            opportunity.universeSha256 ≠ self.state.universeSha256 ∨
            bookCursor.lastEmission.isNone ∨
            snapshot.causalProviderRevision ≠
              bookCursor.causalPointWitness.map CausalPointWitness.revision)
            (.contract "synchronization_transition_results")
          match bookCursor.lastEmission with
          | none => .error (.contract "synchronization_transition_results")
          | some emission => do
              refuse (emission.provider ≠ tennisCoordinates snapshot.tennis ∨
                emission.providerEventSemanticSha256 ≠ snapshot.tennis.lastEventSemanticSha256 ∨
                emission.book ≠ bookCoordinates snapshot.book)
                (.contract "synchronization_transition_results")
              let fingerprint ← synchronizationEmissionFingerprint self.state.universeSha256
                self.state.syncPolicySha256 pair.1 pair.2 snapshot.tennis snapshot.book
              refuse (emission.fingerprintSha256 ≠ fingerprint)
                (.contract "synchronization_transition_results")
      | _, _ => .error (.contract "synchronization_transition_results")
  | _, _ => .error .assertion

def SyncResult.checkParts (self : SyncResult) : Check := do
  self.postInit
  checkSome TrustedSnapshot.checkParts self.snapshot
  checkSome OpportunityFrame.postInit self.opportunity

def SynchronizationTransitionResult.postInit (self : SynchronizationTransitionResult) : Check := do
  sha256 self.inputSha256 "input_sha256"
  sha256 self.priorSessionSha256 "prior_session_sha256"
  integer self.priorDecisionSequence "prior_decision_sequence"
  recover self.input.postInit ExpertError.isValueError (.contract "synchronization_transition_input")
  let inputDigest ← expertContractSha256 self.input.py
  refuse (self.inputSha256 ≠ inputDigest) (.contract "synchronization_transition_input")
  recover (do
      self.state.postInit
      self.observation.postInit)
    ExpertError.isValueError (.contract "synchronization_transition_state")
  refuse (self.state.lastObservation ≠ some self.observation)
    (.contract "synchronization_transition_state")
  recover (checkAll SyncResult.checkParts self.results) ExpertError.isValueError
    (.contract "synchronization_transition_results")
  let bindingPairs := self.state.bindingUniverse.pairs.filter fun pair =>
    pair.1.canonicalMatchId = self.input.canonicalMatchId
  refuse (self.validResults bindingPairs = false) (.contract "synchronization_transition_results")
  let trusted := trustedResults self.results
  refuse (self.state.decisionSequence ≠ self.priorDecisionSequence + trusted.length)
    (.contract "synchronization_transition_results")
  refuse (trusted.filterMap (fun r => r.snapshot.map TrustedSnapshot.decisionSequence) ≠
    List.range' (self.priorDecisionSequence + 1)
      (self.state.decisionSequence - self.priorDecisionSequence))
    (.contract "synchronization_transition_results")
  let tennisMatches := self.state.tennisCursors.filter fun cursor =>
    cursor.canonicalMatchId = self.input.canonicalMatchId
  match bindingPairs with
  | pair :: _ => checkAll (self.checkTrusted pair tennisMatches) trusted
  | [] => .ok ()

end Inci.Sync
