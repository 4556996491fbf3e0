/-
# Sync.Contracts -- cursors, sessions and the results of synchronization

The dataclasses the synchronizer keeps and returns, with their `__post_init__`
checks.  A session holds one tennis cursor for each match and one book cursor for
each market; a cursor remembers the last state with its digest, and a book cursor
also the unexplained moves, the point witnesses and the last emission.
-/
import Inci.Binding.Contracts
import Inci.Market.Book
import Inci.Tennis.Machine
import Mathlib.Data.Prod.Lex

namespace Inci.Sync

open Inci.Theory Inci.Expert Inci.Tennis Inci.Market Inci.Binding

set_option autoImplicit false

/-- An epoch with a position in it; a newer epoch comes after every position. -/
abbrev Coordinates := Nat ×ₗ Nat

def coordinates (epoch position : Nat) : Coordinates := toLex (epoch, position)

def tennisCoordinates (s : TennisState) : Coordinates := coordinates s.correctionEpoch s.revision

def bookCoordinates (s : BookState) : Coordinates := coordinates s.connectionEpoch s.sequence

/-! ## Observations and policy -/

structure PairedTimeObservation where
  wallNs : Nat
  monotonicNs : Nat
  clockUncertaintyNs : Nat
  deriving DecidableEq

def PairedTimeObservation.postInit (self : PairedTimeObservation) : Check := do
  integer self.wallNs "wall_ns"
  integer self.monotonicNs "monotonic_ns"
  integer self.clockUncertaintyNs "clock_uncertainty_ns"

def PairedTimeObservation.py (o : PairedTimeObservation) : PyValue :=
  .contract "PairedTimeObservation" [("wall_ns", .nat o.wallNs),
    ("monotonic_ns", .nat o.monotonicNs), ("clock_uncertainty_ns", .nat o.clockUncertaintyNs)]

structure SyncPolicy where
  universeSha256 : String
  maxScoreAgeNs : Nat
  maxBookAgeNs : Nat
  maxLifecycleAgeNs : Nat
  maxScoreBookSkewNs : Nat
  maxClockUncertaintyNs : Nat
  largeBookMoveThreshold : Decimal
  explanationWindowNs : Nat
  minimumCloseHorizonNs : Nat
  deriving DecidableEq

def SyncPolicy.postInit (self : SyncPolicy) : Check := do
  sha256 self.universeSha256 "universe_sha256"
  positiveInteger self.maxScoreAgeNs "max_score_age_ns"
  positiveInteger self.maxBookAgeNs "max_book_age_ns"
  positiveInteger self.maxLifecycleAgeNs "max_lifecycle_age_ns"
  integer self.maxScoreBookSkewNs "max_score_book_skew_ns"
  integer self.maxClockUncertaintyNs "max_clock_uncertainty_ns"
  probability self.largeBookMoveThreshold "large_book_move_threshold"
  positiveInteger self.explanationWindowNs "explanation_window_ns"
  integer self.minimumCloseHorizonNs "minimum_close_horizon_ns"

def SyncPolicy.py (p : SyncPolicy) : PyValue := .contract "SyncPolicy" [
  ("universe_sha256", .text p.universeSha256), ("max_score_age_ns", .nat p.maxScoreAgeNs),
  ("max_book_age_ns", .nat p.maxBookAgeNs), ("max_lifecycle_age_ns", .nat p.maxLifecycleAgeNs),
  ("max_score_book_skew_ns", .nat p.maxScoreBookSkewNs),
  ("max_clock_uncertainty_ns", .nat p.maxClockUncertaintyNs),
  ("large_book_move_threshold", .decimal p.largeBookMoveThreshold),
  ("explanation_window_ns", .nat p.explanationWindowNs),
  ("minimum_close_horizon_ns", .nat p.minimumCloseHorizonNs)]

/-! ## Witnesses and pending moves -/

structure CausalPointWitness where
  canonicalMatchId : String
  correctionEpoch : Nat
  revision : Nat
  eventSemanticSha256 : String
  receivedMonotonicNs : Nat
  deriving DecidableEq

def CausalPointWitness.postInit (self : CausalPointWitness) : Check := do
  safeId self.canonicalMatchId "canonical_match_id"
  integer self.correctionEpoch "correction_epoch"
  integer self.revision "revision"
  sha256 self.eventSemanticSha256 "event_semantic_sha256"
  integer self.receivedMonotonicNs "received_monotonic_ns"

def CausalPointWitness.coordinates (w : CausalPointWitness) : Coordinates :=
  Sync.coordinates w.correctionEpoch w.revision

def CausalPointWitness.py (w : CausalPointWitness) : PyValue := .contract "CausalPointWitness" [
  ("canonical_match_id", .text w.canonicalMatchId), ("correction_epoch", .nat w.correctionEpoch),
  ("revision", .nat w.revision), ("event_semantic_sha256", .text w.eventSemanticSha256),
  ("received_monotonic_ns", .nat w.receivedMonotonicNs)]

structure PendingBookMove where
  canonicalMatchId : String
  ticker : String
  firstMoveMonotonicNs : Nat
  lastMoveMonotonicNs : Nat
  firstConnectionEpoch : Nat
  firstSequence : Nat
  firstEventSha256 : String
  lastConnectionEpoch : Nat
  lastSequence : Nat
  lastEventSha256 : String
  moveCount : Nat
  maxMagnitude : Decimal
  tennisCorrectionEpochFloor : Option Nat
  bookConnectionEpochFloor : Nat
  deriving DecidableEq

def PendingBookMove.first (p : PendingBookMove) : Coordinates :=
  coordinates p.firstConnectionEpoch p.firstSequence

def PendingBookMove.last (p : PendingBookMove) : Coordinates :=
  coordinates p.lastConnectionEpoch p.lastSequence

def PendingBookMove.postInit (self : PendingBookMove) : Check := do
  safeId self.canonicalMatchId "canonical_match_id"
  Expert.ticker self.ticker "ticker"
  integer self.firstMoveMonotonicNs "first_move_monotonic_ns"
  integer self.lastMoveMonotonicNs "last_move_monotonic_ns"
  integer self.firstConnectionEpoch "first_connection_epoch"
  positiveInteger self.firstSequence "first_sequence"
  sha256 self.firstEventSha256 "first_event_sha256"
  integer self.lastConnectionEpoch "last_connection_epoch"
  positiveInteger self.lastSequence "last_sequence"
  sha256 self.lastEventSha256 "last_event_sha256"
  positiveInteger self.moveCount "move_count"
  probability self.maxMagnitude "max_magnitude"
  refuse (self.maxMagnitude = 0) (.contract "max_magnitude")
  checkSome (integer · "tennis_correction_epoch_floor") self.tennisCorrectionEpochFloor
  integer self.bookConnectionEpochFloor "book_connection_epoch_floor"
  refuse (self.lastMoveMonotonicNs < self.firstMoveMonotonicNs) (.contract "pending_move_order")
  refuse (self.last < self.first ∨
    (self.moveCount = 1 ∧ (self.first ≠ self.last ∨
      self.firstMoveMonotonicNs ≠ self.lastMoveMonotonicNs ∨
      self.firstEventSha256 ≠ self.lastEventSha256)) ∨
    (1 < self.moveCount ∧ self.first = self.last)) (.contract "pending_move_identity")
  refuse (self.bookConnectionEpochFloor ≠ self.firstConnectionEpoch)
    (.contract "pending_move_floor")

def PendingBookMove.py (p : PendingBookMove) : PyValue := .contract "PendingBookMove" [
  ("canonical_match_id", .text p.canonicalMatchId), ("ticker", .text p.ticker),
  ("first_move_monotonic_ns", .nat p.firstMoveMonotonicNs),
  ("last_move_monotonic_ns", .nat p.lastMoveMonotonicNs),
  ("first_connection_epoch", .nat p.firstConnectionEpoch),
  ("first_sequence", .nat p.firstSequence), ("first_event_sha256", .text p.firstEventSha256),
  ("last_connection_epoch", .nat p.lastConnectionEpoch), ("last_sequence", .nat p.lastSequence),
  ("last_event_sha256", .text p.lastEventSha256), ("move_count", .nat p.moveCount),
  ("max_magnitude", .decimal p.maxMagnitude),
  ("tennis_correction_epoch_floor", .option .nat p.tennisCorrectionEpochFloor),
  ("book_connection_epoch_floor", .nat p.bookConnectionEpochFloor)]

/-! ## Cursors -/

structure TennisSyncCursor where
  canonicalMatchId : String
  bindingSha256 : String
  bindingMetadataSha256 : String
  tennis : Option TennisState
  lastStateSha256 : Option String
  lastInputSha256 : Option String
  lastPointWitness : Option CausalPointWitness
  deriving DecidableEq

/-- The witness of a tennis cursor is an applied point of its state's epoch. -/
def witnessFits (matchId : String) (tennis : TennisState) (witness : CausalPointWitness) : Bool :=
  decide (¬(witness.canonicalMatchId ≠ matchId ∨
    witness.correctionEpoch ≠ tennis.correctionEpoch ∨ tennis.revision < witness.revision ∨
    tennis.lastReceivedMonotonicNs < witness.receivedMonotonicNs ∨
    (witness.revision = tennis.revision ∧
      (witness.eventSemanticSha256 ≠ tennis.lastEventSemanticSha256 ∨
        witness.receivedMonotonicNs ≠ tennis.lastReceivedMonotonicNs))))

def TennisSyncCursor.postInit (self : TennisSyncCursor) : Check := do
  safeId self.canonicalMatchId "canonical_match_id"
  sha256 self.bindingSha256 "binding_sha256"
  sha256 self.bindingMetadataSha256 "binding_metadata_sha256"
  checkSome (sha256 · "last_state_sha256") self.lastStateSha256
  checkSome (sha256 · "last_input_sha256") self.lastInputSha256
  match self.tennis with
  | none =>
      refuse (self.lastStateSha256.isSome ∨ self.lastInputSha256.isSome ∨
        self.lastPointWitness.isSome) (.contract "tennis_cursor_state")
  | some tennis => do
      let digest ← expertContractSha256 tennis.py
      refuse (self.lastStateSha256 ≠ some digest ∨ self.lastInputSha256.isNone)
        (.contract "tennis_cursor_state")
      refuse (∃ witness ∈ self.lastPointWitness,
        witnessFits self.canonicalMatchId tennis witness = false)
        (.contract "tennis_cursor_witness")

def TennisSyncCursor.py (c : TennisSyncCursor) : PyValue := .contract "TennisSyncCursor" [
  ("canonical_match_id", .text c.canonicalMatchId), ("binding_sha256", .text c.bindingSha256),
  ("binding_metadata_sha256", .text c.bindingMetadataSha256),
  ("tennis", .option TennisState.py c.tennis),
  ("last_state_sha256", .option .text c.lastStateSha256),
  ("last_input_sha256", .option .text c.lastInputSha256),
  ("last_point_witness", .option CausalPointWitness.py c.lastPointWitness)]

structure LastSyncEmission where
  fingerprintSha256 : String
  providerCorrectionEpoch : Nat
  providerRevision : Nat
  providerEventSemanticSha256 : String
  bookConnectionEpoch : Nat
  bookSequence : Nat
  deriving DecidableEq

def LastSyncEmission.postInit (self : LastSyncEmission) : Check := do
  sha256 self.fingerprintSha256 "fingerprint_sha256"
  integer self.providerCorrectionEpoch "provider_correction_epoch"
  integer self.providerRevision "provider_revision"
  sha256 self.providerEventSemanticSha256 "provider_event_semantic_sha256"
  integer self.bookConnectionEpoch "book_connection_epoch"
  positiveInteger self.bookSequence "book_sequence"

def LastSyncEmission.provider (e : LastSyncEmission) : Coordinates :=
  coordinates e.providerCorrectionEpoch e.providerRevision

def LastSyncEmission.book (e : LastSyncEmission) : Coordinates :=
  coordinates e.bookConnectionEpoch e.bookSequence

def LastSyncEmission.py (e : LastSyncEmission) : PyValue := .contract "LastSyncEmission" [
  ("fingerprint_sha256", .text e.fingerprintSha256),
  ("provider_correction_epoch", .nat e.providerCorrectionEpoch),
  ("provider_revision", .nat e.providerRevision),
  ("provider_event_semantic_sha256", .text e.providerEventSemanticSha256),
  ("book_connection_epoch", .nat e.bookConnectionEpoch), ("book_sequence", .nat e.bookSequence)]

structure BookSyncCursor where
  canonicalMatchId : String
  ticker : String
  bindingSha256 : String
  bindingMetadataSha256 : String
  book : Option BookState
  lastStateSha256 : Option String
  lastInputSha256 : Option String
  pendingMove : Option PendingBookMove
  causalPointWitness : Option CausalPointWitness
  consumedPointWitness : Option CausalPointWitness
  lastEmission : Option LastSyncEmission
  deriving DecidableEq

/-- The witnesses of a book cursor, those that are there. -/
def BookSyncCursor.witnesses (c : BookSyncCursor) : List CausalPointWitness :=
  c.causalPointWitness.toList ++ c.consumedPointWitness.toList

def BookSyncCursor.postInit (self : BookSyncCursor) : Check := do
  safeId self.canonicalMatchId "canonical_match_id"
  Expert.ticker self.ticker "ticker"
  sha256 self.bindingSha256 "binding_sha256"
  sha256 self.bindingMetadataSha256 "binding_metadata_sha256"
  checkSome (sha256 · "last_state_sha256") self.lastStateSha256
  checkSome (sha256 · "last_input_sha256") self.lastInputSha256
  match self.book with
  | none =>
      refuse (self.lastStateSha256.isSome ∨ self.lastInputSha256.isSome ∨
        self.pendingMove.isSome ∨ self.causalPointWitness.isSome ∨
        self.consumedPointWitness.isSome ∨ self.lastEmission.isSome)
        (.contract "book_cursor_state")
  | some book => do
      refuse (book.ticker ≠ self.ticker) (.contract "book_cursor_binding")
      let digest ← expertContractSha256 book.py
      refuse (self.lastStateSha256 ≠ some digest ∨ self.lastInputSha256.isNone)
        (.contract "book_cursor_state")
      refuse (∃ pending ∈ self.pendingMove, pending.canonicalMatchId ≠ self.canonicalMatchId ∨
        pending.ticker ≠ self.ticker ∨ pending.last < pending.first ∨
        bookCoordinates book < pending.last ∨
        book.bookObservedMonotonicNs < pending.lastMoveMonotonicNs)
        (.contract "book_cursor_pending")
      refuse ((∃ witness ∈ self.witnesses, witness.canonicalMatchId ≠ self.canonicalMatchId) ∨
        (self.pendingMove.isSome ∧ self.causalPointWitness.isSome) ∨
        (self.causalPointWitness.isSome ∧
          self.causalPointWitness ≠ self.consumedPointWitness)) (.contract "book_cursor_witness")
      refuse (∃ emission ∈ self.lastEmission, bookCoordinates book < emission.book)
        (.contract "book_cursor_emission")

def BookSyncCursor.py (c : BookSyncCursor) : PyValue := .contract "BookSyncCursor" [
  ("canonical_match_id", .text c.canonicalMatchId), ("ticker", .text c.ticker),
  ("binding_sha256", .text c.bindingSha256),
  ("binding_metadata_sha256", .text c.bindingMetadataSha256),
  ("book", .option BookState.py c.book), ("last_state_sha256", .option .text c.lastStateSha256),
  ("last_input_sha256", .option .text c.lastInputSha256),
  ("pending_move", .option PendingBookMove.py c.pendingMove),
  ("causal_point_witness", .option CausalPointWitness.py c.causalPointWitness),
  ("consumed_point_witness", .option CausalPointWitness.py c.consumedPointWitness),
  ("last_emission", .option LastSyncEmission.py c.lastEmission)]

/-! ## Sessions -/

/-- The part of a session that no input changes. -/
structure SessionFrame where
  bindingUniverse : BindingUniverse
  policy : SyncPolicy
  universeSha256 : String
  syncPolicySha256 : String
  deriving DecidableEq

structure SynchronizationSessionState extends SessionFrame where
  decisionSequence : Nat
  lastObservation : Option PairedTimeObservation
  tennisCursors : List TennisSyncCursor
  bookCursors : List BookSyncCursor
  deriving DecidableEq

/-- `_task5_witness_matches_tennis` -/
def witnessMatchesTennis (witness : CausalPointWitness) (tennis : TennisState)
    (canonicalMatchId : String) : Bool :=
  decide (¬(witness.canonicalMatchId ≠ canonicalMatchId ∨
    tennisCoordinates tennis < witness.coordinates ∨
    tennis.lastReceivedMonotonicNs < witness.receivedMonotonicNs ∨
    (witness.coordinates = tennisCoordinates tennis ∧
      (witness.eventSemanticSha256 ≠ tennis.lastEventSemanticSha256 ∨
        witness.receivedMonotonicNs ≠ tennis.lastReceivedMonotonicNs))))

/-- The triple all bindings of a session share. -/
def providerTriple (b : MatchBinding) : List String :=
  [b.providerSourceId, b.revisionDomainId, b.sourceLineageSha256]

/-- The universe and the policy of a session with their digests. -/
def SessionFrame.checkArtifacts (self : SessionFrame) : Check := do
  let computed ← recover (do
      self.bindingUniverse.postInit
      self.bindingUniverse.pin.postInit
      computeBindingUniverseSha256 self.bindingUniverse.pin self.bindingUniverse.review
        self.bindingUniverse.bindings self.bindingUniverse.metadata)
    ExpertError.isValueError (.contract "synchronization_session_universe")
  refuse (computed ≠ self.bindingUniverse.universeSha256 ∨ self.universeSha256 ≠ computed ∨
    (self.bindingUniverse.bindings.map providerTriple).dedup.length ≠ 1)
    (.contract "synchronization_session_universe")
  recover self.policy.postInit ExpertError.isValueError
    (.contract "synchronization_session_policy")
  refuse (self.policy.universeSha256 ≠ computed) (.contract "synchronization_session_policy")
  let digest ← expertContractSha256 self.policy.py
  refuse (self.syncPolicySha256 ≠ digest) (.contract "synchronization_session_policy")

/-- The constructor checks of a tennis cursor and of what it holds. -/
def TennisSyncCursor.checkParts (self : TennisSyncCursor) : Check := do
  self.postInit
  checkSome TennisState.postInit self.tennis
  checkSome CausalPointWitness.postInit self.lastPointWitness

/-- The constructor checks of a book cursor and of what it holds. -/
def BookSyncCursor.checkParts (self : BookSyncCursor) : Check := do
  self.postInit
  checkSome BookState.postInit self.book
  checkSome PendingBookMove.postInit self.pendingMove
  checkSome CausalPointWitness.postInit self.causalPointWitness
  checkSome CausalPointWitness.postInit self.consumedPointWitness
  checkSome LastSyncEmission.postInit self.lastEmission

/-- The entry of a key in a dictionary built from a list: a later item replaces an
earlier one. -/
def entryOf {α : Type} (key : α → String) (items : List α) (k : String) : Except ExpertError α :=
  match items.reverse.find? fun item => key item = k with
  | some item => .ok item
  | none => .error .key

/-- `bindings_by_match[match_id]` -/
def SessionFrame.bindingOf (self : SessionFrame) (matchId : String) :
    Except ExpertError (MatchBinding × BindingMetadata) :=
  entryOf (fun pair => pair.1.canonicalMatchId) self.bindingUniverse.pairs matchId

/-- `sorted(bindings_by_match)` -/
def SessionFrame.expectedTennis (self : SessionFrame) : List String :=
  (self.bindingUniverse.pairs.map fun pair => pair.1.canonicalMatchId).dedup.mergeSort
    fun a b => decide (a ≤ b)

def marketKeys (b : MatchBinding) : List (String × String) :=
  [(b.canonicalMatchId, b.homeMarketTicker), (b.canonicalMatchId, b.awayMarketTicker)]

/-- The key of every market, sorted as pairs. -/
def SessionFrame.expectedBooks (self : SessionFrame) : List (String × String) :=
  (self.bindingUniverse.bindings.flatMap marketKeys).mergeSort
    fun a b => decide (toLex a ≤ toLex b)

/-- The digests of a cursor are those of its binding. -/
def checkBinding (pair : MatchBinding × BindingMetadata)
    (bindingSha256 bindingMetadataSha256 : String) : Check := do
  let binding ← expertContractSha256 pair.1.py
  refuse (bindingSha256 ≠ binding) (.contract "synchronization_session_cursors")
  let metadata ← expertContractSha256 pair.2.py
  refuse (bindingMetadataSha256 ≠ metadata) (.contract "synchronization_session_cursors")

/-- What a book cursor must be to the tennis cursor of its match. -/
def checkAgainstTennis (tennisCursor : TennisSyncCursor) (cursor : BookSyncCursor) : Check := do
  match tennisCursor.tennis with
  | none =>
      refuse (∃ pending ∈ cursor.pendingMove, pending.tennisCorrectionEpochFloor.isSome)
        (.contract "synchronization_session_cursors")
  | some tennis =>
      refuse (∃ pending ∈ cursor.pendingMove, pending.tennisCorrectionEpochFloor = none ∨
        ∃ floor ∈ pending.tennisCorrectionEpochFloor, tennis.correctionEpoch < floor)
        (.contract "synchronization_session_cursors")
  let witnesses := tennisCursor.lastPointWitness.toList ++ cursor.witnesses
  match tennisCursor.tennis with
  | none => refuse (witnesses ≠ []) (.contract "synchronization_session_cursors")
  | some tennis => do
      refuse (∃ witness ∈ witnesses,
        witnessMatchesTennis witness tennis cursor.canonicalMatchId = false)
        (.contract "synchronization_session_cursors")
      refuse (∃ causal ∈ cursor.causalPointWitness,
        causal.correctionEpoch ≠ tennis.correctionEpoch)
        (.contract "synchronization_session_cursors")
  match cursor.lastEmission, tennisCursor.tennis with
  | none, _ => .ok ()
  | some _, none => .error (.contract "synchronization_session_cursors")
  | some emission, some tennis =>
      refuse (tennisCoordinates tennis < emission.provider ∨
        (emission.provider = tennisCoordinates tennis ∧
          emission.providerEventSemanticSha256 ≠ tennis.lastEventSemanticSha256))
        (.contract "synchronization_session_cursors")

/-- `tennis_by_match[match_id]` -/
def tennisByMatch (cursors : List TennisSyncCursor) (matchId : String) :
    Except ExpertError TennisSyncCursor :=
  entryOf TennisSyncCursor.canonicalMatchId cursors matchId

def SynchronizationSessionState.checkTennisCursor (self : SynchronizationSessionState)
    (cursor : TennisSyncCursor) : Check := do
  let pair ← self.bindingOf cursor.canonicalMatchId
  checkBinding pair cursor.bindingSha256 cursor.bindingMetadataSha256

def SynchronizationSessionState.checkBookCursor (self : SynchronizationSessionState)
    (cursor : BookSyncCursor) : Check := do
  let pair ← self.bindingOf cursor.canonicalMatchId
  checkBinding pair cursor.bindingSha256 cursor.bindingMetadataSha256
  let tennisCursor ← tennisByMatch self.tennisCursors cursor.canonicalMatchId
  checkAgainstTennis tennisCursor cursor

def SynchronizationSessionState.postInit (self : SynchronizationSessionState) : Check := do
  sha256 self.universeSha256 "universe_sha256"
  sha256 self.syncPolicySha256 "sync_policy_sha256"
  integer self.decisionSequence "decision_sequence"
  self.checkArtifacts
  refuse (self.lastObservation = none ∧ (self.decisionSequence ≠ 0 ∨
    (∃ cursor ∈ self.tennisCursors, cursor.tennis.isSome) ∨
    (∃ cursor ∈ self.bookCursors, cursor.book.isSome)))
    (.contract "synchronization_session_cursors")
  refuse (¬((∃ cursor ∈ self.bookCursors, cursor.lastEmission.isSome) ↔
    0 < self.decisionSequence)) (.contract "synchronization_session_cursors")
  recover (do
      checkSome PairedTimeObservation.postInit self.lastObservation
      checkAll TennisSyncCursor.checkParts self.tennisCursors
      checkAll BookSyncCursor.checkParts self.bookCursors)
    ExpertError.isValueError (.contract "synchronization_session_cursors")
  refuse (self.tennisCursors.map TennisSyncCursor.canonicalMatchId ≠ self.expectedTennis ∨
    self.bookCursors.map (fun c => (c.canonicalMatchId, c.ticker)) ≠ self.expectedBooks)
    (.contract "synchronization_session_cursors")
  checkAll self.checkTennisCursor self.tennisCursors
  checkAll self.checkBookCursor self.bookCursors

def SynchronizationSessionState.py (s : SynchronizationSessionState) : PyValue :=
  .contract "SynchronizationSessionState" [
    ("universe", s.bindingUniverse.py), ("policy", s.policy.py),
    ("universe_sha256", .text s.universeSha256),
    ("sync_policy_sha256", .text s.syncPolicySha256),
    ("decision_sequence", .nat s.decisionSequence),
    ("last_observation", .option PairedTimeObservation.py s.lastObservation),
    ("tennis_cursors", .tuple (s.tennisCursors.map TennisSyncCursor.py)),
    ("book_cursors", .tuple (s.bookCursors.map BookSyncCursor.py))]

end Inci.Sync
