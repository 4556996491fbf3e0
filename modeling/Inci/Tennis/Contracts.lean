/-
# Tennis.Contracts -- provider events and the tennis state

The dataclasses of the tennis part, with the groups of fields the shared
validators read (`_validate_identity`, `_validate_status` and `_validate_score`,
`_validate_event_times`) as records of their own.  `postInit` is the
`__post_init__` of the class, in its order.
-/
import Inci.Expert.Canonical

namespace Inci.Tennis

open Inci.Theory Inci.Expert

set_option autoImplicit false

/-! ## Shared groups of fields -/

/-- What every provider event and the tennis state say about their match. -/
structure MatchIdentity where
  providerSourceId : String
  revisionDomainId : String
  sourceLineageSha256 : String
  providerMatchId : String
  homePlayerId : String
  awayPlayerId : String
  scheduledStartWallNs : Nat
  matchFormat : MatchFormat
  deriving DecidableEq

/-- `_validate_identity`; an event passes its id, the state passes none. -/
def validateIdentity (self : MatchIdentity) (providerEventId : Option String) : Check := do
  safeId self.providerSourceId "provider_source_id"
  safeId self.revisionDomainId "revision_domain_id"
  sha256 self.sourceLineageSha256 "source_lineage_sha256"
  checkSome (safeId · "provider_event_id") providerEventId
  safeId self.providerMatchId "provider_match_id"
  safeId self.homePlayerId "home_player_id"
  safeId self.awayPlayerId "away_player_id"
  refuse (self.homePlayerId = self.awayPlayerId) (.contract "player_identity")
  integer self.scheduledStartWallNs "scheduled_start_wall_ns"

structure SetScore where
  gamesHome : Nat
  gamesAway : Nat
  tiebreakPointsHome : Option Nat
  tiebreakPointsAway : Option Nat
  deriving DecidableEq

def SetScore.postInit (self : SetScore) : Check := do
  integer self.gamesHome "games_home"
  integer self.gamesAway "games_away"
  checkSome (integer · "tiebreak_points_home") self.tiebreakPointsHome
  checkSome (integer · "tiebreak_points_away") self.tiebreakPointsAway
  refuse (self.tiebreakPointsHome.isNone ≠ self.tiebreakPointsAway.isNone)
    (.contract "tiebreak_points")

/-- The score of a match with its status. -/
structure Score where
  status : MatchStatus
  terminationKind : TerminationKind
  winner : Option PlayerSide
  retiredSide : Option PlayerSide
  completedSets : List SetScore
  gamesHome : Nat
  gamesAway : Nat
  pointsHome : ScoreValue
  pointsAway : ScoreValue
  inTiebreak : Bool
  tiebreakPointsHome : Nat
  tiebreakPointsAway : Nat
  tiebreakFirstServer : Option PlayerSide
  serverForNextPoint : Option PlayerSide
  deriving DecidableEq

/-- `_validate_status` -/
def validateStatus (self : Score) : Check :=
  match self.status with
  | .scheduled | .live | .suspended =>
      refuse (self.terminationKind ≠ .none ∨ self.winner.isSome ∨ self.retiredSide.isSome)
        (.contract "status_termination")
  | .ended =>
      match self.terminationKind with
      | .natural | .walkover =>
          refuse (self.winner.isNone ∨ self.retiredSide.isSome) (.contract "status_termination")
      | .retirement =>
          refuse (self.winner.isNone ∨ self.retiredSide.isNone ∨ self.winner = self.retiredSide)
            (.contract "status_termination")
      | _ => .error (.contract "status_termination")
  | .cancelled =>
      refuse (self.terminationKind ≠ .cancellation ∨ self.winner.isSome ∨
        self.retiredSide.isSome ∨ self.serverForNextPoint.isSome) (.contract "status_termination")

/-- `_validate_score`; the sets are validated where they are built. -/
def validateScore (self : Score) : Check := do
  integer self.gamesHome "games_home"
  integer self.gamesAway "games_away"
  integer self.tiebreakPointsHome "tiebreak_points_home"
  integer self.tiebreakPointsAway "tiebreak_points_away"
  refuse ((self.pointsHome = .advantage ∧ self.pointsAway ≠ .forty) ∨
    (self.pointsAway = .advantage ∧ self.pointsHome ≠ .forty)) (.contract "advantage_score")
  refuse (self.pointsHome = .advantage ∧ self.pointsAway = .advantage)
    (.contract "advantage_score")
  if self.inTiebreak then
    refuse (self.pointsHome ≠ .love ∨ self.pointsAway ≠ .love) (.contract "tiebreak_score")
  else
    refuse (self.tiebreakPointsHome ≠ 0 ∨ self.tiebreakPointsAway ≠ 0 ∨
      self.tiebreakFirstServer.isSome) (.contract "tiebreak_score")

/-- When an event happened, was published and was received. -/
structure EventTimes where
  sourceWallNs : Nat
  sourceGeneratedWallNs : Nat
  receivedMonotonicNs : Nat
  clockUncertaintyNs : Nat
  deriving DecidableEq

/-- `_validate_event_times` -/
def validateEventTimes (self : EventTimes) : Check := do
  integer self.sourceWallNs "source_wall_ns"
  integer self.sourceGeneratedWallNs "source_generated_wall_ns"
  integer self.receivedMonotonicNs "received_monotonic_ns"
  integer self.clockUncertaintyNs "clock_uncertainty_ns"

/-! ## Provider events -/

structure ProviderSnapshot extends MatchIdentity, Score, EventTimes where
  providerEventId : String
  correctionEpoch : Nat
  revision : Nat
  snapshotComplete : Bool
  deriving DecidableEq

def ProviderSnapshot.postInit (self : ProviderSnapshot) : Check := do
  safeId self.providerEventId "provider_event_id"
  validateIdentity self.toMatchIdentity (some self.providerEventId)
  validateStatus self.toScore
  validateScore self.toScore
  integer self.correctionEpoch "correction_epoch"
  integer self.revision "revision"
  validateEventTimes self.toEventTimes

/-- What a point and a lifecycle event have in common. -/
structure IncrementalEvent extends MatchIdentity, EventTimes where
  providerEventId : String
  correctionEpoch : Nat
  revision : Nat
  deriving DecidableEq

def IncrementalEvent.postInit (self : IncrementalEvent) : Check := do
  safeId self.providerEventId "provider_event_id"
  validateIdentity self.toMatchIdentity (some self.providerEventId)
  integer self.correctionEpoch "correction_epoch"
  positiveInteger self.revision "revision"
  validateEventTimes self.toEventTimes

structure ProviderPoint extends IncrementalEvent where
  pointWinner : PlayerSide
  serverBeforePoint : PlayerSide
  deriving DecidableEq

def ProviderPoint.postInit (self : ProviderPoint) : Check := self.toIncrementalEvent.postInit

structure ProviderLifecycle extends IncrementalEvent where
  kind : ProviderLifecycleKind
  winner : Option PlayerSide
  retiredSide : Option PlayerSide
  serverForNextPoint : Option PlayerSide
  deriving DecidableEq

def ProviderLifecycle.postInit (self : ProviderLifecycle) : Check :=
  self.toIncrementalEvent.postInit

/-! ## The tennis state -/

/-- Why a state is blocked, with the event that blocked it. -/
structure BlockMetadata where
  blockReason : Option TennisTransitionReason
  expectedRevision : Option Nat
  observedRevision : Option Nat
  blockedEventSemanticSha256 : Option String
  blockedReceivedMonotonicNs : Option Nat
  deriving DecidableEq

/-- The metadata of a state that is not blocked. -/
def BlockMetadata.clear : BlockMetadata := ⟨none, none, none, none, none⟩

structure TennisState extends MatchIdentity, Score, BlockMetadata where
  correctionEpoch : Nat
  revision : Nat
  snapshotComplete : Bool
  lastProviderEventId : String
  lastEventSemanticSha256 : String
  correctionLineageSha256 : String
  lastSourceWallNs : Nat
  lastSourceGeneratedWallNs : Nat
  lastReceivedMonotonicNs : Nat
  lastClockUncertaintyNs : Nat
  deriving DecidableEq

def supportedFormats : List MatchFormat :=
  [.standardAdvantageBo3Tb7AllSets, .standardAdvantageBo5Tb7AllSets]

/-- `_TENNIS_STATE_INSTALLED_BLOCK_REASONS` -/
def installedBlockReasons : List TennisTransitionReason :=
  [.providerEventGap, .providerEventStale, .providerEventConflict, .correctionEpochStale,
    .correctionEpochAhead, .identityMismatch, .formatMismatch, .sourceLineageMismatch,
    .revisionDomainMismatch, .receiveTimeRegression, .serverMismatch, .pointWhileNotLive,
    .terminalAbsorbing, .illegalLifecycleTransition, .unsupportedFormat,
    .correctionEpochNotNewer, .correctionSnapshotInvalid]

def BlockMetadata.postInit (self : BlockMetadata) : Check := do
  checkSome (integer · "expected_revision") self.expectedRevision
  checkSome (integer · "observed_revision") self.observedRevision
  checkSome (integer · "blocked_received_monotonic_ns") self.blockedReceivedMonotonicNs
  checkSome (sha256 · "blocked_event_semantic_sha256") self.blockedEventSemanticSha256
  match self.blockReason with
  | none =>
      refuse (self.expectedRevision.isSome ∨ self.observedRevision.isSome ∨
        self.blockedEventSemanticSha256.isSome ∨ self.blockedReceivedMonotonicNs.isSome)
        (.contract "block_metadata")
  | some reason => do
      refuse (reason ∉ installedBlockReasons) (.contract "block_reason")
      refuse (self.blockedEventSemanticSha256.isNone ∨ self.blockedReceivedMonotonicNs.isNone)
        (.contract "block_metadata")
      if reason = .providerEventGap then
        refuse (self.expectedRevision.isNone ∨ self.observedRevision.isNone)
          (.contract "block_metadata")
      else
        refuse (self.expectedRevision.isSome ∨ self.observedRevision.isSome)
          (.contract "block_metadata")

def TennisState.postInit (self : TennisState) : Check := do
  validateIdentity self.toMatchIdentity none
  refuse (self.matchFormat ∉ supportedFormats) (.contract "match_format")
  validateStatus self.toScore
  validateScore self.toScore
  integer self.correctionEpoch "correction_epoch"
  integer self.revision "revision"
  refuse (self.snapshotComplete = false) (.contract "snapshot_complete")
  safeId self.lastProviderEventId "last_provider_event_id"
  sha256 self.lastEventSemanticSha256 "last_event_semantic_sha256"
  sha256 self.correctionLineageSha256 "correction_lineage_sha256"
  integer self.lastSourceWallNs "last_source_wall_ns"
  integer self.lastSourceGeneratedWallNs "last_source_generated_wall_ns"
  integer self.lastReceivedMonotonicNs "last_received_monotonic_ns"
  integer self.lastClockUncertaintyNs "last_clock_uncertainty_ns"
  self.toBlockMetadata.postInit

structure TennisTransitionResult where
  state : TennisState
  disposition : TransitionDisposition
  reason : TennisTransitionReason
  eventSemanticSha256 : String
  deriving DecidableEq

def TennisTransitionResult.postInit (self : TennisTransitionResult) : Check :=
  sha256 self.eventSemanticSha256 "event_semantic_sha256"

/-! ## Projections -/

def SetScore.py (s : SetScore) : PyValue := .contract "SetScore" [
  ("games_home", .nat s.gamesHome), ("games_away", .nat s.gamesAway),
  ("tiebreak_points_home", .option .nat s.tiebreakPointsHome),
  ("tiebreak_points_away", .option .nat s.tiebreakPointsAway)]

/-- The identity fields of an event, its id in fourth place. -/
def MatchIdentity.py (m : MatchIdentity) (providerEventId : List (String × PyValue)) :
    List (String × PyValue) :=
  [("provider_source_id", .text m.providerSourceId),
    ("revision_domain_id", .text m.revisionDomainId),
    ("source_lineage_sha256", .text m.sourceLineageSha256)] ++ providerEventId ++
  [("provider_match_id", .text m.providerMatchId), ("home_player_id", .text m.homePlayerId),
    ("away_player_id", .text m.awayPlayerId),
    ("scheduled_start_wall_ns", .nat m.scheduledStartWallNs), ("match_format", m.matchFormat.py)]

def Score.py (s : Score) : List (String × PyValue) := [
  ("status", s.status.py),
  ("termination_kind", s.terminationKind.py),
  ("winner", .option PlayerSide.py s.winner), ("retired_side", .option PlayerSide.py s.retiredSide),
  ("completed_sets", .tuple (s.completedSets.map SetScore.py)),
  ("games_home", .nat s.gamesHome), ("games_away", .nat s.gamesAway),
  ("points_home", s.pointsHome.py),
  ("points_away", s.pointsAway.py), ("in_tiebreak", .bool s.inTiebreak),
  ("tiebreak_points_home", .nat s.tiebreakPointsHome),
  ("tiebreak_points_away", .nat s.tiebreakPointsAway),
  ("tiebreak_first_server", .option PlayerSide.py s.tiebreakFirstServer),
  ("server_for_next_point", .option PlayerSide.py s.serverForNextPoint)]

/-- The times of an event without its receive time. -/
def EventTimes.semanticPy (t : EventTimes) : List (String × PyValue) :=
  [("source_wall_ns", .nat t.sourceWallNs),
    ("source_generated_wall_ns", .nat t.sourceGeneratedWallNs),
    ("clock_uncertainty_ns", .nat t.clockUncertaintyNs)]

def EventTimes.py (t : EventTimes) : List (String × PyValue) :=
  [("source_wall_ns", .nat t.sourceWallNs),
    ("source_generated_wall_ns", .nat t.sourceGeneratedWallNs),
    ("received_monotonic_ns", .nat t.receivedMonotonicNs),
    ("clock_uncertainty_ns", .nat t.clockUncertaintyNs)]

/-- The fields of a snapshot, with its times as given. -/
def ProviderSnapshot.fields (e : ProviderSnapshot) (times : List (String × PyValue)) :
    List (String × PyValue) :=
  e.toMatchIdentity.py [("provider_event_id", .text e.providerEventId)] ++ e.toScore.py ++
    [("correction_epoch", .nat e.correctionEpoch), ("revision", .nat e.revision)] ++ times ++
    [("snapshot_complete", .bool e.snapshotComplete)]

def ProviderPoint.fields (e : ProviderPoint) (times : List (String × PyValue)) :
    List (String × PyValue) :=
  e.toMatchIdentity.py [("provider_event_id", .text e.providerEventId)] ++
    [("correction_epoch", .nat e.correctionEpoch), ("revision", .nat e.revision),
      ("point_winner", e.pointWinner.py),
      ("server_before_point", e.serverBeforePoint.py)] ++ times

def ProviderLifecycle.fields (e : ProviderLifecycle) (times : List (String × PyValue)) :
    List (String × PyValue) :=
  e.toMatchIdentity.py [("provider_event_id", .text e.providerEventId)] ++
    [("correction_epoch", .nat e.correctionEpoch), ("revision", .nat e.revision),
      ("kind", e.kind.py),
      ("winner", .option PlayerSide.py e.winner),
      ("retired_side", .option PlayerSide.py e.retiredSide),
      ("server_for_next_point", .option PlayerSide.py e.serverForNextPoint)] ++ times

def ProviderSnapshot.py (e : ProviderSnapshot) : PyValue :=
  .contract "ProviderSnapshot" (e.fields e.toEventTimes.py)

def ProviderPoint.py (e : ProviderPoint) : PyValue :=
  .contract "ProviderPoint" (e.fields e.toEventTimes.py)

def ProviderLifecycle.py (e : ProviderLifecycle) : PyValue :=
  .contract "ProviderLifecycle" (e.fields e.toEventTimes.py)

def TennisState.py (s : TennisState) : PyValue := .contract "TennisState"
  (s.toMatchIdentity.py [] ++ s.toScore.py ++ [
    ("correction_epoch", .nat s.correctionEpoch), ("revision", .nat s.revision),
    ("snapshot_complete", .bool s.snapshotComplete),
    ("last_provider_event_id", .text s.lastProviderEventId),
    ("last_event_semantic_sha256", .text s.lastEventSemanticSha256),
    ("correction_lineage_sha256", .text s.correctionLineageSha256),
    ("last_source_wall_ns", .nat s.lastSourceWallNs),
    ("last_source_generated_wall_ns", .nat s.lastSourceGeneratedWallNs),
    ("last_received_monotonic_ns", .nat s.lastReceivedMonotonicNs),
    ("last_clock_uncertainty_ns", .nat s.lastClockUncertaintyNs),
    ("block_reason", .option TennisTransitionReason.py s.blockReason),
    ("expected_revision", .option .nat s.expectedRevision),
    ("observed_revision", .option .nat s.observedRevision),
    ("blocked_event_semantic_sha256", .option .text s.blockedEventSemanticSha256),
    ("blocked_received_monotonic_ns", .option .nat s.blockedReceivedMonotonicNs)])

def TennisTransitionResult.py (r : TennisTransitionResult) : PyValue :=
  .contract "TennisTransitionResult" [
    ("state", r.state.py),
    ("disposition", r.disposition.py),
    ("reason", r.reason.py),
    ("event_semantic_sha256", .text r.eventSemanticSha256)]

end Inci.Tennis
