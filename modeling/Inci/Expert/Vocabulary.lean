/-
# Expert.Vocabulary -- the closed enumerations of the expert contracts

Every enumeration member is the constructor under the source's name and `value`
is the text the source gives it, which is what canonical encodings and error
messages carry.  `ExpertError` collects the exceptions these modules raise.
-/
import Mathlib.Tactic.Basic

namespace Inci.Expert

set_option autoImplicit false

inductive PlayerSide where
  | home | away
  deriving DecidableEq

def PlayerSide.value : PlayerSide → String
  | .home => "home"
  | .away => "away"

inductive ContractSide where
  | yes | no
  deriving DecidableEq

def ContractSide.value : ContractSide → String
  | .yes => "yes"
  | .no => "no"

inductive MatchStatus where
  | scheduled | live | suspended | ended | cancelled
  deriving DecidableEq

def MatchStatus.value : MatchStatus → String
  | .scheduled => "scheduled"
  | .live => "live"
  | .suspended => "suspended"
  | .ended => "ended"
  | .cancelled => "cancelled"

inductive MatchFormat where
  | standardAdvantageBo3Tb7AllSets | standardAdvantageBo5Tb7AllSets | unsupported
  deriving DecidableEq

def MatchFormat.value : MatchFormat → String
  | .standardAdvantageBo3Tb7AllSets => "standard_advantage_bo3_tb7_all_sets"
  | .standardAdvantageBo5Tb7AllSets => "standard_advantage_bo5_tb7_all_sets"
  | .unsupported => "unsupported"

inductive TerminationKind where
  | none | natural | walkover | retirement | cancellation
  deriving DecidableEq

def TerminationKind.value : TerminationKind → String
  | .none => "none"
  | .natural => "natural"
  | .walkover => "walkover"
  | .retirement => "retirement"
  | .cancellation => "cancellation"

inductive ProviderLifecycleKind where
  | start | suspend | resume | walkover | retirement | cancel | naturalEndConfirmation
  deriving DecidableEq

def ProviderLifecycleKind.value : ProviderLifecycleKind → String
  | .start => "start"
  | .suspend => "suspend"
  | .resume => "resume"
  | .walkover => "walkover"
  | .retirement => "retirement"
  | .cancel => "cancel"
  | .naturalEndConfirmation => "natural_end_confirmation"

inductive ScoreValue where
  | love | fifteen | thirty | forty | advantage
  deriving DecidableEq

def ScoreValue.value : ScoreValue → String
  | .love => "love"
  | .fifteen => "fifteen"
  | .thirty => "thirty"
  | .forty => "forty"
  | .advantage => "advantage"

inductive TransitionDisposition where
  | applied | duplicate | blocked
  deriving DecidableEq

def TransitionDisposition.value : TransitionDisposition → String
  | .applied => "applied"
  | .duplicate => "duplicate"
  | .blocked => "blocked"

inductive TennisTransitionReason where
  | pointApplied | lifecycleApplied | naturalEndConfirmed | correctionApplied | exactDuplicate
  | correctionRequired | providerEventGap | providerEventStale | providerEventConflict
  | correctionEpochStale | correctionEpochAhead | identityMismatch | formatMismatch
  | sourceLineageMismatch | revisionDomainMismatch | receiveTimeRegression | serverMismatch
  | pointWhileNotLive | terminalAbsorbing | illegalLifecycleTransition | unsupportedFormat
  | snapshotInvalid | correctionEpochNotNewer | correctionSnapshotInvalid
  deriving DecidableEq

def TennisTransitionReason.value : TennisTransitionReason → String
  | .pointApplied => "point_applied"
  | .lifecycleApplied => "lifecycle_applied"
  | .naturalEndConfirmed => "natural_end_confirmed"
  | .correctionApplied => "correction_applied"
  | .exactDuplicate => "exact_duplicate"
  | .correctionRequired => "correction_required"
  | .providerEventGap => "provider_event_gap"
  | .providerEventStale => "provider_event_stale"
  | .providerEventConflict => "provider_event_conflict"
  | .correctionEpochStale => "correction_epoch_stale"
  | .correctionEpochAhead => "correction_epoch_ahead"
  | .identityMismatch => "identity_mismatch"
  | .formatMismatch => "format_mismatch"
  | .sourceLineageMismatch => "source_lineage_mismatch"
  | .revisionDomainMismatch => "revision_domain_mismatch"
  | .receiveTimeRegression => "receive_time_regression"
  | .serverMismatch => "server_mismatch"
  | .pointWhileNotLive => "point_while_not_live"
  | .terminalAbsorbing => "terminal_absorbing"
  | .illegalLifecycleTransition => "illegal_lifecycle_transition"
  | .unsupportedFormat => "unsupported_format"
  | .snapshotInvalid => "snapshot_invalid"
  | .correctionEpochNotNewer => "correction_epoch_not_newer"
  | .correctionSnapshotInvalid => "correction_snapshot_invalid"

inductive MarketStatus where
  | preopen | open | suspended | closed | settled | cancelled
  deriving DecidableEq

def MarketStatus.value : MarketStatus → String
  | .preopen => "preopen"
  | .open => "open"
  | .suspended => "suspended"
  | .closed => "closed"
  | .settled => "settled"
  | .cancelled => "cancelled"

inductive BookEventKind where
  | snapshot | delta | lifecycle
  deriving DecidableEq

def BookEventKind.value : BookEventKind → String
  | .snapshot => "snapshot"
  | .delta => "delta"
  | .lifecycle => "lifecycle"

inductive SyncInputKind where
  | tennisOrigin | tennisTransition | bookTransition | bookResnapshotRequired | clock
  deriving DecidableEq

def SyncInputKind.value : SyncInputKind → String
  | .tennisOrigin => "tennis_origin"
  | .tennisTransition => "tennis_transition"
  | .bookTransition => "book_transition"
  | .bookResnapshotRequired => "book_resnapshot_required"
  | .clock => "clock"

inductive SyncReason where
  | trustedSynchronized | duplicateStateSuppressed | snapshotIncomplete | scoreStale | bookStale
  | lifecycleStale | bookUntrusted | bookNotExecutable | marketNotOpen | marketSuspended
  | marketEnded | unknownServer | bindingAmbiguous | bindingDrift | sequenceGap
  | unexplainedBookMove | matchNotStarted | matchSuspended | matchEnded | correctionPending
  | contractMismatch | clockUncertain | closeHorizonInsufficient
  deriving DecidableEq

/-- The exceptions of the expert modules, with what they carry. -/
inductive ExpertError where
  /-- `ExpertContractError(name)` -/
  | contract (name : String)
  /-- `TennisTransitionError(reason)` -/
  | transition (reason : TennisTransitionReason)
  /-- `TennisStateInvariantError()` -/
  | tennisInvariant
  /-- `SynchronizationSessionDriftError()` -/
  | drift
  /-- `decimal.DecimalException` -/
  | decimal
  /-- `AssertionError` -/
  | assertion
  /-- `KeyError` -/
  | key
  deriving DecidableEq

/-- What `except (TypeError, ValueError)` catches. -/
def ExpertError.isValueError : ExpertError → Bool
  | .contract _ | .transition _ => true
  | _ => false

/-- What `except (TypeError, ValueError, RuntimeError)` catches. -/
def ExpertError.isRuntimeError : ExpertError → Bool
  | .contract _ | .transition _ | .tennisInvariant | .drift => true
  | _ => false

/-- A validator: it accepts or raises. -/
abbrev Check := Except ExpertError Unit

end Inci.Expert
