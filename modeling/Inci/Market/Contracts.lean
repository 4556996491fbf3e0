/-
# Market.Contracts -- order books and the events that change them

The dataclasses of the market part with their `__post_init__` checks.  A ladder
is a tuple of levels in strictly descending price; two ladders cross when their
best bids add up, in the 80-digit context of the contracts, to more than one.
-/
import Inci.Expert.Canonical
import Inci.Theory.Ladder

namespace Inci.Market

open Inci.Theory Inci.Expert

set_option autoImplicit false

/-- `_DECIMAL_CONTEXT`: 80 digits, and the exponent limits every context starts with. -/
def decimalContext : DecimalContext := ⟨80, 999999, -1000078⟩

def contextAdd (x y : Decimal) : Except ExpertError Decimal :=
  decimalContext.round .decimal (x.value + y.value)

def contextSub (x y : Decimal) : Except ExpertError Decimal :=
  decimalContext.round .decimal (x.value - y.value)

/-! ## Levels and ladders -/

structure BookLevel where
  price : Decimal
  quantity : Decimal
  deriving DecidableEq

def BookLevel.postInit (self : BookLevel) : Check := do
  probability self.price "price"
  positiveQuantity self.quantity "quantity"

/-- `_validate_ladder`: each price below the one before it. -/
def validateLadder (name : String) : List BookLevel → Check
  | [] => .ok ()
  | [_] => .ok ()
  | a :: b :: rest => do
      refuse (a.price ≤ b.price) (.contract name)
      validateLadder name (b :: rest)

/-- Whether the best bids of the two ladders add up to more than one. -/
def crossed (yesBids noBids : List BookLevel) : Except ExpertError Bool :=
  match yesBids, noBids with
  | yes :: _, no :: _ => do
      let sum ← contextAdd yes.price no.price
      pure (decide (1 < sum))
  | _, _ => pure false

/-- `_validate_book_ladders` -/
def validateBookLadders (yesBids noBids : List BookLevel) : Check := do
  validateLadder "yes_bids" yesBids
  validateLadder "no_bids" noBids
  let cross ← crossed yesBids noBids
  refuse (cross = true) (.contract "crossed_book")

/-! ## Events -/

structure BookSnapshot where
  ticker : String
  connectionEpoch : Nat
  sequence : Nat
  marketStatus : MarketStatus
  scheduledCloseWallNs : Nat
  sourceWallNs : Nat
  observedMonotonicNs : Nat
  clockUncertaintyNs : Nat
  yesBids : List BookLevel
  noBids : List BookLevel
  deriving DecidableEq

def BookSnapshot.postInit (self : BookSnapshot) : Check := do
  Expert.ticker self.ticker "ticker"
  integer self.connectionEpoch "connection_epoch"
  positiveInteger self.sequence "sequence"
  integer self.scheduledCloseWallNs "scheduled_close_wall_ns"
  integer self.sourceWallNs "source_wall_ns"
  integer self.observedMonotonicNs "observed_monotonic_ns"
  integer self.clockUncertaintyNs "clock_uncertainty_ns"
  validateBookLadders self.yesBids self.noBids

structure BookDelta where
  ticker : String
  connectionEpoch : Nat
  sequence : Nat
  sourceWallNs : Nat
  observedMonotonicNs : Nat
  clockUncertaintyNs : Nat
  contractSide : ContractSide
  price : Decimal
  quantity : Decimal
  deriving DecidableEq

def BookDelta.postInit (self : BookDelta) : Check := do
  Expert.ticker self.ticker "ticker"
  integer self.connectionEpoch "connection_epoch"
  positiveInteger self.sequence "sequence"
  integer self.sourceWallNs "source_wall_ns"
  integer self.observedMonotonicNs "observed_monotonic_ns"
  integer self.clockUncertaintyNs "clock_uncertainty_ns"
  probability self.price "price"
  Expert.quantity self.quantity "quantity"

structure MarketLifecycle where
  ticker : String
  connectionEpoch : Nat
  marketStatus : MarketStatus
  scheduledCloseWallNs : Nat
  sourceWallNs : Nat
  observedMonotonicNs : Nat
  clockUncertaintyNs : Nat
  deriving DecidableEq

def MarketLifecycle.postInit (self : MarketLifecycle) : Check := do
  Expert.ticker self.ticker "ticker"
  integer self.connectionEpoch "connection_epoch"
  integer self.scheduledCloseWallNs "scheduled_close_wall_ns"
  integer self.sourceWallNs "source_wall_ns"
  integer self.observedMonotonicNs "observed_monotonic_ns"
  integer self.clockUncertaintyNs "clock_uncertainty_ns"

/-! ## The book state -/

structure BookState where
  ticker : String
  connectionEpoch : Nat
  sequence : Nat
  marketStatus : MarketStatus
  scheduledCloseWallNs : Nat
  bookSourceWallNs : Nat
  bookObservedMonotonicNs : Nat
  bookClockUncertaintyNs : Nat
  lifecycleSourceWallNs : Nat
  lifecycleObservedMonotonicNs : Nat
  lifecycleClockUncertaintyNs : Nat
  yesBids : List BookLevel
  noBids : List BookLevel
  trusted : Bool
  sequenceGap : Bool
  lastExecutableMove : Decimal
  lastExecutableMoveMonotonicNs : Nat
  lastSnapshotSha256 : String
  lastEventSha256 : String
  deriving DecidableEq

def BookState.postInit (self : BookState) : Check := do
  Expert.ticker self.ticker "ticker"
  integer self.connectionEpoch "connection_epoch"
  positiveInteger self.sequence "sequence"
  integer self.scheduledCloseWallNs "scheduled_close_wall_ns"
  integer self.bookSourceWallNs "book_source_wall_ns"
  integer self.bookObservedMonotonicNs "book_observed_monotonic_ns"
  integer self.bookClockUncertaintyNs "book_clock_uncertainty_ns"
  integer self.lifecycleSourceWallNs "lifecycle_source_wall_ns"
  integer self.lifecycleObservedMonotonicNs "lifecycle_observed_monotonic_ns"
  integer self.lifecycleClockUncertaintyNs "lifecycle_clock_uncertainty_ns"
  validateBookLadders self.yesBids self.noBids
  refuse (self.trusted ≠ !self.sequenceGap) (.contract "trusted")
  probability self.lastExecutableMove "last_executable_move"
  integer self.lastExecutableMoveMonotonicNs "last_executable_move_monotonic_ns"
  refuse (self.bookObservedMonotonicNs < self.lastExecutableMoveMonotonicNs)
    (.contract "last_executable_move_monotonic_ns")
  sha256 self.lastSnapshotSha256 "last_snapshot_sha256"
  sha256 self.lastEventSha256 "last_event_sha256"

structure BookTransitionResult where
  state : BookState
  acceptedEventKind : Option BookEventKind
  acceptedEventSha256 : Option String
  executableMove : Decimal
  moveObservedMonotonicNs : Option Nat
  connectionEpoch : Nat
  sequence : Nat
  topOfBookChanged : Bool
  deriving DecidableEq

def BookTransitionResult.postInit (self : BookTransitionResult) : Check := do
  checkSome (sha256 · "accepted_event_sha256") self.acceptedEventSha256
  probability self.executableMove "executable_move"
  checkSome (integer · "move_observed_monotonic_ns") self.moveObservedMonotonicNs
  integer self.connectionEpoch "connection_epoch"
  positiveInteger self.sequence "sequence"
  refuse (self.acceptedEventKind.isNone ≠ self.acceptedEventSha256.isNone)
    (.contract "accepted_event")
  refuse (self.connectionEpoch ≠ self.state.connectionEpoch) (.contract "connection_epoch")
  refuse (self.sequence ≠ self.state.sequence) (.contract "sequence")
  match self.acceptedEventKind with
  | none =>
      refuse (self.executableMove ≠ 0 ∨ self.moveObservedMonotonicNs.isSome ∨
        self.topOfBookChanged = true) (.contract "event_move")
  | some .lifecycle => do
      refuse (self.executableMove ≠ 0 ∨ self.moveObservedMonotonicNs.isSome ∨
        self.topOfBookChanged = true) (.contract "event_move")
      refuse (self.acceptedEventSha256 ≠ some self.state.lastEventSha256)
        (.contract "accepted_event_sha256")
  | some kind => do
      refuse (self.state.trusted = false ∨ self.state.sequenceGap = true)
        (.contract "accepted_event_state")
      refuse (self.executableMove ≠ self.state.lastExecutableMove ∨
        self.moveObservedMonotonicNs ≠ some self.state.bookObservedMonotonicNs ∨
        self.moveObservedMonotonicNs ≠ some self.state.lastExecutableMoveMonotonicNs ∨
        self.topOfBookChanged ≠ decide (0 < self.executableMove)) (.contract "event_move")
      refuse (self.acceptedEventSha256 ≠ some self.state.lastEventSha256)
        (.contract "accepted_event_sha256")
      refuse (kind = .snapshot ∧ self.acceptedEventSha256 ≠ some self.state.lastSnapshotSha256)
        (.contract "accepted_event_sha256")

/-! ## Projections -/

def BookLevel.py (l : BookLevel) : PyValue :=
  .contract "BookLevel" [("price", .decimal l.price), ("quantity", .decimal l.quantity)]

def BookSnapshot.py (s : BookSnapshot) : PyValue := .contract "BookSnapshot" [
  ("ticker", .text s.ticker), ("connection_epoch", .nat s.connectionEpoch),
  ("sequence", .nat s.sequence), ("market_status", s.marketStatus.py),
  ("scheduled_close_wall_ns", .nat s.scheduledCloseWallNs),
  ("source_wall_ns", .nat s.sourceWallNs),
  ("observed_monotonic_ns", .nat s.observedMonotonicNs),
  ("clock_uncertainty_ns", .nat s.clockUncertaintyNs),
  ("yes_bids", .tuple (s.yesBids.map BookLevel.py)),
  ("no_bids", .tuple (s.noBids.map BookLevel.py))]

def BookDelta.py (d : BookDelta) : PyValue := .contract "BookDelta" [
  ("ticker", .text d.ticker), ("connection_epoch", .nat d.connectionEpoch),
  ("sequence", .nat d.sequence), ("source_wall_ns", .nat d.sourceWallNs),
  ("observed_monotonic_ns", .nat d.observedMonotonicNs),
  ("clock_uncertainty_ns", .nat d.clockUncertaintyNs), ("contract_side", d.contractSide.py),
  ("price", .decimal d.price), ("quantity", .decimal d.quantity)]

def MarketLifecycle.py (l : MarketLifecycle) : PyValue := .contract "MarketLifecycle" [
  ("ticker", .text l.ticker), ("connection_epoch", .nat l.connectionEpoch),
  ("market_status", l.marketStatus.py),
  ("scheduled_close_wall_ns", .nat l.scheduledCloseWallNs),
  ("source_wall_ns", .nat l.sourceWallNs),
  ("observed_monotonic_ns", .nat l.observedMonotonicNs),
  ("clock_uncertainty_ns", .nat l.clockUncertaintyNs)]

def BookState.py (s : BookState) : PyValue := .contract "BookState" [
  ("ticker", .text s.ticker), ("connection_epoch", .nat s.connectionEpoch),
  ("sequence", .nat s.sequence), ("market_status", s.marketStatus.py),
  ("scheduled_close_wall_ns", .nat s.scheduledCloseWallNs),
  ("book_source_wall_ns", .nat s.bookSourceWallNs),
  ("book_observed_monotonic_ns", .nat s.bookObservedMonotonicNs),
  ("book_clock_uncertainty_ns", .nat s.bookClockUncertaintyNs),
  ("lifecycle_source_wall_ns", .nat s.lifecycleSourceWallNs),
  ("lifecycle_observed_monotonic_ns", .nat s.lifecycleObservedMonotonicNs),
  ("lifecycle_clock_uncertainty_ns", .nat s.lifecycleClockUncertaintyNs),
  ("yes_bids", .tuple (s.yesBids.map BookLevel.py)),
  ("no_bids", .tuple (s.noBids.map BookLevel.py)), ("trusted", .bool s.trusted),
  ("sequence_gap", .bool s.sequenceGap), ("last_executable_move", .decimal s.lastExecutableMove),
  ("last_executable_move_monotonic_ns", .nat s.lastExecutableMoveMonotonicNs),
  ("last_snapshot_sha256", .text s.lastSnapshotSha256),
  ("last_event_sha256", .text s.lastEventSha256)]

def BookTransitionResult.py (r : BookTransitionResult) : PyValue :=
  .contract "BookTransitionResult" [
    ("state", r.state.py), ("accepted_event_kind", .option BookEventKind.py r.acceptedEventKind),
    ("accepted_event_sha256", .option .text r.acceptedEventSha256),
    ("executable_move", .decimal r.executableMove),
    ("move_observed_monotonic_ns", .option .nat r.moveObservedMonotonicNs),
    ("connection_epoch", .nat r.connectionEpoch), ("sequence", .nat r.sequence),
    ("top_of_book_changed", .bool r.topOfBookChanged)]

end Inci.Market
