/-
# Market.Book -- the book operations

The functions of `market_book` that build and change a book.  Building a record
runs its constructor; an early `return _no_event(..)` out of the arithmetic of a
delta is the answer `none` of `deltaLevels`.
-/
import Inci.Market.Contracts

namespace Inci.Market

open Inci.Theory Inci.Expert

set_option autoImplicit false

def BookLevel.construct (l : BookLevel) : Except ExpertError BookLevel := do
  l.postInit
  pure l

def BookState.construct (s : BookState) : Except ExpertError BookState := do
  s.postInit
  pure s

def BookTransitionResult.construct (r : BookTransitionResult) :
    Except ExpertError BookTransitionResult := do
  r.postInit
  pure r

/-- `_gapped_copy`, before it is constructed. -/
def gapped (state : BookState) : BookState := { state with trusted := false, sequenceGap := true }

/-- `_no_event` -/
def noEvent (state : BookState) : Except ExpertError BookTransitionResult :=
  BookTransitionResult.construct
    { state
      acceptedEventKind := none
      acceptedEventSha256 := none
      executableMove := 0
      moveObservedMonotonicNs := none
      connectionEpoch := state.connectionEpoch
      sequence := state.sequence
      topOfBookChanged := false }

/-- `_no_event(_gapped_copy(state))` -/
def gap (state : BookState) : Except ExpertError BookTransitionResult := do
  let copy ← (gapped state).construct
  noEvent copy

/-- `_ALLOWED_STATUS_TRANSITIONS` -/
def allowedStatusTransitions : MarketStatus → List MarketStatus
  | .preopen => [.preopen, .open, .suspended, .closed, .cancelled]
  | .open => [.open, .suspended, .closed, .cancelled]
  | .suspended => [.suspended, .open, .closed, .cancelled]
  | .closed => [.closed, .settled, .cancelled]
  | .settled => [.settled]
  | .cancelled => [.cancelled]

def statusTransitionAllowed (current incoming : MarketStatus) : Bool :=
  (allowedStatusTransitions current).contains incoming

/-! ## Moves -/

/-- The ask a bid of the other side implies. -/
def bestAsk (bids : List BookLevel) : Except ExpertError (Option Decimal) :=
  match bids with
  | [] => pure none
  | level :: _ => some <$> contextSub 1 level.price

/-- `_one_side_move` -/
def oneSideMove (before after : Option Decimal) : Except ExpertError Decimal :=
  match before, after with
  | none, none => pure 0
  | some before, some after => do
      let difference ← contextSub after before
      decimalContext.round .decimal |difference.value|
  | _, _ => pure 1

/-- `_executable_move` -/
def executableMove (beforeYes beforeNo afterYes afterNo : List BookLevel) :
    Except ExpertError Decimal := do
  let beforeYesAsk ← bestAsk beforeNo
  let beforeNoAsk ← bestAsk beforeYes
  let afterYesAsk ← bestAsk afterNo
  let afterNoAsk ← bestAsk afterYes
  let yesMove ← oneSideMove beforeYesAsk afterYesAsk
  let noMove ← oneSideMove beforeNoAsk afterNoAsk
  pure (max yesMove noMove)

/-- The wrapper of the arithmetic: a decimal signal becomes a contract error. -/
def arithmetic {α : Type} (attempt : Except ExpertError α) : Except ExpertError α :=
  recover attempt (· = .decimal) (.contract "book_decimal_arithmetic")

/-! ## Snapshots -/

/-- The trusted state a snapshot installs, with its move and its digest. -/
def snapshotState (snapshot : BookSnapshot) (move : Decimal) (digest : String) : BookState :=
  { ticker := snapshot.ticker
    connectionEpoch := snapshot.connectionEpoch
    sequence := snapshot.sequence
    marketStatus := snapshot.marketStatus
    scheduledCloseWallNs := snapshot.scheduledCloseWallNs
    bookSourceWallNs := snapshot.sourceWallNs
    bookObservedMonotonicNs := snapshot.observedMonotonicNs
    bookClockUncertaintyNs := snapshot.clockUncertaintyNs
    lifecycleSourceWallNs := snapshot.sourceWallNs
    lifecycleObservedMonotonicNs := snapshot.observedMonotonicNs
    lifecycleClockUncertaintyNs := snapshot.clockUncertaintyNs
    yesBids := snapshot.yesBids
    noBids := snapshot.noBids
    trusted := true
    sequenceGap := false
    lastExecutableMove := move
    lastExecutableMoveMonotonicNs := snapshot.observedMonotonicNs
    lastSnapshotSha256 := digest
    lastEventSha256 := digest }

/-- The result that accepts a snapshot or a delta. -/
def accepted (state : BookState) (kind : BookEventKind) (observedMonotonicNs : Nat)
    (changed : Bool) : BookTransitionResult :=
  { state
    acceptedEventKind := some kind
    acceptedEventSha256 := some state.lastEventSha256
    executableMove := state.lastExecutableMove
    moveObservedMonotonicNs := some observedMonotonicNs
    connectionEpoch := state.connectionEpoch
    sequence := state.sequence
    topOfBookChanged := changed }

/-- `book_from_snapshot` -/
def bookFromSnapshot (snapshot : BookSnapshot) : Except ExpertError BookTransitionResult := do
  let digest ← expertContractSha256 snapshot.py
  let state ← (snapshotState snapshot 0 digest).construct
  (accepted state .snapshot snapshot.observedMonotonicNs false).construct

/-- `require_book_resnapshot` -/
def requireBookResnapshot (state : BookState) : Except ExpertError BookState :=
  if state.trusted = false ∧ state.sequenceGap = true then pure state
  else (gapped state).construct

/-- `apply_book_snapshot` -/
def applyBookSnapshot (state : BookState) (snapshot : BookSnapshot) :
    Except ExpertError BookTransitionResult := do
  refuse (snapshot.ticker ≠ state.ticker) (.contract "book_ticker_mismatch")
  refuse (state.trusted = true ∨ state.sequenceGap = false) (.contract "book_snapshot_not_required")
  refuse (snapshot.connectionEpoch < state.connectionEpoch) (.contract "book_snapshot_epoch_stale")
  refuse (snapshot.connectionEpoch = state.connectionEpoch)
    (.contract "book_snapshot_epoch_not_newer")
  refuse (snapshot.observedMonotonicNs <
    max state.bookObservedMonotonicNs state.lifecycleObservedMonotonicNs)
    (.contract "book_time_regression")
  if statusTransitionAllowed state.marketStatus snapshot.marketStatus = false then gap state
  else do
    let move ← arithmetic
      (executableMove state.yesBids state.noBids snapshot.yesBids snapshot.noBids)
    let digest ← expertContractSha256 snapshot.py
    let replacement ← (snapshotState snapshot move digest).construct
    (accepted replacement .snapshot snapshot.observedMonotonicNs (decide (0 < move))).construct

/-! ## Deltas -/

/-- The new level of a delta, none when it deletes. -/
def deltaLevel (delta : BookDelta) : Except ExpertError (Option BookLevel) :=
  if delta.quantity = 0 then pure none
  else some <$> BookLevel.construct ⟨delta.price, delta.quantity⟩

def selectedLevels (state : BookState) (delta : BookDelta) : List BookLevel :=
  if delta.contractSide = .yes then state.yesBids else state.noBids

/-- The ladders after a delta and the move it makes; `none` where the source
returns early with a gap. -/
def deltaLevels (state : BookState) (delta : BookDelta) :
    Except ExpertError (Option (List BookLevel × List BookLevel × Decimal)) :=
  let selected := selectedLevels state delta
  if delta.quantity = 0 ∧ (selected.findIdx? fun l => l.price = delta.price) = none then pure none
  else do
    let level ← deltaLevel delta
    let updatedLevels := update BookLevel.price selected delta.price level
    let yesBids := if delta.contractSide = .yes then updatedLevels else state.yesBids
    let noBids := if delta.contractSide = .yes then state.noBids else updatedLevels
    let cross ← crossed yesBids noBids
    if cross = true then pure none
    else do
      let move ← executableMove state.yesBids state.noBids yesBids noBids
      pure (some (yesBids, noBids, move))

/-- The state after an accepted delta. -/
def deltaState (state : BookState) (delta : BookDelta) (yesBids noBids : List BookLevel)
    (move : Decimal) (digest : String) : BookState :=
  { state with
    connectionEpoch := delta.connectionEpoch
    sequence := delta.sequence
    bookSourceWallNs := delta.sourceWallNs
    bookObservedMonotonicNs := delta.observedMonotonicNs
    bookClockUncertaintyNs := delta.clockUncertaintyNs
    yesBids
    noBids
    trusted := true
    sequenceGap := false
    lastExecutableMove := move
    lastExecutableMoveMonotonicNs := delta.observedMonotonicNs
    lastEventSha256 := digest }

/-- `apply_book_delta` -/
def applyBookDelta (state : BookState) (delta : BookDelta) :
    Except ExpertError BookTransitionResult := do
  refuse (delta.ticker ≠ state.ticker) (.contract "book_ticker_mismatch")
  refuse (state.trusted = false ∨ state.sequenceGap = true) (.contract "book_resnapshot_required")
  refuse (delta.connectionEpoch < state.connectionEpoch) (.contract "book_epoch_stale")
  if state.connectionEpoch < delta.connectionEpoch then gap state
  else if delta.observedMonotonicNs < state.bookObservedMonotonicNs then gap state
  else if delta.sequence ≤ state.sequence then gap state
  else if state.sequence + 1 < delta.sequence then gap state
  else do
    match ← arithmetic (deltaLevels state delta) with
    | none => gap state
    | some (yesBids, noBids, move) =>
        let digest ← expertContractSha256 delta.py
        let replacement ← (deltaState state delta yesBids noBids move digest).construct
        (accepted replacement .delta delta.observedMonotonicNs (decide (0 < move))).construct

/-! ## Market lifecycle -/

/-- The state after an accepted lifecycle event, trusted or not as it was. -/
def lifecycleState (state : BookState) (lifecycle : MarketLifecycle) (digest : String) :
    BookState :=
  { state with
    marketStatus := lifecycle.marketStatus
    scheduledCloseWallNs := lifecycle.scheduledCloseWallNs
    lifecycleSourceWallNs := lifecycle.sourceWallNs
    lifecycleObservedMonotonicNs := lifecycle.observedMonotonicNs
    lifecycleClockUncertaintyNs := lifecycle.clockUncertaintyNs
    lastEventSha256 := digest }

/-- `apply_market_lifecycle` -/
def applyMarketLifecycle (state : BookState) (lifecycle : MarketLifecycle) :
    Except ExpertError BookTransitionResult := do
  refuse (lifecycle.ticker ≠ state.ticker) (.contract "book_ticker_mismatch")
  refuse (lifecycle.connectionEpoch < state.connectionEpoch) (.contract "book_epoch_stale")
  if state.connectionEpoch < lifecycle.connectionEpoch then gap state
  else do
    refuse (lifecycle.observedMonotonicNs < state.lifecycleObservedMonotonicNs)
      (.contract "lifecycle_time_regression")
    if lifecycle.observedMonotonicNs = state.lifecycleObservedMonotonicNs then
      if lifecycle.marketStatus = state.marketStatus ∧
          lifecycle.scheduledCloseWallNs = state.scheduledCloseWallNs ∧
          lifecycle.sourceWallNs = state.lifecycleSourceWallNs ∧
          lifecycle.clockUncertaintyNs = state.lifecycleClockUncertaintyNs then
        noEvent state
      else gap state
    else if statusTransitionAllowed state.marketStatus lifecycle.marketStatus = false then gap state
    else do
      let digest ← expertContractSha256 lifecycle.py
      let replacement ← (lifecycleState state lifecycle digest).construct
      BookTransitionResult.construct
        { state := replacement
          acceptedEventKind := some .lifecycle
          acceptedEventSha256 := some digest
          executableMove := 0
          moveObservedMonotonicNs := none
          connectionEpoch := replacement.connectionEpoch
          sequence := replacement.sequence
          topOfBookChanged := false }

end Inci.Market
