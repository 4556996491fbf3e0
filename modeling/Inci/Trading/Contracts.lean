/-
# Trading.Contracts -- the state of the paper engine

The configuration the engine reads, its open positions and delayed orders, and
the context that holds them together with the marks, the day's realized result
and the halt reason.  Amounts are decimals in Python's default context.
Timestamps are floats of which the engine compares, adds and subtracts only, so
they are a type with those operations and no law about the sums.

`history` lists what the engine submitted, filled and canceled.  No function
reads it.
-/
import Inci.Theory.DecimalArithmetic
import Inci.Theory.Effects

namespace Inci.Trading

open Inci.Theory

set_option autoImplicit false

inductive OrderSide where
  | buy
  | sell
  deriving DecidableEq

/-- What stops a tick: a decimal signal, an invalid fee input, a ledger or a snapshot failure. -/
inductive EngineError where
  | decimal (signal : DecimalSignal)
  | value (text : String)
  deriving DecidableEq

/-- The fields of `Config` that the paper path reads. -/
structure Config (Time : Type) where
  dipThreshold : Decimal
  lookbackSeconds : Time
  takeProfit : Decimal
  tpTrailCents : Decimal
  stopLoss : Decimal
  maxHoldSeconds : Time
  closeBufferSeconds : Time
  contractsPerTrade : Decimal
  maxOpenPositions : Nat
  maxDailyLossUsd : Decimal
  minPrice : Decimal
  maxPrice : Decimal
  maxSpread : Decimal
  simLatencyS : Time
  simSlippageCents : Decimal
  balancePrecisionUsd : Decimal
  fillTimeoutS : Time
  staleDataS : Time
  oneContractPerEvent : Bool
  siblingSpikeCents : Decimal
  siblingSpikeLookbackS : Time

structure Position (Time : Type) where
  entryPrice : Decimal
  contracts : Decimal
  openedAt : Time
  entryFeeUsd : Decimal
  peakBid : Option Decimal
  deriving DecidableEq

/-- A delayed paper order.  The deprecated `resting` flag is always false. -/
structure PendingPaperOrder (Time : Type) where
  ticker : String
  side : OrderSide
  contracts : Decimal
  dueAt : Time
  reason : String
  limitPrice : Option Decimal
  entryPrice : Option Decimal
  entryContracts : Option Decimal
  entryFeeUsd : Option Decimal
  deriving DecidableEq

/-- A fill: price in cents, contracts and fee. -/
structure Fill where
  price : Decimal
  filled : Decimal
  fee : Decimal
  deriving DecidableEq

inductive Action (Time : Type) where
  | submitted (order : PendingPaperOrder Time)
  | canceled (order : PendingPaperOrder Time)
  /-- An order's fill, and the contracts held of its ticker just before it. -/
  | filled (order : PendingPaperOrder Time) (fill : Fill) (held : Option Decimal)
  deriving DecidableEq

/-- The daily ledger: the day and the result of every recorded closing. -/
structure Ledger (Day : Type) where
  entries : List (Day × Decimal)

structure Context (Time Day : Type) where
  positions : List (String × Position Time)
  realizedPnl : Decimal
  ledger : Option (Ledger Day)
  ledgerDay : Option Day
  pendingPaper : List (PendingPaperOrder Time)
  latestBid : String → Option Decimal
  bidTs : String → Option Time
  trippedReason : Option String
  history : List (Action Time)

/-! ## What a tick is given -/

/-- `top_of_book`: the best prices and the quantities at them. -/
structure Book where
  bid : Option Decimal
  bidQty : Option Decimal
  ask : Option Decimal
  askQty : Option Decimal

/-- The feed during a tick. -/
structure Feed (Time : Type) where
  topOfBook : String → Book
  closeTimes : String → Option Time
  history : String → List (Time × Decimal)

structure GateSnapshot where
  enabled : Bool
  allow : Bool
  reason : Option String

/-- The sibling evidence.  A rise is absent where its text is no decimal. -/
structure SiblingSnapshot where
  enabled : Bool
  complete : Bool
  rises : List (String × Option Decimal)
  error : Option String

/-- The arguments of one `process_tick` call, with the readings of the clock it
makes and the score and sibling evidence it is given or computes. -/
structure Tick (Time : Type) where
  ticker : String
  mid : Option Decimal
  bid : Option Decimal
  ask : Option Decimal
  observedAt : Time
  decisionAt : Option Time
  gate : Except EngineError GateSnapshot
  siblings : Except EngineError SiblingSnapshot
  feed : Feed Time
  clockAtArrival : Time
  clockAtRevaluation : Time

/-- What the engine is installed with: its configuration, the discovered Event of
each ticker, the ledger's calendar, and the text of a number under a format. -/
structure Installation (Time Day : Type) where
  cfg : Config Time
  eventTicker : String → Option String
  utcDay : Time → Day
  format : String → Decimal → String
  formatTime : String → Time → String

end Inci.Trading
