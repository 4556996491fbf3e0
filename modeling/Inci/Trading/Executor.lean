/-
# Trading.Executor -- delayed immediate-or-cancel orders

An order becomes due after the simulated latency and gets one attempt against
the book of the tick that first reaches it: it is filled, wholly or in part, or
dropped.  A ticker has at most one working order.
-/
import Inci.Trading.Strategy

namespace Inci.Trading

open Inci.Theory

set_option autoImplicit false

variable {Time Day : Type} [LinearOrder Time] [Zero Time] [Add Time] [Sub Time] [DecidableEq Day]

/-- `"stop-loss" in reason` -/
def isStop (reason : String) : Bool := decide ("stop-loss".toList <:+: reason.toList)

/-- `reason.startswith("time exit")` -/
def isTime (reason : String) : Bool := decide ("time exit".toList <+: reason.toList)

section

omit [LinearOrder Time] [Zero Time] [Add Time] [Sub Time] [DecidableEq Day]

namespace PendingPaperOrder

def isFor (order : PendingPaperOrder Time) (ticker : String) (side : OrderSide) : Prop :=
  order.ticker = ticker ∧ order.side = side

instance (order : PendingPaperOrder Time) (ticker : String) (side : OrderSide) :
    Decidable (order.isFor ticker side) := inferInstanceAs (Decidable (_ ∧ _))

/-- The order under a higher exit reason: marketable, its due time kept. -/
def retag (order : PendingPaperOrder Time) (reason : String) : PendingPaperOrder Time :=
  { order with reason := reason, limitPrice := none }

end PendingPaperOrder

namespace Context

variable (s : Context Time Day)

/-- Whether any order of the ticker is working. -/
def busy (ticker : String) : Prop := ∃ order ∈ s.pendingPaper, order.ticker = ticker

instance (ticker : String) : Decidable (s.busy ticker) :=
  inferInstanceAs (Decidable (∃ order ∈ s.pendingPaper, order.ticker = ticker))

def getPending (ticker : String) (side : OrderSide) : Option (PendingPaperOrder Time) :=
  s.pendingPaper.find? fun order => order.isFor ticker side

def hasPending (ticker : String) (side : OrderSide) : Prop :=
  ∃ order ∈ s.pendingPaper, order.isFor ticker side

instance (ticker : String) (side : OrderSide) : Decidable (s.hasPending ticker side) :=
  inferInstanceAs (Decidable (∃ order ∈ s.pendingPaper, order.isFor ticker side))

def pendingCount (side : OrderSide) : Nat :=
  (s.pendingPaper.filter fun order => order.side = side).length

/-- `cancel_pending_paper` of a ticker and side. -/
def cancelPending (ticker : String) (side : OrderSide) : Context Time Day :=
  { s with
    pendingPaper := s.pendingPaper.filter fun order => ¬order.isFor ticker side
    history := s.history ++
      (s.pendingPaper.filter fun order => order.isFor ticker side).map .canceled }

end Context

/-- The first working SELL of the ticker, retagged. -/
def upgradeFirst (ticker reason : String) :
    List (PendingPaperOrder Time) → List (PendingPaperOrder Time)
  | [] => []
  | order :: rest =>
      if order.isFor ticker .sell then order.retag reason :: rest
      else order :: upgradeFirst ticker reason rest

/-- `upgrade_pending_paper_exit` -/
def upgradePendingPaperExit (ticker reason : String) : Engine Time Day Unit :=
  modify fun s => { s with pendingPaper := upgradeFirst ticker reason s.pendingPaper }

end

section

variable (inst : Installation Time Day)

omit [LinearOrder Time] [Zero Time] [Sub Time] [DecidableEq Day] in
/-- The order `submit_paper` makes: the touch is the bound of an order that is
neither a stop nor a time exit, and the latency delays it. -/
def paperOrder (book : Book) (ticker : String) (side : OrderSide) (contracts : Decimal)
    (reason : String) (now : Time) (basis : Option (Position Time)) : PendingPaperOrder Time where
  ticker := ticker
  side := side
  contracts := contracts
  dueAt := now + inst.cfg.simLatencyS
  reason := reason
  limitPrice := if isStop reason ∨ isTime reason then none
    else match side with
      | .buy => book.ask
      | .sell => book.bid
  entryPrice := basis.map (·.entryPrice)
  entryContracts := basis.map (·.contracts)
  entryFeeUsd := basis.map (·.entryFeeUsd)

/-- `submit_paper`: nothing while the ticker has a working order. -/
def submitPaper (order : PendingPaperOrder Time) : Engine Time Day Unit := do
  let s ← get
  if s.busy order.ticker then pure ()
  else modify fun s => ({ s with pendingPaper := s.pendingPaper ++ [order] }).act (.submitted order)

/-- The price and the depth an order meets in the book, unless its bound refuses them. -/
def arrivalPrice (order : PendingPaperOrder Time) (book : Book) :
    Except EngineError (Option (Decimal × Option Decimal)) :=
  match order.side with
  | .buy =>
      match book.ask with
      | none => pure none
      | some ask =>
          if ∃ limit, order.limitPrice = some limit ∧ limit < ask then pure none
          else pure (some (ask, book.askQty))
  | .sell =>
      match book.bid with
      | none => pure none
      | some bid =>
          if isStop order.reason then do
            let slipped ← subtract bid inst.cfg.simSlippageCents
            pure (some (max 0 slipped, book.bidQty))
          else if isTime order.reason then pure (some (bid, book.bidQty))
          else if ∃ limit, order.limitPrice = some limit ∧ bid < limit then pure none
          else pure (some (bid, book.bidQty))

/-- What a take-profit SELL earns over its cost basis, when the basis is usable. -/
def basisPnl (order : PendingPaperOrder Time) (price filled fee : Decimal) :
    Except EngineError (Option Decimal) :=
  match order.entryPrice, order.entryContracts, order.entryFeeUsd with
  | some entryPrice, some entryContracts, some entryFee =>
      if entryContracts ≤ 0 ∨ entryFee < 0 ∨ entryContracts < filled then pure none
      else do
        let weighted ← multiply entryFee filled
        let entryFeePart ← divide weighted entryContracts
        let move ← subtract price entryPrice
        let sized ← multiply move filled
        let gross ← divide sized hundred
        let net ← subtract gross fee
        let projected ← subtract net entryFeePart
        pure (some projected)
  | _, _, _ => pure none

/-- `_paper_fill`: the one attempt of a due order. -/
def paperFill (order : PendingPaperOrder Time) (book : Book) :
    Except EngineError (Option Fill) := do
  match ← arrivalPrice inst order book with
  | none => pure none
  | some (price, depth) =>
      let filled := min order.contracts (depth.getD 0)
      if filled ≤ 0 then pure none
      else do
        let loses ← match order.side with
          | .buy => do
              let projected ← projectedScalpPnlUsd price inst.cfg.takeProfit filled
                inst.cfg.balancePrecisionUsd
              pure (decide (projected ≤ 0))
          | .sell => pure false
        if loses then pure none
        else do
          let fee ← feeUsd price filled order.side inst.cfg.balancePrecisionUsd
          if order.side = .sell ∧ ¬isStop order.reason ∧ ¬isTime order.reason then do
            match ← basisPnl order price filled fee with
            | none => pure none
            | some projected => pure (if projected ≤ 0 then none else some ⟨price, filled, fee⟩)
          else pure (some ⟨price, filled, fee⟩)

/-- Whether the tick's quote consumes the order. -/
def PendingPaperOrder.isDue (order : PendingPaperOrder Time) (now : Time) (ticker : String) : Prop :=
  order.dueAt ≤ now ∧ order.ticker = ticker

instance (order : PendingPaperOrder Time) (now : Time) (ticker : String) :
    Decidable (order.isDue now ticker) := inferInstanceAs (Decidable (_ ∧ _))

/-- The attempts of the due orders, in order; an expired one is not attempted. -/
def attemptAll (feed : Feed Time) (now : Time) :
    List (PendingPaperOrder Time) →
      Except EngineError (List (PendingPaperOrder Time × Option Fill))
  | [] => pure []
  | order :: rest => do
      let fill ← if order.dueAt + inst.cfg.fillTimeoutS < now then pure none
        else paperFill inst order (feed.topOfBook order.ticker)
      let results ← attemptAll feed now rest
      pure ((order, fill) :: results)

/-- `process_due_paper_orders`: a failing attempt leaves every order working. -/
def processDuePaperOrders (feed : Feed Time) (now : Time) (ticker : String) :
    Engine Time Day (List (PendingPaperOrder Time × Option Fill)) := do
  let s ← get
  let results ← ofExcept (attemptAll inst feed now
    (s.pendingPaper.filter fun order => order.isDue now ticker))
  modify fun s => { s with
    pendingPaper := s.pendingPaper.filter fun order => ¬order.isDue now ticker }
  pure results

end

end Inci.Trading
