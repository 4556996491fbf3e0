/-
# Trading.LiveOrder -- one live order and its durable effects

`live` is `Executor._live`: it checks the fresh quote and the position, journals
the order, submits it, journals the acknowledgement, polls until the order is
terminal and resolved, and journals the outcome.  `liveOrder` is the branch of
`process_tick` around it, which records a fill in the strategy and journals it as
applied.

`effects` lists what the order has done that outlives a crash, with the end of
`record_fill`: the lines of the journal, the exchange's acceptance and the ledger
file.  A crash keeps a prefix of it.
-/
import Inci.Trading.DailyLedger
import Inci.Trading.OrderResolution

namespace Inci.Trading

open Inci.Theory Effect

set_option autoImplicit false

/-- The fields of `Config` that the live path reads. -/
structure LiveConfig (Time : Type) extends Config Time where
  paperTrading : Bool
  cancelTimeoutS : Time
  reconcileTimeoutS : Time
  timeInForce : String
  selfTradePreventionType : String
  subaccount : ℤ

/-- The feed of the order's ticker: the fresh quote with its time, the book, and
what is known of the market's close. -/
structure LiveFeed (Time : Type) where
  getQuote : Except String (Option Decimal × Option Decimal × Time)
  topOfBook : Book
  entryAllowed : Time → Time → Bool
  earlyCloseRisk : Bool

/-- The arguments of `execute`, with the client order id it makes, the day's time
and write that `record_fill` meets, and how many decimals the count and the price
in dollars are written with. -/
structure OrderRequest (Time : Type) where
  ticker : String
  side : OrderSide
  contracts : Decimal
  expectedPrePosition : Option Decimal
  maxEntryPrice : Option Decimal
  clientOrderId : String
  countPlaces : ℕ
  pricePlaces : ℕ
  now : Time
  freshId : String
  outcome : WriteOutcome

/-- The messages of `HaltError`, with the values they name. -/
inductive HaltError where
  | paper
  | disabled
  | noPrePosition
  | quote (ticker : String) (cause : String)
  | emptyBook (ticker : String)
  | noCap (ticker : String)
  | invalidCap
  | aboveCap (ticker : String) (ask cap : Decimal)
  | nearClose (ticker : String)
  | earlyClose (ticker : String)
  | requote (ticker : String) (bid ask projected : Decimal)
  | resolution (error : ResolutionError)
  | preMismatch (ticker : String) (expected got : Decimal)
  | sellBeyond (ticker : String) (requested position : Decimal)
  | buyAcross (ticker : String) (requested position : Decimal)
  | submit (clientOrderId : String) (cause : ClientError)
  | ackMismatch (orderId expected got : String)
  | ackExceeds (orderId : String) (fill remaining requested : Decimal)

/-- The messages of `build_order_body`. -/
inductive OrderFault where
  | negativeCount
  | countPlaces
  | zeroCount
  | priceRange
  | pricePlaces
  | timeInForce
  | selfTradePrevention
  | subaccount

inductive LiveError where
  | halt (error : HaltError)
  | schema (fault : OrderFault)
  | engine (error : EngineError)
  | fill (error : FillError)
  | unfinished

deriving instance DecidableEq for PnlFile

section

variable {σ Time Day : Type}

/-- What outlives a crash, and the end of `record_fill`. -/
inductive LiveEffect (Time Day : Type) where
  | journal (entry : JournalEntry)
  | exchange (accepted : Bool)
  | ledger (file : PnlFile Time Day)
  | recorded (call : LedgerCall Time)

structure LiveWorld (σ Time Day : Type) where
  session : Session σ
  strategy : DailyStrategy Time Day
  lastOutcomeId : Option String
  effects : List (LiveEffect Time Day)

abbrev Live (σ Time Day : Type) := Effect (LiveWorld σ Time Day) LiveError

namespace LiveWorld

def place (w : LiveWorld σ Time Day) (session : Session σ) : LiveWorld σ Time Day :=
  { w with session := session }

def leave (w : LiveWorld σ Time Day) (effects : List (LiveEffect Time Day)) :
    LiveWorld σ Time Day := { w with effects := w.effects ++ effects }

end LiveWorld

/-! ## Checks -/

def figure {α : Type} (result : Except EngineError α) : Except LiveError α := result.mapError .engine

def halt {α : Type} (error : HaltError) : Except LiveError α := throw (.halt error)

def freshQuote (feed : LiveFeed Time) (ticker : String) :
    Except LiveError (Decimal × Decimal × Time) :=
  match feed.getQuote with
  | .error cause => halt (.quote ticker cause)
  | .ok (some bid, some ask, observedAt) => pure (bid, ask, observedAt)
  | .ok (_, _, _) => halt (.emptyBook ticker)

/-- A buy is checked again against the fresh quote. -/
def requote [Add Time] (cfg : LiveConfig Time) (feed : LiveFeed Time) (order : OrderRequest Time)
    (bid ask : Decimal) (observedAt : Time) : Except LiveError Unit :=
  match order.maxEntryPrice with
  | none => halt (.noCap order.ticker)
  | some cap =>
      if ¬(0 < cap ∧ cap < hundred) then halt .invalidCap
      else if cap < ask then halt (.aboveCap order.ticker ask cap)
      else if ¬feed.entryAllowed observedAt (cfg.maxHoldSeconds + cfg.closeBufferSeconds) then
        halt (.nearClose order.ticker)
      else if feed.earlyCloseRisk then halt (.earlyClose order.ticker)
      else do
        let projected ← figure
          (projectedScalpPnlUsd ask cfg.takeProfit order.contracts cfg.balancePrecisionUsd)
        if ¬(cfg.minPrice ≤ ask ∧ ask ≤ cfg.maxPrice) then
          halt (.requote order.ticker bid ask projected)
        else do
          let spread ← figure (subtract ask bid)
          if cfg.maxSpread < spread ∨ projected ≤ 0 then
            halt (.requote order.ticker bid ask projected)
          else pure ()

def entryCheck [Add Time] (cfg : LiveConfig Time) (feed : LiveFeed Time) (order : OrderRequest Time)
    (bid ask : Decimal) (observedAt : Time) : Except LiveError Unit :=
  match order.side with
  | .buy => requote cfg feed order bid ask observedAt
  | .sell => pure ()

/-- The price of the order: the ask for a buy, the bid for a sale. -/
def bookPrice (feed : LiveFeed Time) (order : OrderRequest Time) : Option Decimal :=
  match order.side with
  | .buy => feed.topOfBook.ask
  | .sell => feed.topOfBook.bid

/-- The position the exchange reports, against the caller's and the order's. -/
def positionCheck (order : OrderRequest Time) (expected position : Decimal) :
    Except LiveError Unit :=
  if position ≠ expected then halt (.preMismatch order.ticker expected position)
  else
    match order.side with
    | .sell =>
        if position ≤ 0 ∨ position < order.contracts then
          halt (.sellBeyond order.ticker order.contracts position)
        else pure ()
    | .buy =>
        if position < 0 then do
          let room ← figure (negate position)
          if room < order.contracts then halt (.buyAcross order.ticker order.contracts position)
          else pure ()
        else pure ()

/-- `TIME_IN_FORCE_VALUES` and `SELF_TRADE_PREVENTION_VALUES` -/
def timeInForceValues : List String := ["fill_or_kill", "good_till_canceled", "immediate_or_cancel"]
def selfTradePreventionValues : List String := ["taker_at_cross", "maker"]

/-- `build_order_body` -/
def buildOrderBody (cfg : LiveConfig Time) (order : OrderRequest Time) (price : Decimal)
    (reduceOnly : Bool) : Except LiveError OrderBody :=
  if order.contracts < 0 then throw (.schema .negativeCount)
  else if 2 < order.countPlaces then throw (.schema .countPlaces)
  else if order.contracts ≤ 0 then throw (.schema .zeroCount)
  else do
    let dollars ← figure (divide price hundred)
    if ¬(0 < dollars ∧ dollars < 1) then throw (.schema .priceRange)
    else if 4 < order.pricePlaces then throw (.schema .pricePlaces)
    else if cfg.timeInForce ∉ timeInForceValues then throw (.schema .timeInForce)
    else if cfg.selfTradePreventionType ∉ selfTradePreventionValues then
      throw (.schema .selfTradePrevention)
    else if ¬(0 ≤ cfg.subaccount ∧ cfg.subaccount ≤ 32) then throw (.schema .subaccount)
    else pure ⟨order.ticker, order.clientOrderId, order.side, order.contracts, dollars,
      cfg.timeInForce, cfg.selfTradePreventionType, reduceOnly, cfg.subaccount⟩

def ackCheck (order : OrderRequest Time) (ack : CreateAck) : Except LiveError Unit :=
  if ack.clientOrderId.any fun id => id ≠ order.clientOrderId then
    halt (.ackMismatch ack.orderId order.clientOrderId (ack.clientOrderId.getD ""))
  else if ack.fillCount < 0 ∨ ack.remainingCount < 0 then
    halt (.ackExceeds ack.orderId ack.fillCount ack.remainingCount order.contracts)
  else do
    let shown ← figure (add ack.fillCount ack.remainingCount)
    if order.contracts < shown then
      halt (.ackExceeds ack.orderId ack.fillCount ack.remainingCount order.contracts)
    else pure ()

def OrderRequest.intent (order : OrderRequest Time) (position : Decimal) (ack : CreateAck) :
    OrderIntent :=
  ⟨ack.orderId, order.clientOrderId, order.ticker, order.side, order.contracts, position,
    ack.fillCount, ack.remainingCount⟩

/-! ## Lines of the journal -/

def submittedEntry (order : OrderRequest Time) (price position : Decimal) : JournalEntry where
  event := .submitted
  clientOrderId := some order.clientOrderId
  ticker := some order.ticker
  side := some order.side
  count := some order.contracts
  price := some price
  prePosition := some position

def ackedEntry (order : OrderRequest Time) (ack : CreateAck) : JournalEntry where
  event := .acked
  clientOrderId := some order.clientOrderId
  orderId := some ack.orderId
  ackFill := some ack.fillCount
  ackRemaining := some ack.remainingCount
  ackClientOrderId := ack.clientOrderId

def appliedEntry (orderId : String) : JournalEntry where
  event := .applied
  orderId := some orderId

/-! ## The order -/

def journalLine (entry : JournalEntry) : Live σ Time Day Unit :=
  modify fun w => w.leave [.journal entry]

/-- `except ResolutionError as e: raise HaltError(str(e)) from e` -/
def halting : Trouble → LiveError
  | .resolution error => .halt (.resolution error)
  | .engine error => .engine error
  | .unfinished => .unfinished

def consulting {α : Type} (m : Resolver σ α) : Live σ Time Day α :=
  (within LiveWorld.session LiveWorld.place m).handle fun trouble => throw (halting trouble)

variable (client : Client σ Time)

/-- `create_order`: the exchange may have accepted an order whose answer is lost. -/
def submit (body : OrderBody) : Live σ Time Day (Except ClientError CreateAck) := fun w =>
  let answer := client.createOrder body w.session.exchange
  (.ok answer.2.1, (w.place (w.session.place answer.2.2)).leave [.exchange answer.1])

variable [LinearOrder Time] [Zero Time] [Add Time] [OfScientific Time] [DecidableEq Day]
variable (utcDay : Time → Option Day) (cfg : LiveConfig Time) (polls : ℕ)

/-- `Executor._live` from the submission on. -/
def submitted (order : OrderRequest Time) (position : Decimal) (body : OrderBody) :
    Live σ Time Day (Option Fill) := do
  let answer ← submit client body
  match answer with
  | .error cause => throw (.halt (.submit order.clientOrderId cause))
  | .ok ack => do
      journalLine (ackedEntry order ack)
      ofExcept (ackCheck order ack)
      let intent := order.intent position ack
      let found ← consulting (pollTerminal client polls ack.orderId cfg.fillTimeoutS
        (some order.clientOrderId) none)
      let last ← consulting (cancelToTerminal client polls ack.orderId cfg.cancelTimeoutS
        (some order.clientOrderId) (some found))
      let result ← consulting (resolve client polls intent cfg.reconcileTimeoutS last)
      let canceled ← ofExcept (figure (canceledCount result))
      journalLine (outcomeEntry intent result canceled false)
      modify fun w => { w with lastOutcomeId := some ack.orderId }
      if result.filled = 0 then pure none
      else pure (some ⟨result.avgPrice, result.filled, result.fee⟩)

/-- `Executor._live` -/
def live (feed : LiveFeed Time) (order : OrderRequest Time) (expected : Decimal) :
    Live σ Time Day (Option Fill) := do
  let (bid, ask, observedAt) ← ofExcept (freshQuote feed order.ticker)
  ofExcept (entryCheck cfg feed order bid ask observedAt)
  match bookPrice feed order with
  | none => pure none
  | some price => do
      let position ← consulting (authoritativePosition client order.ticker "before submit")
      ofExcept (positionCheck order expected position)
      let body ← ofExcept
        (buildOrderBody cfg order price (decide (order.side = .sell ∨ position < 0)))
      journalLine (submittedEntry order price position)
      submitted client cfg polls order position body

/-- `Executor.execute`; the build disables real orders. -/
def execute (enabled : Bool) (feed : LiveFeed Time) (order : OrderRequest Time) :
    Live σ Time Day (Option Fill) := do
  modify fun w => { w with lastOutcomeId := none }
  if cfg.paperTrading then throw (.halt .paper)
  else if ¬enabled then throw (.halt .disabled)
  else
    match order.expectedPrePosition with
    | none => throw (.halt .noPrePosition)
    | some expected => live client cfg polls feed order expected

/-- The change of the ledger file, where it has changed. -/
def fileChange (before after : PnlFile Time Day) : List (LiveEffect Time Day) :=
  if after = before then [] else [.ledger after]

/-- `record_fill`, with the change it makes to the ledger file and its end. -/
def applyFill (call : LedgerCall Time) : Live σ Time Day Unit := fun w =>
  match runFrom (call.recordFill utcDay) w.strategy with
  | (.ok _, after) =>
      (.ok (), { w.leave (fileChange w.strategy.file after.file ++ [.recorded call]) with
        strategy := after })
  | (.error error, after) =>
      (.error (.fill error), { w.leave (fileChange w.strategy.file after.file) with
        strategy := after })

/-- The live branch of `process_tick`. -/
def liveOrder (enabled : Bool) (feed : LiveFeed Time) (order : OrderRequest Time) :
    Live σ Time Day Unit := do
  let result ← execute client cfg polls enabled feed order
  match result with
  | none => pure ()
  | some fill => do
      let w ← get
      applyFill utcDay ⟨order.ticker, order.side, fill, order.now, w.lastOutcomeId, order.freshId,
        order.outcome⟩
      match w.lastOutcomeId with
      | some orderId => if orderId = "" then pure () else journalLine (appliedEntry orderId)
      | none => pure ()

end

end Inci.Trading
