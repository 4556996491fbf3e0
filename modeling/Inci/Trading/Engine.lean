/-
# Trading.Engine -- one tick of the paper engine

`processTick` is the decision path of one observed quote.  A fresh quote first
raises a due exit's priority, then blocks or keeps a due entry, then consumes
what is due; every tick revalues all exposure, and only an untripped account
goes on to schedule an exit or an entry.
-/
import Inci.Trading.Executor

namespace Inci.Trading

open Inci.Theory

set_option autoImplicit false

variable {Time Day : Type} [LinearOrder Time] [Zero Time] [Add Time] [Sub Time] [DecidableEq Day]

/-- `_exit_priority`: a stop preempts a time exit, which preempts a take-profit. -/
def exitPriority (reason : String) : Nat :=
  if isStop reason then 2 else if isTime reason then 1 else 0

/-- `_gate_block` -/
def gateBlock (gate : GateSnapshot) : Option String :=
  if gate.enabled ∧ ¬gate.allow then
    match gate.reason with
    | some reason => if reason = "" then some "blocked:score_gate" else some reason
    | none => some "blocked:score_gate"
  else none

section

variable (inst : Installation Time Day)

omit [LinearOrder Time] [Zero Time] [Add Time] [Sub Time] [DecidableEq Day]

/-- `_same_event_exposure`: another exposed ticker of the ticker's Event. -/
def sameEventExposure (s : Context Time Day) (ticker : String) : Option String :=
  match inst.eventTicker ticker with
  | none => none
  | some event =>
      (Dict.keys s.positions ++ s.pendingPaper.map (·.ticker)).find? fun other =>
        other ≠ ticker ∧ inst.eventTicker other = some event

/-- The largest rise at or above the threshold, the earliest of equal ones. -/
def worstRise (threshold : Decimal) : Option (Decimal × String) →
    List (String × Option Decimal) → Except EngineError (Option (Decimal × String))
  | worst, [] => pure worst
  | worst, (sibling, rise) :: rest =>
      match rise with
      | none => .error (.decimal .invalidOperation)
      | some rise =>
          if threshold ≤ rise ∧ ∀ w, worst = some w → w.1 < rise then
            worstRise threshold (some (rise, sibling)) rest
          else worstRise threshold worst rest

/-- `_sibling_spike_block` of the tick's evidence. -/
def siblingSpikeBlock (evidence : SiblingSnapshot) : Except EngineError (Option String) :=
  if ¬evidence.enabled then pure none
  else if ¬evidence.complete then
    pure (some ("sibling_evidence_incomplete: " ++ evidence.error.getD "unknown"))
  else do
    let worst ← worstRise inst.cfg.siblingSpikeCents none evidence.rises
    pure (worst.map fun worst => "sibling_spike " ++ worst.2 ++ " mid +" ++
      inst.format "" worst.1 ++ "c >= " ++ inst.format "" inst.cfg.siblingSpikeCents ++ "c in " ++
      inst.formatTime ".0f" inst.cfg.siblingSpikeLookbackS ++ "s")

end

section

variable (inst : Installation Time Day)

omit [Zero Time] [Sub Time] [DecidableEq Day] in
/-- `entry_allowed` with the holding and the closing horizon. -/
def entryAllowed (feed : Feed Time) (ticker : String) (now : Time) : Bool :=
  match feed.closeTimes ticker with
  | none => false
  | some close => decide (now + (inst.cfg.maxHoldSeconds + inst.cfg.closeBufferSeconds) < close)

/-! ## Revaluation -/

omit [LinearOrder Time] [Zero Time] [Add Time] [Sub Time] [DecidableEq Day] in
/-- What a position is worth at its last bid: the executable part less its fee and the cost. -/
def markUsd (feed : Feed Time) (ticker : String) (pos : Position Time) (bid : Decimal) :
    Except EngineError Decimal := do
  let available : Decimal := match (feed.topOfBook ticker).bidQty with
    | none => 0
    | some quantity => max 0 quantity
  let executable := min pos.contracts available
  let slipped ← subtract bid inst.cfg.simSlippageCents
  let exitPrice := max 0 slipped
  let notional ← multiply exitPrice executable
  let proceeds ← divide notional hundred
  let exitFee ← if executable ≠ 0 then
      feeUsd exitPrice executable .sell inst.cfg.balancePrecisionUsd
    else pure 0
  let basis ← multiply pos.entryPrice pos.contracts
  let price ← divide basis hundred
  let cost ← add price pos.entryFeeUsd
  let net ← subtract proceeds exitFee
  subtract net cost

omit [LinearOrder Time] [Zero Time] [Add Time] [Sub Time] [DecidableEq Day] in
/-- `open_pnl_usd` -/
def openPnlUsd (s : Context Time Day) (feed : Feed Time) : Except EngineError Decimal :=
  s.positions.foldlM (fun total entry =>
    match s.latestBid entry.1 with
    | none => pure total
    | some bid => do
        let mark ← markUsd inst feed entry.1 entry.2 bid
        add total mark) 0

omit [Zero Time] [Add Time] [DecidableEq Day] in
/-- The first open position without a fresh bid. -/
def unvaluable (s : Context Time Day) (now : Time) : Option String :=
  (Dict.keys s.positions).find? fun ticker =>
    match s.bidTs ticker with
    | none => true
    | some ts => decide (inst.cfg.staleDataS < now - ts)

/-- `check_loss_limit` -/
def checkLossLimit (feed : Feed Time) (now : Time) : Engine Time Day Unit := do
  refreshDailyPnl inst now
  let s ← get
  match unvaluable inst s now with
  | some ticker =>
      modify fun s => s.trip ("cannot value open position " ++ ticker ++ ": no fresh bid (> " ++
        inst.formatTime "" inst.cfg.staleDataS ++ "s)")
  | none => do
      let mark ← ofExcept (openPnlUsd inst s feed)
      let total ← ofExcept (add s.realizedPnl mark)
      let floor ← ofExcept (negate inst.cfg.maxDailyLossUsd)
      if total ≤ floor then
        modify fun s => s.trip ("loss limit incl. open positions (" ++ inst.format "+.2f" total ++
          " USD)")
      else pure ()

/-! ## A fresh quote -/

/-- A due exit is judged again at the quote, and raised by a higher reason. -/
def upgradeDueExit (t : Tick Time) (bid : Decimal) : Engine Time Day Unit := do
  let s ← get
  match s.getPending t.ticker .sell with
  | none => pure ()
  | some order =>
      if order.dueAt ≤ t.observedAt ∧ (s.position t.ticker).isSome then do
        match ← checkExit inst t.ticker (some bid) t.observedAt with
        | none => pure ()
        | some reason =>
            if exitPriority order.reason < exitPriority reason then
              upgradePendingPaperExit t.ticker reason
            else pure ()
      else pure ()

omit [Zero Time] [Sub Time] [DecidableEq Day] in
/-- Why a due entry may not reach the book, once the account was revalued. -/
def arrivalBlock (s : Context Time Day) (t : Tick Time) (bid ask : Decimal) (now : Time)
    (gate : GateSnapshot) (siblings : SiblingSnapshot) : Except EngineError (Option String) :=
  let cfg := inst.cfg
  match s.trippedReason with
  | some reason => pure (some (if reason = "" then "portfolio risk halt" else reason))
  | none =>
      if ¬(cfg.minPrice ≤ ask ∧ ask ≤ cfg.maxPrice) then
        pure (some ("price " ++ inst.format "" ask ++ " outside entry bounds"))
      else do
        let spread ← subtract ask bid
        if cfg.maxSpread < spread then
          pure (some ("spread " ++ inst.format "" spread ++ " exceeds " ++
            inst.format "" cfg.maxSpread))
        else if ¬entryAllowed inst t.feed t.ticker now then pure (some "insufficient close horizon")
        else match (if cfg.oneContractPerEvent then sameEventExposure inst s t.ticker
            else none) with
        | some conflict => pure (some ("same-event exposure via " ++ conflict))
        | none =>
            match gateBlock gate with
            | some block => pure (some block)
            | none => siblingSpikeBlock inst siblings

/-- A due entry is blocked, and then canceled, or kept for the book. -/
def blockDueEntry (t : Tick Time) (bid ask : Decimal) (now : Time) (gate : GateSnapshot)
    (siblings : SiblingSnapshot) : Engine Time Day Unit := do
  let s ← get
  match s.getPending t.ticker .buy with
  | none => pure ()
  | some order =>
      if order.dueAt ≤ t.observedAt then do
        checkLossLimit inst t.feed t.clockAtArrival
        let s ← get
        match ← ofExcept (arrivalBlock inst s t bid ask now gate siblings) with
        | none => pure ()
        | some _ => modify fun s => s.cancelPending t.ticker .buy
      else pure ()

/-- The fills of the consumed orders, one after the other. -/
def applyFills (now : Time) : List (PendingPaperOrder Time × Option Fill) → Engine Time Day Unit
  | [] => pure ()
  | (_, none) :: rest => applyFills now rest
  | (order, some fill) :: rest => do
      modify fun s => s.act (.filled order fill ((s.position order.ticker).map (·.contracts)))
      recordFill inst order.ticker order.side fill now
      applyFills now rest

/-- What a fresh quote does to the due orders of its ticker. -/
def meetDueOrders (t : Tick Time) (bid ask : Decimal) (now : Time) (gate : GateSnapshot)
    (siblings : SiblingSnapshot) : Engine Time Day Unit := do
  upgradeDueExit inst t bid
  blockDueEntry inst t bid ask now gate siblings
  let results ← processDuePaperOrders inst t.feed t.observedAt t.ticker
  applyFills inst now results

/-! ## New orders -/

/-- An exit signal upgrades the working exit or submits one with the position's basis. -/
def scheduleExit (t : Tick Time) (reason : String) (now : Time) : Engine Time Day Unit := do
  let s ← get
  match s.position t.ticker with
  | none => pure ()
  | some pos =>
      match s.getPending t.ticker .sell with
      | some working =>
          if exitPriority working.reason < exitPriority reason then
            upgradePendingPaperExit t.ticker reason
          else pure ()
      | none =>
          submitPaper (paperOrder inst (t.feed.topOfBook t.ticker) t.ticker .sell pos.contracts
            reason now (some pos))

/-- An entry signal that no exposure, sibling or gate blocks submits an order. -/
def submitEntry (t : Tick Time) (signal : EntrySignal) (now : Time) (gate : GateSnapshot)
    (siblings : SiblingSnapshot) : Engine Time Day Unit := do
  let s ← get
  if inst.cfg.oneContractPerEvent ∧ (sameEventExposure inst s t.ticker).isSome then pure ()
  else do
    match ← ofExcept (siblingSpikeBlock inst siblings) with
    | some _ => pure ()
    | none =>
        if (gateBlock gate).isSome then pure ()
        else
          let reason := if gate.enabled then signal.reason ++ "; " ++ gate.reason.getD "None"
            else signal.reason
          submitPaper (paperOrder inst (t.feed.topOfBook t.ticker) t.ticker .buy signal.contracts
            reason now none)

/-- The entry path of a ticker with nothing working. -/
def scheduleEntry (t : Tick Time) (now : Time) (gate : GateSnapshot)
    (siblings : SiblingSnapshot) : Engine Time Day Unit := do
  let s ← get
  if inst.cfg.maxOpenPositions ≤ s.positions.length + s.pendingCount .buy then pure ()
  else if ¬entryAllowed inst t.feed t.ticker now then pure ()
  else do
    match ← checkEntry inst t.ticker (t.feed.history t.ticker).dropLast now t.mid t.bid t.ask
        (t.feed.topOfBook t.ticker).askQty with
    | none => pure ()
    | some signal => submitEntry inst t signal now gate siblings

/-! ## The tick -/

omit [LinearOrder Time] [Zero Time] [Add Time] [Sub Time] [DecidableEq Day] in
/-- The observed bid becomes the ticker's mark. -/
def markQuote (t : Tick Time) (s : Context Time Day) : Context Time Day :=
  match t.bid with
  | none => s
  | some bid => { s with
      latestBid := fun ticker => if ticker = t.ticker then some bid else s.latestBid ticker
      bidTs := fun ticker => if ticker = t.ticker then some t.observedAt else s.bidTs ticker }

/-- What follows the revaluation of an account that is not halted. -/
def act (t : Tick Time) (now : Time) (gate : GateSnapshot) (siblings : SiblingSnapshot) :
    Engine Time Day Unit := do
  let s ← get
  if s.hasPending t.ticker .buy then pure ()
  else do
    match ← checkExit inst t.ticker t.bid now with
    | some reason => scheduleExit inst t reason now
    | none => do
        let s ← get
        if s.hasPending t.ticker .sell then pure ()
        else scheduleEntry inst t now gate siblings

/-- `process_tick` in paper mode. -/
def processTick (t : Tick Time) : Engine Time Day Unit := do
  let now := t.decisionAt.getD t.observedAt
  let gate ← ofExcept t.gate
  let siblings ← ofExcept t.siblings
  modify (markQuote t)
  match t.mid, t.bid, t.ask with
  | some _, some bid, some ask => meetDueOrders inst t bid ask now gate siblings
  | _, _, _ => pure ()
  checkLossLimit inst t.feed t.clockAtRevaluation
  let s ← get
  if s.tripped then pure () else act inst t now gate siblings

end

end Inci.Trading
