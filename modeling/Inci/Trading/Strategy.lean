/-
# Trading.Strategy -- entries, exits and fills

`checkEntry` judges an entry at the ask and `checkExit` an exit at the bid, which
raises the position's peak.  `recordFill` applies a fill to the book and to the
day's result.  All three may raise half way and leave what they did.
-/
import Inci.Theory.Dict
import Inci.Trading.Fees

namespace Inci.Trading

open Inci.Theory

set_option autoImplicit false

variable {Time Day : Type} [LinearOrder Time] [Zero Time] [Add Time] [Sub Time] [DecidableEq Day]

/-- The engine's programs. -/
abbrev Engine (Time Day : Type) := Effect (Context Time Day) EngineError

namespace Context

variable (s : Context Time Day)

omit [LinearOrder Time] [Zero Time] [Add Time] [Sub Time] [DecidableEq Day]

def position (ticker : String) : Option (Position Time) := Dict.get s.positions ticker

def putPosition (ticker : String) (position : Position Time) : Context Time Day :=
  { s with positions := Dict.put s.positions ticker position }

def dropPosition (ticker : String) : Context Time Day :=
  { s with positions := Dict.erase s.positions ticker }

def act (action : Action Time) : Context Time Day := { s with history := s.history ++ [action] }

/-- `Safety.tripped` -/
def tripped : Prop := s.trippedReason.isSome = true

instance : Decidable s.tripped := inferInstanceAs (Decidable (_ = true))

/-- `Safety.trip`: the first reason stays. -/
def trip (reason : String) : Context Time Day :=
  match s.trippedReason with
  | some first => if first = "" then { s with trippedReason := some reason } else s
  | none => { s with trippedReason := some reason }

end Context

section

variable (inst : Installation Time Day)

/-- The ledger's total of a day. -/
def todayTotal (ledger : Ledger Day) (day : Day) : Except EngineError Decimal :=
  (ledger.entries.filter fun entry => entry.1 = day).foldlM (fun total entry => add total entry.2) 0

def refreshDailyPnl (now : Time) : Engine Time Day Unit := do
  let s ← get
  match s.ledger with
  | none => pure ()
  | some ledger =>
      let day := inst.utcDay now
      if s.ledgerDay = some day then pure ()
      else do
        let total ← ofExcept (todayTotal ledger day)
        modify fun s => { s with realizedPnl := total, ledgerDay := some day }

/-! ## Entries -/

/-- `dip_signal`: how far the mid fell from the window's highest, when far enough. -/
def dipSignal (history : List (Time × Decimal)) (nowTs : Time) (currentMid dipThreshold : Decimal)
    (lookbackSeconds : Time) : Except EngineError (Option Decimal) :=
  match (history.filter fun tick => 0 < nowTs - tick.1 ∧ nowTs - tick.1 ≤ lookbackSeconds).map
      Prod.snd with
  | [] => pure none
  | first :: rest => do
      let dip ← subtract (rest.foldl max first) currentMid
      pure (if dipThreshold ≤ dip then some dip else none)

/-- An entry signal: the contracts and the reason. -/
structure EntrySignal where
  contracts : Decimal
  reason : String

/-- What `check_entry` decides once the day's result is current. -/
def entryDecision (s : Context Time Day) (ticker : String) (history : List (Time × Decimal))
    (nowTs : Time) (mid bid ask askQty : Option Decimal) :
    Except EngineError (Option EntrySignal) :=
  let cfg := inst.cfg
  match mid, bid, ask with
  | some mid, some bid, some ask =>
      if (s.position ticker).isSome then pure none
      else if cfg.maxOpenPositions ≤ s.positions.length then pure none
      else if ¬(cfg.minPrice ≤ ask ∧ ask ≤ cfg.maxPrice) then pure none
      else do
        let spread ← subtract ask bid
        if cfg.maxSpread < spread then pure none
        else
          let floor ← negate cfg.maxDailyLossUsd
          if s.realizedPnl ≤ floor then pure none
          else match askQty with
          | none => pure none
          | some depth =>
              if depth ≤ 0 then pure none
              else
                let size := min cfg.contractsPerTrade depth
                let projected ← projectedScalpPnlUsd ask cfg.takeProfit size
                  cfg.balancePrecisionUsd
                if projected ≤ 0 then pure none
                else
                  let dip ← dipSignal history nowTs mid cfg.dipThreshold cfg.lookbackSeconds
                  pure (dip.map fun dip => ⟨size,
                    "dip " ++ inst.format ".1f" dip ++ "c; entry ask " ++ inst.format "" ask ++
                      "c, size " ++ inst.format "" size ++ ", projected net $" ++
                      inst.format "+.4f" projected⟩)
  | _, _, _ => pure none

def checkEntry (ticker : String) (history : List (Time × Decimal)) (nowTs : Time)
    (mid bid ask askQty : Option Decimal) : Engine Time Day (Option EntrySignal) := do
  refreshDailyPnl inst nowTs
  let s ← get
  ofExcept (entryDecision inst s ticker history nowTs mid bid ask askQty)

/-! ## Exits -/

/-- What `check_exit` decides of a position whose peak is current. -/
def exitDecision (pos : Position Time) (bid peak : Decimal) (now : Time) :
    Except EngineError (Option String) := do
  let cfg := inst.cfg
  let move ← subtract bid pos.entryPrice
  let peakMove ← subtract peak pos.entryPrice
  let giveback ← subtract peak bid
  let held := now - pos.openedAt
  let stop ← negate cfg.stopLoss
  if move ≤ stop then
    pure (some ("stop-loss, bid " ++ inst.format "+.0f" move ++ "c vs entry"))
  else if cfg.maxHoldSeconds ≤ held then
    pure (some ("time exit " ++ inst.formatTime ".0f" held ++ "s (" ++ inst.format "+.0f" move ++
      "c)"))
  else if cfg.takeProfit ≤ peakMove then
    if cfg.tpTrailCents ≤ 0 then
      pure (if cfg.takeProfit ≤ move then
        some ("take-profit, bid " ++ inst.format "+.0f" move ++ "c vs entry") else none)
    else
      pure (if cfg.tpTrailCents ≤ giveback ∧ cfg.takeProfit ≤ move then
        some ("take-profit trail, peak " ++ inst.format "+.0f" peakMove ++ "c giveback " ++
          inst.format ".0f" giveback ++ "c (bid " ++ inst.format "+.0f" move ++ "c)") else none)
  else pure none

/-- The peak after a bid: the bid when it is the first or the highest. -/
def peakAfter (pos : Position Time) (bid : Decimal) : Decimal :=
  match pos.peakBid with
  | none => bid
  | some peak => if peak < bid then bid else peak

def checkExit (ticker : String) (bid : Option Decimal) (now : Time) :
    Engine Time Day (Option String) := do
  let s ← get
  match s.position ticker, bid with
  | some pos, some bid => do
      let peak := peakAfter pos bid
      modify fun s => s.putPosition ticker { pos with peakBid := some peak }
      ofExcept (exitDecision inst pos bid peak now)
  | _, _ => pure none

/-! ## Fills -/

/-- `DailyPnlLedger.record`: a fresh entry, refused for a time before the epoch. -/
def recordPnl (pnl : Decimal) (ts : Time) : Engine Time Day Unit := do
  let s ← get
  match s.ledger with
  | none => pure ()
  | some ledger =>
      if ts < 0 then throw (.value "effective_ts must be finite and nonnegative")
      else modify fun s =>
        { s with ledger := some ⟨ledger.entries ++ [(inst.utcDay ts, pnl)]⟩ }

/-- The total and the average price after another fill. -/
def averagedIn (pos : Position Time) (fill : Fill) : Except EngineError (Decimal × Decimal) := do
  let total ← add pos.contracts fill.filled
  let cost ← multiply pos.entryPrice pos.contracts
  let added ← multiply fill.price fill.filled
  let sum ← add cost added
  let entryPrice ← divide sum total
  pure (total, entryPrice)

/-- The result of closing part of a position, and the part of the entry fee it takes. -/
def closingPnl (pos : Position Time) (fill : Fill) : Except EngineError (Decimal × Decimal) := do
  let closing := min fill.filled pos.contracts
  let frac ← divide closing pos.contracts
  let entryFeePart ← multiply pos.entryFeeUsd frac
  let move ← subtract fill.price pos.entryPrice
  let sized ← multiply move closing
  let gross ← divide sized hundred
  let net ← subtract gross fill.fee
  let pnl ← subtract net entryFeePart
  pure (pnl, entryFeePart)

def openPosition (ticker : String) (fill : Fill) (now : Time) : Engine Time Day Unit :=
  modify fun s => s.putPosition ticker ⟨fill.price, fill.filled, now, fill.fee, none⟩

def averageIn (ticker : String) (pos : Position Time) (fill : Fill) : Engine Time Day Unit := do
  let (total, entryPrice) ← ofExcept (averagedIn pos fill)
  modify fun s => s.putPosition ticker { pos with entryPrice := entryPrice, contracts := total }
  let fee ← ofExcept (add pos.entryFeeUsd fill.fee)
  modify fun s => s.putPosition ticker
    { pos with entryPrice := entryPrice, contracts := total, entryFeeUsd := fee }

def closePosition (ticker : String) (pos : Position Time) (fill : Fill) (now : Time) :
    Engine Time Day Unit := do
  let (pnl, entryFeePart) ← ofExcept (closingPnl pos fill)
  let s ← get
  let realized ← ofExcept (add s.realizedPnl pnl)
  modify fun s => { s with realizedPnl := realized }
  recordPnl inst pnl now
  let left ← ofExcept (subtract pos.contracts (min fill.filled pos.contracts))
  modify fun s => s.putPosition ticker { pos with contracts := left }
  let feeLeft ← ofExcept (subtract pos.entryFeeUsd entryFeePart)
  modify fun s => s.putPosition ticker { pos with contracts := left, entryFeeUsd := feeLeft }
  if left = 0 then modify fun s => s.dropPosition ticker else pure ()

def recordFill (ticker : String) (side : OrderSide) (fill : Fill) (now : Time) :
    Engine Time Day Unit := do
  if fill.filled ≤ 0 then pure ()
  else do
    refreshDailyPnl inst now
    let s ← get
    match side, s.position ticker with
    | .buy, none => openPosition ticker fill now
    | .buy, some pos => averageIn ticker pos fill
    | .sell, none => pure ()
    | .sell, some pos => closePosition inst ticker pos fill now

end

end Inci.Trading
