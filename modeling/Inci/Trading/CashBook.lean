/-
# Trading.CashBook -- the position book in exact arithmetic

`CashBook` is the strategy's book over the rationals, where a quotient is exact.
Every fill moves cash: a BUY pays its price and fee, a SELL receives its price
less its fee.  `cash_conserved`: in a run that never sells more than it holds,
the cash moved is the realized result less the cost of what is still open.

`recordFill_exact` is the tie to the engine's book: a fill without a ledger whose
decimal results are exact does to it what the exact fill does here.
-/
import Inci.Trading.Strategy
import Mathlib.Tactic.FieldSimp

namespace Inci.Trading

open Inci.Theory

set_option autoImplicit false

/-- What the book keeps of a position: the average price in cents, the contracts
and the part of the entry fees no SELL has taken yet. -/
structure Holding where
  entryPrice : ℚ
  contracts : ℚ
  entryFeeUsd : ℚ
  deriving DecidableEq

/-- The arguments of one `record_fill` call. -/
structure FillCall where
  ticker : String
  side : OrderSide
  price : ℚ
  filled : ℚ
  fee : ℚ
  deriving DecidableEq

structure CashBook where
  positions : List (String × Holding)
  realizedPnl : ℚ
  deriving DecidableEq

/-! ## Filling -/

namespace Holding

variable (pos : Holding) (call : FillCall)

def averagedIn : Holding :=
  { entryPrice := (pos.entryPrice * pos.contracts + call.price * call.filled) /
      (pos.contracts + call.filled)
    contracts := pos.contracts + call.filled
    entryFeeUsd := pos.entryFeeUsd + call.fee }

def closing : ℚ := min call.filled pos.contracts

def entryFeePart : ℚ := pos.entryFeeUsd * (pos.closing call / pos.contracts)

def pnl : ℚ :=
  (call.price - pos.entryPrice) * pos.closing call / 100 - call.fee - pos.entryFeePart call

def reduced : Holding :=
  { pos with
    contracts := pos.contracts - pos.closing call
    entryFeeUsd := pos.entryFeeUsd - pos.entryFeePart call }

/-- The cost of a holding: its price and the entry fees not yet taken. -/
def basis : ℚ := pos.entryPrice * pos.contracts / 100 + pos.entryFeeUsd

end Holding

namespace CashBook

variable (book : CashBook) (call : FillCall)

def position (ticker : String) : Option Holding := Dict.get book.positions ticker

/-- `record_fill` without a ledger. -/
def recordFill : CashBook :=
  if call.filled ≤ 0 then book
  else match call.side, book.position call.ticker with
  | .buy, none =>
      { book with
        positions := Dict.put book.positions call.ticker ⟨call.price, call.filled, call.fee⟩ }
  | .buy, some pos =>
      { book with positions := Dict.put book.positions call.ticker (pos.averagedIn call) }
  | .sell, none => book
  | .sell, some pos =>
      { positions :=
          if (pos.reduced call).contracts = 0 then
            Dict.erase book.positions call.ticker
          else Dict.put book.positions call.ticker (pos.reduced call)
        realizedPnl := book.realizedPnl + pos.pnl call }

def recordFills (calls : List FillCall) : CashBook := calls.foldl recordFill book

/-- The contracts held of a ticker. -/
def held (ticker : String) : ℚ := ((book.position ticker).map Holding.contracts).getD 0

/-- The entry fees of a ticker's position that no SELL has taken yet. -/
def openFees (ticker : String) : ℚ := ((book.position ticker).map Holding.entryFeeUsd).getD 0

/-- The remaining cost basis. -/
def basis : ℚ := Dict.total Holding.basis book.positions

/-- The part of a ticker's entry fees that a call takes from the result. -/
def chargedBy (ticker : String) : ℚ :=
  if 0 < call.filled ∧ call.side = .sell ∧ call.ticker = ticker then
    ((book.position ticker).map fun pos => pos.entryFeePart call).getD 0
  else 0

/-- Each SELL sells at most what is held when it comes. -/
def SellsHeld : CashBook → List FillCall → Prop
  | _, [] => True
  | book, call :: rest =>
      (call.side = .sell → call.filled ≤ book.held call.ticker) ∧
        SellsHeld (book.recordFill call) rest

instance : ∀ (book : CashBook) (calls : List FillCall), Decidable (SellsHeld book calls)
  | _, [] => inferInstanceAs (Decidable True)
  | book, call :: rest =>
      have : Decidable (SellsHeld (book.recordFill call) rest) :=
        instDecidableSellsHeld (book.recordFill call) rest
      inferInstanceAs (Decidable (_ ∧ _))

/-- The entry fees of a ticker that a run takes from the result. -/
def charged (ticker : String) : CashBook → List FillCall → ℚ
  | _, [] => 0
  | book, call :: rest =>
      book.chargedBy call ticker + charged ticker (book.recordFill call) rest

end CashBook

/-! ## What the calls move -/

namespace FillCall

variable (call : FillCall) (ticker : String)

/-- A call with no positive quantity records nothing. -/
def effective (calls : List FillCall) : List FillCall := calls.filter fun call => 0 < call.filled

/-- The cash a call moves: what a SELL brings, less what a BUY costs. -/
def cash : ℚ :=
  match call.side with
  | .sell => call.price * call.filled / 100 - call.fee
  | .buy => -(call.price * call.filled / 100 + call.fee)

/-- The contracts a call adds to a ticker. -/
def bought : ℚ :=
  if call.ticker = ticker then match call.side with
    | .buy => call.filled
    | .sell => -call.filled
  else 0

/-- The fee a BUY pays to open or enlarge a ticker's position. -/
def entryFee : ℚ := if call.ticker = ticker ∧ call.side = .buy then call.fee else 0

end FillCall

/-! ## One ticker's position

A call changes the position of its own ticker only, so its effect is that of
`after` on one position and `gain` on the result. -/

section One

variable (pos : Option Holding) (call : FillCall)

/-- The position of the call's ticker after a call with a positive quantity. -/
def after : Option Holding :=
  match call.side, pos with
  | .buy, none => some ⟨call.price, call.filled, call.fee⟩
  | .buy, some pos => some (pos.averagedIn call)
  | .sell, none => none
  | .sell, some pos =>
      if (pos.reduced call).contracts = 0 then none else some (pos.reduced call)

/-- What the call adds to the result. -/
def gain : ℚ :=
  match call.side, pos with
  | .sell, some pos => pos.pnl call
  | _, _ => 0

/-- The entry fees the call takes. -/
def taken : ℚ :=
  match call.side, pos with
  | .sell, some pos => pos.entryFeePart call
  | _, _ => 0

def contractsOf : ℚ := (pos.map Holding.contracts).getD 0
def feesOf : ℚ := (pos.map Holding.entryFeeUsd).getD 0
def basisOf : ℚ := (pos.map Holding.basis).getD 0

/-- An open position holds something. -/
def Open : Prop := ∀ holding, pos = some holding → 0 < holding.contracts

/-- A SELL sells at most what is held. -/
def Covered : Prop := call.side = .sell → call.filled ≤ contractsOf pos

variable {pos call}

/-- What a covered SELL of a positive quantity does: it meets a holding, closes
all it sells, and leaves the rest if there is any. -/
theorem covered_sell (sell : call.side = .sell) (positive : 0 < call.filled)
    (covered : Covered pos call) :
    ∃ holding, pos = some holding ∧ call.filled ≤ holding.contracts ∧
      holding.closing call = call.filled := by
  have enough := covered sell
  cases pos with
  | none =>
      simp only [contractsOf, Option.map_none, Option.getD_none] at enough
      exact absurd positive (not_lt.mpr enough)
  | some holding => exact ⟨holding, rfl, enough, min_eq_left enough⟩

theorem after_buy (buy : call.side = .buy) : after pos call ≠ none := by
  cases pos <;> simp [after, buy]

theorem after_flat {holding : Holding} (sell : call.side = .sell)
    (flat : (holding.reduced call).contracts = 0) : after (some holding) call = none := by
  simp only [after, sell, flat, if_true]

theorem after_left {holding : Holding} (sell : call.side = .sell)
    (left : (holding.reduced call).contracts ≠ 0) :
    after (some holding) call = some (holding.reduced call) := by
  simp only [after, sell, left, if_false]

/-- Closing all that is held takes all of the fee that is left. -/
theorem entryFeePart_flat {holding : Holding} (held : 0 < holding.contracts)
    (flat : (holding.reduced call).contracts = 0) :
    holding.entryFeePart call = holding.entryFeeUsd := by
  have all : holding.closing call = holding.contracts := (sub_eq_zero.mp flat).symm
  rw [Holding.entryFeePart, all, div_self held.ne', mul_one]

theorem open_after (positive : 0 < call.filled) (opened : Open pos) : Open (after pos call) := by
  intro holding found
  cases side : call.side with
  | buy =>
      cases pos with
      | none =>
          simp only [after, side, Option.some.injEq] at found
          exact found ▸ positive
      | some before =>
          simp only [after, side, Option.some.injEq] at found
          exact found ▸ add_pos (opened before rfl) positive
  | sell =>
      cases pos with
      | none => simp [after, side] at found
      | some before =>
          by_cases flat : (before.reduced call).contracts = 0
          · simp [after_flat side flat] at found
          · rw [after_left side flat, Option.some.injEq] at found
            subst found
            have rest : 0 ≤ (before.reduced call).contracts := sub_nonneg.mpr (min_le_right _ _)
            exact lt_of_le_of_ne rest (Ne.symm flat)

theorem contracts_after (positive : 0 < call.filled) (covered : Covered pos call) :
    contractsOf (after pos call) = contractsOf pos + call.bought call.ticker := by
  cases side : call.side with
  | buy =>
      cases pos with
      | none => simp [after, side, contractsOf, FillCall.bought]
      | some holding => simp [after, side, contractsOf, FillCall.bought, Holding.averagedIn]
  | sell =>
      obtain ⟨holding, rfl, -, closes⟩ := covered_sell side positive covered
      have sold : call.bought call.ticker = -call.filled := by simp [FillCall.bought, side]
      have left : (holding.reduced call).contracts = holding.contracts - call.filled :=
        congrArg (holding.contracts - ·) closes
      show contractsOf (after (some holding) call) = holding.contracts + call.bought call.ticker
      rw [sold, ← sub_eq_add_neg, ← left]
      by_cases flat : (holding.reduced call).contracts = 0
      · rw [after_flat side flat, flat]
        rfl
      · rw [after_left side flat]
        rfl

theorem fees_after (opened : Open pos) :
    feesOf (after pos call) + taken pos call = feesOf pos + call.entryFee call.ticker := by
  cases side : call.side with
  | buy =>
      cases pos with
      | none => simp [after, side, feesOf, taken, FillCall.entryFee]
      | some holding => simp [after, side, feesOf, taken, FillCall.entryFee, Holding.averagedIn]
  | sell =>
      cases pos with
      | none => simp [after, side, feesOf, taken, FillCall.entryFee]
      | some holding =>
          by_cases flat : (holding.reduced call).contracts = 0
          · rw [after_flat side flat]
            simp [side, feesOf, taken, FillCall.entryFee, entryFeePart_flat (opened holding rfl) flat]
          · rw [after_left side flat]
            simp [side, feesOf, taken, FillCall.entryFee, Holding.reduced]

/-- Cash conservation of one call: what it moves is what it adds to the result
less what it adds to the cost of the position. -/
theorem basis_after (positive : 0 < call.filled) (opened : Open pos) (covered : Covered pos call) :
    basisOf (after pos call) + call.cash = basisOf pos + gain pos call := by
  cases side : call.side with
  | buy =>
      cases pos with
      | none => simp [after, side, basisOf, gain, FillCall.cash, Holding.basis]
      | some holding =>
          have total : holding.contracts + call.filled ≠ 0 :=
            (add_pos (opened holding rfl) positive).ne'
          simp only [after, side, basisOf, gain, FillCall.cash, Holding.basis, Holding.averagedIn,
            Option.map_some, Option.getD_some]
          rw [div_mul_cancel₀ _ total]
          ring
  | sell =>
      obtain ⟨holding, rfl, -, closes⟩ := covered_sell side positive covered
      by_cases flat : (holding.reduced call).contracts = 0
      · have whole := entryFeePart_flat (opened holding rfl) flat
        have all : holding.contracts = call.filled := (sub_eq_zero.mp flat).trans closes
        rw [after_flat side flat]
        simp only [side, basisOf, gain, FillCall.cash, Holding.basis, Holding.pnl, whole, closes,
          all, Option.map_none, Option.map_some, Option.getD_none, Option.getD_some]
        ring
      · rw [after_left side flat]
        simp only [side, basisOf, gain, FillCall.cash, Holding.basis, Holding.pnl, Holding.reduced,
          closes, Option.map_some, Option.getD_some]
        ring

/-! ### Another fee

`addFee u` is the position with `u` more of entry fees on it.  What a call leaves
of `u`, and what it takes of it from the result, together stay `u`. -/

def addFee (u : ℚ) (pos : Option Holding) : Option Holding :=
  pos.map fun holding => { holding with entryFeeUsd := holding.entryFeeUsd + u }

theorem after_addFee {u : ℚ} (call : FillCall) (opened : Open pos) (flat : pos = none → u = 0) :
    ∃ left, after (addFee u pos) call = addFee left (after pos call) ∧
      gain (addFee u pos) call = gain pos call - (u - left) ∧
      (after pos call = none → left = 0) := by
  cases side : call.side with
  | buy =>
      refine ⟨u, ?_, ?_, ?_⟩
      · cases pos with
        | none => simp [after, side, addFee, flat rfl]
        | some holding => simp [after, side, addFee, Holding.averagedIn, add_right_comm]
      · simp [gain, side]
      · exact fun closed => absurd closed (after_buy side)
  | sell =>
      cases pos with
      | none => exact ⟨0, by simp [after, side, addFee], by simp [gain, side, addFee, flat rfl],
          fun _ => rfl⟩
      | some holding =>
          let more : Holding := { holding with entryFeeUsd := holding.entryFeeUsd + u }
          have part : more.entryFeePart call =
              holding.entryFeePart call + u * (holding.closing call / holding.contracts) :=
            add_mul _ _ _
          have pnl : more.pnl call =
              holding.pnl call - u * (holding.closing call / holding.contracts) := by
            show _ - call.fee - more.entryFeePart call = _
            rw [part, ← sub_sub]
            rfl
          refine ⟨u - u * (holding.closing call / holding.contracts), ?_, ?_, ?_⟩
          · show after (some more) call = _
            by_cases closed : (holding.reduced call).contracts = 0
            · have gone : after (some more) call = none := after_flat side closed
              rw [after_flat side closed, gone]
              rfl
            · have kept : after (some more) call = some (more.reduced call) :=
                after_left side closed
              rw [after_left side closed, kept]
              have fee : more.entryFeeUsd - more.entryFeePart call =
                  holding.entryFeeUsd - holding.entryFeePart call +
                    (u - u * (holding.closing call / holding.contracts)) := by
                rw [part]
                show holding.entryFeeUsd + u - _ = _
                ring
              exact congrArg (fun fee => some (Holding.mk holding.entryPrice
                (holding.contracts - holding.closing call) fee)) fee
          · simp only [gain, side, addFee, Option.map_some]
            exact pnl.trans (by ring)
          · intro closed
            by_cases flat : (holding.reduced call).contracts = 0
            · have all : holding.closing call = holding.contracts := (sub_eq_zero.mp flat).symm
              rw [all, div_self (opened holding rfl).ne', mul_one, sub_self]
            · simp [after_left side flat] at closed

end One

/-! ## One call -/

namespace CashBook

variable (book : CashBook) (call : FillCall)

/-- Every ticker has one position, and it holds something. -/
structure Sound : Prop where
  keyed : (Dict.keys book.positions).Nodup
  opened : ∀ ticker, Open (book.position ticker)

theorem sound_empty (initial : ℚ) : Sound ⟨[], initial⟩ :=
  ⟨List.nodup_nil, fun _ _ found => by simp [position, Dict.get] at found⟩

variable {book call}

theorem recordFill_ignored (none : call.filled ≤ 0) : book.recordFill call = book := if_pos none

/-- A call with a positive quantity writes its ticker's position and adds its gain. -/
theorem recordFill_effective (positive : 0 < call.filled) :
    book.recordFill call =
      { positions := Dict.write book.positions call.ticker
          (after (book.position call.ticker) call)
        realizedPnl := book.realizedPnl + gain (book.position call.ticker) call } := by
  unfold recordFill
  rw [if_neg (not_le.mpr positive)]
  cases side : call.side <;> cases found : book.position call.ticker
  · simp [after, gain, side, Dict.write]
  · simp [after, gain, side, Dict.write]
  · have absent := Dict.erase_absent (Dict.get_eq_none.mp found)
    simp [after, gain, side, Dict.write, absent]
  · rename_i pos
    by_cases flat : (pos.reduced call).contracts = 0
    · simp [after_flat side flat, gain, side, Dict.write, flat]
    · simp [after_left side flat, gain, side, Dict.write, flat]

theorem recordFill_position (positive : 0 < call.filled) :
    (book.recordFill call).position call.ticker = after (book.position call.ticker) call := by
  rw [recordFill_effective positive]
  exact Dict.get_write_same _

theorem recordFill_other {ticker : String} (other : ticker ≠ call.ticker) :
    (book.recordFill call).position ticker = book.position ticker := by
  by_cases positive : 0 < call.filled
  · rw [recordFill_effective positive]
    exact Dict.get_write_other other _
  · rw [recordFill_ignored (not_lt.mp positive)]

theorem recordFill_sound (sound : book.Sound) : (book.recordFill call).Sound := by
  by_cases positive : 0 < call.filled
  · constructor
    · rw [recordFill_effective positive]
      exact Dict.nodup_write sound.keyed _
    · intro ticker
      by_cases same : ticker = call.ticker
      · rw [same, recordFill_position positive]
        exact open_after positive (sound.opened _)
      · rw [recordFill_other same]
        exact sound.opened ticker
  · rw [recordFill_ignored (not_lt.mp positive)]
    exact sound

/-- What a call in a run does, as four equations. -/
structure Moved (book : CashBook) (call : FillCall) (next : CashBook) : Prop where
  cash : next.basis + call.cash + book.realizedPnl = book.basis + next.realizedPnl
  held : ∀ ticker, next.held ticker = book.held ticker + call.bought ticker
  fees : ∀ ticker, book.chargedBy call ticker + next.openFees ticker =
    book.openFees ticker + call.entryFee ticker

theorem recordFill_moved (sound : book.Sound) (positive : 0 < call.filled)
    (covered : call.side = .sell → call.filled ≤ book.held call.ticker) :
    Moved book call (book.recordFill call) := by
  have opened := sound.opened call.ticker
  constructor
  · have local' := basis_after positive opened covered
    have total := Dict.total_write Holding.basis call.ticker sound.keyed
      (after (book.position call.ticker) call)
    have share : Dict.share Holding.basis book.positions call.ticker =
        basisOf (book.position call.ticker) := rfl
    rw [share] at total
    change _ = book.basis + basisOf (after (book.position call.ticker) call) at total
    rw [recordFill_effective positive]
    show Dict.total Holding.basis _ + _ + _ = _ + (_ + gain _ call)
    linarith
  · intro ticker
    by_cases same : ticker = call.ticker
    · rw [same, held, recordFill_position positive]
      exact contracts_after positive covered
    · rw [held, recordFill_other same, FillCall.bought, if_neg (Ne.symm same), add_zero, held]
  · intro ticker
    by_cases same : ticker = call.ticker
    · have charge : book.chargedBy call call.ticker = taken (book.position call.ticker) call := by
        unfold chargedBy taken
        cases side : call.side <;> cases book.position call.ticker <;> simp [positive]
      rw [same, openFees, recordFill_position positive, charge, add_comm]
      exact fees_after opened
    · have elsewhere : book.chargedBy call ticker = 0 := if_neg fun here => same here.2.2.symm
      have none : call.entryFee ticker = 0 := if_neg fun here => same here.1.symm
      rw [elsewhere, none, zero_add, add_zero, openFees, recordFill_other same, openFees]

/-! ## Runs -/

section Runs

open FillCall

/-- What a run from a sound book moves: the equations of its calls, summed over
the ones with a positive quantity. -/
theorem recordFills_moved (calls : List FillCall) :
    ∀ book : CashBook, book.Sound → SellsHeld book calls →
      (book.recordFills calls).basis + ((effective calls).map cash).sum + book.realizedPnl =
          book.basis + (book.recordFills calls).realizedPnl ∧
        (∀ ticker, (book.recordFills calls).held ticker =
          book.held ticker + ((effective calls).map (bought · ticker)).sum) ∧
        ∀ ticker, charged ticker book calls + (book.recordFills calls).openFees ticker =
          book.openFees ticker + ((effective calls).map (entryFee · ticker)).sum := by
  induction calls with
  | nil =>
      intro book _ _
      exact ⟨by simp [effective, recordFills], by simp [effective, recordFills],
        by simp [effective, recordFills, charged]⟩
  | cons call rest ih =>
      intro book sound ⟨covered, later⟩
      obtain ⟨cashRest, heldRest, feesRest⟩ := ih _ (recordFill_sound sound) later
      have run : book.recordFills (call :: rest) = (book.recordFill call).recordFills rest := rfl
      rw [run]
      by_cases positive : 0 < call.filled
      · obtain ⟨cashStep, heldStep, feesStep⟩ := recordFill_moved sound positive covered
        have kept : effective (call :: rest) = call :: effective rest :=
          List.filter_cons_of_pos (by simpa using positive)
        simp only [kept, List.map_cons, List.sum_cons]
        refine ⟨by linarith, fun ticker => ?_, fun ticker => ?_⟩
        · rw [heldRest, heldStep, add_assoc]
        · have step := feesStep ticker
          have after := feesRest ticker
          show book.chargedBy call ticker + _ + _ = _
          linarith
      · -- The call is ignored, and takes no fee.
        have same : book.recordFill call = book := recordFill_ignored (not_lt.mp positive)
        have dropped : effective (call :: rest) = effective rest :=
          List.filter_cons_of_neg (by simpa using positive)
        rw [same] at cashRest heldRest feesRest ⊢
        rw [dropped]
        refine ⟨cashRest, heldRest, fun ticker => ?_⟩
        have idle : book.chargedBy call ticker = 0 := if_neg fun here => positive here.1
        show book.chargedBy call ticker + charged ticker (book.recordFill call) rest + _ = _
        rw [idle, zero_add, same]
        exact feesRest ticker

/-- Two books that differ by a fee: `u` of it is still on the ticker's position,
and the rest was taken from the result. -/
def FeeShift (ticker : String) (fee : ℚ) (book other : CashBook) : Prop :=
  ∃ u : ℚ, (∀ k, k ≠ ticker → other.position k = book.position k) ∧
    other.position ticker = addFee u (book.position ticker) ∧
    (book.position ticker = none → u = 0) ∧
    other.realizedPnl = book.realizedPnl - (fee - u)

theorem FeeShift.step {ticker : String} {fee : ℚ} {other : CashBook} (sound : book.Sound)
    (shifted : FeeShift ticker fee book other) :
    FeeShift ticker fee (book.recordFill call) (other.recordFill call) := by
  obtain ⟨u, elsewhere, here, flat, realized⟩ := shifted
  by_cases positive : 0 < call.filled
  · by_cases same : call.ticker = ticker
    · subst same
      obtain ⟨left, next, gained, closed⟩ :=
        after_addFee call (sound.opened call.ticker) flat
      refine ⟨left, fun k other => ?_, ?_, ?_, ?_⟩
      · rw [recordFill_other other, recordFill_other other, elsewhere k other]
      · rw [recordFill_position positive, recordFill_position positive, here, next]
      · rwa [recordFill_position positive]
      · rw [recordFill_effective positive, recordFill_effective positive]
        simp only [here, realized, gained]
        ring
    · refine ⟨u, fun k apart => ?_, ?_, ?_, ?_⟩
      · by_cases its : k = call.ticker
        · rw [its, recordFill_position positive, recordFill_position positive, elsewhere _ same]
        · rw [recordFill_other its, recordFill_other its, elsewhere k apart]
      · rw [recordFill_other (Ne.symm same), recordFill_other (Ne.symm same), here]
      · rwa [recordFill_other (Ne.symm same)]
      · rw [recordFill_effective positive, recordFill_effective positive]
        simp only [elsewhere _ same, realized]
        ring
  · rw [recordFill_ignored (not_lt.mp positive), recordFill_ignored (not_lt.mp positive)]
    exact ⟨u, elsewhere, here, flat, realized⟩

theorem FeeShift.run {ticker : String} {fee : ℚ} (calls : List FillCall) :
    ∀ book other : CashBook, book.Sound → FeeShift ticker fee book other →
      FeeShift ticker fee (book.recordFills calls) (other.recordFills calls) := by
  induction calls with
  | nil => exact fun _ _ _ shifted => shifted
  | cons call rest ih =>
      intro book other sound shifted
      exact ih _ _ (recordFill_sound sound) (shifted.step sound)

/-- A BUY's fee alone changes its own position by the change. -/
theorem FeeShift.buy (fee : ℚ) (side : call.side = .buy) (positive : 0 < call.filled) :
    FeeShift call.ticker (fee - call.fee) (book.recordFill call)
      (book.recordFill { call with fee := fee }) := by
  let call' : FillCall := { call with fee := fee }
  have positive' : 0 < call'.filled := positive
  have changed : (book.recordFill call').position call.ticker =
      after (book.position call.ticker) call' := recordFill_position positive'
  refine ⟨fee - call.fee, fun k other => ?_, ?_, ?_, ?_⟩
  · have kept : (book.recordFill call').position k = book.position k := recordFill_other other
    rw [recordFill_other other, kept]
  · rw [recordFill_position positive, changed]
    cases book.position call.ticker with
    | none => simp [after, side, addFee, call']
    | some pos => simp [after, side, addFee, Holding.averagedIn, add_assoc, call']
  · intro closed
    rw [recordFill_position positive] at closed
    exact absurd closed (after_buy side)
  · rw [recordFill_effective positive, recordFill_effective positive']
    simp [gain, side, call']

theorem recordFills_sound (calls : List FillCall) :
    ∀ book : CashBook, book.Sound → (book.recordFills calls).Sound := by
  induction calls with
  | nil => exact fun _ sound => sound
  | cons call rest ih => exact fun book sound => ih _ (recordFill_sound sound)

/-- A BUY's fee is charged once: another fee there changes the final result by
the change, whenever the BUY's ticker ends flat. -/
theorem fee_charged_once (sound : book.Sound) {before rest : List FillCall} (fee : ℚ)
    (side : call.side = .buy) (positive : 0 < call.filled)
    (flat : (book.recordFills (before ++ call :: rest)).position call.ticker = none) :
    (book.recordFills (before ++ { call with fee := fee } :: rest)).realizedPnl =
      (book.recordFills (before ++ call :: rest)).realizedPnl + call.fee - fee := by
  have split (middle : FillCall) : book.recordFills (before ++ middle :: rest) =
      (((book.recordFills before).recordFill middle).recordFills rest) := by
    rw [recordFills, List.foldl_append]
    rfl
  have soundBefore := recordFills_sound before book sound
  obtain ⟨u, -, -, spent, realized⟩ :=
    FeeShift.run rest _ _ (recordFill_sound soundBefore) (FeeShift.buy fee side positive)
  rw [split] at flat ⊢
  rw [split, realized, spent flat]
  ring

/-- Cash conservation from an empty book: in a run that never sells more than it
holds, the cash the effective calls move is what the result gained less the cost
of what is open; each ticker holds what was bought less what was sold; its entry
fees are charged or still open; and a BUY whose ticker ends flat is charged its
fee exactly once. -/
theorem cash_conserved (initial : ℚ) (calls : List FillCall)
    (held : SellsHeld ⟨[], initial⟩ calls) :
    ((effective calls).map cash).sum =
        (recordFills ⟨[], initial⟩ calls).realizedPnl - initial -
          (recordFills ⟨[], initial⟩ calls).basis ∧
      (∀ ticker, (recordFills ⟨[], initial⟩ calls).held ticker =
        ((effective calls).map (bought · ticker)).sum) ∧
      (∀ ticker, charged ticker ⟨[], initial⟩ calls +
          (recordFills ⟨[], initial⟩ calls).openFees ticker =
        ((effective calls).map (entryFee · ticker)).sum) ∧
      ∀ before call rest fee, calls = before ++ call :: rest → call.side = .buy →
        0 < call.filled → (recordFills ⟨[], initial⟩ calls).position call.ticker = none →
        (recordFills ⟨[], initial⟩ (before ++ { call with fee := fee } :: rest)).realizedPnl =
          (recordFills ⟨[], initial⟩ calls).realizedPnl + call.fee - fee := by
  obtain ⟨cashed, holding, fees⟩ := recordFills_moved calls _ (sound_empty initial) held
  have empty : (CashBook.mk [] initial).basis = 0 := rfl
  refine ⟨?_, fun ticker => ?_, fun ticker => ?_, ?_⟩
  · rw [empty] at cashed
    linarith
  · rw [holding, show (CashBook.mk [] initial).held ticker = 0 from rfl, zero_add]
  · rw [fees, show (CashBook.mk [] initial).openFees ticker = 0 from rfl, zero_add]
  · rintro before call rest fee rfl side positive flat
    exact fee_charged_once (sound_empty initial) fee side positive flat

/-- Two BUYs averaged, a partial SELL, one to flat, and a re-entry. -/
def roundTrip : List FillCall :=
  [⟨"A", .buy, 40, 2, 1⟩, ⟨"B", .buy, 10, 1, 0⟩, ⟨"A", .buy, 43, 1, 2⟩, ⟨"A", .sell, 50, 2, 1⟩,
    ⟨"A", .sell, 45, 1, 0⟩, ⟨"A", .buy, 30, 5, 1⟩]

theorem roundTrip_conserved :
    SellsHeld ⟨[], 7⟩ roundTrip ∧
      ((effective roundTrip).map cash).sum =
        (recordFills ⟨[], 7⟩ roundTrip).realizedPnl - 7 - (recordFills ⟨[], 7⟩ roundTrip).basis :=
  have held : SellsHeld ⟨[], 7⟩ roundTrip := by decide +kernel
  ⟨held, (cash_conserved 7 roundTrip held).1⟩

/-- A call with no quantity is ignored, fee and all, so the cash of every call
made is not conserved. -/
theorem cash_of_ignored_call :
    SellsHeld ⟨[], 0⟩ [⟨"A", .buy, 50, 0, 1⟩] ∧
      ((([⟨"A", .buy, 50, 0, 1⟩] : List FillCall).map cash).sum ≠
        (recordFills ⟨[], 0⟩ [⟨"A", .buy, 50, 0, 1⟩]).realizedPnl - 0 -
          (recordFills ⟨[], 0⟩ [⟨"A", .buy, 50, 0, 1⟩]).basis) := by
  decide +kernel

end Runs

end CashBook

/-! ## The engine's book -/

section Engine

variable {Time Day : Type} [LinearOrder Time] [Zero Time] [Add Time] [Sub Time] [DecidableEq Day]

namespace Position

omit [LinearOrder Time] [Zero Time] [Add Time] [Sub Time]

def holding (pos : Position Time) : Holding :=
  ⟨pos.entryPrice.value, pos.contracts.value, pos.entryFeeUsd.value⟩

end Position

namespace Fill

def call (fill : Fill) (ticker : String) (side : OrderSide) : FillCall :=
  ⟨ticker, side, fill.price.value, fill.filled.value, fill.fee.value⟩

end Fill

namespace Context

omit [LinearOrder Time] [Zero Time] [Add Time] [Sub Time] [DecidableEq Day]

/-- The book by its values. -/
def cashBook (s : Context Time Day) : CashBook :=
  ⟨Dict.mapValues Position.holding s.positions, s.realizedPnl.value⟩

theorem cashBook_position (s : Context Time Day) (ticker : String) :
    s.cashBook.position ticker = (s.position ticker).map Position.holding :=
  Dict.get_mapValues _

theorem cashBook_put (s : Context Time Day) (ticker : String) (pos : Position Time) :
    (s.putPosition ticker pos).cashBook =
      { s.cashBook with positions := Dict.put s.cashBook.positions ticker pos.holding } :=
  congrArg (CashBook.mk · s.realizedPnl.value) (Dict.mapValues_put _)

theorem cashBook_drop (s : Context Time Day) (ticker : String) :
    (s.dropPosition ticker).cashBook =
      { s.cashBook with positions := Dict.erase s.cashBook.positions ticker } :=
  congrArg (CashBook.mk · s.realizedPnl.value) (Dict.mapValues_erase _)

end Context

/-- The operation's answer, if it has one, is the exact result. -/
def Exactly (operation : Except EngineError Decimal) (result : ℚ) : Prop :=
  ∀ answer, operation = .ok answer → answer.value = result

variable (inst : Installation Time Day)

/-- What averaging in computes is exact. -/
structure ExactAveraging (pos : Position Time) (fill : Fill) : Prop where
  averaged : ∀ total price, averagedIn pos fill = .ok (total, price) →
    total.value = pos.contracts.value + fill.filled.value ∧
      price.value = (pos.entryPrice.value * pos.contracts.value +
        fill.price.value * fill.filled.value) / (pos.contracts.value + fill.filled.value)
  fee : Exactly (add pos.entryFeeUsd fill.fee) (pos.entryFeeUsd.value + fill.fee.value)

/-- What closing computes is exact. -/
structure ExactClosing (s : Context Time Day) (pos : Position Time) (call : FillCall)
    (fill : Fill) : Prop where
  closed : ∀ pnl part, closingPnl pos fill = .ok (pnl, part) →
    pnl.value = pos.holding.pnl call ∧ part.value = pos.holding.entryFeePart call ∧
      Exactly (add s.realizedPnl pnl) (s.realizedPnl.value + pnl.value) ∧
      Exactly (subtract pos.entryFeeUsd part) (pos.entryFeeUsd.value - part.value)
  left : Exactly (subtract pos.contracts (min fill.filled pos.contracts))
    (pos.contracts.value - (min fill.filled pos.contracts).value)

/-- Everything the fill computes is exact. -/
def ExactFill (s : Context Time Day) (ticker : String) (side : OrderSide) (fill : Fill) : Prop :=
  ∀ pos, s.position ticker = some pos →
    match side with
    | .buy => ExactAveraging pos fill
    | .sell => ExactClosing s pos (fill.call ticker side) fill

omit [LinearOrder Time] [Zero Time] [Add Time] [Sub Time] [DecidableEq Day] in
theorem averageIn_exact {s : Context Time Day} {ticker : String} {pos : Position Time} {fill : Fill}
    (exact : ExactAveraging pos fill) :
    Triple (fun t => t = s) (averageIn ticker pos fill : Engine Time Day Unit)
      (fun _ t => t.cashBook = { s.cashBook with
        positions := Dict.put s.cashBook.positions ticker
          (pos.holding.averagedIn (fill.call ticker .buy)) }) (fun _ => True) := by
  refine Triple.except_bind (fun (total, price) averaged => ?_) (fun _ _ => trivial)
  obtain ⟨totalExact, priceExact⟩ := exact.averaged total price averaged
  refine Triple.modify_bind ?_
  refine Triple.except_bind (fun fee added => ?_) (fun _ _ => trivial)
  have feeExact := exact.fee fee added
  have values : Position.holding { pos with
      entryPrice := price, contracts := total, entryFeeUsd := fee } =
      pos.holding.averagedIn (fill.call ticker .buy) := by
    simp only [Position.holding, Holding.averagedIn, Fill.call, priceExact, totalExact, feeExact]
  apply Triple.modify_from
  show (Context.putPosition _ _ _).cashBook = _
  rw [Context.cashBook_put, Context.cashBook_put, values]
  exact congrArg (CashBook.mk · _) Dict.put_put

omit [Add Time] [Sub Time] [DecidableEq Day] in
theorem closePosition_exact {s : Context Time Day} {ticker : String} {pos : Position Time}
    {fill : Fill} {now : Time} (noLedger : s.ledger = none)
    (exact : ExactClosing s pos (fill.call ticker .sell) fill) :
    Triple (fun t => t = s) (closePosition inst ticker pos fill now)
      (fun _ t => t.cashBook =
        { positions :=
            if (pos.holding.reduced (fill.call ticker .sell)).contracts = 0 then
              Dict.erase s.cashBook.positions ticker
            else Dict.put s.cashBook.positions ticker
              (pos.holding.reduced (fill.call ticker .sell))
          realizedPnl := s.cashBook.realizedPnl + pos.holding.pnl (fill.call ticker .sell) })
      (fun _ => True) := by
  refine Triple.except_bind (fun (pnl, part) closed => ?_) (fun _ _ => trivial)
  obtain ⟨pnlExact, partExact, realizedExact, feeExact⟩ := exact.closed pnl part closed
  refine Triple.read_bind ?_
  refine Triple.except_bind (fun realized added => ?_) (fun _ _ => trivial)
  refine Triple.modify_bind ?_
  refine Triple.bind (S := fun _ t => t = { s with realizedPnl := realized }) ?_ fun _ => ?_
  · refine Triple.read_bind ?_
    rw [show ({ s with realizedPnl := realized } : Context Time Day).ledger = none from noLedger]
    exact Triple.answer_from rfl
  refine Triple.except_bind (fun left subtracted => ?_) (fun _ _ => trivial)
  refine Triple.modify_bind ?_
  refine Triple.except_bind (fun feeLeft rest => ?_) (fun _ _ => trivial)
  refine Triple.modify_bind ?_
  have result : realized.value = s.realizedPnl.value + pos.holding.pnl (fill.call ticker .sell) :=
    (realizedExact realized added).trans (congrArg _ pnlExact)
  have values : Position.holding { pos with contracts := left, entryFeeUsd := feeLeft } =
      pos.holding.reduced (fill.call ticker .sell) := by
    simp only [Position.holding, Holding.reduced, Holding.closing, Fill.call,
      exact.left left subtracted, feeExact feeLeft rest, partExact, Decimal.min_value]
  have flat : left = 0 ↔ (pos.holding.reduced (fill.call ticker .sell)).contracts = 0 := by
    rw [← values]
    exact ⟨fun none => by rw [none]; rfl, fun none => Decimal.ext' none⟩
  have booked : ({ s with realizedPnl := realized } : Context Time Day).cashBook =
      { s.cashBook with
        realizedPnl := s.cashBook.realizedPnl + pos.holding.pnl (fill.call ticker .sell) } :=
    congrArg (CashBook.mk _) result
  refine Triple.ite (fun none => ?_) (fun some => ?_)
  · apply Triple.modify_from
    show (Context.dropPosition _ _).cashBook = _
    rw [if_pos (flat.mp none), Context.cashBook_drop, Context.cashBook_put, Context.cashBook_put,
      booked]
    exact congrArg (CashBook.mk · _) (Dict.erase_put.trans Dict.erase_put)
  · apply Triple.answer_from
    rw [if_neg (some ∘ flat.mpr), Context.cashBook_put, Context.cashBook_put, booked, values]
    exact congrArg (CashBook.mk · _) Dict.put_put

omit [Add Time] [Sub Time] in
/-- A fill without a ledger whose results are exact does to the engine's book,
by its values, what the exact fill does. -/
theorem recordFill_exact {s : Context Time Day} {ticker : String} {side : OrderSide} {fill : Fill}
    {now : Time} (noLedger : s.ledger = none) (exact : ExactFill s ticker side fill) :
    Triple (fun t => t = s) (recordFill inst ticker side fill now)
      (fun _ t => t.cashBook = s.cashBook.recordFill (fill.call ticker side)) (fun _ => True) := by
  refine Triple.ite (fun none => ?_) (fun some => ?_)
  · rintro _ rfl
    have nothing : (fill.call ticker side).filled ≤ 0 := none
    exact (CashBook.recordFill_ignored nothing).symm
  · have positive : ¬(fill.call ticker side).filled ≤ 0 := some
    unfold CashBook.recordFill
    rw [if_neg positive]
    have current : Triple (fun t => t = s) (refreshDailyPnl inst now) (fun _ t => t = s)
        (fun _ => True) := by
      refine Triple.read_bind ?_
      rw [noLedger]
      exact Triple.answer_from rfl
    refine Triple.bind current fun _ => Triple.read_bind ?_
    have view := s.cashBook_position ticker
    cases side <;> cases found : s.position ticker <;> rw [found] at view
    · rintro _ rfl
      rw [show (fill.call ticker .buy).ticker = ticker from rfl, view]
      exact Context.cashBook_put _ _ _
    · rw [show (fill.call ticker .buy).ticker = ticker from rfl, view]
      exact averageIn_exact (exact _ found)
    · rintro _ rfl
      rw [show (fill.call ticker .sell).ticker = ticker from rfl, view]
      rfl
    · rw [show (fill.call ticker .sell).ticker = ticker from rfl, view]
      exact closePosition_exact inst noLedger (exact _ found)

end Engine

end Inci.Trading
