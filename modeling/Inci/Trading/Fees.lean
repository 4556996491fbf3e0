/-
# Trading.Fees -- the fee estimate of a paper fill

`feeUsd` is the trade fee, rounded up to a centicent, plus the charge that brings
the balance to the account's precision.  `projectedScalpPnlUsd` is what a clip
would earn at the configured take-profit.
-/
import Inci.Trading.Contracts

namespace Inci.Trading

open Inci.Theory

set_option autoImplicit false

/-- A decimal operation of the default context, with its signal as the failure. -/
def money (result : Except DecimalSignal Decimal) : Except EngineError Decimal :=
  result.mapError .decimal

def add (x y : Decimal) : Except EngineError Decimal := money (pythonContext.add x y)
def subtract (x y : Decimal) : Except EngineError Decimal := money (pythonContext.subtract x y)
def multiply (x y : Decimal) : Except EngineError Decimal := money (pythonContext.multiply x y)
def divide (x y : Decimal) : Except EngineError Decimal := money (pythonContext.divide x y)
def negate (x : Decimal) : Except EngineError Decimal := money (pythonContext.negate x)

/-! The operations are exact where the result has at most 28 digits. -/

section Exact

variable {x y : Decimal} {digits : ℤ} {places : ℕ}

theorem add_exact (value : x.value + y.value = digits * 10 ^ (-(places : ℤ)))
    (size : |digits| < 10 ^ 28) (room : places ≤ 1000000) :
    add x y = .ok (Decimal.ofDigits digits places) :=
  congrArg money (round_ofDigits value size room)

theorem subtract_exact (value : x.value - y.value = digits * 10 ^ (-(places : ℤ)))
    (size : |digits| < 10 ^ 28) (room : places ≤ 1000000) :
    subtract x y = .ok (Decimal.ofDigits digits places) :=
  congrArg money (round_ofDigits value size room)

theorem multiply_exact (value : x.value * y.value = digits * 10 ^ (-(places : ℤ)))
    (size : |digits| < 10 ^ 28) (room : places ≤ 1000000) :
    multiply x y = .ok (Decimal.ofDigits digits places) :=
  congrArg money (round_ofDigits value size room)

theorem divide_exact (nonzero : y.value ≠ 0)
    (value : x.value / y.value = digits * 10 ^ (-(places : ℤ)))
    (size : |digits| < 10 ^ 28) (room : places ≤ 1000000) :
    divide x y = .ok (Decimal.ofDigits digits places) := by
  unfold divide DecimalContext.divide
  rw [if_neg nonzero]
  exact congrArg money (round_ofDigits value size room)

end Exact

theorem add_value {x y z : Decimal} (added : add x y = .ok z) :
    z.value = pythonContext.roundValue (x.value + y.value) := by
  unfold add money DecimalContext.add DecimalContext.round at added
  split_ifs at added
  · cases added
  · cases added
    rfl

def hundred : Decimal := Decimal.ofNat 100

/-- `_SEVEN` -/
def seven : Decimal := Decimal.ofDigits 7 2

/-- The two account precisions: a cent and a centicent. -/
def cent : Decimal := Decimal.ofDigits 1 2
def centicent : Decimal := Decimal.ofDigits 1 4

/-- A sum of a cent's worth is not rounded away. -/
theorem add_cent {x y z : Decimal} (added : add x y = .ok z) (least : 1 / 100 ≤ x.value + y.value) :
    1 / 200 ≤ z.value := by
  have leading : pythonContext.tinyExponent ≤ Int.log 10 (x.value + y.value) := by
    rw [← Int.zpow_le_iff_le_log (by norm_num) (by linarith)]
    calc ((10 : ℕ) : ℚ) ^ pythonContext.tinyExponent ≤ 10 ^ (-2 : ℤ) :=
          zpow_le_zpow_right₀ (by norm_num) (by decide)
      _ ≤ x.value + y.value := by norm_num; linarith
  have half : (x.value + y.value) / 2 ≤ pythonContext.roundValue (x.value + y.value) :=
    DecimalContext.half_le_roundValue (by decide) (by linarith) leading
  rw [add_value added]
  linarith

def tradeFeeUsd (priceCents contracts multiplier : Decimal) : Except EngineError Decimal := do
  let p ← divide priceCents hundred
  let scaled ← multiply multiplier seven
  let sized ← multiply scaled contracts
  let weighted ← multiply sized p
  let rest ← subtract 1 p
  let raw ← multiply weighted rest
  money (pythonContext.quantizeCeiling raw 4)

def feeUsd (priceCents contracts : Decimal) (side : OrderSide) (balancePrecisionUsd : Decimal) :
    Except EngineError Decimal := do
  let price ← divide priceCents hundred
  if contracts < 0 ∨ ¬(0 ≤ price ∧ price ≤ 1) ∨
      (balancePrecisionUsd ≠ cent ∧ balancePrecisionUsd ≠ centicent) then
    throw (.value "invalid fee inputs")
  let tradeFee ← tradeFeeUsd priceCents contracts 1
  let gross ← multiply price contracts
  let sign : Decimal := match side with
    | .buy => Decimal.ofDigits (-1) 0
    | .sell => 1
  let revenue ← multiply gross sign
  let balanceChange ← subtract revenue tradeFee
  let units ← divide balanceChange balancePrecisionUsd
  let floored ← multiply units.toIntegralFloor balancePrecisionUsd
  let roundingFee ← subtract balanceChange floored
  add tradeFee roundingFee

def projectedScalpPnlUsd (askCents tpCents contracts balancePrecisionUsd : Decimal) :
    Except EngineError Decimal := do
  let entry := min (Decimal.ofNat 99) askCents
  let target ← add entry tpCents
  let exitFill := min (Decimal.ofNat 99) target
  let move ← subtract exitFill entry
  let sized ← multiply move contracts
  let gross ← divide sized hundred
  let entryFee ← feeUsd entry contracts .buy balancePrecisionUsd
  let afterEntry ← subtract gross entryFee
  let exitFee ← feeUsd exitFill contracts .sell balancePrecisionUsd
  subtract afterEntry exitFee

end Inci.Trading
