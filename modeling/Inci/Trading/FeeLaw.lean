/-
# Trading.FeeLaw -- the fee of a fill on exact amounts

`Exact.feeUsd` is the fee estimate with decimals taken as exact.  It is the
least charge that covers the trade fee and leaves the balance on the account's
precision, so an account that starts on that grid stays on it.  `feeUsd_exact`
connects it to the estimate in Python's context, whose results have 28 digits.
-/
import Mathlib.Tactic.NormNum
import Inci.Theory.Checks
import Inci.Theory.Grid
import Inci.Trading.Fees

namespace Inci.Trading

open Inci.Theory

set_option autoImplicit false

namespace Exact

/-- `trade_fee_usd`; quantizing up to a centicent is its ceiling there. -/
def tradeFeeUsd (priceCents contracts multiplier : ℚ) : ℚ :=
  let p := priceCents / 100
  let raw := multiplier * (7 / 100) * contracts * p * (1 - p)
  ceilTo (1 / 10000) raw

/-- `revenue`: what a fill moves before its fee. -/
def revenue (priceCents contracts : ℚ) (side : OrderSide) : ℚ :=
  priceCents / 100 * contracts * match side with
    | .buy => -1
    | .sell => 1

/-- `fee_usd` -/
def feeUsd (priceCents contracts multiplier : ℚ) (side : OrderSide) (balancePrecisionUsd : ℚ) :
    Except EngineError ℚ := do
  let price := priceCents / 100
  if contracts < 0 ∨ ¬(0 ≤ price ∧ price ≤ 1) ∨
      (balancePrecisionUsd ≠ 1 / 100 ∧ balancePrecisionUsd ≠ 1 / 10000) then
    throw (.value "invalid fee inputs")
  let tradeFee := tradeFeeUsd priceCents contracts multiplier
  let balanceChange := revenue priceCents contracts side - tradeFee
  let floored := ⌊balanceChange / balancePrecisionUsd⌋ * balancePrecisionUsd
  let roundingFee := balanceChange - floored
  return tradeFee + roundingFee

/-- The two account precisions. -/
def Precision (unit : ℚ) : Prop := unit = 1 / 100 ∨ unit = 1 / 10000

theorem Precision.positive {unit : ℚ} (known : Precision unit) : 0 < unit := by
  rcases known with rfl | rfl <;> norm_num

/-- What one fill is for the account: its price, size and side. -/
structure Fill where
  priceCents : ℚ
  contracts : ℚ
  side : OrderSide
  price_nonneg : 0 ≤ priceCents
  price_le : priceCents ≤ 100
  contracts_nonneg : 0 ≤ contracts

namespace Fill

variable (fill : Fill) {unit : ℚ}

def tradeFee : ℚ := tradeFeeUsd fill.priceCents fill.contracts 1

/-- The fee law's fee. -/
def fee (unit : ℚ) : ℚ :=
  settled unit (revenue fill.priceCents fill.contracts fill.side) fill.tradeFee

/-- The estimate accepts every fill, and charges the settled fee. -/
theorem feeUsd_eq (known : Precision unit) :
    feeUsd fill.priceCents fill.contracts 1 fill.side unit = .ok (fill.fee unit) := by
  have valid : ¬(fill.contracts < 0 ∨
      ¬(0 ≤ fill.priceCents / 100 ∧ fill.priceCents / 100 ≤ 1) ∨
      (unit ≠ 1 / 100 ∧ unit ≠ 1 / 10000)) := by
    have quantity := fill.contracts_nonneg
    have low : 0 ≤ fill.priceCents / 100 := div_nonneg fill.price_nonneg (by norm_num)
    have high : fill.priceCents / 100 ≤ 1 := by
      rw [div_le_one (by norm_num)]
      exact fill.price_le
    rintro (negative | outside | unknown)
    · linarith
    · exact outside ⟨low, high⟩
    · rcases known with rfl | rfl
      · exact unknown.1 rfl
      · exact unknown.2 rfl
  unfold feeUsd
  rw [if_neg valid]
  rfl

/-- The trade fee is the quadratic fee, raised to a centicent. -/
theorem tradeFee_isLeast :
    IsLeast {amount | amount ∈ grid (1 / 10000 : ℚ) ∧
      7 / 100 * fill.contracts * (fill.priceCents / 100) * (1 - fill.priceCents / 100) ≤ amount}
      fill.tradeFee := by
  have least := ceilTo_isLeast (show (0 : ℚ) < 1 / 10000 by norm_num)
    (7 / 100 * fill.contracts * (fill.priceCents / 100) * (1 - fill.priceCents / 100))
  have same : fill.tradeFee = ceilTo (1 / 10000)
      (7 / 100 * fill.contracts * (fill.priceCents / 100) * (1 - fill.priceCents / 100)) := by
    unfold tradeFee tradeFeeUsd
    rw [one_mul]
  rwa [same]

end Fill

/-! ## The account -/

/-- The balance after a fill: its revenue less its fee. -/
def settle (unit : ℚ) (balance : ℚ) (fill : Fill) : Except EngineError ℚ := do
  let fee ← feeUsd fill.priceCents fill.contracts 1 fill.side unit
  return balance + (revenue fill.priceCents fill.contracts fill.side - fee)

variable {unit : ℚ}

theorem settle_onGrid (known : Precision unit) {balance : ℚ} (onGrid : balance ∈ grid unit)
    (fill : Fill) : ∃ after ∈ grid unit, settle unit balance fill = .ok after := by
  have change : revenue fill.priceCents fill.contracts fill.side - fill.fee unit ∈ grid unit :=
    (settled_isLeast known.positive _ _).1.2
  refine ⟨_, add_mem onGrid change, ?_⟩
  unfold settle
  rw [fill.feeUsd_eq known]
  rfl

theorem settle_run (known : Precision unit) (fills : List Fill) {balance : ℚ}
    (onGrid : balance ∈ grid unit) :
    ∃ after ∈ grid unit, fills.foldlM (settle unit) balance = .ok after := by
  induction fills generalizing balance with
  | nil => exact ⟨balance, onGrid, rfl⟩
  | cons fill fills ih =>
      obtain ⟨next, nextOnGrid, settled⟩ := settle_onGrid known onGrid fill
      obtain ⟨after, afterOnGrid, rest⟩ := ih nextOnGrid
      refine ⟨after, afterOnGrid, ?_⟩
      rw [List.foldlM_cons, settled]
      exact rest

end Exact

/-- The fee is the least charge over the trade fee that leaves the balance on the
account's precision, and every sequence of fills keeps an account on it. -/
theorem fee_law {unit : ℚ} (known : Exact.Precision unit) :
    (∀ fill : Exact.Fill, ∃ fee,
      Exact.feeUsd fill.priceCents fill.contracts 1 fill.side unit = .ok fee ∧
      IsLeast {amount | amount ∈ grid (1 / 10000 : ℚ) ∧
        7 / 100 * fill.contracts * (fill.priceCents / 100) * (1 - fill.priceCents / 100) ≤ amount}
        (Exact.tradeFeeUsd fill.priceCents fill.contracts 1) ∧
      IsLeast {charge | Exact.tradeFeeUsd fill.priceCents fill.contracts 1 ≤ charge ∧
        Exact.revenue fill.priceCents fill.contracts fill.side - charge ∈ grid unit} fee ∧
      0 ≤ fee - Exact.tradeFeeUsd fill.priceCents fill.contracts 1 ∧
      fee - Exact.tradeFeeUsd fill.priceCents fill.contracts 1 < unit) ∧
    ∀ (fills : List Exact.Fill), ∀ balance ∈ grid unit,
      ∃ after ∈ grid unit, fills.foldlM (Exact.settle unit) balance = .ok after := by
  refine ⟨fun fill => ⟨fill.fee unit, fill.feeUsd_eq known, fill.tradeFee_isLeast, ?_, ?_⟩, ?_⟩
  · exact settled_isLeast known.positive _ _
  · exact settled_near known.positive _ _
  · exact fun fills balance onGrid => Exact.settle_run known fills onGrid

/-- Ten contracts bought at half a dollar. -/
def evenFill : Exact.Fill := ⟨50, 10, .buy, by norm_num, by norm_num, by norm_num⟩

theorem fee_law_cent :
    ∃ after ∈ grid (1 / 100 : ℚ), [evenFill].foldlM (Exact.settle (1 / 100)) 0 = .ok after :=
  (fee_law (.inl rfl)).2 [evenFill] 0 (zero_mem _)

/-! ## Python's decimals

A price of at most two places and a size of at most two places below ten thousand
million keep every operation of the estimate within 28 digits. -/

section Context

theorem quantizeCeiling_ofDigits {x : Decimal} {digits : ℤ} {places : ℕ}
    (value : ⌈x.value * 10 ^ places⌉ = digits) (small : |digits| < 10 ^ 28) :
    pythonContext.quantizeCeiling x places = .ok (Decimal.ofDigits digits places) := by
  subst value
  unfold DecimalContext.quantizeCeiling
  exact if_neg (not_le.mpr small)

variable {cents size : ℤ}

/-- The trade fee in centicents. -/
def tradeFeeUnits (cents size : ℤ) : ℤ := ⌈(7 * size * cents * (10000 - cents) : ℚ) / 10 ^ 8⌉

theorem feeProduct_bounds (low : 0 ≤ cents) (high : cents ≤ 10000) (nonneg : 0 ≤ size)
    (few : size ≤ 10 ^ 12) :
    0 ≤ 7 * size * cents * (10000 - cents) ∧ 7 * size * cents * (10000 - cents) ≤ 7 * 10 ^ 20 := by
  have price : 0 ≤ cents * (10000 - cents) ∧ cents * (10000 - cents) ≤ 10 ^ 8 := by
    constructor <;> nlinarith
  have same : 7 * size * cents * (10000 - cents) = 7 * (size * (cents * (10000 - cents))) := by ring
  rw [same]
  have whole : size * (cents * (10000 - cents)) ≤ 10 ^ 12 * 10 ^ 8 :=
    mul_le_mul few price.2 price.1 (by norm_num)
  have positive := mul_nonneg nonneg price.1
  constructor <;> omega

theorem tradeFeeUnits_bounds (low : 0 ≤ cents) (high : cents ≤ 10000) (nonneg : 0 ≤ size)
    (few : size ≤ 10 ^ 12) :
    0 ≤ tradeFeeUnits cents size ∧ tradeFeeUnits cents size ≤ 7 * 10 ^ 12 := by
  obtain ⟨positive, least⟩ := feeProduct_bounds low high nonneg few
  have positive' : (0 : ℚ) ≤ 7 * size * cents * (10000 - cents) := by exact_mod_cast positive
  have least' : (7 * size * cents * (10000 - cents) : ℚ) ≤ 7 * 10 ^ 20 := by exact_mod_cast least
  refine ⟨Int.ceil_nonneg (div_nonneg positive' (by norm_num)), Int.ceil_le.mpr ?_⟩
  rw [div_le_iff₀ (by norm_num)]
  push_cast
  linarith

theorem tradeFeeUsd_context (low : 0 ≤ cents) (high : cents ≤ 10000) (nonneg : 0 ≤ size)
    (few : size ≤ 10 ^ 12) :
    tradeFeeUsd (Decimal.ofDigits cents 2) (Decimal.ofDigits size 2) 1 =
      .ok (Decimal.ofDigits (tradeFeeUnits cents size) 4) := by
  obtain ⟨positive, least⟩ := feeProduct_bounds low high nonneg few
  have sized : |7 * size| < 10 ^ 28 := by rw [abs_lt]; constructor <;> omega
  have priced : 0 ≤ size * cents ∧ size * cents ≤ 10 ^ 12 * 10000 :=
    ⟨mul_nonneg nonneg low, mul_le_mul few high low (by norm_num)⟩
  have p : divide (Decimal.ofDigits cents 2) hundred = .ok (Decimal.ofDigits cents 4) :=
    divide_exact (by simp [hundred, Decimal.ofNat]) (by
      simp only [hundred, Decimal.ofNat, Decimal.ofDigits_value]
      norm_num
      ring) (by rw [abs_lt]; constructor <;> omega) (by decide)
  have scaled : multiply 1 seven = .ok (Decimal.ofDigits 7 2) :=
    multiply_exact (by simp [seven]) (by decide) (by decide)
  have quantity : multiply (Decimal.ofDigits 7 2) (Decimal.ofDigits size 2) =
      .ok (Decimal.ofDigits (7 * size) 4) :=
    multiply_exact (by simp only [Decimal.ofDigits_value]; push_cast; norm_num; ring) sized (by decide)
  have weighted : multiply (Decimal.ofDigits (7 * size) 4) (Decimal.ofDigits cents 4) =
      .ok (Decimal.ofDigits (7 * size * cents) 8) :=
    multiply_exact (by simp only [Decimal.ofDigits_value]; push_cast; norm_num; ring)
      (by rw [abs_lt, mul_assoc]; constructor <;> omega) (by decide)
  have rest : subtract 1 (Decimal.ofDigits cents 4) = .ok (Decimal.ofDigits (10000 - cents) 4) :=
    subtract_exact (by simp only [Decimal.ofDigits_value, Decimal.one_value]; push_cast; norm_num; ring)
      (by rw [abs_lt]; constructor <;> omega) (by decide)
  have raw : multiply (Decimal.ofDigits (7 * size * cents) 8) (Decimal.ofDigits (10000 - cents) 4) =
      .ok (Decimal.ofDigits (7 * size * cents * (10000 - cents)) 12) :=
    multiply_exact (by simp only [Decimal.ofDigits_value]; push_cast; norm_num; ring)
      (by rw [abs_lt]; constructor <;> omega) (by decide)
  obtain ⟨feeNonneg, feeLeast⟩ := tradeFeeUnits_bounds low high nonneg few
  have units : ⌈(Decimal.ofDigits (7 * size * cents * (10000 - cents)) 12).value * 10 ^ 4⌉ =
      tradeFeeUnits cents size := by
    rw [tradeFeeUnits]
    congr 1
    simp only [Decimal.ofDigits_value]
    push_cast
    norm_num
    ring
  have quantized : pythonContext.quantizeCeiling
      (Decimal.ofDigits (7 * size * cents * (10000 - cents)) 12) 4 =
        .ok (Decimal.ofDigits (tradeFeeUnits cents size) 4) := by
    refine quantizeCeiling_ofDigits units ?_
    rw [abs_of_nonneg feeNonneg]
    omega
  simp only [tradeFeeUsd, p, scaled, quantity, weighted, rest, raw, quantized, ok_bind]
  rfl

/-- The exact trade fee in centicents. -/
theorem tradeFeeUsd_units (cents size : ℤ) :
    Exact.tradeFeeUsd (cents * 10 ^ (-(2 : ℤ))) (size * 10 ^ (-(2 : ℤ))) 1 =
      tradeFeeUnits cents size * 10 ^ (-(4 : ℤ)) := by
  have same : 1 * (7 / 100) * ((size : ℚ) * 10 ^ (-(2 : ℤ))) * (cents * 10 ^ (-(2 : ℤ)) / 100) *
      (1 - cents * 10 ^ (-(2 : ℤ)) / 100) / (1 / 10000) =
        (7 * size * cents * (10000 - cents) : ℚ) / 10 ^ 8 := by
    norm_num
    ring
  simp only [Exact.tradeFeeUsd, ceilTo, same, tradeFeeUnits]
  norm_num

theorem place_scale {k p : ℕ} (places : k + p = 6) :
    (10 : ℚ) ^ (-(k : ℤ)) = 10 ^ p * 10 ^ (-(6 : ℤ)) := by
  rw [← zpow_natCast, ← zpow_add₀ (by norm_num)]
  congr 1
  omega

/-- An amount of six places in units of a place. -/
theorem units_of_place (change : ℚ) (p : ℕ) :
    change * 10 ^ (-(6 : ℤ)) / (10 ^ p * 10 ^ (-(6 : ℤ))) = change * 10 ^ (-(p : ℤ)) := by
  rw [mul_div_mul_right _ _ (by norm_num), div_eq_mul_inv, zpow_neg, zpow_natCast]

/-- The steps of the estimate after the trade fee. -/
theorem roundingFee_context {fee change floor : ℤ} {k p : ℕ} (places : k + p = 6)
    (floors : floor = ⌊(change : ℚ) * 10 ^ (-(p : ℤ))⌋) (feeSmall : |fee| ≤ 10 ^ 14)
    (changeSmall : |change| ≤ 10 ^ 17) :
    (do
      let units ← divide (Decimal.ofDigits change 6) (Decimal.ofDigits 1 k)
      let floored ← multiply units.toIntegralFloor (Decimal.ofDigits 1 k)
      let roundingFee ← subtract (Decimal.ofDigits change 6) floored
      add (Decimal.ofDigits fee 4) roundingFee) =
        .ok (Decimal.ofDigits (100 * fee + (change - floor * 10 ^ p)) 6) := by
  have scale := place_scale places
  have inverse : (10 : ℚ) ^ (-(p : ℤ)) * 10 ^ p = 1 := by
    rw [← zpow_natCast, ← zpow_add₀ (by norm_num)]
    norm_num
  have big : (1 : ℚ) ≤ 10 ^ p := one_le_pow₀ (by norm_num)
  -- flooring moves the change by less than one unit of the precision
  have near : (floor * 10 ^ p : ℚ) ≤ change ∧ (change : ℚ) < (floor + 1) * 10 ^ p := by
    have below : (floor : ℚ) ≤ change * 10 ^ (-(p : ℤ)) := floors ▸ Int.floor_le _
    have above : (change : ℚ) * 10 ^ (-(p : ℤ)) < floor + 1 := floors ▸ Int.lt_floor_add_one _
    constructor
    · calc (floor * 10 ^ p : ℚ) ≤ change * 10 ^ (-(p : ℤ)) * 10 ^ p :=
            mul_le_mul_of_nonneg_right below (by linarith)
        _ = change := by rw [mul_assoc, inverse, mul_one]
    · calc (change : ℚ) = change * 10 ^ (-(p : ℤ)) * 10 ^ p := by rw [mul_assoc, inverse, mul_one]
        _ < (floor + 1) * 10 ^ p := mul_lt_mul_of_pos_right above (by linarith)
  have few : (10 : ℤ) ^ p ≤ 10 ^ 6 := pow_le_pow_right₀ (by norm_num) (by omega)
  have one : (1 : ℤ) ≤ 10 ^ p := one_le_pow₀ (by norm_num)
  have low : floor * 10 ^ p ≤ change := by exact_mod_cast near.1
  have high : change < floor * 10 ^ p + 10 ^ p := by
    have next : change < (floor + 1) * 10 ^ p := by exact_mod_cast near.2
    rwa [add_mul, one_mul] at next
  rw [abs_le] at feeSmall changeSmall
  have floorSmall : |floor| < 10 ^ 28 := by
    rw [abs_lt]
    constructor <;> nlinarith
  have units : divide (Decimal.ofDigits change 6) (Decimal.ofDigits 1 k) =
      .ok (Decimal.ofDigits change p) :=
    divide_exact (by simp) (by
      simp only [Decimal.ofDigits_value, scale, Int.cast_one, one_mul, Nat.cast_ofNat]
      exact units_of_place _ _)
      (by rw [abs_lt]; constructor <;> omega) (by omega)
  have floored : multiply (Decimal.ofDigits change p).toIntegralFloor (Decimal.ofDigits 1 k) =
      .ok (Decimal.ofDigits floor k) :=
    multiply_exact (by
      simp only [Decimal.toIntegralFloor, Decimal.ofDigits_value, Int.cast_one, one_mul, floors])
      floorSmall (by omega)
  have rounding : subtract (Decimal.ofDigits change 6) (Decimal.ofDigits floor k) =
      .ok (Decimal.ofDigits (change - floor * 10 ^ p) 6) :=
    subtract_exact (by
      simp only [Decimal.ofDigits_value, scale, Nat.cast_ofNat]
      push_cast
      ring) (by rw [abs_lt]; constructor <;> omega) (by decide)
  have total : add (Decimal.ofDigits fee 4) (Decimal.ofDigits (change - floor * 10 ^ p) 6) =
      .ok (Decimal.ofDigits (100 * fee + (change - floor * 10 ^ p)) 6) :=
    add_exact (by
      simp only [Decimal.ofDigits_value, Nat.cast_ofNat]
      push_cast
      norm_num
      ring) (by rw [abs_lt]; constructor <;> omega) (by decide)
  simp only [units, ok_bind, floored, rounding, total]

/-- The two precisions as a unit of the last place, with the places left below it. -/
theorem precision_places {precision : Decimal} (known : precision = cent ∨ precision = centicent) :
    ∃ k p : ℕ, k + p = 6 ∧ precision = Decimal.ofDigits 1 k ∧ Exact.Precision precision.value := by
  rcases known with rfl | rfl
  · refine ⟨2, 4, rfl, rfl, .inl ?_⟩
    simp only [cent, Decimal.ofDigits_value]
    norm_num
  · refine ⟨4, 2, rfl, rfl, .inr ?_⟩
    simp only [centicent, Decimal.ofDigits_value]
    norm_num

/-- On amounts of two places the estimate in Python's context is the exact one. -/
theorem feeUsd_exact (low : 0 ≤ cents) (high : cents ≤ 10000) (nonneg : 0 ≤ size)
    (few : size ≤ 10 ^ 12) (side : OrderSide) {precision : Decimal}
    (known : precision = cent ∨ precision = centicent) :
    ∃ fee, feeUsd (Decimal.ofDigits cents 2) (Decimal.ofDigits size 2) side precision = .ok fee ∧
      Exact.feeUsd (cents * 10 ^ (-(2 : ℤ))) (size * 10 ^ (-(2 : ℤ))) 1 side precision.value =
        .ok fee.value := by
  obtain ⟨k, p, places, unit, valid⟩ := precision_places known
  let sign : ℤ := match side with
    | .buy => -1
    | .sell => 1
  have unitSign : |sign| = 1 := by cases side <;> decide
  let units := tradeFeeUnits cents size
  let change := cents * size * sign - 100 * units
  obtain ⟨feeNonneg, feeLeast⟩ := tradeFeeUnits_bounds low high nonneg few
  have priced : 0 ≤ cents * size ∧ cents * size ≤ 10000 * 10 ^ 12 :=
    ⟨mul_nonneg low nonneg, mul_le_mul high few nonneg (by norm_num)⟩
  have moved : |cents * size * sign| ≤ 10 ^ 16 := by
    rw [abs_mul, unitSign, mul_one, abs_of_nonneg priced.1]
    omega
  have moved' := abs_le.mp moved
  have feeSmall : |units| ≤ 10 ^ 14 := by rw [abs_of_nonneg feeNonneg]; omega
  have changeSmall : |change| ≤ 10 ^ 17 := by rw [abs_le]; constructor <;> omega
  have price : divide (Decimal.ofDigits cents 2) hundred = .ok (Decimal.ofDigits cents 4) :=
    divide_exact (by simp [hundred, Decimal.ofNat]) (by
      simp only [hundred, Decimal.ofNat, Decimal.ofDigits_value]
      norm_num
      ring) (by rw [abs_lt]; constructor <;> omega) (by decide)
  have cents' : (0 : ℚ) ≤ cents ∧ (cents : ℚ) ≤ 10000 := ⟨by exact_mod_cast low, by exact_mod_cast high⟩
  have size' : (0 : ℚ) ≤ size := by exact_mod_cast nonneg
  have accepted : ¬(Decimal.ofDigits size 2 < 0 ∨
      ¬(0 ≤ Decimal.ofDigits cents 4 ∧ Decimal.ofDigits cents 4 ≤ 1) ∨
      (precision ≠ cent ∧ precision ≠ centicent)) := by
    simp only [Decimal.lt_def, Decimal.le_def, Decimal.ofDigits_value, Decimal.zero_value,
      Decimal.one_value, not_or, not_lt, not_not, not_and_or]
    refine ⟨by positivity, ⟨by positivity, ?_⟩, known⟩
    norm_num
    linarith
  have gross : multiply (Decimal.ofDigits cents 4) (Decimal.ofDigits size 2) =
      .ok (Decimal.ofDigits (cents * size) 6) :=
    multiply_exact (by simp only [Decimal.ofDigits_value]; push_cast; norm_num; ring)
      (by rw [abs_lt]; constructor <;> omega) (by decide)
  have revenue : ∀ d : Decimal, d.value = sign →
      multiply (Decimal.ofDigits (cents * size) 6) d = .ok (Decimal.ofDigits (cents * size * sign) 6) :=
    fun d signed => multiply_exact (by simp only [Decimal.ofDigits_value, signed]; push_cast; ring)
      (by rw [abs_lt]; constructor <;> omega) (by decide)
  have balance : subtract (Decimal.ofDigits (cents * size * sign) 6) (Decimal.ofDigits units 4) =
      .ok (Decimal.ofDigits change 6) :=
    subtract_exact (by
      simp only [Decimal.ofDigits_value, change]
      push_cast
      norm_num
      ring) (by omega) (by decide)
  have rounding := roundingFee_context places rfl feeSmall changeSmall
  refine ⟨Decimal.ofDigits (100 * units + (change - ⌊(change : ℚ) * 10 ^ (-(p : ℤ))⌋ * 10 ^ p)) 6,
    ?_, ?_⟩
  · unfold feeUsd
    rw [price, ok_bind, if_neg accepted]
    simp only [tradeFeeUsd_context low high nonneg few, ok_bind, gross]
    cases side <;>
    · rw [revenue _ (by simp [sign, Decimal.ofDigits_value]), ok_bind, balance, ok_bind, unit]
      exact rounding
  · let fill : Exact.Fill :=
      { priceCents := cents * 10 ^ (-(2 : ℤ))
        contracts := size * 10 ^ (-(2 : ℤ))
        side := side
        price_nonneg := by have := cents'.1; positivity
        price_le := by norm_num; linarith
        contracts_nonneg := by positivity }
    have answer := fill.feeUsd_eq valid
    have fee : fill.tradeFee = units * 10 ^ (-(4 : ℤ)) := tradeFeeUsd_units cents size
    have moves : Exact.revenue fill.priceCents fill.contracts fill.side - fill.tradeFee =
        change * 10 ^ (-(6 : ℤ)) := by
      rw [fee]
      cases side <;> simp only [Exact.revenue, fill, change, sign] <;> push_cast <;> norm_num <;> ring
    refine answer.trans (congrArg _ ?_)
    rw [Exact.Fill.fee, settled, moves, fee, unit, floorTo]
    simp only [Decimal.ofDigits_value, place_scale places, Int.cast_one, one_mul, units_of_place]
    push_cast
    norm_num
    ring

/-- Three contracts bought at half a dollar. -/
theorem feeUsd_exact_half : ∃ fee,
    feeUsd (Decimal.ofDigits 5000 2) (Decimal.ofDigits 300 2) .buy cent = .ok fee ∧
      Exact.feeUsd ((5000 : ℤ) * 10 ^ (-(2 : ℤ))) ((300 : ℤ) * 10 ^ (-(2 : ℤ))) 1 .buy cent.value =
        .ok fee.value :=
  feeUsd_exact (by decide) (by decide) (by decide) (by decide) .buy (.inl rfl)

end Context

end Inci.Trading
