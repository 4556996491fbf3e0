/-
# Theory.DecimalArithmetic -- decimal operations that may signal

The operations of a decimal context: the exact result rounded, or the signal the
context traps.  `pythonContext` is the context every Python thread starts with.
-/
import Inci.Theory.Decimal

namespace Inci.Theory

set_option autoImplicit false

/-- The signals a default context traps. -/
inductive DecimalSignal where
  | overflow
  | invalidOperation
  | divisionByZero
  deriving DecidableEq

def pythonContext : DecimalContext := ⟨28, 999999, -1000026⟩

namespace DecimalContext

variable (ctx : DecimalContext)

def add (x y : Decimal) : Except DecimalSignal Decimal := ctx.round .overflow (x.value + y.value)

def subtract (x y : Decimal) : Except DecimalSignal Decimal :=
  ctx.round .overflow (x.value - y.value)

def multiply (x y : Decimal) : Except DecimalSignal Decimal :=
  ctx.round .overflow (x.value * y.value)

def divide (x y : Decimal) : Except DecimalSignal Decimal :=
  if y.value = 0 then .error (if x.value = 0 then .invalidOperation else .divisionByZero)
  else ctx.round .overflow (x.value / y.value)

def negate (x : Decimal) : Except DecimalSignal Decimal := ctx.round .overflow (-x.value)

/-- `x.quantize` to the given number of places, rounding up. -/
def quantizeCeiling (x : Decimal) (places : ℕ) : Except DecimalSignal Decimal :=
  if 10 ^ ctx.precision ≤ |⌈x.value * 10 ^ places⌉| then .error .invalidOperation
  else .ok ⟨⌈x.value * 10 ^ places⌉ * 10 ^ (-(places : ℤ)), finite_scaled _ _⟩

end DecimalContext

namespace Decimal

/-- `x.to_integral_value`, rounding down. -/
def toIntegralFloor (x : Decimal) : Decimal := ⟨⌊x.value⌋, finite_ofInt _⟩

/-- `digits` over ten to the `places`. -/
def ofDigits (digits : ℤ) (places : ℕ) : Decimal :=
  ⟨digits * 10 ^ (-(places : ℤ)), finite_scaled _ _⟩

end Decimal

/-! ## Exact results

Python's context is exact on results of at most 28 digits. -/

namespace Decimal

@[simp] theorem ofDigits_value (digits : ℤ) (places : ℕ) :
    (ofDigits digits places).value = digits * 10 ^ (-(places : ℤ)) := rfl

end Decimal

theorem round_ofDigits {x : ℚ} {digits : ℤ} {places : ℕ}
    (value : x = digits * 10 ^ (-(places : ℤ))) (size : |digits| < 10 ^ 28)
    (room : places ≤ 1000000) :
    pythonContext.round DecimalSignal.overflow x = .ok (Decimal.ofDigits digits places) := by
  have tiny : pythonContext.tinyExponent ≤ -(places : ℤ) := by
    show (-1000026 : ℤ) ≤ _
    omega
  have large : -(places : ℤ) + pythonContext.precision ≤ pythonContext.maxExponent + 1 := by
    show -(places : ℤ) + 28 ≤ 999999 + 1
    omega
  rw [value]
  exact pythonContext.round_exact _ rfl size tiny large _

end Inci.Theory
