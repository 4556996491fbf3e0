/-
# Theory.Decimal -- finite decimals and a half-even context

A finite decimal is a rational with a finite decimal expansion.  Two Python
decimals compare equal, and encode alike, exactly when their values agree, so
the value is the whole of it.  Arithmetic in a context is the exact result
rounded half-even to the context's precision, never below its smallest
exponent; only an overflow is refused.
-/
import Mathlib.Data.Rat.Floor
import Mathlib.Data.Int.Log
import Mathlib.Algebra.Order.Floor.Ring
import Mathlib.Tactic.Ring
import Mathlib.Tactic.Linarith
import Mathlib.Tactic.Positivity
import Mathlib.Tactic.NormNum

namespace Inci.Theory

set_option autoImplicit false

/-- Some power of ten clears the denominator. -/
def FiniteExpansion (value : ℚ) : Prop := ∃ places : ℕ, ∃ digits : ℤ, value * 10 ^ places = digits

structure Decimal where
  value : ℚ
  finite : FiniteExpansion value

namespace Decimal

@[ext] theorem ext' {x y : Decimal} (same : x.value = y.value) : x = y := by
  cases x; cases y; simpa using same

theorem finite_ofInt (n : ℤ) : FiniteExpansion n := ⟨0, n, by simp⟩

def ofNat (n : ℕ) : Decimal := ⟨n, by exact_mod_cast finite_ofInt n⟩

instance : Zero Decimal := ⟨ofNat 0⟩
instance : One Decimal := ⟨ofNat 1⟩

@[simp] theorem zero_value : (0 : Decimal).value = 0 := by
  show ((0 : ℕ) : ℚ) = 0; simp

@[simp] theorem one_value : (1 : Decimal).value = 1 := by
  show ((1 : ℕ) : ℚ) = 1; simp

instance : LinearOrder Decimal := LinearOrder.lift' Decimal.value fun _ _ => ext'

theorem le_def (x y : Decimal) : x ≤ y ↔ x.value ≤ y.value := Iff.rfl
theorem lt_def (x y : Decimal) : x < y ↔ x.value < y.value := Iff.rfl

theorem min_value (x y : Decimal) : (min x y).value = min x.value y.value := by
  rcases le_total x y with less | less
  · rw [min_eq_left less, min_eq_left ((le_def x y).mp less)]
  · rw [min_eq_right less, min_eq_right ((le_def y x).mp less)]

theorem max_value (x y : Decimal) : (max x y).value = max x.value y.value := by
  rcases le_total x y with less | less
  · rw [max_eq_right less, max_eq_right ((le_def x y).mp less)]
  · rw [max_eq_left less, max_eq_left ((le_def y x).mp less)]

end Decimal

/-! ## Rounding -/

theorem finite_scaled (n e : ℤ) : FiniteExpansion ((n : ℚ) * 10 ^ e) := by
  rcases Int.le_total 0 e with up | down
  · refine ⟨0, n * 10 ^ e.toNat, ?_⟩
    conv_lhs => rw [← Int.toNat_of_nonneg up]
    rw [zpow_natCast]
    push_cast
    ring
  · refine ⟨(-e).toNat, n, ?_⟩
    have cancel : (10 : ℚ) ^ e * 10 ^ (-e).toNat = 1 := by
      rw [← zpow_natCast, Int.toNat_of_nonneg (by omega), ← zpow_add₀ (by norm_num)]
      simp
    rw [mul_assoc, cancel, mul_one]

/-- The integer nearest to `q`, the even one of the two when both are. -/
def roundHalfEven (q : ℚ) : ℤ :=
  if q - ⌊q⌋ < 1 / 2 then ⌊q⌋
  else if 1 / 2 < q - ⌊q⌋ then ⌊q⌋ + 1
  else if ⌊q⌋ % 2 = 0 then ⌊q⌋
  else ⌊q⌋ + 1

theorem le_roundHalfEven {n : ℤ} {q : ℚ} (below : (n : ℚ) ≤ q) : n ≤ roundHalfEven q := by
  have floor : n ≤ ⌊q⌋ := Int.le_floor.mpr below
  unfold roundHalfEven
  split_ifs <;> omega

theorem roundHalfEven_le {n : ℤ} {q : ℚ} (above : q ≤ n) : roundHalfEven q ≤ n := by
  have floor : ⌊q⌋ ≤ n := by
    exact_mod_cast (Int.floor_le q).trans above
  rcases floor.lt_or_eq with less | same
  · unfold roundHalfEven
    split_ifs <;> omega
  · have exact : q = n := le_antisymm above (by rw [← same]; exact Int.floor_le q)
    simp [roundHalfEven, exact]

theorem roundHalfEven_intCast (n : ℤ) : roundHalfEven n = n :=
  le_antisymm (roundHalfEven_le le_rfl) (le_roundHalfEven le_rfl)

theorem roundHalfEven_mono {p q : ℚ} (less : p ≤ q) : roundHalfEven p ≤ roundHalfEven q := by
  have floors : ⌊p⌋ ≤ ⌊q⌋ := Int.floor_mono less
  rcases floors.lt_or_eq with apart | same
  · have up : roundHalfEven p ≤ ⌊p⌋ + 1 := by
      unfold roundHalfEven
      split_ifs <;> omega
    have down : ⌊q⌋ ≤ roundHalfEven q := le_roundHalfEven (Int.floor_le q)
    omega
  · unfold roundHalfEven
    rw [same]
    split_ifs <;> first | omega | linarith

/-- Rounding moves a number by half a unit at most. -/
theorem roundHalfEven_near (q : ℚ) : |(roundHalfEven q : ℚ) - q| ≤ 1 / 2 := by
  have low := Int.floor_le q
  have high := Int.lt_floor_add_one q
  rw [abs_le]
  unfold roundHalfEven
  split_ifs with less more even
  · constructor <;> linarith
  · push_cast
    constructor <;> linarith
  · constructor <;> linarith
  · push_cast
    constructor <;> linarith

/-- Rounding passes an even integer only from more than half a unit above it. -/
theorem lt_roundHalfEven {n : ℤ} (even : n % 2 = 0) (q : ℚ) :
    n < roundHalfEven q ↔ (n : ℚ) + 1 / 2 < q := by
  have low := Int.floor_le q
  have high := Int.lt_floor_add_one q
  rcases lt_trichotomy ⌊q⌋ n with below | same | above
  · have far : (⌊q⌋ : ℚ) + 1 ≤ n := by exact_mod_cast below
    have stay : roundHalfEven q ≤ ⌊q⌋ + 1 := by
      unfold roundHalfEven
      split_ifs <;> omega
    constructor
    · intro passes; omega
    · intro passes; linarith
  · subst same
    unfold roundHalfEven
    split_ifs with less more
    · exact ⟨fun h => absurd h (lt_irrefl _), fun h => by linarith⟩
    · exact ⟨fun _ => by linarith, fun _ => by omega⟩
    · exact ⟨fun h => absurd h (lt_irrefl _), fun h => by linarith⟩
  · have far : (n : ℚ) + 1 ≤ ⌊q⌋ := by exact_mod_cast above
    have stay : ⌊q⌋ ≤ roundHalfEven q := by
      unfold roundHalfEven
      split_ifs <;> omega
    exact ⟨fun _ => by linarith, fun _ => by omega⟩

/-- A context: how many digits, and the exponents of its largest and smallest results. -/
structure DecimalContext where
  precision : ℕ
  maxExponent : ℤ
  tinyExponent : ℤ

namespace DecimalContext

variable (ctx : DecimalContext)

/-- The exponent of the last digit kept of `x`. -/
def quantum (x : ℚ) : ℤ := max (Int.log 10 |x| - (ctx.precision - 1)) ctx.tinyExponent

def roundValue (x : ℚ) : ℚ :=
  if x = 0 then 0 else roundHalfEven (x / 10 ^ ctx.quantum x) * 10 ^ ctx.quantum x

theorem roundValue_finite (x : ℚ) : FiniteExpansion (ctx.roundValue x) := by
  unfold roundValue
  split
  · exact_mod_cast Decimal.finite_ofInt 0
  · exact finite_scaled _ _

/-! Results below ten to the precision keep their units digit, so they stay on
their side of every integer. -/

variable {ctx} {x : ℚ}

/-- A multiple of a unit is one of every smaller unit. -/
theorem units_int {low high : ℤ} (below : low ≤ high) (n : ℤ) :
    ∃ m : ℤ, (m : ℚ) * 10 ^ low = n * 10 ^ high := by
  refine ⟨n * 10 ^ (high - low).toNat, ?_⟩
  push_cast
  rw [mul_assoc, ← zpow_natCast, Int.toNat_of_nonneg (by omega), ← zpow_add₀ (by norm_num),
    sub_add_cancel]

/-- Rounding does not pass a multiple of a unit that is kept. -/
theorem roundValue_le_units {n e : ℤ} (kept : ctx.quantum x ≤ e) (above : x ≤ n * 10 ^ e) :
    ctx.roundValue x ≤ n * 10 ^ e := by
  unfold roundValue
  split_ifs with zero
  · rwa [zero] at above
  obtain ⟨m, back⟩ := units_int kept n
  have positive : (0 : ℚ) < 10 ^ ctx.quantum x := zpow_pos (by norm_num) _
  rw [← back] at above ⊢
  refine mul_le_mul_of_nonneg_right ?_ positive.le
  exact_mod_cast roundHalfEven_le ((div_le_iff₀ positive).mpr above)

theorem units_le_roundValue {n e : ℤ} (kept : ctx.quantum x ≤ e) (below : n * 10 ^ e ≤ x) :
    n * 10 ^ e ≤ ctx.roundValue x := by
  unfold roundValue
  split_ifs with zero
  · rwa [zero] at below
  obtain ⟨m, back⟩ := units_int kept n
  have positive : (0 : ℚ) < 10 ^ ctx.quantum x := zpow_pos (by norm_num) _
  rw [← back] at below ⊢
  refine mul_le_mul_of_nonneg_right ?_ positive.le
  exact_mod_cast le_roundHalfEven ((le_div_iff₀ positive).mpr below)

theorem roundValue_le {n : ℤ} (units : ctx.quantum x ≤ 0) (above : x ≤ n) :
    ctx.roundValue x ≤ n := by
  simpa using roundValue_le_units (n := n) units (by simpa using above)

theorem le_roundValue {n : ℤ} (units : ctx.quantum x ≤ 0) (below : n ≤ x) :
    n ≤ ctx.roundValue x := by
  simpa using units_le_roundValue (n := n) units (by simpa using below)

theorem log_of_digits {k : ℤ} (low : 10 ^ k ≤ x) (high : x < 10 ^ (k + 1)) : Int.log 10 x = k := by
  have positive : 0 < x := (zpow_pos (by norm_num) k).trans_le low
  have lower : k ≤ Int.log 10 x := by
    rw [← Int.zpow_le_iff_le_log (by norm_num) positive]
    exact_mod_cast low
  have upper : Int.log 10 x < k + 1 := by
    rw [← Int.lt_zpow_iff_log_lt (by norm_num) positive]
    exact_mod_cast high
  omega

theorem log_of_unit (low : 1 ≤ x) (high : x < 10) : Int.log 10 x = 0 :=
  log_of_digits (by simpa using low) (by simpa using high)

/-- The last digit of a number below ten is not above the units. -/
theorem quantum_nonpos (digits : 1 ≤ ctx.precision) (tiny : ctx.tinyExponent ≤ 0)
    (positive : 0 < x) (high : x < 10) : ctx.quantum x ≤ 0 := by
  have upper : Int.log 10 x < 1 := by
    rw [← Int.lt_zpow_iff_log_lt (by norm_num) positive]
    simpa using high
  unfold quantum
  rw [abs_of_pos positive]
  omega

/-- From one to ten, a result exceeds one when the exact value does by more than
half a unit of the last digit. -/
theorem one_lt_roundValue (digits : 2 ≤ ctx.precision)
    (tiny : ctx.tinyExponent ≤ -(ctx.precision - 1 : ℤ)) (low : 1 ≤ x) (high : x < 10) :
    1 < ctx.roundValue x ↔ 1 + 1 / 2 * 10 ^ (-(ctx.precision - 1 : ℤ)) < x := by
  have quantum : ctx.quantum x = -(ctx.precision - 1 : ℤ) := by
    rw [DecimalContext.quantum, abs_of_pos (by linarith), log_of_unit low high]
    omega
  have nonzero : x ≠ 0 := by linarith
  rw [roundValue, if_neg nonzero, quantum]
  obtain ⟨n, hn⟩ : ∃ n : ℕ, ctx.precision = n + 2 := ⟨ctx.precision - 2, by omega⟩
  have exponent : -((ctx.precision : ℤ) - 1) = -((n + 1 : ℕ) : ℤ) := by rw [hn]; push_cast; ring
  have positive : (0 : ℚ) < 10 ^ (n + 1) := by positivity
  rw [exponent, zpow_neg, zpow_natCast, ← div_eq_mul_inv, lt_div_iff₀ positive, div_inv_eq_mul,
    one_mul]
  have even : (10 ^ (n + 1) : ℤ) % 2 = 0 := by
    rw [pow_succ]
    omega
  have step := lt_roundHalfEven even (x * 10 ^ (n + 1))
  push_cast at step
  have cast : ((10 : ℚ) ^ (n + 1) < roundHalfEven (x * 10 ^ (n + 1))) ↔
      (10 ^ (n + 1) : ℤ) < roundHalfEven (x * 10 ^ (n + 1)) := by
    exact_mod_cast Iff.rfl
  rw [cast, step, ← sub_pos, ← sub_pos (b := 1 + 1 / 2 * ((10 : ℚ) ^ (n + 1))⁻¹)]
  have scale : x * 10 ^ (n + 1) - (10 ^ (n + 1) + 1 / 2) =
      (x - (1 + 1 / 2 * ((10 : ℚ) ^ (n + 1))⁻¹)) * 10 ^ (n + 1) := by
    field_simp
  rw [scale]
  exact mul_pos_iff_of_pos_right positive

/-- The last digit kept of a number below ten. -/
theorem quantum_le (tiny : ctx.tinyExponent ≤ -(ctx.precision - 1 : ℤ)) (positive : 0 < x)
    (high : x < 10) : ctx.quantum x ≤ -(ctx.precision - 1 : ℤ) := by
  have upper : Int.log 10 x < 1 := by
    rw [← Int.lt_zpow_iff_log_lt (by norm_num) positive]
    simpa using high
  unfold quantum
  rw [abs_of_pos positive]
  omega

/-- A result is off by half a unit of its last digit at most. -/
theorem roundValue_near (x : ℚ) : |ctx.roundValue x - x| ≤ 1 / 2 * 10 ^ ctx.quantum x := by
  have positive : (0 : ℚ) < 10 ^ ctx.quantum x := zpow_pos (by norm_num) _
  unfold roundValue
  split_ifs with zero
  · rw [zero, sub_zero, abs_zero]
    rw [zero] at positive
    positivity
  · have moved : (roundHalfEven (x / 10 ^ ctx.quantum x) : ℚ) * 10 ^ ctx.quantum x - x =
        (roundHalfEven (x / 10 ^ ctx.quantum x) - x / 10 ^ ctx.quantum x) * 10 ^ ctx.quantum x := by
      field_simp
    rw [moved, abs_mul, abs_of_pos positive]
    exact mul_le_mul_of_nonneg_right (roundHalfEven_near _) positive.le

/-- Where the leading digit is kept, a result is at least half the number in size. -/
theorem half_abs_le (digits : 1 ≤ ctx.precision) (nonzero : x ≠ 0)
    (leading : ctx.tinyExponent ≤ Int.log 10 |x|) : |x| / 2 ≤ |ctx.roundValue x| := by
  have positive : 0 < |x| := abs_pos.mpr nonzero
  have kept : ctx.quantum x ≤ Int.log 10 |x| := by
    unfold quantum
    omega
  have unit : (10 : ℚ) ^ ctx.quantum x ≤ |x| := by
    calc (10 : ℚ) ^ ctx.quantum x ≤ 10 ^ Int.log 10 |x| := zpow_le_zpow_right₀ (by norm_num) kept
      _ ≤ |x| := by exact_mod_cast Int.zpow_log_le_self (b := 10) (by norm_num) positive
  have near := ctx.roundValue_near x
  have triangle := abs_sub_abs_le_abs_sub x (ctx.roundValue x)
  rw [abs_sub_comm] at near
  linarith

theorem quantum_mono {y : ℚ} (positive : 0 < x) (less : x ≤ y) : ctx.quantum x ≤ ctx.quantum y := by
  have logs : Int.log 10 x ≤ Int.log 10 y := Int.log_mono_right positive less
  unfold quantum
  rw [abs_of_pos positive, abs_of_pos (positive.trans_le less)]
  omega

theorem roundValue_nonneg (nonneg : 0 ≤ x) : 0 ≤ ctx.roundValue x := by
  unfold roundValue
  split_ifs
  · exact le_rfl
  · have scale : (0 : ℚ) < 10 ^ ctx.quantum x := zpow_pos (by norm_num) _
    have whole : (0 : ℤ) ≤ roundHalfEven (x / 10 ^ ctx.quantum x) :=
      le_roundHalfEven (by push_cast; exact div_nonneg nonneg scale.le)
    have cast : (0 : ℚ) ≤ roundHalfEven (x / 10 ^ ctx.quantum x) := by exact_mod_cast whole
    exact mul_nonneg cast scale.le

/-- Rounding keeps the order.  Where the larger number has larger units, a power of
ten of those units lies between the two. -/
theorem roundValue_mono {y : ℚ} (digits : 1 ≤ ctx.precision) (nonneg : 0 ≤ x) (less : x ≤ y) :
    ctx.roundValue x ≤ ctx.roundValue y := by
  rcases nonneg.eq_or_lt with zero | positive
  · rw [← zero] at less ⊢
    simpa [roundValue] using (roundValue_nonneg less : 0 ≤ ctx.roundValue y)
  have large : 0 < y := positive.trans_le less
  have units : ctx.quantum x ≤ ctx.quantum y := quantum_mono positive less
  rcases units.lt_or_eq with apart | same
  · have sizes : ctx.quantum x ≤ Int.log 10 y ∧ ctx.quantum y ≤ Int.log 10 y ∧
        Int.log 10 x < Int.log 10 y := by
      unfold quantum at apart ⊢
      rw [abs_of_pos positive, abs_of_pos large] at *
      omega
    have between : x ≤ (1 : ℤ) * 10 ^ Int.log 10 y := by
      rw [Int.cast_one, one_mul]
      exact_mod_cast ((Int.lt_zpow_iff_log_lt (by norm_num) positive).mpr sizes.2.2).le
    have reached : (1 : ℤ) * 10 ^ Int.log 10 y ≤ y := by
      rw [Int.cast_one, one_mul]
      exact_mod_cast Int.zpow_log_le_self (b := 10) (by norm_num) large
    exact (roundValue_le_units sizes.1 between).trans (units_le_roundValue sizes.2.1 reached)
  · have scale : (0 : ℚ) < 10 ^ ctx.quantum y := zpow_pos (by norm_num) _
    unfold roundValue
    rw [if_neg positive.ne', if_neg large.ne', same]
    refine mul_le_mul_of_nonneg_right ?_ scale.le
    exact_mod_cast roundHalfEven_mono (div_le_div_of_nonneg_right less scale.le)

theorem half_le_roundValue (digits : 1 ≤ ctx.precision) (positive : 0 < x)
    (leading : ctx.tinyExponent ≤ Int.log 10 x) : x / 2 ≤ ctx.roundValue x := by
  have half : |x| / 2 ≤ |ctx.roundValue x| :=
    half_abs_le digits positive.ne' (by rwa [abs_of_pos positive])
  rwa [abs_of_pos positive, abs_of_nonneg (roundValue_nonneg positive.le)] at half

/-- A result is a whole number of the smallest units. -/
theorem roundValue_units (x : ℚ) : ∃ m : ℤ, ctx.roundValue x = m * 10 ^ ctx.tinyExponent := by
  unfold roundValue
  split_ifs
  · exact ⟨0, by simp⟩
  · have above : ctx.tinyExponent ≤ ctx.quantum x := le_max_right _ _
    refine ⟨roundHalfEven (x / 10 ^ ctx.quantum x) *
      10 ^ (ctx.quantum x - ctx.tinyExponent).toNat, ?_⟩
    push_cast
    rw [mul_assoc, ← zpow_natCast, Int.toNat_of_nonneg (by omega), ← zpow_add₀ (by norm_num),
      sub_add_cancel]

/-- Whole smallest units are not rounded away. -/
theorem roundValue_ne_zero (digits : 1 ≤ ctx.precision) {m : ℤ}
    (units : x = m * 10 ^ ctx.tinyExponent) (nonzero : x ≠ 0) : ctx.roundValue x ≠ 0 := by
  have scale : (0 : ℚ) < 10 ^ ctx.tinyExponent := zpow_pos (by norm_num) _
  have some : 1 ≤ |m| := Int.one_le_abs (by rintro rfl; simp [units] at nonzero)
  have large : (10 : ℚ) ^ ctx.tinyExponent ≤ |x| := by
    have cast : (1 : ℚ) ≤ |(m : ℚ)| := by exact_mod_cast some
    rw [units, abs_mul, abs_of_pos scale]
    nlinarith
  have leading : ctx.tinyExponent ≤ Int.log 10 |x| := by
    rw [← Int.zpow_le_iff_le_log (by norm_num) (abs_pos.mpr nonzero)]
    exact_mod_cast large
  intro zero
  have half := ctx.half_abs_le digits nonzero leading
  rw [zero, abs_zero] at half
  linarith [abs_pos.mpr nonzero]

/-- A number with no digits below the last one kept is its own result. -/
theorem roundValue_exact {m e : ℤ} (digits : x = m * 10 ^ e) (kept : ctx.quantum x ≤ e) :
    ctx.roundValue x = x := by
  unfold roundValue
  split_ifs with zero
  · exact zero.symm
  · have positive : (0 : ℚ) < 10 ^ ctx.quantum x := zpow_pos (by norm_num) _
    have whole : x / 10 ^ ctx.quantum x = ((m * 10 ^ (e - ctx.quantum x).toNat : ℤ) : ℚ) := by
      rw [div_eq_iff positive.ne']
      push_cast
      rw [mul_assoc, ← zpow_natCast, Int.toNat_of_nonneg (by omega),
        ← zpow_add₀ (by norm_num), sub_add_cancel]
      exact digits
    rw [whole, roundHalfEven_intCast, ← whole, div_mul_cancel₀ x positive.ne']

/-- A number less than half a unit above an even number of units loses the rest. -/
theorem roundValue_down {m e : ℤ} (unit : ctx.quantum x = e) (even : m % 2 = 0) (nonzero : x ≠ 0)
    (low : m * 10 ^ e ≤ x) (high : x ≤ (m + 1 / 2) * 10 ^ e) : ctx.roundValue x = m * 10 ^ e := by
  have positive : (0 : ℚ) < 10 ^ e := zpow_pos (by norm_num) _
  have below : m ≤ roundHalfEven (x / 10 ^ e) := le_roundHalfEven ((le_div_iff₀ positive).mpr low)
  have passes := (lt_roundHalfEven even (x / 10 ^ e)).not.mpr
    (not_lt.mpr ((div_le_iff₀ positive).mpr high))
  have same : roundHalfEven (x / 10 ^ e) = m := le_antisymm (not_lt.mp passes) below
  rw [roundValue, if_neg nonzero, unit, same]

variable (ctx)

/-- The rounded result, refused with `overflow` above the largest exponent. -/
def round {ε : Type} (overflow : ε) (x : ℚ) : Except ε Decimal :=
  if 10 ^ (ctx.maxExponent + 1) ≤ |ctx.roundValue x| then .error overflow
  else .ok ⟨ctx.roundValue x, ctx.roundValue_finite x⟩

theorem round_value {ε : Type} {overflow : ε} {d : Decimal}
    (rounded : ctx.round overflow x = .ok d) :
    d.value = ctx.roundValue x := by
  unfold DecimalContext.round at rounded
  split_ifs at rounded
  cases rounded
  rfl

theorem round_below {ε : Type} (overflow : ε) {k : ℤ} (room : k ≤ ctx.maxExponent + 1)
    (small : |ctx.roundValue x| < 10 ^ k) :
    ctx.round overflow x = .ok ⟨ctx.roundValue x, ctx.roundValue_finite x⟩ := by
  have large : (10 : ℚ) ^ k ≤ 10 ^ (ctx.maxExponent + 1) := zpow_le_zpow_right₀ (by norm_num) room
  rw [round, if_neg (by linarith)]

/-- A result of magnitude below ten does not overflow. -/
theorem round_total {ε : Type} (overflow : ε) (room : 0 ≤ ctx.maxExponent)
    (small : |ctx.roundValue x| < 10) :
    ctx.round overflow x = .ok ⟨ctx.roundValue x, ctx.roundValue_finite x⟩ :=
  ctx.round_below overflow (k := 1) (by omega) (by simpa using small)

/-- The first power of ten above the largest exponent overflows. -/
theorem round_vast {ε : Type} (overflow : ε) (digits : 1 ≤ ctx.precision)
    (tiny : ctx.tinyExponent ≤ ctx.maxExponent + 1) (vast : x = 10 ^ (ctx.maxExponent + 1)) :
    ctx.round overflow x = .error overflow := by
  have positive : 0 < x := by
    rw [vast]
    exact zpow_pos (by norm_num) _
  have log : Int.log 10 x = ctx.maxExponent + 1 := by
    rw [vast]
    exact Int.log_zpow (R := ℚ) (b := 10) (by norm_num) _
  have kept : ctx.quantum x ≤ ctx.maxExponent + 1 := by
    unfold quantum
    rw [abs_of_pos positive, log]
    omega
  have reached : ((1 : ℤ) : ℚ) * 10 ^ (ctx.maxExponent + 1) ≤ x := by
    rw [Int.cast_one, one_mul, vast]
  have large := units_le_roundValue kept reached
  rw [Int.cast_one, one_mul] at large
  rw [round, if_pos (large.trans (le_abs_self _))]

/-- A result whose digits fit is exact. -/
theorem round_exact {ε : Type} (overflow : ε) {m e : ℤ} (digits : x = m * 10 ^ e)
    (size : |m| < 10 ^ ctx.precision) (tiny : ctx.tinyExponent ≤ e)
    (room : e + ctx.precision ≤ ctx.maxExponent + 1) (finite : FiniteExpansion x) :
    ctx.round overflow x = .ok ⟨x, finite⟩ := by
  have scale : (0 : ℚ) < 10 ^ e := zpow_pos (by norm_num) _
  have bound : |x| < 10 ^ (e + ctx.precision) := by
    have cast : |(m : ℚ)| < 10 ^ ctx.precision := by exact_mod_cast size
    rw [digits, abs_mul, abs_of_pos scale, zpow_add₀ (by norm_num), zpow_natCast, mul_comm]
    exact mul_lt_mul_of_pos_left cast scale
  have exact : ctx.roundValue x = x := by
    by_cases zero : x = 0
    · rw [zero]
      simp [roundValue]
    · refine roundValue_exact digits (max_le ?_ tiny)
      have log : Int.log 10 |x| < e + ctx.precision := by
        rw [← Int.lt_zpow_iff_log_lt (by norm_num) (abs_pos.mpr zero)]
        exact_mod_cast bound
      omega
  have inside : |ctx.roundValue x| < 10 ^ (ctx.maxExponent + 1) := by
    rw [exact]
    exact bound.trans_le (zpow_le_zpow_right₀ (by norm_num) room)
  rw [round, if_neg (not_le.mpr inside)]
  exact congrArg Except.ok (Decimal.ext' exact)

end DecimalContext

end Inci.Theory
