/-
# Expert.CanonicalDecimal -- the text of a decimal, from its tuple

`Expert.Canonical` writes a decimal by its value.  The source writes it from the tuple of its
digits: it predicts how long the text is from the digits and the exponent, refuses what is too
long, and compares the text with the prediction afterwards.  The prediction is always right
(`length_rendered`), the text is one for each number (`canonical_decimal_canonical`), and it
is the text the value has (`canonicalDecimal_eq`).
-/
import Inci.Expert.Canonical
import Inci.Theory.PlainDecimal

namespace Inci.Expert

open Inci.Theory Inci.Theory.PlainDecimal Inci.Theory.Digits
open Inci.Theory.Json (Text)

set_option autoImplicit false

/-! ## The function -/

/-- A decimal of Python. -/
inductive PythonDecimal where
  | finite (value : DecimalTuple)
  | infinity (sign : Bool)
  | nan

namespace PythonDecimal

/-- `_decimal`, for a value that is a decimal. -/
def finiteDecimal (name : String) : PythonDecimal → Except ExpertError DecimalTuple
  | .finite value => .ok value
  | _ => .error (.contract name)

/-- `normalized_length`, from the tuple of a decimal other than zero. -/
def normalizedLength (value : DecimalTuple) : ℤ :=
  let trailingZeroCount := trailingZeros value.digits
  let n : ℤ := value.digits.length - trailingZeroCount
  let e := value.exponent + trailingZeroCount
  let signLength := if value.sign then 1 else 0
  if 0 ≤ e then signLength + n + e
  else if 0 < n + e then signLength + n + 1
  else signLength + 2 - e

/-- `rendered` -/
def rendered (value : DecimalTuple) : Text :=
  let text := formatFixed value
  let text := if 46 ∈ text then rstrip 46 (rstrip 48 text) else text
  if value.isZero then [48] else text

/-- `_canonical_decimal` -/
def canonicalDecimal (value : PythonDecimal) : Except ExpertError Text := do
  let value ← finiteDecimal "value" value
  if value.isZero then pure [48]
  else
    refuse (256 < normalizedLength value) (.contract "decimal_length")
    refuse ((rendered value).length ≠ normalizedLength value) (.contract "decimal_normalization")
    pure (rendered value)

/-! ## The text -/

variable {d e : DecimalTuple}

theorem rendered_zero (zero : d.isZero = true) : rendered d = [48] := by
  simp [rendered, zero]

/-- The text of a number is what is left of it without its zeros, in plain notation. -/
theorem rendered_eq (nonzero : d.isZero = false) : rendered d =
    plain d.sign (fixedPoint (withoutZeros d.digits) d.reducedExponent) := by
  have some_digit := DecimalTuple.withoutZeros_ne_nil nonzero
  have format : formatFixed d = plain d.sign (fixedPoint d.digits d.exponent) := by
    simp [formatFixed, nonzero]
  obtain ⟨dropped, split⟩ :=
    fixedPoint_zeros d.exponent (trailingZeros d.digits) some_digit
  rw [withoutZeros_append] at split
  change _ = ((fixedPoint _ d.reducedExponent).1, (fixedPoint _ d.reducedExponent).2 ++ _) at split
  have places := fixedPoint_places d.reducedExponent some_digit
    DecimalTuple.withoutZeros_small
  have last := fixedPoint_fraction d.reducedExponent some_digit
    (DecimalTuple.withoutZeros_last nonzero)
  simp only [rendered, nonzero, format, split, mem_plain]
  by_cases integral :
      (fixedPoint (withoutZeros d.digits) d.reducedExponent).2 ++ List.replicate dropped 0 = []
  · rw [if_neg (not_not.mpr integral), integral, ← (List.append_eq_nil_iff.mp integral).1]
    rfl
  · rw [if_pos integral]
    exact strip_plain d.sign places.1 last integral

/-- The length predicted from the tuple is the length of the text. -/
theorem length_rendered (nonzero : d.isZero = false) :
    normalizedLength d = (rendered d).length := by
  have digits := congrArg List.length (withoutZeros_append d.digits)
  rw [List.length_append, List.length_replicate] at digits
  rw [rendered_eq nonzero, length_plain d.sign (DecimalTuple.withoutZeros_ne_nil nonzero)]
  unfold normalizedLength DecimalTuple.reducedExponent
  dsimp only
  have n : (d.digits.length : ℤ) - trailingZeros d.digits = (withoutZeros d.digits).length := by
    omega
  rw [n]
  split_ifs <;> ring

/-- The text reads back as the number. -/
theorem readPlain_rendered (d : DecimalTuple) : readPlain (rendered d) = some d.value := by
  cases zero : d.isZero with
  | true =>
      rw [rendered_zero zero, DecimalTuple.isZero_iff.mp zero]
      decide
  | false =>
      have places := fixedPoint_places d.reducedExponent
        (DecimalTuple.withoutZeros_ne_nil zero) DecimalTuple.withoutZeros_small
      rw [rendered_eq zero, DecimalTuple.value_eq, ← places.2.2]
      exact readPlain_plain d.sign places.1 places.2.1

/-- Two decimals have one text exactly when they are one number. -/
theorem rendered_inj : rendered d = rendered e ↔ d.value = e.value := by
  constructor
  · intro same
    have read := readPlain_rendered d
    rw [same, readPlain_rendered] at read
    exact (Option.some.inj read).symm
  · intro same
    cases zero : d.isZero with
    | true =>
        have other : e.isZero = true := by
          rw [DecimalTuple.isZero_iff, ← same, ← DecimalTuple.isZero_iff, zero]
        rw [rendered_zero zero, rendered_zero other]
    | false =>
        have other : e.isZero = false := by
          rw [Bool.eq_false_iff, ne_eq, DecimalTuple.isZero_iff, ← same,
            ← DecimalTuple.isZero_iff, zero]
          decide
        obtain ⟨sign, digits, exponent⟩ := DecimalTuple.reduced_unique zero other same
        rw [rendered_eq zero, rendered_eq other, sign, digits, exponent]

/-- What the function answers: the text, unless it is longer than 256 characters. -/
theorem canonicalDecimal_finite (d : DecimalTuple) : canonicalDecimal (.finite d) =
    if 256 < (rendered d).length then .error (.contract "decimal_length")
    else .ok (rendered d) := by
  unfold canonicalDecimal
  rw [show finiteDecimal "value" (.finite d) = .ok d from rfl, ok_bind]
  cases zero : d.isZero with
  | true =>
      rw [rendered_zero zero]
      rfl
  | false =>
      rw [if_neg Bool.false_ne_true, length_rendered zero]
      by_cases long : 256 < (rendered d).length
      · have predicted : (256 : ℤ) < (rendered d).length := by exact_mod_cast long
        rw [if_pos long, refuse, if_pos predicted]
        rfl
      · have predicted : ¬(256 : ℤ) < (rendered d).length := by exact_mod_cast long
        rw [if_neg long, refuse_ok _ predicted, ok_bind, refuse_ok _ (not_not.mpr rfl)]
        rfl

/-- The text of a decimal: refused exactly when it is longer than 256 characters, read back as
the same number, one for each number, and as long as predicted. -/
theorem canonical_decimal_canonical :
    (∀ d : DecimalTuple,
      (256 < (rendered d).length ∧
        canonicalDecimal (.finite d) = .error (.contract "decimal_length")) ∨
      ((rendered d).length ≤ 256 ∧ canonicalDecimal (.finite d) = .ok (rendered d) ∧
        readPlain (rendered d) = some d.value)) ∧
    (∀ (d e : DecimalTuple) (text : Text), canonicalDecimal (.finite d) = .ok text →
      (canonicalDecimal (.finite e) = .ok text ↔ d.value = e.value)) ∧
    (∀ d : DecimalTuple, d.isZero = false → normalizedLength d = (rendered d).length) ∧
    ∀ d : DecimalTuple,
      canonicalDecimal (.finite d) ≠ .error (.contract "decimal_normalization") := by
  refine ⟨?_, ?_, fun d => length_rendered, ?_⟩
  · intro d
    rw [canonicalDecimal_finite]
    by_cases long : 256 < (rendered d).length
    · exact .inl ⟨long, if_pos long⟩
    · exact .inr ⟨not_lt.mp long, if_neg long, readPlain_rendered d⟩
  · intro d e text answer
    rw [canonicalDecimal_finite] at answer ⊢
    split_ifs at answer with long
    cases answer
    rw [← rendered_inj]
    constructor
    · intro other
      split_ifs at other
      exact (Except.ok.inj other).symm
    · intro same
      rw [← same, if_neg long]
  · intro d
    rw [canonicalDecimal_finite]
    split_ifs <;> simp

/-! ## The text of the value -/

theorem finite_value (d : DecimalTuple) : FiniteExpansion d.value := by
  unfold DecimalTuple.value signed
  split_ifs
  · have scaled := finite_scaled (-(number d.digits : ℤ)) d.exponent
    rwa [Int.cast_neg, Int.cast_natCast, neg_mul] at scaled
  · exact finite_scaled (number d.digits) d.exponent

/-- The number of a tuple. -/
def ofTuple (d : DecimalTuple) : Decimal := ⟨d.value, finite_value d⟩

theorem scaled_value (d : DecimalTuple) (k : ℕ) : d.value * 10 ^ k =
    signed d.sign (number (withoutZeros d.digits) * 10 ^ (d.reducedExponent + k)) := by
  rw [DecimalTuple.value_eq, zpow_add₀ (by norm_num), zpow_natCast]
  unfold signed
  split_ifs <;> ring

/-- As an integer, when the places suffice. -/
theorem scaled_int {k j : ℕ} (enough : d.reducedExponent + k = j) : d.value * 10 ^ k =
    ((if d.sign then -((number (withoutZeros d.digits) * 10 ^ j : ℕ) : ℤ)
      else (number (withoutZeros d.digits) * 10 ^ j : ℕ) : ℤ) : ℚ) := by
  rw [scaled_value, enough, zpow_natCast, signed]
  split_ifs <;> push_cast <;> rfl

theorem places_eq (nonzero : d.isZero = false) :
    places (ofTuple d) = (-d.reducedExponent).toNat := by
  unfold places
  rw [Nat.find_eq_iff]
  constructor
  · have enough : d.reducedExponent + (-d.reducedExponent).toNat = d.reducedExponent.toNat := by
      omega
    exact (congrArg Rat.den (scaled_int enough)).trans (Rat.den_intCast _)
  · -- With fewer places the number would be a multiple of ten.
    intro k fewer integral
    have whole := Rat.den_eq_one_iff _ |>.mp integral
    change ((d.value * 10 ^ k).num : ℚ) = d.value * 10 ^ k at whole
    rw [scaled_value] at whole
    generalize (signed d.sign _ : ℚ).num = m at whole
    have magnitude : (number (withoutZeros d.digits) : ℚ) * 10 ^ (d.reducedExponent + k) =
        (m.natAbs : ℕ) * 10 ^ (0 : ℤ) := by
      rw [zpow_zero, mul_one, Nat.cast_natAbs, Int.cast_abs, whole, signed]
      split_ifs
      · rw [abs_neg, abs_of_nonneg (by positivity)]
      · rw [abs_of_nonneg (by positivity)]
    have short := exponent_le (DecimalTuple.withoutZeros_not_dvd nonzero) magnitude
    omega

theorem decimal_number {digits : List ℕ} (small : ∀ x ∈ digits, x < 10)
    (leading : digits.head? ≠ some 0) (positive : number digits ≠ 0) :
    Json.decimal (number digits) = numeral digits := by
  rw [Json.decimal, if_neg positive, digits_number small leading, List.reverse_reverse]
  rfl

/-- The digits of the value, as an integer, are those of the tuple. -/
theorem decimal_scaled (nonzero : d.isZero = false) (j : ℕ) :
    Json.decimal (number (withoutZeros d.digits) * 10 ^ j) =
      numeral (withoutZeros d.digits ++ List.replicate j 0) := by
  have some_digit := DecimalTuple.withoutZeros_ne_nil nonzero
  rw [← number_append_zeros]
  apply decimal_number
  · intro x member
    simp only [List.mem_append, List.mem_replicate] at member
    rcases member with inside | ⟨-, rfl⟩
    · exact DecimalTuple.withoutZeros_small x inside
    · decide
  · rw [List.head?_append_of_ne_nil _ some_digit]
    exact DecimalTuple.withoutZeros_head nonzero
  · have positive := DecimalTuple.withoutZeros_pos nonzero
    rw [number_append_zeros]
    positivity

/-- The text of the tuple is that of its number. -/
theorem plainDecimal_eq (d : DecimalTuple) : plainDecimal (ofTuple d) = rendered d := by
  cases zero : d.isZero with
  | true =>
      have same : ofTuple d = 0 := Decimal.ext' (DecimalTuple.isZero_iff.mp zero)
      rw [same, rendered_zero zero]
      decide +kernel
  | false =>
      have some_digit := DecimalTuple.withoutZeros_ne_nil zero
      have enough : d.reducedExponent + (-d.reducedExponent).toNat = d.reducedExponent.toNat := by
        omega
      have digits := decimal_scaled zero d.reducedExponent.toNat
      have positive := DecimalTuple.withoutZeros_pos zero
      have scaled := congrArg Rat.num (scaled_int enough)
      rw [Rat.num_intCast] at scaled
      change ((ofTuple d).value * _).num = _ at scaled
      unfold plainDecimal
      rw [places_eq zero, rendered_eq zero, scaled]
      generalize magnitude : number (withoutZeros d.digits) * 10 ^ d.reducedExponent.toNat = m
      rw [magnitude] at digits
      have some : 0 < m := by
        rw [← magnitude]
        positivity
      have sign : (if (if d.sign then -(m : ℤ) else m) < 0 then [45] else [] : Text) =
          if d.sign then [45] else [] := by
        cases d.sign <;> simp [some]
      have natAbs : (if d.sign then -(m : ℤ) else m).natAbs = m := by
        cases d.sign <;> simp
      dsimp only
      rw [sign, natAbs, digits, plain]
      by_cases whole : 0 ≤ d.reducedExponent
      · rw [if_pos (by omega), fixedPoint_of_nonneg some_digit whole, if_pos rfl, List.append_nil]
      · obtain ⟨places, exponent⟩ : ∃ places : ℕ, d.reducedExponent = -places :=
          ⟨(-d.reducedExponent).toNat, by omega⟩
        have some_place : 0 < places := by omega
        have shift : (-(-(places : ℤ))).toNat = places := by omega
        have trailing : (-(places : ℤ)).toNat = 0 := by omega
        rw [exponent, fixedPoint_of_neg some_place, shift, trailing, List.replicate_zero,
          List.append_nil, if_neg (by omega)]
        have length : (numeral (withoutZeros d.digits)).length = (withoutZeros d.digits).length :=
          List.length_map _
        have padded (n : ℕ) : List.replicate n 48 ++ numeral (withoutZeros d.digits) =
            numeral (List.replicate n 0 ++ withoutZeros d.digits) := by
          simp [numeral]
        rw [length, padded]
        generalize split : List.replicate (places + 1 - (withoutZeros d.digits).length) 0 ++
          withoutZeros d.digits = written
        have enough : places < written.length := by
          rw [← split, List.length_append, List.length_replicate]
          omega
        have fraction : written.drop (written.length - places) ≠ [] := by
          intro none
          have shorter := congrArg List.length none
          rw [List.length_drop, List.length_nil] at shorter
          omega
        rw [if_neg fraction]
        simp [numeral, List.map_take, List.map_drop]

/-- The function answers by the value alone. -/
theorem canonicalDecimal_eq (d : DecimalTuple) :
    canonicalDecimal (.finite d) = Expert.canonicalDecimal (ofTuple d) := by
  rw [canonicalDecimal_finite, Expert.canonicalDecimal, plainDecimal_eq]
  by_cases long : 256 < (rendered d).length
  · rw [if_pos long, refuse, if_pos long]
    rfl
  · rw [if_neg long, refuse_ok _ long]
    rfl

end PythonDecimal

end Inci.Expert
