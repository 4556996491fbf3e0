/-
# Theory.PlainDecimal -- floating decimals in plain notation

A finite decimal of Python is a sign, its digits and an exponent (`DecimalTuple`); many of them
have one value.  `formatFixed` writes one without an exponent, as `format(value, "f")` does,
and `readPlain` reads such a text back.  Digits that end in zeros lose them at the end of the
fraction, and what is left depends on the value alone (`reduced_inj`).
-/
import Mathlib.Data.List.DropRight
import Mathlib.Data.Rat.Lemmas
import Mathlib.Algebra.Order.Field.Power
import Mathlib.Tactic.FieldSimp
import Mathlib.Tactic.NormNum
import Mathlib.Tactic.Positivity
import Inci.Theory.Digits

namespace Inci.Theory.PlainDecimal

open Json (Text isDigit)
open Digits

set_option autoImplicit false

/-! ## Floating decimals -/

/-- `value.as_tuple()` of a finite decimal: the coefficient has no leading zeros. -/
structure DecimalTuple where
  sign : Bool
  digits : List ℕ
  exponent : ℤ
  nonempty : digits ≠ []
  small : ∀ d ∈ digits, d < 10
  leading : digits.head? = some 0 → digits = [0]

def signed (sign : Bool) (magnitude : ℚ) : ℚ := if sign then -magnitude else magnitude

namespace DecimalTuple

/-- The number a decimal stands for. -/
def value (d : DecimalTuple) : ℚ := signed d.sign (number d.digits * 10 ^ d.exponent)

def isZero (d : DecimalTuple) : Bool := d.digits == [0]

end DecimalTuple

/-! ## Plain notation -/

/-- The point of `digits` scaled by a power of ten: the digits before it and after it. -/
def fixedPoint (digits : List ℕ) (exponent : ℤ) : List ℕ × List ℕ :=
  let dotPlace := exponent + digits.length
  if dotPlace < 0 then ([0], List.replicate (-dotPlace).toNat 0 ++ digits)
  else if digits.length < dotPlace then
    (digits ++ List.replicate (dotPlace - digits.length).toNat 0, [])
  else
    (if digits.take dotPlace.toNat = [] then [0] else digits.take dotPlace.toNat,
      digits.drop dotPlace.toNat)

def numeral (digits : List ℕ) : Text := digits.map (48 + ·)

/-- A sign, the digits before the point, and the point with the digits after it, if any. -/
def plain (sign : Bool) (parts : List ℕ × List ℕ) : Text :=
  (if sign then [45] else []) ++
    (numeral parts.1 ++ if parts.2 = [] then [] else 46 :: numeral parts.2)

/-- `format(value, "f")` -/
def formatFixed (d : DecimalTuple) : Text :=
  plain d.sign (fixedPoint d.digits (if d.isZero ∧ 0 < d.exponent then 0 else d.exponent))

/-- `text.rstrip(point)` -/
def rstrip (point : ℕ) (text : Text) : Text := text.rdropWhile (· = point)

/-- The number of digits with a fraction, if any. -/
def readMagnitude (text : Text) : Option ℚ :=
  let whole := text.takeWhile isDigit
  if whole = [] then none
  else match text.dropWhile isDigit with
    | [] => some (number (digitsOf whole))
    | point :: fraction =>
        if point = 46 ∧ fraction ≠ [] ∧ fraction.all isDigit then
          some (number (digitsOf (whole ++ fraction)) / 10 ^ fraction.length)
        else none

/-- The number a text in plain notation writes. -/
def readPlain : Text → Option ℚ
  | 45 :: text => (readMagnitude text).map (signed true)
  | text => readMagnitude text

/-! ## Reading back -/

variable {digits core : List ℕ} {exponent : ℤ}

@[simp] theorem digitsOf_numeral (digits : List ℕ) : digitsOf (numeral digits) = digits := by
  simp [digitsOf, numeral, Function.comp_def]

theorem numeral_digit (small : ∀ d ∈ digits, d < 10) : ∀ c ∈ numeral digits, isDigit c = true := by
  intro c member
  obtain ⟨d, inside, rfl⟩ := List.mem_map.mp member
  have digit := small d inside
  simp only [isDigit, decide_eq_true_eq]
  omega

theorem numeral_eq_nil : numeral digits = [] ↔ digits = [] := List.map_eq_nil_iff

theorem digitsOf_append (front back : Text) :
    digitsOf (front ++ back) = digitsOf front ++ digitsOf back :=
  List.map_append

theorem readMagnitude_plain {whole fraction : List ℕ} (some_digit : whole ≠ [])
    (small : ∀ d ∈ whole ++ fraction, d < 10) :
    readMagnitude (numeral whole ++ if fraction = [] then [] else 46 :: numeral fraction) =
      some ((number (whole ++ fraction) : ℚ) / 10 ^ fraction.length) := by
  have digits := numeral_digit fun d member => small d (List.mem_append_left _ member)
  have places := numeral_digit fun d member => small d (List.mem_append_right _ member)
  have written : numeral whole ≠ [] := fun none => some_digit (numeral_eq_nil.mp none)
  by_cases integral : fraction = []
  · rw [if_pos integral, integral]
    have taken := List.takeWhile_eq_self_iff.mpr digits
    have dropped := List.dropWhile_eq_nil_iff.mpr digits
    simp [readMagnitude, -List.takeWhile_eq_nil_iff, taken, dropped, written]
  · rw [if_neg integral]
    have taken : (numeral whole ++ 46 :: numeral fraction).takeWhile isDigit = numeral whole := by
      rw [List.takeWhile_append_of_pos digits]
      exact List.append_nil _
    have dropped : (numeral whole ++ 46 :: numeral fraction).dropWhile isDigit =
        46 :: numeral fraction := by
      rw [List.dropWhile_append_of_pos digits]
      rfl
    have fractional : numeral fraction ≠ [] := fun none => integral (numeral_eq_nil.mp none)
    have length : (numeral fraction).length = fraction.length := List.length_map _
    simp [readMagnitude, taken, dropped, written, fractional, digitsOf_append, length,
      List.all_eq_true.mpr places]

/-- Plain notation reads back as the digits before and after the point. -/
theorem readPlain_plain (sign : Bool) {whole fraction : List ℕ} (some_digit : whole ≠ [])
    (small : ∀ d ∈ whole ++ fraction, d < 10) :
    readPlain (plain sign (whole, fraction)) =
      some (signed sign (number (whole ++ fraction) / 10 ^ fraction.length)) := by
  have read := readMagnitude_plain some_digit small
  cases sign with
  | true =>
      show (readMagnitude (numeral whole ++ _)).map (signed true) = _
      rw [read]
      rfl
  | false =>
      obtain ⟨d, rest, rfl⟩ := List.exists_cons_of_ne_nil some_digit
      have digit := small d (by simp)
      have other : 48 + d ≠ 45 := by omega
      refine Eq.trans ?_ read
      unfold readPlain
      split
      · rename_i begins
        exact absurd (List.cons.inj begins).1 other
      · rfl

/-! ## The place of the point -/

/-- The value of digits with a point among them. -/
def Places (parts : List ℕ × List ℕ) (digits : List ℕ) (exponent : ℤ) : Prop :=
  parts.1 ≠ [] ∧ (∀ d ∈ parts.1 ++ parts.2, d < 10) ∧
    (number (parts.1 ++ parts.2) : ℚ) / 10 ^ parts.2.length = number digits * 10 ^ exponent

theorem div_ten_pow (n : ℚ) {places : ℕ} (shift : exponent = -places) :
    n / 10 ^ places = n * 10 ^ exponent := by
  rw [shift, zpow_neg, zpow_natCast, div_eq_mul_inv]

/-- The point stands where the exponent puts it. -/
theorem fixedPoint_places (exponent : ℤ) (some_digit : digits ≠ []) (small : ∀ d ∈ digits, d < 10) :
    Places (fixedPoint digits exponent) digits exponent := by
  have length := List.length_pos_of_ne_nil some_digit
  unfold fixedPoint
  dsimp only
  split_ifs with below beyond whole
  · refine ⟨by simp, ?_, ?_⟩
    · intro d member
      simp only [List.mem_append, List.mem_singleton, List.mem_replicate] at member
      rcases member with rfl | ⟨-, rfl⟩ | inside
      · decide
      · decide
      · exact small d inside
    · have zeros : number ([0] ++ (List.replicate (-(exponent + digits.length)).toNat 0 ++ digits)) =
          number digits :=
        (number_zeros_append 1 _).trans (number_zeros_append _ digits)
      dsimp only
      rw [zeros]
      apply div_ten_pow
      rw [List.length_append, List.length_replicate]
      omega
  · refine ⟨by simp [some_digit], ?_, ?_⟩
    · intro d member
      simp only [List.append_nil, List.mem_append, List.mem_replicate] at member
      rcases member with inside | ⟨-, rfl⟩
      · exact small d inside
      · decide
    · dsimp only
      rw [List.append_nil, number_append_zeros, List.length_nil, pow_zero, div_one]
      push_cast
      rw [← zpow_natCast]
      congr 2
      omega
  · have start : (exponent + digits.length).toNat = 0 := by
      rcases List.take_eq_nil_iff.mp whole with zero | empty
      · exact zero
      · exact absurd empty some_digit
    refine ⟨by simp, ?_, ?_⟩
    · intro d member
      simp only [start, List.drop_zero, List.mem_append, List.mem_singleton] at member
      rcases member with rfl | inside
      · decide
      · exact small d inside
    · have zero : number ([0] ++ digits) = number digits := number_zeros_append 1 digits
      dsimp only
      rw [start, List.drop_zero, zero]
      apply div_ten_pow
      omega
  · refine ⟨whole, ?_, ?_⟩
    · rw [List.take_append_drop]
      exact small
    · dsimp only
      rw [List.take_append_drop]
      apply div_ten_pow
      rw [List.length_drop]
      omega

/-- Digits that end in zeros have the point where the other digits have it. -/
theorem fixedPoint_zeros (exponent : ℤ) (count : ℕ) (some_digit : core ≠ []) :
    ∃ dropped, fixedPoint (core ++ List.replicate count 0) exponent =
      ((fixedPoint core (exponent + count)).1,
        (fixedPoint core (exponent + count)).2 ++ List.replicate dropped 0) := by
  have length : ((core ++ List.replicate count 0).length : ℤ) = core.length + count := by simp
  have point : exponent + (core ++ List.replicate count 0).length =
      exponent + count + core.length := by
    rw [length]
    ring
  unfold fixedPoint
  rw [point, length]
  dsimp only
  generalize dot : exponent + count + core.length = dotPlace
  by_cases below : dotPlace < 0
  · rw [if_pos below, if_pos below]
    exact ⟨count, by rw [List.append_assoc]⟩
  rw [if_neg below, if_neg below]
  obtain ⟨place, rfl⟩ := Int.eq_ofNat_of_zero_le (not_lt.mp below)
  rw [Int.toNat_natCast]
  by_cases past : core.length < place
  · have inside : ((core.length : ℤ) < place) := by omega
    have extra : ((place : ℤ) - core.length).toNat = place - core.length := by omega
    rw [if_pos inside, extra]
    by_cases beyond : (core.length : ℤ) + count < place
    · have rest : ((place : ℤ) - (core.length + count)).toNat = place - core.length - count := by
        omega
      refine ⟨0, ?_⟩
      rw [if_pos beyond, rest, List.append_assoc, List.replicate_append_replicate,
        show count + (place - core.length - count) = place - core.length by omega]
      rfl
    · have cut : place - core.length ≤ count := by omega
      have front : (core ++ List.replicate count 0).take place =
          core ++ List.replicate (place - core.length) 0 := by
        rw [List.take_append, List.take_of_length_le past.le, List.take_replicate,
          Nat.min_eq_left cut]
      have back : (core ++ List.replicate count 0).drop place =
          List.replicate (count - (place - core.length)) 0 := by
        rw [List.drop_append, List.drop_of_length_le past.le, List.drop_replicate, List.nil_append]
      refine ⟨count - (place - core.length), ?_⟩
      rw [if_neg beyond, front, back, if_neg (by simp [some_digit])]
      rfl
  · have outside : ¬(core.length : ℤ) < place := by omega
    have nearer : ¬(core.length : ℤ) + count < place := by omega
    have front : (core ++ List.replicate count 0).take place = core.take place :=
      List.take_append_of_le_length (not_lt.mp past)
    have back : (core ++ List.replicate count 0).drop place =
        core.drop place ++ List.replicate count 0 :=
      List.drop_append_of_le_length (not_lt.mp past)
    refine ⟨count, ?_⟩
    rw [if_neg outside, if_neg nearer, front, back]

/-- The fraction of digits that do not end in a zero does not either. -/
theorem fixedPoint_fraction (exponent : ℤ) (some_digit : core ≠ []) (last : core.getLast some_digit ≠ 0) :
    ∀ fraction : (fixedPoint core exponent).2 ≠ [],
      (fixedPoint core exponent).2.getLast fraction ≠ 0 := by
  unfold fixedPoint
  dsimp only
  split_ifs with below beyond whole
  · intro fraction
    rw [List.getLast_append_of_ne_nil _ some_digit]
    exact last
  · intro fraction
    exact absurd rfl fraction
  · intro fraction
    rw [List.getLast_drop]
    exact last
  · intro fraction
    rw [List.getLast_drop]
    exact last

/-- A number without a fraction has its zeros written out. -/
theorem fixedPoint_of_nonneg (some_digit : digits ≠ []) (whole : 0 ≤ exponent) :
    fixedPoint digits exponent = (digits ++ List.replicate exponent.toNat 0, []) := by
  have length := List.length_pos_of_ne_nil some_digit
  unfold fixedPoint
  dsimp only
  rw [if_neg (by omega)]
  by_cases zero : exponent = 0
  · subst zero
    rw [if_neg (by omega), Int.zero_add, Int.toNat_natCast, List.take_length, List.drop_length,
      if_neg some_digit]
    simp
  · rw [if_pos (by omega), show exponent + digits.length - digits.length = exponent by omega]

/-- Digits with a fraction of more places than they have are padded with zeros before them. -/
theorem fixedPoint_of_neg {places : ℕ} (some_place : 0 < places) :
    fixedPoint digits (-places) =
      ((List.replicate (places + 1 - digits.length) 0 ++ digits).take
          ((List.replicate (places + 1 - digits.length) 0 ++ digits).length - places),
        (List.replicate (places + 1 - digits.length) 0 ++ digits).drop
          ((List.replicate (places + 1 - digits.length) 0 ++ digits).length - places)) := by
  unfold fixedPoint
  dsimp only
  rw [List.length_append, List.length_replicate]
  by_cases short : digits.length ≤ places
  · have pad : places + 1 - digits.length = (places - digits.length) + 1 := by omega
    have one : places - digits.length + 1 + digits.length - places = 1 := by omega
    rw [pad, one, List.replicate_succ]
    by_cases below : (-places : ℤ) + digits.length < 0
    · have zeros : (-(-(places : ℤ) + digits.length)).toNat = places - digits.length := by omega
      rw [if_pos below, zeros]
      rfl
    · have zeros : places - digits.length = 0 := by omega
      have start : (-(places : ℤ) + digits.length).toNat = 0 := by omega
      rw [if_neg below, if_neg (by omega), start, zeros]
      rfl
  · have pad : places + 1 - digits.length = 0 := by omega
    have start : (-(places : ℤ) + digits.length).toNat = digits.length - places := by omega
    rw [if_neg (by omega), if_neg (by omega), start, pad, if_neg]
    · simp
    · intro none
      have length := congrArg List.length none
      rw [List.length_take, List.length_nil] at length
      omega

/-- The length of plain notation, from the digits and the exponent alone. -/
theorem length_plain (sign : Bool) (some_digit : digits ≠ []) :
    ((plain sign (fixedPoint digits exponent)).length : ℤ) = (if sign then 1 else 0) +
      if 0 ≤ exponent then digits.length + exponent
      else if 0 < digits.length + exponent then digits.length + 1
      else 2 - exponent := by
  have length := List.length_pos_of_ne_nil some_digit
  have front : (if sign then [45] else [] : Text).length = if sign then 1 else 0 := by
    cases sign <;> rfl
  unfold plain fixedPoint numeral
  rw [List.length_append, front]
  push_cast
  congr 1
  split_ifs <;> simp_all <;> omega

/-! ## Stripping -/

theorem point_not_mem (digits : List ℕ) : 46 ∉ numeral digits := by
  intro member
  obtain ⟨d, -, same⟩ := List.mem_map.mp member
  omega

/-- Plain notation has a point when there are digits after it. -/
theorem mem_plain (sign : Bool) (parts : List ℕ × List ℕ) :
    46 ∈ plain sign parts ↔ parts.2 ≠ [] := by
  have front : 46 ∉ (if sign then [45] else [] : Text) := by cases sign <;> decide
  unfold plain
  by_cases none : parts.2 = [] <;> simp [front, point_not_mem, none]

theorem rstrip_of_last {point : ℕ} {text : Text} (some_point : text ≠ [])
    (last : text.getLast some_point ≠ point) : rstrip point text = text := by
  apply List.rdropWhile_eq_self_iff.mpr
  intro _
  simpa using last

theorem rstrip_zeros (text : Text) (count : ℕ) :
    rstrip 48 (text ++ numeral (List.replicate count 0)) = rstrip 48 text := by
  induction count with
  | zero => simp [numeral]
  | succ count ih =>
      have last : text ++ numeral (List.replicate (count + 1) 0) =
          text ++ numeral (List.replicate count 0) ++ [48] := by
        simp [numeral, List.replicate_succ']
      rw [last, ← ih]
      exact List.rdropWhile_concat_pos _ _ _ (by simp)

theorem getLast_numeral (front : Text) (some_digit : digits ≠ [])
    (some_point : front ++ numeral digits ≠ []) :
    (front ++ numeral digits).getLast some_point = 48 + digits.getLast some_digit := by
  rw [List.getLast_append_of_ne_nil _ (numeral_eq_nil.not.mpr some_digit)]
  exact List.getLast_map _

/-- Stripping takes the zeros at the end of the fraction, and the point when none is left. -/
theorem strip_plain (sign : Bool) {whole fraction : List ℕ} {count : ℕ} (some_digit : whole ≠ [])
    (last : ∀ some_place : fraction ≠ [], fraction.getLast some_place ≠ 0)
    (point : fraction ++ List.replicate count 0 ≠ []) :
    rstrip 46 (rstrip 48 (plain sign (whole, fraction ++ List.replicate count 0))) =
      plain sign (whole, fraction) := by
  generalize front : (if sign then [45] else [] : Text) ++ numeral whole = before
  have ends (parts : List ℕ) (some_place : parts ≠ []) :
      plain sign (whole, parts) = (before ++ [46]) ++ numeral parts := by
    rw [plain, if_neg some_place, ← front]
    simp
  rw [ends _ point, numeral, List.map_append, ← List.append_assoc]
  change rstrip 46 (rstrip 48 (before ++ [46] ++ numeral fraction ++
    numeral (List.replicate count 0))) = _
  rw [rstrip_zeros]
  by_cases integral : fraction = []
  · have stops : rstrip 48 (before ++ [46] ++ numeral []) = before ++ [46] := by
      rw [numeral, List.map_nil, List.append_nil]
      exact rstrip_of_last (by simp) (by simp)
    have written : before ≠ [] := by
      rw [← front]
      simp [numeral_eq_nil, some_digit]
    have whole_last : before.getLast written ≠ 46 := by
      simp only [← front]
      rw [getLast_numeral _ some_digit]
      omega
    rw [integral, stops]
    refine (List.rdropWhile_concat_pos _ _ _ (by simp)).trans ?_
    rw [plain, if_pos rfl, List.append_nil, front]
    exact rstrip_of_last written whole_last
  · have digit := last integral
    have some_point : before ++ [46] ++ numeral fraction ≠ [] := by simp
    have ended := getLast_numeral (before ++ [46]) integral some_point
    rw [rstrip_of_last some_point (by omega), rstrip_of_last some_point (by omega),
      ends _ integral]

/-! ## Trailing zeros -/

/-- The zeros at the end of the digits. -/
def trailingZeros (digits : List ℕ) : ℕ := (digits.reverse.takeWhile (· = 0)).length

/-- The digits without the zeros at their end. -/
def withoutZeros (digits : List ℕ) : List ℕ := digits.rdropWhile (· = 0)

theorem withoutZeros_append (digits : List ℕ) :
    withoutZeros digits ++ List.replicate (trailingZeros digits) 0 = digits := by
  have zeros : digits.rtakeWhile (· = 0) = List.replicate (trailingZeros digits) 0 := by
    apply List.eq_replicate_iff.mpr
    refine ⟨by simp [List.rtakeWhile, trailingZeros], ?_⟩
    intro d member
    simpa using List.mem_rtakeWhile_imp member
  rw [← zeros]
  exact List.rdropWhile_append_rtakeWhile

theorem number_withoutZeros (digits : List ℕ) :
    number digits = number (withoutZeros digits) * 10 ^ trailingZeros digits := by
  rw [← number_append_zeros, withoutZeros_append]

/-- A number that does not end in a zero is no multiple of ten. -/
theorem number_not_dvd (small : ∀ d ∈ digits, d < 10) (some_digit : digits ≠ [])
    (last : digits.getLast some_digit ≠ 0) : ¬10 ∣ number digits := by
  have digit := small _ (List.getLast_mem some_digit)
  rw [← List.dropLast_append_getLast some_digit, number_append]
  have one : number [digits.getLast some_digit] = digits.getLast some_digit := by simp [number]
  rw [one, List.length_singleton]
  omega

theorem exponent_le {n m : ℕ} {e f : ℤ} (odd : ¬10 ∣ n) (same : (n : ℚ) * 10 ^ e = m * 10 ^ f) :
    f ≤ e := by
  by_contra more
  obtain ⟨k, rfl⟩ : ∃ k : ℕ, f = e + (k + 1) := ⟨(f - e - 1).toNat, by omega⟩
  have ten : (10 : ℚ) ^ e ≠ 0 := zpow_ne_zero e (by norm_num)
  have power : (10 : ℚ) ^ (e + (k + 1)) = 10 ^ (k + 1) * 10 ^ e := by
    rw [zpow_add₀ (by norm_num), mul_comm]
    norm_cast
  rw [power, ← mul_assoc] at same
  have whole : n = m * 10 ^ (k + 1) := by exact_mod_cast mul_right_cancel₀ ten same
  exact odd (whole ▸ Dvd.dvd.mul_left (dvd_pow_self 10 (by omega)) m)

/-- A number and a power of ten are determined by their product, when the number is no multiple
of ten itself. -/
theorem reduced_inj {n m : ℕ} {e f : ℤ} (odd : ¬10 ∣ n) (odd' : ¬10 ∣ m)
    (same : (n : ℚ) * 10 ^ e = m * 10 ^ f) : n = m ∧ e = f := by
  have exponent : e = f := le_antisymm (exponent_le odd' same.symm) (exponent_le odd same)
  subst exponent
  have ten : (10 : ℚ) ^ e ≠ 0 := zpow_ne_zero e (by norm_num)
  exact ⟨by exact_mod_cast mul_right_cancel₀ ten same, rfl⟩

namespace DecimalTuple

variable (d : DecimalTuple)

/-- The exponent of the digits without the zeros at their end. -/
def reducedExponent : ℤ := d.exponent + trailingZeros d.digits

variable {d : DecimalTuple}

theorem head_of_nonzero (nonzero : d.isZero = false) : d.digits.head? ≠ some 0 := by
  intro begins
  have zero := d.leading begins
  simp [isZero, zero] at nonzero

theorem withoutZeros_small : ∀ x ∈ withoutZeros d.digits, x < 10 := by
  intro x member
  exact d.small x ((List.rdropWhile_prefix _ _).subset member)

theorem withoutZeros_ne_nil (nonzero : d.isZero = false) : withoutZeros d.digits ≠ [] := by
  intro none
  have zeros : ∀ x ∈ d.digits, x = 0 := by simpa [withoutZeros] using none
  obtain ⟨x, rest, digits⟩ := List.exists_cons_of_ne_nil d.nonempty
  apply head_of_nonzero nonzero
  rw [digits, zeros x (by simp [digits])]
  rfl

theorem withoutZeros_last (nonzero : d.isZero = false) :
    (withoutZeros d.digits).getLast (withoutZeros_ne_nil nonzero) ≠ 0 := by
  have last := List.rdropWhile_last_not _ _ (withoutZeros_ne_nil nonzero)
  exact of_decide_eq_false (Bool.eq_false_iff.mpr last)

theorem withoutZeros_head (nonzero : d.isZero = false) :
    (withoutZeros d.digits).head? ≠ some 0 := by
  have whole := head_of_nonzero nonzero
  rwa [← withoutZeros_append d.digits,
    List.head?_append_of_ne_nil _ (withoutZeros_ne_nil nonzero)] at whole

theorem withoutZeros_not_dvd (nonzero : d.isZero = false) :
    ¬10 ∣ number (withoutZeros d.digits) :=
  number_not_dvd withoutZeros_small _ (withoutZeros_last nonzero)

theorem withoutZeros_pos (nonzero : d.isZero = false) : 0 < number (withoutZeros d.digits) := by
  apply Nat.pos_of_ne_zero
  intro zero
  exact withoutZeros_not_dvd nonzero (zero ▸ dvd_zero 10)

/-- A decimal stands for what is left of it without the zeros. -/
theorem value_eq (d : DecimalTuple) :
    d.value = signed d.sign (number (withoutZeros d.digits) * 10 ^ d.reducedExponent) := by
  have split : (10 : ℚ) ^ d.reducedExponent = 10 ^ d.exponent * 10 ^ trailingZeros d.digits := by
    rw [reducedExponent, zpow_add₀ (by norm_num), zpow_natCast]
  unfold value
  rw [number_withoutZeros d.digits, split]
  push_cast
  congr 1
  ring

theorem reduced_pos (nonzero : d.isZero = false) :
    (0 : ℚ) < number (withoutZeros d.digits) * 10 ^ d.reducedExponent := by
  have positive : (0 : ℚ) < number (withoutZeros d.digits) := by
    exact_mod_cast withoutZeros_pos nonzero
  positivity

theorem isZero_iff : d.isZero = true ↔ d.value = 0 := by
  constructor
  · intro zero
    have digits : d.digits = [0] := by simpa [isZero] using zero
    have number : number d.digits = 0 := by rw [digits]; rfl
    simp [value, number, signed]
  · intro zero
    by_contra nonzero
    have positive := reduced_pos (Bool.eq_false_iff.mpr nonzero)
    rw [value_eq, signed] at zero
    split_ifs at zero <;> linarith

/-- The sign, the digits without their zeros and their exponent are those of the value. -/
theorem reduced_unique {e : DecimalTuple} (nonzero : d.isZero = false) (nonzero' : e.isZero = false)
    (same : d.value = e.value) : d.sign = e.sign ∧
      withoutZeros d.digits = withoutZeros e.digits ∧ d.reducedExponent = e.reducedExponent := by
  have positive := reduced_pos nonzero
  have positive' := reduced_pos nonzero'
  rw [value_eq, value_eq] at same
  have signs : d.sign = e.sign := by
    unfold signed at same
    cases one : d.sign <;> cases other : e.sign <;> simp only [one, other] at same ⊢ <;>
      simp only [if_true, if_false, Bool.false_eq_true] at same <;> linarith
  have magnitudes : (number (withoutZeros d.digits) : ℚ) * 10 ^ d.reducedExponent =
      number (withoutZeros e.digits) * 10 ^ e.reducedExponent := by
    rw [signs] at same
    unfold signed at same
    split_ifs at same <;> linarith
  obtain ⟨numbers, exponents⟩ := reduced_inj (withoutZeros_not_dvd nonzero)
    (withoutZeros_not_dvd nonzero') magnitudes
  exact ⟨signs, number_inj withoutZeros_small withoutZeros_small (withoutZeros_head nonzero)
    (withoutZeros_head nonzero') numbers, exponents⟩

end DecimalTuple

end Inci.Theory.PlainDecimal
