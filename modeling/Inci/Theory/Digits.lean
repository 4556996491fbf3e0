/-
# Theory.Digits -- decimal numerals

`number` is the number a list of digits spells, most significant digit first.  A text spells
its digits by their code points; `readDigits` and `readPoint` cut a fixed width of digits and
one given point off the front of a text, and their specs say that the text was exactly that.
-/
import Mathlib.Data.Nat.Digits.Lemmas
import Mathlib.Tactic.Ring
import Inci.Theory.Json

namespace Inci.Theory.Digits

open Json (Text isDigit)

set_option autoImplicit false

/-! ## The number of a list of digits -/

/-- The number a list of digits spells. -/
def number (digits : List ℕ) : ℕ := Nat.ofDigits 10 digits.reverse

@[simp] theorem number_nil : number [] = 0 := rfl

theorem number_append (front back : List ℕ) :
    number (front ++ back) = number front * 10 ^ back.length + number back := by
  unfold number
  rw [List.reverse_append, Nat.ofDigits_append, List.length_reverse]
  ring

theorem number_zeros (count : ℕ) : number (List.replicate count 0) = 0 := by
  unfold number
  rw [List.reverse_replicate, Nat.ofDigits_replicate_zero]

theorem number_append_zeros (digits : List ℕ) (count : ℕ) :
    number (digits ++ List.replicate count 0) = number digits * 10 ^ count := by
  rw [number_append, List.length_replicate, number_zeros, Nat.add_zero]

theorem number_zeros_append (count : ℕ) (digits : List ℕ) :
    number (List.replicate count 0 ++ digits) = number digits := by
  rw [number_append, number_zeros, Nat.zero_mul, Nat.zero_add]

theorem number_lt {digits : List ℕ} (small : ∀ d ∈ digits, d < 10) :
    number digits < 10 ^ digits.length := by
  have below := Nat.ofDigits_lt_base_pow_length (b := 10) (by omega)
    (fun d member => small d (List.mem_reverse.mp member))
  rwa [List.length_reverse] at below

/-- Digits that do not begin with a zero are those of their number. -/
theorem digits_number {digits : List ℕ} (small : ∀ d ∈ digits, d < 10)
    (leading : digits.head? ≠ some 0) : Nat.digits 10 (number digits) = digits.reverse := by
  unfold number
  apply Nat.digits_ofDigits 10 (by omega)
  · intro d member
    exact small d (List.mem_reverse.mp member)
  · intro some zero
    rw [List.getLast_reverse] at zero
    exact leading ((List.head?_eq_some_head _).trans (congrArg _ zero))

/-- Two such lists of digits are the same when their numbers are. -/
theorem number_inj {digits others : List ℕ} (small : ∀ d ∈ digits, d < 10)
    (smalls : ∀ d ∈ others, d < 10) (leading : digits.head? ≠ some 0)
    (leads : others.head? ≠ some 0) (same : number digits = number others) : digits = others := by
  have reversed := congrArg (Nat.digits 10) same
  rw [digits_number small leading, digits_number smalls leads] at reversed
  exact List.reverse_injective reversed

/-! ## Digits of a text -/

/-- The digits that code points stand for. -/
def digitsOf (text : Text) : List ℕ := text.map (· - 48)

/-- A text of digits, as many as `width`. -/
structure Numeral (width : ℕ) (text : Text) : Prop where
  length : text.length = width
  digit : ∀ c ∈ text, isDigit c = true

theorem digitsOf_small {text : Text} (digit : ∀ c ∈ text, isDigit c = true) :
    ∀ d ∈ digitsOf text, d < 10 := by
  intro d member
  obtain ⟨c, inside, rfl⟩ := List.mem_map.mp member
  have range := digit c inside
  simp only [isDigit, decide_eq_true_eq] at range
  omega

theorem Numeral.number_lt {width : ℕ} {text : Text} (numeral : Numeral width text) :
    number (digitsOf text) < 10 ^ width := by
  have below := Digits.number_lt (digitsOf_small numeral.digit)
  rwa [digitsOf, List.length_map, numeral.length] at below

/-- The digits at the front of a text. -/
def readDigits (width : ℕ) (text : Text) : Option (Text × Text) :=
  if width ≤ text.length ∧ (text.take width).all isDigit then
    some (text.take width, text.drop width)
  else none

theorem readDigits_eq_some {width : ℕ} {text digits rest : Text} :
    readDigits width text = some (digits, rest) ↔ Numeral width digits ∧ text = digits ++ rest := by
  unfold readDigits
  constructor
  · intro read
    split_ifs at read with fine
    cases read
    exact ⟨⟨List.length_take_of_le fine.1, List.all_eq_true.mp fine.2⟩,
      (List.take_append_drop width text).symm⟩
  · rintro ⟨⟨rfl, digit⟩, rfl⟩
    have front : (digits ++ rest).take digits.length = digits := List.take_left
    rw [front, List.drop_left]
    exact if_pos ⟨by simp, List.all_eq_true.mpr digit⟩

/-- The rest of a text after a point it begins with. -/
def readPoint (point : ℕ) : Text → Option Text
  | c :: rest => if c = point then some rest else none
  | [] => none

theorem readPoint_eq_some {point : ℕ} {text rest : Text} :
    readPoint point text = some rest ↔ text = point :: rest := by
  cases text with
  | nil => simp [readPoint]
  | cons c cs =>
      simp only [readPoint, Option.ite_none_right_eq_some, Option.some.injEq, List.cons.injEq]

end Inci.Theory.Digits
