/-
# Expert.Fields -- the field checks of the expert contracts

The checks `__post_init__` runs on single fields.  A type error cannot be
written down here, so what is left of `_integer`, `_safe_id` and the others is
their bound or their grammar; each raises with the name of the field it reads.
-/
import Inci.Expert.Vocabulary
import Inci.Theory.Checks
import Inci.Theory.Decimal
import Inci.Theory.Sha256
import Mathlib.Data.List.Basic

namespace Inci.Expert

open Inci.Theory

set_option autoImplicit false

def integerBound : Nat := 10 ^ 256

theorem integerBound_pos : 0 < integerBound := by
  unfold integerBound; positivity

/-- `_integer(value, name)` of a field that may not be negative. -/
def integer (value : Nat) (name : String) : Check :=
  refuse (integerBound ≤ value) (.contract name)

/-- `_integer(value, name, positive=True)` -/
def positiveInteger (value : Nat) (name : String) : Check := do
  refuse (integerBound ≤ value) (.contract name)
  refuse (value = 0) (.contract name)

def alphanumeric (c : Char) : Bool :=
  (decide ('A' ≤ c) && decide (c ≤ 'Z')) || (decide ('a' ≤ c) && decide (c ≤ 'z')) ||
    (decide ('0' ≤ c) && decide (c ≤ '9'))

/-- `[A-Za-z0-9][A-Za-z0-9._:-]{0,127}` -/
def matchesSafeId : List Char → Bool
  | [] => false
  | c :: rest =>
      alphanumeric c && decide (rest.length ≤ 127) &&
        rest.all fun d => alphanumeric d || ['.', '_', ':', '-'].contains d

/-- `[A-Z0-9][A-Z0-9._-]{0,127}` -/
def matchesTicker : List Char → Bool
  | [] => false
  | c :: rest =>
      upper c && decide (rest.length ≤ 127) &&
        rest.all fun d => upper d || ['.', '_', '-'].contains d
where
  upper (c : Char) : Bool :=
    (decide ('A' ≤ c) && decide (c ≤ 'Z')) || (decide ('0' ≤ c) && decide (c ≤ '9'))

/-- `[0-9a-f]{64}` -/
def matchesSha256 (cs : List Char) : Bool :=
  decide (cs.length = 64) && cs.all Sha256.isHexDigit

/-- A text that reads as a link: `http:`, `https:` or `file:` in any case. -/
def looksLikeLink (cs : List Char) : Bool :=
  ["http:", "https:", "file:"].any fun scheme => scheme.toList.isPrefixOf (cs.map Char.toLower)

def safeId (value name : String) : Check := do
  refuse (matchesSafeId value.toList = false) (.contract name)
  refuse (looksLikeLink value.toList = true) (.contract name)

def ticker (value name : String) : Check :=
  refuse (matchesTicker value.toList = false) (.contract name)

def sha256 (value name : String) : Check :=
  refuse (matchesSha256 value.toList = false) (.contract name)

def probability (value : Decimal) (name : String) : Check :=
  refuse (value < 0 ∨ 1 < value) (.contract name)

def quantity (value : Decimal) (name : String) : Check :=
  refuse (value < 0) (.contract name)

/-- `_quantity(value, name, positive=True)` -/
def positiveQuantity (value : Decimal) (name : String) : Check :=
  refuse (value < 0 ∨ value = 0) (.contract name)

/-! ## What the checks accept -/

def SafeId (value : String) : Prop :=
  matchesSafeId value.toList = true ∧ looksLikeLink value.toList = false

def Ticker (value : String) : Prop := matchesTicker value.toList = true

def IsSha256 (value : String) : Prop := matchesSha256 value.toList = true

instance (value : String) : Decidable (SafeId value) := inferInstanceAs (Decidable (_ ∧ _))
instance (value : String) : Decidable (Ticker value) := inferInstanceAs (Decidable (_ = _))
instance (value : String) : Decidable (IsSha256 value) := inferInstanceAs (Decidable (_ = _))

@[simp] theorem integer_eq_ok (value : Nat) (name : String) (u : Unit) :
    integer value name = .ok u ↔ value < integerBound := by
  simp [integer]

@[simp] theorem positiveInteger_eq_ok (value : Nat) (name : String) (u : Unit) :
    positiveInteger value name = .ok u ↔ value < integerBound ∧ 0 < value := by
  simp [positiveInteger, Nat.pos_iff_ne_zero]

@[simp] theorem safeId_eq_ok (value name : String) (u : Unit) :
    safeId value name = .ok u ↔ SafeId value := by
  simp [safeId, SafeId]

@[simp] theorem ticker_eq_ok (value name : String) (u : Unit) :
    ticker value name = .ok u ↔ Ticker value := by
  simp [ticker, Ticker]

@[simp] theorem sha256_eq_ok (value name : String) (u : Unit) :
    sha256 value name = .ok u ↔ IsSha256 value := by
  simp [sha256, IsSha256]

@[simp] theorem probability_eq_ok (value : Decimal) (name : String) (u : Unit) :
    probability value name = .ok u ↔ 0 ≤ value ∧ value ≤ 1 := by
  simp [probability]

@[simp] theorem quantity_eq_ok (value : Decimal) (name : String) (u : Unit) :
    quantity value name = .ok u ↔ 0 ≤ value := by
  simp [quantity]

@[simp] theorem positiveQuantity_eq_ok (value : Decimal) (name : String) (u : Unit) :
    positiveQuantity value name = .ok u ↔ 0 < value := by
  simp only [positiveQuantity, refuse_eq_ok, not_or, not_lt]
  constructor
  · rintro ⟨least, nonzero⟩
    exact lt_of_le_of_ne least (Ne.symm nonzero)
  · intro positive
    exact ⟨positive.le, positive.ne'⟩

/-- A digest the program computes has the shape its checks ask for. -/
theorem hexdigest_isSha256 (message : List UInt8) : IsSha256 (Sha256.hexdigest message) := by
  unfold IsSha256 matchesSha256
  simpa [Sha256.hexdigest_length] using Sha256.hexdigest_isHex message

end Inci.Expert
