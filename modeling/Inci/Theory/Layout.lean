/-
# Theory.Layout -- packed binary records in network order

A `format` lists the fields of a fixed-size record: raw bytes of a given width
and unsigned numbers of a given width, most significant byte first.  `pack`
writes a row of field values and `unpack` reads one back; they are inverse to
each other (`unpack_pack`, `pack_unpack`), so a record has one encoding.

`slice` is the byte range a reader cuts out of a longer string; the lemmas on it
find the parts of a concatenation again.
-/
import Mathlib.Data.Nat.Basic
import Mathlib.Algebra.Order.Ring.Nat
import Mathlib.Tactic.Ring
import Inci.Theory.Sha256

namespace Inci.Theory.Layout

open Sha256 (bigEndian)

set_option autoImplicit false

/-! ## Numbers -/

/-- The number a string of bytes spells, most significant byte first. -/
def bigEndianValue : List UInt8 → Nat
  | [] => 0
  | b :: rest => b.toNat * 256 ^ rest.length + bigEndianValue rest

theorem bigEndianValue_lt (bytes : List UInt8) : bigEndianValue bytes < 256 ^ bytes.length := by
  induction bytes with
  | nil => simp [bigEndianValue]
  | cons b rest ih =>
      have small : b.toNat + 1 ≤ 256 := b.toNat_lt
      have scaled := Nat.mul_le_mul_right (256 ^ rest.length) small
      simp only [bigEndianValue, List.length_cons, pow_succ]
      rw [Nat.add_mul] at scaled
      omega

@[simp] theorem bigEndian_length (width n : Nat) : (bigEndian width n).length = width := by
  simp [bigEndian]

theorem bigEndian_succ (width n : Nat) :
    bigEndian (width + 1) n = UInt8.ofNat (n / 256 ^ width) :: bigEndian width n := by
  simp [bigEndian, List.range_succ]

theorem bigEndianValue_bigEndian (width n : Nat) :
    bigEndianValue (bigEndian width n) = n % 256 ^ width := by
  induction width with
  | zero => simp [bigEndian, bigEndianValue, Nat.mod_one]
  | succ width ih =>
      have top : n % 256 ^ (width + 1) =
          n % 256 ^ width + 256 ^ width * (n / 256 ^ width % 256) := by
        rw [pow_succ, Nat.mod_mul]
      rw [bigEndian_succ, bigEndianValue, ih, bigEndian_length, UInt8.toNat_ofNat', top,
        Nat.mul_comm, Nat.add_comm]

/-- The high part of a number does not reach its low bytes. -/
theorem bigEndian_add (width high low : Nat) :
    bigEndian width (high * 256 ^ width + low) = bigEndian width low := by
  unfold bigEndian
  apply List.map_congr_left
  intro i member
  have below : i < width := by simpa using member
  obtain ⟨k, rfl⟩ := Nat.exists_eq_add_of_lt below
  have shifted : (high * 256 ^ (i + k + 1) + low) / 256 ^ i =
      low / 256 ^ i + 256 * (high * 256 ^ k) := by
    rw [show high * 256 ^ (i + k + 1) + low = low + 256 ^ i * (256 * (high * 256 ^ k)) by ring]
    exact Nat.add_mul_div_left _ _ (Nat.pow_pos (by decide))
  rw [shifted]
  apply UInt8.toNat_inj.mp
  simp

theorem bigEndian_bigEndianValue (bytes : List UInt8) :
    bigEndian bytes.length (bigEndianValue bytes) = bytes := by
  induction bytes with
  | nil => simp [bigEndian]
  | cons b rest ih =>
      have top : (b.toNat * 256 ^ rest.length + bigEndianValue rest) / 256 ^ rest.length =
          b.toNat := by
        rw [Nat.add_comm, Nat.add_mul_div_right _ _ (Nat.pow_pos (by decide)),
          Nat.div_eq_of_lt (bigEndianValue_lt rest), Nat.zero_add]
      rw [List.length_cons, bigEndian_succ, bigEndianValue, bigEndian_add, ih, top]
      simp

/-! ## Byte ranges -/

/-- The bytes from `start` up to `stop`. -/
def slice {α : Type} (bytes : List α) (start stop : Nat) : List α := (bytes.take stop).drop start

section Slices

variable {α : Type} (a b c : List α)

theorem slice_length {bytes : List α} {start stop : Nat} (inside : stop ≤ bytes.length) :
    (slice bytes start stop).length = stop - start := by
  simp [slice, Nat.min_eq_left inside]

/-- A range taken from the middle of a concatenation. -/
theorem slice_mid {p q : Nat} (start : p = a.length) (stop : q = p + b.length) :
    slice (a ++ (b ++ c)) p q = b := by
  subst start stop
  unfold slice
  rw [← List.append_assoc, List.take_left' (by simp), List.drop_left' rfl]

theorem take_slice (bytes : List α) {p q : Nat} (order : p ≤ q) :
    bytes.take p ++ slice bytes p q = bytes.take q := by
  have lead : bytes.take p = (bytes.take q).take p := by rw [List.take_take, Nat.min_eq_left order]
  rw [slice, lead, List.take_append_drop]

theorem slice_append (bytes : List α) {p q r : Nat} (first : p ≤ q) (second : q ≤ r) :
    slice bytes p q ++ slice bytes q r = slice bytes p r := by
  apply (List.append_right_inj (bytes.take p)).mp
  rw [← List.append_assoc, take_slice bytes first, take_slice bytes second,
    take_slice bytes (first.trans second)]

/-- A string cut at three places is its parts in order. -/
theorem slice_parts (bytes : List α) {p q r : Nat} (first : p ≤ q) (second : q ≤ r) :
    slice bytes 0 p ++ slice bytes p q ++ slice bytes q r ++ bytes.drop r = bytes := by
  have lead : slice bytes 0 p = bytes.take p := by simp [slice]
  rw [lead, take_slice bytes first, take_slice bytes second, List.take_append_drop]

end Slices

/-! ## Records -/

/-- A field of a packed record. -/
inductive Item where
  | raw (width : Nat)
  | unsigned (width : Nat)

/-- What a field holds. -/
abbrev Item.Value : Item → Type
  | .raw _ => List UInt8
  | .unsigned _ => Nat

def Item.width : Item → Nat
  | .raw width => width
  | .unsigned width => width

/-- The values of a record's fields, in order. -/
abbrev Row : List Item → Type
  | [] => Unit
  | item :: rest => item.Value × Row rest

/-- The value fits its field: raw bytes fill it, a number is below its bound. -/
def Item.Fits : (item : Item) → item.Value → Prop
  | .raw width, bytes => bytes.length = width
  | .unsigned width, n => n < 256 ^ width

instance : (item : Item) → (v : item.Value) → Decidable (item.Fits v)
  | .raw _, _ => inferInstanceAs (Decidable (_ = _))
  | .unsigned _, _ => inferInstanceAs (Decidable (_ < _))

/-- Every value of the record fits its field. -/
def Fits : (format : List Item) → Row format → Prop
  | [], _ => True
  | item :: rest, (v, vs) => item.Fits v ∧ Fits rest vs

def Item.write : (item : Item) → item.Value → List UInt8
  | .raw _, bytes => bytes
  | .unsigned width, n => bigEndian width n

def Item.read : (item : Item) → List UInt8 → item.Value
  | .raw _, bytes => bytes
  | .unsigned _, bytes => bigEndianValue bytes

def size : List Item → Nat
  | [] => 0
  | item :: rest => item.width + size rest

/-- The packed record, unless a value does not fit its field. -/
def pack : (format : List Item) → Row format → Option (List UInt8)
  | [], _ => some []
  | item :: rest, (v, vs) =>
      if item.Fits v then (pack rest vs).map (item.write v ++ ·) else none

/-- The fields of a packed record of exactly the format's size. -/
def unpack : (format : List Item) → List UInt8 → Option (Row format)
  | [], bytes => if bytes = [] then some () else none
  | item :: rest, bytes =>
      if item.width ≤ bytes.length then
        (unpack rest (bytes.drop item.width)).map fun vs => (item.read (bytes.take item.width), vs)
      else none

theorem Item.write_length {item : Item} {v : item.Value} (fits : item.Fits v) :
    (item.write v).length = item.width := by
  cases item with
  | raw width => exact fits
  | unsigned width => exact bigEndian_length width v

theorem Item.read_write {item : Item} {v : item.Value} (fits : item.Fits v) :
    item.read (item.write v) = v := by
  cases item with
  | raw width => rfl
  | unsigned width =>
      show bigEndianValue (bigEndian width v) = v
      rw [bigEndianValue_bigEndian, Nat.mod_eq_of_lt fits]

theorem Item.fits_read {item : Item} {bytes : List UInt8} (filled : bytes.length = item.width) :
    item.Fits (item.read bytes) := by
  cases item with
  | raw width => exact filled
  | unsigned width =>
      show bigEndianValue bytes < 256 ^ width
      rw [show width = bytes.length from filled.symm]
      exact bigEndianValue_lt bytes

theorem Item.write_read {item : Item} {bytes : List UInt8} (filled : bytes.length = item.width) :
    item.write (item.read bytes) = bytes := by
  cases item with
  | raw width => rfl
  | unsigned width =>
      show bigEndian width (bigEndianValue bytes) = bytes
      rw [show width = bytes.length from filled.symm]
      exact bigEndian_bigEndianValue bytes

/-- A record is packed exactly when its values fit. -/
theorem pack_isSome {format : List Item} {row : Row format} :
    (∃ bytes, pack format row = some bytes) ↔ Fits format row := by
  induction format with
  | nil => simp [pack, Fits]
  | cons item rest ih =>
      obtain ⟨v, vs⟩ := row
      rw [Fits, ← ih]
      by_cases fits : item.Fits v
      · rw [pack, if_pos fits]
        constructor
        · rintro ⟨bytes, packed⟩
          obtain ⟨tail, tailed, -⟩ := Option.map_eq_some_iff.mp packed
          exact ⟨fits, tail, tailed⟩
        · rintro ⟨-, tail, tailed⟩
          exact ⟨_, by rw [tailed]; rfl⟩
      · simp [pack, fits]

theorem pack_length {format : List Item} {row : Row format} {bytes : List UInt8}
    (packed : pack format row = some bytes) : bytes.length = size format := by
  induction format generalizing bytes with
  | nil => simp_all [pack, size]
  | cons item rest ih =>
      obtain ⟨v, vs⟩ := row
      by_cases fits : item.Fits v
      · simp only [pack, if_pos fits, Option.map_eq_some_iff] at packed
        obtain ⟨tail, tailed, rfl⟩ := packed
        rw [List.length_append, Item.write_length fits, ih tailed, size]
      · simp [pack, fits] at packed

theorem unpack_pack {format : List Item} {row : Row format} {bytes : List UInt8}
    (packed : pack format row = some bytes) : unpack format bytes = some row := by
  induction format generalizing bytes with
  | nil => simp_all [pack, unpack]
  | cons item rest ih =>
      obtain ⟨v, vs⟩ := row
      by_cases fits : item.Fits v
      · simp only [pack, if_pos fits, Option.map_eq_some_iff] at packed
        obtain ⟨tail, tailed, rfl⟩ := packed
        have length := Item.write_length fits
        rw [unpack, if_pos (by simp [length]), List.drop_left' length, List.take_left' length,
          ih tailed, Item.read_write fits]
        rfl
      · simp [pack, fits] at packed

theorem pack_unpack {format : List Item} {row : Row format} {bytes : List UInt8}
    (unpacked : unpack format bytes = some row) : pack format row = some bytes := by
  induction format generalizing bytes with
  | nil =>
      by_cases empty : bytes = []
      · simp [pack, empty]
      · simp [unpack, empty] at unpacked
  | cons item rest ih =>
      by_cases long : item.width ≤ bytes.length
      · simp only [unpack, if_pos long, Option.map_eq_some_iff] at unpacked
        obtain ⟨vs, tail, rfl⟩ := unpacked
        have filled : (bytes.take item.width).length = item.width := by simp [long]
        rw [pack, if_pos (Item.fits_read filled), ih tail, Item.write_read filled]
        simp [List.take_append_drop]
      · simp [unpack, long] at unpacked

end Inci.Theory.Layout
