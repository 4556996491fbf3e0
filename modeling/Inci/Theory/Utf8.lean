/-
# Theory.Utf8 -- strict UTF-8 decoding and the ASCII texts

`decode` is `bytes.decode("utf-8")`: it refuses overlong forms, surrogates and
points past the last plane.  A text below 128 has one byte a point (`ascii`), and
`decode_ascii` reads it back, so a canonical JSON text survives its encoding.
-/
import Inci.Theory.JsonRoundTrip

namespace Inci.Theory.Utf8

open Inci.Theory.Json (Text Value)

set_option autoImplicit false

/-- `text.encode("ascii")` of a text that has only ASCII points. -/
def ascii (t : Text) : List UInt8 := t.map UInt8.ofNat

/-! ## Decoding -/

/-- The six bits of a continuation byte. -/
def continuation (b : UInt8) : Option Nat :=
  if 128 ≤ b.toNat ∧ b.toNat < 192 then some (b.toNat - 128) else none

/-- The point of two, three or four bytes is at least `least` and no surrogate. -/
def point (least value : Nat) : Option Nat :=
  if least ≤ value ∧ value < 1114112 ∧ ¬(55296 ≤ value ∧ value < 57344) then some value else none

def decode : List UInt8 → Option Text
  | [] => some []
  | a :: rest =>
      if a.toNat < 128 then (decode rest).map (a.toNat :: ·)
      else if 192 ≤ a.toNat ∧ a.toNat < 224 then
        match rest with
        | b :: rest => do
            let b ← continuation b
            let c ← point 128 ((a.toNat - 192) * 64 + b)
            (decode rest).map (c :: ·)
        | _ => none
      else if 224 ≤ a.toNat ∧ a.toNat < 240 then
        match rest with
        | b :: c :: rest => do
            let b ← continuation b
            let c ← continuation c
            let d ← point 2048 ((a.toNat - 224) * 4096 + b * 64 + c)
            (decode rest).map (d :: ·)
        | _ => none
      else if 240 ≤ a.toNat ∧ a.toNat < 248 then
        match rest with
        | b :: c :: d :: rest => do
            let b ← continuation b
            let c ← continuation c
            let d ← continuation d
            let e ← point 65536 ((a.toNat - 240) * 262144 + b * 4096 + c * 64 + d)
            (decode rest).map (e :: ·)
        | _ => none
      else none

/-! ## ASCII texts -/

def Ascii (t : Text) : Prop := ∀ c ∈ t, c < 128

theorem ascii_nil : Ascii [] := fun _ member => absurd member List.not_mem_nil

theorem ascii_cons {c : Nat} {t : Text} : Ascii (c :: t) ↔ c < 128 ∧ Ascii t := by
  simp [Ascii]

theorem ascii_append {s t : Text} : Ascii (s ++ t) ↔ Ascii s ∧ Ascii t := by
  simp [Ascii, or_imp, forall_and]

theorem toNat_ofNat {c : Nat} (low : c < 128) : (UInt8.ofNat c).toNat = c := by
  rw [UInt8.toNat_ofNat']
  omega

theorem decode_ascii {t : Text} (low : Ascii t) : decode (ascii t) = some t := by
  induction t with
  | nil => rfl
  | cons c rest ih =>
      obtain ⟨first, others⟩ := ascii_cons.mp low
      have byte := toNat_ofNat first
      show decode (UInt8.ofNat c :: ascii rest) = some (c :: rest)
      unfold decode
      rw [if_pos (by omega), ih others, byte]
      rfl

theorem ascii_injective {s t : Text} (first : Ascii s) (second : Ascii t)
    (same : ascii s = ascii t) : s = t := by
  have read := decode_ascii first
  rw [same, decode_ascii second] at read
  exact (Option.some.inj read).symm

/-! ## Canonical JSON is ASCII -/

theorem hexDigit_low (n : Nat) (small : n < 16) : Json.hexDigit n < 128 := by
  unfold Json.hexDigit
  by_cases digit : n < 10
  · rw [if_pos digit]
    omega
  · rw [if_neg digit]
    omega

theorem unicodeEscape_ascii (n : Nat) : Ascii (Json.unicodeEscape n) := by
  have nibble : ∀ m, Json.hexDigit (m % 16) < 128 :=
    fun m => hexDigit_low _ (Nat.mod_lt m (by norm_num))
  intro c member
  simp only [Json.unicodeEscape, Json.hex4, List.mem_cons, List.not_mem_nil, or_false] at member
  rcases member with rfl | rfl | rfl | rfl | rfl | rfl
  · norm_num
  · norm_num
  all_goals exact nibble _

theorem escapePoint_ascii (c : Nat) : Ascii (Json.escapePoint c) := by
  unfold Json.escapePoint
  repeat' split
  all_goals
    first
    | exact ascii_append.mpr ⟨unicodeEscape_ascii _, unicodeEscape_ascii _⟩
    | exact unicodeEscape_ascii _
    | (simp only [ascii_cons, ascii_nil, and_true]; omega)

theorem quote_ascii (s : Text) : Ascii (Json.quote s) := by
  refine ascii_cons.mpr ⟨by norm_num, ascii_append.mpr ⟨?_, by simp [Ascii]⟩⟩
  intro c member
  obtain ⟨point, -, inside⟩ := List.mem_flatMap.mp member
  exact escapePoint_ascii point c inside

theorem decimal_ascii (n : Nat) : Ascii (Json.decimal n) := by
  intro c member
  have digit := Json.decimal_digits n c member
  simp only [Json.isDigit, decide_eq_true_eq] at digit
  omega

theorem integer_ascii (n : Int) : Ascii (Json.integer n) := by
  cases n with
  | ofNat n => exact decimal_ascii n
  | negSucc n => exact ascii_cons.mpr ⟨by norm_num, decimal_ascii (n + 1)⟩

mutual
/-- Every rendered value is ASCII. -/
theorem render_ascii : ∀ v : Value, Ascii (Json.render v)
  | .null => by simp [Json.render, Ascii]
  | .bool true => by simp [Json.render, Ascii]
  | .bool false => by simp [Json.render, Ascii]
  | .int n => by
      rw [Json.render]
      exact integer_ascii n
  | .str s => by
      rw [Json.render]
      exact quote_ascii s
  | .arr [] => by simp [Json.render, Ascii]
  | .arr (v :: rest) => by
      rw [Json.render]
      exact ascii_cons.mpr ⟨by norm_num,
        ascii_append.mpr ⟨render_ascii v, renderItems_ascii rest⟩⟩
  | .obj [] => by simp [Json.render, Ascii]
  | .obj ((k, v) :: rest) => by
      rw [Json.render]
      exact ascii_cons.mpr ⟨by norm_num, ascii_append.mpr ⟨quote_ascii k,
        ascii_cons.mpr ⟨by norm_num,
          ascii_append.mpr ⟨render_ascii v, renderMembers_ascii rest⟩⟩⟩⟩
theorem renderItems_ascii : ∀ items : List Value, Ascii (Json.renderItems items)
  | [] => by simp [Json.renderItems, Ascii]
  | v :: rest => by
      rw [Json.renderItems]
      exact ascii_cons.mpr ⟨by norm_num,
        ascii_append.mpr ⟨render_ascii v, renderItems_ascii rest⟩⟩
theorem renderMembers_ascii : ∀ members : List (Text × Value), Ascii (Json.renderMembers members)
  | [] => by simp [Json.renderMembers, Ascii]
  | (k, v) :: rest => by
      rw [Json.renderMembers]
      exact ascii_cons.mpr ⟨by norm_num, ascii_append.mpr ⟨quote_ascii k,
        ascii_cons.mpr ⟨by norm_num,
          ascii_append.mpr ⟨render_ascii v, renderMembers_ascii rest⟩⟩⟩⟩
end

theorem dumps_ascii {v : Value} {written : Text} (dumped : Json.dumps v = some written) :
    Ascii written := by
  unfold Json.dumps at dumped
  by_cases fits : Json.printable v = true
  · rw [if_pos fits] at dumped
    exact Option.some.inj dumped ▸ render_ascii _
  · rw [if_neg fits] at dumped
    exact nomatch dumped

/-! ## ASCII strings survive the JSON round trip -/

theorem ascii_survives {s : Text} (low : Ascii s) : Json.Survives s := by
  refine ⟨fun c member => (low c member).trans (by norm_num), ?_⟩
  have single : s.flatMap Json.units = s := by
    induction s with
    | nil => rfl
    | cons c rest ih =>
        obtain ⟨first, others⟩ := ascii_cons.mp low
        have unit : Json.units c = [c] := if_pos (first.trans (by norm_num))
        rw [List.flatMap_cons, unit, ih others]
        rfl
  rw [single]
  induction s with
  | nil => rfl
  | cons c rest ih =>
      obtain ⟨first, others⟩ := ascii_cons.mp low
      have plain : Json.isHigh c = false := by
        simp only [Json.isHigh, decide_eq_false_iff_not]
        omega
      cases rest with
      | nil => rfl
      | cons d rest =>
          have tail : List.flatMap Json.units (d :: rest) = d :: rest := by
            rw [List.flatMap_cons, show Json.units c = [c] from if_pos (by omega)] at single
            exact (List.cons.inj single).2
          rw [Json.joinSurrogates, plain, Bool.false_and, if_neg Bool.false_ne_true,
            ih others tail]

/-- A value without parts, its text ASCII. -/
def Scalar : Value → Prop
  | .null | .bool _ | .int _ => True
  | .str s => Ascii s
  | _ => False

/-- A printable object of ASCII keys and scalars is read back. -/
theorem readable_object {members : List (Text × Value)}
    (distinct : (members.map Prod.fst).Nodup) (keys : ∀ m ∈ members, Ascii m.1)
    (scalars : ∀ m ∈ members, Scalar m.2) (fits : Json.printable (.obj members) = true) :
    Json.Readable (.obj members) := by
  refine ⟨distinct, ?_⟩
  rw [Json.printable] at fits
  clear distinct
  induction members with
  | nil => trivial
  | cons m rest ih =>
      obtain ⟨k, v⟩ := m
      simp only [List.mem_cons, forall_eq_or_imp] at keys scalars
      simp only [Json.printableMembers, Bool.and_eq_true] at fits
      refine ⟨ascii_survives keys.1, ?_, ih keys.2 scalars.2 fits.2⟩
      cases v with
      | null => trivial
      | bool b => trivial
      | int n =>
          have digits := fits.1
          simp only [Json.printable, decide_eq_true_eq] at digits
          exact digits
      | str s => exact ascii_survives scalars.1
      | arr items => exact scalars.1.elim
      | obj members => exact scalars.1.elim

end Inci.Theory.Utf8
