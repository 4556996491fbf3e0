/-
# Theory.Sha256 -- the SHA-256 compression chain

`digest` is the hash of a list of bytes and `hexdigest` its lowercase
hexadecimal text.  The modules above use two facts only: the text has the shape
of a digest (`hexdigest_isHex`, `hexdigest_length`) and it is a function of the
bytes.  Where a result rests on collision freeness it says so, as injectivity on
the strings the program hashes.
-/
import Mathlib.Algebra.Group.Nat.Defs
import Mathlib.Tactic.Basic

namespace Inci.Theory.Sha256

set_option autoImplicit false

/-- The eight working words, most significant first. -/
structure Chain where
  (a b c d e f g h : UInt32)

def initial : Chain :=
  ⟨0x6a09e667, 0xbb67ae85, 0x3c6ef372, 0xa54ff53a, 0x510e527f, 0x9b05688c, 0x1f83d9ab, 0x5be0cd19⟩

def roundConstants : List UInt32 :=
  [0x428a2f98, 0x71374491, 0xb5c0fbcf, 0xe9b5dba5, 0x3956c25b, 0x59f111f1, 0x923f82a4, 0xab1c5ed5,
   0xd807aa98, 0x12835b01, 0x243185be, 0x550c7dc3, 0x72be5d74, 0x80deb1fe, 0x9bdc06a7, 0xc19bf174,
   0xe49b69c1, 0xefbe4786, 0x0fc19dc6, 0x240ca1cc, 0x2de92c6f, 0x4a7484aa, 0x5cb0a9dc, 0x76f988da,
   0x983e5152, 0xa831c66d, 0xb00327c8, 0xbf597fc7, 0xc6e00bf3, 0xd5a79147, 0x06ca6351, 0x14292967,
   0x27b70a85, 0x2e1b2138, 0x4d2c6dfc, 0x53380d13, 0x650a7354, 0x766a0abb, 0x81c2c92e, 0x92722c85,
   0xa2bfe8a1, 0xa81a664b, 0xc24b8b70, 0xc76c51a3, 0xd192e819, 0xd6990624, 0xf40e3585, 0x106aa070,
   0x19a4c116, 0x1e376c08, 0x2748774c, 0x34b0bcb5, 0x391c0cb3, 0x4ed8aa4a, 0x5b9cca4f, 0x682e6ff3,
   0x748f82ee, 0x78a5636f, 0x84c87814, 0x8cc70208, 0x90befffa, 0xa4506ceb, 0xbef9a3f7, 0xc67178f2]

def rotateRight (x : UInt32) (n : UInt32) : UInt32 := (x >>> n) ||| (x <<< (32 - n))

def choose (x y z : UInt32) : UInt32 := (x &&& y) ^^^ (~~~x &&& z)

def majority (x y z : UInt32) : UInt32 := (x &&& y) ^^^ (x &&& z) ^^^ (y &&& z)

def bigSigma0 (x : UInt32) : UInt32 := rotateRight x 2 ^^^ rotateRight x 13 ^^^ rotateRight x 22

def bigSigma1 (x : UInt32) : UInt32 := rotateRight x 6 ^^^ rotateRight x 11 ^^^ rotateRight x 25

def smallSigma0 (x : UInt32) : UInt32 := rotateRight x 7 ^^^ rotateRight x 18 ^^^ (x >>> 3)

def smallSigma1 (x : UInt32) : UInt32 := rotateRight x 17 ^^^ rotateRight x 19 ^^^ (x >>> 10)

/-- One round on the chain, with the round's constant and schedule word. -/
def Chain.round (s : Chain) (k w : UInt32) : Chain :=
  let t1 := s.h + bigSigma1 s.e + choose s.e s.f s.g + k + w
  let t2 := bigSigma0 s.a + majority s.a s.b s.c
  ⟨t1 + t2, s.a, s.b, s.c, s.d + t1, s.e, s.f, s.g⟩

def Chain.add (s t : Chain) : Chain :=
  ⟨s.a + t.a, s.b + t.b, s.c + t.c, s.d + t.d, s.e + t.e, s.f + t.f, s.g + t.g, s.h + t.h⟩

def word (bytes : List UInt8) : UInt32 :=
  bytes.foldl (fun acc b => (acc <<< 8) ||| b.toUInt32) 0

/-- The sixteen words of a block. -/
def blockWords : Nat → List UInt8 → List UInt32
  | 0, _ => []
  | n + 1, bytes => word (bytes.take 4) :: blockWords n (bytes.drop 4)

/-- Run the rounds, sliding the sixteen-word window of the schedule. -/
def rounds : List UInt32 → List UInt32 → Chain → Chain
  | k :: ks, w :: window, s =>
      let next := smallSigma1 (window.getD 13 0) + window.getD 8 0 + smallSigma0 (window.getD 0 0) + w
      rounds ks (window ++ [next]) (s.round k w)
  | _, _, s => s

def compress (s : Chain) (block : List UInt8) : Chain :=
  s.add (rounds roundConstants (blockWords 16 block) s)

def bigEndian (width n : Nat) : List UInt8 :=
  (List.range width).reverse.map fun i => UInt8.ofNat (n / 256 ^ i)

/-- One bit, zeros, and the message length in bits, up to a whole block. -/
def pad (message : List UInt8) : List UInt8 :=
  message ++ 0x80 :: (List.replicate ((119 - message.length % 64) % 64) 0 ++
    bigEndian 8 (8 * message.length))

def absorb : Nat → Chain → List UInt8 → Chain
  | 0, s, _ => s
  | n + 1, s, bytes => absorb n (compress s (bytes.take 64)) (bytes.drop 64)

def Chain.bytes (s : Chain) : List UInt8 :=
  [s.a, s.b, s.c, s.d, s.e, s.f, s.g, s.h].flatMap fun w => bigEndian 4 w.toNat

@[irreducible] def digest (message : List UInt8) : List UInt8 :=
  (absorb ((pad message).length / 64) initial (pad message)).bytes

/-! ## Hexadecimal text -/

def hexDigits : List Char :=
  ['0', '1', '2', '3', '4', '5', '6', '7', '8', '9', 'a', 'b', 'c', 'd', 'e', 'f']

def isHexDigit (c : Char) : Bool := hexDigits.contains c

def hexByte (b : UInt8) : List Char :=
  [hexDigits.getD (b.toNat / 16) '0', hexDigits.getD (b.toNat % 16) '0']

def hex (bytes : List UInt8) : String := String.ofList (bytes.flatMap hexByte)

def hexdigest (message : List UInt8) : String := hex (digest message)

theorem bytes_length (s : Chain) : s.bytes.length = 32 := by
  simp [Chain.bytes, bigEndian]

theorem digest_length (message : List UInt8) : (digest message).length = 32 := by
  unfold digest
  exact bytes_length _

theorem hexDigits_getD {n : Nat} (small : n < 16) : isHexDigit (hexDigits.getD n '0') = true := by
  revert n
  decide

theorem hexByte_isHex (b : UInt8) : ∀ c ∈ hexByte b, isHexDigit c = true := by
  have bound := b.toNat_lt
  intro c member
  simp only [hexByte, List.mem_cons, List.not_mem_nil, or_false] at member
  rcases member with rfl | rfl
  · exact hexDigits_getD (by omega)
  · exact hexDigits_getD (by omega)

theorem hexdigest_isHex (message : List UInt8) :
    ∀ c ∈ (hexdigest message).toList, isHexDigit c = true := by
  intro c member
  simp only [hexdigest, hex, String.toList_ofList, List.mem_flatMap] at member
  obtain ⟨b, -, digit⟩ := member
  exact hexByte_isHex b c digit

theorem hexdigest_length (message : List UInt8) : (hexdigest message).toList.length = 64 := by
  have pairs : ∀ bytes : List UInt8, (bytes.flatMap hexByte).length = 2 * bytes.length := by
    intro bytes
    induction bytes with
    | nil => rfl
    | cons b rest ih => simp [hexByte, ih]; omega
  simp [hexdigest, hex, pairs, digest_length]

theorem hexDigits_injective : ∀ n < 16, ∀ k < 16,
    hexDigits.getD n '0' = hexDigits.getD k '0' → n = k := by decide

theorem hexByte_injective {b c : UInt8} (same : hexByte b = hexByte c) : b = c := by
  have bound := b.toNat_lt
  have bound' := c.toNat_lt
  obtain ⟨high, low⟩ := List.cons.inj same
  have highs := hexDigits_injective _ (by omega) _ (by omega) high
  have lows := hexDigits_injective _ (by omega) _ (by omega) (List.cons.inj low).1
  exact UInt8.toNat_inj.mp (by omega)

/-- Bytes of one hexadecimal text are the same. -/
theorem hex_injective {one other : List UInt8} (same : hex one = hex other) : one = other := by
  have chars : one.flatMap hexByte = other.flatMap hexByte := String.ofList_injective same
  clear same
  induction one generalizing other with
  | nil =>
      cases other with
      | nil => rfl
      | cons c rest => cases chars
  | cons b rest ih =>
      cases other with
      | nil => cases chars
      | cons c others =>
          rw [List.flatMap_cons, List.flatMap_cons] at chars
          obtain ⟨heads, tails⟩ := List.append_inj chars rfl
          rw [hexByte_injective heads, ih tails]

end Inci.Theory.Sha256
