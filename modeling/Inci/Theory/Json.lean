/-
# Theory.Json -- canonical JSON text and its strict parser

The JSON values a Python program reads and writes, the text `json.dumps`
produces with `ensure_ascii`, `sort_keys` and the compact separators
(`dumps`), and the strict `json.loads` that refuses floats, the non-standard
constants and duplicate keys (`loads`).

A Python string is the list of its code points (`Text`), lone surrogates
included, and a text is a list of code points too.  A Python `dict` is the list
of its items in insertion order with distinct keys.  Both directions refuse an
integer of more than `maxIntDigits` digits, the interpreter's conversion limit.
-/
import Mathlib.Data.Nat.Digits.Defs
import Mathlib.Data.Nat.Digits.Lemmas
import Mathlib.Data.List.Lex
import Mathlib.Data.List.Sort

namespace Inci.Theory.Json

set_option autoImplicit false

/-- A Python `str`, as its code points. -/
abbrev Text := List Nat

instance : LawfulBEq Text := inferInstance

/-- The code points of a Lean string. -/
def text (s : String) : Text := s.toList.map Char.toNat

/-- The text of a literal without decoding it, for proofs that would compute many. -/
theorem text_ofList (points : List Char) :
    text (no_index (String.ofList points)) = points.map Char.toNat :=
  congrArg (List.map Char.toNat) String.toList_ofList

inductive Value where
  | null
  | bool (b : Bool)
  | int (n : Int)
  | str (s : Text)
  | arr (items : List Value)
  | obj (members : List (Text × Value))

/-! ## Writing -/

def hexDigit (n : Nat) : Nat := if n < 10 then 48 + n else 87 + n

def hex4 (n : Nat) : Text :=
  [hexDigit (n / 4096 % 16), hexDigit (n / 256 % 16), hexDigit (n / 16 % 16), hexDigit (n % 16)]

def unicodeEscape (n : Nat) : Text := 92 :: 117 :: hex4 n

/-- One code point inside a quoted string; astral points become a surrogate pair. -/
def escapePoint (c : Nat) : Text :=
  if c = 34 then [92, 34]
  else if c = 92 then [92, 92]
  else if 32 ≤ c ∧ c ≤ 126 then [c]
  else if c = 8 then [92, 98]
  else if c = 9 then [92, 116]
  else if c = 10 then [92, 110]
  else if c = 12 then [92, 102]
  else if c = 13 then [92, 114]
  else if c < 65536 then unicodeEscape c
  else unicodeEscape (55296 + (c - 65536) / 1024) ++ unicodeEscape (56320 + (c - 65536) % 1024)

def quote (s : Text) : Text := 34 :: (s.flatMap escapePoint ++ [34])

/-- The decimal digits of a natural number, most significant first. -/
def decimal (n : Nat) : Text :=
  if n = 0 then [48] else (Nat.digits 10 n).reverse.map (48 + ·)

def integer : Int → Text
  | .ofNat n => decimal n
  | .negSucc n => 45 :: decimal (n + 1)

mutual
def render : Value → Text
  | .null => [110, 117, 108, 108]
  | .bool true => [116, 114, 117, 101]
  | .bool false => [102, 97, 108, 115, 101]
  | .int n => integer n
  | .str s => quote s
  | .arr [] => [91, 93]
  | .arr (v :: rest) => 91 :: (render v ++ renderItems rest)
  | .obj [] => [123, 125]
  | .obj ((k, v) :: rest) => 123 :: (quote k ++ 58 :: (render v ++ renderMembers rest))
/-- The items after the first, up to and including the closing bracket. -/
def renderItems : List Value → Text
  | [] => [93]
  | v :: rest => 44 :: (render v ++ renderItems rest)
/-- The members after the first, up to and including the closing brace. -/
def renderMembers : List (Text × Value) → Text
  | [] => [125]
  | (k, v) :: rest => 44 :: (quote k ++ 58 :: (render v ++ renderMembers rest))
end

def keyLe (a b : Text × Value) : Bool := decide (a.1 ≤ b.1)

mutual
/-- Every object's members in key order. -/
def sortKeys : Value → Value
  | .arr items => .arr (sortItems items)
  | .obj members => .obj ((sortMembers members).mergeSort keyLe)
  | v => v
def sortItems : List Value → List Value
  | [] => []
  | v :: rest => sortKeys v :: sortItems rest
def sortMembers : List (Text × Value) → List (Text × Value)
  | [] => []
  | (k, v) :: rest => (k, sortKeys v) :: sortMembers rest
end

/-- Python's default limit on the digits of a converted integer. -/
def maxIntDigits : Nat := 4300

mutual
/-- No integer of the value exceeds the conversion limit. -/
def printable : Value → Bool
  | .int n => decide ((decimal n.natAbs).length ≤ maxIntDigits)
  | .arr items => printableItems items
  | .obj members => printableMembers members
  | _ => true
def printableItems : List Value → Bool
  | [] => true
  | v :: rest => printable v && printableItems rest
def printableMembers : List (Text × Value) → Bool
  | [] => true
  | (_, v) :: rest => printable v && printableMembers rest
end

/-- `json.dumps` with sorted keys, ASCII output and compact separators. -/
def dumps (v : Value) : Option Text :=
  if printable v then some (render (sortKeys v)) else none

/-! ## Reading -/

def isSpace (c : Nat) : Bool := c == 32 || c == 9 || c == 10 || c == 13

def isDigit (c : Nat) : Bool := decide (48 ≤ c ∧ c ≤ 57)

def skipSpace (cs : Text) : Text := cs.dropWhile isSpace

def hexValue (c : Nat) : Option Nat :=
  if 48 ≤ c ∧ c ≤ 57 then some (c - 48)
  else if 97 ≤ c ∧ c ≤ 102 then some (c - 87)
  else if 65 ≤ c ∧ c ≤ 70 then some (c - 55)
  else none

def parseHex4 : Text → Option (Nat × Text)
  | a :: b :: c :: d :: rest => do
      let a ← hexValue a
      let b ← hexValue b
      let c ← hexValue c
      let d ← hexValue d
      some (a * 4096 + b * 256 + c * 16 + d, rest)
  | _ => none

def unescape (c : Nat) : Option Nat :=
  if c = 34 then some 34
  else if c = 92 then some 92
  else if c = 47 then some 47
  else if c = 98 then some 8
  else if c = 102 then some 12
  else if c = 110 then some 10
  else if c = 114 then some 13
  else if c = 116 then some 9
  else none

/-- One escape or one plain code point; a control character is refused. -/
def parseUnit : Text → Option (Nat × Text)
  | [] => none
  | c :: rest =>
      if c = 92 then
        match rest with
        | [] => none
        | e :: rest => if e = 117 then parseHex4 rest else (unescape e).map fun u => (u, rest)
      else if c < 32 then none
      else some (c, rest)

def parseUnits : Nat → Text → Option (Text × Text)
  | 0, _ => none
  | _ + 1, [] => none
  | n + 1, c :: rest =>
      if c = 34 then some ([], rest)
      else do
        let (u, rest) ← parseUnit (c :: rest)
        let (us, rest) ← parseUnits n rest
        some (u :: us, rest)

def isHigh (u : Nat) : Bool := decide (55296 ≤ u ∧ u < 56320)

def isLow (u : Nat) : Bool := decide (56320 ≤ u ∧ u < 57344)

/-- A high surrogate followed by a low one is one astral code point. -/
def joinSurrogates : Text → Text
  | [] => []
  | [u] => [u]
  | h :: l :: rest =>
      if isHigh h && isLow l then
        (65536 + (h - 55296) * 1024 + (l - 56320)) :: joinSurrogates rest
      else h :: joinSurrogates (l :: rest)

/-- The string after its opening quote, and the text after its closing one. -/
def parseString (cs : Text) : Option (Text × Text) :=
  (parseUnits (cs.length + 1) cs).map fun p => (joinSurrogates p.1, p.2)

/-- An integer.  What follows a fraction or an exponent mark is refused by the
caller, since no value may be followed by one. -/
def parseInt (cs : Text) : Option (Value × Text) :=
  let negative := cs.head? == some 45
  let digits := (if negative then cs.tail else cs).takeWhile isDigit
  let rest := (if negative then cs.tail else cs).dropWhile isDigit
  let magnitude := Nat.ofDigits 10 (digits.reverse.map (· - 48))
  if digits = [] ∨ (digits.head? = some 48 ∧ digits.length ≠ 1) ∨ maxIntDigits < digits.length then
    none
  else some (.int (if negative then -(magnitude : Int) else magnitude), rest)

def parseLiteral (cs : Text) : Option (Value × Text) :=
  if [110, 117, 108, 108] <+: cs then some (.null, cs.drop 4)
  else if [116, 114, 117, 101] <+: cs then some (.bool true, cs.drop 4)
  else if [102, 97, 108, 115, 101] <+: cs then some (.bool false, cs.drop 5)
  else none

mutual
def parseValue : Nat → Text → Option (Value × Text)
  | 0, _ => none
  | _ + 1, [] => none
  | n + 1, c :: rest =>
      if c = 34 then (parseString rest).map fun p => (.str p.1, p.2)
      else if c = 91 then
        match skipSpace rest with
        | 93 :: after => some (.arr [], after)
        | inside => do
            let (v, rest) ← parseValue n inside
            let (vs, rest) ← parseItems n rest
            some (.arr (v :: vs), rest)
      else if c = 123 then
        match skipSpace rest with
        | 125 :: after => some (.obj [], after)
        | inside => do
            let ((k, v), rest) ← parseMember n inside
            let (ms, rest) ← parseMembers n rest
            if (k :: ms.map Prod.fst).Nodup then some (.obj ((k, v) :: ms), rest) else none
      else if c = 110 ∨ c = 116 ∨ c = 102 then parseLiteral (c :: rest)
      else parseInt (c :: rest)
/-- The items after the first, through the closing bracket. -/
def parseItems : Nat → Text → Option (List Value × Text)
  | 0, _ => none
  | n + 1, cs =>
      match skipSpace cs with
      | 93 :: after => some ([], after)
      | 44 :: after => do
          let (v, rest) ← parseValue n (skipSpace after)
          let (vs, rest) ← parseItems n rest
          some (v :: vs, rest)
      | _ => none
/-- One `"key": value` member. -/
def parseMember : Nat → Text → Option ((Text × Value) × Text)
  | 0, _ => none
  | _ + 1, [] => none
  | n + 1, c :: rest =>
      if c = 34 then do
        let (k, rest) ← parseString rest
        match skipSpace rest with
        | 58 :: after => do
            let (v, rest) ← parseValue n (skipSpace after)
            some ((k, v), rest)
        | _ => none
      else none
/-- The members after the first, through the closing brace. -/
def parseMembers : Nat → Text → Option (List (Text × Value) × Text)
  | 0, _ => none
  | n + 1, cs =>
      match skipSpace cs with
      | 125 :: after => some ([], after)
      | 44 :: after => do
          let (m, rest) ← parseMember n (skipSpace after)
          let (ms, rest) ← parseMembers n rest
          some (m :: ms, rest)
      | _ => none
end

/-- `json.loads` of a text, refusing what the strict hooks refuse. -/
def loads (cs : Text) : Option Value :=
  match parseValue (cs.length + 1) (skipSpace cs) with
  | some (v, rest) => if skipSpace rest = [] then some v else none
  | none => none

/-- The value of a key of an object. -/
def lookup (key : Text) : List (Text × Value) → Option Value
  | [] => none
  | (k, v) :: rest => if k = key then some v else lookup key rest

end Inci.Theory.Json
