/-
# Theory.JsonRoundTrip -- the strict parser inverts the canonical writer

`parseValue_render` reads a rendered value back from the front of any text that
does not extend a number, with the length of the rendering as fuel; `loads_dumps`
follows for every `Readable` value: strings that survive the code units of their
escapes, integers within the conversion limit, objects without repeated keys.
What is read back is the value with its keys sorted, and writing that again gives
the same text.
-/
import Mathlib.Tactic.Ring
import Inci.Theory.Json

namespace Inci.Theory.Json

set_option autoImplicit false

/-! ## Numbers -/

/-- No digit follows, so the number before the text ends there. -/
def Ends (r : Text) : Prop := ∀ c ∈ r.head?, isDigit c = false

theorem ends_nil : Ends [] := by simp [Ends]

theorem ends_cons {c : Nat} {r : Text} (other : isDigit c = false) : Ends (c :: r) := by
  simpa [Ends] using other

theorem decimal_ne_nil (n : Nat) : decimal n ≠ [] := by
  unfold decimal
  by_cases zero : n = 0
  · simp [zero]
  · simpa [zero] using Nat.digits_ne_nil_iff_ne_zero.mpr zero

theorem decimal_digits (n : Nat) : ∀ c ∈ decimal n, isDigit c = true := by
  intro c member
  unfold decimal at member
  by_cases zero : n = 0
  · simp [zero] at member
    simp [member, isDigit]
  · simp only [zero, if_false, List.mem_map, List.mem_reverse] at member
    obtain ⟨d, digit, rfl⟩ := member
    have small : d < 10 := Nat.digits_lt_base (by norm_num) digit
    simp only [isDigit, decide_eq_true_eq]
    omega

theorem decimal_value (n : Nat) :
    Nat.ofDigits (10 : Int) ((decimal n).reverse.map (· - 48)) = n := by
  have natural : Nat.ofDigits 10 ((decimal n).reverse.map (· - 48)) = n := by
    unfold decimal
    by_cases zero : n = 0
    · simp [zero]
    · simp [zero, ← List.map_reverse, Function.comp_def, Nat.ofDigits_digits]
  have cast := Nat.coe_ofDigits Int 10 ((decimal n).reverse.map (· - 48))
  rw [natural] at cast
  exact cast.symm

/-- Only zero is written with a leading zero. -/
theorem decimal_leading (n : Nat) (leading : (decimal n).head? = some 48) :
    (decimal n).length = 1 := by
  unfold decimal at leading ⊢
  by_cases zero : n = 0
  · simp [zero]
  · exfalso
    have nonempty : Nat.digits 10 n ≠ [] := Nat.digits_ne_nil_iff_ne_zero.mpr zero
    have last := Nat.getLast_digit_ne_zero 10 zero
    rw [if_neg zero, List.head?_map, List.head?_reverse,
      List.getLast?_eq_some_getLast nonempty] at leading
    simp only [Option.map_some, Option.some.injEq] at leading
    omega

theorem span_digits {ds r : Text} (digits : ∀ c ∈ ds, isDigit c = true) (ends : Ends r) :
    (ds ++ r).takeWhile isDigit = ds ∧ (ds ++ r).dropWhile isDigit = r := by
  induction ds with
  | nil =>
      cases r with
      | nil => simp
      | cons c rest => simp [ends c (by simp)]
  | cons d ds ih =>
      have rest := ih fun c member => digits c (List.mem_cons_of_mem d member)
      simp [digits d List.mem_cons_self, rest]

theorem parseInt_integer (n : Int) {r : Text} (fits : (decimal n.natAbs).length ≤ maxIntDigits)
    (ends : Ends r) : parseInt (integer n ++ r) = some (.int n, r) := by
  have spans := fun m => span_digits (decimal_digits m) ends
  have leading : ∀ m, ¬((decimal m).head? = some 48 ∧ (decimal m).length ≠ 1) :=
    fun m bad => bad.2 (decimal_leading m bad.1)
  have small : ¬maxIntDigits < (decimal n.natAbs).length := Nat.not_lt.mpr fits
  cases n with
  | ofNat m =>
      have positive : ((decimal m ++ r).head? == some 45) = false := by
        obtain ⟨d, ds, shape⟩ := List.exists_cons_of_ne_nil (decimal_ne_nil m)
        have digit := decimal_digits m d (by simp [shape])
        simp only [isDigit, decide_eq_true_eq] at digit
        simp only [shape, List.cons_append, List.head?_cons, beq_eq_false_iff_ne]
        intro same
        cases same
        omega
      have small : ¬maxIntDigits < (decimal m).length := small
      simp only [parseInt, integer, positive, Bool.false_eq_true, if_false, (spans m).1,
        (spans m).2, decimal_value, decimal_ne_nil, false_or, leading, small]
      rfl
  | negSucc m =>
      have small : ¬maxIntDigits < (decimal (m + 1)).length := small
      simp only [parseInt, integer, List.cons_append, List.head?_cons, beq_self_eq_true, if_true,
        List.tail_cons, (spans (m + 1)).1, (spans (m + 1)).2, decimal_value, decimal_ne_nil,
        false_or, leading, small, if_false]
      rfl

/-! ## Strings -/

theorem hexValue_hexDigit : ∀ d < 16, hexValue (hexDigit d) = some d := by decide

theorem parseHex4_hex4 {n : Nat} (small : n < 65536) (r : Text) :
    parseHex4 (hex4 n ++ r) = some (n, r) := by
  have nibble : ∀ m, m % 16 < 16 := fun m => Nat.mod_lt m (by norm_num)
  simp only [hex4, List.cons_append, List.nil_append, parseHex4, hexValue_hexDigit _ (nibble _),
    Option.bind_eq_bind, Option.bind_some, Option.some.injEq, Prod.mk.injEq, and_true]
  omega

theorem parseUnit_unicodeEscape {n : Nat} (small : n < 65536) (r : Text) :
    parseUnit (unicodeEscape n ++ r) = some (n, r) := by
  simp [unicodeEscape, parseUnit, parseHex4_hex4 small]

/-- The code units that the escape of a code point is read as. -/
def units (c : Nat) : Text :=
  if c < 65536 then [c] else [55296 + (c - 65536) / 1024, 56320 + (c - 65536) % 1024]

theorem escapePoint_astral {c : Nat} (astral : ¬c < 65536) :
    escapePoint c = unicodeEscape (55296 + (c - 65536) / 1024) ++
      unicodeEscape (56320 + (c - 65536) % 1024) := by
  unfold escapePoint
  iterate 9 rw [if_neg (by omega)]

theorem parseUnit_escapePoint {c : Nat} (low : c < 65536) (r : Text) :
    parseUnit (escapePoint c ++ r) = some (c, r) := by
  unfold escapePoint
  by_cases quotation : c = 34
  · subst quotation
    simp [parseUnit, unescape]
  by_cases backslash : c = 92
  · subst backslash
    simp [parseUnit, unescape]
  rw [if_neg quotation, if_neg backslash]
  by_cases plain : 32 ≤ c ∧ c ≤ 126
  · have visible : ¬c < 32 := by omega
    simp [plain, parseUnit, backslash, visible]
  rw [if_neg plain]
  by_cases control : c = 8 ∨ c = 9 ∨ c = 10 ∨ c = 12 ∨ c = 13
  · rcases control with rfl | rfl | rfl | rfl | rfl <;> simp [parseUnit, unescape]
  · simp only [not_or] at control
    obtain ⟨h8, h9, h10, h12, h13⟩ := control
    rw [if_neg h8, if_neg h9, if_neg h10, if_neg h12, if_neg h13, if_pos low,
      parseUnit_unicodeEscape low]

/-- An escape does not open with a quotation mark. -/
theorem escapePoint_head (c : Nat) : ∃ d ds, escapePoint c = d :: ds ∧ d ≠ 34 := by
  unfold escapePoint unicodeEscape
  repeat' split
  all_goals exact ⟨_, _, rfl, by omega⟩

theorem parseUnits_unit {n u : Nat} {cs r us rest : Text} (head : ∀ c ∈ cs.head?, c ≠ 34)
    (unit : parseUnit cs = some (u, r)) (tail : parseUnits n r = some (us, rest)) :
    parseUnits (n + 1) cs = some (u :: us, rest) := by
  cases cs with
  | nil => simp [parseUnit] at unit
  | cons c after =>
      rw [parseUnits, if_neg (head c rfl), unit]
      simp [tail]

theorem parseUnits_escapePoint {c n : Nat} (point : c < 1114112) {r us rest : Text}
    (tail : parseUnits n r = some (us, rest)) :
    parseUnits (n + (units c).length) (escapePoint c ++ r) = some (units c ++ us, rest) := by
  obtain ⟨d, ds, shape, unquoted⟩ := escapePoint_head c
  have head : ∀ e ∈ (escapePoint c ++ r).head?, e ≠ 34 := by
    rw [shape]
    intro e here
    cases here
    exact unquoted
  by_cases low : c < 65536
  · have one : units c = [c] := if_pos low
    rw [one]
    exact parseUnits_unit head (parseUnit_escapePoint low r) tail
  · have two : units c = [55296 + (c - 65536) / 1024, 56320 + (c - 65536) % 1024] := if_neg low
    rw [two]
    rw [escapePoint_astral low, List.append_assoc] at head ⊢
    refine parseUnits_unit head (parseUnit_unicodeEscape (by omega) _)
      (parseUnits_unit ?_ (parseUnit_unicodeEscape (by omega) r) tail)
    intro e here
    cases here
    decide

/-- What the escapes of a string are read as, before surrogates are joined. -/
theorem parseUnits_string {s : Text} (points : ∀ c ∈ s, c < 1114112) (r : Text) (k : Nat) :
    parseUnits (k + (s.flatMap units).length + 1) (s.flatMap escapePoint ++ 34 :: r) =
      some (s.flatMap units, r) := by
  induction s with
  | nil => simp [parseUnits]
  | cons c rest ih =>
      have tail := ih fun d member => points d (List.mem_cons_of_mem c member)
      have whole := parseUnits_escapePoint (points c List.mem_cons_self) tail
      rw [List.flatMap_cons, List.flatMap_cons, List.append_assoc, List.length_append]
      convert whole using 2
      ring

theorem units_le_escapePoint (c : Nat) : (units c).length ≤ (escapePoint c).length := by
  obtain ⟨d, ds, shape, -⟩ := escapePoint_head c
  by_cases low : c < 65536
  · rw [units, if_pos low, shape]
    simp
  · rw [units, if_neg low, escapePoint_astral low]
    simp [unicodeEscape, hex4]

theorem units_le_escaped (s : Text) :
    (s.flatMap units).length ≤ (s.flatMap escapePoint).length := by
  induction s with
  | nil => simp
  | cons c rest ih =>
      rw [List.flatMap_cons, List.flatMap_cons, List.length_append, List.length_append]
      have first := units_le_escapePoint c
      omega

/-- A string that survives being written and read: its code units join to itself.  A high
surrogate directly before a low one does not, since the two are read as one point. -/
structure Survives (s : Text) : Prop where
  points : ∀ c ∈ s, c < 1114112
  joined : joinSurrogates (s.flatMap units) = s

theorem parseString_quote {s : Text} (survives : Survives s) (r : Text) :
    parseString (s.flatMap escapePoint ++ 34 :: r) = some (s, r) := by
  have room := units_le_escaped s
  have read := parseUnits_string survives.points r
    ((s.flatMap escapePoint ++ 34 :: r).length - (s.flatMap units).length)
  have fuel : (s.flatMap escapePoint ++ 34 :: r).length - (s.flatMap units).length +
      (s.flatMap units).length + 1 = (s.flatMap escapePoint ++ 34 :: r).length + 1 := by
    rw [Nat.sub_add_cancel]
    rw [List.length_append]
    omega
  rw [fuel] at read
  rw [parseString, read]
  simp [survives.joined]

/-! ## Values -/

mutual
/-- A value that the strict parser reads back from its rendering. -/
def Readable : Value → Prop
  | .int n => (decimal n.natAbs).length ≤ maxIntDigits
  | .str s => Survives s
  | .arr items => ReadableItems items
  | .obj members => (members.map Prod.fst).Nodup ∧ ReadableMembers members
  | _ => True
def ReadableItems : List Value → Prop
  | [] => True
  | v :: rest => Readable v ∧ ReadableItems rest
def ReadableMembers : List (Text × Value) → Prop
  | [] => True
  | (k, v) :: rest => Survives k ∧ Readable v ∧ ReadableMembers rest
end

theorem readableItems_iff (items : List Value) : ReadableItems items ↔ ∀ v ∈ items, Readable v := by
  induction items with
  | nil => simp [ReadableItems]
  | cons v rest ih => simp [ReadableItems, ih]

theorem readableMembers_iff (members : List (Text × Value)) :
    ReadableMembers members ↔ ∀ m ∈ members, Survives m.1 ∧ Readable m.2 := by
  induction members with
  | nil => simp [ReadableMembers]
  | cons m rest ih =>
      obtain ⟨k, v⟩ := m
      simp [ReadableMembers, ih, and_assoc]

/-- What opens a rendered value: no space and no closing bracket. -/
def Opens (c : Nat) : Prop := isSpace c = false ∧ c ≠ 93 ∧ c ≠ 125

theorem opens_digit {c : Nat} (digit : isDigit c = true) : Opens c := by
  simp only [isDigit, decide_eq_true_eq] at digit
  refine ⟨?_, by omega, by omega⟩
  simp only [isSpace, Bool.or_eq_false_iff, beq_eq_false_iff_ne]
  omega

theorem render_head (v : Value) : ∃ c cs, render v = c :: cs ∧ Opens c := by
  have opens : ∀ c ∈ [110, 116, 102, 34, 91, 123, 45], Opens c := by
    unfold Opens
    decide
  cases v with
  | null => exact ⟨_, _, by rw [render], opens 110 (by decide)⟩
  | bool b =>
      cases b with
      | true => exact ⟨_, _, by rw [render], opens 116 (by decide)⟩
      | false => exact ⟨_, _, by rw [render], opens 102 (by decide)⟩
  | int n =>
      rw [render]
      cases n with
      | ofNat m =>
          obtain ⟨d, ds, shape⟩ := List.exists_cons_of_ne_nil (decimal_ne_nil m)
          exact ⟨d, ds, shape, opens_digit (decimal_digits m d (by simp [shape]))⟩
      | negSucc m => exact ⟨_, _, rfl, opens 45 (by decide)⟩
  | str s => exact ⟨_, _, by rw [render, quote], opens 34 (by decide)⟩
  | arr items =>
      cases items with
      | nil => exact ⟨_, _, by rw [render], opens 91 (by decide)⟩
      | cons v rest => exact ⟨_, _, by rw [render], opens 91 (by decide)⟩
  | obj members =>
      cases members with
      | nil => exact ⟨_, _, by rw [render], opens 123 (by decide)⟩
      | cons m rest => exact ⟨_, _, by rw [render], opens 123 (by decide)⟩

theorem skipSpace_opens {c : Nat} {r : Text} (opens : isSpace c = false) :
    skipSpace (c :: r) = c :: r := by simp [skipSpace, opens]

theorem skipSpace_render (v : Value) (r : Text) : skipSpace (render v ++ r) = render v ++ r := by
  obtain ⟨c, cs, shape, opens⟩ := render_head v
  rw [shape, List.cons_append, skipSpace_opens opens.1]

theorem ends_items (items : List Value) (r : Text) : Ends (renderItems items ++ r) := by
  cases items with
  | nil => exact ends_cons (by decide)
  | cons v rest => exact ends_cons (by decide)

theorem ends_members (members : List (Text × Value)) (r : Text) :
    Ends (renderMembers members ++ r) := by
  cases members with
  | nil => exact ends_cons (by decide)
  | cons m rest => exact ends_cons (by decide)

/-- A member is read when its value is. -/
theorem parseMember_render {k : Text} {v : Value} {n : Nat} {r : Text} (survives : Survives k)
    (value : parseValue n (render v ++ r) = some (v, r)) :
    parseMember (n + 1) (quote k ++ 58 :: (render v ++ r)) = some ((k, v), r) := by
  have colon : skipSpace (58 :: (render v ++ r)) = 58 :: (render v ++ r) :=
    skipSpace_opens (by decide)
  rw [quote, List.cons_append, List.append_assoc, List.singleton_append, parseMember]
  simp only [if_true, parseString_quote survives, Option.bind_eq_bind, Option.bind_some, colon,
    skipSpace_render, value]

/-- A number opens with a digit or a minus sign, so the parser takes it for one. -/
theorem parseValue_integer (k : Int) (n : Nat) (r : Text) :
    parseValue (n + 1) (integer k ++ r) = parseInt (integer k ++ r) := by
  obtain ⟨c, cs, shape, number⟩ : ∃ c cs, integer k = c :: cs ∧ (isDigit c = true ∨ c = 45) := by
    cases k with
    | ofNat m =>
        obtain ⟨d, ds, shape⟩ := List.exists_cons_of_ne_nil (decimal_ne_nil m)
        exact ⟨d, ds, shape, Or.inl (decimal_digits m d (by simp [shape]))⟩
    | negSucc m => exact ⟨_, _, rfl, Or.inr rfl⟩
  have range : 45 ≤ c ∧ c ≤ 57 := by
    rcases number with digit | rfl
    · simp only [isDigit, decide_eq_true_eq] at digit
      omega
    · decide
  rw [shape, List.cons_append, parseValue, if_neg (by omega), if_neg (by omega),
    if_neg (by omega), if_neg (by omega)]

mutual
theorem parseValue_render : ∀ (v : Value) {n : Nat} {r : Text}, Readable v → Ends r →
    (render v).length < n → parseValue n (render v ++ r) = some (v, r)
  | .null, n + 1, r, _, _, _ => by simp [render, parseValue, parseLiteral]
  | .bool true, n + 1, r, _, _, _ => by simp [render, parseValue, parseLiteral]
  | .bool false, n + 1, r, _, _, _ => by simp [render, parseValue, parseLiteral]
  | .int k, n + 1, r, readable, ends, _ => by
      rw [render, parseValue_integer]
      exact parseInt_integer k readable ends
  | .str s, n + 1, r, readable, _, _ => by
      rw [render, quote, List.cons_append, List.append_assoc, List.singleton_append, parseValue]
      simp only [if_true, parseString_quote readable, Option.map_some]
  | .arr [], n + 1, r, _, _, _ => by
      simp [render, parseValue, skipSpace, isSpace]
  | .arr (v :: rest), n + 1, r, readable, _, fuel => by
      simp only [Readable, ReadableItems] at readable
      simp only [render, List.length_cons, List.length_append] at fuel
      have first := parseValue_render v (n := n) readable.1 (ends_items rest r) (by omega)
      have others := parseItems_render rest (n := n) (r := r) readable.2 (by omega)
      obtain ⟨c, cs, shape, opens⟩ := render_head v
      have start := skipSpace_render v (renderItems rest ++ r)
      rw [shape, List.cons_append] at start first
      simp only [render, shape, List.cons_append, List.append_assoc, parseValue]
      rw [if_neg (by decide), if_pos trivial, start]
      split
      · rename_i bracket
        exact absurd (List.cons.inj bracket).1 opens.2.1
      · simp [first, others]
  | .obj [], n + 1, r, _, _, _ => by
      simp [render, parseValue, skipSpace, isSpace]
  | .obj ((k, v) :: rest), n + 1, r, readable, _, fuel => by
      simp only [Readable, ReadableMembers] at readable
      simp only [render, List.length_cons, List.length_append] at fuel
      obtain ⟨distinct, survives, value, others⟩ := readable
      obtain ⟨m, rfl⟩ : ∃ m, n = m + 1 := ⟨n - 1, by omega⟩
      have inner := parseValue_render v (n := m) value (ends_members rest r) (by omega)
      have first := parseMember_render survives inner
      have later := parseMembers_render rest (n := m + 1) (r := r) others (by omega)
      have quoted : quote k = 34 :: (k.flatMap escapePoint ++ [34]) := rfl
      simp only [render, List.cons_append, List.append_assoc, parseValue]
      rw [if_neg (by decide), if_neg (by decide), if_pos trivial]
      rw [quoted, List.cons_append] at first ⊢
      rw [skipSpace_opens (by decide)]
      simp only [first, later, Option.bind_eq_bind, Option.bind_some]
      rw [if_pos (by simpa using distinct)]
theorem parseItems_render : ∀ (items : List Value) {n : Nat} {r : Text}, ReadableItems items →
    (renderItems items).length < n → parseItems n (renderItems items ++ r) = some (items, r)
  | [], n + 1, r, _, _ => by
      simp [renderItems, parseItems, skipSpace, isSpace]
  | v :: rest, n + 1, r, readable, fuel => by
      simp only [ReadableItems] at readable
      simp only [renderItems, List.length_cons, List.length_append] at fuel
      have first := parseValue_render v (n := n) readable.1 (ends_items rest r) (by omega)
      have others := parseItems_render rest (n := n) (r := r) readable.2 (by omega)
      simp only [renderItems, List.cons_append, List.append_assoc, parseItems]
      rw [skipSpace_opens (by decide)]
      simp [skipSpace_render, first, others]
theorem parseMembers_render : ∀ (members : List (Text × Value)) {n : Nat} {r : Text},
    ReadableMembers members → (renderMembers members).length < n →
      parseMembers n (renderMembers members ++ r) = some (members, r)
  | [], n + 1, r, _, _ => by
      simp [renderMembers, parseMembers, skipSpace, isSpace]
  | (k, v) :: rest, n + 1, r, readable, fuel => by
      simp only [ReadableMembers] at readable
      simp only [renderMembers, List.length_cons, List.length_append] at fuel
      obtain ⟨survives, value, others⟩ := readable
      obtain ⟨m, rfl⟩ : ∃ m, n = m + 1 := ⟨n - 1, by omega⟩
      have inner := parseValue_render v (n := m) value (ends_members rest r) (by omega)
      have first := parseMember_render survives inner
      have later := parseMembers_render rest (n := m + 1) (r := r) others (by omega)
      have quoted : quote k = 34 :: (k.flatMap escapePoint ++ [34]) := rfl
      simp only [renderMembers, List.cons_append, List.append_assoc]
      rw [parseMembers, skipSpace_opens (by decide)]
      rw [quoted, List.cons_append] at first ⊢
      simp only [skipSpace_opens (show isSpace 34 = false by decide), first, later,
        Option.bind_eq_bind, Option.bind_some]
end

/-- Reading what was written gives the value back. -/
theorem loads_render {v : Value} (readable : Readable v) : loads (render v) = some v := by
  have start := skipSpace_render v []
  have read := parseValue_render v (n := (render v).length + 1) readable ends_nil
    (Nat.lt_succ_self _)
  rw [List.append_nil] at start read
  rw [loads, start, read]
  rfl

/-! ## Sorted keys -/

mutual
theorem readable_sortKeys : ∀ v : Value, Readable v → Readable (sortKeys v)
  | .null, readable => readable
  | .bool _, readable => readable
  | .int _, readable => readable
  | .str _, readable => readable
  | .arr items, readable => by
      simp only [sortKeys, Readable] at readable ⊢
      exact readable_sortItems items readable
  | .obj members, readable => by
      simp only [sortKeys, Readable] at readable ⊢
      have perm := List.mergeSort_perm (sortMembers members) keyLe
      obtain ⟨keys, inner⟩ := readable_sortMembers members readable.2
      refine ⟨?_, ?_⟩
      · rw [(perm.map Prod.fst).nodup_iff, keys]
        exact readable.1
      · rw [readableMembers_iff] at inner ⊢
        exact fun m member => inner m (perm.mem_iff.mp member)
theorem readable_sortItems : ∀ items : List Value, ReadableItems items →
    ReadableItems (sortItems items)
  | [], readable => readable
  | v :: rest, readable => by
      simp only [sortItems, ReadableItems] at readable ⊢
      exact ⟨readable_sortKeys v readable.1, readable_sortItems rest readable.2⟩
theorem readable_sortMembers : ∀ members : List (Text × Value), ReadableMembers members →
    (sortMembers members).map Prod.fst = members.map Prod.fst ∧
      ReadableMembers (sortMembers members)
  | [], readable => ⟨rfl, readable⟩
  | (k, v) :: rest, readable => by
      simp only [sortMembers, ReadableMembers, List.map_cons] at readable ⊢
      obtain ⟨keys, inner⟩ := readable_sortMembers rest readable.2.2
      exact ⟨by rw [keys], readable.1, readable_sortKeys v readable.2.1, inner⟩
end

theorem sortMembers_eq_map (members : List (Text × Value)) :
    sortMembers members = members.map fun m => (m.1, sortKeys m.2) := by
  induction members with
  | nil => rfl
  | cons m rest ih =>
      obtain ⟨k, v⟩ := m
      rw [sortMembers, ih, List.map_cons]

theorem sortItems_eq_map (items : List Value) : sortItems items = items.map sortKeys := by
  induction items with
  | nil => rfl
  | cons v rest ih => rw [sortItems, ih, List.map_cons]

theorem keyLe_trans (a b c : Text × Value) (first : keyLe a b = true) (second : keyLe b c = true) :
    keyLe a c = true := by
  simp only [keyLe, decide_eq_true_eq] at first second ⊢
  exact le_trans first second

theorem keyLe_total (a b : Text × Value) : (keyLe a b || keyLe b a) = true := by
  simp only [keyLe, Bool.or_eq_true, decide_eq_true_eq]
  exact le_total a.1 b.1

/-- Sorting and the work on the values commute. -/
theorem sortMembers_mergeSort (members : List (Text × Value)) :
    sortMembers (members.mergeSort keyLe) = (sortMembers members).mergeSort keyLe := by
  rw [sortMembers_eq_map, sortMembers_eq_map]
  exact List.map_mergeSort fun a _ b _ => rfl

mutual
/-- Sorting the keys twice is sorting them once. -/
theorem sortKeys_sortKeys : ∀ v : Value, sortKeys (sortKeys v) = sortKeys v
  | .null => rfl
  | .bool _ => rfl
  | .int _ => rfl
  | .str _ => rfl
  | .arr items => by
      rw [sortKeys, sortKeys, sortItems_sortItems items]
  | .obj members => by
      rw [sortKeys, sortKeys, sortMembers_mergeSort, sortMembers_sortMembers members]
      rw [List.mergeSort_of_pairwise (List.pairwise_mergeSort keyLe_trans keyLe_total _)]
theorem sortItems_sortItems : ∀ items : List Value, sortItems (sortItems items) = sortItems items
  | [] => rfl
  | v :: rest => by
      rw [sortItems, sortItems, sortKeys_sortKeys v, sortItems_sortItems rest]
theorem sortMembers_sortMembers : ∀ members : List (Text × Value),
    sortMembers (sortMembers members) = sortMembers members
  | [] => rfl
  | (k, v) :: rest => by
      rw [sortMembers, sortMembers, sortKeys_sortKeys v, sortMembers_sortMembers rest]
end

mutual
theorem printable_readable : ∀ v : Value, Readable v → printable v = true
  | .null, _ => rfl
  | .bool _, _ => rfl
  | .int _, readable => decide_eq_true readable
  | .str _, _ => rfl
  | .arr items, readable => printableItems_readable items readable
  | .obj members, readable => printableMembers_readable members readable.2
theorem printableItems_readable : ∀ items : List Value, ReadableItems items →
    printableItems items = true
  | [], _ => rfl
  | v :: rest, readable => by
      rw [printableItems, printable_readable v readable.1, printableItems_readable rest readable.2]
      rfl
theorem printableMembers_readable : ∀ members : List (Text × Value), ReadableMembers members →
    printableMembers members = true
  | [], _ => rfl
  | (_, v) :: rest, readable => by
      rw [printableMembers, printable_readable v readable.2.1,
        printableMembers_readable rest readable.2.2]
      rfl
end

/-- A readable value is written. -/
theorem dumps_readable {v : Value} (readable : Readable v) :
    dumps v = some (render (sortKeys v)) := if_pos (printable_readable v readable)

/-- Writing what was read back gives the same text. -/
theorem dumps_sortKeys {v : Value} (readable : Readable v) : dumps (sortKeys v) = dumps v := by
  rw [dumps_readable readable, dumps_readable (readable_sortKeys v readable), sortKeys_sortKeys]

/-- A written value is read back with its keys sorted. -/
theorem loads_dumps {v : Value} (readable : Readable v) {written : Text}
    (dumped : dumps v = some written) : loads written = some (sortKeys v) := by
  unfold dumps at dumped
  by_cases fits : printable v = true
  · rw [if_pos fits] at dumped
    cases dumped
    exact loads_render (readable_sortKeys v readable)
  · rw [if_neg fits] at dumped
    exact nomatch dumped

/-- Two readable values of one text differ in the order of their keys only. -/
theorem dumps_injective {v w : Value} (first : Readable v) (second : Readable w)
    (same : dumps v = dumps w) : sortKeys v = sortKeys w := by
  have written := dumps_readable first
  have back := loads_dumps first written
  rw [loads_dumps second (same ▸ written)] at back
  exact (Option.some.inj back).symm

/-! ## Keys -/

theorem lookup_isSome {key : Text} {members : List (Text × Value)} :
    (lookup key members).isSome = true ↔ key ∈ members.map Prod.fst := by
  induction members with
  | nil => simp [lookup]
  | cons m rest ih =>
      obtain ⟨k, v⟩ := m
      by_cases here : k = key
      · simp [lookup, here]
      · simpa [lookup, here, Ne.symm here] using ih

theorem lookup_of_mem {key : Text} {v : Value} {members : List (Text × Value)}
    (distinct : (members.map Prod.fst).Nodup) (member : (key, v) ∈ members) :
    lookup key members = some v := by
  induction members with
  | nil => exact absurd member List.not_mem_nil
  | cons m rest ih =>
      obtain ⟨k, w⟩ := m
      obtain ⟨fresh, distinct⟩ := List.nodup_cons.mp distinct
      rcases List.mem_cons.mp member with here | later
      · cases here
        exact if_pos rfl
      · have other : k ≠ key := by
          rintro rfl
          exact fresh (List.mem_map.mpr ⟨(k, v), later, rfl⟩)
        rw [lookup, if_neg other]
        exact ih distinct later

theorem mem_of_lookup {key : Text} {v : Value} {members : List (Text × Value)}
    (found : lookup key members = some v) : (key, v) ∈ members := by
  induction members with
  | nil => exact nomatch found
  | cons m rest ih =>
      obtain ⟨k, w⟩ := m
      by_cases here : k = key
      · rw [lookup, if_pos here] at found
        cases here
        cases found
        exact List.mem_cons_self
      · rw [lookup, if_neg here] at found
        exact List.mem_cons_of_mem _ (ih found)

/-- A key is found in any order of the same members. -/
theorem lookup_perm {key : Text} {one other : List (Text × Value)}
    (distinct : (one.map Prod.fst).Nodup) (perm : List.Perm one other) :
    lookup key other = lookup key one := by
  have distinct' : (other.map Prod.fst).Nodup := ((perm.map Prod.fst).nodup_iff).mp distinct
  cases found : lookup key one with
  | some v => exact lookup_of_mem distinct' (perm.mem_iff.mp (mem_of_lookup found))
  | none =>
      cases found' : lookup key other with
      | none => rfl
      | some v =>
          rw [lookup_of_mem distinct (perm.mem_iff.mpr (mem_of_lookup found'))] at found
          exact nomatch found

end Inci.Theory.Json
