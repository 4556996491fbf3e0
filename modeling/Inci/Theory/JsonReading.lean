/-
# Theory.JsonReading -- what the strict parser answers can be written and read again

The strings of a parsed value are joined: a high surrogate never stands directly
before a low one, since the two were read as one point.  Its integers have no more
digits than the text had, and its objects repeat no key.  So every answer of
`loads` over a text of code points is `Readable` (`loads_readable`), and
`loads_dumps` takes it through its canonical text.
-/
import Inci.Theory.Utf8

namespace Inci.Theory.Json

set_option autoImplicit false

/-- Every point of the text is a code point. -/
def Points (cs : Text) : Prop := ∀ c ∈ cs, c < 1114112

theorem points_cons {c : Nat} {cs : Text} : Points (c :: cs) ↔ c < 1114112 ∧ Points cs := by
  simp [Points]

theorem Points.suffix {cs rest : Text} (points : Points cs) (tail : rest <:+ cs) : Points rest :=
  fun c inside => points c (tail.subset inside)

theorem Points.skipSpace {cs : Text} (points : Points cs) : Points (skipSpace cs) :=
  points.suffix (List.dropWhile_suffix _)

/-! ## Joined strings -/

/-- No high surrogate stands directly before a low one. -/
def Joined : Text → Prop
  | c :: d :: rest => (isHigh c && isLow d) = false ∧ Joined (d :: rest)
  | _ => True

theorem isLow_astral {n : Nat} (astral : ¬n < 65536) : isLow n = false := by
  simp only [isLow, decide_eq_false_iff_not]
  omega

theorem isHigh_astral {n : Nat} (astral : ¬n < 65536) : isHigh n = false := by
  simp only [isHigh, decide_eq_false_iff_not]
  omega

/-- The first point of a joined text was first, or is astral. -/
theorem joinSurrogates_head {u : Nat} {us : Text} {d : Nat} {ds : Text}
    (shape : joinSurrogates (u :: us) = d :: ds) : d = u ∨ ¬d < 65536 := by
  cases us with
  | nil =>
      rw [joinSurrogates] at shape
      exact .inl (List.cons.inj shape).1.symm
  | cons l rest =>
      rw [joinSurrogates] at shape
      by_cases pair : (isHigh u && isLow l) = true
      · rw [if_pos pair] at shape
        refine .inr ?_
        rw [← (List.cons.inj shape).1]
        omega
      · rw [if_neg pair] at shape
        exact .inl (List.cons.inj shape).1.symm

theorem joined_joinSurrogates (us : Text) : Joined (joinSurrogates us) := by
  induction us using joinSurrogates.induct with
  | case1 => trivial
  | case2 u => trivial
  | case3 h l rest pair ih =>
      rw [joinSurrogates, if_pos pair]
      cases tail : joinSurrogates rest with
      | nil => trivial
      | cons d ds =>
          rw [tail] at ih
          exact ⟨by rw [isHigh_astral (by omega), Bool.false_and], ih⟩
  | case4 h l rest pair ih =>
      rw [joinSurrogates, if_neg pair]
      cases tail : joinSurrogates (l :: rest) with
      | nil => trivial
      | cons d ds =>
          rw [tail] at ih
          refine ⟨?_, ih⟩
          rcases joinSurrogates_head tail with rfl | astral
          · exact Bool.eq_false_iff.mpr pair
          · rw [isLow_astral astral, Bool.and_false]

theorem points_joinSurrogates {us : Text} (points : Points us) : Points (joinSurrogates us) := by
  induction us using joinSurrogates.induct with
  | case1 => exact points
  | case2 u => exact points
  | case3 h l rest pair ih =>
      rw [joinSurrogates, if_pos pair]
      obtain ⟨-, -, after⟩ := (points_cons.trans (and_congr_right' points_cons)).mp points
      simp only [isHigh, isLow, Bool.and_eq_true, decide_eq_true_eq] at pair
      exact points_cons.mpr ⟨by omega, ih after⟩
  | case4 h l rest pair ih =>
      rw [joinSurrogates, if_neg pair]
      obtain ⟨first, after⟩ := points_cons.mp points
      exact points_cons.mpr ⟨first, ih after⟩

/-- The first code unit of a point is low only where the point is. -/
theorem units_head (c : Nat) (point : c < 1114112) :
    ∃ u us, units c = u :: us ∧ (isLow c = false → isLow u = false) := by
  by_cases low : c < 65536
  · exact ⟨c, [], if_pos low, fun other => other⟩
  · refine ⟨_, _, if_neg low, fun _ => ?_⟩
    simp only [isLow, decide_eq_false_iff_not]
    omega

/-- The two code units of an astral point are read as that point. -/
theorem joinSurrogates_astral {c : Nat} (astral : ¬c < 65536) (point : c < 1114112) (rest : Text) :
    joinSurrogates (units c ++ rest) = c :: joinSurrogates rest := by
  have pair : (isHigh (55296 + (c - 65536) / 1024) && isLow (56320 + (c - 65536) % 1024)) = true := by
    simp only [isHigh, isLow, Bool.and_eq_true, decide_eq_true_eq]
    omega
  have whole : 65536 + (55296 + (c - 65536) / 1024 - 55296) * 1024 +
      (56320 + (c - 65536) % 1024 - 56320) = c := by omega
  rw [units, if_neg astral, List.cons_append, List.cons_append, List.nil_append, joinSurrogates,
    if_pos pair, whole]

theorem joined_survives {s : Text} (points : Points s) (joined : Joined s) : Survives s := by
  refine ⟨points, ?_⟩
  induction s with
  | nil => rfl
  | cons c rest ih =>
      obtain ⟨point, others⟩ := points_cons.mp points
      rw [List.flatMap_cons]
      by_cases low : c < 65536
      · rw [units, if_pos low, List.singleton_append]
        cases rest with
        | nil => rfl
        | cons d rest =>
            obtain ⟨apart, tail⟩ := joined
            obtain ⟨u, us, shape, first⟩ := units_head d (points_cons.mp others).1
            have again := ih others tail
            rw [List.flatMap_cons, shape, List.cons_append] at again ⊢
            have apart : ¬(isHigh c && isLow u) = true := by
              rcases Bool.and_eq_false_iff.mp apart with other | other
              · simp [other]
              · simp [first other]
            rw [joinSurrogates, if_neg apart, again]
      · rw [joinSurrogates_astral low point]
        congr 1
        refine ih others ?_
        cases rest with
        | nil => trivial
        | cons d rest => exact joined.2

theorem joinSurrogates_survives {us : Text} (points : Points us) : Survives (joinSurrogates us) :=
  joined_survives (points_joinSurrogates points) (joined_joinSurrogates us)

/-! ## Strings -/

theorem hexValue_small {c d : Nat} (read : hexValue c = some d) : d < 16 := by
  unfold hexValue at read
  split at read
  · cases read
    omega
  · split at read
    · cases read
      omega
    · split at read
      · cases read
        omega
      · exact nomatch read

theorem parseHex4_spec {cs rest : Text} {n : Nat} (read : parseHex4 cs = some (n, rest)) :
    n < 65536 ∧ rest <:+ cs := by
  unfold parseHex4 at read
  split at read
  · rename_i a b c d tail
    simp only [Option.bind_eq_bind, Option.bind_eq_some_iff, Option.some.injEq,
      Prod.mk.injEq] at read
    obtain ⟨w, first, x, second, y, third, z, fourth, rfl, rfl⟩ := read
    have := hexValue_small first
    have := hexValue_small second
    have := hexValue_small third
    have := hexValue_small fourth
    exact ⟨by omega, [a, b, c, d], rfl⟩
  · exact nomatch read

theorem unescape_small {c d : Nat} (read : unescape c = some d) : d < 128 := by
  unfold unescape at read
  iterate 8
    split at read
    · cases read
      decide
  exact nomatch read

theorem parseUnit_spec {cs rest : Text} {u : Nat} (points : Points cs)
    (read : parseUnit cs = some (u, rest)) : u < 1114112 ∧ rest <:+ cs := by
  unfold parseUnit at read
  split at read
  · exact nomatch read
  · rename_i c tail
    split at read
    · split at read
      · exact nomatch read
      · rename_i e after
        have skipped : after <:+ c :: e :: after := ⟨[c, e], rfl⟩
        split at read
        · obtain ⟨small, shorter⟩ := parseHex4_spec read
          exact ⟨by omega, shorter.trans skipped⟩
        · obtain ⟨d, simple, same⟩ := Option.map_eq_some_iff.mp read
          cases same
          have := unescape_small simple
          exact ⟨by omega, skipped⟩
    · split at read
      · exact nomatch read
      · cases read
        exact ⟨(points_cons.mp points).1, [u], rfl⟩

theorem parseUnits_spec : ∀ {n : Nat} {cs us rest : Text}, Points cs →
    parseUnits n cs = some (us, rest) → Points us ∧ rest <:+ cs
  | 0, _, _, _, _, read => nomatch read
  | _ + 1, [], _, _, _, read => nomatch read
  | n + 1, c :: tail, us, rest, points, read => by
      rw [parseUnits] at read
      by_cases quotation : c = 34
      · rw [if_pos quotation] at read
        cases read
        exact ⟨fun _ none => absurd none List.not_mem_nil, [c], rfl⟩
      · rw [if_neg quotation] at read
        simp only [Option.bind_eq_bind, Option.bind_eq_some_iff, Option.some.injEq,
          Prod.mk.injEq, Prod.exists] at read
        obtain ⟨u, after, unit, others, left, more, rfl, rfl⟩ := read
        obtain ⟨point, shorter⟩ := parseUnit_spec points unit
        obtain ⟨fine, shortest⟩ := parseUnits_spec (points.suffix shorter) more
        exact ⟨points_cons.mpr ⟨point, fine⟩, shortest.trans shorter⟩

theorem parseString_spec {cs s rest : Text} (points : Points cs)
    (read : parseString cs = some (s, rest)) : Survives s ∧ rest <:+ cs := by
  obtain ⟨⟨us, after⟩, units, same⟩ := Option.map_eq_some_iff.mp read
  cases same
  obtain ⟨fine, shorter⟩ := parseUnits_spec points units
  exact ⟨joinSurrogates_survives fine, shorter⟩

/-! ## Numbers -/

theorem decimal_length_le {n k : Nat} (positive : 0 < k) (small : n < 10 ^ k) :
    (decimal n).length ≤ k := by
  unfold decimal
  by_cases zero : n = 0
  · rw [if_pos zero]
    exact positive
  · rw [if_neg zero, List.length_map, List.length_reverse]
    exact (Nat.digits_length_le_iff (by norm_num) n).mpr small

theorem ofDigits_small (digits : Text) (decimal : ∀ c ∈ digits, isDigit c = true) :
    Nat.ofDigits 10 (digits.reverse.map (· - 48)) < 10 ^ digits.length := by
  have bounded : ∀ d ∈ digits.reverse.map (· - 48), d < 10 := by
    intro d inside
    obtain ⟨c, member, rfl⟩ := List.mem_map.mp inside
    have digit := decimal c (List.mem_reverse.mp member)
    simp only [isDigit, decide_eq_true_eq] at digit
    omega
  have below := Nat.ofDigits_lt_base_pow_length (by norm_num) bounded
  rwa [List.length_map, List.length_reverse] at below

/-- The magnitude of a digit text has no more digits than it. -/
theorem magnitude_length {digits : Text} (some : digits ≠ [])
    (decimal : ∀ c ∈ digits, isDigit c = true) :
    (Json.decimal (Nat.ofDigits (10 : Int) (digits.reverse.map (· - 48))).natAbs).length ≤
      digits.length := by
  have natural : (Nat.ofDigits (10 : Int) (digits.reverse.map (· - 48))).natAbs =
      Nat.ofDigits 10 (digits.reverse.map (· - 48)) := by
    have cast := Nat.coe_ofDigits Int 10 (digits.reverse.map (· - 48))
    rw [Nat.cast_ofNat] at cast
    rw [← cast, Int.natAbs_natCast]
  rw [natural]
  exact decimal_length_le (List.length_pos_of_ne_nil some) (ofDigits_small _ decimal)

theorem number_spec {negative : Bool} {body rest : Text} {v : Value}
    (read : (if body.takeWhile isDigit = [] ∨
        ((body.takeWhile isDigit).head? = some 48 ∧ (body.takeWhile isDigit).length ≠ 1) ∨
          maxIntDigits < (body.takeWhile isDigit).length then none
      else some (Value.int (if negative = true then
          -Nat.ofDigits 10 ((body.takeWhile isDigit).reverse.map (· - 48))
        else Nat.ofDigits 10 ((body.takeWhile isDigit).reverse.map (· - 48))),
        body.dropWhile isDigit)) = some (v, rest)) :
    Readable v ∧ rest <:+ body := by
  have digits : ∀ c ∈ body.takeWhile isDigit, isDigit c = true :=
    List.all_eq_true.mp List.all_takeWhile
  split at read
  · exact nomatch read
  · rename_i fits
    rw [not_or, not_or] at fits
    cases read
    refine ⟨?_, List.dropWhile_suffix _⟩
    have length := (magnitude_length fits.1 digits).trans (Nat.not_lt.mp fits.2.2)
    cases negative with
    | true => rwa [if_pos rfl, Readable, Int.natAbs_neg]
    | false => rwa [if_neg Bool.false_ne_true, Readable]

theorem parseInt_spec {cs rest : Text} {v : Value} (read : parseInt cs = some (v, rest)) :
    Readable v ∧ rest <:+ cs := by
  obtain ⟨readable, shorter⟩ := number_spec read
  refine ⟨readable, shorter.trans ?_⟩
  split
  · exact List.tail_suffix cs
  · exact List.suffix_rfl

theorem parseLiteral_spec {cs rest : Text} {v : Value} (read : parseLiteral cs = some (v, rest)) :
    Readable v ∧ rest <:+ cs := by
  unfold parseLiteral at read
  split at read
  · cases read
    exact ⟨trivial, List.drop_suffix 4 cs⟩
  · split at read
    · cases read
      exact ⟨trivial, List.drop_suffix 4 cs⟩
    · split at read
      · cases read
        exact ⟨trivial, List.drop_suffix 5 cs⟩
      · exact nomatch read

/-! ## Values -/

theorem suffix_skipSpace {cs rest : Text} {c : Nat} (shape : skipSpace cs = c :: rest) :
    rest <:+ cs :=
  (List.suffix_cons c rest).trans (shape ▸ List.dropWhile_suffix _)

mutual
/-- What is parsed is readable, and what is left is an end of the text. -/
theorem parseValue_spec : ∀ {n : Nat} {cs rest : Text} {v : Value}, Points cs →
    parseValue n cs = some (v, rest) → Readable v ∧ rest <:+ cs
  | 0, _, _, _, _, read => nomatch read
  | _ + 1, [], _, _, _, read => nomatch read
  | n + 1, c :: tail, rest, v, points, read => by
      have others := (points_cons.mp points).2
      have skipped : tail <:+ c :: tail := List.suffix_cons c tail
      rw [parseValue] at read
      by_cases quotation : c = 34
      · rw [if_pos quotation] at read
        obtain ⟨⟨s, after⟩, string, same⟩ := Option.map_eq_some_iff.mp read
        cases same
        obtain ⟨survives, shorter⟩ := parseString_spec others string
        exact ⟨survives, shorter.trans skipped⟩
      rw [if_neg quotation] at read
      by_cases bracket : c = 91
      · rw [if_pos bracket] at read
        split at read
        · rename_i after shape
          cases read
          exact ⟨trivial, (suffix_skipSpace shape).trans skipped⟩
        · simp only [Option.bind_eq_bind, Option.bind_eq_some_iff, Option.some.injEq,
            Prod.mk.injEq, Prod.exists] at read
          obtain ⟨first, after, one, items, left, more, rfl, rfl⟩ := read
          obtain ⟨readable, shorter⟩ := parseValue_spec others.skipSpace one
          have inside := shorter.trans (List.dropWhile_suffix _)
          obtain ⟨rest, shortest⟩ := parseItems_spec (others.suffix inside) more
          exact ⟨⟨readable, rest⟩, shortest.trans (inside.trans skipped)⟩
      rw [if_neg bracket] at read
      by_cases brace : c = 123
      · rw [if_pos brace] at read
        split at read
        · rename_i after shape
          cases read
          exact ⟨⟨List.nodup_nil, trivial⟩, (suffix_skipSpace shape).trans skipped⟩
        · simp only [Option.bind_eq_bind, Option.bind_eq_some_iff, Prod.exists] at read
          obtain ⟨k, item, after, one, members, left, more, checked⟩ := read
          obtain ⟨survives, readable, shorter⟩ := parseMember_spec others.skipSpace one
          have inside := shorter.trans (List.dropWhile_suffix _)
          obtain ⟨rest, shortest⟩ := parseMembers_spec (others.suffix inside) more
          by_cases distinct : (k :: members.map Prod.fst).Nodup
          · rw [if_pos distinct] at checked
            cases checked
            exact ⟨⟨distinct, survives, readable, rest⟩, shortest.trans (inside.trans skipped)⟩
          · rw [if_neg distinct] at checked
            exact nomatch checked
      rw [if_neg brace] at read
      split at read
      · exact parseLiteral_spec read
      · exact parseInt_spec read
theorem parseItems_spec : ∀ {n : Nat} {cs rest : Text} {items : List Value}, Points cs →
    parseItems n cs = some (items, rest) → ReadableItems items ∧ rest <:+ cs
  | 0, _, _, _, _, read => nomatch read
  | n + 1, cs, rest, items, points, read => by
      rw [parseItems] at read
      split at read
      · rename_i after shape
        cases read
        exact ⟨trivial, suffix_skipSpace shape⟩
      · rename_i after shape
        simp only [Option.bind_eq_bind, Option.bind_eq_some_iff, Option.some.injEq,
          Prod.mk.injEq, Prod.exists] at read
        obtain ⟨first, middle, one, others, left, more, rfl, rfl⟩ := read
        have skipped := suffix_skipSpace shape
        obtain ⟨readable, shorter⟩ := parseValue_spec (points.suffix skipped).skipSpace one
        have inside := (shorter.trans (List.dropWhile_suffix _)).trans skipped
        obtain ⟨rest, shortest⟩ := parseItems_spec (points.suffix inside) more
        exact ⟨⟨readable, rest⟩, shortest.trans inside⟩
      · exact nomatch read
theorem parseMember_spec : ∀ {n : Nat} {cs rest k : Text} {v : Value}, Points cs →
    parseMember n cs = some ((k, v), rest) → Survives k ∧ Readable v ∧ rest <:+ cs
  | 0, _, _, _, _, _, read => nomatch read
  | _ + 1, [], _, _, _, _, read => nomatch read
  | n + 1, c :: tail, rest, k, v, points, read => by
      have others := (points_cons.mp points).2
      rw [parseMember] at read
      by_cases quotation : c = 34
      · rw [if_pos quotation] at read
        simp only [Option.bind_eq_bind, Option.bind_eq_some_iff, Prod.exists] at read
        obtain ⟨key, middle, string, read⟩ := read
        obtain ⟨survives, shorter⟩ := parseString_spec others string
        split at read
        · rename_i after shape
          simp only [Option.bind_eq_some_iff, Option.some.injEq, Prod.mk.injEq,
            Prod.exists] at read
          obtain ⟨item, left, one, ⟨rfl, rfl⟩, rfl⟩ := read
          have inside := (suffix_skipSpace shape).trans shorter
          obtain ⟨readable, shortest⟩ := parseValue_spec (others.suffix inside).skipSpace one
          exact ⟨survives, readable, ((shortest.trans (List.dropWhile_suffix _)).trans inside).trans
            (List.suffix_cons c tail)⟩
        · exact nomatch read
      · rw [if_neg quotation] at read
        exact nomatch read
theorem parseMembers_spec : ∀ {n : Nat} {cs rest : Text} {members : List (Text × Value)},
    Points cs → parseMembers n cs = some (members, rest) → ReadableMembers members ∧ rest <:+ cs
  | 0, _, _, _, _, read => nomatch read
  | n + 1, cs, rest, members, points, read => by
      rw [parseMembers] at read
      split at read
      · rename_i after shape
        cases read
        exact ⟨trivial, suffix_skipSpace shape⟩
      · rename_i after shape
        simp only [Option.bind_eq_bind, Option.bind_eq_some_iff, Option.some.injEq,
          Prod.mk.injEq, Prod.exists] at read
        obtain ⟨k, v, middle, one, others, left, more, rfl, rfl⟩ := read
        have skipped := suffix_skipSpace shape
        obtain ⟨survives, readable, shorter⟩ := parseMember_spec (points.suffix skipped).skipSpace one
        have inside := (shorter.trans (List.dropWhile_suffix _)).trans skipped
        obtain ⟨rest, shortest⟩ := parseMembers_spec (points.suffix inside) more
        exact ⟨⟨survives, readable, rest⟩, shortest.trans inside⟩
      · exact nomatch read
end

/-- Every answer of the strict parser can be written and read again. -/
theorem loads_readable {cs : Text} {v : Value} (points : Points cs) (loaded : loads cs = some v) :
    Readable v := by
  unfold loads at loaded
  split at loaded
  · rename_i w rest read
    split at loaded
    · cases loaded
      exact (parseValue_spec points.skipSpace read).1
    · exact nomatch loaded
  · exact nomatch loaded

/-! ## Decoded bytes -/

theorem point_small {least value c : Nat} (read : Utf8.point least value = some c) : c < 1114112 := by
  unfold Utf8.point at read
  split at read
  · cases read
    omega
  · exact nomatch read

theorem decode_points {content : List UInt8} {cs : Text} (decoded : Utf8.decode content = some cs) :
    Points cs := by
  fun_induction Utf8.decode content generalizing cs with
  | case1 =>
      cases decoded
      exact fun _ none => absurd none List.not_mem_nil
  | case2 a rest low ih =>
      obtain ⟨tail, more, rfl⟩ := Option.map_eq_some_iff.mp decoded
      exact points_cons.mpr ⟨by omega, ih more⟩
  | case3 a high two b rest ih =>
      simp only [Option.bind_eq_bind, Option.bind_eq_some_iff, Option.map_eq_some_iff] at decoded
      obtain ⟨x, -, c, one, tail, more, rfl⟩ := decoded
      exact points_cons.mpr ⟨point_small one, ih more⟩
  | case5 a high two three b c rest ih =>
      simp only [Option.bind_eq_bind, Option.bind_eq_some_iff, Option.map_eq_some_iff] at decoded
      obtain ⟨x, -, y, -, d, one, tail, more, rfl⟩ := decoded
      exact points_cons.mpr ⟨point_small one, ih more⟩
  | case7 a high two three four b c d rest ih =>
      simp only [Option.bind_eq_bind, Option.bind_eq_some_iff, Option.map_eq_some_iff] at decoded
      obtain ⟨x, -, y, -, z, -, e, one, tail, more, rfl⟩ := decoded
      exact points_cons.mpr ⟨point_small one, ih more⟩
  | case4 => exact nomatch decoded
  | case6 => exact nomatch decoded
  | case8 => exact nomatch decoded
  | case9 => exact nomatch decoded

end Inci.Theory.Json
