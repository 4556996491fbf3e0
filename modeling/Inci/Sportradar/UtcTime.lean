/-
# Sportradar.UtcTime -- the adapter's timestamps

`utcNs` reads a timestamp of a provider document into nanoseconds since 1970.  It counts the
days of a date in closed form, from the leap days of the years before and the lengths of the
months before; `Theory.Calendar` says that this is the count of the days one by one.  So the
reader accepts what names a moment of the calendar within the signed 64-bit range and nothing
else, and answers the moment's distance from the epoch (`utc_parser_exact`).
-/
import Inci.Theory.Calendar
import Inci.Theory.Checks
import Inci.Theory.Digits

namespace Inci.Sportradar.TennisV3

open Inci.Theory Inci.Theory.Calendar Inci.Theory.Digits Inci.Theory.Json

set_option autoImplicit false

/-! ## The pattern -/

/-- The groups of `_UTC_PATTERN`. -/
@[ext] structure UtcGroups where
  year : Text
  month : Text
  day : Text
  hour : Text
  minute : Text
  second : Text
  fraction : Option Text

/-- The end of the pattern: `(?:\.([0-9]{1,9}))?Z\Z` -/
def matchFraction : Text → Option (Option Text)
  | [90] => some none
  | 46 :: rest =>
      let fraction := rest.takeWhile isDigit
      if 1 ≤ fraction.length ∧ fraction.length ≤ 9 ∧ rest.dropWhile isDigit = [90] then
        some (some fraction)
      else none
  | _ => none

/-- `re.fullmatch(_UTC_PATTERN, text, flags=re.ASCII)` -/
def matchUtcPattern (text : Text) : Option UtcGroups := do
  let (year, text) ← readDigits 4 text
  let text ← readPoint 45 text
  let (month, text) ← readDigits 2 text
  let text ← readPoint 45 text
  let (day, text) ← readDigits 2 text
  let text ← readPoint 84 text
  let (hour, text) ← readDigits 2 text
  let text ← readPoint 58 text
  let (minute, text) ← readDigits 2 text
  let text ← readPoint 58 text
  let (second, text) ← readDigits 2 text
  let fraction ← matchFraction text
  pure ⟨year, month, day, hour, minute, second, fraction⟩

/-- What the pattern asks of its groups. -/
structure UtcGroups.Fits (groups : UtcGroups) : Prop where
  year : Numeral 4 groups.year
  month : Numeral 2 groups.month
  day : Numeral 2 groups.day
  hour : Numeral 2 groups.hour
  minute : Numeral 2 groups.minute
  second : Numeral 2 groups.second
  fraction : ∀ digits ∈ groups.fraction,
    1 ≤ digits.length ∧ digits.length ≤ 9 ∧ Numeral digits.length digits

def spellFraction : Option Text → Text
  | none => [90]
  | some digits => 46 :: (digits ++ [90])

/-- The text with these groups: `year-month-dayThour:minute:second.fractionZ`. -/
def UtcGroups.spell (groups : UtcGroups) : Text :=
  groups.year ++ 45 :: (groups.month ++ 45 :: (groups.day ++ 84 :: (groups.hour ++
    58 :: (groups.minute ++ 58 :: (groups.second ++ spellFraction groups.fraction)))))

theorem matchFraction_eq_some {text : Text} {fraction : Option Text} :
    matchFraction text = some fraction ↔
      (∀ digits ∈ fraction, 1 ≤ digits.length ∧ digits.length ≤ 9 ∧
        Numeral digits.length digits) ∧ text = spellFraction fraction := by
  constructor
  · intro read
    unfold matchFraction at read
    split at read
    · cases read
      exact ⟨by simp, rfl⟩
    · rename_i rest
      dsimp only at read
      split_ifs at read with fine
      cases read
      have digit : ∀ c ∈ rest.takeWhile isDigit, isDigit c = true :=
        List.all_eq_true.mp List.all_takeWhile
      refine ⟨?_, ?_⟩
      · rintro digits ⟨⟩
        exact ⟨fine.1, fine.2.1, rfl, digit⟩
      · show 46 :: rest = 46 :: (rest.takeWhile isDigit ++ [90])
        rw [← fine.2.2, List.takeWhile_append_dropWhile]
    · cases read
  · rintro ⟨fits, rfl⟩
    cases fraction with
    | none => rfl
    | some digits =>
        obtain ⟨low, high, numeral⟩ := fits digits rfl
        have taken : (digits ++ [90]).takeWhile isDigit = digits := by
          rw [List.takeWhile_append_of_pos numeral.digit]
          exact List.append_nil digits
        have dropped : (digits ++ [90]).dropWhile isDigit = [90] := by
          rw [List.dropWhile_append_of_pos numeral.digit]
          rfl
        simp only [spellFraction, matchFraction, taken, dropped]
        exact if_pos ⟨low, high, trivial⟩

/-- The pattern matches a text with some groups exactly when they fit and spell it. -/
theorem matchUtcPattern_eq_some {text : Text} {groups : UtcGroups} :
    matchUtcPattern text = some groups ↔ groups.Fits ∧ text = groups.spell := by
  simp only [matchUtcPattern, Option.bind_eq_bind, Option.bind_eq_some_iff, Prod.exists,
    readDigits_eq_some, readPoint_eq_some, matchFraction_eq_some, Option.pure_def,
    Option.some.injEq]
  constructor
  · rintro ⟨year, _, ⟨y, rfl⟩, _, rfl, month, _, ⟨mo, rfl⟩, _, rfl, day, _, ⟨d, rfl⟩, _, rfl,
      hour, _, ⟨h, rfl⟩, _, rfl, minute, _, ⟨mi, rfl⟩, _, rfl, second, _, ⟨s, rfl⟩,
      fraction, ⟨f, rfl⟩, rfl⟩
    exact ⟨⟨y, mo, d, h, mi, s, f⟩, rfl⟩
  · rintro ⟨fits, rfl⟩
    exact ⟨_, _, ⟨fits.year, rfl⟩, _, rfl, _, _, ⟨fits.month, rfl⟩, _, rfl, _, _,
      ⟨fits.day, rfl⟩, _, rfl, _, _, ⟨fits.hour, rfl⟩, _, rfl, _, _, ⟨fits.minute, rfl⟩, _, rfl,
      _, _, ⟨fits.second, rfl⟩, _, ⟨fits.fraction, rfl⟩, rfl⟩

/-! ## The reader -/

/-- `int` of a group. -/
def int (digits : Text) : ℕ := number (digitsOf digits)

def isLeapYear (year : ℕ) : Bool := year % 4 = 0 ∧ (year % 100 ≠ 0 ∨ year % 400 = 0)

def monthLengths (year : ℕ) : List ℕ :=
  [31, if isLeapYear year then 29 else 28, 31, 30, 31, 30, 31, 31, 30, 31, 30, 31]

def candidatePayloadInvalid : String := "candidate_payload_invalid"

/-- `fraction.ljust(9, "0")` -/
def padded (fraction : Text) : Text := fraction ++ List.replicate (9 - fraction.length) 48

/-- `_utc_ns` -/
def utcNs : Value → Except String ℤ
  | .str text =>
      match matchUtcPattern text with
      | none => .error candidatePayloadInvalid
      | some groups => do
          let year := int groups.year
          let month := int groups.month
          let day := int groups.day
          let hour := int groups.hour
          let minute := int groups.minute
          let second := int groups.second
          refuse (year < 1 ∨ month < 1 ∨ 12 < month ∨ day < 1 ∨
            (monthLengths year).getD (month - 1) 0 < day ∨ 23 < hour ∨ 59 < minute ∨ 59 < second)
            candidatePayloadInvalid
          let priorYear : ℤ := year - 1
          let days := 365 * priorYear + priorYear / 4 - priorYear / 100 + priorYear / 400 - 719162
          let days := days + ((((monthLengths year).take (month - 1)).sum : ℕ) + (day : ℤ) - 1)
          let wholeSeconds := ((days * 24 + hour) * 60 + minute) * 60 + second
          let nanoseconds := wholeSeconds * 1000000000
          let nanoseconds :=
            groups.fraction.elim nanoseconds fun fraction => nanoseconds + int (padded fraction)
          refuse (nanoseconds < 0 ∨ 9223372036854775807 < nanoseconds) candidatePayloadInvalid
          pure nanoseconds
  | _ => .error candidatePayloadInvalid

theorem monthLengths_eq (year : ℕ) : monthLengths year = months year := by
  have leap : isLeapYear year = true ↔ IsLeap year := decide_eq_true_iff
  simp only [monthLengths, months, leap]

/-! ## What a text names -/

/-- `1970-01-01` -/
def epoch : Date :=
  Date.firstOf 1970 1 (Nat.le_add_left 1 1969) (Nat.le_refl 1) (Nat.le_add_left 1 11)

namespace UtcGroups

/-- The fraction padded to nine digits, as a number. -/
def nanosecond (groups : UtcGroups) : ℕ :=
  groups.fraction.elim 0 fun fraction => int (padded fraction)

def tuple (groups : UtcGroups) : List ℕ :=
  [int groups.year, int groups.month, int groups.day, int groups.hour, int groups.minute,
    int groups.second, groups.nanosecond]

variable {groups : UtcGroups}

theorem Fits.nanosecond_lt (fits : groups.Fits) : groups.nanosecond < 10 ^ 9 := by
  unfold nanosecond
  cases present : groups.fraction with
  | none => decide
  | some fraction =>
      obtain ⟨low, high, numeral⟩ := fits.fraction fraction present
      have zeros : digitsOf (padded fraction) =
          digitsOf fraction ++ List.replicate (9 - fraction.length) 0 := by
        simp [digitsOf, padded]
      have below := numeral.number_lt
      have whole : (10 : ℕ) ^ 9 = 10 ^ fraction.length * 10 ^ (9 - fraction.length) := by
        rw [← pow_add, Nat.add_sub_cancel' high]
      show int (padded fraction) < 10 ^ 9
      rw [int, zeros, number_append_zeros, whole]
      exact Nat.mul_lt_mul_of_pos_right below (by positivity)

/-- The groups pass the reader's range checks exactly when they are those of a moment. -/
theorem Fits.named_iff (fits : groups.Fits) :
    ¬(int groups.year < 1 ∨ int groups.month < 1 ∨ 12 < int groups.month ∨ int groups.day < 1 ∨
        (monthLengths (int groups.year)).getD (int groups.month - 1) 0 < int groups.day ∨
        23 < int groups.hour ∨ 59 < int groups.minute ∨ 59 < int groups.second) ↔
      ∃ m : Moment, m.tuple = groups.tuple := by
  have nanosecond := fits.nanosecond_lt
  simp only [monthLengths_eq, not_or, not_lt]
  constructor
  · rintro ⟨year, month, most, day, inside, hour, minute, second⟩
    exact ⟨⟨⟨_, _, _, year, month, most, day, inside⟩, _, _, _, _, Nat.lt_succ_of_le hour,
      Nat.lt_succ_of_le minute, Nat.lt_succ_of_le second, nanosecond⟩, rfl⟩
  · rintro ⟨m, same⟩
    simp only [Moment.tuple, tuple, List.cons.injEq] at same
    obtain ⟨year, month, day, hour, minute, second, -⟩ := same
    rw [← year, ← month, ← day, ← hour, ← minute, ← second]
    exact ⟨m.date.year_pos, m.date.month_pos, m.date.month_le, m.date.day_pos, m.date.day_le,
      Nat.le_of_lt_succ m.hour_lt, Nat.le_of_lt_succ m.minute_lt, Nat.le_of_lt_succ m.second_lt⟩

end UtcGroups

/-- The days the reader counts in closed form. -/
theorem days_eq (d : Date) :
    365 * ((d.year : ℤ) - 1) + ((d.year : ℤ) - 1) / 4 - ((d.year : ℤ) - 1) / 100 +
        ((d.year : ℤ) - 1) / 400 - 719162 +
      ((((monthLengths d.year).take (d.month - 1)).sum : ℕ) + (d.day : ℤ) - 1) =
      (d.ordinal : ℤ) - epoch.ordinal := by
  have since : epoch.ordinal = 719162 := by decide
  have day := d.day_pos
  obtain ⟨past, year⟩ := Nat.exists_eq_add_of_le' d.year_pos
  have prior : (d.year : ℤ) - 1 = past := by omega
  have before : d.year - 1 = past := by omega
  have hundredths : past / 100 ≤ past := Nat.div_le_self past 100
  rw [since, monthLengths_eq, prior]
  unfold Date.ordinal yearStart monthStart
  rw [before]
  omega

/-- The nanoseconds the reader computes from the groups of a moment. -/
theorem nanoseconds_eq {groups : UtcGroups} {m : Moment} (same : m.tuple = groups.tuple) :
    ((((365 * ((int groups.year : ℤ) - 1) + ((int groups.year : ℤ) - 1) / 4 -
            ((int groups.year : ℤ) - 1) / 100 + ((int groups.year : ℤ) - 1) / 400 - 719162 +
          ((((monthLengths (int groups.year)).take (int groups.month - 1)).sum : ℕ) +
            (int groups.day : ℤ) - 1)) * 24 + int groups.hour) * 60 + int groups.minute) * 60 +
        int groups.second) * 1000000000 + groups.nanosecond =
      ((m.date.ordinal : ℤ) - epoch.ordinal) * (86400 * 10 ^ 9) + m.timeOfDay := by
  simp only [Moment.tuple, UtcGroups.tuple, List.cons.injEq, and_true] at same
  obtain ⟨year, month, day, hour, minute, second, nanosecond⟩ := same
  rw [← year, ← month, ← day, ← hour, ← minute, ← second, ← nanosecond, days_eq]
  unfold Moment.timeOfDay
  push_cast
  ring

/-- What the reader answers, on the whole. -/
theorem utcNs_eq_ok {text : Text} {ns : ℤ} :
    utcNs (.str text) = .ok ns ↔ ∃ (groups : UtcGroups) (m : Moment), groups.Fits ∧
      text = groups.spell ∧ m.tuple = groups.tuple ∧
      ns = ((m.date.ordinal : ℤ) - epoch.ordinal) * (86400 * 10 ^ 9) + m.timeOfDay ∧
      0 ≤ ns ∧ ns ≤ 2 ^ 63 - 1 := by
  have fraction (groups : UtcGroups) (seconds : ℤ) : (groups.fraction.elim seconds fun fraction =>
      seconds + int (padded fraction)) = seconds + groups.nanosecond := by
    unfold UtcGroups.nanosecond
    cases groups.fraction <;> simp
  constructor
  · intro read
    unfold utcNs at read
    cases found : matchUtcPattern text with
    | none => simp [found] at read
    | some groups =>
        obtain ⟨fits, spelled⟩ := matchUtcPattern_eq_some.mp found
        simp only [found, bind_eq_ok, refuse_eq_ok, exists_unit, fits.named_iff, fraction,
          pure_eq_ok] at read
        obtain ⟨⟨m, same⟩, range, rfl⟩ := read
        rw [nanoseconds_eq same] at range ⊢
        exact ⟨groups, m, fits, spelled, same, rfl, by omega, by omega⟩
  · rintro ⟨groups, m, fits, spelled, same, value, low, high⟩
    have found := matchUtcPattern_eq_some.mpr ⟨fits, spelled⟩
    simp only [utcNs, found, bind_eq_ok, refuse_eq_ok, exists_unit, fits.named_iff, fraction,
      pure_eq_ok]
    rw [nanoseconds_eq same, ← value]
    exact ⟨⟨m, same⟩, by omega, rfl⟩

/-! ## Days counted one by one -/

/-- The answer is the moment's distance from the epoch. -/
theorem value_eq (m : Moment) :
    ((m.date.ordinal : ℤ) - epoch.ordinal) * (86400 * 10 ^ 9) + m.timeOfDay =
      (m.sinceStart : ℤ) - epoch.ordinal * (86400 * 10 ^ 9) := by
  unfold Moment.sinceStart
  push_cast
  ring

/-- A moment is not before the epoch when its date is reached by counting days from there. -/
theorem counted_iff (m : Moment) :
    0 ≤ ((m.date.ordinal : ℤ) - epoch.ordinal) * (86400 * 10 ^ 9) + m.timeOfDay ↔
      ∃ days, Date.next^[days] epoch = m.date := by
  have time := m.timeOfDay_lt
  constructor
  · intro nonneg
    exact ⟨m.date.ordinal - epoch.ordinal, Date.iterate_next_eq.mpr (by omega)⟩
  · rintro ⟨days, reached⟩
    have counted := Date.iterate_next_eq.mp reached
    omega

/-- The reader accepts what matches its pattern and names a moment of the calendar from the
epoch up to 2^63 - 1 nanoseconds later; its answer is the days counted one by one and the time
of day; and answers compare as the fields of the texts do. -/
theorem utc_parser_exact :
    (∀ (value : Value) (ns : ℤ), utcNs value = .ok ns ↔
      ∃ (text : Text) (groups : UtcGroups) (m : Moment) (days : ℕ), value = .str text ∧
        groups.Fits ∧ text = groups.spell ∧ m.tuple = groups.tuple ∧
        Date.next^[days] epoch = m.date ∧
        ns = days * (86400 * 10 ^ 9) + m.timeOfDay ∧ ns ≤ 2 ^ 63 - 1) ∧
    (∀ (value : Value) (reason : String), utcNs value = .error reason →
      reason = candidatePayloadInvalid) ∧
    ∀ (groups groups' : UtcGroups) (ns ns' : ℤ), groups.Fits → groups'.Fits →
      utcNs (.str groups.spell) = .ok ns → utcNs (.str groups'.spell) = .ok ns' →
      (ns < ns' ↔ groups.tuple < groups'.tuple) ∧ (ns = ns' ↔ groups.tuple = groups'.tuple) := by
  refine ⟨?_, ?_, ?_⟩
  · intro value ns
    constructor
    · intro read
      cases value with
      | str text =>
          obtain ⟨groups, m, fits, spelled, same, rfl, low, high⟩ := utcNs_eq_ok.mp read
          obtain ⟨days, reached⟩ := (counted_iff m).mp low
          have counted := Date.iterate_next_eq.mp reached
          exact ⟨text, groups, m, days, rfl, fits, spelled, same, reached, by omega, high⟩
      | _ => cases read
    · rintro ⟨text, groups, m, days, rfl, fits, spelled, same, reached, value, high⟩
      have counted := Date.iterate_next_eq.mp reached
      exact utcNs_eq_ok.mpr ⟨groups, m, fits, spelled, same, by omega, by omega, high⟩
  · intro value reason refused
    cases value with
    | str text =>
        unfold utcNs at refused
        cases found : matchUtcPattern text with
        | none =>
            simp only [found, Except.error.injEq] at refused
            exact refused.symm
        | some groups =>
            simp only [found, bind_eq_error, refuse_eq_error] at refused
            rcases refused with ⟨-, rfl⟩ | ⟨_, -, ⟨-, rfl⟩ | ⟨_, -, impossible⟩⟩
            · rfl
            · rfl
            · cases impossible
    | _ =>
        cases refused
        rfl
  · intro groups groups' ns ns' fits fits' read read'
    obtain ⟨_, m, f, spelled, same, rfl, -⟩ := utcNs_eq_ok.mp read
    obtain ⟨_, m', f', spelled', same', rfl, -⟩ := utcNs_eq_ok.mp read'
    have one := matchUtcPattern_eq_some.mpr ⟨fits, rfl⟩
    have other := matchUtcPattern_eq_some.mpr ⟨fits', rfl⟩
    rw [matchUtcPattern_eq_some.mpr ⟨f, spelled⟩, Option.some.injEq] at one
    rw [matchUtcPattern_eq_some.mpr ⟨f', spelled'⟩, Option.some.injEq] at other
    rw [← one, ← other, ← same, ← same', ← Moment.sinceStart_lt_iff, ← Moment.sinceStart_inj,
      value_eq, value_eq]
    omega

example : utcNs (.str (text "2024-02-29T23:59:59.5Z")) = .ok 1709251199500000000 := by decide

end Inci.Sportradar.TennisV3
