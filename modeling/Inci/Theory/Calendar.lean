/-
# Theory.Calendar -- the proleptic Gregorian calendar

`Date.next` is the day after a day: what the calendar is.  `Date.ordinal` is the closed form of
the days before a date, by years with their leap days and by a sum over the months.  The two
agree (`ordinal_next`, `ordinal_iterate`), and a date comes before another exactly when fewer
days do (`ordinal_lt_iff`).  A `Moment` is a time of day on a date; moments compare as their
fields do, from the year down to the nanosecond (`sinceStart_lt_iff`).
-/
import Mathlib.Logic.Function.Iterate
import Mathlib.Data.List.GetD
import Mathlib.Data.List.Lex
import Mathlib.Algebra.BigOperators.Group.List.Basic
import Mathlib.Algebra.Order.Ring.Nat
import Mathlib.Tactic.Linarith
import Mathlib.Tactic.Ring
import Mathlib.Tactic.IntervalCases

namespace Inci.Theory.Calendar

set_option autoImplicit false

/-! ## Dates -/

def IsLeap (year : ℕ) : Prop := year % 4 = 0 ∧ (year % 100 ≠ 0 ∨ year % 400 = 0)

instance (year : ℕ) : Decidable (IsLeap year) :=
  inferInstanceAs (Decidable (year % 4 = 0 ∧ (year % 100 ≠ 0 ∨ year % 400 = 0)))

/-- The days of each month of a year. -/
def months (year : ℕ) : List ℕ :=
  [31, if IsLeap year then 29 else 28, 31, 30, 31, 30, 31, 31, 30, 31, 30, 31]

def monthDays (year month : ℕ) : ℕ := (months year).getD (month - 1) 0

def yearDays (year : ℕ) : ℕ := if IsLeap year then 366 else 365

/-- A day of the calendar that begins with the first of January of the year one. -/
@[ext] structure Date where
  year : ℕ
  month : ℕ
  day : ℕ
  year_pos : 1 ≤ year
  month_pos : 1 ≤ month
  month_le : month ≤ 12
  day_pos : 1 ≤ day
  day_le : day ≤ monthDays year month

theorem monthDays_pos {year month : ℕ} (low : 1 ≤ month) (high : month ≤ 12) :
    1 ≤ monthDays year month := by
  unfold monthDays months
  interval_cases month <;> simp
  split_ifs <;> omega

namespace Date

/-- The first of a month. -/
def firstOf (year month : ℕ) (year_pos : 1 ≤ year) (low : 1 ≤ month) (high : month ≤ 12) : Date :=
  ⟨year, month, 1, year_pos, low, high, le_rfl, monthDays_pos low high⟩

/-- The day after. -/
def next (d : Date) : Date :=
  if inMonth : d.day < monthDays d.year d.month then
    ⟨d.year, d.month, d.day + 1, d.year_pos, d.month_pos, d.month_le, by omega, inMonth⟩
  else if inYear : d.month < 12 then
    firstOf d.year (d.month + 1) d.year_pos (by omega) inYear
  else firstOf (d.year + 1) 1 (by omega) le_rfl (by omega)

end Date

/-! ## Days before a date -/

/-- The days before a year. -/
def yearStart (year : ℕ) : ℕ :=
  365 * (year - 1) + (year - 1) / 4 - (year - 1) / 100 + (year - 1) / 400

/-- The days of a year before a month. -/
def monthStart (year month : ℕ) : ℕ := ((months year).take (month - 1)).sum

theorem succ_div_eq (n k : ℕ) : (n + 1) / k = n / k + if (n + 1) % k = 0 then 1 else 0 := by
  rw [Nat.succ_div]
  simp only [Nat.dvd_iff_mod_eq_zero]

theorem yearStart_succ {year : ℕ} (positive : 1 ≤ year) :
    yearStart (year + 1) = yearStart year + yearDays year := by
  obtain ⟨past, rfl⟩ := Nat.exists_eq_add_of_le' positive
  have hundredths : past / 100 ≤ past := Nat.div_le_self past 100
  have four : (past + 1) % 100 = 0 → (past + 1) % 4 = 0 := by omega
  have hundred : (past + 1) % 400 = 0 → (past + 1) % 100 = 0 := by omega
  unfold yearStart yearDays IsLeap
  simp only [Nat.add_sub_cancel, succ_div_eq]
  generalize past / 4 = fourths, past / 100 = centuries, past / 400 = cycles at *
  by_cases leap : (past + 1) % 4 = 0 <;> by_cases century : (past + 1) % 100 = 0 <;>
    by_cases cycle : (past + 1) % 400 = 0 <;> simp_all <;> omega

theorem yearStart_mono {year other : ℕ} (positive : 1 ≤ year) (less : year ≤ other) :
    yearStart year ≤ yearStart other := by
  induction other, less using Nat.le_induction with
  | base => exact le_rfl
  | succ other less ih =>
      rw [yearStart_succ (positive.trans less)]
      exact ih.trans (Nat.le_add_right _ _)

theorem length_months (year : ℕ) : (months year).length = 12 := rfl

theorem monthStart_succ {year month : ℕ} (low : 1 ≤ month) (high : month ≤ 12) :
    monthStart year (month + 1) = monthStart year month + monthDays year month := by
  obtain ⟨past, rfl⟩ : ∃ past, month = past + 1 := ⟨month - 1, by omega⟩
  have inside : past < (months year).length := by
    rw [length_months]
    omega
  unfold monthStart monthDays
  rw [Nat.add_sub_cancel, Nat.add_sub_cancel, List.sum_take_succ _ _ inside,
    List.getD_eq_getElem _ _ inside]

theorem monthStart_thirteen (year : ℕ) : monthStart year 13 = yearDays year := by
  unfold monthStart months yearDays
  split_ifs <;> rfl

theorem monthStart_mono {year month other : ℕ} (less : month ≤ other) :
    monthStart year month ≤ monthStart year other := by
  unfold monthStart
  have sub : month - 1 ≤ other - 1 := by omega
  rw [← List.take_append_drop (month - 1) ((months year).take (other - 1)), List.take_take,
    Nat.min_eq_left sub, List.sum_append]
  omega

namespace Date

/-- The days before a date. -/
def ordinal (d : Date) : ℕ := yearStart d.year + monthStart d.year d.month + (d.day - 1)

variable {d e : Date}

/-- The closed form counts one day more on the day after. -/
theorem ordinal_next (d : Date) : d.next.ordinal = d.ordinal + 1 := by
  have low := d.day_pos
  have high := d.day_le
  unfold next
  split_ifs with inMonth inYear
  · unfold ordinal
    dsimp only
    omega
  · have month := @monthStart_succ d.year d.month d.month_pos d.month_le
    unfold ordinal firstOf
    dsimp only
    omega
  · have december : d.month = 12 := by
      have most := d.month_le
      omega
    have month := @monthStart_succ d.year d.month d.month_pos d.month_le
    have year := yearStart_succ d.year_pos
    rw [december, monthStart_thirteen] at month
    rw [december] at inMonth high
    have january : monthStart (d.year + 1) 1 = 0 := rfl
    unfold ordinal firstOf
    dsimp only
    rw [december, year, january]
    omega

theorem ordinal_iterate (n : ℕ) (d : Date) : (next^[n] d).ordinal = d.ordinal + n := by
  induction n generalizing d with
  | zero => rfl
  | succ n ih =>
      rw [Function.iterate_succ_apply, ih, ordinal_next]
      omega

/-! ## Order -/

/-- The earlier of two dates, by year, month and day. -/
def Before (d e : Date) : Prop :=
  d.year < e.year ∨ d.year = e.year ∧ (d.month < e.month ∨ d.month = e.month ∧ d.day < e.day)

theorem before_or_eq (d e : Date) : d.Before e ∨ d = e ∨ e.Before d := by
  unfold Before
  rw [Date.ext_iff]
  omega

theorem ordinal_lt_of_before (before : d.Before e) : d.ordinal < e.ordinal := by
  have low := d.day_pos
  have high := d.day_le
  have later := e.day_pos
  have month := @monthStart_succ d.year d.month d.month_pos d.month_le
  unfold ordinal
  rcases before with year | ⟨year, months | ⟨same, day⟩⟩
  · have whole : monthStart d.year (d.month + 1) ≤ yearDays d.year := by
      rw [← monthStart_thirteen]
      have most := d.month_le
      exact monthStart_mono (by omega)
    have years := yearStart_succ d.year_pos
    have rest := @yearStart_mono (d.year + 1) e.year (by omega) year
    omega
  · have rest := @monthStart_mono d.year (d.month + 1) e.month months
    rw [← year]
    omega
  · rw [← year, ← same]
    omega

/-- A date comes before another exactly when fewer days do. -/
theorem ordinal_lt_iff : d.ordinal < e.ordinal ↔ d.Before e := by
  constructor
  · intro fewer
    rcases before_or_eq d e with before | rfl | after
    · exact before
    · omega
    · have more := ordinal_lt_of_before after
      omega
  · exact ordinal_lt_of_before

theorem ordinal_injective : Function.Injective ordinal := by
  intro d e same
  rcases before_or_eq d e with before | equal | after
  · have fewer := ordinal_lt_of_before before
    omega
  · exact equal
  · have fewer := ordinal_lt_of_before after
    omega

/-- Counting on from a date one day after the other reaches the dates with the days between. -/
theorem iterate_next_eq {n : ℕ} : next^[n] d = e ↔ e.ordinal = d.ordinal + n := by
  constructor
  · rintro rfl
    exact ordinal_iterate n d
  · intro days
    exact ordinal_injective ((ordinal_iterate n d).trans days.symm)

end Date

/-! ## Moments -/

/-- A quotient and a remainder compare as the pair of them. -/
theorem radix_lt {base q r q' r' : ℕ} (small : r < base) (small' : r' < base) :
    q * base + r < q' * base + r' ↔ q < q' ∨ q = q' ∧ r < r' := by
  rcases Nat.lt_trichotomy q q' with less | rfl | more
  · have scaled := Nat.mul_le_mul_right base (Nat.succ_le_of_lt less)
    rw [Nat.succ_mul] at scaled
    omega
  · omega
  · have scaled := Nat.mul_le_mul_right base (Nat.succ_le_of_lt more)
    rw [Nat.succ_mul] at scaled
    omega

/-- A nanosecond of a day. -/
@[ext] structure Moment where
  date : Date
  hour : ℕ
  minute : ℕ
  second : ℕ
  nanosecond : ℕ
  hour_lt : hour < 24
  minute_lt : minute < 60
  second_lt : second < 60
  nanosecond_lt : nanosecond < 10 ^ 9

namespace Moment

/-- The nanoseconds of the day before the moment. -/
def timeOfDay (m : Moment) : ℕ :=
  ((m.hour * 60 + m.minute) * 60 + m.second) * 10 ^ 9 + m.nanosecond

/-- The nanoseconds since the calendar began. -/
def sinceStart (m : Moment) : ℕ := m.date.ordinal * (86400 * 10 ^ 9) + m.timeOfDay

def tuple (m : Moment) : List ℕ :=
  [m.date.year, m.date.month, m.date.day, m.hour, m.minute, m.second, m.nanosecond]

variable {m n : Moment}

theorem timeOfDay_lt (m : Moment) : m.timeOfDay < 86400 * 10 ^ 9 := by
  have hour := m.hour_lt
  have minute := m.minute_lt
  have second := m.second_lt
  have nanosecond := m.nanosecond_lt
  unfold timeOfDay
  omega

theorem timeOfDay_lt_iff :
    m.timeOfDay < n.timeOfDay ↔ [m.hour, m.minute, m.second, m.nanosecond] <
      [n.hour, n.minute, n.second, n.nanosecond] := by
  have minutes := m.minute_lt
  have seconds := m.second_lt
  have minutes' := n.minute_lt
  have seconds' := n.second_lt
  simp only [timeOfDay, radix_lt m.nanosecond_lt n.nanosecond_lt, List.cons_lt_cons_iff,
    List.not_lt_nil, and_false, or_false]
  omega

theorem before_iff (d e : Date) (rest rest' : List ℕ) :
    d.year :: d.month :: d.day :: rest < e.year :: e.month :: e.day :: rest' ↔
      d.Before e ∨ d = e ∧ rest < rest' := by
  simp only [List.cons_lt_cons_iff, Date.Before, Date.ext_iff]
  tauto

/-- Moments compare as their fields do. -/
theorem sinceStart_lt_iff : m.sinceStart < n.sinceStart ↔ m.tuple < n.tuple := by
  unfold sinceStart tuple
  rw [radix_lt m.timeOfDay_lt n.timeOfDay_lt, before_iff, Date.ordinal_lt_iff,
    Date.ordinal_injective.eq_iff, timeOfDay_lt_iff]

theorem tuple_injective : Function.Injective tuple := by
  intro m n same
  simp only [tuple, List.cons.injEq, and_true] at same
  obtain ⟨year, month, day, hour, minute, second, nanosecond⟩ := same
  exact Moment.ext (Date.ext year month day) hour minute second nanosecond

theorem sinceStart_inj : m.sinceStart = n.sinceStart ↔ m.tuple = n.tuple := by
  constructor
  · intro same
    rcases lt_trichotomy m.tuple n.tuple with less | equal | more
    · exact absurd same (sinceStart_lt_iff.mpr less).ne
    · exact equal
    · exact absurd same (sinceStart_lt_iff.mpr more).ne'
  · intro same
    rw [tuple_injective same]

end Moment

end Inci.Theory.Calendar
