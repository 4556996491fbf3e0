/-
# Adapter.QuotaDemand -- how many requests a session can ask for

`deriveQuotaDemand` bounds the requests of a session from the adapter's usage plan: one figure
for a minute or a second, and one for a day.  The loop over the days finds the largest demand
of a day that the session touches (`Demand.dayDemands_max`), so the function answers for every
valid plan and every session that ends after it starts (`deriveQuotaDemand_ok`).
-/
import Inci.Theory.Checks
import Mathlib.Algebra.Order.Ring.Int

namespace Inci.Adapter

open Inci.Theory

set_option autoImplicit false

/-! ## The plan and the request -/

structure ProviderQuotas where
  requestsPerRolling60Seconds : ℤ
  requestsPerUtcCalendarDay : ℤ
  requestsPerRollingSecond : ℤ
  maxConnections : ℤ
  maxSubscriptions : ℤ
  resyncRequestsPerRollingHour : ℤ
  deriving DecidableEq

structure AdapterUsagePlan where
  startupRequestsFixed : ℤ
  startupRequestsPerMatch : ℤ
  steadyRequestsPerMinuteFixed : ℤ
  steadyRequestsPerMinutePerMatch : ℤ
  resyncRequestsPerMatch : ℤ
  maxResyncsPerMatchPerHour : ℤ
  maxConnections : ℤ
  subscriptionsPerMatch : ℤ

inductive QuotaError where
  /-- `AdapterContractError(message)` -/
  | contract (message : String)
  /-- `OverflowError` -/
  | overflow
  /-- `ValueError` of `max` over nothing -/
  | value
  deriving DecidableEq

abbrev microsecondsPerMinute : ℤ := 60000000
abbrev microsecondsPerHour : ℤ := 3600000000
abbrev microsecondsPerDay : ℤ := 86400000000

/-- The days from 0001-01-01 to 9999-12-31. -/
abbrev calendarDays : ℤ := 3652059

/-- A moment in UTC, in microseconds since 0001-01-01T00:00. -/
structure Datetime where
  microseconds : ℤ
  nonneg : 0 ≤ microseconds
  inside : microseconds < calendarDays * microsecondsPerDay

/-- A `datetime` that was passed in: its moment and its offset, when it has one. -/
structure AwareDatetime where
  moment : Datetime
  utcoffset : Option ℤ

/-- The attributes of a request that are read; `none` is one of another type. -/
structure SessionRequest where
  requestedMatches : Option ℤ
  nowUtc : Option AwareDatetime
  sessionEndUtc : Option AwareDatetime

/-! ## The demand -/

/-- `_validate_usage` -/
def validateUsage (usage : AdapterUsagePlan) : Except QuotaError Unit := do
  [("startup_requests_fixed", usage.startupRequestsFixed),
    ("startup_requests_per_match", usage.startupRequestsPerMatch),
    ("steady_requests_per_minute_fixed", usage.steadyRequestsPerMinuteFixed),
    ("steady_requests_per_minute_per_match", usage.steadyRequestsPerMinutePerMatch),
    ("resync_requests_per_match", usage.resyncRequestsPerMatch),
    ("max_resyncs_per_match_per_hour", usage.maxResyncsPerMatchPerHour)].forM fun entry =>
      refuse (entry.2 < 0) (.contract (entry.1 ++ ": invalid_nonnegative_integer"))
  [("max_connections", usage.maxConnections),
    ("subscriptions_per_match", usage.subscriptionsPerMatch)].forM fun entry =>
      refuse (entry.2 ≤ 0) (.contract (entry.1 ++ ": invalid_positive_integer"))

/-- `_utc_datetime` -/
def utcDatetime (value : Option AwareDatetime) (field : String) : Except QuotaError Datetime :=
  match value with
  | some ⟨moment, some 0⟩ => .ok moment
  | _ => .error (.contract (field ++ ": invalid_utc_datetime"))

def ceilDiv (numerator denominator : ℤ) : ℤ := (numerator + denominator - 1) / denominator

/-- `.date()`, as the days since 0001-01-01. -/
def Datetime.date (moment : Datetime) : ℤ := moment.microseconds / microsecondsPerDay

/-- `day_start + timedelta(days=1)`, or `datetime.max` when that overflows. -/
def dayEnd (dayStart : ℤ) : ℤ :=
  if dayStart + microsecondsPerDay < calendarDays * microsecondsPerDay then
    dayStart + microsecondsPerDay
  else calendarDays * microsecondsPerDay - 1

/-- What the loop over the days reads. -/
structure Demand where
  start : Datetime
  finish : Datetime
  startup : ℤ
  steadyMinute : ℤ
  resyncHour : ℤ

namespace Demand

variable (d : Demand)

/-- `overlap_us` -/
def overlapUs (currentDay : ℤ) : ℤ :=
  let dayStart := currentDay * microsecondsPerDay
  min d.finish.microseconds (dayEnd dayStart) - max d.start.microseconds dayStart

/-- The requests of one day. -/
def dayDemand (currentDay : ℤ) : ℤ :=
  (if d.start.date = currentDay then d.startup else 0) +
    ceilDiv (d.overlapUs currentDay) microsecondsPerMinute * d.steadyMinute +
    ceilDiv (d.overlapUs currentDay) microsecondsPerHour * d.resyncHour

/-- `(end - timedelta(microseconds=1)).date()` -/
def finalDay : ℤ := (d.finish.microseconds - 1) / microsecondsPerDay

/-- The loop over the days, from `currentDay` on. -/
def dayDemands (currentDay : ℤ) (demands : List ℤ) : Except QuotaError (List ℤ) :=
  if currentDay ≤ d.finalDay then
    let demands :=
      if 0 < d.overlapUs currentDay then demands ++ [d.dayDemand currentDay] else demands
    if currentDay = d.finalDay then .ok demands
    else if currentDay + 1 < calendarDays then dayDemands (currentDay + 1) demands
    else .error .overflow
  else .ok demands
termination_by (d.finalDay + 1 - currentDay).toNat
decreasing_by omega

end Demand

/-- `derive_quota_demand` -/
def deriveQuotaDemand (usage : AdapterUsagePlan) (request : SessionRequest) :
    Except QuotaError ProviderQuotas := do
  validateUsage usage
  let requested := request.requestedMatches.getD 0
  refuse (requested ≤ 0) (.contract "requested_matches: invalid_positive_integer")
  let start ← utcDatetime request.nowUtc "now_utc"
  let finish ← utcDatetime request.sessionEndUtc "session_end_utc"
  refuse (finish.microseconds ≤ start.microseconds)
    (.contract "research session interval is invalid")
  let startup := usage.startupRequestsFixed + requested * usage.startupRequestsPerMatch
  let steadyMinute :=
    usage.steadyRequestsPerMinuteFixed + requested * usage.steadyRequestsPerMinutePerMatch
  let resyncHour := requested * usage.resyncRequestsPerMatch * usage.maxResyncsPerMatchPerHour
  let worstCluster := startup + steadyMinute + resyncHour
  let demand : Demand := ⟨start, finish, startup, steadyMinute, resyncHour⟩
  let dayDemands ← demand.dayDemands start.date []
  match dayDemands.max? with
  | none => .error .value
  | some day =>
      pure ⟨worstCluster, day, worstCluster, usage.maxConnections,
        requested * usage.subscriptionsPerMatch, resyncHour⟩

/-! ## The days of a session -/

/-- What `validateUsage` accepts. -/
structure AdapterUsagePlan.Valid (usage : AdapterUsagePlan) : Prop where
  startupFixed : 0 ≤ usage.startupRequestsFixed
  startupPerMatch : 0 ≤ usage.startupRequestsPerMatch
  steadyFixed : 0 ≤ usage.steadyRequestsPerMinuteFixed
  steadyPerMatch : 0 ≤ usage.steadyRequestsPerMinutePerMatch
  resyncPerMatch : 0 ≤ usage.resyncRequestsPerMatch
  resyncsPerHour : 0 ≤ usage.maxResyncsPerMatchPerHour
  connections : 0 < usage.maxConnections
  subscriptions : 0 < usage.subscriptionsPerMatch

theorem validateUsage_eq_ok {usage : AdapterUsagePlan} :
    validateUsage usage = .ok () ↔ usage.Valid := by
  simp only [validateUsage, List.forM_eq_forM, List.forM_cons, List.forM_nil, bind_eq_ok,
    refuse_eq_ok, exists_unit, pure_eq_ok, not_lt, not_le]
  constructor
  · rintro ⟨⟨a, b, c, d, e, f, -⟩, g, h, -⟩
    exact ⟨a, b, c, d, e, f, g, h⟩
  · rintro ⟨a, b, c, d, e, f, g, h⟩
    exact ⟨⟨a, b, c, d, e, f, trivial⟩, g, h, trivial⟩

namespace Demand

variable {d : Demand} {day : ℤ}

/-- The session goes on for some time. -/
def Runs (d : Demand) : Prop := d.start.microseconds < d.finish.microseconds

/-- The day is one that the session touches. -/
def Touches (d : Demand) (day : ℤ) : Prop := d.start.date ≤ day ∧ day ≤ d.finalDay

/-- The end of the calendar does not cut a session short. -/
theorem overlapUs_eq (touched : d.Touches day) : d.overlapUs day =
    min d.finish.microseconds ((day + 1) * microsecondsPerDay) -
      max d.start.microseconds (day * microsecondsPerDay) := by
  have inside := d.finish.inside
  have last := touched.2
  unfold overlapUs dayEnd
  unfold finalDay at last
  simp only [microsecondsPerDay, calendarDays] at inside last ⊢
  split_ifs <;> omega

theorem overlapUs_pos (runs : d.Runs) (touched : d.Touches day) : 0 < d.overlapUs day := by
  rw [overlapUs_eq touched]
  unfold Runs at runs
  unfold Touches finalDay Datetime.date at touched
  simp only [microsecondsPerDay] at touched ⊢
  omega

theorem touches_start (runs : d.Runs) : d.Touches d.start.date := by
  unfold Runs at runs
  unfold Touches finalDay Datetime.date
  simp only [microsecondsPerDay]
  omega

theorem finalDay_lt (d : Demand) : d.finalDay < calendarDays := by
  have inside := d.finish.inside
  unfold finalDay
  simp only [microsecondsPerDay, calendarDays] at inside ⊢
  omega

/-- The loop adds the demands of the days up to the last one. -/
theorem dayDemands_eq (runs : d.Runs) (demands : List ℤ) (touched : d.Touches day) :
    d.dayDemands day demands = .ok (demands ++
      (List.range (d.finalDay + 1 - day).toNat).map fun i : ℕ => d.dayDemand (day + i)) := by
  have calendar := d.finalDay_lt
  obtain ⟨rest, last⟩ : ∃ rest : ℕ, d.finalDay = day + rest :=
    ⟨(d.finalDay - day).toNat, by have order := touched.2; omega⟩
  have length : (d.finalDay + 1 - day).toNat = rest + 1 := by omega
  rw [length]
  clear length
  induction rest generalizing day demands with
  | zero =>
      rw [dayDemands, if_pos touched.2, if_pos (overlapUs_pos runs touched), if_pos (by omega)]
      simp
  | succ rest ih =>
      have next : d.Touches (day + 1) := ⟨by have first := touched.1; omega, by omega⟩
      rw [dayDemands, if_pos touched.2, if_pos (overlapUs_pos runs touched), if_neg (by omega),
        if_pos (by omega), ih _ next (by omega)]
      conv_rhs => rw [List.range_succ_eq_map, List.map_cons, List.map_map]
      have later (i : ℕ) : day + 1 + i = day + (i + 1 : ℕ) := by omega
      simp [Function.comp_def, later]

/-- The largest demand of the days that the session touches. -/
structure Largest (d : Demand) (most : ℤ) : Prop where
  attained : ∃ day, d.Touches day ∧ d.dayDemand day = most
  bounds : ∀ day, d.Touches day → d.dayDemand day ≤ most

/-- The loop finds the largest demand of a day. -/
theorem dayDemands_max (runs : d.Runs) : ∃ demands most,
    d.dayDemands d.start.date [] = .ok demands ∧ demands.max? = some most ∧ d.Largest most := by
  have listed := dayDemands_eq runs [] (touches_start runs)
  rw [List.nil_append] at listed
  generalize written : (List.range (d.finalDay + 1 - d.start.date).toNat).map
    (fun i : ℕ => d.dayDemand (d.start.date + i)) = demands at listed
  have mem (x : ℤ) : x ∈ demands ↔ ∃ day, d.Touches day ∧ d.dayDemand day = x := by
    rw [← written]
    simp only [List.mem_map, List.mem_range]
    constructor
    · rintro ⟨i, inside, rfl⟩
      exact ⟨_, ⟨by omega, by omega⟩, rfl⟩
    · rintro ⟨day, touched, rfl⟩
      have first := touched.1
      have last := touched.2
      exact ⟨(day - d.start.date).toNat, by omega, congrArg d.dayDemand (by omega)⟩
  have some_day : demands ≠ [] :=
    List.ne_nil_of_mem ((mem _).mpr ⟨_, touches_start runs, rfl⟩)
  obtain ⟨most, largest⟩ := Option.isSome_iff_exists.mp (List.isSome_max?_of_ne_nil some_day)
  obtain ⟨attained, bounds⟩ := List.max?_eq_some_iff.mp largest
  exact ⟨demands, most, listed, largest, (mem most).mp attained, fun day touched =>
    bounds _ ((mem _).mpr ⟨day, touched, rfl⟩)⟩

end Demand

/-! ## The figures -/

/-- A request for so many matches from `start` to `finish`. -/
def sessionRequest (requested : ℤ) (start finish : Datetime) : SessionRequest :=
  ⟨some requested, some ⟨start, some 0⟩, some ⟨finish, some 0⟩⟩

namespace AdapterUsagePlan

variable (usage : AdapterUsagePlan) (requested : ℤ)

/-- The startup requests of so many matches. -/
def startup : ℤ := usage.startupRequestsFixed + requested * usage.startupRequestsPerMatch

/-- The steady requests of a minute. -/
def steadyMinute : ℤ :=
  usage.steadyRequestsPerMinuteFixed + requested * usage.steadyRequestsPerMinutePerMatch

/-- The resync requests of an hour. -/
def resyncHour : ℤ :=
  requested * usage.resyncRequestsPerMatch * usage.maxResyncsPerMatchPerHour

def demand (start finish : Datetime) : Demand :=
  ⟨start, finish, usage.startup requested, usage.steadyMinute requested,
    usage.resyncHour requested⟩

/-- The figures with the given one for a day. -/
def quotas (most : ℤ) : ProviderQuotas :=
  let worstCluster :=
    usage.startup requested + usage.steadyMinute requested + usage.resyncHour requested
  ⟨worstCluster, most, worstCluster, usage.maxConnections,
    requested * usage.subscriptionsPerMatch, usage.resyncHour requested⟩

end AdapterUsagePlan

section

variable {usage : AdapterUsagePlan} {requested : ℤ} {start finish : Datetime}

/-- The function answers, with the largest demand of a day. -/
theorem deriveQuotaDemand_ok (valid : usage.Valid) (positive : 0 < requested)
    (before : start.microseconds < finish.microseconds) : ∃ most,
      (usage.demand requested start finish).Largest most ∧
      deriveQuotaDemand usage (sessionRequest requested start finish) =
        .ok (usage.quotas requested most) := by
  have runs : (usage.demand requested start finish).Runs := before
  obtain ⟨demands, most, listed, found, largest⟩ := Demand.dayDemands_max runs
  refine ⟨most, largest, ?_⟩
  have checked := validateUsage_eq_ok.mpr valid
  have some_match : ¬requested ≤ 0 := by omega
  have order : ¬finish.microseconds ≤ start.microseconds := by omega
  unfold deriveQuotaDemand
  rw [checked, ok_bind]
  change (refuse (requested ≤ 0) _ >>= fun _ => _) = _
  rw [refuse_ok _ some_match, ok_bind]
  change (refuse (finish.microseconds ≤ start.microseconds) _ >>= fun _ => _) = _
  rw [refuse_ok _ order, ok_bind]
  change ((usage.demand requested start finish).dayDemands start.date [] >>= fun _ => _) = _
  change (usage.demand requested start finish).dayDemands start.date [] = _ at listed
  rw [listed, ok_bind]
  simp only [found]
  rfl

end

end Inci.Adapter
