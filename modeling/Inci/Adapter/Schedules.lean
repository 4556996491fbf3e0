/-
# Adapter.Schedules -- the figures against the requests of a session

A schedule is what a session asks for: its startup requests at its start, and steady and
resync requests that keep their rates.  The figures of `deriveQuotaDemand` bound every schedule
(`Admissible.day_le`, `Admissible.window_le`), a schedule reaches the figure for a day
(`busiest_onDay`), and more matches or a later end never lower a figure (`quotas_mono`).
-/
import Inci.Adapter.QuotaDemand
import Inci.Theory.RateLimit
import Mathlib.Data.Real.Basic

namespace Inci.Adapter

open Inci.Theory Inci.Theory.RateLimit

set_option autoImplicit false

/-! ## Schedules -/

/-- The times of a session's requests, in microseconds. -/
structure Schedule where
  startup : List ℝ
  steady : List ℝ
  resync : List ℝ

namespace Schedule

def requests (s : Schedule) : List ℝ := s.startup ++ (s.steady ++ s.resync)

/-- The requests that are made in a day of the calendar. -/
noncomputable def onDay (s : Schedule) (day : ℤ) : ℕ :=
  count ((day * microsecondsPerDay : ℤ) : ℝ) (((day + 1) * microsecondsPerDay : ℤ) : ℝ) s.requests

/-- The requests of a half-open window. -/
noncomputable def within (s : Schedule) (window : ℤ) (t : ℝ) : ℕ := count t (t + window) s.requests

/-- The requests lie in the session, the startup requests at its start, and the others keep the
rates of the plan. -/
structure Admissible (s : Schedule) (d : Demand) : Prop where
  startup : s.startup = List.replicate d.startup.toNat (d.start.microseconds : ℝ)
  steady_inside : ∀ t ∈ s.steady, (d.start.microseconds : ℝ) ≤ t ∧ t < d.finish.microseconds
  steady_rate : Limited (microsecondsPerMinute : ℝ) d.steadyMinute s.steady
  resync_inside : ∀ t ∈ s.resync, (d.start.microseconds : ℝ) ≤ t ∧ t < d.finish.microseconds
  resync_rate : Limited (microsecondsPerHour : ℝ) d.resyncHour s.resync

end Schedule

/-! ## Ceilings -/

theorem le_ceilDiv {n d : ℤ} (positive : 0 < d) : n ≤ ceilDiv n d * d := by
  have division := Int.emod_add_mul_ediv (n + d - 1) d
  have rest := Int.emod_lt_of_pos (n + d - 1) positive
  unfold ceilDiv
  rw [mul_comm]
  omega

theorem ceilDiv_lt {n d : ℤ} (positive : 0 < d) : (ceilDiv n d - 1) * d < n := by
  have division := Int.emod_add_mul_ediv (n + d - 1) d
  have rest := Int.emod_nonneg (n + d - 1) positive.ne'
  unfold ceilDiv
  rw [sub_mul, one_mul, mul_comm]
  omega

theorem ceilDiv_mono {n m d : ℤ} (positive : 0 < d) (less : n ≤ m) : ceilDiv n d ≤ ceilDiv m d :=
  Int.ediv_le_ediv positive (by omega)

theorem ceilDiv_nonneg {n d : ℤ} (positive : 0 < d) (nonneg : 0 ≤ n) : 0 ≤ ceilDiv n d :=
  Int.ediv_nonneg (by omega) positive.le

/-! ## The figures bound every schedule -/

variable {d : Demand} {day : ℤ}

/-- The part of a day that lies in the session, as the overlap. -/
theorem overlap_cast (touched : d.Touches day) :
    min (d.finish.microseconds : ℝ) ((day + 1) * microsecondsPerDay : ℤ) =
      max (d.start.microseconds : ℝ) (day * microsecondsPerDay : ℤ) + d.overlapUs day := by
  have overlap := Demand.overlapUs_eq touched
  have whole : min d.finish.microseconds ((day + 1) * microsecondsPerDay) =
      max d.start.microseconds (day * microsecondsPerDay) + d.overlapUs day := by omega
  exact_mod_cast whole

/-- A rate that is kept in a session, on one of its days. -/
theorem count_day_le {window most : ℤ} {times : List ℝ} (positive : 0 < window)
    (limited : Limited (window : ℝ) most times) (runs : d.Runs) (touched : d.Touches day)
    (inside : ∀ t ∈ times, (d.start.microseconds : ℝ) ≤ t ∧ t < d.finish.microseconds) :
    (count ((day * microsecondsPerDay : ℤ) : ℝ) ((day + 1) * microsecondsPerDay : ℤ) times : ℤ) ≤
      ceilDiv (d.overlapUs day) window * most := by
  have ceiling := le_ceilDiv (n := d.overlapUs day) positive
  obtain ⟨n, windows⟩ := Int.eq_ofNat_of_zero_le
    (ceilDiv_nonneg positive (Demand.overlapUs_pos runs touched).le)
  rw [count_clip inside, overlap_cast touched, windows]
  rw [windows] at ceiling
  apply limited.count_le
  rw [nsmul_eq_mul]
  exact add_le_add_right (by exact_mod_cast ceiling) _

theorem count_startup (d : Demand) (nonneg : 0 ≤ d.startup) (day : ℤ) :
    (count ((day * microsecondsPerDay : ℤ) : ℝ) ((day + 1) * microsecondsPerDay : ℤ)
      (List.replicate d.startup.toNat (d.start.microseconds : ℝ)) : ℤ) =
      if d.start.date = day then d.startup else 0 := by
  have place : ((day * microsecondsPerDay : ℤ) : ℝ) ≤ d.start.microseconds ∧
      (d.start.microseconds : ℝ) < ((day + 1) * microsecondsPerDay : ℤ) ↔ d.start.date = day := by
    rw [Int.cast_le, Int.cast_lt]
    unfold Datetime.date
    simp only [microsecondsPerDay]
    omega
  rw [count_replicate, if_congr place rfl rfl]
  split_ifs
  · exact Int.toNat_of_nonneg nonneg
  · rfl

namespace Schedule.Admissible

variable {s : Schedule}

/-- The requests of a day that the session touches. -/
theorem touched_le (admissible : s.Admissible d) (nonneg : 0 ≤ d.startup) (runs : d.Runs)
    (touched : d.Touches day) : (s.onDay day : ℤ) ≤ d.dayDemand day := by
  have startup := count_startup d nonneg day
  have steady := count_day_le (by decide) admissible.steady_rate runs touched
    admissible.steady_inside
  have resync := count_day_le (by decide) admissible.resync_rate runs touched
    admissible.resync_inside
  unfold onDay requests Demand.dayDemand
  rw [count_append, count_append, admissible.startup]
  push_cast at startup steady resync ⊢
  omega

/-- All requests lie in the session. -/
theorem inside (admissible : s.Admissible d) (runs : d.Runs) :
    ∀ t ∈ s.requests, (d.start.microseconds : ℝ) ≤ t ∧ t < d.finish.microseconds := by
  intro t member
  unfold requests at member
  rcases List.mem_append.mp member with startup | later
  · rw [admissible.startup] at startup
    rw [List.eq_of_mem_replicate startup]
    exact ⟨le_rfl, by exact_mod_cast runs⟩
  · rcases List.mem_append.mp later with steady | resync
    · exact admissible.steady_inside t steady
    · exact admissible.resync_inside t resync

/-- No request is made on a day that the session does not touch. -/
theorem untouched (admissible : s.Admissible d) (runs : d.Runs) (away : ¬d.Touches day) :
    s.onDay day = 0 := by
  have apart : (day + 1) * microsecondsPerDay ≤ d.start.microseconds ∨
      d.finish.microseconds ≤ day * microsecondsPerDay := by
    unfold Demand.Touches Demand.finalDay Datetime.date at away
    simp only [microsecondsPerDay] at away ⊢
    omega
  apply count_none
  intro t member
  obtain ⟨from_start, to_finish⟩ := admissible.inside runs t member
  rcases apart with before | after
  · exact .inr (le_trans (by exact_mod_cast before) from_start)
  · exact .inl (to_finish.trans_le (by exact_mod_cast after))

/-- The requests of any day are at most the largest demand of a day. -/
theorem day_le (admissible : s.Admissible d) (nonneg : 0 ≤ d.startup) (runs : d.Runs) {most : ℤ}
    (largest : d.Largest most) (day : ℤ) : (s.onDay day : ℤ) ≤ most := by
  by_cases touched : d.Touches day
  · exact (admissible.touched_le nonneg runs touched).trans (largest.bounds day touched)
  · have first := Demand.touches_start runs
    have some_day := (admissible.touched_le nonneg runs first).trans (largest.bounds _ first)
    rw [admissible.untouched runs touched]
    omega

/-- A window of at most a minute holds at most what the rates and the startup allow. -/
theorem window_le (admissible : s.Admissible d) (nonneg : 0 ≤ d.startup) {window : ℤ}
    (short : window ≤ microsecondsPerMinute) (t : ℝ) :
    (s.within window t : ℤ) ≤ d.startup + d.steadyMinute + d.resyncHour := by
  have minute : (window : ℝ) ≤ microsecondsPerMinute := by exact_mod_cast short
  have hour : (window : ℝ) ≤ microsecondsPerHour := by
    have longer : window ≤ microsecondsPerHour := short.trans (by decide)
    exact_mod_cast longer
  have startup : (count t (t + window) s.startup : ℤ) ≤ d.startup := by
    have most : count t (t + window) s.startup ≤ s.startup.length := List.countP_le_length
    rw [admissible.startup, List.length_replicate] at most
    rw [admissible.startup]
    omega
  have steady := admissible.steady_rate t
  have steady_part : count t (t + window) s.steady ≤ count t (t + microsecondsPerMinute) s.steady :=
    count_mono le_rfl (add_le_add_right minute t)
  have resync := admissible.resync_rate t
  have resync_part : count t (t + window) s.resync ≤ count t (t + microsecondsPerHour) s.resync :=
    count_mono le_rfl (add_le_add_right hour t)
  unfold within requests
  rw [count_append, count_append]
  push_cast
  omega

end Schedule.Admissible

/-! ## A schedule that reaches the figure for a day -/

/-- Clusters from the first moment of a day on that lies in the session. -/
noncomputable def dayClusters (d : Demand) (day window most : ℤ) : List ℝ :=
  clusters (window : ℝ) most.toNat
    (max (d.start.microseconds : ℝ) (day * microsecondsPerDay : ℤ))
    (ceilDiv (d.overlapUs day) window).toNat

theorem dayClusters_inside {window : ℤ} (positive : 0 < window) (most : ℤ) (runs : d.Runs)
    (touched : d.Touches day) : ∀ t ∈ dayClusters d day window most,
      max (d.start.microseconds : ℝ) (day * microsecondsPerDay : ℤ) ≤ t ∧
        t < min (d.finish.microseconds : ℝ) ((day + 1) * microsecondsPerDay : ℤ) := by
  have some_time := Demand.overlapUs_pos runs touched
  have last := ceilDiv_lt (n := d.overlapUs day) positive
  have nonneg := le_ceilDiv (n := d.overlapUs day) positive
  have whole : 0 < ceilDiv (d.overlapUs day) window := by
    by_contra none
    have product := mul_nonpos_of_nonpos_of_nonneg (not_lt.mp none) positive.le
    omega
  obtain ⟨n, windows⟩ : ∃ n : ℕ, ceilDiv (d.overlapUs day) window = n + 1 :=
    ⟨(ceilDiv (d.overlapUs day) window - 1).toNat, by omega⟩
  apply clusters_inside (by exact_mod_cast positive.le)
  rw [overlap_cast touched]
  have count : (ceilDiv (d.overlapUs day) window).toNat - 1 = n := by omega
  rw [count, nsmul_eq_mul]
  rw [windows, Int.add_sub_cancel] at last
  exact add_lt_add_right (by exact_mod_cast last) _

theorem count_dayClusters {window most : ℤ} (positive : 0 < window) (nonneg : 0 ≤ most)
    (runs : d.Runs) (touched : d.Touches day) :
    (count ((day * microsecondsPerDay : ℤ) : ℝ) ((day + 1) * microsecondsPerDay : ℤ)
      (dayClusters d day window most) : ℤ) = ceilDiv (d.overlapUs day) window * most := by
  have inside := dayClusters_inside positive most runs touched
  have some_time := Demand.overlapUs_pos runs touched
  rw [count_all fun t member => ⟨(le_max_right _ _).trans (inside t member).1,
    (inside t member).2.trans_le (min_le_right _ _)⟩]
  unfold dayClusters
  rw [length_clusters, Nat.cast_mul, Int.toNat_of_nonneg nonneg,
    Int.toNat_of_nonneg (ceilDiv_nonneg positive some_time.le)]

/-- The requests of a session that is as busy as it may be on a day. -/
noncomputable def busiest (d : Demand) (day : ℤ) : Schedule :=
  ⟨List.replicate d.startup.toNat (d.start.microseconds : ℝ),
    dayClusters d day microsecondsPerMinute d.steadyMinute,
    dayClusters d day microsecondsPerHour d.resyncHour⟩

structure Demand.Nonneg (d : Demand) : Prop where
  startup : 0 ≤ d.startup
  steady : 0 ≤ d.steadyMinute
  resync : 0 ≤ d.resyncHour

theorem busiest_admissible (nonneg : d.Nonneg) (runs : d.Runs) (touched : d.Touches day) :
    (busiest d day).Admissible d := by
  have limited {window most : ℤ} (positive : 0 < window) (some : 0 ≤ most) :
      Limited (window : ℝ) most (dayClusters d day window most) := by
    have rate : Limited (window : ℝ) most.toNat (dayClusters d day window most) :=
      clusters_limited (by exact_mod_cast positive.le) _ _ _
    rwa [Int.toNat_of_nonneg some] at rate
  have inside {window : ℤ} (positive : 0 < window) (most : ℤ) :
      ∀ t ∈ dayClusters d day window most,
        (d.start.microseconds : ℝ) ≤ t ∧ t < d.finish.microseconds := by
    intro t member
    have between := dayClusters_inside positive most runs touched t member
    exact ⟨(le_max_left _ _).trans between.1, between.2.trans_le (min_le_left _ _)⟩
  exact ⟨rfl, inside (by decide) _, limited (by decide) nonneg.steady, inside (by decide) _,
    limited (by decide) nonneg.resync⟩

/-- It makes as many requests as the day demands. -/
theorem busiest_onDay (nonneg : d.Nonneg) (runs : d.Runs) (touched : d.Touches day) :
    ((busiest d day).onDay day : ℤ) = d.dayDemand day := by
  have startup := count_startup d nonneg.startup day
  have steady := count_dayClusters (by decide : 0 < microsecondsPerMinute) nonneg.steady runs touched
  have resync := count_dayClusters (by decide : 0 < microsecondsPerHour) nonneg.resync runs touched
  unfold busiest Schedule.onDay Schedule.requests Demand.dayDemand
  dsimp only
  rw [count_append, count_append]
  push_cast at startup steady resync ⊢
  omega

/-! ## More matches, a later end -/

/-- No figure is above the other's. -/
structure ProviderQuotas.Within (quotas others : ProviderQuotas) : Prop where
  minute : quotas.requestsPerRolling60Seconds ≤ others.requestsPerRolling60Seconds
  day : quotas.requestsPerUtcCalendarDay ≤ others.requestsPerUtcCalendarDay
  second : quotas.requestsPerRollingSecond ≤ others.requestsPerRollingSecond
  connections : quotas.maxConnections ≤ others.maxConnections
  subscriptions : quotas.maxSubscriptions ≤ others.maxSubscriptions
  resync : quotas.resyncRequestsPerRollingHour ≤ others.resyncRequestsPerRollingHour

section

variable {usage : AdapterUsagePlan} {requested more : ℤ} {start finish later : Datetime}

theorem demand_nonneg (valid : usage.Valid) (positive : 0 < requested) :
    (usage.demand requested start finish).Nonneg := by
  obtain ⟨a, b, c, d, e, f, -, -⟩ := valid
  have some := positive.le
  constructor
  · show 0 ≤ usage.startupRequestsFixed + requested * usage.startupRequestsPerMatch
    positivity
  · show 0 ≤ usage.steadyRequestsPerMinuteFixed +
      requested * usage.steadyRequestsPerMinutePerMatch
    positivity
  · show 0 ≤ requested * usage.resyncRequestsPerMatch * usage.maxResyncsPerMatchPerHour
    positivity

/-- The rates grow with the matches. -/
theorem rates_mono (valid : usage.Valid) (fewer : requested ≤ more) :
    usage.startup requested ≤ usage.startup more ∧
      usage.steadyMinute requested ≤ usage.steadyMinute more ∧
      usage.resyncHour requested ≤ usage.resyncHour more := by
  obtain ⟨-, b, -, d, e, f, -, -⟩ := valid
  unfold AdapterUsagePlan.startup AdapterUsagePlan.steadyMinute AdapterUsagePlan.resyncHour
  refine ⟨?_, ?_, ?_⟩ <;> gcongr

/-- A day of the shorter session is one of the longer, and demands no less there. -/
theorem dayDemand_mono (valid : usage.Valid) (positive : 0 < requested) (fewer : requested ≤ more)
    (runs : start.microseconds < finish.microseconds)
    (order : finish.microseconds ≤ later.microseconds) {day : ℤ}
    (touched : (usage.demand requested start finish).Touches day) :
    (usage.demand more start later).Touches day ∧
      (usage.demand requested start finish).dayDemand day ≤
        (usage.demand more start later).dayDemand day := by
  have longer : (usage.demand more start later).Touches day := by
    refine ⟨touched.1, touched.2.trans ?_⟩
    exact Int.ediv_le_ediv (by decide) (sub_le_sub_right order 1)
  refine ⟨longer, ?_⟩
  obtain ⟨startup, steady, resync⟩ := rates_mono valid fewer
  have nonneg : (usage.demand requested start finish).Nonneg := demand_nonneg valid positive
  have overlaps : (usage.demand requested start finish).overlapUs day ≤
      (usage.demand more start later).overlapUs day := by
    rw [Demand.overlapUs_eq touched, Demand.overlapUs_eq longer]
    exact sub_le_sub_right (min_le_min_right _ order) _
  have some_time := Demand.overlapUs_pos (d := usage.demand requested start finish) runs touched
  have minutes := ceilDiv_mono (by decide : 0 < microsecondsPerMinute) overlaps
  have hours := ceilDiv_mono (by decide : 0 < microsecondsPerHour) overlaps
  have some_minutes := ceilDiv_nonneg (by decide : 0 < microsecondsPerMinute) some_time.le
  have some_hours := ceilDiv_nonneg (by decide : 0 < microsecondsPerHour) some_time.le
  have steadies := mul_le_mul minutes steady nonneg.steady (some_minutes.trans minutes)
  have resyncs := mul_le_mul hours resync nonneg.resync (some_hours.trans hours)
  have first : (if start.date = day then usage.startup requested else 0) ≤
      if start.date = day then usage.startup more else 0 := by
    split_ifs
    · exact startup
    · exact le_rfl
  exact add_le_add (add_le_add first steadies) resyncs

/-- More matches or a later end lower no figure. -/
theorem quotas_mono (valid : usage.Valid) (positive : 0 < requested) (fewer : requested ≤ more)
    (runs : start.microseconds < finish.microseconds)
    (order : finish.microseconds ≤ later.microseconds) {most most' : ℤ}
    (largest : (usage.demand requested start finish).Largest most)
    (largest' : (usage.demand more start later).Largest most') :
    (usage.quotas requested most).Within (usage.quotas more most') := by
  obtain ⟨startup, steady, resync⟩ := rates_mono valid fewer
  obtain ⟨day, touched, reached⟩ := largest.attained
  obtain ⟨longer, more_demand⟩ := dayDemand_mono valid positive fewer runs order touched
  have cluster := add_le_add (add_le_add startup steady) resync
  exact ⟨cluster, reached ▸ more_demand.trans (largest'.bounds day longer), cluster, le_rfl,
    mul_le_mul_of_nonneg_right fewer valid.subscriptions.le, resync⟩

/-- The figures are returned for every valid plan, they bound every schedule, a schedule
reaches the one for a day, and none falls with more matches or a later end. -/
theorem quota_demand_tight (valid : usage.Valid) (positive : 0 < requested)
    (runs : start.microseconds < finish.microseconds) :
    ∃ quotas, deriveQuotaDemand usage (sessionRequest requested start finish) = .ok quotas ∧
      (∀ s : Schedule, s.Admissible (usage.demand requested start finish) →
        (∀ day, (s.onDay day : ℤ) ≤ quotas.requestsPerUtcCalendarDay) ∧
        ∀ t, (s.within microsecondsPerMinute t : ℤ) ≤ quotas.requestsPerRolling60Seconds ∧
          (s.within 1000000 t : ℤ) ≤ quotas.requestsPerRollingSecond) ∧
      (∃ (s : Schedule) (day : ℤ), s.Admissible (usage.demand requested start finish) ∧
        (s.onDay day : ℤ) = quotas.requestsPerUtcCalendarDay) ∧
      ∀ (more : ℤ) (later : Datetime) (quotas' : ProviderQuotas), requested ≤ more →
        finish.microseconds ≤ later.microseconds →
        deriveQuotaDemand usage (sessionRequest more start later) = .ok quotas' →
        quotas.Within quotas' := by
  have nonneg : (usage.demand requested start finish).Nonneg := demand_nonneg valid positive
  have running : (usage.demand requested start finish).Runs := runs
  obtain ⟨most, largest, answer⟩ := deriveQuotaDemand_ok valid positive runs
  refine ⟨_, answer, ?_, ?_, ?_⟩
  · intro s admissible
    refine ⟨admissible.day_le nonneg.startup running largest, fun t => ⟨?_, ?_⟩⟩
    · exact admissible.window_le nonneg.startup le_rfl t
    · exact admissible.window_le nonneg.startup (by decide) t
  · obtain ⟨day, touched, reached⟩ := largest.attained
    exact ⟨busiest _ day, day, busiest_admissible nonneg running touched,
      (busiest_onDay nonneg running touched).trans reached⟩
  · intro more later quotas' fewer order answer'
    obtain ⟨most', largest', known⟩ :=
      deriveQuotaDemand_ok valid (positive.trans_le fewer) (runs.trans_le order)
    rw [known] at answer'
    cases answer'
    exact quotas_mono valid positive fewer runs order largest largest'

end

/-- A plan of one request of each kind. -/
def sampleUsage : AdapterUsagePlan := ⟨1, 1, 1, 1, 1, 1, 1, 1⟩

/-- The last minute of the calendar's first day. -/
def sampleStart : Datetime := ⟨86340000000, by decide, by decide⟩

def sampleFinish : Datetime := ⟨86460000000, by decide, by decide⟩

theorem sampleUsage_valid : sampleUsage.Valid := by
  constructor <;> decide

/-- Two matches over midnight: eight requests in a minute and on a day. -/
theorem quota_demand_sample :
    deriveQuotaDemand sampleUsage (sessionRequest 2 sampleStart sampleFinish) =
      .ok ⟨8, 8, 8, 1, 2, 2⟩ ∧
    (∀ s : Schedule, s.Admissible (sampleUsage.demand 2 sampleStart sampleFinish) →
      (∀ day, (s.onDay day : ℤ) ≤ 8) ∧
      ∀ t, (s.within microsecondsPerMinute t : ℤ) ≤ 8 ∧ (s.within 1000000 t : ℤ) ≤ 8) ∧
    ∃ (s : Schedule) (day : ℤ), s.Admissible (sampleUsage.demand 2 sampleStart sampleFinish) ∧
      (s.onDay day : ℤ) = 8 := by
  have runs : sampleStart.microseconds < sampleFinish.microseconds := by decide
  have positive : (0 : ℤ) < 2 := by decide
  have figures : deriveQuotaDemand sampleUsage (sessionRequest 2 sampleStart sampleFinish) =
      .ok ⟨8, 8, 8, 1, 2, 2⟩ := by
    decide +kernel
  obtain ⟨quotas, answer, bounds, reached, -⟩ :=
    quota_demand_tight sampleUsage_valid positive runs
  obtain rfl := Except.ok.inj (answer.symm.trans figures)
  exact ⟨figures, bounds, reached⟩

end Inci.Adapter
