/-
# Sportradar.Timeline -- progression from one timeline to the next

A timeline snapshot lists the events of a match so far.  `validateTimelineProgression`
compares two snapshots event by event: an event stays as it was, or is marked as updated
at a time after its revision time.  A chain of accepted steps is accepted end to end and
never takes an event back (`chain_pairwise`), as long as no step changes an event that was
updated at the epoch itself: the code reads such an update time as a missing one
(`revisionTime`), and only there may the next version be no later (`revised_iff`).
-/
import Inci.Sportradar.UtcTime
import Inci.Theory.Checks
import Mathlib.Data.List.Chain
import Mathlib.Algebra.Order.Ring.Rat

namespace Inci.Sportradar

open Inci.Theory

set_option autoImplicit false

/-! ## Snapshots -/

structure SportradarTimelineEvent where
  eventId : ℤ
  eventType : String
  eventWallNs : ℤ
  homeScore : Option ℤ
  awayScore : Option ℤ
  competitor : Option String
  server : Option String
  result : Option String
  firstServeFault : Option Bool
  period : Option ℤ
  periodName : Option String
  reason : Option String
  updated : Bool
  updatedWallNs : Option ℤ
  deriving DecidableEq

/-- The score that two snapshots are compared by. -/
structure DisplayedScore where
  status : String
  matchStatus : Option String
  setsHome : Option ℤ
  setsAway : Option ℤ
  gamesHome : Option ℤ
  gamesAway : Option ℤ
  pointsHome : String
  pointsAway : String
  serving : Option String
  inTiebreak : Option Bool
  deriving DecidableEq

structure SportradarScoreSnapshot extends DisplayedScore where
  providerMatchId : String
  generatedWallNs : ℤ
  deriving DecidableEq

structure SportradarTimelineSnapshot where
  score : SportradarScoreSnapshot
  events : List SportradarTimelineEvent
  deriving DecidableEq

/-! ## Reading the events -/

/-- A decoded JSON value. -/
inductive WireValue where
  | null
  | bool (b : Bool)
  | int (n : ℤ)
  | decimal (q : ℚ)
  | str (s : String)
  | list (items : List WireValue)
  | dict (members : List (String × WireValue))

/-- `value.get(key)` -/
def get (members : List (String × WireValue)) (key : String) : WireValue :=
  (members.lookup key).getD .null

def wireFailure : String := "sportradar_wire_contract_invalid"

/-- `_text` -/
def wireText (maximum : Nat) : WireValue → Except String String
  | .str s => if s = "" ∨ maximum < s.length then .error wireFailure else .ok s
  | _ => .error wireFailure

/-- `_integer` -/
def wireInteger (maximum : ℤ) : WireValue → Except String ℤ
  | .int n => if n < 0 ∨ maximum < n then .error wireFailure else .ok n
  | _ => .error wireFailure

/-- `_boolean` -/
def wireBoolean : WireValue → Except String Bool
  | .bool b => .ok b
  | _ => .error wireFailure

/-- `_optional_text`, `_optional_integer` and the fields that are read like them. -/
def wireOptional {α : Type} (read : WireValue → Except String α) : WireValue →
    Except String (Option α)
  | .null => .ok none
  | value => some <$> read value

/-- A text out of a vocabulary. -/
def oneOf (vocabulary : List String) (code : String) (word : Option String) : Except String Unit :=
  refuse (∃ w ∈ word, w ∉ vocabulary) code

def eventTypes : List String :=
  ["match_started", "match_called", "deciding_team", "first_serve", "period_start", "point",
    "period_score", "match_ended", "match_suspended", "match_resumed", "tie_break_points",
    "service_fault", "ball_position"]

def eventResults : List String := ["ace", "double_fault", "server_won", "receiver_won", "unknown"]

def suspendedReasons : List String := ["toilet_break", "bad_weather", "trainer_called"]

def eventKeys : List String :=
  ["away_score", "competitor", "first_serve_fault", "home_score", "id", "period", "period_name",
    "reason", "result", "server", "time", "type", "updated", "updated_time"]

/-- The period of an event: a number, or a digit as a text. -/
def wirePeriod : WireValue → Except String (Option ℤ)
  | .null => .ok none
  | .int n => do
      let period ← wireInteger 5 (.int n)
      refuse (period = 0) "sportradar_timeline_period_invalid"
      pure (some period)
  | .str "1" => .ok (some 1)
  | .str "2" => .ok (some 2)
  | .str "3" => .ok (some 3)
  | .str "4" => .ok (some 4)
  | .str "5" => .ok (some 5)
  | _ => .error "sportradar_timeline_period_invalid"

/-- `value.get("updated", False)` -/
def wireUpdated (members : List (String × WireValue)) : Except String Bool :=
  match members.lookup "updated" with
  | none => .ok false
  | some (.bool b) => .ok b
  | some _ => .error "sportradar_timeline_update_invalid"

section

/-! `isoNs` is the standard library's date reader: the nanoseconds of an ISO timestamp with an
offset, which are negative before the epoch. -/

variable (isoNs : String → Option ℤ)

/-- `_utc_ns` -/
def utcNs (value : WireValue) : Except String ℤ := do
  let candidate ← wireText 64 value
  match isoNs candidate with
  | none => .error "sportradar_timestamp_invalid"
  | some time => pure time

/-- `_timeline_event` -/
def timelineEvent : WireValue → Except String SportradarTimelineEvent
  | .dict members => do
      refuse (∃ m ∈ members, m.1 ∉ eventKeys) "sportradar_timeline_schema_unknown"
      let eventId ← wireInteger 9223372036854775807 (get members "id")
      let eventType ← wireText 32 (get members "type")
      oneOf eventTypes "sportradar_timeline_event_unknown" (some eventType)
      let eventWallNs ← utcNs isoNs (get members "time")
      let competitor ← wireOptional (wireText 8) (get members "competitor")
      oneOf ["home", "away"] "sportradar_timeline_competitor_invalid" competitor
      let server ← wireOptional (wireText 8) (get members "server")
      oneOf ["home", "away", "unknown"] "sportradar_timeline_server_invalid" server
      let result ← wireOptional (wireText 32) (get members "result")
      oneOf eventResults "sportradar_timeline_result_unknown" result
      let firstServeFault ← wireOptional wireBoolean (get members "first_serve_fault")
      let period ← wirePeriod (get members "period")
      let periodName ← wireOptional (wireText 64) (get members "period_name")
      let reason ← wireOptional (wireText 32) (get members "reason")
      oneOf suspendedReasons "sportradar_timeline_reason_unknown" reason
      let updated ← wireUpdated members
      let updatedWallNs ← wireOptional (utcNs isoNs) (get members "updated_time")
      refuse (updated = true ∧ updatedWallNs = none) "sportradar_timeline_update_invalid"
      let homeScore ← wireOptional (wireInteger 999) (get members "home_score")
      let awayScore ← wireOptional (wireInteger 999) (get members "away_score")
      pure ⟨eventId, eventType, eventWallNs, homeScore, awayScore, competitor, server, result,
        firstServeFault, period, periodName, reason, updated, updatedWallNs⟩
  | _ => .error wireFailure

/-- The end of `parse_sport_event_timeline`, with the score it has read before. -/
def parseTimeline (score : SportradarScoreSnapshot) : WireValue →
    Except String SportradarTimelineSnapshot
  | .list rows => do
      refuse (10000 < rows.length) wireFailure
      let events ← rows.mapM (timelineEvent isoNs)
      refuse (¬(events.map SportradarTimelineEvent.eventId).IsChain (· < ·))
        "sportradar_timeline_order_invalid"
      pure ⟨score, events⟩
  | _ => .error wireFailure

end

/-! ## Progression -/

/-- `old.updated_wall_ns or old.event_wall_ns`: Python's `or` passes over a zero. -/
def revisionTime (old : SportradarTimelineEvent) : ℤ :=
  match old.updatedWallNs with
  | none => old.eventWallNs
  | some time => if time = 0 then old.eventWallNs else time

/-- The loop over the events both snapshots have: whether one was corrected. -/
def correctedFrom : List SportradarTimelineEvent → List SportradarTimelineEvent → Bool →
    Except String Bool
  | old :: olds, new :: news, corrected => do
      refuse (old.eventId ≠ new.eventId) "sportradar_timeline_gap"
      if old = new then correctedFrom olds news corrected
      else
        match new.updatedWallNs with
        | none => .error "sportradar_timeline_unmarked_correction"
        | some time => do
            refuse (new.updated = false ∨ time ≤ revisionTime old)
              "sportradar_timeline_unmarked_correction"
            correctedFrom olds news true
  | _, _, corrected => .ok corrected

/-- The first new event has a larger id than the last old one. -/
def advances (previous current : SportradarTimelineSnapshot) : Except String Unit :=
  match previous.events.getLast?, current.events[previous.events.length]? with
  | some last, some next => refuse (next.eventId ≤ last.eventId) "sportradar_timeline_gap"
  | _, _ => .ok ()

def validateTimelineProgression (previous current : SportradarTimelineSnapshot) :
    Except String String := do
  refuse (previous.score.providerMatchId ≠ current.score.providerMatchId ∨
    current.score.generatedWallNs < previous.score.generatedWallNs ∨
    current.events.length < previous.events.length) "sportradar_timeline_gap"
  let corrected ← correctedFrom previous.events current.events false
  advances previous current
  let advanced := decide (previous.events.length < current.events.length)
  if corrected = true ∧ advanced = true then pure "corrected_and_advanced"
  else if corrected = true then pure "corrected"
  else if advanced = true then pure "advanced"
  else if current.score.toDisplayedScore ≠ previous.score.toDisplayedScore then
    pure "score_changed"
  else pure "unchanged"

/-! ## One step -/

/-- The step from one snapshot to the next is accepted, whatever it is called. -/
def Accepts (a b : SportradarTimelineSnapshot) : Prop :=
  ∃ kind, validateTimelineProgression a b = .ok kind

/-- An event as the next snapshot may show it. -/
def Follows (old new : SportradarTimelineEvent) : Prop :=
  old.eventId = new.eventId ∧
    (old = new ∨ new.updated = true ∧ ∃ time, new.updatedWallNs = some time ∧
      revisionTime old < time)

/-- Each old event is followed by the event at its place. -/
def FollowsEach (olds news : List SportradarTimelineEvent) : Prop :=
  ∀ (k : Nat) (old new : SportradarTimelineEvent),
    olds[k]? = some old → news[k]? = some new → Follows old new

theorem followsEach_cons {old new : SportradarTimelineEvent}
    {olds news : List SportradarTimelineEvent} :
    FollowsEach (old :: olds) (new :: news) ↔ Follows old new ∧ FollowsEach olds news := by
  constructor
  · intro each
    exact ⟨each 0 old new rfl rfl, fun k o n here there => each (k + 1) o n here there⟩
  · rintro ⟨first, each⟩ k o n here there
    cases k with
    | zero =>
        obtain rfl := Option.some.inj here
        obtain rfl := Option.some.inj there
        exact first
    | succ k => exact each k o n here there

theorem correctedFrom_ok {olds news : List SportradarTimelineEvent} {corrected : Bool} :
    (∃ answer, correctedFrom olds news corrected = .ok answer) ↔ FollowsEach olds news := by
  induction olds generalizing news corrected with
  | nil => exact ⟨fun _ k old new here => (nomatch here), fun _ => ⟨corrected, rfl⟩⟩
  | cons old olds ih =>
      cases news with
      | nil => exact ⟨fun _ k old new _ there => (nomatch there), fun _ => ⟨corrected, rfl⟩⟩
      | cons new news =>
          rw [followsEach_cons, correctedFrom, Follows]
          simp only [bind_eq_ok, exists_unit, refuse_eq_ok, not_not]
          by_cases same : old = new
          · simp only [if_pos same, exists_and_left, ih]
            tauto
          · simp only [if_neg same, exists_and_left]
            cases new.updatedWallNs with
            | none => simp [same]
            | some time =>
                simp only [bind_eq_ok, exists_unit, refuse_eq_ok, exists_and_left, ih]
                simp [same, and_assoc]

theorem accepts_iff {a b : SportradarTimelineSnapshot} :
    Accepts a b ↔ a.score.providerMatchId = b.score.providerMatchId ∧
      a.score.generatedWallNs ≤ b.score.generatedWallNs ∧ a.events.length ≤ b.events.length ∧
      FollowsEach a.events b.events ∧ advances a b = .ok () := by
  rw [← @correctedFrom_ok a.events b.events false]
  unfold Accepts validateTimelineProgression
  constructor
  · rintro ⟨kind, answer⟩
    obtain ⟨_, fits, answer⟩ := bind_eq_ok.mp answer
    obtain ⟨corrected, compared, answer⟩ := bind_eq_ok.mp answer
    obtain ⟨_, advanced, -⟩ := bind_eq_ok.mp answer
    rw [refuse_eq_ok] at fits
    simp only [not_or, not_not, not_lt] at fits
    exact ⟨fits.1, fits.2.1, fits.2.2, ⟨corrected, compared⟩, advanced⟩
  · rintro ⟨sameMatch, later, longer, ⟨corrected, compared⟩, advanced⟩
    have fits : ¬(a.score.providerMatchId ≠ b.score.providerMatchId ∨
        b.score.generatedWallNs < a.score.generatedWallNs ∨
        b.events.length < a.events.length) := by
      simp only [not_or, not_not, not_lt]
      exact ⟨sameMatch, later, longer⟩
    rw [refuse_ok _ fits, compared, advanced]
    simp only [ok_bind]
    split_ifs <;> exact ⟨_, rfl⟩

/-! ## Revisions -/

/-- When an event was last revised: its updated time, if it has one. -/
def revision (event : SportradarTimelineEvent) : ℤ := event.updatedWallNs.getD event.eventWallNs

/-- An event updated at the epoch that happened before it. -/
def EpochCorrection (event : SportradarTimelineEvent) : Prop :=
  event.updatedWallNs = some 0 ∧ event.eventWallNs < 0

theorem revision_le {event : SportradarTimelineEvent} (clear : ¬EpochCorrection event) :
    revision event ≤ revisionTime event := by
  unfold revision revisionTime
  unfold EpochCorrection at clear
  cases time : event.updatedWallNs with
  | none => exact le_refl _
  | some t =>
      rw [time, Option.some.injEq] at clear
      show t ≤ if t = 0 then event.eventWallNs else t
      split_ifs with zero
      · have after : ¬event.eventWallNs < 0 := fun before => clear ⟨zero, before⟩
        omega
      · exact le_refl t

theorem Follows.revised {old new : SportradarTimelineEvent} (follows : Follows old new)
    (left : EpochCorrection old → old = new) : old = new ∨ revision old < revision new := by
  by_cases epoch : EpochCorrection old
  · exact Or.inl (left epoch)
  obtain ⟨-, same | ⟨-, time, updated, later⟩⟩ := follows
  · exact Or.inl same
  · right
    calc revision old ≤ revisionTime old := revision_le epoch
      _ < time := later
      _ = revision new := by rw [revision, updated, Option.getD_some]

theorem Follows.trans {one two three : SportradarTimelineEvent} (first : Follows one two)
    (second : Follows two three) (left : EpochCorrection two → two = three) :
    Follows one three := by
  by_cases epoch : EpochCorrection two
  · rw [← left epoch]
    exact first
  obtain ⟨sameId, same | ⟨marked, time, updated, later⟩⟩ := first
  · rw [same]
    exact second
  obtain ⟨sameId', same' | ⟨marked', time', updated', later'⟩⟩ := second
  · rw [← same']
    exact ⟨sameId, Or.inr ⟨marked, time, updated, later⟩⟩
  · have earlier := revision_le epoch
    rw [revision, updated, Option.getD_some] at earlier
    exact ⟨sameId.trans sameId', Or.inr ⟨marked', time', updated', by omega⟩⟩

/-- Only for a correction at the epoch may the next version be no later. -/
theorem revised_iff {old : SportradarTimelineEvent} :
    (∀ new, Follows old new → old = new ∨ revision old < revision new) ↔
      ¬EpochCorrection old := by
  constructor
  · rintro revised ⟨updated, before⟩
    -- the same update once more, of an event that happened later
    have follows : Follows old { old with updated := true, eventWallNs := old.eventWallNs + 1 } := by
      refine ⟨rfl, Or.inr ⟨rfl, 0, updated, ?_⟩⟩
      rw [revisionTime, updated]
      exact before
    rcases revised _ follows with same | later
    · have times := congrArg SportradarTimelineEvent.eventWallNs same
      simp at times
    · simp only [revision, updated, Option.getD_some, lt_self_iff_false] at later
  · exact fun clear new follows => follows.revised fun epoch => absurd epoch clear

/-! ## Chains -/

/-- The step changes no event that was corrected at the epoch. -/
def LeavesEpochCorrections (a b : SportradarTimelineSnapshot) : Prop :=
  ∀ (k : Nat) (old new : SportradarTimelineEvent), a.events[k]? = some old →
    b.events[k]? = some new → EpochCorrection old → old = new

theorem LeavesEpochCorrections.trans {a b c : SportradarTimelineSnapshot}
    (one : LeavesEpochCorrections a b) (two : LeavesEpochCorrections b c)
    (longer : a.events.length ≤ b.events.length) : LeavesEpochCorrections a c := by
  intro k old new here there epoch
  have inside : k < b.events.length := by
    have within := (List.getElem?_eq_some_iff.mp here).1
    omega
  have between := List.getElem?_eq_getElem inside
  have same := one k old _ here between epoch
  exact same.trans (two k _ new between there (same ▸ epoch))

theorem Accepts.trans {a b c : SportradarTimelineSnapshot} (one : Accepts a b)
    (two : Accepts b c) (leaves : LeavesEpochCorrections b c) : Accepts a c := by
  obtain ⟨sameMatch, later, longer, each, advanced⟩ := accepts_iff.mp one
  obtain ⟨sameMatch', later', longer', each', advanced'⟩ := accepts_iff.mp two
  refine accepts_iff.mpr ⟨sameMatch.trans sameMatch', later.trans later', longer.trans longer', ?_, ?_⟩
  · intro k old new here there
    have inside : k < b.events.length := by
      have within := (List.getElem?_eq_some_iff.mp here).1
      omega
    have between := List.getElem?_eq_getElem inside
    exact (each k old _ here between).trans (each' k _ new between there)
      (leaves k _ new between there)
  · unfold advances at advanced advanced' ⊢
    cases ending : a.events.getLast? with
    | none => rfl
    | some last =>
        cases beyond : c.events[a.events.length]? with
        | none => rfl
        | some next =>
            rw [ending] at advanced
            show refuse (next.eventId ≤ last.eventId) _ = .ok ()
            by_cases grown : a.events.length < b.events.length
            · have between := List.getElem?_eq_getElem grown
              rw [between] at advanced
              have larger := (refuse_eq_ok _ _ _).mp advanced
              have same := (each' _ _ next between beyond).1
              exact refuse_ok _ (by omega)
            · -- the two first snapshots end with events of one id
              have level : a.events.length = b.events.length := by omega
              have inside : a.events.length - 1 < b.events.length := by
                have some := List.length_pos_of_ne_nil (List.getLast?_isSome.mp (by rw [ending]; rfl))
                omega
              have before := List.getElem?_eq_getElem inside
              have here : a.events[a.events.length - 1]? = some last := by
                rw [← ending, List.getLast?_eq_getElem?]
              have same := (each _ last _ here before).1
              have tail : b.events.getLast? = some b.events[a.events.length - 1] := by
                rw [List.getLast?_eq_getElem?, ← level]
                exact before
              rw [tail, ← level, beyond] at advanced'
              have larger := (refuse_eq_ok _ _ _).mp advanced'
              exact refuse_ok _ (by omega)

/-- What a later snapshot keeps of an earlier one. -/
structure Extends (a b : SportradarTimelineSnapshot) : Prop where
  ids : a.events.map SportradarTimelineEvent.eventId <+:
    b.events.map SportradarTimelineEvent.eventId
  revised : ∀ (k : Nat) (old new : SportradarTimelineEvent), a.events[k]? = some old →
    b.events[k]? = some new → old = new ∨ revision old < revision new

theorem Accepts.extends {a b : SportradarTimelineSnapshot} (accepted : Accepts a b)
    (leaves : LeavesEpochCorrections a b) : Extends a b := by
  obtain ⟨-, -, longer, each, -⟩ := accepts_iff.mp accepted
  refine ⟨List.prefix_iff_getElem?.mpr fun k inside => ?_, fun k old new here there => ?_⟩
  · rw [List.length_map] at inside
    have within : k < b.events.length := by omega
    have same := each k _ _ (List.getElem?_eq_getElem inside) (List.getElem?_eq_getElem within)
    rw [List.getElem?_map, List.getElem?_eq_getElem within, List.getElem_map, Option.map_some]
    exact congrArg some same.1.symm
  · exact (each k old new here there).revised (leaves k old new here there)

/-- Along a chain of accepted steps every two snapshots make an accepted step. -/
theorem chain_pairwise {snapshots : List SportradarTimelineSnapshot}
    (accepted : snapshots.IsChain Accepts) (leaves : snapshots.IsChain LeavesEpochCorrections) :
    snapshots.Pairwise fun a b => Accepts a b ∧ LeavesEpochCorrections a b := by
  induction snapshots with
  | nil => exact List.Pairwise.nil
  | cons a rest ih =>
      cases rest with
      | nil => exact List.pairwise_singleton _ a
      | cons b rest =>
          obtain ⟨step, later⟩ := List.isChain_cons_cons.mp accepted
          obtain ⟨first, others⟩ := List.isChain_cons_cons.mp leaves
          have each := ih later others
          refine List.pairwise_cons.mpr ⟨fun c inside => ?_, each⟩
          rcases List.mem_cons.mp inside with rfl | beyond
          · exact ⟨step, first⟩
          · obtain ⟨onward, between⟩ := (List.pairwise_cons.mp each).1 c beyond
            obtain ⟨-, -, longer, -⟩ := accepts_iff.mp step
            exact ⟨step.trans onward between, first.trans between longer⟩

/-- Timelines never rewind.  Along a chain of accepted steps none of which changes an event that
was corrected at the epoch, every snapshot accepts every later one, its event ids are a prefix
of theirs, an event changes only together with a later revision time, and no earlier version of
an event comes back. -/
theorem progression_never_rewinds {snapshots : List SportradarTimelineSnapshot}
    (accepted : snapshots.IsChain Accepts) (leaves : snapshots.IsChain LeavesEpochCorrections) :
    (snapshots.Pairwise fun a b => Accepts a b ∧ Extends a b) ∧
      ∀ (i j l k : Nat) (a b c : SportradarTimelineSnapshot)
        (old new again : SportradarTimelineEvent), i < j → j < l →
        snapshots[i]? = some a → snapshots[j]? = some b → snapshots[l]? = some c →
        a.events[k]? = some old → b.events[k]? = some new → c.events[k]? = some again →
        new ≠ old → again ≠ old := by
  have steps : snapshots.Pairwise fun a b => Accepts a b ∧ Extends a b :=
    (chain_pairwise accepted leaves).imp fun both => ⟨both.1, both.1.extends both.2⟩
  refine ⟨steps, ?_⟩
  intro i j l k a b c old new again before after here there beyond shown shown' shown'' changed same
  have order : ∀ {i j : Nat} {a b : SportradarTimelineSnapshot}, i < j → snapshots[i]? = some a →
      snapshots[j]? = some b → Extends a b := by
    intro i j a b before here there
    obtain ⟨inside, rfl⟩ := List.getElem?_eq_some_iff.mp here
    obtain ⟨inside', rfl⟩ := List.getElem?_eq_some_iff.mp there
    exact (List.pairwise_iff_getElem.mp steps i j inside inside' before).2
  have first := ((order before here there).revised k old new shown shown').resolve_left
    (Ne.symm changed)
  rcases (order after there beyond).revised k new again shown' shown'' with kept | later
  · exact changed (kept.trans same)
  · rw [same] at later
    omega

/-! ## A correction at the epoch -/

/-- The date reader on the timestamps that end in `Z`: it counts the days of the calendar and
keeps the microseconds. -/
def isoUtc (timestamp : String) : Option ℤ :=
  (TennisV3.matchUtcPattern (Json.text timestamp)).bind fun groups =>
    let year := TennisV3.int groups.year
    let month := TennisV3.int groups.month
    let day := TennisV3.int groups.day
    let hour := TennisV3.int groups.hour
    let minute := TennisV3.int groups.minute
    let second := TennisV3.int groups.second
    if 1 ≤ year ∧ 1 ≤ month ∧ month ≤ 12 ∧ 1 ≤ day ∧ day ≤ Calendar.monthDays year month ∧
        hour < 24 ∧ minute < 60 ∧ second < 60 then
      let days : ℤ := (Calendar.yearStart year + Calendar.monthStart year month + (day - 1) : ℕ)
      some ((((days - 719162) * 24 + hour) * 60 + minute) * 60 * 1000000000 +
        second * 1000000000 + groups.nanosecond / 1000 * 1000)
    else none

def sampleScore : SportradarScoreSnapshot where
  status := "live"
  matchStatus := none
  setsHome := none
  setsAway := none
  gamesHome := none
  gamesAway := none
  pointsHome := "--"
  pointsAway := "--"
  serving := none
  inTiebreak := none
  providerMatchId := "sr:sport_event:1"
  generatedWallNs := 0

/-- A timeline of one point: when it happened and when it was updated. -/
def samplePoint (time : String) (updated : Option String) : WireValue :=
  .list [.dict ([("id", .int 1), ("type", .str "point"), ("time", .str time)] ++
    match updated with
    | none => []
    | some moment => [("updated", .bool true), ("updated_time", .str moment)])]

/-- The snapshot that such a timeline is read as. -/
def sampleSnapshot (eventWallNs : ℤ) (updatedWallNs : Option ℤ) : SportradarTimelineSnapshot :=
  ⟨sampleScore, [⟨1, "point", eventWallNs, none, none, none, none, none, none, none, none, none,
    updatedWallNs.isSome, updatedWallNs⟩]⟩

def firstShown : SportradarTimelineSnapshot := sampleSnapshot (-10000000000) none
def corrected : SportradarTimelineSnapshot := sampleSnapshot (-100000000000) (some 0)
def correctedAgain : SportradarTimelineSnapshot :=
  sampleSnapshot (-100000000000) (some (-50000000000))

/-- A point is corrected at the epoch, and the correction stays while the score goes on. -/
theorem progression_never_rewinds_corrected :
    [firstShown, corrected, corrected].Pairwise fun a b => Accepts a b ∧ Extends a b := by
  refine (progression_never_rewinds ?_ ?_).1
  · exact List.isChain_cons_cons.mpr
      ⟨⟨"corrected", by decide⟩, List.isChain_pair.mpr ⟨"unchanged", by decide⟩⟩
  · refine List.isChain_cons_cons.mpr ⟨?_, List.isChain_pair.mpr ?_⟩
    · intro k old new here there epoch
      obtain rfl := List.mem_singleton.mp (List.mem_of_getElem? here)
      exact absurd epoch.1 (by decide)
    · intro k old new here there epoch
      exact Option.some.inj (here.symm.trans there)

/-- A correction at the epoch is read as one without a time, and the next correction may come
before it: two steps are accepted that are not one step together, and the revision time falls. -/
theorem epoch_correction_rewinds :
    parseTimeline isoUtc sampleScore (samplePoint "1969-12-31T23:59:50Z" none) =
        .ok firstShown ∧
      parseTimeline isoUtc sampleScore
        (samplePoint "1969-12-31T23:58:20Z" (some "1970-01-01T00:00:00Z")) = .ok corrected ∧
      parseTimeline isoUtc sampleScore
        (samplePoint "1969-12-31T23:58:20Z" (some "1969-12-31T23:59:10Z")) = .ok correctedAgain ∧
      Accepts firstShown corrected ∧ Accepts corrected correctedAgain ∧
      ¬Accepts firstShown correctedAgain ∧ ¬Extends corrected correctedAgain := by
  refine ⟨by decide, by decide, by decide, ⟨"corrected", by decide⟩, ⟨"corrected", by decide⟩, ?_, ?_⟩
  · rintro ⟨kind, accepted⟩
    have refused : validateTimelineProgression firstShown correctedAgain =
        .error "sportradar_timeline_unmarked_correction" := by decide
    exact nomatch refused.symm.trans accepted
  · intro extended
    have revised := extended.revised 0 _ _ rfl rfl
    revert revised
    decide

end Inci.Sportradar
