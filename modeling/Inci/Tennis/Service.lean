/-
# Tennis.Service -- who serves in a match of any length

The machine keeps no count of games: it passes the service on at each game's end
and lets a tiebreak remember who began it.  `Serves` says what that adds up to,
in terms of the games finished so far.  `ServiceStep` is what one point can do to
the service, and the rotation follows for every run from a start.
-/
import Inci.Tennis.Validity

namespace Inci.Tennis

open Inci.Theory Inci.Expert
open MatchRecord (serverOfGame serverOfPoint)

set_option autoImplicit false

/-- The games finished in the match; a tiebreak is the thirteenth game of its set. -/
def gamesFinished (v : Score) : Nat :=
  (v.completedSets.map fun s => s.gamesHome + s.gamesAway).sum + v.gamesHome + v.gamesAway

/-- Who served, or will serve, the first point of the current game. -/
def opener (v : Score) : Option PlayerSide :=
  if v.inTiebreak then v.tiebreakFirstServer else v.serverForNextPoint

/-- The points of the tiebreak played so far. -/
def tiebreakPlayed (v : Score) : Nat := v.tiebreakPointsHome + v.tiebreakPointsAway

/-- Games alternate from the match's first server on, and the points of a tiebreak
follow its own rotation. -/
structure Serves (first : PlayerSide) (v : Score) : Prop where
  game : opener v = some (serverOfGame first (gamesFinished v))
  point : v.inTiebreak = true →
    v.serverForNextPoint = (opener v).map fun side => serverOfPoint side (tiebreakPlayed v)

/-- The players are in a game: a lifecycle event may have interrupted it. -/
def Started (v : Score) : Prop := v.status = .live ∨ v.status = .suspended

/-! ## One point -/

/-- What a point can do to the service. -/
inductive ServiceStep (v next : Score) : Prop where
  /-- The game goes on. -/
  | sameGame (status : next.status = v.status) (games : gamesFinished next = gamesFinished v)
      (tied : next.inTiebreak = v.inTiebreak) (opened : opener next = opener v)
      (point : next.inTiebreak = true →
        next.serverForNextPoint = (opener next).map fun side => serverOfPoint side (tiebreakPlayed next))
  /-- The game ends, and the other player opens the next one. -/
  | nextGame (status : next.status = v.status ∨ next.status = .live)
      (games : gamesFinished next = gamesFinished v + 1)
      (untied : v.inTiebreak = true →
        next.inTiebreak = false ∧ next.gamesHome = 0 ∧ next.gamesAway = 0)
      (opened : opener next = (opener v).map opposite)
      (point : next.inTiebreak = true →
        next.serverForNextPoint = opener next ∧ tiebreakPlayed next = 0)
  | matchOver (ended : next.status = .ended)

/-- A set that ends passes the service on, unless it ends the match. -/
theorem completedSetChanges_serviceStep {format : MatchFormat} {v : Score} {setScore : SetScore}
    {server : PlayerSide} (opened : opener v = some server)
    (games : setScore.gamesHome + setScore.gamesAway = v.gamesHome + v.gamesAway + 1) :
    ServiceStep v (completedSetChanges format v setScore (opposite server)) := by
  by_cases won : (completedSetChanges format v setScore (opposite server)).winner.isSome = true
  · exact .matchOver (if_pos won)
  · refine .nextGame (.inr (if_neg won)) ?_ (fun _ => ⟨rfl, rfl, rfl⟩) ?_
      fun tied => absurd tied Bool.false_ne_true
    · simp only [gamesFinished, completedSetChanges, List.map_append, List.sum_append, List.map_cons,
        List.map_nil, List.sum_cons, List.sum_nil]
      omega
    · have passed : (completedSetChanges format v setScore (opposite server)).serverForNextPoint =
          some (opposite server) := if_neg won
      rw [opened]
      exact passed

section Points

variable {format : MatchFormat} {v next : Score} {w : PlayerSide}

theorem advanceTiebreak_serviceStep (playing : v.inTiebreak = true)
    (level : v.gamesHome = 6 ∧ v.gamesAway = 6)
    (advanced : advanceTiebreak format v w = .ok next) : ServiceStep v next := by
  unfold advanceTiebreak at advanced
  cases known : v.tiebreakFirstServer with
  | none => simp [known] at advanced
  | some first =>
      have opened : opener v = some first := by rw [opener, if_pos playing, known]
      simp only [known] at advanced
      rw [ite_eq_iff] at advanced
      rcases advanced with ⟨-, built⟩ | ⟨-, counted⟩
      · simp only [SetScore.construct, bind_eq_ok, pure_eq_ok] at built
        obtain ⟨setScore, ⟨_, -, rfl⟩, rfl⟩ := built
        refine completedSetChanges_serviceStep opened ?_
        obtain ⟨home, away⟩ := level
        cases w <;> simp [home, away]
      · obtain rfl := (pure_eq_ok _ _).mp counted
        refine .sameGame rfl rfl rfl ?_ ?_
        · simp only [opener, playing, if_true, known]
        · intro _
          simp only [opener, playing, if_true, Option.map_some, tiebreakPlayed, tiebreakServer_eq]

theorem advanceGame_serviceStep (playing : v.inTiebreak = false)
    (advanced : advanceGame format v w = .ok next) : ServiceStep v next := by
  unfold advanceGame at advanced
  cases known : v.serverForNextPoint with
  | none => simp [known] at advanced
  | some server =>
      have opened : opener v = some server := by
        rw [opener, playing]
        exact known
      -- one of the two counts grows by one
      have grown : (if w = .home then v.gamesHome + 1 else v.gamesHome) +
          (if w = .home then v.gamesAway else v.gamesAway + 1) = v.gamesHome + v.gamesAway + 1 := by
        split_ifs <;> omega
      have untied : ¬v.inTiebreak = true := by simp [playing]
      simp only [known] at advanced
      rw [ite_eq_iff] at advanced
      rcases advanced with ⟨-, built⟩ | ⟨-, going⟩
      · simp only [SetScore.construct, bind_eq_ok, pure_eq_ok] at built
        obtain ⟨setScore, ⟨_, -, rfl⟩, rfl⟩ := built
        exact completedSetChanges_serviceStep opened grown
      rw [ite_eq_iff] at going
      rcases going with ⟨-, tiebreak⟩ | ⟨-, game⟩
      · obtain rfl := (pure_eq_ok _ _).mp tiebreak
        refine .nextGame (.inl rfl) ?_ (fun tied => absurd tied untied) ?_ fun _ => ⟨rfl, rfl⟩
        · simp only [gamesFinished]
          omega
        · rw [opened]
          rfl
      · obtain rfl := (pure_eq_ok _ _).mp game
        refine .nextGame (.inl rfl) ?_ (fun tied => absurd tied untied) ?_
          fun tied => absurd tied untied
        · simp only [gamesFinished]
          omega
        · rw [opened, opener]
          simp [playing]

theorem advanceScore_serviceStep (level : v.inTiebreak = true → v.gamesHome = 6 ∧ v.gamesAway = 6)
    (advanced : advanceScore format v w = .ok next) : ServiceStep v next := by
  unfold advanceScore at advanced
  by_cases playing : v.inTiebreak = true
  · rw [if_pos playing] at advanced
    exact advanceTiebreak_serviceStep playing (level playing) advanced
  · have untied : v.inTiebreak = false := by simpa using playing
    have within : ∀ pointsHome pointsAway,
        ServiceStep v { v with pointsHome, pointsAway } := by
      intro pointsHome pointsAway
      exact .sameGame rfl rfl rfl rfl fun tied => absurd tied playing
    rw [if_neg playing] at advanced
    cases w with
    | home =>
        simp only at advanced
        split at advanced
        · obtain rfl := (pure_eq_ok _ _).mp advanced
          exact within _ _
        · exact advanceGame_serviceStep untied advanced
    | away =>
        simp only at advanced
        split at advanced
        · obtain rfl := (pure_eq_ok _ _).mp advanced
          exact within _ _
        · exact advanceGame_serviceStep untied advanced

end Points

/-- The rotation survives a point that does not end the match. -/
theorem ServiceStep.serves {v next : Score} {first : PlayerSide} (step : ServiceStep v next)
    (serves : Serves first v) (going : Started next) : Serves first next := by
  cases step with
  | sameGame status games tied opened point =>
      refine ⟨?_, point⟩
      rw [opened, games]
      exact serves.game
  | nextGame status games untied opened point =>
      have passed : opener next = some (serverOfGame first (gamesFinished next)) := by
        rw [opened, serves.game, games, serverOfGame_succ]
        rfl
      refine ⟨passed, fun tied => ?_⟩
      obtain ⟨server, none_played⟩ := point tied
      rw [server, none_played, passed]
      rfl
  | matchOver ended => simp [Started, ended] at going

/-! ## Lifecycle events -/

/-- A lifecycle event of a match that has begun changes its status alone, or ends it. -/
theorem lifecycleScore_begun {v next : Score} {e : ProviderLifecycle}
    {reason : TennisTransitionReason} (applies : lifecycleScore v e = some (next, reason))
    (begun : v.status ≠ .scheduled) :
    (Started v ∧ Started next ∧ next = { v with status := next.status }) ∨
      next.status = .ended ∨ next.status = .cancelled := by
  unfold lifecycleScore at applies
  split_ifs at applies with confirmation agrees finished
  · obtain ⟨rfl, -⟩ : v = next ∧ _ = reason := by simpa using applies
    exact .inr (.inl confirmation.1)
  cases changes : lifecycleChanges v e with
  | none => simp [changes] at applies
  | some change =>
      obtain ⟨changed, compareServer⟩ := change
      simp only [changes] at applies
      split_ifs at applies
      obtain ⟨rfl, -⟩ : changed = next ∧ _ = reason := by simpa using applies
      -- only a suspension and a resumption leave the match going
      cases status : v.status <;> cases kind : e.kind <;>
        simp only [lifecycleChanges, status, kind] at changes <;> try contradiction
      all_goals
        split_ifs at changes
        simp only [Option.some.injEq, Prod.mk.injEq] at changes
        obtain ⟨rfl, -⟩ := changes
        simp [Started, status]

/-- A suspension or a resumption leaves the service as it is. -/
theorem Serves.with_status {first : PlayerSide} {v : Score} (serves : Serves first v)
    (status : MatchStatus) : Serves first { v with status } :=
  ⟨serves.game, serves.point⟩

/-! ## Runs -/

/-- A match that has begun, whose service follows the rotation while it goes on. -/
structure Rotates (first : PlayerSide) (v : Score) : Prop where
  begun : v.status ≠ .scheduled
  serves : Started v → Serves first v

theorem ServiceStep.rotates {v next : Score} {first : PlayerSide} (step : ServiceStep v next)
    (started : Started v) (rotates : Rotates first v) : Rotates first next := by
  refine ⟨?_, fun going => step.serves (rotates.serves started) going⟩
  cases step with
  | sameGame status games tied opened point =>
      rw [status]
      exact rotates.begun
  | nextGame status games untied opened point =>
      rcases status with same | live
      · rw [same]
        exact rotates.begun
      · simp [live]
  | matchOver ended => simp [ended]

theorem scoreAfter_point {format : MatchFormat} {v next : Score} {p : ProviderPoint}
    {reason : TennisTransitionReason}
    (applies : (ProviderEvent.point p).scoreAfter format v = some (next, reason)) :
    v.status = .live ∧ advanceScore format v p.pointWinner = .ok next := by
  simp only [ProviderEvent.scoreAfter, Option.ite_none_right_eq_some, Option.map_eq_some_iff,
    Prod.mk.injEq] at applies
  obtain ⟨⟨live, -⟩, score, advanced, rfl, -⟩ := applies
  refine ⟨live, ?_⟩
  cases answer : advanceScore format v p.pointWinner with
  | error _ => simp [answer, Except.toOption] at advanced
  | ok other => simpa [answer, Except.toOption] using advanced

/-- A tiebreak is played at six games all. -/
theorem level_of_legal {format : MatchFormat} {v : Score} (legal : v.Legal format)
    (started : Started v) (playing : v.inTiebreak = true) : v.gamesHome = 6 ∧ v.gamesAway = 6 := by
  obtain ⟨-, -, -, -, unfinished⟩ := (reachable_running started).mp legal.reached
  obtain ⟨home, away, -⟩ := unfinished.tiebreak playing
  exact ⟨home, away⟩

/-- A provider event that applies keeps the rotation. -/
theorem ProviderEvent.rotates {format : MatchFormat} {v next : Score} {e : ProviderEvent}
    {reason : TennisTransitionReason} {first : PlayerSide} (legal : v.Legal format)
    (rotates : Rotates first v) (applies : e.scoreAfter format v = some (next, reason)) :
    Rotates first next := by
  cases e with
  | point p =>
      obtain ⟨live, advanced⟩ := scoreAfter_point applies
      have started : Started v := .inl live
      exact (advanceScore_serviceStep (level_of_legal legal started) advanced).rotates started rotates
  | lifecycle l =>
      rcases lifecycleScore_begun applies rotates.begun with ⟨started, going, is⟩ | ends
      · refine ⟨?_, fun _ => ?_⟩
        · rcases going with live | suspended
          · simp [live]
          · simp [suspended]
        · rw [is]
          exact (rotates.serves started).with_status _
      · refine ⟨?_, ?_⟩
        · rcases ends with ended | cancelled
          · simp [ended]
          · simp [cancelled]
        · rcases ends with ended | cancelled
          · simp [Started, ended]
          · simp [Started, cancelled]

theorem ProviderEvent.standing_rotates {s : TennisState} {first : PlayerSide} (valid : s.Valid)
    (rotates : Rotates first s.toScore) (e : ProviderEvent) :
    Rotates first (TennisOperation.standing s (.event e)).toScore := by
  unfold TennisOperation.standing
  cases answer : TennisOperation.apply s (.event e) with
  | error _ => exact rotates
  | ok r =>
      obtain ⟨-, legal⟩ := TennisState.valid_iff.mp valid
      obtain ⟨_, digest, -, -, ⟨notApplied, advance⟩ | ⟨-, score, reason, applies, -, rfl⟩⟩ :=
        ProviderEvent.apply_cases answer
      · cases advance with
        | unchanged d reason kept => exact rotates
        | installed reason expected observed unblocked constructed => exact rotates
        | applied score reason admitted constructed => exact absurd rfl notApplied
      · exact ProviderEvent.rotates legal rotates applies

/-- The set after a tiebreak is opened by the player who did not serve first in it. -/
theorem ProviderEvent.standing_after_tiebreak {s : TennisState} (valid : s.Valid)
    (begun : s.status ≠ .scheduled) (e : ProviderEvent) (tied : s.inTiebreak = true)
    (going : Started (TennisOperation.standing s (.event e)).toScore)
    (untied : (TennisOperation.standing s (.event e)).inTiebreak = false) :
    (TennisOperation.standing s (.event e)).serverForNextPoint =
      s.tiebreakFirstServer.map opposite := by
  unfold TennisOperation.standing at going untied ⊢
  cases answer : TennisOperation.apply s (.event e) with
  | error _ =>
      rw [answer] at untied
      exact absurd (tied.symm.trans untied) (by decide)
  | ok r =>
      rw [answer] at going untied
      obtain ⟨-, legal⟩ := TennisState.valid_iff.mp valid
      obtain ⟨_, digest, -, -, ⟨notApplied, advance⟩ | ⟨-, score, reason, applies, -, rfl⟩⟩ :=
        ProviderEvent.apply_cases answer
      · cases advance with
        | unchanged d reason kept => exact absurd (tied.symm.trans untied) (by decide)
        | installed reason expected observed unblocked constructed =>
            exact absurd (tied.symm.trans untied) (by decide)
        | applied score reason admitted constructed => exact absurd rfl notApplied
      have now : score.inTiebreak = false := untied
      show score.serverForNextPoint = _
      cases e with
      | point p =>
          obtain ⟨live, advanced⟩ := scoreAfter_point applies
          cases advanceScore_serviceStep (level_of_legal legal (.inl live)) advanced with
          | sameGame status games same opened point =>
              exact absurd ((tied.symm.trans same.symm).trans now) (by decide)
          | nextGame status games level opened point => simpa [opener, now, tied] using opened
          | matchOver ended =>
              have stands : Started score := going
              simp [Started, ended] at stands
      | lifecycle l =>
          rcases lifecycleScore_begun applies begun with ⟨-, -, is⟩ | ends
          · rw [is] at now
            exact absurd (tied.symm.trans now) (by decide)
          · have stands : Started score := going
            rcases ends with ended | cancelled
            · simp [Started, ended] at stands
            · simp [Started, cancelled] at stands

/-- Points and lifecycle events, applied in turn. -/
def runEvents (s : TennisState) (events : List ProviderEvent) : TennisState :=
  runOperations s (events.map .event)

theorem runEvents_rotates (events : List ProviderEvent) {s : TennisState} {first : PlayerSide}
    (valid : s.Valid) (rotates : Rotates first s.toScore)
    (arguments : ∀ e ∈ events, e.header.postInit = .ok ()) :
    (runEvents s events).Valid ∧ Rotates first (runEvents s events).toScore := by
  induction events generalizing s with
  | nil => exact ⟨valid, rotates⟩
  | cons e rest ih =>
      have argument : (TennisOperation.event e).Valid := arguments e List.mem_cons_self
      have next : (TennisOperation.standing s (.event e)).Valid :=
        runOperations_valid valid [.event e] fun op member => by
          rwa [List.mem_singleton.mp member]
      exact ih next (ProviderEvent.standing_rotates valid rotates e)
        fun later member => arguments later (List.mem_cons_of_mem _ member)

/-! ## From the start -/

/-- The state an applied START leaves. -/
theorem applyLifecycle_start {s : TennisState} {start : ProviderLifecycle} {first : PlayerSide}
    {r : TennisTransitionResult} (kind : start.kind = .start)
    (server : start.serverForNextPoint = some first) (answer : applyLifecycle s start = .ok r)
    (applied : r.disposition = .applied) : Rotates first r.state.toScore := by
  obtain ⟨_, digest, -, legal, ⟨notApplied, -⟩ | ⟨-, score, reason, applies, -, rfl⟩⟩ :=
    applyLifecycle_cases answer
  · exact absurd applied notApplied
  show Rotates first score
  unfold lifecycleScore at applies
  split_ifs at applies with confirmation agrees finished
  · simp [kind] at confirmation
  cases changes : lifecycleChanges s.toScore start with
  | none => simp [changes] at applies
  | some change =>
      obtain ⟨changed, compareServer⟩ := change
      simp only [changes] at applies
      split_ifs at applies
      obtain ⟨rfl, -⟩ : changed = score ∧ _ = reason := by simpa using applies
      cases status : s.status <;> simp only [lifecycleChanges, status, kind] at changes <;>
        try contradiction
      split_ifs at changes
      simp only [Option.some.injEq, Prod.mk.injEq] at changes
      obtain ⟨rfl, -⟩ := changes
      unfold reachable at legal
      split at legal
      · exact absurd legal Bool.false_ne_true
      simp only [status, Bool.and_eq_true, scoreIsZero, decide_eq_true_eq] at legal
      obtain ⟨-, sets, home, away, -, -, untied, -⟩ := legal
      have games : gamesFinished s.toScore = 0 := by
        simp [gamesFinished, sets, home, away]
      refine ⟨by simp, fun _ => ⟨?_, fun tied => ?_⟩⟩
      · have finished : gamesFinished { s.toScore with
            status := .live, serverForNextPoint := start.serverForNextPoint } = 0 := games
        rw [finished]
        simp [opener, untied, server, serverOfGame]
      · exact absurd (untied.symm.trans tied) Bool.false_ne_true

theorem serverOfGame_eq_first {first : PlayerSide} {number : Nat} :
    serverOfGame first number = first ↔ number % 2 = 0 := by
  unfold serverOfGame
  split_ifs with even
  · simp [even]
  · cases first <;> simp [even, opposite]

/-- The service rotates: in every run from an applied START with first server
`first`, while the match goes on, `first` serves exactly when the games finished
are even; a tiebreak is begun by the player due by that rule and follows its own
pattern; and the set after it is opened by the other player. -/
theorem service_rotation (s : TennisState) (start : ProviderLifecycle) (first : PlayerSide)
    (r : TennisTransitionResult) (events : List ProviderEvent) (valid : s.Valid)
    (argument : start.postInit = .ok ()) (kind : start.kind = .start)
    (server : start.serverForNextPoint = some first) (answer : applyLifecycle s start = .ok r)
    (applied : r.disposition = .applied)
    (arguments : ∀ e ∈ events, e.header.postInit = .ok ())
    (going : Started (runEvents r.state events).toScore) :
    ((runEvents r.state events).inTiebreak = false →
      ∃ side, (runEvents r.state events).serverForNextPoint = some side ∧
        (side = first ↔ gamesFinished (runEvents r.state events).toScore % 2 = 0)) ∧
    ((runEvents r.state events).inTiebreak = true →
      ∃ side, (runEvents r.state events).tiebreakFirstServer = some side ∧
        (side = first ↔ gamesFinished (runEvents r.state events).toScore % 2 = 0) ∧
        (runEvents r.state events).serverForNextPoint =
          some (serverOfPoint side (tiebreakPlayed (runEvents r.state events).toScore))) ∧
    ∀ e : ProviderEvent, e.header.postInit = .ok () →
      (runEvents r.state events).inTiebreak = true →
      Started (runEvents r.state (events ++ [e])).toScore →
      (runEvents r.state (events ++ [e])).inTiebreak = false →
        (runEvents r.state (events ++ [e])).serverForNextPoint =
          (runEvents r.state events).tiebreakFirstServer.map opposite := by
  have begun := applyLifecycle_start kind server answer applied
  have startValid : r.state.Valid :=
    @TennisOperation.apply_valid _ (.event (.lifecycle start)) _ valid argument answer
  obtain ⟨nowValid, now⟩ := runEvents_rotates events startValid begun arguments
  have serves := now.serves going
  refine ⟨fun untied => ?_, fun tied => ?_, ?_⟩
  · have opened := serves.game
    rw [opener, untied] at opened
    exact ⟨_, opened, serverOfGame_eq_first⟩
  · have opened := serves.game
    have point := serves.point tied
    rw [opener, if_pos tied] at opened
    rw [serves.game] at point
    exact ⟨_, opened, serverOfGame_eq_first, point⟩
  · intro e _ tied next untied
    have append : runEvents r.state (events ++ [e]) =
        TennisOperation.standing (runEvents r.state events) (.event e) := by
      simp only [runEvents, runOperations, List.map_append, List.foldl_append, List.map_cons,
        List.map_nil, List.foldl_cons, List.foldl_nil]
    rw [append] at next untied ⊢
    exact ProviderEvent.standing_after_tiebreak nowValid now.begun e tied next untied

/-- The opening match before its start. -/
def scheduledState : TennisState :=
  { openingState with
    status := .scheduled
    serverForNextPoint := none }

def openingStart : ProviderLifecycle :=
  { openingMatch, openingTimes with
    providerEventId := "start-1"
    correctionEpoch := 0
    revision := 2
    kind := .start
    winner := none
    retiredSide := none
    serverForNextPoint := some .home }

theorem scheduledState_valid : scheduledState.Valid :=
  ⟨by decide +kernel, by simp [scheduledState, openingState, openingScore], by decide +kernel⟩

/-- The record that points lead to from another, until the match is over. -/
def rallyRecord (record : MatchRecord) : List PlayerSide → MatchRecord
  | [] => record
  | w :: rest => if MatchOver 2 record.sets then record else rallyRecord (record.extend w) rest

def rallyEvents (winners : List PlayerSide) : List ProviderEvent :=
  (rally ⟨[], [], []⟩ 2 winners).map .point

theorem rally_accepted (winners : List PlayerSide) : ∀ {record : MatchRecord} {revision : Nat},
    revision + winners.length < integerBound →
      ∀ p ∈ rally record revision winners, p.postInit = .ok () := by
  induction winners with
  | nil => exact fun _ p inside => absurd inside List.not_mem_nil
  | cons w rest ih =>
      intro record revision small p inside
      rw [List.length_cons] at small
      rw [rally] at inside
      split_ifs at inside with ended
      · exact absurd inside List.not_mem_nil
      rcases List.mem_cons.mp inside with rfl | later
      · exact rallyPoint_accepted w _ (Nat.succ_pos revision) (by omega)
      · exact ih (by omega) p later

theorem runEvents_rally (winners : List PlayerSide) : ∀ {s : TennisState} {record : MatchRecord},
    InRally s record → s.revision + winners.length < integerBound →
      InRally (runEvents s ((rally record s.revision winners).map .point))
        (rallyRecord record winners) := by
  induction winners with
  | nil => exact fun inRally _ => inRally
  | cons w rest ih =>
      intro s record inRally small
      rw [List.length_cons] at small
      rw [rally, rallyRecord]
      split_ifs with ended
      · exact inRally
      obtain ⟨-, r, applies, revision, next⟩ := rally_step w inRally ended (by omega) rfl
      have moved : TennisOperation.standing s (.event (.point (rallyPoint (s.revision + 1) w
          ((record.score 2 .home).serverForNextPoint.getD .home)))) = r.state := by
        simp only [TennisOperation.standing, TennisOperation.apply, ProviderEvent.apply, applies]
      simp only [runEvents, runOperations, List.map_cons, List.foldl_cons, moved]
      rw [← revision]
      exact ih next (by omega)

theorem rallyEvents_inRally (winners : List PlayerSide) {s : TennisState}
    (started : InRally s ⟨[], [], []⟩) (revision : s.revision = 2)
    (small : 2 + winners.length < integerBound) :
    InRally (runEvents s (rallyEvents winners)) (rallyRecord ⟨[], [], []⟩ winners) := by
  rw [← revision] at small
  rw [rallyEvents, ← revision]
  exact runEvents_rally winners started small

/-- Twelve games, won in turn, and six points of the tiebreak. -/
def tiedWinners : List PlayerSide :=
  (List.range 12).flatMap (fun i => List.replicate 4 (if i % 2 = 0 then .home else .away)) ++
    List.replicate 6 .home

def setPoint : ProviderPoint := rallyPoint 57 .home .away

theorem setPoint_accepted : (ProviderEvent.point setPoint).header.postInit = .ok () := by
  decide +kernel

/-- The opening match is started. -/
theorem openingStart_applies : ∃ r, applyLifecycle scheduledState openingStart = .ok r ∧
    r.disposition = .applied ∧ r.state.revision = 2 ∧ InRally r.state ⟨[], [], []⟩ := by
  have argument : openingStart.postInit = .ok () := by decide +kernel
  obtain ⟨bytes, digest, semantic⟩ := ProviderLifecycle.semantic_total argument
  obtain ⟨good, legal⟩ := TennisState.valid_iff.mp scheduledState_valid
  have applies : lifecycleScore scheduledState.toScore openingStart =
      some (openingScore, .lifecycleApplied) := by decide +kernel
  have next : openingScore.Legal scheduledState.matchFormat :=
    ⟨by decide +kernel, by decide +kernel, by simp [openingScore]⟩
  have constructed := appliedFields_constructed good (IncrementalEvent.postInit_eq_ok.mp argument)
    (eventSemantic_isSha256 semantic) next
  have answer := applyLifecycle_applied legal.reached semantic
    ⟨rfl, rfl, le_rfl, rfl, rfl⟩ applies constructed
  have fresh := freshlyStarted_tracks (s := openingState) ⟨openingState_accepted, rfl, rfl⟩
  exact ⟨_, answer, rfl, rfl, rfl, rfl, rfl, constructed, rfl, fresh.follows, rfl, Nat.zero_le _⟩

/-- The opening match is played to a tiebreak, which the next point ends. -/
theorem service_rotation_opening :
    ∃ r side, applyLifecycle scheduledState openingStart = .ok r ∧
      (runEvents r.state (rallyEvents tiedWinners)).tiebreakFirstServer = some side ∧
      (side = .home ↔ gamesFinished (runEvents r.state (rallyEvents tiedWinners)).toScore % 2 = 0) ∧
      (runEvents r.state (rallyEvents tiedWinners)).serverForNextPoint =
        some (serverOfPoint side
          (tiebreakPlayed (runEvents r.state (rallyEvents tiedWinners)).toScore)) ∧
      (runEvents r.state (rallyEvents tiedWinners ++ [.point setPoint])).completedSets =
        [⟨7, 6, some 7, some 0⟩] ∧
      (runEvents r.state (rallyEvents tiedWinners ++ [.point setPoint])).serverForNextPoint =
        some (opposite side) := by
  obtain ⟨r, answer, applied, revision, started⟩ := openingStart_applies
  have large : 2 + 55 < integerBound := by norm_num [integerBound]
  have played : rally ⟨[], [], []⟩ 2 (tiedWinners ++ [.home]) =
      rally ⟨[], [], []⟩ 2 tiedWinners ++ [setPoint] := by
    decide +kernel
  have split : rallyEvents (tiedWinners ++ [.home]) =
      rallyEvents tiedWinners ++ [.point setPoint] := by
    simp only [rallyEvents, played, List.map_append, List.map_cons, List.map_nil]
  have tied := (rallyEvents_inRally tiedWinners started revision
    (Nat.lt_of_succ_lt large)).tracks.score
  have done := (rallyEvents_inRally (tiedWinners ++ [PlayerSide.home]) started revision
    large).tracks.score
  rw [split] at done
  have arguments : ∀ e ∈ rallyEvents tiedWinners, e.header.postInit = .ok () := by
    intro e inside
    obtain ⟨p, member, rfl⟩ := List.mem_map.mp inside
    exact rally_accepted tiedWinners (Nat.lt_of_succ_lt large) p member
  have reached : (rallyRecord ⟨[], [], []⟩ tiedWinners).score 2 .home =
      { openingScore with
        gamesHome := 6
        gamesAway := 6
        inTiebreak := true
        tiebreakPointsHome := 6
        tiebreakFirstServer := some .home
        serverForNextPoint := some .away } := by
    decide +kernel
  have won : (rallyRecord ⟨[], [], []⟩ (tiedWinners ++ [.home])).score 2 .home =
      { openingScore with
        completedSets := [⟨7, 6, some 7, some 0⟩]
        serverForNextPoint := some .away } := by
    decide +kernel
  rw [reached] at tied
  rw [won] at done
  have inside : (runEvents r.state (rallyEvents tiedWinners)).inTiebreak = true :=
    congrArg Score.inTiebreak tied
  have going : (runEvents r.state (rallyEvents tiedWinners)).status = .live :=
    congrArg Score.status tied
  have outside : (runEvents r.state (rallyEvents tiedWinners ++ [.point setPoint])).inTiebreak =
      false := congrArg Score.inTiebreak done
  have still : (runEvents r.state (rallyEvents tiedWinners ++ [.point setPoint])).status = .live :=
    congrArg Score.status done
  obtain ⟨-, within, after⟩ := service_rotation scheduledState openingStart .home r
    (rallyEvents tiedWinners) scheduledState_valid (by decide +kernel) rfl rfl answer applied
    arguments (.inl going)
  obtain ⟨side, first, parity, serves⟩ := within inside
  have next := after (.point setPoint) setPoint_accepted inside
    (.inl still) outside
  exact ⟨r, side, answer, first, parity, serves, congrArg Score.completedSets done,
    next.trans (congrArg (Option.map opposite) first)⟩

end Inci.Tennis
