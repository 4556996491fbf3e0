/-
# Tennis.Refinement -- the point counter computes the declared score

One more point extends a record by the rules (`MatchRecord.extend`), and the
machine's counter moves from the score of a record to the score of its
extension (`advanceScore_extend`).  The rest of the file turns that step into
runs of `applyPoint`.
-/
import Inci.Tennis.Declared
import Inci.Tennis.Steps

namespace Inci.Tennis

open Inci.Theory Inci.Expert

set_option autoImplicit false

/-! ## Counting points and games -/

theorem count_home_add_away (points : Game) :
    points.count .home + points.count .away = points.length := by
  induction points with
  | nil => rfl
  | cons p rest ih => cases p <;> simp <;> omega

theorem count_concat_self (points : Game) (w : PlayerSide) :
    (points ++ [w]).count w = points.count w + 1 := by simp

theorem count_concat_opposite (points : Game) (w : PlayerSide) :
    (points ++ [w]).count (opposite w) = points.count (opposite w) := by
  cases w <;> simp [opposite]

/-- The point that decides a race is won by the player it decides for. -/
theorem decided_by_last {target : Nat} {points : Game} {w : PlayerSide}
    (undecided : ¬Decided target points) (decided : Decided target (points ++ [w])) :
    Leads target w (points ++ [w]) := by
  cases w <;> simp [Decided, Leads, opposite] at undecided decided ⊢ <;> omega

theorem won_of_leads {target : Nat} {side : PlayerSide} {points : Game}
    (leads : Leads target side points) : won side points = true ∧ won (opposite side) points = false := by
  unfold Leads at leads
  simp [won]
  omega

theorem gamesWon_concat (side : PlayerSide) (games : List Game) (game : Game) :
    gamesWon side (games ++ [game]) = gamesWon side games + if won side game then 1 else 0 := by
  simp [gamesWon, List.countP_append, List.countP_cons]

theorem not_tied_nil : ¬Tied [] := by simp [Tied, gamesWon]

theorem tiebreakOf_concat (games : List Game) (game : Game) :
    tiebreakOf (games ++ [game]) = if Tied games then some game else none := by
  simp [tiebreakOf]

/-- Some player wins every game that fits. -/
theorem gameFits_won {games : List Game} {game : Game} (fits : GameFits games game) :
    ∃ w, Leads (target games) w game ∧ won w game = true ∧ won (opposite w) game = false := by
  rcases fits.2.1 with leads | leads
  · exact ⟨_, leads, won_of_leads leads⟩
  · exact ⟨_, leads, won_of_leads leads⟩

/-- Adding the game `w` wins to a set that goes on. -/
theorem setWon_concat (games : List Game) {game : Game} {w : PlayerSide}
    (wins : won w game = true) (loses : won (opposite w) game = false) :
    (SetWon w (games ++ [game]) ↔ Tied games ∨
        (6 ≤ gamesWon w games + 1 ∧ gamesWon (opposite w) games + 2 ≤ gamesWon w games + 1)) ∧
      (SetWon (opposite w) (games ++ [game]) ↔
        6 ≤ gamesWon (opposite w) games ∧ gamesWon w games + 3 ≤ gamesWon (opposite w) games) := by
  simp only [SetWon, gamesWon_concat, tiebreakOf_concat, opposite_opposite, wins, loses]
  by_cases tied : Tied games
  · simp [tied, wins, loses]
  · simp [tied]

/-- No player has more than six games in a set that goes on. -/
theorem gamesWon_le_six {games : List Game} (fits : Chained GameFits [] games)
    (going : ¬SetOver games) : ∀ side, gamesWon side games ≤ 6 := by
  induction games using List.reverseRecOn with
  | nil => intro side; simp [gamesWon]
  | append_singleton before game ih =>
      obtain ⟨fitsBefore, fitsGame⟩ := chained_concat.mp fits
      have bounds := ih fitsBefore fitsGame.1
      obtain ⟨w, -, wins, loses⟩ := gameFits_won fitsGame
      obtain ⟨byW, byOther⟩ := setWon_concat before wins loses
      have noW : ¬SetWon w (before ++ [game]) := by
        intro ended; cases w
        · exact going (.inl ended)
        · exact going (.inr ended)
      rw [byW, not_or] at noW
      have untied : ¬(gamesWon w before = 6 ∧ gamesWon (opposite w) before = 6) := by
        intro both
        apply noW.1
        cases w
        · exact both
        · exact ⟨both.2, both.1⟩
      have own := bounds w
      have other := bounds (opposite w)
      have ownAfter := gamesWon_concat w before game
      have otherAfter := gamesWon_concat (opposite w) before game
      simp only [wins, loses, if_true, Bool.false_eq_true, if_false] at ownAfter otherAfter
      intro side
      have either : side = w ∨ side = opposite w := by cases side <;> cases w <;> simp [opposite]
      rcases either with rfl | rfl
      · omega
      · omega

/-- How a finished set stands: won by six games to four or fewer, by seven to
five, or by seven to six with a tiebreak. -/
inductive FinishedSet (games : List Game) (w : PlayerSide) : Prop where
  | normal (untied : tiebreakOf games = none)
      (stands : (gamesWon w games = 6 ∧ gamesWon (opposite w) games ≤ 4) ∨
        (gamesWon w games = 7 ∧ gamesWon (opposite w) games = 5))
  | tiebreak (points : Game) (last : tiebreakOf games = some points) (leads : Leads 7 w points)
      (stands : gamesWon w games = 7 ∧ gamesWon (opposite w) games = 6)

theorem finishedSet_of_concat {before : List Game} {game : Game} {w : PlayerSide}
    (fitsBefore : Chained GameFits [] before) (fitsGame : GameFits before game)
    (leads : Leads (target before) w game) (ended : SetOver (before ++ [game])) :
    SetWon w (before ++ [game]) ∧ ¬SetWon (opposite w) (before ++ [game]) ∧
      FinishedSet (before ++ [game]) w := by
  obtain ⟨wins, loses⟩ := won_of_leads leads
  have bounds := gamesWon_le_six fitsBefore fitsGame.1
  obtain ⟨byW, byOther⟩ := setWon_concat before wins loses
  have ownAfter := gamesWon_concat w before game
  have otherAfter := gamesWon_concat (opposite w) before game
  simp only [wins, loses, if_true, Bool.false_eq_true, if_false, Nat.add_zero]
    at ownAfter otherAfter
  have undecided : ∀ side, ¬(6 ≤ gamesWon side before ∧
      gamesWon (opposite side) before + 2 ≤ gamesWon side before) := by
    intro side lead
    cases side
    · exact fitsGame.1 (.inl (.inl lead))
    · exact fitsGame.1 (.inr (.inl lead))
  have own := bounds w
  have other := bounds (opposite w)
  have noLead := undecided w
  have noOtherLead := undecided (opposite w)
  rw [opposite_opposite] at noOtherLead
  have notOther : ¬SetWon (opposite w) (before ++ [game]) := by
    rw [byOther]; omega
  have byWinner : SetWon w (before ++ [game]) := by
    cases w
    · exact ended.resolve_right notOther
    · exact ended.resolve_left notOther
  refine ⟨byWinner, notOther, ?_⟩
  have last := tiebreakOf_concat before game
  by_cases tied : Tied before
  · have both : gamesWon w before = 6 ∧ gamesWon (opposite w) before = 6 := by
      cases w
      · exact tied
      · exact ⟨tied.2, tied.1⟩
    rw [if_pos tied] at last
    rw [target, if_pos tied] at leads
    exact .tiebreak game last leads (by omega)
  · rw [if_neg tied] at last
    have lead := (byW.mp byWinner).resolve_left tied
    exact .normal last (by omega)

theorem SetComplete.finished {games : List Game} (complete : SetComplete games) :
    ∃ w, SetWon w games ∧ ¬SetWon (opposite w) games ∧ FinishedSet games w := by
  obtain ⟨fits, ended⟩ := complete
  induction games using List.reverseRecOn with
  | nil => simp [SetOver, SetWon, gamesWon, tiebreakOf] at ended
  | append_singleton before game _ =>
      obtain ⟨fitsBefore, fitsGame⟩ := chained_concat.mp fits
      obtain ⟨w, leads, -⟩ := gameFits_won fitsGame
      exact ⟨w, finishedSet_of_concat fitsBefore fitsGame leads ended⟩

/-! ## Finished sets in the machine -/

open MatchRecord (setScore call serverOfGame serverOfPoint)

theorem completedSetWinner_setScore {games : List Game} {w : PlayerSide}
    (finished : FinishedSet games w) : completedSetWinner (setScore games) = some w := by
  cases finished with
  | normal untied stands =>
      cases w <;> simp only [opposite] at stands <;>
        simp only [completedSetWinner, setScore, untied, Option.map_none]
      · rw [if_pos (by omega)]
      · rw [if_neg (by omega), if_pos (by omega)]
  | tiebreak points last leads stands =>
      obtain ⟨most, lead⟩ := leads
      cases w <;> simp only [opposite] at stands lead <;>
        simp only [completedSetWinner, setScore, last, Option.map_some, stands]
      · simp [most, lead]
      · simp [most, lead]

theorem setScore_games {games : List Game} {w : PlayerSide} (finished : FinishedSet games w) :
    ((setScore games).gamesAway < (setScore games).gamesHome ↔ w = .home) ∧
      (setScore games).gamesHome < 8 ∧ (setScore games).gamesAway < 8 := by
  simp only [setScore]
  cases finished with
  | normal untied stands => cases w <;> simp [opposite] at stands ⊢ <;> omega
  | tiebreak points last leads stands => cases w <;> simp [opposite] at stands ⊢ <;> omega

theorem setsWon_concat (side : PlayerSide) (sets : List (List Game)) (games : List Game) :
    setsWon side (sets ++ [games]) = setsWon side sets + if SetWon side games then 1 else 0 := by
  by_cases won : SetWon side games <;> simp [setsWon, List.countP_append, won]

/-- The machine counts set wins as the rules do. -/
theorem setWins_setScore {sets : List (List Game)} (complete : ∀ s ∈ sets, SetComplete s) :
    setWins (sets.map setScore) = (setsWon .home sets, setsWon .away sets) := by
  have agree : ∀ s ∈ sets,
      ((setScore s).gamesAway < (setScore s).gamesHome ↔ SetWon .home s) ∧
      ((setScore s).gamesHome ≤ (setScore s).gamesAway ↔ SetWon .away s) := by
    intro s member
    obtain ⟨w, byW, notOther, finished⟩ := (complete s member).finished
    have games := (setScore_games finished).1
    cases w
    · simp only [opposite] at notOther
      simp only [byW, notOther, iff_true, iff_false, not_le] at games ⊢
      exact ⟨games, games⟩
    · simp only [opposite] at notOther
      simp only [byW, notOther, reduceCtorEq, iff_false, iff_true, not_lt] at games ⊢
      exact ⟨games, games⟩
  simp only [setWins, setsWon, List.countP_map, Prod.mk.injEq]
  constructor
  · refine List.countP_congr fun s member => ?_
    simpa using (agree s member).1
  · refine List.countP_congr fun s member => ?_
    simpa using (agree s member).2

theorem chained_complete {required : Nat} {before sets : List (List Game)}
    (fits : Chained (SetFits required) before sets) : ∀ s ∈ sets, SetComplete s := by
  induction sets generalizing before with
  | nil => simp
  | cons s rest ih =>
      intro t member
      rcases List.mem_cons.mp member with rfl | later
      · exact fits.1.2
      · exact ih fits.2 t later

/-- The loop over the completed sets finds the winner of the match, if it has one. -/
theorem completedPrefixFrom_sets {required : Nat} {before rest : List (List Game)}
    (fits : Chained (SetFits required) before rest) (going : ¬MatchOver required before) :
    completedPrefixFrom required (setsWon .home before) (setsWon .away before)
        (rest.map setScore) = some (matchWinner required (before ++ rest)) := by
  induction rest generalizing before with
  | nil =>
      simp only [MatchOver, not_or] at going
      simp [completedPrefixFrom, matchWinner, going]
  | cons s rest ih =>
      obtain ⟨⟨-, complete⟩, fitsRest⟩ := fits
      obtain ⟨w, byW, notOther, finished⟩ := complete.finished
      have home := setsWon_concat .home before s
      have away := setsWon_concat .away before s
      have noMore : MatchOver required (before ++ [s]) → rest = [] := by
        intro ended
        cases rest with
        | nil => rfl
        | cons t rest => exact absurd ended fitsRest.1.1
      have split : before ++ s :: rest = before ++ [s] ++ rest := by simp
      simp only [MatchOver, not_or] at going
      cases w
      · simp only [opposite] at notOther
        simp only [byW, notOther, if_true, if_false, Nat.add_zero] at home away
        simp only [List.map_cons, completedPrefixFrom, completedSetWinner_setScore finished]
        split_ifs with clinch empty
        · have none : rest = [] := by simpa using empty
          subst none
          simp only [matchWinner, home, if_pos (show required ≤ setsWon .home before + 1 by omega)]
        · exact absurd (by simpa using noMore (.inl (by omega))) empty
        · rw [split, ← home, ← away]
          exact ih fitsRest (by rw [MatchOver]; omega)
      · simp only [opposite] at notOther
        simp only [byW, notOther, if_true, if_false, Nat.add_zero] at home away
        simp only [List.map_cons, completedPrefixFrom, completedSetWinner_setScore finished]
        split_ifs with clinch empty
        · have none : rest = [] := by simpa using empty
          subst none
          simp only [matchWinner, home, away, if_neg going.1,
            if_pos (show required ≤ setsWon .away before + 1 by omega)]
        · exact absurd (by simpa using noMore (.inr (by omega))) empty
        · rw [split, ← home, ← away]
          exact ih fitsRest (by rw [MatchOver]; omega)

/-! ## One more point -/

/-- The record after one more point: it may close the game, and the game the set. -/
def MatchRecord.extend (r : MatchRecord) (w : PlayerSide) : MatchRecord :=
  if Decided (target r.games) (r.points ++ [w]) then
    if SetOver (r.games ++ [r.points ++ [w]]) then ⟨r.sets ++ [r.games ++ [r.points ++ [w]]], [], []⟩
    else ⟨r.sets, r.games ++ [r.points ++ [w]], []⟩
  else ⟨r.sets, r.games, r.points ++ [w]⟩

theorem MatchRecord.played_extend (r : MatchRecord) (w : PlayerSide) :
    (r.extend w).played = r.played ++ [w] := by
  unfold extend played
  split_ifs <;> simp

theorem setRunning_nil : SetRunning [] [] := by
  refine ⟨trivial, by simp [SetOver, SetWon, gamesWon, tiebreakOf], running_nil ?_⟩
  simp [Decided, Leads, target, Tied, gamesWon]

theorem not_decided_nil (games : List Game) : ¬Decided (target games) [] := by
  unfold target
  split <;> simp [Decided, Leads]

theorem MatchRecord.follows_extend {required : Nat} {r : MatchRecord} (w : PlayerSide)
    (follows : r.Follows required) (going : ¬MatchOver required r.sets) :
    (r.extend w).Follows required := by
  obtain ⟨fits, running⟩ := follows
  rw [if_neg going] at running
  obtain ⟨fitsGames, setGoing, runningGame⟩ := running
  unfold extend
  split_ifs with decided ended
  · have fitsGame : GameFits r.games (r.points ++ [w]) :=
      ⟨setGoing, stopped_append runningGame decided⟩
    refine ⟨chained_concat.mpr ⟨fits, going, chained_concat.mpr ⟨fitsGames, fitsGame⟩, ended⟩, ?_⟩
    split_ifs
    · exact ⟨rfl, rfl⟩
    · exact setRunning_nil
  · have fitsGame : GameFits r.games (r.points ++ [w]) :=
      ⟨setGoing, stopped_append runningGame decided⟩
    refine ⟨fits, ?_⟩
    rw [if_neg going]
    exact ⟨chained_concat.mpr ⟨fitsGames, fitsGame⟩, ended, running_nil (not_decided_nil _)⟩
  · refine ⟨fits, ?_⟩
    rw [if_neg going]
    exact ⟨fitsGames, setGoing, running_append.mpr ⟨runningGame, decided⟩⟩

theorem call_advantage {own other : Nat} (ahead : 4 ≤ own ∧ own = other + 1) :
    call own other = .advantage := if_pos ahead

theorem call_forty {own other : Nat} (many : 3 ≤ own) (level : own ≤ other) :
    call own other = .forty := by
  obtain ⟨k, rfl⟩ : ∃ k, own = k + 3 := ⟨own - 3, by omega⟩
  unfold call
  rw [if_neg (by omega)]
  rfl

/-- The game counter goes from the call of a score to the call of the next one,
and wins the game exactly when the race to four is decided. -/
theorem gamePoint_call {own other : Nat} (noOwn : ¬(4 ≤ own ∧ other + 2 ≤ own))
    (noOther : ¬(4 ≤ other ∧ own + 2 ≤ other)) :
    gamePoint (call own other) (call other own) =
      if 4 ≤ own + 1 ∧ other + 2 ≤ own + 1 then none
      else some (call (own + 1) other, call other (own + 1)) := by
  by_cases adOwn : 4 ≤ own ∧ own = other + 1
  · rw [if_pos (by omega), call_advantage adOwn]
    rfl
  by_cases adOther : 4 ≤ other ∧ other = own + 1
  · rw [if_neg (by omega), call_forty (by omega) (by omega), call_advantage adOther,
      call_forty (by omega) (by omega), call_forty (by omega) (by omega)]
    rfl
  by_cases high : 3 ≤ own ∧ 3 ≤ other
  · have level : own = other := by omega
    subst level
    rw [if_neg (by omega), call_forty (by omega) le_rfl, call_advantage (by omega),
      call_forty (by omega) (by omega)]
    rfl
  -- below deuce neither count exceeds three
  have small : own ≤ 3 ∧ other ≤ 3 := by omega
  obtain ⟨ownSmall, otherSmall⟩ := small
  interval_cases own <;> interval_cases other <;> rfl

theorem tiebreakServer_eq (first : PlayerSide) (number : Nat) :
    tiebreakServer first number = serverOfPoint first number := by
  unfold tiebreakServer serverOfPoint
  split_ifs <;> first | rfl | omega

theorem serverOfGame_succ (first : PlayerSide) (number : Nat) :
    serverOfGame first (number + 1) = opposite (serverOfGame first number) := by
  unfold serverOfGame
  split_ifs <;> first | omega | simp

section Step

variable {format : MatchFormat} {r : MatchRecord} {first : PlayerSide} (w : PlayerSide)

theorem setScore_construct {games : List Game} {winner : PlayerSide}
    (finished : FinishedSet games winner)
    (small : ∀ points, tiebreakOf games = some points → points.length < integerBound) :
    (setScore games).construct = .ok (setScore games) := by
  obtain ⟨-, home, away⟩ := setScore_games finished
  have bound : 8 < integerBound := by norm_num [integerBound]
  have counts : ∀ side points, tiebreakOf games = some points →
      points.count side < integerBound :=
    fun side points last => lt_of_le_of_lt List.count_le_length (small points last)
  simp only [SetScore.construct, SetScore.postInit, bind_eq_ok, exists_unit, pure_eq_ok,
    integer_eq_ok, checkSome_eq_ok, setScore, and_true] at home away ⊢
  refine ⟨by omega, by omega, ?_, ?_, by simp⟩
  · intro n last
    obtain ⟨points, found, rfl⟩ := Option.map_eq_some_iff.mp last
    exact counts _ points found
  · intro n last
    obtain ⟨points, found, rfl⟩ := Option.map_eq_some_iff.mp last
    exact counts _ points found

/-- Completing a set leads to the score of the record with that set added. -/
theorem completedSetChanges_score {games : List Game} {server : PlayerSide} {before : Score}
    (fits : Chained (SetFits (setsRequired format)) [] (r.sets ++ [games]))
    (sets : before.completedSets = r.sets.map setScore)
    (serves : server = serverOfGame first (r.sets.flatten.length + games.length)) :
    completedSetChanges format before (setScore games) server =
      MatchRecord.score (setsRequired format) ⟨r.sets ++ [games], [], []⟩ first := by
  have wins := setWins_setScore (chained_complete fits)
  rw [List.map_append, List.map_singleton, ← sets] at wins
  have going := (chained_concat.mp fits).2.1
  simp only [MatchOver, not_or, not_le] at going
  have home := setsWon_concat .home r.sets games
  have away := setsWon_concat .away r.sets games
  have exact : ∀ side, setsWon side (r.sets ++ [games]) = setsRequired format ↔
      setsRequired format ≤ setsWon side (r.sets ++ [games]) := by
    intro side
    cases side
    · rw [home]; split_ifs <;> omega
    · rw [away]; split_ifs <;> omega
  simp only [completedSetChanges, wins, exact, MatchRecord.score, MatchRecord.gameServer,
    matchWinner, not_tied_nil, if_false, decide_false]
  rw [sets]
  simp [call, gamesWon, serves]

theorem matchWinner_going {required : Nat} {sets : List (List Game)}
    (going : ¬MatchOver required sets) : matchWinner required sets = none := by
  simp only [MatchOver, not_or] at going
  simp [matchWinner, going]

theorem gameServer_concat (game : Game) :
    opposite (r.gameServer first) =
      serverOfGame first (r.sets.flatten.length + (r.games ++ [game]).length) := by
  rw [List.length_append, List.length_singleton, ← Nat.add_assoc, serverOfGame_succ]
  rfl

theorem tiebreakWon_eq (points : Game) :
    tiebreakWon (points.count .home) (points.count .away) = decide (Decided 7 points) := rfl

variable (follows : r.Follows (setsRequired format)) (going : ¬MatchOver (setsRequired format) r.sets)
include follows going

variable (first) in
/-- A game that ends moves the machine to the next game, the tiebreak or the next set. -/
theorem advanceGame_extend (untied : ¬Tied r.games)
    (decided : Decided (target r.games) (r.points ++ [w])) :
    advanceGame format (r.score (setsRequired format) first) w =
      .ok ((r.extend w).score (setsRequired format) first) := by
  have next := MatchRecord.follows_extend w follows going
  obtain ⟨-, running⟩ := follows
  rw [if_neg going] at running
  obtain ⟨fitsGames, setGoing, runningGame⟩ := running
  have fitsGame : GameFits r.games (r.points ++ [w]) :=
    ⟨setGoing, stopped_append runningGame decided⟩
  have leads := decided_by_last runningGame.not_stop decided
  obtain ⟨wins, loses⟩ := won_of_leads leads
  have noTiebreak : tiebreakOf (r.games ++ [r.points ++ [w]]) = none := by
    rw [tiebreakOf_concat, if_neg untied]
  have home : (if w = .home then gamesWon .home r.games + 1 else gamesWon .home r.games) =
      gamesWon .home (r.games ++ [r.points ++ [w]]) := by
    cases w <;> simp only [opposite] at loses <;> simp [gamesWon_concat, wins, loses]
  have away : (if w = .home then gamesWon .away r.games else gamesWon .away r.games + 1) =
      gamesWon .away (r.games ++ [r.points ++ [w]]) := by
    cases w <;> simp only [opposite] at loses <;> simp [gamesWon_concat, wins, loses]
  have normal : normalSetWon (gamesWon .home (r.games ++ [r.points ++ [w]]))
      (gamesWon .away (r.games ++ [r.points ++ [w]])) =
        decide (SetOver (r.games ++ [r.points ++ [w]])) := by
    simp [normalSetWon, SetOver, SetWon, noTiebreak, opposite]
  have noWinner := matchWinner_going going
  unfold MatchRecord.extend at next
  rw [if_pos decided] at next
  unfold advanceGame MatchRecord.extend
  rw [if_pos decided]
  simp only [MatchRecord.score, noWinner, untied, home, away, normal]
  by_cases ended : SetOver (r.games ++ [r.points ++ [w]])
  · obtain ⟨-, -, finished⟩ := finishedSet_of_concat fitsGames fitsGame leads ended
    have same : (⟨gamesWon .home (r.games ++ [r.points ++ [w]]),
        gamesWon .away (r.games ++ [r.points ++ [w]]), none, none⟩ : SetScore) =
          setScore (r.games ++ [r.points ++ [w]]) := by
      simp [setScore, noTiebreak]
    rw [if_pos ended] at next
    have built := setScore_construct finished (by simp [noTiebreak])
    simp only [ended, decide_true, if_true, Option.isSome_none, Bool.false_eq_true, if_false, same,
      built, ok_bind]
    refine congrArg Except.ok (completedSetChanges_score next.1 rfl ?_)
    exact gameServer_concat _
  · simp only [ended, decide_false, Option.isSome_none, Bool.false_eq_true, if_false,
      gameServer_concat (r.points ++ [w])]
    by_cases tied : Tied (r.games ++ [r.points ++ [w]])
    · rw [if_pos (And.intro tied.1 tied.2)]
      simp [tied, noWinner, MatchRecord.gameServer, serverOfPoint, pure, Except.pure]
    · rw [if_neg (fun six => tied six)]
      simp [tied, noWinner, MatchRecord.gameServer, call, pure, Except.pure]
      exact fun home away => tied ⟨home, away⟩

/-- A tiebreak point moves the tiebreak on or ends the set. -/
theorem advanceTiebreak_extend (tied : Tied r.games)
    (small : r.points.length + 1 < integerBound) :
    advanceTiebreak format (r.score (setsRequired format) first) w =
      .ok ((r.extend w).score (setsRequired format) first) := by
  have next := MatchRecord.follows_extend w follows going
  obtain ⟨-, running⟩ := follows
  rw [if_neg going] at running
  obtain ⟨fitsGames, setGoing, runningGame⟩ := running
  have seven : target r.games = 7 := if_pos tied
  have home : (if w = .home then r.points.count .home + 1 else r.points.count .home) =
      (r.points ++ [w]).count .home := by cases w <;> simp
  have away : (if w = .home then r.points.count .away else r.points.count .away + 1) =
      (r.points ++ [w]).count .away := by cases w <;> simp
  have noWinner := matchWinner_going going
  unfold MatchRecord.extend at next ⊢
  rw [seven] at next ⊢
  simp only [advanceTiebreak, MatchRecord.score, noWinner, tied, if_true, home, away,
    tiebreakWon_eq]
  by_cases decided : Decided 7 (r.points ++ [w])
  · have fitsGame : GameFits r.games (r.points ++ [w]) :=
      ⟨setGoing, stopped_append runningGame (by rwa [seven])⟩
    have leads := decided_by_last (by rw [← seven]; exact runningGame.not_stop) decided
    obtain ⟨wins, loses⟩ := won_of_leads leads
    have last : tiebreakOf (r.games ++ [r.points ++ [w]]) = some (r.points ++ [w]) := by
      rw [tiebreakOf_concat, if_pos tied]
    have ended : SetOver (r.games ++ [r.points ++ [w]]) := by
      cases w
      · exact .inl (.inr (by simp [last, wins]))
      · exact .inr (.inr (by simp [last, wins]))
    obtain ⟨-, -, finished⟩ :=
      finishedSet_of_concat fitsGames fitsGame (by rwa [seven]) ended
    have same : (⟨if w = .home then 7 else 6, if w = .home then 6 else 7,
        some ((r.points ++ [w]).count .home), some ((r.points ++ [w]).count .away)⟩ : SetScore) =
          setScore (r.games ++ [r.points ++ [w]]) := by
      have six := tied.1
      have sixAway := tied.2
      cases w <;> simp only [opposite] at loses <;>
        simp [setScore, last, gamesWon_concat, wins, loses, six, sixAway]
    rw [if_pos decided, if_pos ended] at next
    have built := setScore_construct finished (by simpa [last] using small)
    simp only [decided, ended, decide_true, if_true, same, built, ok_bind]
    refine congrArg Except.ok (completedSetChanges_score next.1 rfl ?_)
    exact gameServer_concat _
  · simp only [count_home_add_away, List.length_append, List.length_singleton]
    simp [decided, tied, noWinner, tiebreakServer_eq, MatchRecord.gameServer, pure, Except.pure]

variable (first) in
/-- `_advance_score` moves from the score of a record to the score of the record
with the point. -/
theorem advanceScore_extend (small : r.points.length + 1 < integerBound) :
    advanceScore format (r.score (setsRequired format) first) w =
      .ok ((r.extend w).score (setsRequired format) first) := by
  by_cases tied : Tied r.games
  · unfold advanceScore
    rw [if_pos (by simp [MatchRecord.score, tied])]
    exact advanceTiebreak_extend w follows going tied small
  have undecided : ¬Decided (target r.games) r.points := by
    obtain ⟨-, running⟩ := follows
    rw [if_neg going] at running
    exact running.2.2.not_stop
  have four : target r.games = 4 := if_neg tied
  rw [four] at undecided
  have own : ∀ side, ¬(4 ≤ r.points.count side ∧
      r.points.count (opposite side) + 2 ≤ r.points.count side) := by
    intro side leads
    cases side
    · exact undecided (.inl leads)
    · exact undecided (.inr leads)
  have noOther := own (opposite w)
  rw [opposite_opposite] at noOther
  have point := gamePoint_call (own w) noOther
  have settles : (4 ≤ r.points.count w + 1 ∧
      r.points.count (opposite w) + 2 ≤ r.points.count w + 1) ↔ Decided 4 (r.points ++ [w]) := by
    constructor
    · intro leads
      cases w
      · exact .inl (by simpa [Leads, opposite] using leads)
      · exact .inr (by simpa [Leads, opposite] using leads)
    · intro decided
      have leads := decided_by_last undecided decided
      rwa [Leads, count_concat_opposite, count_concat_self] at leads
  simp only [settles] at point
  unfold advanceScore
  rw [if_neg (by simp [MatchRecord.score, tied])]
  by_cases decided : Decided 4 (r.points ++ [w])
  · rw [if_pos decided] at point
    have game := advanceGame_extend first w follows going tied (by rwa [four])
    cases w <;> simp only [opposite] at point <;>
      simpa [MatchRecord.score, tied, point] using game
  · rw [if_neg decided] at point
    have noWinner := matchWinner_going going
    cases w <;> simp only [opposite] at point <;>
      simp [MatchRecord.score, MatchRecord.extend, MatchRecord.gameServer, four, decided, tied,
        point, noWinner, pure, Except.pure]

end Step

/-! ## The score of a record is valid and reachable -/

section Legal

variable {format : MatchFormat} {r : MatchRecord} {first : PlayerSide}

theorem SetRunning.untied_or {games : List Game} {points : Game} (running : SetRunning games points) :
    (∀ side, gamesWon side games ≤ 6) ∧
      normalSetWon (gamesWon .home games) (gamesWon .away games) = false := by
  refine ⟨gamesWon_le_six running.1 running.2.1, ?_⟩
  have going := running.2.1
  simp only [SetOver, SetWon, opposite, not_or] at going
  simp only [normalSetWon, decide_eq_false_iff_not, not_or]
  exact ⟨going.1.1, going.2.1⟩

theorem score_validateStatus (required : Nat) :
    validateStatus (r.score required first) = .ok () := by
  unfold validateStatus MatchRecord.score
  cases winner : matchWinner required r.sets <;> simp

theorem call_cases (own other : Nat) :
    (call own other = .advantage → call other own = .forty) := by
  intro advantage
  by_cases ahead : 4 ≤ own ∧ own = other + 1
  · exact call_forty (by omega) (by omega)
  · unfold call at advantage
    rw [if_neg ahead] at advantage
    split at advantage <;> simp at advantage

theorem score_validateScore {required : Nat} (follows : r.Follows required)
    (small : r.points.length < integerBound) :
    validateScore (r.score required first) = .ok () := by
  have bound : 6 < integerBound := by norm_num [integerBound]
  have games : ∀ side, gamesWon side r.games < integerBound := by
    intro side
    obtain ⟨-, running⟩ := follows
    split at running
    · rw [running.1]
      simpa [gamesWon] using integerBound_pos
    · exact lt_of_le_of_lt (gamesWon_le_six running.1 running.2.1 side) bound
  have points : ∀ side, r.points.count side < integerBound :=
    fun side => lt_of_le_of_lt List.count_le_length small
  have home := call_cases (r.points.count .home) (r.points.count .away)
  have away := call_cases (r.points.count .away) (r.points.count .home)
  by_cases tied : Tied r.games
  · simp [validateScore, MatchRecord.score, tied, games, points]
  · simp only [validateScore, MatchRecord.score, tied, if_false, bind_eq_ok, exists_unit,
      integer_eq_ok, refuse_eq_ok]
    refine ⟨games _, games _, integerBound_pos, integerBound_pos, ?_, ?_, by simp⟩
    · rintro (⟨advantage, notForty⟩ | ⟨advantage, notForty⟩)
      · exact notForty (home advantage)
      · exact notForty (away advantage)
    · rintro ⟨advantage, other⟩
      rw [home advantage] at other
      simp at other

variable (first) in
theorem completedPrefix_score (follows : r.Follows (setsRequired format)) :
    completedPrefix format (r.score (setsRequired format) first) =
      some (matchWinner (setsRequired format) r.sets) := by
  have fresh : ¬MatchOver (setsRequired format) [] := by
    cases format <;> simp [MatchOver, setsWon, setsRequired]
  exact completedPrefixFrom_sets follows.1 fresh

theorem score_reachable (supported : format ∈ supportedFormats)
    (follows : r.Follows (setsRequired format)) :
    reachable format (r.score (setsRequired format) first) = true := by
  have sets := completedPrefix_score first follows
  obtain ⟨-, running⟩ := follows
  rw [reachable, if_neg (not_not.mpr supported)]
  cases winner : matchWinner (setsRequired format) r.sets with
  | some side =>
      have ended : MatchOver (setsRequired format) r.sets := by
        by_contra going
        simp [matchWinner_going going] at winner
      rw [if_pos ended] at running
      rw [winner] at sets
      have live : (r.score (setsRequired format) first).status = .ended ∧
          (r.score (setsRequired format) first).terminationKind = .natural := by
        simp [MatchRecord.score, winner]
      simp only [live.1, live.2, sets]
      simp [MatchRecord.score, winner, not_tied_nil, running.1, running.2, gamesWon, call]
  | none =>
      have going : ¬MatchOver (setsRequired format) r.sets := by
        intro ended
        rcases ended with home | away
        · simp [matchWinner, home] at winner
        · simp only [matchWinner] at winner
          split_ifs at winner
      rw [if_neg going] at running
      rw [winner] at sets
      obtain ⟨bounds, normal⟩ := running.untied_or
      have home := bounds .home
      have away := bounds .away
      have undecided := running.2.2.not_stop
      have live : (r.score (setsRequired format) first).status = .live := by
        simp [MatchRecord.score, winner]
      simp only [live, incompleteScoreIsReachable, sets]
      by_cases tied : Tied r.games
      · rw [target, if_pos tied] at undecided
        have six := tied.1
        have sixAway := tied.2
        simp [MatchRecord.score, winner, tied, six, sixAway, tiebreakWon_eq, undecided,
          count_home_add_away, tiebreakServer_eq]
      · have notBoth : ¬(gamesWon .home r.games = 6 ∧ gamesWon .away r.games = 6) := tied
        simp only [MatchRecord.score, winner, tied, normal]
        simp
        omega

end Legal

end Inci.Tennis
