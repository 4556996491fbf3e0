/-
# Tennis.Admission -- which snapshots the machine admits

A live or finished snapshot should be admitted when its score is one that points
played from the start can lead to.  Every such score is admitted.  A finished set
is admitted with any tiebreak its winner leads by two, though a tiebreak ends at
the first point that gives such a lead: on sets whose tiebreak went on past it
the machine admits scores no match can have.
-/
import Inci.Tennis.Validity

namespace Inci.Tennis

open Inci.Theory Inci.Expert
open MatchRecord (setScore call serverOfGame serverOfPoint)

set_option autoImplicit false

/-- The score some points lead to, from no points and with some first server. -/
def Playable (format : MatchFormat) (score : Score) : Prop :=
  format ∈ supportedFormats ∧ ∃ (first : PlayerSide) (winners : List PlayerSide)
    (record : MatchRecord), record.Declares (setsRequired format) winners ∧
      record.score (setsRequired format) first = score

/-- A finished tiebreak that goes on after its winner has won it. -/
def Overshoots (s : SetScore) : Prop :=
  ∃ home away, s.tiebreakPointsHome = some home ∧ s.tiebreakPointsAway = some away ∧
    ((s.gamesHome = 7 ∧ s.gamesAway = 6 ∧ max 7 (away + 2) < home) ∨
      (s.gamesHome = 6 ∧ s.gamesAway = 7 ∧ max 7 (home + 2) < away))

/-- The set with its tiebreak stopped at the point that wins it. -/
def trimmedSet (s : SetScore) : SetScore :=
  match s.tiebreakPointsHome, s.tiebreakPointsAway with
  | some home, some away =>
      if s.gamesHome = 7 ∧ s.gamesAway = 6 ∧ max 7 (away + 2) < home then
        { s with tiebreakPointsHome := some (max 7 (away + 2)) }
      else if s.gamesHome = 6 ∧ s.gamesAway = 7 ∧ max 7 (home + 2) < away then
        { s with tiebreakPointsAway := some (max 7 (home + 2)) }
      else s
  | _, _ => s

def trimmed (v : Score) : Score := { v with completedSets := v.completedSets.map trimmedSet }

/-! ## Histories for a score -/

/-- Points with these counts that leave a race undecided. -/
theorem exists_running (target : Nat) : ∀ (total home away : Nat), home + away = total →
    ¬(target ≤ home ∧ away + 2 ≤ home) → ¬(target ≤ away ∧ home + 2 ≤ away) →
    ∃ points : Game, points.count .home = home ∧ points.count .away = away ∧
      Running (Decided target) points := by
  intro total
  induction total with
  | zero =>
      intro home away total _ _
      obtain ⟨rfl, rfl⟩ : home = 0 ∧ away = 0 := by omega
      exact ⟨[], rfl, rfl, running_nil (by simp [Decided, Leads])⟩
  | succ n ih =>
      intro home away total noHome noAway
      -- The last point goes to the side that is ahead.
      by_cases ahead : away < home
      · obtain ⟨points, byHome, byAway, running⟩ := ih (home - 1) away (by omega) (by omega) (by omega)
        have counted : (points ++ [PlayerSide.home]).count .home = home ∧
            (points ++ [PlayerSide.home]).count .away = away := by
          simp [byHome, byAway]
          omega
        refine ⟨points ++ [.home], counted.1, counted.2, running_append.mpr ⟨running, ?_⟩⟩
        simp only [Decided, Leads, opposite, counted]
        omega
      · obtain ⟨points, byHome, byAway, running⟩ := ih home (away - 1) (by omega) (by omega) (by omega)
        have counted : (points ++ [PlayerSide.away]).count .home = home ∧
            (points ++ [PlayerSide.away]).count .away = away := by
          simp [byHome, byAway]
          omega
        refine ⟨points ++ [.away], counted.1, counted.2, running_append.mpr ⟨running, ?_⟩⟩
        simp only [Decided, Leads, opposite, counted]
        omega

/-- Points that a side wins a race with at the last one. -/
theorem exists_stopped (target : Nat) (w : PlayerSide) (own other : Nat)
    (wins : target ≤ own + 1 ∧ other + 2 ≤ own + 1) (before : ¬(target ≤ own ∧ other + 2 ≤ own)) :
    ∃ points : Game, points.count w = own + 1 ∧ points.count (opposite w) = other ∧
      Stopped (Decided target) points := by
  cases w with
  | home =>
      obtain ⟨points, home, away, running⟩ :=
        exists_running target (own + other) own other rfl before (by omega)
      refine ⟨points ++ [.home], by simp [home], by simp [away, opposite], stopped_append running ?_⟩
      exact .inl (by simp [Leads, opposite, home, away]; omega)
  | away =>
      obtain ⟨points, home, away, running⟩ :=
        exists_running target (other + own) other own rfl (by omega) before
      refine ⟨points ++ [.away], by simp [away], by simp [home, opposite], stopped_append running ?_⟩
      exact .inr (by simp [Leads, opposite, home, away]; omega)

/-- A set that goes on at these games. -/
structure Standing (games : List Game) (home away : Nat) : Prop where
  fits : Chained GameFits [] games
  going : ¬SetOver games
  untied : tiebreakOf games = none
  home : gamesWon .home games = home
  away : gamesWon .away games = away

/-- A game won by a side, at any games but six all. -/
theorem exists_game {games : List Game} (w : PlayerSide) (going : ¬SetOver games)
    (untied : ¬Tied games) :
    ∃ game, GameFits games game ∧ won w game = true ∧ won (opposite w) game = false := by
  obtain ⟨game, own, other, stopped⟩ :=
    exists_stopped 4 w 3 0 (by omega) (by omega)
  refine ⟨game, ⟨going, by rwa [target, if_neg untied]⟩, ?_⟩
  simp [won, own, other]

theorem setOver_of_untied {games : List Game} (untied : tiebreakOf games = none) :
    SetOver games ↔ normalSetWon (gamesWon .home games) (gamesWon .away games) = true := by
  simp [SetOver, SetWon, untied, normalSetWon, opposite]

/-- One more game of a set that goes on. -/
theorem Standing.extend {games : List Game} {home away : Nat} (stands : Standing games home away)
    (w : PlayerSide) (untied : ¬(home = 6 ∧ away = 6)) :
    ∃ game, Chained GameFits [] (games ++ [game]) ∧ tiebreakOf (games ++ [game]) = none ∧
      gamesWon .home (games ++ [game]) = home + (if w = .home then 1 else 0) ∧
      gamesWon .away (games ++ [game]) = away + (if w = .home then 0 else 1) := by
  have notTied : ¬Tied games := by
    rintro ⟨six, sixAway⟩
    exact untied ⟨stands.home ▸ six, stands.away ▸ sixAway⟩
  obtain ⟨game, fits, wins, loses⟩ := exists_game w stands.going notTied
  refine ⟨game, chained_concat.mpr ⟨stands.fits, fits⟩, ?_, ?_, ?_⟩
  · rw [tiebreakOf_concat, if_neg notTied]
  · rw [gamesWon_concat, stands.home]
    cases w <;> simp only [opposite] at loses <;> simp [wins, loses]
  · rw [gamesWon_concat, stands.away]
    cases w <;> simp only [opposite] at loses <;> simp [wins, loses]

theorem exists_standing : ∀ (total home away : Nat), home + away = total → home ≤ 6 → away ≤ 6 →
    normalSetWon home away = false → ∃ games, Standing games home away := by
  intro total
  induction total with
  | zero =>
      intro home away total _ _ _
      obtain ⟨rfl, rfl⟩ : home = 0 ∧ away = 0 := by omega
      exact ⟨[], trivial, setRunning_nil.2.1, rfl, rfl, rfl⟩
  | succ n ih =>
      intro home away total few fewAway going
      simp only [normalSetWon, decide_eq_false_iff_not] at going ih
      have extend : ∀ {h a : Nat} (w : PlayerSide), (∃ games, Standing games h a) →
          ¬(h = 6 ∧ a = 6) → home = h + (if w = .home then 1 else 0) →
          away = a + (if w = .home then 0 else 1) → ∃ games, Standing games home away := by
        rintro h a w ⟨games, stands⟩ both nextHome nextAway
        obtain ⟨game, fits, untied, byHome, byAway⟩ := stands.extend w both
        refine ⟨games ++ [game], fits, ?_, untied, byHome.trans nextHome.symm,
          byAway.trans nextAway.symm⟩
        rw [setOver_of_untied untied, byHome, byAway, ← nextHome, ← nextAway]
        simpa [normalSetWon] using going
      by_cases ahead : away < home
      · exact extend .home (ih (home - 1) away (by omega) (by omega) (by omega) (by omega))
          (by omega) (by simp; omega) (by simp)
      · exact extend .away (ih home (away - 1) (by omega) (by omega) (by omega) (by omega))
          (by omega) (by simp) (by simp; omega)

/-! ## Finished sets -/

/-- A set that a game wins. -/
theorem exists_normalSet (w : PlayerSide) (home away : Nat) (few : home ≤ 6) (fewAway : away ≤ 6)
    (going : normalSetWon home away = false) (both : ¬(home = 6 ∧ away = 6))
    (won : normalSetWon (home + if w = .home then 1 else 0) (away + if w = .home then 0 else 1) =
      true) :
    ∃ games, SetComplete games ∧ setScore games =
      ⟨home + if w = .home then 1 else 0, away + if w = .home then 0 else 1, none, none⟩ := by
  obtain ⟨games, stands⟩ := exists_standing (home + away) home away rfl few fewAway going
  obtain ⟨game, chained, untied, byHome, byAway⟩ := stands.extend w both
  refine ⟨games ++ [game], ⟨chained, ?_⟩, ?_⟩
  · rw [setOver_of_untied untied, byHome, byAway]
    exact won
  · simp [setScore, untied, byHome, byAway]

/-- A set that a tiebreak wins. -/
theorem exists_tiebreakSet (w : PlayerSide) {own other : Nat} (most : 7 ≤ own)
    (lead : other + 2 ≤ own) (first : own ≤ max 7 (other + 2)) :
    ∃ games, ∃ points : Game, SetComplete games ∧ points.count w = own ∧
      points.count (opposite w) = other ∧
      setScore games = ⟨if w = .home then 7 else 6, if w = .home then 6 else 7,
        some (points.count .home), some (points.count .away)⟩ := by
  obtain ⟨games, stands⟩ := exists_standing 12 6 6 rfl (by decide) (by decide) (by decide)
  have six : Tied games := ⟨stands.home, stands.away⟩
  obtain ⟨points, byOwn, byOther, stopped⟩ :=
    exists_stopped 7 w (own - 1) other (by omega) (by omega)
  have leads : Leads 7 w points := by
    rw [Leads, byOwn, byOther]
    omega
  obtain ⟨wins, loses⟩ := won_of_leads leads
  have last : tiebreakOf (games ++ [points]) = some points := by
    rw [tiebreakOf_concat, if_pos six]
  refine ⟨games ++ [points], points, ⟨chained_concat.mpr ⟨stands.fits, stands.going, ?_⟩, ?_⟩,
    by omega, byOther, ?_⟩
  · rwa [target, if_pos six]
  · cases w
    · exact .inl (.inr (by simp [last, wins]))
    · exact .inr (.inr (by simp [last, wins]))
  · simp only [setScore, last, gamesWon_concat, stands.home, stands.away, Option.map_some]
    cases w <;> simp only [opposite] at loses <;> simp [wins, loses]

/-- A set the machine accepts is some set of games, unless its tiebreak went too far. -/
theorem exists_set {s : SetScore} {w : PlayerSide} (built : s.postInit = .ok ())
    (wins : completedSetWinner s = some w) (fits : ¬Overshoots s) :
    ∃ games, SetComplete games ∧ setScore games = s := by
  simp only [SetScore.postInit, bind_eq_ok, exists_unit, refuse_eq_ok] at built
  obtain ⟨-, -, -, -, both⟩ := built
  obtain ⟨gamesHome, gamesAway, tiebreakHome, tiebreakAway⟩ := s
  simp only [completedSetWinner] at wins
  cases tiebreakHome with
  | none =>
      obtain rfl : tiebreakAway = none := by simpa using both
      simp only at wins
      split_ifs at wins with home away
      · have found := exists_normalSet .home (gamesHome - 1) gamesAway (by omega)
          (by omega) (by simp [normalSetWon]; omega) (by omega) (by simp [normalSetWon]; omega)
        simpa [show gamesHome - 1 + 1 = gamesHome by omega] using found
      · have found := exists_normalSet .away gamesHome (gamesAway - 1) (by omega)
          (by omega) (by simp [normalSetWon]; omega) (by omega) (by simp [normalSetWon]; omega)
        simpa [show gamesAway - 1 + 1 = gamesAway by omega] using found
  | some home =>
      cases tiebreakAway with
      | none => simp at wins
      | some away =>
          simp only [Overshoots, Option.some.injEq, exists_and_left, exists_eq_left', not_or,
            not_and, not_lt] at fits
          simp only at wins
          split_ifs at wins with byHome leads byAway leads
          · obtain ⟨games, points, complete, own, other, score⟩ :=
              exists_tiebreakSet .home leads.1 leads.2 (fits.1 byHome.1 byHome.2)
            refine ⟨games, complete, score.trans ?_⟩
            simp only [opposite] at other
            simp [own, other, byHome]
          · obtain ⟨games, points, complete, own, other, score⟩ :=
              exists_tiebreakSet .away leads.1 leads.2 (fits.2 byAway.1 byAway.2)
            refine ⟨games, complete, score.trans ?_⟩
            simp only [opposite] at other
            simp [own, other, byAway]

/-- The tiebreak of a set of games ends with the point that wins it. -/
theorem SetComplete.not_overshoots {games : List Game} (complete : SetComplete games) :
    ¬Overshoots (setScore games) := by
  rintro ⟨home, away, byHome, byAway, more⟩
  obtain ⟨fits, ended⟩ := complete
  induction games using List.reverseRecOn with
  | nil => simp [setScore, tiebreakOf, not_tied_nil] at byHome
  | append_singleton before points _ =>
      obtain ⟨-, fitsGame⟩ := chained_concat.mp fits
      simp only [setScore, tiebreakOf_concat] at byHome byAway more
      by_cases tied : Tied before
      · simp only [tied, if_true, Option.map_some, Option.some.injEq] at byHome byAway
        have stopped := fitsGame.2
        rw [target, if_pos tied] at stopped
        induction points using List.reverseRecOn with
        | nil => exact absurd stopped.1 (by simp [Decided, Leads])
        | append_singleton earlier w _ =>
            have undecided : ¬Decided 7 earlier :=
              stopped.2 earlier (List.prefix_append _ _) (by simp)
            simp only [Decided, Leads, opposite, not_or] at undecided
            cases w <;> simp at byHome byAway <;> omega
      · simp [tied] at byHome

/-! ## Scores -/

/-- The sets the loop of `_completed_prefix` passes are sets of games, one after another. -/
theorem exists_sets {required : Nat} {rest : List SetScore} :
    ∀ {before : List (List Game)} {clinched : Option PlayerSide}, ¬MatchOver required before →
      completedPrefixFrom required (setsWon .home before) (setsWon .away before) rest =
        some clinched →
      (∀ set ∈ rest, set.postInit = .ok ()) → (∀ set ∈ rest, ¬Overshoots set) →
      ∃ sets, Chained (SetFits required) before sets ∧ sets.map setScore = rest := by
  induction rest with
  | nil => exact fun _ _ _ _ => ⟨[], trivial, rfl⟩
  | cons set rest ih =>
      intro before clinched going passes built fits
      rw [completedPrefixFrom] at passes
      cases wins : completedSetWinner set with
      | none => simp [wins] at passes
      | some w =>
          obtain ⟨games, complete, score⟩ := exists_set (built set List.mem_cons_self) wins
            (fits set List.mem_cons_self)
          obtain ⟨side, byW, notOther, finished⟩ := complete.finished
          have same : side = w := by
            rw [← score, completedSetWinner_setScore finished] at wins
            simpa using wins
          subst same
          have home := setsWon_concat .home before games
          have away := setsWon_concat .away before games
          have onward : ¬MatchOver required (before ++ [games]) →
              completedPrefixFrom required (setsWon .home (before ++ [games]))
                (setsWon .away (before ++ [games])) rest = some clinched →
              ∃ sets, Chained (SetFits required) before sets ∧ sets.map setScore = set :: rest := by
            intro going' passes'
            obtain ⟨sets, chained, scores⟩ := ih going' passes'
              (fun later member => built later (List.mem_cons_of_mem _ member))
              (fun later member => fits later (List.mem_cons_of_mem _ member))
            exact ⟨games :: sets, ⟨⟨going, complete⟩, chained⟩, by simp [score, scores]⟩
          have last : rest = [] →
              ∃ sets, Chained (SetFits required) before sets ∧ sets.map setScore = set :: rest := by
            rintro rfl
            exact ⟨[games], ⟨⟨going, complete⟩, trivial⟩, by simp [score]⟩
          simp only [MatchOver, not_or] at going onward
          cases side <;> simp only [opposite] at notOther <;>
            simp only [byW, notOther, if_true, if_false, Nat.add_zero] at home away <;>
            simp only [wins] at passes <;> split_ifs at passes with clinch empty
          · exact last empty
          · exact onward (by omega) (by rwa [home, away])
          · exact last empty
          · exact onward (by omega) (by rwa [home, away])

/-- The fewest points a call stands for. -/
def pointsOf : ScoreValue → Nat
  | .love => 0
  | .fifteen => 1
  | .thirty => 2
  | .forty => 3
  | .advantage => 4

/-- Some points of a game call any score the constructor accepts. -/
theorem exists_called (home away : ScoreValue) (fits : home = .advantage → away = .forty)
    (fitsOther : away = .advantage → home = .forty) :
    ∃ points : Game, Running (Decided 4) points ∧
      call (points.count .home) (points.count .away) = home ∧
      call (points.count .away) (points.count .home) = away := by
  have calls : ¬(4 ≤ pointsOf home ∧ pointsOf away + 2 ≤ pointsOf home) ∧
      ¬(4 ≤ pointsOf away ∧ pointsOf home + 2 ≤ pointsOf away) ∧
      call (pointsOf home) (pointsOf away) = home ∧
      call (pointsOf away) (pointsOf home) = away := by
    cases home <;> cases away <;> simp at fits fitsOther <;> decide
  obtain ⟨noHome, noAway, byHome, byAway⟩ := calls
  obtain ⟨points, countHome, countAway, running⟩ :=
    exists_running 4 _ (pointsOf home) (pointsOf away) rfl noHome noAway
  rw [← countHome, ← countAway] at byHome byAway
  exact ⟨points, running, byHome, byAway⟩

theorem exists_server (server : PlayerSide) (number : Nat) :
    ∃ first, serverOfGame first number = server := by
  by_cases even : number % 2 = 0
  · exact ⟨server, if_pos even⟩
  · exact ⟨opposite server, (if_neg even).trans (opposite_opposite server)⟩

/-- A record that follows the rules is the record of its own points. -/
theorem MatchRecord.Follows.declares {required : Nat} {record : MatchRecord}
    (follows : record.Follows required) : record.Declares required record.played :=
  ⟨follows, [], by simp, by simp⟩

theorem matchOver_iff_winner {required : Nat} {sets : List (List Game)} :
    MatchOver required sets ↔ (matchWinner required sets).isSome = true := by
  unfold matchWinner MatchOver
  split_ifs with home away
  · simp [home]
  · simp [away]
  · simp [home, away]

/-- The kinds of snapshots the rules speak of. -/
def InPlay (v : Score) : Prop :=
  v.status = .live ∨ (v.status = .ended ∧ v.terminationKind = .natural)

section Exact

variable {format : MatchFormat} {v : Score}

theorem playable_reachable (playable : Playable format v) :
    reachable format v = true ∧ ∀ set ∈ v.completedSets, ¬Overshoots set := by
  obtain ⟨supported, first, winners, record, ⟨follows, -⟩, rfl⟩ := playable
  refine ⟨score_reachable supported follows, fun set member => ?_⟩
  obtain ⟨games, inside, rfl⟩ := List.mem_map.mp member
  exact (chained_complete follows.1 games inside).not_overshoots

theorem ended_playable (natural : v.status = .ended ∧ v.terminationKind = .natural)
    (legal : v.Legal format) (fits : ∀ set ∈ v.completedSets, ¬Overshoots set) :
    Playable format v := by
  have supported := reachable_supported legal.reached
  have reached := legal.reached
  rw [reachable, if_neg (not_not.mpr supported)] at reached
  simp only [natural.1, natural.2] at reached
  cases clinched : completedPrefix format v with
  | none => simp [clinched] at reached
  | some winner =>
      cases winner with
      | none => simp [clinched] at reached
      | some side =>
          simp only [clinched, decide_eq_true_eq] at reached
          have fresh : ¬MatchOver (setsRequired format) [] := by
            cases format <;> simp [MatchOver, setsWon, setsRequired]
          obtain ⟨sets, chained, scores⟩ := exists_sets fresh clinched legal.sets fits
          have wins : matchWinner (setsRequired format) sets = some side := by
            have counted := completedPrefixFrom_sets chained fresh
            rw [scores] at counted
            simpa using counted.symm.trans clinched
          have follows : MatchRecord.Follows (setsRequired format) ⟨sets, [], []⟩ :=
            ⟨chained, by rw [if_pos (matchOver_iff_winner.mpr (by simp [wins]))]; exact ⟨rfl, rfl⟩⟩
          refine ⟨supported, .home, _, _, follows.declares, ?_⟩
          obtain ⟨status, kind, _, _, _, _, _, _, _, _, _, _, _, _⟩ := v
          simp only at natural reached scores
          obtain ⟨rfl, rfl⟩ := natural
          obtain ⟨rfl, rfl, rfl, rfl, rfl, rfl, rfl, rfl, rfl, rfl, rfl⟩ := reached
          simp [MatchRecord.score, wins, scores, not_tied_nil, gamesWon, call]

theorem live_playable (live : v.status = .live) (legal : v.Legal format)
    (fits : ∀ set ∈ v.completedSets, ¬Overshoots set) : Playable format v := by
  obtain ⟨supported, kind, winner, retired, unfinished⟩ :=
    (reachable_running (.inl live)).mp legal.reached
  have fresh : ¬MatchOver (setsRequired format) [] := by
    cases format <;> simp [MatchOver, setsWon, setsRequired]
  obtain ⟨sets, chained, scores⟩ := exists_sets fresh unfinished.going legal.sets fits
  have wins : matchWinner (setsRequired format) sets = none := by
    have counted := completedPrefixFrom_sets chained fresh
    rw [scores] at counted
    simpa using counted.symm.trans unfinished.going
  have going : ¬MatchOver (setsRequired format) sets := by
    rw [matchOver_iff_winner, wins]
    simp
  have checked := legal.checked
  simp only [validateScore, bind_eq_ok, exists_unit, refuse_eq_ok] at checked
  obtain ⟨-, -, -, -, advantage, -, tiebreak⟩ := checked
  cases tied : v.inTiebreak with
  | true =>
      obtain ⟨six, sixAway, love, loveAway, unwon, first', known, server⟩ := unfinished.tiebreak tied
      obtain ⟨games, stands⟩ := exists_standing 12 6 6 rfl (by decide) (by decide) (by decide)
      have isTied : Tied games := ⟨stands.home, stands.away⟩
      simp only [tiebreakWon, decide_eq_false_iff_not, not_or] at unwon
      obtain ⟨points, byHome, byAway, running⟩ :=
        exists_running 7 _ v.tiebreakPointsHome v.tiebreakPointsAway rfl unwon.1 unwon.2
      obtain ⟨first, serves⟩ := exists_server first' (sets.flatten.length + games.length)
      have follows : MatchRecord.Follows (setsRequired format) ⟨sets, games, points⟩ := by
        refine ⟨chained, ?_⟩
        rw [if_neg going]
        exact ⟨stands.fits, stands.going, by rwa [target, if_pos isTied]⟩
      refine ⟨supported, first, _, _, follows.declares, ?_⟩
      have length := count_home_add_away points
      have serving : MatchRecord.gameServer ⟨sets, games, points⟩ first = first' := serves
      obtain ⟨status, kind, _, _, _, _, _, _, _, _, _, _, _, _⟩ := v
      simp only at *
      subst live kind winner retired tied six sixAway love loveAway known scores byHome byAway
      simp [MatchRecord.score, serving, wins, isTied, server, stands.home, stands.away, ← length,
        tiebreakServer_eq]
  | false =>
      obtain ⟨few, fewAway, both, unwon, someone⟩ := unfinished.games tied
      obtain ⟨server, known⟩ := Option.isSome_iff_exists.mp someone
      obtain ⟨games, stands⟩ := exists_standing _ v.gamesHome v.gamesAway rfl few fewAway unwon
      have untied : ¬Tied games := by
        rintro ⟨six, sixAway⟩
        exact both ⟨stands.home ▸ six, stands.away ▸ sixAway⟩
      obtain ⟨points, running, byHome, byAway⟩ :=
        exists_called v.pointsHome v.pointsAway
          (fun ahead => by by_contra other; exact advantage (.inl ⟨ahead, other⟩))
          (fun ahead => by by_contra other; exact advantage (.inr ⟨ahead, other⟩))
      obtain ⟨first, serves⟩ := exists_server server (sets.flatten.length + games.length)
      have follows : MatchRecord.Follows (setsRequired format) ⟨sets, games, points⟩ := by
        refine ⟨chained, ?_⟩
        rw [if_neg going]
        exact ⟨stands.fits, stands.going, by rwa [target, if_neg untied]⟩
      refine ⟨supported, first, _, _, follows.declares, ?_⟩
      simp only [tied, Bool.false_eq_true, if_false, refuse_eq_ok, not_or, not_not,
        Option.not_isSome_iff_eq_none] at tiebreak
      have serving : MatchRecord.gameServer ⟨sets, games, points⟩ first = server := serves
      obtain ⟨status, kind, _, _, _, _, _, _, _, _, _, _, _, _⟩ := v
      simp only at *
      obtain ⟨rfl, rfl, rfl⟩ := tiebreak
      subst live kind winner retired tied known scores byHome byAway
      simp [MatchRecord.score, serving, wins, untied, stands.home, stands.away]

/-- The scores of points are the ones admitted without a tiebreak gone too far. -/
theorem playable_iff (kind : InPlay v) (checked : validateScore v = .ok ())
    (sets : ∀ set ∈ v.completedSets, set.postInit = .ok ()) :
    Playable format v ↔ reachable format v = true ∧ ∀ set ∈ v.completedSets, ¬Overshoots set := by
  constructor
  · exact playable_reachable
  · rintro ⟨reached, fits⟩
    rcases kind with live | natural
    · exact live_playable live ⟨reached, checked, sets⟩ fits
    · exact ended_playable natural ⟨reached, checked, sets⟩ fits

end Exact

/-! ## Trimmed sets -/

theorem trimmedSet_fits (s : SetScore) : ¬Overshoots (trimmedSet s) := by
  obtain ⟨gamesHome, gamesAway, tiebreakHome, tiebreakAway⟩ := s
  cases tiebreakHome <;> cases tiebreakAway <;> simp only [trimmedSet]
  · simp [Overshoots]
  · simp [Overshoots]
  · simp [Overshoots]
  · split_ifs with home away
    · simp [Overshoots, home.1, home.2.1]
      omega
    · simp [Overshoots, away.1, away.2.1]
      omega
    · rintro ⟨_, _, byHome, byAway, more⟩
      simp only [Option.some.injEq] at byHome byAway
      subst byHome byAway
      rcases more with more | more
      · exact home more
      · exact away more

theorem completedSetWinner_trimmedSet (s : SetScore) :
    completedSetWinner (trimmedSet s) = completedSetWinner s := by
  obtain ⟨gamesHome, gamesAway, tiebreakHome, tiebreakAway⟩ := s
  cases tiebreakHome <;> cases tiebreakAway <;> simp only [trimmedSet]
  rename_i home away
  split_ifs with byHome byAway
  · obtain ⟨rfl, rfl, more⟩ := byHome
    have stopped : 7 ≤ max 7 (away + 2) ∧ away + 2 ≤ max 7 (away + 2) := by omega
    have wins : 7 ≤ home ∧ away + 2 ≤ home := by omega
    simp only [completedSetWinner]
    rw [if_pos ⟨trivial, trivial⟩, if_pos stopped, if_pos ⟨trivial, trivial⟩, if_pos wins]
  · obtain ⟨rfl, rfl, more⟩ := byAway
    have stopped : 7 ≤ max 7 (home + 2) ∧ home + 2 ≤ max 7 (home + 2) := by omega
    have wins : 7 ≤ away ∧ home + 2 ≤ away := by omega
    have other : ¬((6 : Nat) = 7 ∧ (7 : Nat) = 6) := by decide
    simp only [completedSetWinner]
    rw [if_neg other, if_pos ⟨trivial, trivial⟩, if_pos stopped, if_neg other,
      if_pos ⟨trivial, trivial⟩, if_pos wins]
  · rfl

theorem trimmedSet_built {s : SetScore} (built : s.postInit = .ok ()) :
    (trimmedSet s).postInit = .ok () := by
  obtain ⟨gamesHome, gamesAway, tiebreakHome, tiebreakAway⟩ := s
  cases tiebreakHome <;> cases tiebreakAway <;> simp only [trimmedSet] <;> try exact built
  split_ifs with home away
  · simp [SetScore.postInit] at built ⊢
    omega
  · simp [SetScore.postInit] at built ⊢
    omega
  · exact built

theorem completedPrefixFrom_trimmed {required : Nat} (sets : List SetScore) :
    ∀ home away, completedPrefixFrom required home away (sets.map trimmedSet) =
      completedPrefixFrom required home away sets := by
  induction sets with
  | nil => exact fun _ _ => rfl
  | cons set rest ih =>
      intro home away
      simp only [List.map_cons, completedPrefixFrom, completedSetWinner_trimmedSet, ih,
        List.map_eq_nil_iff]

/-- The machine does not see where a finished tiebreak should have ended. -/
theorem reachable_trimmed {format : MatchFormat} {v : Score} (kind : InPlay v) :
    reachable format (trimmed v) = reachable format v := by
  have sets : completedPrefix format (trimmed v) = completedPrefix format v :=
    completedPrefixFrom_trimmed v.completedSets 0 0
  unfold reachable
  rcases kind with live | ⟨ended, natural⟩
  · have live' : (trimmed v).status = .live := live
    simp only [live, live', incompleteScoreIsReachable, sets]
    rfl
  · have ended' : (trimmed v).status = .ended := ended
    have natural' : (trimmed v).terminationKind = .natural := natural
    simp only [ended, ended', natural, natural', sets]
    rfl

/-! ## Admission -/

theorem stateFromSnapshot_admits {e : ProviderSnapshot} (valid : e.Valid)
    (complete : e.snapshotComplete = true) :
    (∃ s, stateFromSnapshot e = .ok s) ↔ reachable e.matchFormat e.toScore = true := by
  constructor
  · rintro ⟨s, answer⟩
    simp only [stateFromSnapshot, bind_eq_ok, exists_unit, refuse_eq_ok, Prod.exists] at answer
    obtain ⟨_, _, -, -, legal, -⟩ := answer
    simp only [not_or, Bool.not_eq_false] at legal
    exact legal.2
  · exact stateFromSnapshot_total valid.constructed valid.sets complete

/-- The replacement is of the state's match, newer, and received late enough. -/
structure Eligible (s : TennisState) (e : ProviderSnapshot) : Prop where
  identity : e.toMatchIdentity = s.toMatchIdentity
  received : minimumReceipt s ≤ e.receivedMonotonicNs
  newer : s.correctionEpoch < e.correctionEpoch

theorem applyCorrection_admits {s : TennisState} {e : ProviderSnapshot} (state : s.Valid)
    (valid : e.Valid) (complete : e.snapshotComplete = true) (eligible : Eligible s e) :
    (∃ r, applyCorrection s e = .ok r ∧ r.disposition = .applied) ↔
      reachable e.matchFormat e.toScore = true := by
  constructor
  · rintro ⟨r, answer, applied⟩
    obtain ⟨-, bytes, digest, -, corrected⟩ := applyCorrection_corrected answer
    cases corrected with
    | unchanged d reason kept => rcases kept with ⟨rfl, -⟩ | ⟨rfl, -⟩ <;> simp at applied
    | installed reason unblocked constructed => simp at applied
    | replaced lineage identity received newer complete reached constructed => exact reached
  · intro reached
    obtain ⟨good, -⟩ := TennisState.valid_iff.mp state
    obtain ⟨bytes, digest, semantic⟩ :=
      ProviderSnapshot.semantic_total valid.constructed valid.sets
    have supported := reachable_supported reached
    have named : ¬e.matchFormat = .unsupported := by
      intro unsupported
      rw [unsupported] at supported
      exact absurd supported (by decide)
    have same := eligible.identity
    have received := eligible.received
    have newer := eligible.newer
    have constructed := stateFromSnapshotFields_constructed valid.constructed supported
      (eventSemantic_isSha256 semantic) (hexdigest_isSha256 (domain
        "inci-tennis-correction-lineage-v1" ++ fromHex s.correctionLineageSha256.toList ++ bytes))
    simp only [applyCorrection, state.reached, semantic, ok_bind]
    rw [if_neg (by simp [same]), if_neg (by simp [same]), if_neg (by simp [same]), if_neg named,
      if_neg (by simp [same]), if_neg (by omega), if_neg (by omega), if_neg (by omega),
      if_neg (by simp [complete, reached]), TennisState.construct_eq_ok.mpr ⟨constructed, rfl⟩,
      ok_bind]
    exact ⟨_, result_eq_ok.mpr ⟨eventSemantic_isSha256 semantic, rfl⟩, rfl⟩

/-- When the machine admits exactly the scores of points: no finished tiebreak of
the snapshot goes on past its end, or the score is not one of points even with
those tiebreaks stopped where they were won. -/
def AdmittedExactly (e : ProviderSnapshot) : Prop :=
  (∀ set ∈ e.completedSets, ¬Overshoots set) ∨ ¬Playable e.matchFormat (trimmed e.toScore)

theorem reachable_exact {e : ProviderSnapshot} (valid : e.Valid) (kind : InPlay e.toScore) :
    (reachable e.matchFormat e.toScore = true ↔ Playable e.matchFormat e.toScore) ↔
      AdmittedExactly e := by
  have accepted := valid.constructed
  simp only [ProviderSnapshot.postInit, bind_eq_ok, exists_unit] at accepted
  obtain ⟨-, -, -, checked, -⟩ := accepted
  have playable : Playable e.matchFormat e.toScore ↔ _ := playable_iff kind checked valid.sets
  have stopped : Playable e.matchFormat (trimmed e.toScore) ↔
      reachable e.matchFormat e.toScore = true := by
    rw [playable_iff (v := trimmed e.toScore) kind checked ?_, reachable_trimmed kind]
    · refine and_iff_left ?_
      intro set member
      obtain ⟨before, -, rfl⟩ := List.mem_map.mp member
      exact trimmedSet_fits before
    · intro set member
      obtain ⟨before, inside, rfl⟩ := List.mem_map.mp member
      exact trimmedSet_built (valid.sets before inside)
  rw [AdmittedExactly, stopped, playable]
  tauto

/-- On a complete live or naturally ended snapshot, `state_from_snapshot` and
`apply_correction` (of an eligible replacement) admit exactly the scores of
points if and only if `AdmittedExactly` holds of the snapshot. -/
theorem admission_exact_iff (e : ProviderSnapshot) (valid : e.Valid)
    (complete : e.snapshotComplete = true) (kind : InPlay e.toScore) :
    (((∃ s, stateFromSnapshot e = .ok s) ↔ Playable e.matchFormat e.toScore) ↔
      AdmittedExactly e) ∧
    ∀ s : TennisState, s.Valid → Eligible s e →
      (((∃ r, applyCorrection s e = .ok r ∧ r.disposition = .applied) ↔
        Playable e.matchFormat e.toScore) ↔ AdmittedExactly e) := by
  refine ⟨?_, fun s state eligible => ?_⟩
  · rw [stateFromSnapshot_admits valid complete]
    exact reachable_exact valid kind
  · rw [applyCorrection_admits state valid complete eligible]
    exact reachable_exact valid kind

/-! ## A tiebreak that went on -/

/-- The opening snapshot after a first set of seven games to six, ten points to
three in its tiebreak. -/
def longTiebreak : ProviderSnapshot :=
  { openingSnapshot with completedSets := [⟨7, 6, some 10, some 3⟩] }

theorem longTiebreak_valid : longTiebreak.Valid :=
  ⟨by decide, fun set member => by
    rw [List.mem_singleton.mp member]
    decide⟩

theorem longTiebreak_admitted_not_playable :
    (∃ s, stateFromSnapshot longTiebreak = .ok s) ∧
      ¬Playable longTiebreak.matchFormat longTiebreak.toScore := by
  refine ⟨stateFromSnapshot_total longTiebreak_valid.constructed longTiebreak_valid.sets rfl
    (by decide +kernel), fun playable => ?_⟩
  exact (playable_reachable playable).2 ⟨7, 6, some 10, some 3⟩ List.mem_cons_self
    ⟨10, 3, rfl, rfl, .inl ⟨rfl, rfl, by decide⟩⟩

theorem admission_exact_iff_longTiebreak :
    ((∃ s, stateFromSnapshot longTiebreak = .ok s) ↔
      Playable longTiebreak.matchFormat longTiebreak.toScore) ↔ AdmittedExactly longTiebreak :=
  (admission_exact_iff longTiebreak longTiebreak_valid rfl (.inl rfl)).1

end Inci.Tennis
