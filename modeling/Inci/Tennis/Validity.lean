/-
# Tennis.Validity -- every state the machine returns is valid

A state is valid when its constructor and `validate_tennis_state` accept it.  The
constructor looks at the numbers of a score, the validator at how a match could
have come to them; `Score.Legal` is what the two say of a score together.  The
point counter and the lifecycle changes keep it, and a valid state meets any
well-formed event without raising.
-/
import Inci.Tennis.Delivery

namespace Inci.Tennis

open Inci.Theory Inci.Expert

set_option autoImplicit false

/-! ## Legal scores -/

/-- A score the validator and the constructors accept. -/
structure Score.Legal (format : MatchFormat) (s : Score) : Prop where
  reached : reachable format s = true
  checked : validateScore s = .ok ()
  sets : ∀ set ∈ s.completedSets, set.postInit = .ok ()

/-- What is known of the games of a match that goes on, `active` when a side serves. -/
structure Unfinished (format : MatchFormat) (s : Score) (active : Bool) : Prop where
  going : completedPrefix format s = some none
  games : s.inTiebreak = false → s.gamesHome ≤ 6 ∧ s.gamesAway ≤ 6 ∧
    ¬(s.gamesHome = 6 ∧ s.gamesAway = 6) ∧ normalSetWon s.gamesHome s.gamesAway = false ∧
    s.serverForNextPoint.isSome = active
  tiebreak : s.inTiebreak = true → s.gamesHome = 6 ∧ s.gamesAway = 6 ∧ s.pointsHome = .love ∧
    s.pointsAway = .love ∧ tiebreakWon s.tiebreakPointsHome s.tiebreakPointsAway = false ∧
    ∃ first, s.tiebreakFirstServer = some first ∧ s.serverForNextPoint =
      if active then some (tiebreakServer first (s.tiebreakPointsHome + s.tiebreakPointsAway))
      else none

theorem incompleteScore_iff {format : MatchFormat} {s : Score} {active : Bool} :
    incompleteScoreIsReachable format s active = true ↔ Unfinished format s active := by
  by_cases going : completedPrefix format s = some none
  · rw [incompleteScoreIsReachable, if_neg (not_not.mpr going)]
    cases tied : s.inTiebreak with
    | true =>
        rw [if_pos rfl]
        cases first : s.tiebreakFirstServer with
        | none =>
            refine ⟨fun refused => absurd refused Bool.false_ne_true, fun unfinished => ?_⟩
            obtain ⟨-, -, -, -, -, _, known, -⟩ := unfinished.tiebreak tied
            simp [first] at known
        | some first' =>
            constructor
            · intro accepted
              simp only [Bool.if_false_left, Bool.and_eq_true, Bool.not_eq_true',
                decide_eq_false_iff_not, not_or, not_not, Bool.not_eq_true] at accepted
              obtain ⟨⟨home, away, love, loveAway, unwon⟩, server⟩ := accepted
              refine ⟨going, by simp [tied], fun _ => ⟨home, away, love, loveAway, unwon, first',
                first, ?_⟩⟩
              cases active <;> simpa using server
            · intro unfinished
              obtain ⟨home, away, love, loveAway, unwon, first'', known, server⟩ :=
                unfinished.tiebreak tied
              obtain rfl : first' = first'' := by simpa [first] using known
              cases active <;> simp [home, away, love, loveAway, unwon, server]
    | false =>
        rw [if_neg Bool.false_ne_true]
        constructor
        · intro accepted
          simp only [Bool.if_false_left, Bool.and_eq_true, Bool.not_eq_true',
            decide_eq_false_iff_not, not_or, not_lt, Bool.not_eq_true] at accepted
          obtain ⟨⟨home, away, both, unwon⟩, server⟩ := accepted
          refine ⟨going, fun _ => ⟨home, away, both, unwon, ?_⟩, by simp [tied]⟩
          cases active <;> simpa using server
        · intro unfinished
          obtain ⟨home, away, both, unwon, server⟩ := unfinished.games tied
          rw [if_neg (by simp only [unwon, Bool.false_eq_true, or_false]; omega)]
          cases active <;> simpa using server
  · rw [incompleteScoreIsReachable, if_pos going]
    exact ⟨fun refused => absurd refused Bool.false_ne_true,
      fun unfinished => absurd unfinished.going going⟩

theorem reachable_running {format : MatchFormat} {s : Score}
    (running : s.status = .live ∨ s.status = .suspended) :
    reachable format s = true ↔ format ∈ supportedFormats ∧ s.terminationKind = .none ∧
      s.winner = none ∧ s.retiredSide = none ∧ Unfinished format s true := by
  unfold reachable
  rw [← incompleteScore_iff]
  rcases running with status | status <;> rw [status] <;>
    by_cases supported : format ∈ supportedFormats <;> simp [supported, and_assoc]

theorem reachable_scheduled {format : MatchFormat} {s : Score} (status : s.status = .scheduled) :
    reachable format s = true ↔ format ∈ supportedFormats ∧ s.terminationKind = .none ∧
      s.winner = none ∧ s.retiredSide = none ∧ s.serverForNextPoint = none ∧
      scoreIsZero s = true := by
  unfold reachable
  rw [status]
  by_cases supported : format ∈ supportedFormats <;> simp [supported, and_assoc]

theorem unfinished_of_zero (format : MatchFormat) {s : Score} (zero : scoreIsZero s = true) :
    Unfinished format s s.serverForNextPoint.isSome := by
  simp only [scoreIsZero, decide_eq_true_eq] at zero
  obtain ⟨sets, home, away, -, -, untied, -⟩ := zero
  exact ⟨by simp [completedPrefix, sets, completedPrefixFrom],
    fun _ => by simp [home, away, normalSetWon], by simp [untied]⟩

/-- The games of a match stay as they are when it stops. -/
theorem Unfinished.close {format : MatchFormat} {s : Score} {active : Bool}
    (unfinished : Unfinished format s active) (status : MatchStatus)
    (terminationKind : TerminationKind) (winner retiredSide : Option PlayerSide) :
    Unfinished format { s with status, terminationKind, winner, retiredSide,
                               serverForNextPoint := none } false := by
  refine ⟨unfinished.going, fun untied => ?_, fun tied => ?_⟩
  · obtain ⟨home, away, both, unwon, -⟩ := unfinished.games untied
    exact ⟨home, away, both, unwon, rfl⟩
  · obtain ⟨home, away, love, loveAway, unwon, first, known, -⟩ := unfinished.tiebreak tied
    exact ⟨home, away, love, loveAway, unwon, first, known, rfl⟩

/-- What the validator says of the status covers what the constructor asks of it. -/
theorem validateStatus_of_reachable {format : MatchFormat} {s : Score}
    (legal : reachable format s = true) : validateStatus s = .ok () := by
  by_cases supported : format ∈ supportedFormats
  · rw [reachable, if_neg (not_not.mpr supported)] at legal
    unfold validateStatus
    cases status : s.status <;> simp only [status] at legal ⊢
    · simp at legal
      simp [legal]
    · simp at legal
      simp [legal]
    · simp at legal
      simp [legal]
    · cases kind : s.terminationKind <;> simp only [kind] at legal ⊢
      · exact absurd legal Bool.false_ne_true
      · cases set : completedPrefix format s with
        | none => simp [set] at legal
        | some clinched =>
            cases clinched <;> simp [set] at legal
            simp [legal]
      · simp only [Bool.and_eq_true] at legal
        obtain ⟨⟨⟨winner, retired⟩, -⟩, -⟩ := legal
        simp_all [Option.isSome_iff_ne_none]
      · simp only [Bool.and_eq_true, decide_eq_true_eq] at legal
        obtain ⟨⟨⟨winner, retired⟩, other⟩, -⟩ := legal
        simp_all [Option.isSome_iff_ne_none]
      · exact absurd legal Bool.false_ne_true
    · simp only [Bool.and_eq_true, decide_eq_true_eq, incompleteScore_iff] at legal
      obtain ⟨⟨kind, winner, retired⟩, unfinished⟩ := legal
      have server : s.serverForNextPoint = none := by
        cases tied : s.inTiebreak with
        | true =>
            obtain ⟨-, -, -, -, -, _, -, server⟩ := unfinished.tiebreak tied
            simpa using server
        | false =>
            obtain ⟨-, -, -, -, server⟩ := unfinished.games tied
            simpa using server
      simp [kind, winner, retired, server]
  · simp [reachable, supported] at legal

/-! ## One point -/

theorem completedSetWinner_games {set : SetScore} {side : PlayerSide}
    (wins : completedSetWinner set = some side) :
    (side = .home ∧ set.gamesAway < set.gamesHome) ∨
      (side = .away ∧ set.gamesHome < set.gamesAway) := by
  unfold completedSetWinner at wins
  split at wins
  · split_ifs at wins with home away
    · exact .inl ⟨by simpa using wins.symm, by omega⟩
    · exact .inr ⟨by simpa using wins.symm, by omega⟩
  · simp at wins
  · split_ifs at wins with home _ away _
    · exact .inl ⟨by simpa using wins.symm, by omega⟩
    · exact .inr ⟨by simpa using wins.symm, by omega⟩

/-- The sets won and the running count of `_completed_prefix` agree on who has
clinched the match after one more set. -/
theorem completedPrefixFrom_concat {required : Nat} {sets : List SetScore} {set : SetScore}
    {side : PlayerSide} (wins : completedSetWinner set = some side) :
    ∀ {home away : Nat}, home < required → away < required →
      completedPrefixFrom required home away sets = some none →
      completedPrefixFrom required home away (sets ++ [set]) =
        some (if home + (setWins (sets ++ [set])).1 = required then some .home
          else if away + (setWins (sets ++ [set])).2 = required then some .away else none) := by
  induction sets with
  | nil =>
      intro home away homeGoing awayGoing _
      rcases completedSetWinner_games wins with ⟨rfl, more⟩ | ⟨rfl, more⟩
      · have less : ¬set.gamesHome ≤ set.gamesAway := by omega
        simp [completedPrefixFrom, wins, setWins, more, less, awayGoing.ne]
        split_ifs <;> rfl
      · have less : ¬set.gamesAway < set.gamesHome := by omega
        simp [completedPrefixFrom, wins, setWins, more.le, less, homeGoing.ne]
        split_ifs <;> rfl
  | cons first rest ih =>
      intro home away homeGoing awayGoing going
      rw [completedPrefixFrom] at going
      cases won : completedSetWinner first with
      | none => simp [won] at going
      | some side' =>
          rcases completedSetWinner_games won with ⟨rfl, more⟩ | ⟨rfl, more⟩
          · have less : ¬first.gamesHome ≤ first.gamesAway := by omega
            simp only [won] at going
            have clinched : home + 1 ≠ required := by
              intro clinched
              simp [clinched] at going
            rw [if_neg clinched] at going
            have moved : ∀ n, home + 1 + n = home + (n + 1) := by omega
            have next := ih (by omega) awayGoing going
            simp only [List.cons_append, completedPrefixFrom, won, if_neg clinched, next,
              setWins, List.countP_cons, more, less, decide_true, decide_false, if_true,
              Bool.false_eq_true, if_false, moved, Nat.add_zero]
            rfl
          · have less : ¬first.gamesAway < first.gamesHome := by omega
            simp only [won] at going
            have clinched : away + 1 ≠ required := by
              intro clinched
              simp [clinched] at going
            rw [if_neg clinched] at going
            have moved : ∀ n, away + 1 + n = away + (n + 1) := by omega
            have next := ih homeGoing (by omega) going
            simp only [List.cons_append, completedPrefixFrom, won, if_neg clinched, next,
              setWins, List.countP_cons, more.le, less, decide_true, decide_false, if_true,
              Bool.false_eq_true, if_false, moved, Nat.add_zero]

theorem setsRequired_pos (format : MatchFormat) : 0 < setsRequired format := by
  cases format <;> decide

/-- The tiebreak points of a side. -/
def Score.tiebreakPoints (s : Score) : PlayerSide → Nat
  | .home => s.tiebreakPointsHome
  | .away => s.tiebreakPointsAway

section Point

variable {format : MatchFormat} {s : Score}

/-- A set that someone wins leads to the next set or to the end of the match. -/
theorem completedSetChanges_legal {set : SetScore} {side server : PlayerSide}
    (supported : format ∈ supportedFormats) (unfinished : completedPrefix format s = some none)
    (sets : ∀ set ∈ s.completedSets, set.postInit = .ok ())
    (wins : completedSetWinner set = some side) (built : set.postInit = .ok ()) :
    (completedSetChanges format s set server).Legal format := by
  have counted := completedPrefixFrom_concat wins (setsRequired_pos format)
    (setsRequired_pos format) unfinished
  simp only [Nat.zero_add] at counted
  refine ⟨?_, ?_, ?_⟩
  · by_cases home : (setWins (s.completedSets ++ [set])).1 = setsRequired format
    · simp [home] at counted
      simp [reachable, supported, completedSetChanges, home, completedPrefix, counted]
    by_cases away : (setWins (s.completedSets ++ [set])).2 = setsRequired format
    · simp [home, away] at counted
      simp [reachable, supported, completedSetChanges, home, away, completedPrefix, counted]
    · simp [home, away] at counted
      simp [reachable, supported, completedSetChanges, home, away, completedPrefix, counted,
        incompleteScoreIsReachable, normalSetWon]
  · simp [validateScore, completedSetChanges, integerBound_pos]
  · intro other member
    rcases List.mem_append.mp member with before | last
    · exact sets other before
    · rw [List.mem_singleton.mp last]
      exact built

/-- A tiebreak point moves the tiebreak on or ends the set. -/
theorem advanceTiebreak_legal {w : PlayerSide} (supported : format ∈ supportedFormats)
    (live : s.status = .live ∧ s.terminationKind = .none ∧ s.winner = none ∧ s.retiredSide = none)
    (unfinished : Unfinished format s true) (tied : s.inTiebreak = true)
    (checked : validateScore s = .ok ())
    (sets : ∀ set ∈ s.completedSets, set.postInit = .ok ())
    (small : s.tiebreakPoints w + 1 < integerBound) :
    ∃ next, advanceTiebreak format s w = .ok next ∧ next.Legal format := by
  obtain ⟨six, sixAway, love, loveAway, unwon, first, known, server⟩ := unfinished.tiebreak tied
  have seven : 7 < integerBound := by norm_num [integerBound]
  simp only [validateScore, bind_eq_ok, exists_unit, integer_eq_ok] at checked
  obtain ⟨-, -, home, away, -⟩ := checked
  simp only [advanceTiebreak, known]
  generalize counted : (if w = .home then s.tiebreakPointsHome + 1 else s.tiebreakPointsHome) = h
  generalize countedAway :
    (if w = .home then s.tiebreakPointsAway else s.tiebreakPointsAway + 1) = a
  have bounds : h < integerBound ∧ a < integerBound := by
    cases w <;> simp [Score.tiebreakPoints] at counted countedAway small <;> omega
  cases won : tiebreakWon h a with
  | true =>
      have wins : completedSetWinner ⟨if w = .home then 7 else 6, if w = .home then 6 else 7,
          some h, some a⟩ = some w := by
        simp only [tiebreakWon, decide_eq_true_eq, decide_eq_false_iff_not] at won unwon
        cases w <;> simp [completedSetWinner] at counted countedAway ⊢ <;> omega
      have built : SetScore.postInit ⟨if w = .home then 7 else 6, if w = .home then 6 else 7,
          some h, some a⟩ = .ok () := by
        cases w <;> simp [SetScore.postInit, bounds] <;> omega
      refine ⟨_, by simp [SetScore.construct, built, pure, Except.pure]; rfl, ?_⟩
      exact completedSetChanges_legal supported unfinished.going sets wins built
  | false =>
      rw [if_neg Bool.false_ne_true]
      refine ⟨_, rfl, ?_, ?_, fun set member => sets set member⟩
      · refine Iff.mpr (reachable_running (.inl live.1)) ⟨supported, live.2.1, live.2.2.1, live.2.2.2, unfinished.going, by simp [tied], ?_⟩
        exact fun _ => ⟨six, sixAway, love, loveAway, won, first, rfl, rfl⟩
      · simp [validateScore, tied, six, sixAway, love, loveAway, bounds]
        omega

/-- A game that is won moves to the next game, the tiebreak or the next set. -/
theorem advanceGame_legal {w : PlayerSide} (supported : format ∈ supportedFormats)
    (live : s.status = .live ∧ s.terminationKind = .none ∧ s.winner = none ∧ s.retiredSide = none)
    (unfinished : Unfinished format s true) (untied : s.inTiebreak = false)
    (checked : validateScore s = .ok ())
    (sets : ∀ set ∈ s.completedSets, set.postInit = .ok ()) :
    ∃ next, advanceGame format s w = .ok next ∧ next.Legal format := by
  obtain ⟨few, fewAway, both, unwon, serves⟩ := unfinished.games untied
  obtain ⟨server, known⟩ := Option.isSome_iff_exists.mp serves
  have small : 7 < integerBound := by norm_num [integerBound]
  simp only [validateScore, untied, bind_eq_ok, exists_unit, refuse_eq_ok, Bool.false_eq_true,
    if_false] at checked
  obtain ⟨-, -, -, -, -, -, zero⟩ := checked
  simp only [not_or, not_not, Bool.not_eq_true, Option.isSome_eq_false_iff,
    Option.isNone_iff_eq_none] at zero
  simp only [advanceGame, known]
  generalize counted : (if w = .home then s.gamesHome + 1 else s.gamesHome) = h
  generalize countedAway : (if w = .home then s.gamesAway else s.gamesAway + 1) = a
  simp only [normalSetWon, decide_eq_false_iff_not] at unwon
  cases won : normalSetWon h a with
  | true =>
      simp only [normalSetWon, decide_eq_true_eq] at won
      have wins : completedSetWinner ⟨h, a, none, none⟩ = some w := by
        cases w <;> simp only [reduceCtorEq, if_true, if_false] at counted countedAway <;>
          simp only [completedSetWinner]
        · exact if_pos (by omega)
        · exact (if_neg (by omega)).trans (if_pos (by omega))
      have bounds : h ≤ 7 ∧ a ≤ 7 := by
        cases w <;> simp at counted countedAway <;> omega
      have built : SetScore.postInit ⟨h, a, none, none⟩ = .ok () := by
        simp [SetScore.postInit]
        omega
      refine ⟨_, by simp [SetScore.construct, built, pure, Except.pure]; rfl, ?_⟩
      exact completedSetChanges_legal supported unfinished.going sets wins built
  | false =>
      have bounds : h ≤ 6 ∧ a ≤ 6 := by
        simp only [normalSetWon, decide_eq_false_iff_not] at won
        cases w <;> simp at counted countedAway <;> omega
      by_cases tied : h = 6 ∧ a = 6
      · rw [if_neg Bool.false_ne_true, if_pos tied]
        refine ⟨_, rfl, ?_, ?_, fun set member => sets set member⟩
        · refine Iff.mpr (reachable_running (.inl live.1)) ⟨supported, live.2.1, live.2.2.1, live.2.2.2, unfinished.going, by simp, fun _ => ?_⟩
          exact ⟨tied.1, tied.2, rfl, rfl, rfl, _, rfl, rfl⟩
        · simp [validateScore, tied]
          omega
      · rw [if_neg Bool.false_ne_true, if_neg tied]
        refine ⟨_, rfl, ?_, ?_, fun set member => sets set member⟩
        · refine Iff.mpr (reachable_running (.inl live.1)) ⟨supported, live.2.1, live.2.2.1, live.2.2.2, unfinished.going, fun _ => ?_,
            by simp [untied]⟩
          exact ⟨bounds.1, bounds.2, tied, won, rfl⟩
        · simp [validateScore, untied, zero]
          omega

theorem gamePoint_fits {own opponent : ScoreValue} {next : ScoreValue × ScoreValue}
    (fits : own = .advantage → opponent = .forty) (fitsOther : opponent = .advantage → own = .forty)
    (counts : gamePoint own opponent = some next) :
    (next.1 = .advantage → next.2 = .forty) ∧ (next.2 = .advantage → next.1 = .forty) := by
  cases own <;> cases opponent <;> simp_all [gamePoint] <;> subst counts <;> simp

/-- `_advance_score` accepts a point of any legal live score and leads to a legal one. -/
theorem advanceScore_legal (w : PlayerSide) (good : s.Legal format) (live : s.status = .live)
    (small : s.tiebreakPoints w + 1 < integerBound) :
    ∃ next, advanceScore format s w = .ok next ∧ next.Legal format := by
  obtain ⟨supported, kind, winner, retired, unfinished⟩ := (reachable_running (.inl live)).mp good.reached
  have status := And.intro live (And.intro kind (And.intro winner retired))
  unfold advanceScore
  by_cases playing : s.inTiebreak = true
  · rw [if_pos playing]
    exact advanceTiebreak_legal supported status unfinished playing good.checked good.sets small
  · rw [if_neg playing]
    have tied : s.inTiebreak = false := by simpa using playing
    have checked := good.checked
    simp only [validateScore, tied, bind_eq_ok, exists_unit, refuse_eq_ok, integer_eq_ok,
      Bool.false_eq_true, if_false] at checked
    obtain ⟨gamesHome, gamesAway, home, away, advantage, both, zero⟩ := checked
    have fits : s.pointsHome = .advantage → s.pointsAway = .forty := by
      intro ahead
      by_contra other
      exact advantage (.inl ⟨ahead, other⟩)
    have fitsOther : s.pointsAway = .advantage → s.pointsHome = .forty := by
      intro ahead
      by_contra other
      exact advantage (.inr ⟨ahead, other⟩)
    -- The score with other points in the game being played.
    have counted : ∀ pointsHome pointsAway : ScoreValue,
        (pointsHome = .advantage → pointsAway = .forty) →
        (pointsAway = .advantage → pointsHome = .forty) →
        Score.Legal format { s with pointsHome, pointsAway } := by
      intro pointsHome pointsAway one other
      refine ⟨?_, ?_, good.sets⟩
      · refine Iff.mpr (reachable_running (.inl live)) ⟨supported, kind, winner, retired,
          unfinished.going, unfinished.games, by simp [tied]⟩
      · simp only [validateScore, tied, bind_eq_ok, exists_unit, refuse_eq_ok, integer_eq_ok,
          Bool.false_eq_true, if_false]
        refine ⟨gamesHome, gamesAway, home, away, ?_, ?_, zero⟩
        · rintro (⟨ahead, no⟩ | ⟨ahead, no⟩)
          · exact no (one ahead)
          · exact no (other ahead)
        · rintro ⟨ahead, same⟩
          rw [one ahead] at same
          simp at same
    cases w with
    | home =>
        cases point : gamePoint s.pointsHome s.pointsAway with
        | none => exact advanceGame_legal supported status unfinished tied good.checked good.sets
        | some next =>
            obtain ⟨one, other⟩ := gamePoint_fits fits fitsOther point
            exact ⟨_, rfl, counted next.1 next.2 one other⟩
    | away =>
        cases point : gamePoint s.pointsAway s.pointsHome with
        | none => exact advanceGame_legal supported status unfinished tied good.checked good.sets
        | some next =>
            obtain ⟨one, other⟩ := gamePoint_fits fitsOther fits point
            exact ⟨_, rfl, counted next.2 next.1 other one⟩

/-- A point whose score the constructors accept stays below their bound. -/
theorem advanceScore_bounded {w : PlayerSide} {next : Score} (checked : validateScore s = .ok ())
    (advanced : advanceScore format s w = .ok next) (accepted : validateScore next = .ok ()) :
    s.tiebreakPoints w + 1 < integerBound := by
  simp only [validateScore, bind_eq_ok, exists_unit, integer_eq_ok] at checked accepted
  unfold advanceScore at advanced
  by_cases playing : s.inTiebreak = true
  · rw [if_pos playing] at advanced
    simp only [advanceTiebreak] at advanced
    cases known : s.tiebreakFirstServer with
    | none => simp [known] at advanced
    | some first =>
        cases w <;> simp only [known, reduceCtorEq, if_true, if_false] at advanced <;>
          split at advanced <;>
          simp only [SetScore.construct, SetScore.postInit, bind_eq_ok, exists_unit, integer_eq_ok,
            checkSome_eq_ok, Option.some.injEq, forall_eq', pure_eq_ok] at advanced
        · obtain ⟨_, ⟨⟨-, -, home, -⟩, -⟩, -⟩ := advanced
          exact home
        · subst advanced
          exact accepted.2.2.1
        · obtain ⟨_, ⟨⟨-, -, -, away, -⟩, -⟩, -⟩ := advanced
          exact away
        · subst advanced
          exact accepted.2.2.2.1
  · have one : 1 < integerBound := by norm_num [integerBound]
    simp only [playing, Bool.false_eq_true, if_false, refuse_eq_ok, not_or, not_not] at checked
    obtain ⟨-, -, -, -, -, -, home, away, -⟩ := checked
    cases w <;> simp [Score.tiebreakPoints, home, away, one]

end Point

/-! ## Lifecycle events -/

theorem lifecyclePayloadValid_iff {e : ProviderLifecycle} {winner retired server : Bool} :
    lifecyclePayloadValid e winner retired server = true ↔ winner = e.winner.isSome ∧
      retired = e.retiredSide.isSome ∧ server = e.serverForNextPoint.isSome ∧
      ¬(winner ∧ retired ∧ e.winner = e.retiredSide) := by
  simp only [lifecyclePayloadValid, decide_eq_true_eq]

section Changes

variable {format : MatchFormat} {s : Score}

theorem cancelled_reachable {active : Bool} (supported : format ∈ supportedFormats)
    (unfinished : Unfinished format s active) :
    reachable format { s with
      status := .cancelled
      terminationKind := .cancellation
      winner := none
      retiredSide := none
      serverForNextPoint := none } = true := by
  have closed := incompleteScore_iff.mpr (unfinished.close .cancelled .cancellation none none)
  rw [reachable, if_neg (not_not.mpr supported)]
  simp [closed]

theorem retired_reachable {e : ProviderLifecycle} (supported : format ∈ supportedFormats)
    (unfinished : Unfinished format s true)
    (payload : true = e.winner.isSome ∧ true = e.retiredSide.isSome ∧
      false = e.serverForNextPoint.isSome ∧ ¬(true ∧ true ∧ e.winner = e.retiredSide)) :
    reachable format { s with
      status := .ended
      terminationKind := .retirement
      winner := e.winner
      retiredSide := e.retiredSide
      serverForNextPoint := none } = true := by
  obtain ⟨winner, retired, -, other⟩ := payload
  have closed := incompleteScore_iff.mpr
    (unfinished.close .ended .retirement e.winner e.retiredSide)
  rw [reachable, if_neg (not_not.mpr supported)]
  simp only [closed, ← winner, ← retired, Bool.and_true]
  simpa using other

/-- Each change of status keeps the score legal. -/
theorem lifecycleChanges_legal {score : Score} {e : ProviderLifecycle}
    {compareServer : Bool} (good : s.Legal format)
    (changes : lifecycleChanges s e = some (score, compareServer)) : score.Legal format := by
  unfold lifecycleChanges at changes
  split at changes <;> (try split_ifs at changes with payload) <;>
    simp only [Option.some.injEq, Prod.mk.injEq, reduceCtorEq] at changes <;>
    (obtain ⟨rfl, rfl⟩ := changes; rename_i status kind; refine ⟨?_, good.checked, good.sets⟩) <;>
    rw [lifecyclePayloadValid_iff] at payload
  -- Start.
  · obtain ⟨supported, none, winner, retired, -, zero⟩ := (reachable_scheduled status).mp good.reached
    have started := unfinished_of_zero format
      (s := { s with status := .live, serverForNextPoint := e.serverForNextPoint }) zero
    rw [← payload.2.2.1] at started
    exact Iff.mpr (reachable_running (.inl rfl)) ⟨supported, none, winner, retired, started⟩
  -- Suspension and resumption.
  · obtain ⟨supported, none, winner, retired, unfinished⟩ :=
      (reachable_running (.inl status)).mp good.reached
    exact Iff.mpr (reachable_running (.inr rfl)) ⟨supported, none, winner, retired,
      unfinished.going, unfinished.games, unfinished.tiebreak⟩
  · obtain ⟨supported, none, winner, retired, unfinished⟩ :=
      (reachable_running (.inr status)).mp good.reached
    exact Iff.mpr (reachable_running (.inl rfl)) ⟨supported, none, winner, retired,
      unfinished.going, unfinished.games, unfinished.tiebreak⟩
  · obtain ⟨supported, -, -, -, -, zero⟩ := (reachable_scheduled status).mp good.reached
    rw [reachable, if_neg (not_not.mpr supported)]
    simp only [← payload.1, Option.isNone_none, Bool.true_and]
    exact zero
  · obtain ⟨supported, -, -, -, unfinished⟩ := (reachable_running (.inl status)).mp good.reached
    exact retired_reachable supported unfinished payload
  · obtain ⟨supported, -, -, -, unfinished⟩ := (reachable_running (.inr status)).mp good.reached
    exact retired_reachable supported unfinished payload
  · obtain ⟨supported, -, -, -, -, zero⟩ := (reachable_scheduled status).mp good.reached
    exact cancelled_reachable supported (unfinished_of_zero format zero)
  · obtain ⟨supported, -, -, -, unfinished⟩ := (reachable_running (.inl status)).mp good.reached
    exact cancelled_reachable supported unfinished
  · obtain ⟨supported, -, -, -, unfinished⟩ := (reachable_running (.inr status)).mp good.reached
    exact cancelled_reachable supported unfinished

end Changes

theorem lifecycleScore_legal {format : MatchFormat} {s score : Score} {e : ProviderLifecycle}
    {reason : TennisTransitionReason} (good : s.Legal format)
    (applies : lifecycleScore s e = some (score, reason)) : score.Legal format := by
  unfold lifecycleScore at applies
  split_ifs at applies
  · obtain ⟨rfl, -⟩ : s = score ∧ _ = reason := by simpa using applies
    exact good
  · cases changes : lifecycleChanges s e with
    | none => simp [changes] at applies
    | some change =>
        simp only [changes] at applies
        split_ifs at applies
        obtain ⟨rfl, -⟩ : change.1 = score ∧ _ = reason := by simpa using applies
        exact lifecycleChanges_legal good changes

/-! ## Valid states -/

/-- A state that its constructor and `validate_tennis_state` accept. -/
structure TennisState.Valid (s : TennisState) : Prop where
  constructed : s.postInit = .ok ()
  sets : ∀ set ∈ s.completedSets, set.postInit = .ok ()
  reached : validateTennisState s = .ok ()

theorem TennisState.valid_iff {s : TennisState} :
    s.Valid ↔ s.Constructed ∧ s.toScore.Legal s.matchFormat := by
  constructor
  · rintro ⟨constructed, sets, reached⟩
    have good := TennisState.postInit_eq_ok.mp constructed
    simp only [validateTennisState, refuse_eq_ok, Bool.not_eq_false] at reached
    exact ⟨good, reached, good.score, sets⟩
  · rintro ⟨good, reached, -, sets⟩
    refine ⟨TennisState.postInit_eq_ok.mpr good, sets, ?_⟩
    simpa only [validateTennisState, refuse_eq_ok, Bool.not_eq_false] using reached

/-- A well-formed snapshot, its sets included. -/
structure ProviderSnapshot.Valid (e : ProviderSnapshot) : Prop where
  constructed : e.postInit = .ok ()
  sets : ∀ set ∈ e.completedSets, set.postInit = .ok ()

/-- The three operations on a state of the match. -/
inductive TennisOperation where
  | event (event : ProviderEvent)
  | correction (replacement : ProviderSnapshot)

namespace TennisOperation

/-- The argument of an operation passes its constructor. -/
def Valid : TennisOperation → Prop
  | event e => e.header.postInit = .ok ()
  | correction replacement => replacement.Valid

def apply (s : TennisState) : TennisOperation → Except ExpertError TennisTransitionResult
  | event e => e.apply s
  | correction replacement => applyCorrection s replacement

end TennisOperation

theorem stateFromSnapshotFields_valid {e : ProviderSnapshot} {digest lineage : String}
    (valid : e.Valid) (legal : reachable e.matchFormat e.toScore = true)
    (constructed : (stateFromSnapshotFields e digest lineage).Constructed) :
    (stateFromSnapshotFields e digest lineage).Valid :=
  TennisState.valid_iff.mpr ⟨constructed, legal, constructed.score, valid.sets⟩

theorem stateFromSnapshot_valid {e : ProviderSnapshot} {s : TennisState} (valid : e.Valid)
    (answer : stateFromSnapshot e = .ok s) : s.Valid := by
  simp only [stateFromSnapshot, bind_eq_ok, exists_unit, refuse_eq_ok, Prod.exists,
    TennisState.construct_eq_ok] at answer
  obtain ⟨_, digest, -, -, legal, constructed, rfl⟩ := answer
  simp only [not_or, Bool.not_eq_false] at legal
  exact stateFromSnapshotFields_valid valid legal.2 constructed

theorem blockState_valid {s : TennisState} {reason : TennisTransitionReason} {digest : String}
    {received : Nat} {expected observed : Option Nat} (valid : s.Valid)
    (constructed : (blockState s reason digest received expected observed).Constructed) :
    (blockState s reason digest received expected observed).Valid := by
  obtain ⟨-, legal⟩ := TennisState.valid_iff.mp valid
  exact TennisState.valid_iff.mpr ⟨constructed, legal⟩

theorem ProviderEvent.scoreAfter_legal {format : MatchFormat} {s score : Score}
    {e : ProviderEvent} {reason : TennisTransitionReason} (good : s.Legal format)
    (checked : validateScore score = .ok ())
    (applies : e.scoreAfter format s = some (score, reason)) : score.Legal format := by
  cases e with
  | lifecycle l => exact lifecycleScore_legal good applies
  | point p =>
      simp only [scoreAfter, Option.ite_none_right_eq_some, Option.map_eq_some_iff,
        Prod.mk.injEq] at applies
      obtain ⟨⟨live, -⟩, _, advanced, rfl, -⟩ := applies
      rename_i next
      have answer : advanceScore format s p.pointWinner = .ok next := by
        cases h : advanceScore format s p.pointWinner with
        | error _ => simp [h, Except.toOption] at advanced
        | ok other => simpa [h, Except.toOption] using advanced
      obtain ⟨other, same, legal⟩ := advanceScore_legal p.pointWinner good live
        (advanceScore_bounded good.checked answer checked)
      obtain rfl : next = other := Except.ok.inj (answer.symm.trans same)
      exact legal

theorem TennisOperation.apply_valid {s : TennisState} {op : TennisOperation}
    {r : TennisTransitionResult} (valid : s.Valid) (argument : op.Valid)
    (answer : op.apply s = .ok r) : r.state.Valid := by
  obtain ⟨good, legal⟩ := TennisState.valid_iff.mp valid
  cases op with
  | event e =>
      obtain ⟨bytes, digest, -, -, ⟨notApplied, advance⟩ | ⟨-, score, reason, applies, constructed,
        rfl⟩⟩ := ProviderEvent.apply_cases answer
      · cases advance with
        | unchanged d reason kept => exact valid
        | installed reason expected observed unblocked constructed =>
            exact blockState_valid valid constructed
        | applied score reason admitted constructed => exact absurd rfl notApplied
      · exact TennisState.valid_iff.mpr
          ⟨constructed, ProviderEvent.scoreAfter_legal legal constructed.score applies⟩
  | correction e =>
      obtain ⟨-, bytes, digest, -, corrected⟩ := applyCorrection_corrected answer
      cases corrected with
      | unchanged d reason kept => exact valid
      | installed reason unblocked constructed => exact blockState_valid valid constructed
      | replaced lineage identity received newer complete reached constructed =>
          exact stateFromSnapshotFields_valid argument reached constructed

/-! ## Nothing is raised -/

theorem ProviderLifecycle.semantic_total {e : ProviderLifecycle} (accepted : e.postInit = .ok ()) :
    ∃ bytes digest, e.semantic = .ok (bytes, digest) := by
  have good := IncrementalEvent.postInit_eq_ok.mp accepted
  refine eventSemantic_total _ ?_
  have identity := identity_encodable [("provider_event_id", .text e.providerEventId)]
    good.identity (by simp [EncodesFields])
  simp [ProviderLifecycle.fields, encodesFields_append, identity,
    IncrementalEvent.times_encodable good, EncodesFields, good.correctionEpoch, good.revision,
    PlayerSide.py, ProviderLifecycleKind.py]

/-- A gap names the revision it expected, which is below the one that came. -/
theorem blockedGap_total {s : TennisState} {e : IncrementalEvent} {digest : String}
    (good : s.Constructed) (event : e.Constructed) (digests : IsSha256 digest)
    (gap : s.revision + 1 < e.revision) :
    ∃ r, blocked s e digest .providerEventGap (some (s.revision + 1)) (some e.revision) = .ok r := by
  have bound := event.revision
  have constructed : (blockState s .providerEventGap digest e.receivedMonotonicNs
      (some (s.revision + 1)) (some e.revision)).Constructed := by
    refine ⟨good.identity, good.supported, good.status, good.score, good.correctionEpoch,
      good.revision, good.complete, good.eventId, good.eventDigest, good.lineage, good.sourceWall,
      good.generatedWall, good.received, good.uncertainty, ?_⟩
    simp [BlockMetadata.postInit, blockState, digests, event.received, bound,
      installedBlockReasons]
    omega
  simp only [blocked, TennisState.construct_eq_ok.mpr ⟨constructed, rfl⟩, ok_bind]
  exact ⟨_, result_eq_ok.mpr ⟨digests, rfl⟩⟩

theorem incrementalPrecheck_total {s : TennisState} {e : IncrementalEvent} {digest : String}
    (good : s.Constructed) (event : e.Constructed) (digests : IsSha256 digest) :
    ∃ o, incrementalPrecheck s e digest = .ok o := by
  have install : ∀ reason ∈ installedBlockReasons, reason ≠ .providerEventGap →
      ∃ o, some <$> blocked s e digest reason = .ok o := by
    intro reason installable noGap
    exact ⟨_, map_eq_ok.mpr ⟨_, blocked_total reason good event digests installable noGap, rfl⟩⟩
  have kept : ∀ d reason, ∃ o, some <$> result s d reason digest = .ok o :=
    fun d reason => ⟨_, map_eq_ok.mpr ⟨_, result_eq_ok.mpr ⟨digests, rfl⟩, rfl⟩⟩
  unfold incrementalPrecheck
  refine answers_ite (fun _ => kept _ _) fun _ => ?_
  iterate 7
    refine answers_ite (fun _ => install _ (by decide) (by decide)) fun _ => ?_
  refine answers_ite (fun _ => ?_) fun _ => ?_
  · exact answers_ite (fun _ => kept _ _) fun _ => install _ (by decide) (by decide)
  refine answers_ite (fun _ => install _ (by decide) (by decide)) fun _ => ?_
  refine answers_ite (fun gap => ?_) fun _ => ⟨none, rfl⟩
  obtain ⟨r, answer⟩ := blockedGap_total good event digests gap
  exact ⟨_, map_eq_ok.mpr ⟨r, answer, rfl⟩⟩

theorem appliedFields_constructed {s : TennisState} {e : IncrementalEvent} {digest : String}
    {score : Score} (good : s.Constructed) (event : e.Constructed) (digests : IsSha256 digest)
    (legal : score.Legal s.matchFormat) : (appliedFields s e digest score).Constructed :=
  ⟨good.identity, good.supported, validateStatus_of_reachable legal.reached, legal.checked,
    good.correctionEpoch, event.revision, good.complete, event.eventId, digests, good.lineage,
    event.sourceWall, event.generatedWall, event.received, event.uncertainty,
    by simp [BlockMetadata.postInit, appliedFields, BlockMetadata.clear]⟩

/-- An event that is admitted with a legal score is answered. -/
theorem applied_total {s : TennisState} {e : IncrementalEvent} {digest : String} {score : Score}
    (reason : TennisTransitionReason) (good : s.Constructed) (event : e.Constructed)
    (digests : IsSha256 digest) (legal : score.Legal s.matchFormat) :
    ∃ r, (appliedState s e digest score >>= fun applied => result applied .applied reason digest) =
      .ok r := by
  have constructed := appliedFields_constructed good event digests legal
  rw [appliedState_eq, TennisState.construct_eq_ok.mpr ⟨constructed, rfl⟩, ok_bind]
  exact ⟨_, result_eq_ok.mpr ⟨digests, rfl⟩⟩

/-- A point raises nothing on a valid state, its winner's tiebreak points short of the bound. -/
theorem applyPoint_total {s : TennisState} {p : ProviderPoint} (valid : s.Valid)
    (argument : p.postInit = .ok ())
    (small : s.tiebreakPoints p.pointWinner + 1 < integerBound) : ∃ r, applyPoint s p = .ok r := by
  obtain ⟨good, legal⟩ := TennisState.valid_iff.mp valid
  have event := IncrementalEvent.postInit_eq_ok.mp argument
  obtain ⟨bytes, digest, semantic⟩ := ProviderPoint.semantic_total argument
  have digests := eventSemantic_isSha256 semantic
  obtain ⟨o, prechecked⟩ := incrementalPrecheck_total good event digests
  simp only [applyPoint, valid.reached, semantic, prechecked, ok_bind]
  cases o with
  | some r => exact ⟨r, rfl⟩
  | none =>
      have install : ∀ reason ∈ installedBlockReasons, reason ≠ .providerEventGap →
          ∃ r, blocked s p.toIncrementalEvent digest reason = .ok r :=
        fun reason installable noGap =>
          ⟨_, blocked_total reason good event digests installable noGap⟩
      refine answers_ite (fun _ => install _ (by decide) (by decide)) fun _ => ?_
      refine answers_ite (fun _ => install _ (by decide) (by decide)) fun live => ?_
      refine answers_ite (fun _ => install _ (by decide) (by decide)) fun _ => ?_
      obtain ⟨score, advanced, next⟩ :=
        advanceScore_legal p.pointWinner legal (not_not.mp live) small
      rw [advanced, ok_bind]
      exact applied_total .pointApplied good event digests next

theorem applyLifecycle_total {s : TennisState} {e : ProviderLifecycle} (valid : s.Valid)
    (argument : e.postInit = .ok ()) : ∃ r, applyLifecycle s e = .ok r := by
  obtain ⟨good, legal⟩ := TennisState.valid_iff.mp valid
  have event := IncrementalEvent.postInit_eq_ok.mp argument
  obtain ⟨bytes, digest, semantic⟩ := ProviderLifecycle.semantic_total argument
  have digests := eventSemantic_isSha256 semantic
  obtain ⟨o, prechecked⟩ := incrementalPrecheck_total good event digests
  simp only [applyLifecycle, valid.reached, semantic, prechecked, ok_bind]
  cases o with
  | some r => exact ⟨r, rfl⟩
  | none =>
      have install : ∀ reason ∈ installedBlockReasons, reason ≠ .providerEventGap →
          ∃ r, blocked s e.toIncrementalEvent digest reason = .ok r :=
        fun reason installable noGap =>
          ⟨_, blocked_total reason good event digests installable noGap⟩
      refine answers_ite (fun _ => ?_) fun _ => ?_
      · exact answers_ite (fun _ => applied_total _ good event digests legal)
          fun _ => install _ (by decide) (by decide)
      refine answers_ite (fun _ => install _ (by decide) (by decide)) fun _ => ?_
      cases changes : lifecycleChanges s.toScore e with
      | none => exact install _ (by decide) (by decide)
      | some change =>
          exact answers_ite (fun _ => install _ (by decide) (by decide))
            fun _ => applied_total _ good event digests (lifecycleChanges_legal legal changes)

theorem correctionRejected_total {s : TennisState} {e : ProviderSnapshot} {digest : String}
    {reason : TennisTransitionReason} (good : s.Constructed) (digests : IsSha256 digest)
    (received : e.receivedMonotonicNs < integerBound) (installable : reason ∈ installedBlockReasons)
    (noGap : reason ≠ .providerEventGap) : ∃ r, correctionRejected s e digest reason = .ok r := by
  have constructed : (blockState s reason digest e.receivedMonotonicNs none none).Constructed := by
    refine ⟨good.identity, good.supported, good.status, good.score, good.correctionEpoch,
      good.revision, good.complete, good.eventId, good.eventDigest, good.lineage, good.sourceWall,
      good.generatedWall, good.received, good.uncertainty, ?_⟩
    simp [BlockMetadata.postInit, blockState, digests, received, installable, noGap]
  unfold correctionRejected
  rw [TennisState.construct_eq_ok.mpr ⟨constructed, rfl⟩]
  split_ifs
  · exact ⟨_, result_eq_ok.mpr ⟨digests, rfl⟩⟩
  · exact ⟨_, result_eq_ok.mpr ⟨digests, rfl⟩⟩

theorem applyCorrection_total {s : TennisState} {e : ProviderSnapshot} (valid : s.Valid)
    (argument : e.Valid) : ∃ r, applyCorrection s e = .ok r := by
  obtain ⟨good, -⟩ := TennisState.valid_iff.mp valid
  obtain ⟨bytes, digest, semantic⟩ :=
    ProviderSnapshot.semantic_total argument.constructed argument.sets
  have digests := eventSemantic_isSha256 semantic
  have received : e.receivedMonotonicNs < integerBound := by
    have accepted := argument.constructed
    simp only [ProviderSnapshot.postInit, validateEventTimes, bind_eq_ok, exists_unit,
      integer_eq_ok] at accepted
    exact accepted.2.2.2.2.2.2.2.2.1
  have reject : ∀ reason ∈ installedBlockReasons, reason ≠ .providerEventGap →
      ∃ r, correctionRejected s e digest reason = .ok r :=
    fun reason installable noGap =>
      correctionRejected_total good digests received installable noGap
  simp only [applyCorrection, valid.reached, semantic, ok_bind]
  iterate 6
    refine answers_ite (fun _ => reject _ (by decide) (by decide)) fun _ => ?_
  refine answers_ite (fun _ => ⟨_, result_eq_ok.mpr ⟨digests, rfl⟩⟩) fun _ => ?_
  refine answers_ite (fun _ => reject _ (by decide) (by decide)) fun _ => ?_
  refine answers_ite (fun _ => reject _ (by decide) (by decide)) fun accepted => ?_
  simp only [not_or, Bool.not_eq_false] at accepted
  have constructed := stateFromSnapshotFields_constructed argument.constructed
    (reachable_supported accepted.2) digests (hexdigest_isSha256 (domain
      "inci-tennis-correction-lineage-v1" ++ fromHex s.correctionLineageSha256.toList ++ bytes))
  rw [TennisState.construct_eq_ok.mpr ⟨constructed, rfl⟩, ok_bind]
  exact ⟨_, result_eq_ok.mpr ⟨digests, rfl⟩⟩

/-! ## The machine -/

/-- Every state the four operations return is valid.  A valid live state meets a
point with a score that passes every assertion and constructor on the way to the
next state, and a valid state raises on no point and no lifecycle event, as long
as a tiebreak point stays below the bound of the integers. -/
theorem tennis_state_valid :
    (∀ (e : ProviderSnapshot) (s : TennisState),
      e.Valid → stateFromSnapshot e = .ok s → s.Valid) ∧
    (∀ (s : TennisState) (op : TennisOperation) (r : TennisTransitionResult),
      s.Valid → op.Valid → op.apply s = .ok r → r.state.Valid) ∧
    (∀ (s : TennisState) (w : PlayerSide), s.Valid → s.status = .live →
      s.tiebreakPoints w + 1 < integerBound →
      ∃ score, advanceScore s.matchFormat s.toScore w = .ok score ∧
        ∀ (event : IncrementalEvent) (digest : String), event.postInit = .ok () →
          IsSha256 digest → ∃ next, appliedState s event digest score = .ok next) ∧
    (∀ (s : TennisState) (point : ProviderPoint), s.Valid → point.postInit = .ok () →
      s.tiebreakPoints point.pointWinner + 1 < integerBound → ∃ r, applyPoint s point = .ok r) ∧
    (∀ (s : TennisState) (event : ProviderLifecycle), s.Valid → event.postInit = .ok () →
      ∃ r, applyLifecycle s event = .ok r) := by
  refine ⟨fun e s valid answer => stateFromSnapshot_valid valid answer,
    fun s op r valid argument answer => TennisOperation.apply_valid valid argument answer, ?_,
    fun s point valid argument small => applyPoint_total valid argument small,
    fun s event valid argument => applyLifecycle_total valid argument⟩
  intro s w valid live small
  obtain ⟨good, legal⟩ := TennisState.valid_iff.mp valid
  obtain ⟨score, advanced, next⟩ := advanceScore_legal w legal live small
  refine ⟨score, advanced, fun event digest built digests => ?_⟩
  have constructed := appliedFields_constructed good (IncrementalEvent.postInit_eq_ok.mp built)
    digests next
  exact ⟨_, TennisState.construct_eq_ok.mpr ⟨constructed, rfl⟩⟩

theorem openingSnapshot_valid : openingSnapshot.Valid :=
  ⟨openingSnapshot_accepted, by simp [openingSnapshot, openingScore]⟩

theorem openingState_valid : openingState.Valid :=
  ⟨openingState_accepted, by simp [openingState, openingScore], by decide⟩

/-- The opening snapshot starts a valid match, which its first point keeps valid. -/
theorem tennis_state_valid_opening :
    ∃ start r, stateFromSnapshot openingSnapshot = .ok start ∧ start.Valid ∧
      applyPoint start openingPoint = .ok r ∧ r.state.Valid := by
  obtain ⟨start, origin⟩ := openingSnapshot_starts
  obtain ⟨fromSnapshot, fromOperation, -, point, -⟩ := tennis_state_valid
  have valid := fromSnapshot openingSnapshot start openingSnapshot_valid origin
  have score : start.toScore = openingScore := by
    simp only [stateFromSnapshot, bind_eq_ok, exists_unit, Prod.exists,
      TennisState.construct_eq_ok] at origin
    obtain ⟨_, _, -, -, -, -, rfl⟩ := origin
    rfl
  obtain ⟨r, answer⟩ := point start openingPoint valid openingPoint_accepted (by
    rw [score]
    decide +kernel)
  exact ⟨start, r, origin, valid, answer,
    fromOperation start (.event (.point openingPoint)) r valid
      openingPoint_accepted answer⟩

/-! ## Runs of operations -/

/-- What a caller holds after an operation: the state returned, or the one it had. -/
def TennisOperation.standing (s : TennisState) (op : TennisOperation) : TennisState :=
  match op.apply s with
  | .ok r => r.state
  | .error _ => s

def runOperations (s : TennisState) (ops : List TennisOperation) : TennisState :=
  ops.foldl TennisOperation.standing s

theorem runOperations_valid {s : TennisState} (valid : s.Valid) (ops : List TennisOperation)
    (arguments : ∀ op ∈ ops, op.Valid) : (runOperations s ops).Valid := by
  induction ops generalizing s with
  | nil => exact valid
  | cons op rest ih =>
      refine ih ?_ fun later member => arguments later (List.mem_cons_of_mem _ member)
      unfold TennisOperation.standing
      cases answer : op.apply s with
      | error _ => exact valid
      | ok r => exact TennisOperation.apply_valid valid (arguments op List.mem_cons_self) answer

end Inci.Tennis
