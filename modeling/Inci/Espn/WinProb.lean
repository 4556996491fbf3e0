/-
# Espn.WinProb -- the score model and where it is defined

The model of a match is three races: points to a game, games to a set, sets to the match.
`gameWinProb`, `setWinProb` and `matchWinFromSets` are the races with their own boundary
cases, `matchWinProbability` puts them together.  Every function takes the depth its
recursion may reach.

The boundary cases of a set leave out seven games all, where the recursion never ends
(`terminates_iff`).  A live card can show seven games all, so the gate can hand
the model a score it has no value for (`score_defined_iff`).
-/
import Inci.Theory.Race
import Inci.Espn.Cards
import Mathlib.Tactic.NormNum

namespace Inci.Espn

open Inci.Theory

set_option autoImplicit false

inductive WinProbFailure where
  | bestOf
  | prematchProbability
  | recursion
  deriving DecidableEq

section

variable {α : Type} [Add α] [Sub α] [Mul α] [Div α] [OfNat α 0] [OfNat α 1] [OfNat α 2] [BEq α]

/-! ## Games, sets and the match -/

/-- The chance to win a game from deuce. -/
def deuce (p : α) : α :=
  let q := 1 - p
  if p * p + q * q != 0 then p * p / (p * p + q * q) else 1 / 2

/-- The boundary cases of a game. -/
def gameStop (p : α) (a b : ℤ) : Option α :=
  let q := 1 - p
  if 4 ≤ a ∧ 2 ≤ a - b then some 1
  else if 4 ≤ b ∧ 2 ≤ b - a then some 0
  else if 3 ≤ a ∧ 3 ≤ b then
    if a = b then some (deuce p)
    else if a = b + 1 then some (p * 1 + q * deuce p)
    else if b = a + 1 then some (p * deuce p + q * 0)
    else none
  else none

def gameWinProb (depth : ℕ) (pPoint : α) : Option α :=
  race (gameStop pPoint) pPoint (1 - pPoint) depth 0 0

/-- The boundary cases of a set; a tiebreak counts as a game. -/
def setStop (p : α) (a b : ℤ) : Option α :=
  if 6 ≤ a ∧ 2 ≤ a - b then some 1
  else if 6 ≤ b ∧ 2 ≤ b - a then some 0
  else if a = 7 ∧ b = 6 then some 1
  else if b = 7 ∧ a = 6 then some 0
  else if a = 6 ∧ b = 6 then some p
  else none

/-- `max(0, min(games, 7))` -/
def clampGames (games : ℤ) : ℤ := max 0 (min games 7)

def setWinProb (depth : ℕ) (gamesFor gamesAgainst : ℤ) (pGame : α) : Option α :=
  race (setStop pGame) pGame (1 - pGame) depth (clampGames gamesFor) (clampGames gamesAgainst)

/-- The boundary cases of a match. -/
def matchStop (setsNeeded : ℤ) (a b : ℤ) : Option α :=
  if setsNeeded ≤ a then some 1 else if setsNeeded ≤ b then some 0 else none

def matchWinFromSets (depth : ℕ) (setsFor setsAgainst : ℤ) (pSet : α) (setsNeeded : ℤ) : Option α :=
  race (matchStop setsNeeded) pSet (1 - pSet) depth setsFor setsAgainst

/-- The chances that a match is put together from: the set in play and the match after it. -/
def matchChances (depth : ℕ) (score : Score) (setsNeeded : ℤ) (pPoint : α) :
    Option (α × α × α) := do
  let pGame ← gameWinProb depth pPoint
  let pSetNow ← setWinProb depth score.gamesFor score.gamesAgainst pGame
  let pSetFresh ← setWinProb depth 0 0 pGame
  let winIfTake ← matchWinFromSets depth (score.setsFor + 1) score.setsAgainst pSetFresh setsNeeded
  let winIfLose ← matchWinFromSets depth score.setsFor (score.setsAgainst + 1) pSetFresh setsNeeded
  pure (pSetNow, winIfTake, winIfLose)

def matchWinProbability (depth : ℕ) (score : Score) (bestOf : ℤ) (pPoint : α) :
    Except WinProbFailure α :=
  if bestOf ≠ 3 ∧ bestOf ≠ 5 then .error .bestOf
  else if bestOf / 2 + 1 ≤ score.setsFor then .ok 1
  else if bestOf / 2 + 1 ≤ score.setsAgainst then .ok 0
  else match matchChances depth score (bestOf / 2 + 1) pPoint with
    | none => .error .recursion
    | some (pSetNow, winIfTake, winIfLose) =>
        .ok (pSetNow * winIfTake + (1 - pSetNow) * winIfLose)

/-- The recursion comes to an end, with a value or a refusal. -/
def Terminates (score : Score) (bestOf : ℤ) (pPoint : α) : Prop :=
  ∃ depth, matchWinProbability depth score bestOf pPoint ≠ .error .recursion

end

/-! ## Where the races end -/

section Ends

variable {α : Type} [Add α] [Sub α] [Mul α] [OfNat α 0] [OfNat α 1] {p : α} {depth : ℕ}

/-- A set is decided from every pair of game counts but seven all. -/
theorem setWinProb_defined {gamesFor gamesAgainst : ℤ} (deep : 12 < depth)
    (unlevel : ¬(7 ≤ gamesFor ∧ 7 ≤ gamesAgainst)) :
    ∃ v, setWinProb depth gamesFor gamesAgainst p = some v := by
  have start : 0 ≤ clampGames gamesFor ∧ 0 ≤ clampGames gamesAgainst ∧ clampGames gamesFor ≤ 7 ∧
      clampGames gamesAgainst ≤ 7 ∧ (clampGames gamesFor ≤ 6 ∨ clampGames gamesAgainst ≤ 6) := by
    unfold clampGames
    omega
  refine @race_defined α _ _ _ _ _ _ _ _
    (fun a b => 0 ≤ a ∧ 0 ≤ b ∧ a ≤ 7 ∧ b ≤ 7 ∧ (a ≤ 6 ∨ b ≤ 6)) 12 ?_ start (by omega)
  intro a b inside running
  simp only [setStop] at running
  split_ifs at running
  omega

/-- From seven all the recursion never ends. -/
theorem setWinProb_undefined {gamesFor gamesAgainst : ℤ}
    (level : 7 ≤ gamesFor ∧ 7 ≤ gamesAgainst) :
    setWinProb depth gamesFor gamesAgainst p = none := by
  have start : 7 ≤ clampGames gamesFor ∧ 7 ≤ clampGames gamesAgainst ∧
      clampGames gamesFor ≤ clampGames gamesAgainst + 1 ∧
      clampGames gamesAgainst ≤ clampGames gamesFor + 1 := by
    unfold clampGames
    omega
  refine @race_undefined α _ _ _ _ _ _ _ _
    (fun a b => 7 ≤ a ∧ 7 ≤ b ∧ a ≤ b + 1 ∧ b ≤ a + 1) ?_ start
  intro a b inside
  refine ⟨?_, by omega⟩
  simp only [setStop]
  rw [if_neg (by omega), if_neg (by omega), if_neg (by omega), if_neg (by omega), if_neg (by omega)]

theorem matchWinFromSets_defined {setsFor setsAgainst setsNeeded : ℤ}
    (deep : (2 * setsNeeded - (setsFor + setsAgainst)).toNat < depth) :
    ∃ v, matchWinFromSets depth setsFor setsAgainst p setsNeeded = some v := by
  refine @race_defined α _ _ _ _ _ _ _ _ (fun _ _ => True) (2 * setsNeeded) ?_ trivial deep
  intro a b _ running
  simp only [matchStop] at running
  split_ifs at running
  refine ⟨by omega, trivial, trivial⟩

variable [Div α] [OfNat α 2] [BEq α]

theorem gameWinProb_defined (deep : 6 < depth) : ∃ v, gameWinProb depth p = some v := by
  refine @race_defined α _ _ _ _ _ _ _ _
    (fun a b => 0 ≤ a ∧ 0 ≤ b ∧ a ≤ 4 ∧ b ≤ 4 ∧ (a ≤ 3 ∨ b ≤ 3)) 6 ?_ (by omega) (by omega)
  intro a b inside running
  simp only [gameStop] at running
  split_ifs at running <;> omega

theorem matchChances_defined {score : Score} {setsNeeded : ℤ} (deep : 12 < depth)
    (deeper : (2 * setsNeeded - (score.setsFor + score.setsAgainst)).toNat < depth)
    (unlevel : ¬(7 ≤ score.gamesFor ∧ 7 ≤ score.gamesAgainst)) :
    ∃ chances, matchChances depth score setsNeeded p = some chances := by
  have fresh : ¬((7 : ℤ) ≤ 0 ∧ (7 : ℤ) ≤ 0) := by omega
  obtain ⟨pGame, game⟩ := @gameWinProb_defined α _ _ _ _ _ p depth _ _ _ (by omega)
  obtain ⟨now, current⟩ := @setWinProb_defined α _ _ _ _ _ pGame depth _ _ deep unlevel
  obtain ⟨next, later⟩ := @setWinProb_defined α _ _ _ _ _ pGame depth 0 0 deep fresh
  obtain ⟨take, won⟩ := @matchWinFromSets_defined α _ _ _ _ _ next depth
    (score.setsFor + 1) score.setsAgainst setsNeeded (by omega)
  obtain ⟨lose, lost⟩ := @matchWinFromSets_defined α _ _ _ _ _ next depth
    score.setsFor (score.setsAgainst + 1) setsNeeded (by omega)
  refine ⟨(now, take, lose), ?_⟩
  unfold matchChances
  simp only [game, current, later, won, lost, Option.bind_eq_bind, Option.bind_some, Option.pure_def]

theorem matchChances_undefined {score : Score} {setsNeeded : ℤ}
    (level : 7 ≤ score.gamesFor ∧ 7 ≤ score.gamesAgainst) :
    matchChances depth score setsNeeded p = none := by
  unfold matchChances
  cases gameWinProb depth p with
  | none => rfl
  | some pGame =>
      have stuck := @setWinProb_undefined α _ _ _ _ _ pGame depth _ _ level
      rw [Option.bind_eq_bind, Option.bind_some, stuck]
      rfl

/-- A match that is not decided. -/
theorem matchWinProbability_open {score : Score} {bestOf : ℤ} (format : bestOf = 3 ∨ bestOf = 5)
    (running : score.setsFor < bestOf / 2 + 1 ∧ score.setsAgainst < bestOf / 2 + 1) :
    matchWinProbability depth score bestOf p =
      match matchChances depth score (bestOf / 2 + 1) p with
      | none => .error .recursion
      | some (pSetNow, winIfTake, winIfLose) =>
          .ok (pSetNow * winIfTake + (1 - pSetNow) * winIfLose) := by
  unfold matchWinProbability
  rw [if_neg (by omega), if_neg (by omega), if_neg (by omega)]

/-- The model ends on the score of a running match except at seven games all. -/
theorem terminates_iff {score : Score} {bestOf : ℤ} (format : bestOf = 3 ∨ bestOf = 5)
    (running : score.setsFor < bestOf / 2 + 1 ∧ score.setsAgainst < bestOf / 2 + 1) :
    Terminates score bestOf p ↔ ¬(7 ≤ score.gamesFor ∧ 7 ≤ score.gamesAgainst) := by
  constructor
  · rintro ⟨depth, ends⟩ level
    rw [matchWinProbability_open format running, matchChances_undefined level] at ends
    exact ends rfl
  · intro unlevel
    let depth := 13 + (2 * (bestOf / 2 + 1) - (score.setsFor + score.setsAgainst)).toNat
    obtain ⟨chances, found⟩ := @matchChances_defined α _ _ _ _ _ p depth _ _ _ score
      (bestOf / 2 + 1) (by omega) (by omega) unlevel
    refine ⟨depth, ?_⟩
    rw [matchWinProbability_open format running, found]
    exact fun ends => nomatch ends

end Ends

/-! ## The scores of the gate -/

/-- The card shows seven games all: in the unfinished last set of its arrays, or in the games
of the current set where the arrays give none. -/
def SevenAll (card : EspnMatch) : Prop :=
  let shown := currentGames card.competitors.1.sets card.competitors.2.sets true
  card.state = .live ∧ ((7 ≤ shown.1 ∧ 7 ≤ shown.2) ∨
    (shown = (0, 0) ∧ ∃ games ∈ card.games, setComplete games.1 games.2 = false ∧
      7 ≤ games.1 ∧ 7 ≤ games.2))

theorem currentGames_still (setsA setsB : List ℤ) : currentGames setsA setsB false = (0, 0) := by
  unfold currentGames
  cases setsA.getLast? with
  | none => rfl
  | some a =>
      cases setsB.getLast? with
      | none => rfl
      | some b => simp

/-- What the gate hands on from the card's first competitor. -/
theorem scoreOf_first {card : EspnMatch} {score : Score} (format : card.bestOf = 3 ∨ card.bestOf = 5)
    (going : card.state ≠ .post) (scored : card.scoreOf .first = .ok score) :
    (score.setsFor < card.bestOf / 2 + 1 ∧ score.setsAgainst < card.bestOf / 2 + 1) ∧
      (7 ≤ score.gamesFor ∧ 7 ≤ score.gamesAgainst ↔ SevenAll card) := by
  unfold EspnMatch.scoreOf scoreState at scored
  obtain ⟨_, -, scored⟩ := bind_eq_ok.mp scored
  obtain ⟨sets, -, scored⟩ := bind_eq_ok.mp scored
  obtain ⟨_, open', scored⟩ := bind_eq_ok.mp scored
  obtain ⟨games, shown, scored⟩ := bind_eq_ok.mp scored
  obtain rfl := Except.ok.inj scored
  simp only [refuse_eq_ok, not_or, not_and, not_le, ne_eq, not_not] at open'
  obtain ⟨unclinched, unstarted⟩ := open'
  unfold EspnMatch.setsNeeded at unclinched
  change gamesOf card (some .first) (currentGames card.competitors.1.sets
    card.competitors.2.sets card.live) = .ok games at shown
  unfold gamesOf at shown
  cases state : card.state with
  | post => exact absurd state going
  | pre =>
      have still : card.live = false := by simp [EspnMatch.live, state]
      have none : sets = (0, 0) := unstarted state
      rw [still, currentGames_still] at shown
      have zero : games = (0, 0) := by
        cases extra : card.games with
        | none =>
            rw [extra] at shown
            exact (Except.ok.inj shown).symm
        | some g =>
            rw [extra] at shown
            simp only [Bool.false_eq_true, false_and, and_false, if_false] at shown
            exact (Except.ok.inj shown).symm
      subst none zero
      refine ⟨by show (0 : ℤ) < _ ∧ (0 : ℤ) < _; omega, ?_⟩
      simp [SevenAll, state]
  | live =>
      have live : card.live = true := by simp [EspnMatch.live, state]
      refine ⟨?_, ?_⟩
      · have bound := unclinched live
        have most := le_max_left sets.1 sets.2
        have most' := le_max_right sets.1 sets.2
        show sets.1 < _ ∧ sets.2 < _
        omega
      rw [live] at shown
      show 7 ≤ games.1 ∧ 7 ≤ games.2 ↔ _
      unfold SevenAll
      simp only [state, true_and]
      generalize currentGames card.competitors.1.sets card.competitors.2.sets true = current at shown ⊢
      cases extra : card.games with
      | none =>
          rw [extra] at shown
          obtain rfl := Except.ok.inj shown
          simp
      | some g =>
          rw [extra] at shown
          simp only [true_and] at shown
          split_ifs at shown with taken
          · obtain ⟨rfl, incomplete⟩ := taken
            obtain rfl := Except.ok.inj shown
            simp [incomplete]
          · obtain rfl := Except.ok.inj shown
            have apart : ¬(current = (0, 0) ∧ setComplete g.1 g.2 = false) := taken
            simp only [Option.mem_def, Option.some.injEq, exists_eq_left']
            refine ⟨Or.inl, ?_⟩
            rintro (both | ⟨zero, incomplete, -⟩)
            · exact both
            · exact absurd ⟨zero, incomplete⟩ apart

theorem scoreOf_shown {card : EspnMatch} {score : Score} {seat : Seat}
    (format : card.bestOf = 3 ∨ card.bestOf = 5) (going : card.state ≠ .post)
    (scored : card.scoreOf seat = .ok score) :
    (score.setsFor < card.bestOf / 2 + 1 ∧ score.setsAgainst < card.bestOf / 2 + 1) ∧
      (7 ≤ score.gamesFor ∧ 7 ≤ score.gamesAgainst ↔ SevenAll card) := by
  cases seat with
  | first => exact scoreOf_first format going scored
  | second =>
      have mirrored := scoreState_other card .second
      rw [scored] at mirrored
      obtain ⟨running, shown⟩ := scoreOf_first format going mirrored
      exact ⟨running.symm, and_comm.trans shown⟩

/-- On the score of a card before or during its match the model ends if and only if the card does
not show seven games all, whatever the arithmetic. -/
theorem score_defined_iff {α : Type} [Add α] [Sub α] [Mul α] [Div α] [OfNat α 0] [OfNat α 1]
    [OfNat α 2] [BEq α] (card : EspnMatch) (seat : Seat) (score : Score) (pPoint : α)
    (format : card.bestOf = 3 ∨ card.bestOf = 5) (going : card.state ≠ .post)
    (scored : card.scoreOf seat = .ok score) :
    Terminates score card.bestOf pPoint ↔ ¬SevenAll card := by
  obtain ⟨running, shown⟩ := scoreOf_shown format going scored
  rw [terminates_iff format running, shown]

/-- A card of a match in its first set, with the games of both. -/
def inFirstSet (gamesFor gamesAgainst : ℤ) : EspnMatch where
  state := .live
  bestOf := 3
  competitors := (⟨"a", "Ada Ace", "Ace", [gamesFor], 0, false, none⟩,
    ⟨"b", "Bea Break", "Break", [gamesAgainst], 0, false, none⟩)
  games := none
  scoreTimestamp := some 100
  scoreObserved := true

theorem score_defined_iff_early :
    Terminates (⟨0, 0, 4, 1⟩ : Score) 3 (1 / 2 : ℚ) ↔ ¬SevenAll (inFirstSet 4 1) :=
  score_defined_iff (inFirstSet 4 1) .first ⟨0, 0, 4, 1⟩ (1 / 2 : ℚ) (Or.inl rfl) (by decide)
    (by decide)

/-- The gate reads seven games all off a card, and the model has no value for it. -/
theorem sevenAll_unbounded :
    ¬∀ (card : EspnMatch) (seat : Seat) (score : Score) (pPoint : ℚ),
      card.bestOf = 3 ∨ card.bestOf = 5 → card.state ≠ .post → card.scoreOf seat = .ok score →
      0 ≤ pPoint → pPoint ≤ 1 → Terminates score card.bestOf pPoint := by
  intro ends
  have ended := ends (inFirstSet 7 7) .first ⟨0, 0, 7, 7⟩ (1 / 2) (Or.inl rfl) (by decide)
    (by decide) (by norm_num) (by norm_num)
  have format : (inFirstSet 7 7).bestOf = 3 ∨ (inFirstSet 7 7).bestOf = 5 := Or.inl rfl
  exact (terminates_iff format ⟨by decide, by decide⟩).mp ended ⟨by decide, by decide⟩

end Inci.Espn
