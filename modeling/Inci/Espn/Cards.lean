/-
# Espn.Cards -- score cards and the score the gate reads off them

A card shows two competitors with the games of each set, the sets each has won and,
where the provider has it, the games of the current set.  `scoreState` merges the three
into one score from one competitor's side.  Read from the other side it refuses the same
cards and gives the mirrored score (`scoreState_other`): every branch treats the two
competitors alike, and the one that tells them apart does it by position.
-/
import Inci.Theory.Checks
import Mathlib.Tactic.SplitIfs
import Mathlib.Algebra.Order.Ring.Rat
import Mathlib.Data.List.Zip

namespace Inci.Espn

open Inci.Theory

set_option autoImplicit false

/-! ## Cards -/

inductive CardState where
  | pre
  | live
  | post
  deriving DecidableEq

structure EspnCompetitor where
  athleteId : String
  displayName : String
  shortName : String
  sets : List ℤ
  setsWon : ℤ
  serving : Bool
  winner : Option Bool
  deriving DecidableEq

/-- One of the two places of a card. -/
inductive Seat where
  | first
  | second
  deriving DecidableEq

def Seat.other : Seat → Seat
  | .first => .second
  | .second => .first

structure EspnMatch where
  state : CardState
  bestOf : ℤ
  competitors : EspnCompetitor × EspnCompetitor
  games : Option (ℤ × ℤ)
  scoreTimestamp : Option ℚ
  scoreObserved : Bool
  deriving DecidableEq

def EspnMatch.competitor (card : EspnMatch) : Seat → EspnCompetitor
  | .first => card.competitors.1
  | .second => card.competitors.2

/-! ## Sets -/

def setComplete (a b : ℤ) : Bool :=
  decide ((6 ≤ max a b ∧ 2 ≤ max a b - min a b) ∨ (max a b = 7 ∧ min a b = 6))

/-- The loop of `completed_sets_won`, over the sets both competitors have. -/
def countSets (live : Bool) : List (ℤ × ℤ) → ℤ × ℤ → ℤ × ℤ
  | [], won => won
  | (a, b) :: rest, won =>
      if live = true ∧ rest = [] ∧ setComplete a b = false then countSets live rest won
      else if setComplete a b = true then
        if b < a then countSets live rest (won.1 + 1, won.2)
        else if a < b then countSets live rest (won.1, won.2 + 1)
        else countSets live rest won
      else countSets live rest won

def completedSetsWon (setsA setsB : List ℤ) (live : Bool) : ℤ × ℤ :=
  countSets live (setsA.zip setsB) (0, 0)

def currentGames (setsA setsB : List ℤ) (live : Bool) : ℤ × ℤ :=
  match setsA.getLast?, setsB.getLast? with
  | some a, some b =>
      if setsA.length ≠ setsB.length then (0, 0)
      else if live = true ∧ setComplete a b = false then (a, b)
      else (0, 0)
  | _, _ => (0, 0)

/-! ## The score -/

/-- Sets and games, for a player and against. -/
structure Score where
  setsFor : ℤ
  setsAgainst : ℤ
  gamesFor : ℤ
  gamesAgainst : ℤ
  deriving DecidableEq

def Score.mirror (s : Score) : Score where
  setsFor := s.setsAgainst
  setsAgainst := s.setsFor
  gamesFor := s.gamesAgainst
  gamesAgainst := s.gamesFor

def EspnMatch.live (card : EspnMatch) : Bool := decide (card.state = .live)

/-- `sets_needed` -/
def EspnMatch.setsNeeded (card : EspnMatch) : ℤ := card.bestOf / 2 + 1

/-- The completed sets: the authoritative ones, where they are ahead of the arrays. -/
def setsOf (card : EspnMatch) (reconstructed authoritative : ℤ × ℤ) :
    Except String (ℤ × ℤ) := do
  refuse (authoritative.1 < 0 ∨ card.setsNeeded < authoritative.1 ∨ authoritative.2 < 0 ∨
    card.setsNeeded < authoritative.2 ∨ card.bestOf < authoritative.1 + authoritative.2 ∨
    authoritative = (card.setsNeeded, card.setsNeeded)) "invalid authoritative set score"
  refuse (authoritative.1 + authoritative.2 = reconstructed.1 + reconstructed.2 ∧
    0 < authoritative.1 + authoritative.2 ∧ authoritative ≠ reconstructed)
    "inconsistent authoritative set orientation"
  if reconstructed.1 + reconstructed.2 < authoritative.1 + authoritative.2 then
    refuse (authoritative.1 < reconstructed.1 ∨ authoritative.2 < reconstructed.2)
      "inconsistent authoritative set score"
    pure authoritative
  else pure reconstructed

/-- The games of the current set.  `seat` is where the card holds this very competitor,
`none` where it holds it nowhere. -/
def gamesOf (card : EspnMatch) (seat : Option Seat) (current : ℤ × ℤ) : Except String (ℤ × ℤ) :=
  match card.games with
  | none => .ok current
  | some games =>
      if current = (0, 0) ∧ card.live = true ∧ setComplete games.1 games.2 = false then
        match seat with
        | some .first => .ok games
        | some .second => .ok games.swap
        | none => .error "score competitor orientation is ambiguous"
      else .ok current

/-- `EspnProbGate._score_state` -/
def scoreState (card : EspnMatch) (me opp : EspnCompetitor) (seat : Option Seat) :
    Except String Score := do
  refuse (card.live = true ∧ card.scoreObserved = false) "live score was not observed"
  let sets ← setsOf card (completedSetsWon me.sets opp.sets card.live) (me.setsWon, opp.setsWon)
  refuse ((card.live = true ∧ card.setsNeeded ≤ max sets.1 sets.2) ∨
    (card.state = .pre ∧ sets ≠ (0, 0))) "set score conflicts with match lifecycle"
  let games ← gamesOf card seat (currentGames me.sets opp.sets card.live)
  pure ⟨sets.1, sets.2, games.1, games.2⟩

/-- The score of a card from the side of one of its competitors. -/
def EspnMatch.scoreOf (card : EspnMatch) (seat : Seat) : Except String Score :=
  scoreState card (card.competitor seat) (card.competitor seat.other) (some seat)

/-! ## The other side -/

theorem setComplete_comm (a b : ℤ) : setComplete a b = setComplete b a := by
  simp only [setComplete, max_comm, min_comm]

theorem countSets_swap (live : Bool) (pairs : List (ℤ × ℤ)) (won : ℤ × ℤ) :
    countSets live (pairs.map Prod.swap) won.swap = (countSets live pairs won).swap := by
  induction pairs generalizing won with
  | nil => rfl
  | cons pair rest ih =>
      obtain ⟨a, b⟩ := pair
      have home := ih (won.1 + 1, won.2)
      have away := ih (won.1, won.2 + 1)
      simp only [Prod.swap_prod_mk] at home away
      simp only [List.map_cons, Prod.swap_prod_mk, countSets, setComplete_comm b a,
        List.map_eq_nil_iff]
      split_ifs <;> first | exact ih won | exact home | exact away | omega

theorem completedSetsWon_swap (setsA setsB : List ℤ) (live : Bool) :
    completedSetsWon setsB setsA live = (completedSetsWon setsA setsB live).swap := by
  unfold completedSetsWon
  rw [← List.zip_swap]
  exact countSets_swap live _ (0, 0)

theorem currentGames_swap (setsA setsB : List ℤ) (live : Bool) :
    currentGames setsB setsA live = (currentGames setsA setsB live).swap := by
  unfold currentGames
  cases setsA.getLast? with
  | none => cases setsB.getLast? <;> rfl
  | some a =>
      cases setsB.getLast? with
      | none => rfl
      | some b =>
          simp only [setComplete_comm b a, ne_comm (a := setsB.length)]
          split_ifs <;> rfl

theorem setsOf_swap (card : EspnMatch) (reconstructed authoritative : ℤ × ℤ) :
    setsOf card reconstructed.swap authoritative.swap =
      (setsOf card reconstructed authoritative).map Prod.swap := by
  obtain ⟨r, r'⟩ := reconstructed
  obtain ⟨a, a'⟩ := authoritative
  simp only [setsOf, refuse, Prod.swap_prod_mk, Prod.mk.injEq, ne_eq]
  split_ifs <;> first | rfl | omega

theorem gamesOf_swap (card : EspnMatch) (seat : Seat) (current : ℤ × ℤ) :
    gamesOf card (some seat.other) current.swap =
      (gamesOf card (some seat) current).map Prod.swap := by
  obtain ⟨g, g'⟩ := current
  unfold gamesOf
  cases card.games with
  | none => rfl
  | some games =>
      simp only [Prod.swap_prod_mk, Prod.mk.injEq]
      by_cases taken : g = 0 ∧ g' = 0 ∧ card.live = true ∧ setComplete games.1 games.2 = false
      · obtain ⟨rfl, rfl, live, incomplete⟩ := taken
        rw [if_pos ⟨⟨rfl, rfl⟩, live, incomplete⟩, if_pos ⟨⟨rfl, rfl⟩, live, incomplete⟩]
        cases seat <;> rfl
      · rw [if_neg (by tauto), if_neg (by tauto)]
        rfl

/-- Read from its two competitors, a card is refused twice, for the same reason, or gives a
score and its mirror. -/
theorem scoreState_other (card : EspnMatch) (seat : Seat) :
    card.scoreOf seat.other = (card.scoreOf seat).map Score.mirror := by
  have back : seat.other.other = seat := by cases seat <;> rfl
  have sets := setsOf_swap card (completedSetsWon (card.competitor seat).sets
    (card.competitor seat.other).sets card.live)
    ((card.competitor seat).setsWon, (card.competitor seat.other).setsWon)
  rw [← completedSetsWon_swap, Prod.swap_prod_mk] at sets
  unfold EspnMatch.scoreOf scoreState
  rw [back, sets, currentGames_swap (card.competitor seat).sets]
  by_cases unobserved : card.live = true ∧ card.scoreObserved = false
  · simp only [refuse, if_pos unobserved]
    rfl
  simp only [refuse_ok _ unobserved, ok_bind]
  cases setsOf card (completedSetsWon (card.competitor seat).sets
    (card.competitor seat.other).sets card.live)
    ((card.competitor seat).setsWon, (card.competitor seat.other).setsWon) with
  | error e => rfl
  | ok won =>
      obtain ⟨w, w'⟩ := won
      simp only [Except.map, ok_bind, Prod.swap_prod_mk, gamesOf_swap, max_comm w' w,
        Prod.mk.injEq, ne_eq, and_comm (a := w' = 0)]
      by_cases conflict : (card.live = true ∧ card.setsNeeded ≤ max w w') ∨
          (card.state = .pre ∧ ¬(w = 0 ∧ w' = 0))
      · simp only [refuse, if_pos conflict]
        rfl
      simp only [refuse_ok _ conflict, ok_bind]
      cases gamesOf card (some seat) (currentGames (card.competitor seat).sets
        (card.competitor seat.other).sets card.live) with
      | error e => rfl
      | ok games => rfl

end Inci.Espn
