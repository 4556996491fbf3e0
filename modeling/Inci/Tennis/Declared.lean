/-
# Tennis.Declared -- the rules of tennis over whole histories

The rules say what a list of point winners means, with no counter and no state:
a game, a tiebreak, a set and a match each last until a rule first holds of what
has been played of it.  A `MatchRecord` cuts a history into sets, games and the
points of the game being played; `Declares` says that it is the cut the rules
make, and `declares_unique` that there is one such cut.  The score is read off
the record.  Nothing here refers to the machine.
-/
import Inci.Theory.Stopping
import Inci.Tennis.Machine

namespace Inci.Tennis

open Inci.Theory Inci.Expert

set_option autoImplicit false

/-- The winners of the points of a game or a tiebreak, in order. -/
abbrev Game := List PlayerSide

@[simp] theorem opposite_opposite (side : PlayerSide) : opposite (opposite side) = side := by
  cases side <;> rfl

/-! ## Games -/

/-- At least `target` points and a lead of two. -/
def Leads (target : Nat) (side : PlayerSide) (points : Game) : Prop :=
  target ≤ points.count side ∧ points.count (opposite side) + 2 ≤ points.count side

def Decided (target : Nat) (points : Game) : Prop :=
  Leads target .home points ∨ Leads target .away points

instance (target : Nat) (side : PlayerSide) (points : Game) : Decidable (Leads target side points) :=
  inferInstanceAs (Decidable (_ ∧ _))

instance (target : Nat) (points : Game) : Decidable (Decided target points) :=
  inferInstanceAs (Decidable (_ ∨ _))

/-- The winner of a finished game has more of its points. -/
def won (side : PlayerSide) (game : Game) : Bool :=
  decide (game.count (opposite side) < game.count side)

/-! ## Sets -/

def gamesWon (side : PlayerSide) (games : List Game) : Nat := games.countP (won side)

/-- Six games all: the next game is the tiebreak. -/
def Tied (games : List Game) : Prop := gamesWon .home games = 6 ∧ gamesWon .away games = 6

instance (games : List Game) : Decidable (Tied games) := inferInstanceAs (Decidable (_ ∧ _))

/-- The points that decide the game played after these. -/
def target (games : List Game) : Nat := if Tied games then 7 else 4

/-- The tiebreak of a set, when its last game was one. -/
def tiebreakOf (games : List Game) : Option Game :=
  if Tied games.dropLast then games.getLast? else none

/-- A set goes to six games with a lead of two, or to the winner of its tiebreak. -/
def SetWon (side : PlayerSide) (games : List Game) : Prop :=
  (6 ≤ gamesWon side games ∧ gamesWon (opposite side) games + 2 ≤ gamesWon side games) ∨
    (tiebreakOf games).any (won side) = true

instance (side : PlayerSide) (games : List Game) : Decidable (SetWon side games) :=
  inferInstanceAs (Decidable (_ ∨ _))

def SetOver (games : List Game) : Prop := SetWon .home games ∨ SetWon .away games

instance (games : List Game) : Decidable (SetOver games) := inferInstanceAs (Decidable (_ ∨ _))

/-- A game that may follow these in their set: it ends when its race is first decided. -/
def GameFits (games : List Game) (game : Game) : Prop :=
  ¬SetOver games ∧ Stopped (Decided (target games)) game

/-- A finished set: it ends with the game that first wins it. -/
def SetComplete (games : List Game) : Prop := Chained GameFits [] games ∧ SetOver games

/-- A set being played, with the points of its current game. -/
def SetRunning (games : List Game) (points : Game) : Prop :=
  Chained GameFits [] games ∧ ¬SetOver games ∧ Running (Decided (target games)) points

/-! ## Matches -/

def setsWon (side : PlayerSide) (sets : List (List Game)) : Nat :=
  sets.countP fun games => decide (SetWon side games)

/-- The match ends when a side has won the required sets. -/
def MatchOver (required : Nat) (sets : List (List Game)) : Prop :=
  required ≤ setsWon .home sets ∨ required ≤ setsWon .away sets

instance (required : Nat) (sets : List (List Game)) : Decidable (MatchOver required sets) :=
  inferInstanceAs (Decidable (_ ∨ _))

def matchWinner (required : Nat) (sets : List (List Game)) : Option PlayerSide :=
  if required ≤ setsWon .home sets then some .home
  else if required ≤ setsWon .away sets then some .away
  else none

def SetFits (required : Nat) (sets : List (List Game)) (games : List Game) : Prop :=
  ¬MatchOver required sets ∧ SetComplete games

structure MatchRecord where
  sets : List (List Game)
  games : List Game
  points : Game
  deriving DecidableEq

namespace MatchRecord

variable (required : Nat) (self : MatchRecord)

/-- Every point the record accounts for, in order. -/
def played : List PlayerSide :=
  self.sets.flatten.flatten ++ (self.games.flatten ++ self.points)

/-- The record is cut by the rules. -/
def Follows : Prop :=
  Chained (SetFits required) [] self.sets ∧
    if MatchOver required self.sets then self.games = [] ∧ self.points = []
    else SetRunning self.games self.points

/-- The record the rules make of these winners: it accounts for all of them, or
the match is over and accounts for those before its end. -/
def Declares (winners : List PlayerSide) : Prop :=
  self.Follows required ∧
    ∃ after, winners = self.played ++ after ∧ (after ≠ [] → MatchOver required self.sets)

/-! ## The score of a record -/

/-- What the umpire calls for a player with `own` points against `other`. -/
def call (own other : Nat) : ScoreValue :=
  if 4 ≤ own ∧ own = other + 1 then .advantage
  else match own with
  | 0 => .love
  | 1 => .fifteen
  | 2 => .thirty
  | _ => .forty

def setScore (games : List Game) : SetScore :=
  { gamesHome := gamesWon .home games
    gamesAway := gamesWon .away games
    tiebreakPointsHome := (tiebreakOf games).map (List.count .home)
    tiebreakPointsAway := (tiebreakOf games).map (List.count .away) }

/-- The players serve alternate games, tiebreaks included. -/
def serverOfGame (first : PlayerSide) (number : Nat) : PlayerSide :=
  if number % 2 = 0 then first else opposite first

/-- In a tiebreak the service changes after the first point and then after every two. -/
def serverOfPoint (first : PlayerSide) (number : Nat) : PlayerSide :=
  if (number + 1) / 2 % 2 = 0 then first else opposite first

/-- Who serves the current game. -/
def gameServer (first : PlayerSide) : PlayerSide :=
  serverOfGame first (self.sets.flatten.length + self.games.length)

/-- The score the rules give a record of a match the player `first` served first. -/
def score (first : PlayerSide) : Score :=
  let winner := matchWinner required self.sets
  let tied := Tied self.games
  { status := if winner.isSome then .ended else .live
    terminationKind := if winner.isSome then .natural else .none
    winner := winner
    retiredSide := none
    completedSets := self.sets.map setScore
    gamesHome := gamesWon .home self.games
    gamesAway := gamesWon .away self.games
    pointsHome := if tied then .love else call (self.points.count .home) (self.points.count .away)
    pointsAway := if tied then .love else call (self.points.count .away) (self.points.count .home)
    inTiebreak := tied
    tiebreakPointsHome := if tied then self.points.count .home else 0
    tiebreakPointsAway := if tied then self.points.count .away else 0
    tiebreakFirstServer := if tied then some (self.gameServer first) else none
    serverForNextPoint :=
      if winner.isSome then none
      else if tied then some (serverOfPoint (self.gameServer first) self.points.length)
      else some (self.gameServer first) }

end MatchRecord

/-! ## One history, one record -/

/-- Two cuts of one history into the games of a set agree. -/
theorem games_unique {xs ys : List Game} {r t : List PlayerSide}
    (fitsX : Chained GameFits [] xs) (fitsY : Chained GameFits [] ys)
    (restX : SetOver xs ∨ Running (Decided (target xs)) r)
    (restY : SetOver ys ∨ Running (Decided (target ys)) t)
    (same : xs.flatten ++ r = ys.flatten ++ t) : xs = ys ∧ r = t := by
  refine chained_unique id
    (fun games r => SetOver games ∨ Running (Decided (target games)) r)
    (fun fitsI fitsJ same => fitsI.2.unique fitsJ.2 same) ?_ fitsX fitsY restX restY
    (by simpa [List.flatMap_id] using same)
  rintro before i r fits (ended | running)
  · exact fits.1 ended
  · exact fits.2.not_running running

/-- What may follow the sets of a match: anything once it is over, else the
points of one more set being played. -/
def AfterSets (required : Nat) (sets : List (List Game)) (rest : List PlayerSide) : Prop :=
  MatchOver required sets ∨ ∃ games points, SetRunning games points ∧ rest = games.flatten ++ points

theorem sets_unique {required : Nat} {xs ys : List (List Game)} {r t : List PlayerSide}
    (fitsX : Chained (SetFits required) [] xs) (fitsY : Chained (SetFits required) [] ys)
    (restX : AfterSets required xs r) (restY : AfterSets required ys t)
    (same : xs.flatten.flatten ++ r = ys.flatten.flatten ++ t) : xs = ys ∧ r = t := by
  refine chained_unique List.flatten (AfterSets required) ?_ ?_ fitsX fitsY
    restX restY (by simpa [List.flatten_flatten, List.flatMap_def] using same)
  · intro before i j r t fitsI fitsJ same
    exact (games_unique fitsI.2.1 fitsJ.2.1 (.inl fitsI.2.2) (.inl fitsJ.2.2) same).1
  · rintro before i r fits (ended | ⟨games, points, running, same⟩)
    · exact fits.1 ended
    · obtain ⟨rfl, -⟩ := games_unique fits.2.1 running.1 (.inl fits.2.2) (.inr running.2.2) same
      exact running.2.1 fits.2.2

theorem declares_unique {required : Nat} {a b : MatchRecord} {winners : List PlayerSide}
    (declaresA : a.Declares required winners) (declaresB : b.Declares required winners) :
    a = b := by
  obtain ⟨⟨fitsA, runningA⟩, afterA, sameA, endA⟩ := declaresA
  obtain ⟨⟨fitsB, runningB⟩, afterB, sameB, endB⟩ := declaresB
  obtain ⟨setsA, gamesA, pointsA⟩ := a
  obtain ⟨setsB, gamesB, pointsB⟩ := b
  have rest : ∀ {sets : List (List Game)} {games : List Game} {points : Game}
      {after : List PlayerSide}, (after ≠ [] → MatchOver required sets) →
      (if MatchOver required sets then games = [] ∧ points = [] else SetRunning games points) →
      AfterSets required sets (games.flatten ++ (points ++ after)) := by
    intro sets games points after ends running
    by_cases ended : MatchOver required sets
    · exact .inl ended
    · rw [if_neg ended] at running
      have nothing : after = [] := by
        by_contra some
        exact ended (ends some)
      exact .inr ⟨games, points, running, by simp [nothing]⟩
  simp only [MatchRecord.played, List.append_assoc] at sameA sameB
  obtain ⟨rfl, same⟩ := sets_unique fitsA fitsB (rest endA runningA) (rest endB runningB)
    (sameA.symm.trans sameB)
  simp only at runningA runningB endA endB
  split at runningA
  · rename_i ended
    rw [if_pos ended] at runningB
    rw [runningA.1, runningA.2, runningB.1, runningB.2]
  · rename_i going
    rw [if_neg going] at runningB
    have noneA : afterA = [] := by
      by_contra some
      exact going (endA some)
    have noneB : afterB = [] := by
      by_contra some
      exact going (endB some)
    subst noneA noneB
    obtain ⟨rfl, rfl⟩ := games_unique runningA.1 runningB.1 (.inr runningA.2.2)
      (.inr runningB.2.2) (by simpa using same)
    rfl

end Inci.Tennis
