/-
# Espn.Coherence -- the score model over exact rationals

The boundary cases of a game, a set and a match meet what `Theory.Race` asks of the ends of a
race, so each level is coherent, and so is the match put together from them
(`model_coherent`): a probability that rises with the point probability and with the score,
whose values for the two players add up to one.  The exception is a pair of set counts that
have both reached the winning number, where the model answers for whoever is asked first.
-/
import Inci.Espn.WinProb
import Mathlib.Tactic.FieldSimp
import Mathlib.Tactic.Positivity

namespace Inci.Espn

open Inci.Theory

set_option autoImplicit false

variable {p p' : ℚ} {depth : ℕ}

/-! ## A game -/

theorem deuce_eq (p : ℚ) : deuce p = p * p / (p * p + (1 - p) * (1 - p)) := by
  have positive : 0 < p * p + (1 - p) * (1 - p) := by nlinarith [sq_nonneg (2 * p - 1)]
  have nonzero : (p * p + (1 - p) * (1 - p) != 0) = true := by simpa using positive.ne'
  unfold deuce
  rw [if_pos nonzero]

theorem deuce_mono (low : 0 ≤ p) (more : p ≤ p') (high : p' ≤ 1) : deuce p ≤ deuce p' := by
  have positive : 0 < p * p + (1 - p) * (1 - p) := by nlinarith [sq_nonneg (2 * p - 1)]
  have positive' : 0 < p' * p' + (1 - p') * (1 - p') := by nlinarith [sq_nonneg (2 * p' - 1)]
  rw [deuce_eq, deuce_eq, div_le_div_iff₀ positive positive']
  have odds : p * (1 - p') ≤ p' * (1 - p) := by linarith
  have least : 0 ≤ p * (1 - p') := mul_nonneg low (by linarith)
  have squares := mul_self_le_mul_self least odds
  nlinarith [squares]

theorem deuce_complement (p : ℚ) : deuce (1 - p) = 1 - deuce p := by
  have positive : 0 < p * p + (1 - p) * (1 - p) := by nlinarith [sq_nonneg (2 * p - 1)]
  have same : (1 - p) * (1 - p) + (1 - (1 - p)) * (1 - (1 - p)) =
      p * p + (1 - p) * (1 - p) := by ring
  rw [deuce_eq, deuce_eq, same, eq_sub_iff_add_eq, ← add_div, div_eq_one_iff_eq positive.ne']
  ring

theorem deuce_zero : deuce (0 : ℚ) = 0 := by
  rw [deuce_eq]
  norm_num

theorem deuce_bounds (low : 0 ≤ p) (high : p ≤ 1) : 0 ≤ deuce p ∧ deuce p ≤ 1 := by
  have first := deuce_mono (le_refl 0) low high
  have last := deuce_mono low high (le_refl 1)
  have top : deuce (1 : ℚ) = 1 := by
    have flipped := deuce_complement 0
    rw [deuce_zero, sub_zero] at flipped
    exact flipped
  rw [deuce_zero] at first
  rw [top] at last
  exact ⟨first, last⟩

theorem gameStop_none {a b : ℤ} : gameStop p a b = none ↔ a ≤ 3 ∧ b ≤ 3 ∧ ¬(a = 3 ∧ b = 3) := by
  unfold gameStop
  constructor
  · intro running
    split_ifs at running <;> omega
  · intro running
    rw [if_neg (by omega), if_neg (by omega), if_neg (by omega)]

theorem gameStop_valued (low : 0 ≤ p) (high : p ≤ 1) : Valued (gameStop p) := by
  intro a b v stopped
  obtain ⟨least, most⟩ := deuce_bounds low high
  unfold gameStop at stopped
  split_ifs at stopped <;> obtain rfl := Option.some.inj stopped
  · norm_num
  · norm_num
  · exact ⟨least, most⟩
  · constructor <;> nlinarith
  · constructor <;> nlinarith

theorem gameStop_decisive : Decisive (gameStop p) := by
  intro a b running
  have inside := gameStop_none.mp running
  constructor
  · intro v stopped
    by_cases taken : a = 3
    · left
      unfold gameStop at stopped
      rw [if_pos (by omega)] at stopped
      exact (Option.some.inj stopped).symm
    · right
      have level : ¬(a + 1 ≤ 3 ∧ b ≤ 3 ∧ ¬(a + 1 = 3 ∧ b = 3)) := fun next =>
        nomatch stopped.symm.trans (gameStop_none.mpr next)
      unfold gameStop
      rw [if_neg (by omega), if_pos (by omega)]
  · intro v stopped
    by_cases taken : b = 3
    · left
      unfold gameStop at stopped
      rw [if_neg (by omega), if_pos (by omega)] at stopped
      exact (Option.some.inj stopped).symm
    · right
      have level : ¬(a ≤ 3 ∧ b + 1 ≤ 3 ∧ ¬(a = 3 ∧ b + 1 = 3)) := fun next =>
        nomatch stopped.symm.trans (gameStop_none.mpr next)
      unfold gameStop
      rw [if_pos (by omega)]

theorem gameStop_worth (low : 0 ≤ p) (more : p ≤ p') (high : p' ≤ 1) (a b : ℤ) (v v' : ℚ)
    (stopped : gameStop p a b = some v) (stopped' : gameStop p' a b = some v') : v ≤ v' := by
  have ends := deuce_mono low more high
  have bounds := deuce_bounds (low.trans more) high
  unfold gameStop at stopped stopped'
  split_ifs at stopped stopped' <;> obtain rfl := Option.some.inj stopped <;>
    obtain rfl := Option.some.inj stopped'
  · exact le_refl _
  · exact le_refl _
  · exact ends
  · simpa using mix_le_mix low more high (le_refl 1) ends bounds.2
  · have least := deuce_bounds low (more.trans high)
    simpa using mul_le_mul more ends least.1 (low.trans more)

theorem gameStop_opposed (a b : ℤ) : gameStop (1 - p) b a = (gameStop p a b).map (1 - ·) := by
  unfold gameStop
  rw [deuce_complement]
  split_ifs
  all_goals first
    | omega
    | rfl
    | (rw [Option.map_some, Option.some_inj]; ring)

/-- A game's chance, and how it moves with the point probability. -/
theorem gameWinProb_bounds {g : ℚ} (low : 0 ≤ p) (high : p ≤ 1)
    (game : gameWinProb depth p = some g) : 0 ≤ g ∧ g ≤ 1 :=
  race_valued (gameStop_valued low high) low high game

theorem gameWinProb_mono {g g' : ℚ} (low : 0 ≤ p) (more : p ≤ p') (high : p' ≤ 1)
    (game : gameWinProb depth p = some g) (game' : gameWinProb depth p' = some g') : g ≤ g' := by
  refine race_mono (fun a b => ?_) (gameStop_worth low more high)
    (gameStop_valued (low.trans more) high) gameStop_decisive low more high game game'
  rw [gameStop_none, gameStop_none]

theorem gameWinProb_complement {g : ℚ} (game : gameWinProb depth p = some g) :
    gameWinProb depth (1 - p) = some (1 - g) :=
  race_complement (R := fun _ _ => True) (fun _ _ _ _ => ⟨trivial, trivial⟩)
    (fun a b _ => gameStop_opposed a b) trivial game

/-! ## A set -/

theorem setStop_none {a b : ℤ} : setStop p a b = none ↔
    ¬(6 ≤ a ∧ 2 ≤ a - b) ∧ ¬(6 ≤ b ∧ 2 ≤ b - a) ∧ ¬(a = 7 ∧ b = 6) ∧ ¬(b = 7 ∧ a = 6) ∧
      ¬(a = 6 ∧ b = 6) := by
  unfold setStop
  constructor
  · intro running
    split_ifs at running with won lost close close' tied
    exact ⟨won, lost, close, close', tied⟩
  · rintro ⟨won, lost, close, close', tied⟩
    rw [if_neg won, if_neg lost, if_neg close, if_neg close', if_neg tied]

theorem setStop_valued (low : 0 ≤ p) (high : p ≤ 1) : Valued (setStop p) := by
  intro a b v stopped
  unfold setStop at stopped
  split_ifs at stopped <;> obtain rfl := Option.some.inj stopped
  · norm_num
  · norm_num
  · norm_num
  · norm_num
  · exact ⟨low, high⟩

/-- What an end of a set is worth. -/
theorem setStop_cases {a b : ℤ} {v : ℚ} (stopped : setStop p a b = some v) :
    (((6 ≤ a ∧ 2 ≤ a - b) ∨ (a = 7 ∧ b = 6)) ∧ v = 1) ∨
      (((6 ≤ b ∧ 2 ≤ b - a) ∨ (b = 7 ∧ a = 6)) ∧ v = 0) ∨ ((a = 6 ∧ b = 6) ∧ v = p) := by
  unfold setStop at stopped
  split_ifs at stopped with won lost close close' tied <;> obtain rfl := Option.some.inj stopped
  · exact Or.inl ⟨Or.inl won, rfl⟩
  · exact Or.inr (Or.inl ⟨Or.inl lost, rfl⟩)
  · exact Or.inl ⟨Or.inr close, rfl⟩
  · exact Or.inr (Or.inl ⟨Or.inr close', rfl⟩)
  · exact Or.inr (Or.inr ⟨tied, rfl⟩)

theorem setStop_decisive : Decisive (setStop p) := by
  intro a b running
  have inside := setStop_none.mp running
  constructor
  · intro v stopped
    rcases setStop_cases stopped with ⟨-, rfl⟩ | ⟨lost, rfl⟩ | ⟨tied, rfl⟩
    · exact Or.inl rfl
    · omega
    · right
      unfold setStop
      rw [if_neg (by omega), if_pos (by omega)]
  · intro v stopped
    rcases setStop_cases stopped with ⟨won, rfl⟩ | ⟨-, rfl⟩ | ⟨tied, rfl⟩
    · omega
    · exact Or.inl rfl
    · right
      unfold setStop
      rw [if_pos (by omega)]

theorem setStop_rising (high : p ≤ 1) : Rising (setStop p) := by
  intro a b v stopped
  have taken : 6 ≤ a + 1 ∧ 2 ≤ a + 1 - b → setStop p (a + 1) b = some 1 := by
    intro won
    unfold setStop
    rw [if_pos won]
  rcases setStop_cases stopped with ⟨won, rfl⟩ | ⟨-, rfl⟩ | ⟨tied, rfl⟩
  · exact Or.inr ⟨1, taken (by omega), le_refl 1⟩
  · exact Or.inl rfl
  · right
    refine ⟨1, ?_, high⟩
    unfold setStop
    rw [if_neg (by omega), if_neg (by omega), if_pos (by omega)]

theorem setStop_worth (more : p ≤ p') (a b : ℤ) (v v' : ℚ) (stopped : setStop p a b = some v)
    (stopped' : setStop p' a b = some v') : v ≤ v' := by
  unfold setStop at stopped stopped'
  split_ifs at stopped stopped' <;> obtain rfl := Option.some.inj stopped <;>
    obtain rfl := Option.some.inj stopped'
  · exact le_refl _
  · exact le_refl _
  · exact le_refl _
  · exact le_refl _
  · exact more

theorem setStop_opposed (a b : ℤ) : setStop (1 - p) b a = (setStop p a b).map (1 - ·) := by
  unfold setStop
  split_ifs
  all_goals first
    | omega
    | rfl
    | (rw [Option.map_some, Option.some_inj]; ring)

section Sets

variable {gamesFor gamesAgainst : ℤ} {s s' : ℚ}

theorem setWinProb_bounds (low : 0 ≤ p) (high : p ≤ 1)
    (won : setWinProb depth gamesFor gamesAgainst p = some s) : 0 ≤ s ∧ s ≤ 1 :=
  race_valued (setStop_valued low high) low high won

theorem setWinProb_mono (low : 0 ≤ p) (more : p ≤ p') (high : p' ≤ 1)
    (won : setWinProb depth gamesFor gamesAgainst p = some s)
    (won' : setWinProb depth gamesFor gamesAgainst p' = some s') : s ≤ s' := by
  refine race_mono (fun a b => ?_) (setStop_worth more) (setStop_valued (low.trans more) high)
    setStop_decisive low more high won won'
  rw [setStop_none, setStop_none]

/-- A game more is worth no less; past seven it changes nothing. -/
theorem setWinProb_game (low : 0 ≤ p) (high : p ≤ 1)
    (won : setWinProb depth gamesFor gamesAgainst p = some s)
    (won' : setWinProb depth (gamesFor + 1) gamesAgainst p = some s') : s ≤ s' := by
  have clamped : clampGames (gamesFor + 1) = clampGames gamesFor ∨
      clampGames (gamesFor + 1) = clampGames gamesFor + 1 := by
    unfold clampGames
    omega
  unfold setWinProb at won won'
  rcases clamped with same | next
  · rw [same] at won'
    exact le_of_eq (race_unique won won')
  · rw [next] at won'
    exact race_step_le (setStop_valued low high) setStop_decisive (setStop_rising high) low high
      won won'

theorem setWinProb_complement (won : setWinProb depth gamesFor gamesAgainst p = some s) :
    setWinProb depth gamesAgainst gamesFor (1 - p) = some (1 - s) :=
  race_complement (R := fun _ _ => True) (fun _ _ _ _ => ⟨trivial, trivial⟩)
    (fun a b _ => setStop_opposed a b) trivial won

end Sets

/-! ## Sets to the match -/

section Match

variable {setsNeeded setsFor setsAgainst : ℤ} {w w' : ℚ}

theorem matchStop_none {a b : ℤ} :
    (matchStop setsNeeded a b : Option ℚ) = none ↔ a < setsNeeded ∧ b < setsNeeded := by
  unfold matchStop
  split_ifs with won lost
  · simp only [false_iff]
    omega
  · simp only [false_iff]
    omega
  · simp only [true_iff]
    omega

theorem matchStop_cases {a b : ℤ} {v : ℚ} (stopped : matchStop setsNeeded a b = some v) :
    (setsNeeded ≤ a ∧ v = 1) ∨ (a < setsNeeded ∧ setsNeeded ≤ b ∧ v = 0) := by
  unfold matchStop at stopped
  split_ifs at stopped with won lost <;> obtain rfl := Option.some.inj stopped
  · exact Or.inl ⟨won, rfl⟩
  · exact Or.inr ⟨not_le.mp won, lost, rfl⟩

theorem matchStop_valued : Valued (matchStop setsNeeded : ℤ → ℤ → Option ℚ) := by
  intro a b v stopped
  rcases matchStop_cases stopped with ⟨-, rfl⟩ | ⟨-, -, rfl⟩ <;> norm_num

theorem matchStop_decisive : Decisive (matchStop setsNeeded : ℤ → ℤ → Option ℚ) := by
  intro a b running
  have inside := matchStop_none.mp running
  constructor
  · intro v stopped
    rcases matchStop_cases stopped with ⟨-, rfl⟩ | ⟨-, lost, -⟩
    · exact Or.inl rfl
    · omega
  · intro v stopped
    rcases matchStop_cases stopped with ⟨won, -⟩ | ⟨-, -, rfl⟩
    · omega
    · exact Or.inl rfl

theorem matchStop_rising : Rising (matchStop setsNeeded : ℤ → ℤ → Option ℚ) := by
  intro a b v stopped
  rcases matchStop_cases stopped with ⟨won, rfl⟩ | ⟨-, -, rfl⟩
  · refine Or.inr ⟨1, ?_, le_refl 1⟩
    unfold matchStop
    rw [if_pos (by omega)]
  · exact Or.inl rfl

theorem matchWinFromSets_bounds (low : 0 ≤ p) (high : p ≤ 1)
    (won : matchWinFromSets depth setsFor setsAgainst p setsNeeded = some w) : 0 ≤ w ∧ w ≤ 1 :=
  race_valued matchStop_valued low high won

theorem matchWinFromSets_mono (low : 0 ≤ p) (more : p ≤ p') (high : p' ≤ 1)
    (won : matchWinFromSets depth setsFor setsAgainst p setsNeeded = some w)
    (won' : matchWinFromSets depth setsFor setsAgainst p' setsNeeded = some w') : w ≤ w' := by
  refine race_mono (fun _ _ => Iff.rfl) (fun a b v v' one two => ?_) matchStop_valued
    matchStop_decisive low more high won won'
  exact le_of_eq (Option.some.inj (one.symm.trans two))

theorem matchWinFromSets_set (low : 0 ≤ p) (high : p ≤ 1)
    (won : matchWinFromSets depth setsFor setsAgainst p setsNeeded = some w)
    (won' : matchWinFromSets depth (setsFor + 1) setsAgainst p setsNeeded = some w') : w ≤ w' :=
  race_step_le matchStop_valued matchStop_decisive matchStop_rising low high won won'

/-- In a running match the set in play is worth winning. -/
theorem matchWinFromSets_advantage (low : 0 ≤ p) (high : p ≤ 1)
    (running : setsFor < setsNeeded ∧ setsAgainst < setsNeeded)
    (take : matchWinFromSets depth (setsFor + 1) setsAgainst p setsNeeded = some w)
    (lose : matchWinFromSets depth setsFor (setsAgainst + 1) p setsNeeded = some w') : w' ≤ w :=
  advantage matchStop_valued matchStop_decisive low high (matchStop_none.mpr running) take lose

theorem matchWinFromSets_complement (undecided : ¬(setsNeeded ≤ setsFor ∧ setsNeeded ≤ setsAgainst))
    (won : matchWinFromSets depth setsFor setsAgainst p setsNeeded = some w) :
    matchWinFromSets depth setsAgainst setsFor (1 - p) setsNeeded = some (1 - w) := by
  refine race_complement (R := fun a b => ¬(setsNeeded ≤ a ∧ setsNeeded ≤ b)) ?_ ?_ undecided won
  · intro a b _ running
    have inside := matchStop_none.mp running
    omega
  · intro a b apart
    unfold matchStop
    split_ifs with won lost
    · exact absurd ⟨lost, won⟩ apart
    · norm_num
    · norm_num
    · rfl

end Match

/-! ## The match -/

/-- The model's answer for a score, at whatever depth. -/
def Chance (bestOf : ℤ) (p : ℚ) (score : Score) (v : ℚ) : Prop :=
  ∃ depth, matchWinProbability depth score bestOf p = .ok v

/-- Not both players have won the match, and the set is not at seven games all. -/
structure Undecided (bestOf : ℤ) (score : Score) : Prop where
  sets : ¬(bestOf / 2 + 1 ≤ score.setsFor ∧ bestOf / 2 + 1 ≤ score.setsAgainst)
  games : ¬(7 ≤ score.gamesFor ∧ 7 ≤ score.gamesAgainst)

theorem Undecided.mirror {bestOf : ℤ} {score : Score} (undecided : Undecided bestOf score) :
    Undecided bestOf score.mirror :=
  ⟨fun both => undecided.sets both.symm, fun both => undecided.games both.symm⟩

/-- The chances a match is put together from. -/
def Parts (depth : ℕ) (score : Score) (setsNeeded : ℤ) (p now take lose : ℚ) : Prop :=
  ∃ pGame fresh, gameWinProb depth p = some pGame ∧
    setWinProb depth score.gamesFor score.gamesAgainst pGame = some now ∧
    setWinProb depth 0 0 pGame = some fresh ∧
    matchWinFromSets depth (score.setsFor + 1) score.setsAgainst fresh setsNeeded = some take ∧
    matchWinFromSets depth score.setsFor (score.setsAgainst + 1) fresh setsNeeded = some lose

theorem parts_iff {score : Score} {setsNeeded : ℤ} {now take lose : ℚ} :
    matchChances depth score setsNeeded p = some (now, take, lose) ↔
      Parts depth score setsNeeded p now take lose := by
  constructor
  · intro found
    simp only [matchChances, Option.bind_eq_bind, Option.bind_eq_some_iff, Option.pure_def,
      Option.some.injEq, Prod.mk.injEq] at found
    obtain ⟨pGame, game, now, current, fresh, later, take, won, lose, lost, rfl, rfl, rfl⟩ := found
    exact ⟨pGame, fresh, game, current, later, won, lost⟩
  · rintro ⟨pGame, fresh, game, current, later, won, lost⟩
    simp only [matchChances, game, current, later, won, lost, Option.bind_eq_bind,
      Option.bind_some, Option.pure_def]

/-- A match more deeply searched is put together from the same chances. -/
theorem Parts.deeper {deep : ℕ} {score : Score} {setsNeeded : ℤ} {now take lose : ℚ}
    (parts : Parts depth score setsNeeded p now take lose) (deeper : depth ≤ deep) :
    Parts deep score setsNeeded p now take lose := by
  obtain ⟨pGame, fresh, game, current, later, won, lost⟩ := parts
  exact ⟨pGame, fresh, race_deeper deeper game, race_deeper deeper current,
    race_deeper deeper later, race_deeper deeper won, race_deeper deeper lost⟩

section Chances

variable {bestOf : ℤ} {score score' : Score} {v v' : ℚ}

/-- Decided for one side, or for the other, or put together from the set in play. -/
theorem chance_cases (format : bestOf = 3 ∨ bestOf = 5) : Chance bestOf p score v ↔
    (bestOf / 2 + 1 ≤ score.setsFor ∧ v = 1) ∨
    (score.setsFor < bestOf / 2 + 1 ∧ bestOf / 2 + 1 ≤ score.setsAgainst ∧ v = 0) ∨
    ((score.setsFor < bestOf / 2 + 1 ∧ score.setsAgainst < bestOf / 2 + 1) ∧
      ∃ depth now take lose, Parts depth score (bestOf / 2 + 1) p now take lose ∧
        v = now * take + (1 - now) * lose) := by
  have known : ¬(bestOf ≠ 3 ∧ bestOf ≠ 5) := by omega
  unfold Chance
  by_cases won : bestOf / 2 + 1 ≤ score.setsFor
  · have decided : ∀ depth, matchWinProbability depth score bestOf p = .ok 1 := fun depth => by
      rw [matchWinProbability, if_neg known, if_pos won]
    simp only [decided, Except.ok.injEq, exists_const, won, true_and, not_lt.mpr won, false_and,
      or_false]
    exact eq_comm
  by_cases lost : bestOf / 2 + 1 ≤ score.setsAgainst
  · have decided : ∀ depth, matchWinProbability depth score bestOf p = .ok 0 := fun depth => by
      rw [matchWinProbability, if_neg known, if_neg won, if_pos lost]
    simp only [decided, Except.ok.injEq, exists_const, won, false_and, not_le.mp won, lost,
      true_and, not_lt.mpr lost, and_false, or_false, false_or]
    exact eq_comm
  have running := And.intro (not_le.mp won) (not_le.mp lost)
  simp only [won, lost, running, false_and, and_false, true_and, false_or, and_self]
  constructor
  · rintro ⟨depth, answer⟩
    rw [matchWinProbability_open format running] at answer
    cases found : matchChances depth score (bestOf / 2 + 1) p with
    | none =>
        rw [found] at answer
        exact nomatch answer
    | some chances =>
        obtain ⟨now, take, lose⟩ := chances
        rw [found] at answer
        exact ⟨depth, now, take, lose, parts_iff.mp found, (Except.ok.inj answer).symm⟩
  · rintro ⟨depth, now, take, lose, parts, rfl⟩
    refine ⟨depth, ?_⟩
    rw [matchWinProbability_open format running, parts_iff.mpr parts]

theorem chance_found (format : bestOf = 3 ∨ bestOf = 5)
    (unlevel : ¬(7 ≤ score.gamesFor ∧ 7 ≤ score.gamesAgainst)) :
    ∃ v, Chance bestOf p score v := by
  by_cases won : bestOf / 2 + 1 ≤ score.setsFor
  · exact ⟨1, (chance_cases format).mpr (Or.inl ⟨won, rfl⟩)⟩
  by_cases lost : bestOf / 2 + 1 ≤ score.setsAgainst
  · exact ⟨0, (chance_cases format).mpr (Or.inr (Or.inl ⟨not_le.mp won, lost, rfl⟩))⟩
  have running := And.intro (not_le.mp won) (not_le.mp lost)
  obtain ⟨depth, ends⟩ := (terminates_iff (p := p) format running).mpr unlevel
  cases answer : matchWinProbability depth score bestOf p with
  | ok v => exact ⟨v, depth, answer⟩
  | error e =>
      rw [matchWinProbability_open format running] at answer ends
      cases found : matchChances depth score (bestOf / 2 + 1) p with
      | none =>
          rw [found] at ends
          exact absurd rfl ends
      | some chances =>
          rw [found] at answer
          exact nomatch answer

theorem chance_exists (format : bestOf = 3 ∨ bestOf = 5) (undecided : Undecided bestOf score) :
    ∃ v, Chance bestOf p score v :=
  chance_found format undecided.games

/-- Two answers for running matches come from the parts of one depth. -/
theorem parts_together {deep : ℕ} {setsNeeded : ℤ} {now take lose now' take' lose' : ℚ}
    (parts : Parts depth score setsNeeded p now take lose)
    (parts' : Parts deep score' setsNeeded p' now' take' lose') :
    ∃ depth, Parts depth score setsNeeded p now take lose ∧
      Parts depth score' setsNeeded p' now' take' lose' :=
  ⟨max depth deep, parts.deeper (Nat.le_max_left depth deep),
    parts'.deeper (Nat.le_max_right depth deep)⟩

theorem Parts.bounds {setsNeeded : ℤ} {now take lose : ℚ} (low : 0 ≤ p) (high : p ≤ 1)
    (running : score.setsFor < setsNeeded ∧ score.setsAgainst < setsNeeded)
    (parts : Parts depth score setsNeeded p now take lose) :
    (0 ≤ now ∧ now ≤ 1) ∧ 0 ≤ lose ∧ lose ≤ take ∧ take ≤ 1 := by
  obtain ⟨pGame, fresh, game, current, later, won, lost⟩ := parts
  obtain ⟨game_low, game_high⟩ := gameWinProb_bounds low high game
  obtain ⟨set_low, set_high⟩ := setWinProb_bounds game_low game_high later
  exact ⟨setWinProb_bounds game_low game_high current,
    (matchWinFromSets_bounds set_low set_high lost).1,
    matchWinFromSets_advantage set_low set_high running won lost,
    (matchWinFromSets_bounds set_low set_high won).2⟩

theorem chance_bounds (format : bestOf = 3 ∨ bestOf = 5) (low : 0 ≤ p) (high : p ≤ 1)
    (chance : Chance bestOf p score v) : 0 ≤ v ∧ v ≤ 1 := by
  rcases (chance_cases format).mp chance with ⟨-, rfl⟩ | ⟨-, -, rfl⟩ |
    ⟨running, depth, now, take, lose, parts, rfl⟩
  · norm_num
  · norm_num
  · obtain ⟨⟨now_low, now_high⟩, least, order, most⟩ := parts.bounds low high running
    exact ⟨least.trans (le_mix now_low order), (mix_le now_high order).trans most⟩

/-- The chance rises with the point probability. -/
theorem chance_mono (format : bestOf = 3 ∨ bestOf = 5) (low : 0 ≤ p) (more : p ≤ p')
    (high : p' ≤ 1) (chance : Chance bestOf p score v) (chance' : Chance bestOf p' score v') :
    v ≤ v' := by
  rcases (chance_cases format).mp chance with ⟨won, rfl⟩ | ⟨-, -, rfl⟩ |
    ⟨running, depth, now, take, lose, parts, rfl⟩
  · rcases (chance_cases format).mp chance' with ⟨-, rfl⟩ | ⟨open', -⟩ | ⟨⟨open', -⟩, -⟩
    · exact le_refl 1
    · omega
    · omega
  · exact (chance_bounds format (low.trans more) high chance').1
  · rcases (chance_cases format).mp chance' with ⟨won, -⟩ | ⟨-, lost, -⟩ |
      ⟨-, deep, now', take', lose', parts', rfl⟩
    · omega
    · omega
    · obtain ⟨depth, parts, parts'⟩ := parts_together parts parts'
      obtain ⟨⟨now_low, -⟩, -⟩ := parts.bounds low (more.trans high) running
      obtain ⟨⟨-, now_high⟩, -, order, -⟩ := parts'.bounds (low.trans more) high running
      obtain ⟨g, fresh, game, current, later, won, lost⟩ := parts
      obtain ⟨g', fresh', game', current', later', won', lost'⟩ := parts'
      have games := gameWinProb_mono low more high game game'
      obtain ⟨game_low, -⟩ := gameWinProb_bounds low (more.trans high) game
      obtain ⟨-, game_high⟩ := gameWinProb_bounds (low.trans more) high game'
      have sets := setWinProb_mono game_low games game_high later later'
      obtain ⟨set_low, -⟩ := setWinProb_bounds game_low (games.trans game_high) later
      obtain ⟨-, set_high⟩ := setWinProb_bounds (game_low.trans games) game_high later'
      exact mix_le_mix now_low (setWinProb_mono game_low games game_high current current')
        now_high (matchWinFromSets_mono set_low sets set_high won won')
        (matchWinFromSets_mono set_low sets set_high lost lost') order

theorem chance_unique (format : bestOf = 3 ∨ bestOf = 5) (low : 0 ≤ p) (high : p ≤ 1)
    (chance : Chance bestOf p score v) (chance' : Chance bestOf p score v') : v = v' :=
  le_antisymm (chance_mono format low (le_refl p) high chance chance')
    (chance_mono format low (le_refl p) high chance' chance)

/-- The two players' chances add up to one. -/
theorem chance_complement (format : bestOf = 3 ∨ bestOf = 5) (undecided : Undecided bestOf score)
    (chance : Chance bestOf p score v) : Chance bestOf (1 - p) score.mirror (1 - v) := by
  rcases (chance_cases format).mp chance with ⟨won, rfl⟩ | ⟨still, lost, rfl⟩ |
    ⟨running, depth, now, take, lose, parts, rfl⟩
  · have behind : score.setsAgainst < bestOf / 2 + 1 :=
      not_le.mp fun both => undecided.sets ⟨won, both⟩
    exact (chance_cases format).mpr (Or.inr (Or.inl ⟨behind, won, by norm_num⟩))
  · exact (chance_cases format).mpr (Or.inl ⟨lost, by norm_num⟩)
  · obtain ⟨g, fresh, game, current, later, won, lost⟩ := parts
    have won' := matchWinFromSets_complement (by omega) won
    have lost' := matchWinFromSets_complement (by omega) lost
    exact (chance_cases format).mpr (Or.inr (Or.inr ⟨running.symm, depth, 1 - now, 1 - lose,
      1 - take, ⟨1 - g, 1 - fresh, gameWinProb_complement game, setWinProb_complement current,
        setWinProb_complement later, lost', won'⟩, by ring⟩))

/-! ## Scores -/

/-- A set more is worth no less. -/
theorem chance_set {sf sa gf ga : ℤ} (format : bestOf = 3 ∨ bestOf = 5) (low : 0 ≤ p)
    (high : p ≤ 1) (chance : Chance bestOf p ⟨sf, sa, gf, ga⟩ v)
    (chance' : Chance bestOf p ⟨sf + 1, sa, gf, ga⟩ v') : v ≤ v' := by
  have bounds' := chance_bounds format low high chance'
  rcases (chance_cases format).mp chance with ⟨won, rfl⟩ | ⟨-, -, rfl⟩ |
    ⟨⟨ahead, behind⟩, depth, now, take, lose, parts, rfl⟩
  · rcases (chance_cases format).mp chance' with ⟨-, rfl⟩ | ⟨open', -⟩ | ⟨⟨open', -⟩, -⟩
    · exact le_refl 1
    · dsimp only at won open'
      omega
    · dsimp only at won open'
      omega
  · exact bounds'.1
  · dsimp only at ahead behind
    rcases (chance_cases format).mp chance' with ⟨-, rfl⟩ | ⟨-, lost, -⟩ |
      ⟨running', deep, now', take', lose', parts', rfl⟩
    · exact (chance_bounds format low high chance).2
    · dsimp only at lost
      omega
    · obtain ⟨depth, parts, parts'⟩ := parts_together parts parts'
      obtain ⟨⟨now_low, now_high⟩, -, order, -⟩ := parts'.bounds low high running'
      obtain ⟨g, fresh, game, current, later, won, lost⟩ := parts
      obtain ⟨g', fresh', game', current', later', won', lost'⟩ := parts'
      obtain rfl := race_unique game game'
      obtain rfl := race_unique later later'
      obtain rfl : now = now' := race_unique current current'
      obtain ⟨game_low, game_high⟩ := gameWinProb_bounds low high game
      obtain ⟨set_low, set_high⟩ := setWinProb_bounds game_low game_high later
      exact mix_le_mix now_low (le_refl now) now_high (matchWinFromSets_set set_low set_high won won')
        (matchWinFromSets_set set_low set_high lost lost') order

/-- A game more is worth no less. -/
theorem chance_game {sf sa gf ga : ℤ} (format : bestOf = 3 ∨ bestOf = 5) (low : 0 ≤ p)
    (high : p ≤ 1) (chance : Chance bestOf p ⟨sf, sa, gf, ga⟩ v)
    (chance' : Chance bestOf p ⟨sf, sa, gf + 1, ga⟩ v') : v ≤ v' := by
  rcases (chance_cases format).mp chance with ⟨won, rfl⟩ | ⟨-, -, rfl⟩ |
    ⟨running, depth, now, take, lose, parts, rfl⟩
  · rcases (chance_cases format).mp chance' with ⟨-, rfl⟩ | ⟨open', -⟩ | ⟨⟨open', -⟩, -⟩
    · exact le_refl 1
    · exact absurd won (not_le.mpr open')
    · exact absurd won (not_le.mpr open')
  · exact (chance_bounds format low high chance').1
  · rcases (chance_cases format).mp chance' with ⟨won, -⟩ | ⟨-, lost, -⟩ |
      ⟨running', deep, now', take', lose', parts', rfl⟩
    · exact absurd running.1 (not_lt.mpr won)
    · exact absurd running.2 (not_lt.mpr lost)
    · obtain ⟨depth, parts, parts'⟩ := parts_together parts parts'
      obtain ⟨⟨now_low, -⟩, -⟩ := parts.bounds low high running
      obtain ⟨⟨-, now_high⟩, -, order, -⟩ := parts'.bounds low high running'
      obtain ⟨g, fresh, game, current, later, won, lost⟩ := parts
      obtain ⟨g', fresh', game', current', later', won', lost'⟩ := parts'
      obtain rfl := race_unique game game'
      obtain rfl := race_unique later later'
      obtain rfl := race_unique won won'
      obtain rfl := race_unique lost lost'
      obtain ⟨game_low, game_high⟩ := gameWinProb_bounds low high game
      exact mix_le_mix now_low (setWinProb_game game_low game_high current current') now_high
        (le_refl take) (le_refl lose) order

/-- More sets and games of one's own are worth no less. -/
theorem chance_own {sf sf' sa gf gf' ga : ℤ} (format : bestOf = 3 ∨ bestOf = 5) (low : 0 ≤ p)
    (high : p ≤ 1) (undecided : Undecided bestOf ⟨sf', sa, gf', ga⟩) (sets : sf ≤ sf')
    (games : gf ≤ gf') (chance : Chance bestOf p ⟨sf, sa, gf, ga⟩ v)
    (chance' : Chance bestOf p ⟨sf', sa, gf', ga⟩ v') : v ≤ v' := by
  obtain ⟨apart, unlevel⟩ := undecided
  dsimp only at apart unlevel
  have between : ∀ k l, k ≤ sf' → l ≤ gf' → Undecided bestOf ⟨k, sa, l, ga⟩ := by
    intro k l most most'
    constructor
    · dsimp only
      omega
    · dsimp only
      omega
  obtain ⟨u, middle⟩ := chance_exists (p := p) format (between sf' gf (le_refl sf') games)
  calc v ≤ u := rising_chain (R := fun k => Chance bestOf p ⟨k, sa, gf, ga⟩)
        (fun k _ most => chance_exists format (between k gf most games))
        (fun k v w _ _ one two => chance_set format low high one two)
        (fun k v w one two => le_of_eq (chance_unique format low high one two)) sets chance middle
    _ ≤ v' := rising_chain (R := fun k => Chance bestOf p ⟨sf', sa, k, ga⟩)
        (fun k _ most => chance_exists format (between sf' k (le_refl sf') most))
        (fun k v w _ _ one two => chance_game format low high one two)
        (fun k v w one two => le_of_eq (chance_unique format low high one two)) games middle chance'

/-- The chance rises with the player's own sets and games and falls with the opponent's. -/
theorem chance_score (format : bestOf = 3 ∨ bestOf = 5) (low : 0 ≤ p) (high : p ≤ 1)
    (undecided : Undecided bestOf score) (undecided' : Undecided bestOf score')
    (setsFor : score.setsFor ≤ score'.setsFor) (setsAgainst : score'.setsAgainst ≤ score.setsAgainst)
    (gamesFor : score.gamesFor ≤ score'.gamesFor)
    (gamesAgainst : score'.gamesAgainst ≤ score.gamesAgainst)
    (chance : Chance bestOf p score v) (chance' : Chance bestOf p score' v') : v ≤ v' := by
  obtain ⟨sf, sa, gf, ga⟩ := score
  obtain ⟨sf', sa', gf', ga'⟩ := score'
  dsimp only at setsFor setsAgainst gamesFor gamesAgainst
  have between : Undecided bestOf ⟨sf, sa', gf, ga'⟩ := by
    obtain ⟨apart, unlevel⟩ := undecided'
    dsimp only at apart unlevel
    constructor
    · dsimp only
      omega
    · dsimp only
      omega
  obtain ⟨u, middle⟩ := chance_exists (p := p) format between
  -- fewer sets and games of the opponent are more of one's own on the other side
  have flipped := chance_own format (sub_nonneg.mpr high) (sub_le_self 1 low) undecided.mirror
    setsAgainst gamesAgainst (chance_complement format between middle)
    (chance_complement format undecided chance)
  have rest := chance_own format low high undecided' setsFor gamesFor middle chance'
  linarith

end Chances

/-! ## The model -/

/-- The score model is coherent on every score that is not won by both players and not at seven
games all. -/
theorem model_coherent {bestOf : ℤ} {p : ℚ} {score : Score} (format : bestOf = 3 ∨ bestOf = 5)
    (low : 0 ≤ p) (high : p ≤ 1) (undecided : Undecided bestOf score) :
    (∃ v, Chance bestOf p score v ∧ 0 ≤ v ∧ v ≤ 1 ∧ ∀ w, Chance bestOf p score w → w = v) ∧
    (∀ p' v v', p ≤ p' → p' ≤ 1 → Chance bestOf p score v → Chance bestOf p' score v' → v ≤ v') ∧
    (∀ score' v v', Undecided bestOf score' →
      score.setsFor ≤ score'.setsFor → score'.setsAgainst ≤ score.setsAgainst →
      score.gamesFor ≤ score'.gamesFor → score'.gamesAgainst ≤ score.gamesAgainst →
      Chance bestOf p score v → Chance bestOf p score' v' → v ≤ v') ∧
    ∀ v v', Chance bestOf p score v → Chance bestOf (1 - p) score.mirror v' → v + v' = 1 := by
  refine ⟨?_, ?_, ?_, ?_⟩
  · obtain ⟨v, chance⟩ := chance_exists (p := p) format undecided
    obtain ⟨least, most⟩ := chance_bounds format low high chance
    exact ⟨v, chance, least, most, fun w other => chance_unique format low high other chance⟩
  · intro p' v v' more top chance chance'
    exact chance_mono format low more top chance chance'
  · intro score' v v' undecided' setsFor setsAgainst gamesFor gamesAgainst chance chance'
    exact chance_score format low high undecided undecided' setsFor setsAgainst gamesFor
      gamesAgainst chance chance'
  · intro v v' chance chance'
    have rest := chance_unique format (sub_nonneg.mpr high) (sub_le_self 1 low) chance'
      (chance_complement format undecided chance)
    linarith

/-- A player a set and a game ahead, who wins three games in five. -/
theorem model_coherent_ahead :
    (∃ v, Chance 3 (3 / 5) ⟨1, 0, 3, 2⟩ v ∧ 0 ≤ v ∧ v ≤ 1 ∧
      ∀ w, Chance 3 (3 / 5) ⟨1, 0, 3, 2⟩ w → w = v) ∧
    (∀ v v', Chance 3 (3 / 5) ⟨1, 0, 3, 2⟩ v → Chance 3 (7 / 10) ⟨1, 0, 3, 2⟩ v' → v ≤ v') ∧
    (∀ v v', Chance 3 (3 / 5) ⟨1, 0, 3, 2⟩ v → Chance 3 (3 / 5) ⟨1, 0, 4, 2⟩ v' → v ≤ v') ∧
    ∀ v v', Chance 3 (3 / 5) ⟨1, 0, 3, 2⟩ v → Chance 3 (1 - 3 / 5) ⟨0, 1, 2, 3⟩ v' →
      v + v' = 1 := by
  have undecided : Undecided 3 ⟨1, 0, 3, 2⟩ := ⟨by decide, by decide⟩
  have further : Undecided 3 ⟨1, 0, 4, 2⟩ := ⟨by decide, by decide⟩
  obtain ⟨defined, better, ahead, adds⟩ :=
    model_coherent (p := 3 / 5) (Or.inl rfl) (by norm_num) (by norm_num) undecided
  refine ⟨defined, ?_, ?_, adds⟩
  · intro v v'
    exact better (7 / 10) v v' (by norm_num) (by norm_num)
  · intro v v'
    exact ahead _ v v' further le_rfl le_rfl (by decide) le_rfl

/-- Two sets to three in a best of three: neither count is at the winning number for both
players, and both are sure to win. -/
theorem both_won_incoherent :
    ¬∀ (sf sa gf ga : ℤ) (p v v' : ℚ), 0 ≤ p → p ≤ 1 → 0 ≤ sf → 0 ≤ sa → 0 ≤ gf → 0 ≤ ga →
      ¬(sf = 2 ∧ sa = 2) → ¬(7 ≤ gf ∧ 7 ≤ ga) → Chance 3 p ⟨sf, sa, gf, ga⟩ v →
      Chance 3 (1 - p) ⟨sa, sf, ga, gf⟩ v' → v + v' = 1 := by
  intro adds
  have one : Chance 3 (1 / 2) ⟨2, 3, 0, 0⟩ 1 := ⟨0, rfl⟩
  have other : Chance 3 (1 - 1 / 2) ⟨3, 2, 0, 0⟩ 1 := ⟨0, rfl⟩
  have total := adds 2 3 0 0 (1 / 2) 1 1 (by norm_num) (by norm_num) (by norm_num) (by norm_num)
    (le_refl 0) (le_refl 0) (by decide) (by decide) one other
  norm_num at total

end Inci.Espn
