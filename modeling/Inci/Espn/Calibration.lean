/-
# Espn.Calibration -- the point probability behind a prematch prior

`effectivePointProbability` inverts the model of an unplayed match by sixty halvings of
`[0, 1]`; `matchWinProbabilityFromPrematch` runs the model on a score with what it finds.

The unplayed match is worth 0 where no point is won and 1 where every point is, so the ends
of every interval bracket the prior (`effective_bracket`).  A larger prior takes the upper half
wherever a smaller one does, so it finds no smaller point probability (`effective_mono`), and
the model on any fixed score rises with the prior.
-/
import Inci.Espn.Coherence
import Inci.Theory.Bisection

namespace Inci.Espn

open Inci.Theory

set_option autoImplicit false

/-! ## The program -/

/-- No sets and no games. -/
def unplayed : Score := ⟨0, 0, 0, 0⟩

/-- `value < target` for a point probability. -/
def belowTarget (depth : ℕ) (target : ℚ) (bestOf : ℤ) (point : ℚ) : Except WinProbFailure Bool := do
  let value ← matchWinProbability depth unplayed bestOf point
  pure (decide (value < target))

def effectivePointProbability (depth : ℕ) (prematchProbability : ℚ) (bestOf : ℤ) :
    Except WinProbFailure ℚ :=
  if ¬(0 ≤ prematchProbability ∧ prematchProbability ≤ 1) then .error .prematchProbability
  else if bestOf ≠ 3 ∧ bestOf ≠ 5 then .error .bestOf
  else if prematchProbability = 0 ∨ prematchProbability = 1 then .ok prematchProbability
  else do
    let ends ← bisect (belowTarget depth prematchProbability bestOf) 60 (0, 1)
    pure (middle ends)

def matchWinProbabilityFromPrematch (depth : ℕ) (prematchProbability : ℚ) (score : Score)
    (bestOf : ℤ) : Except WinProbFailure ℚ := do
  let pPoint ← effectivePointProbability depth prematchProbability bestOf
  matchWinProbability depth score bestOf pPoint

/-- The calibration's answer, at whatever depth. -/
def Effective (bestOf : ℤ) (prior point : ℚ) : Prop :=
  ∃ depth, effectivePointProbability depth prior bestOf = .ok point

/-- The answer from a prior, at whatever depth. -/
def PriorChance (bestOf : ℤ) (score : Score) (prior v : ℚ) : Prop :=
  ∃ depth, matchWinProbabilityFromPrematch depth prior score bestOf = .ok v

/-! ## The ends of the interval -/

section

variable {bestOf : ℤ} {p v : ℚ} {depth : ℕ}

theorem unplayed_undecided (format : bestOf = 3 ∨ bestOf = 5) : Undecided bestOf unplayed := by
  constructor
  · show ¬(bestOf / 2 + 1 ≤ 0 ∧ bestOf / 2 + 1 ≤ 0)
    omega
  · show ¬((7 : ℤ) ≤ 0 ∧ (7 : ℤ) ≤ 0)
    omega

theorem gameWinProb_zero {g : ℚ} (game : gameWinProb depth 0 = some g) : g = 0 := by
  refine race_lost (n := 4) ?_ ?_ game
  · intro k less
    rw [gameStop_none]
    omega
  · unfold gameStop
    rw [if_neg (by omega), if_pos (by omega)]

theorem setWinProb_zero {s : ℚ} (won : setWinProb depth 0 0 (0 : ℚ) = some s) : s = 0 := by
  refine race_lost (n := 6) ?_ ?_ won
  · intro k less
    have start : clampGames 0 = 0 := rfl
    rw [setStop_none, start]
    omega
  · have start : clampGames 0 = 0 := rfl
    unfold setStop
    rw [start, if_neg (by omega), if_pos (by omega)]

theorem matchWinFromSets_zero {setsAgainst setsNeeded : ℤ} {w : ℚ} (short : 0 < setsNeeded)
    (behind : setsAgainst ≤ setsNeeded)
    (won : matchWinFromSets depth 0 setsAgainst (0 : ℚ) setsNeeded = some w) : w = 0 := by
  refine race_lost (n := (setsNeeded - setsAgainst).toNat) ?_ ?_ won
  · intro k less
    rw [matchStop_none]
    omega
  · unfold matchStop
    rw [if_neg (by omega), if_pos (by omega)]

/-- Whoever wins no point wins no match. -/
theorem chance_zero (format : bestOf = 3 ∨ bestOf = 5) (chance : Chance bestOf 0 unplayed v) :
    v = 0 := by
  have setsFor : unplayed.setsFor = 0 := rfl
  have setsAgainst : unplayed.setsAgainst = 0 := rfl
  rcases (chance_cases format).mp chance with ⟨won, -⟩ | ⟨-, lost, -⟩ |
    ⟨-, depth, now, take, lose, parts, rfl⟩
  · omega
  · omega
  · obtain ⟨g, fresh, game, current, later, -, lost⟩ := parts
    obtain rfl := gameWinProb_zero game
    obtain rfl : now = 0 := setWinProb_zero current
    obtain rfl := setWinProb_zero later
    obtain rfl : lose = 0 := matchWinFromSets_zero (by omega) (by omega) lost
    ring

/-- Whoever wins every point wins the match. -/
theorem chance_one (format : bestOf = 3 ∨ bestOf = 5) (chance : Chance bestOf 1 unplayed v) :
    v = 1 := by
  have flipped := chance_complement format (unplayed_undecided format) chance
  rw [sub_self] at flipped
  have nothing : 1 - v = 0 := chance_zero format flipped
  linarith

end

/-! ## The bisection -/

section

variable {bestOf : ℤ} {t t' x x' : ℚ} {depth deep : ℕ}

theorem belowTarget_eq_ok {b : Bool} : belowTarget depth t bestOf x = .ok b ↔
    ∃ v, matchWinProbability depth unplayed bestOf x = .ok v ∧ decide (v < t) = b := by
  unfold belowTarget
  cases matchWinProbability depth unplayed bestOf x with
  | error e => simp [bind, Except.bind]
  | ok v => simp [bind, Except.bind, pure, Except.pure]

theorem effective_ends (format : bestOf = 3 ∨ bestOf = 5) (ends : t = 0 ∨ t = 1) :
    effectivePointProbability depth t bestOf = .ok t := by
  have inside : 0 ≤ t ∧ t ≤ 1 := by
    rcases ends with rfl | rfl <;> norm_num
  unfold effectivePointProbability
  rw [if_neg (not_not.mpr inside), if_neg (by omega), if_pos ends]

/-- Strictly inside, the answer is the middle of the last interval. -/
theorem effective_inside (format : bestOf = 3 ∨ bestOf = 5) (low : 0 < t) (high : t < 1) :
    effectivePointProbability depth t bestOf = .ok x ↔
      ∃ ends, bisect (belowTarget depth t bestOf) 60 (0, 1) = .ok ends ∧ middle ends = x := by
  have apart : ¬(t = 0 ∨ t = 1) := by
    rintro (rfl | rfl)
    · exact lt_irrefl 0 low
    · exact lt_irrefl 1 high
  unfold effectivePointProbability
  rw [if_neg (not_not.mpr ⟨low.le, high.le⟩), if_neg (by omega), if_neg apart]
  cases bisect (belowTarget depth t bestOf) 60 (0, 1) with
  | error e => simp [bind, Except.bind]
  | ok ends => simp [bind, Except.bind, pure, Except.pure]

/-- A deeper model answers what a shallower one does. -/
theorem matchWinProbability_deeper {score : Score} {v : ℚ} (format : bestOf = 3 ∨ bestOf = 5)
    (deeper : depth ≤ deep) (answer : matchWinProbability depth score bestOf x = .ok v) :
    matchWinProbability deep score bestOf x = .ok v := by
  by_cases running : score.setsFor < bestOf / 2 + 1 ∧ score.setsAgainst < bestOf / 2 + 1
  · rw [matchWinProbability_open format running] at answer ⊢
    cases found : matchChances depth score (bestOf / 2 + 1) x with
    | none =>
        rw [found] at answer
        exact nomatch answer
    | some chances =>
        obtain ⟨now, take, lose⟩ := chances
        have found' := parts_iff.mpr ((parts_iff.mp found).deeper deeper)
        rw [found] at answer
        rw [found']
        exact answer
  · unfold matchWinProbability at answer ⊢
    split_ifs at answer ⊢ with refused won lost
    · exact answer
    · exact answer
    · exact absurd ⟨not_le.mp won, not_le.mp lost⟩ running

theorem belowTarget_deeper (format : bestOf = 3 ∨ bestOf = 5) (deeper : depth ≤ deep) (x : ℚ)
    (b : Bool) (answer : belowTarget depth t bestOf x = .ok b) :
    belowTarget deep t bestOf x = .ok b := by
  obtain ⟨v, value, less⟩ := belowTarget_eq_ok.mp answer
  exact belowTarget_eq_ok.mpr ⟨v, matchWinProbability_deeper format deeper value, less⟩

theorem effective_deeper (format : bestOf = 3 ∨ bestOf = 5) (deeper : depth ≤ deep)
    (answer : effectivePointProbability depth t bestOf = .ok x) :
    effectivePointProbability deep t bestOf = .ok x := by
  by_cases inside : 0 < t ∧ t < 1
  · obtain ⟨ends, halved, here⟩ := (effective_inside format inside.1 inside.2).mp answer
    exact (effective_inside format inside.1 inside.2).mpr
      ⟨ends, bisect_agree (belowTarget_deeper format deeper) halved, here⟩
  · unfold effectivePointProbability at answer ⊢
    split_ifs at answer ⊢ with within unknown ends
    · exact answer
    · have apart : t ≠ 0 ∧ t ≠ 1 := not_or.mp ends
      exact absurd ⟨lt_of_le_of_ne within.1 apart.1.symm, lt_of_le_of_ne within.2 apart.2⟩ inside

/-- The calibration finds a point probability. -/
theorem effective_exists (format : bestOf = 3 ∨ bestOf = 5) (low : 0 ≤ t) (high : t ≤ 1) :
    ∃ x, Effective bestOf t x := by
  by_cases ends : t = 0 ∨ t = 1
  · exact ⟨t, 0, effective_ends format ends⟩
  have apart : t ≠ 0 ∧ t ≠ 1 := not_or.mp ends
  have running : unplayed.setsFor < bestOf / 2 + 1 ∧ unplayed.setsAgainst < bestOf / 2 + 1 := by
    show 0 < bestOf / 2 + 1 ∧ 0 < bestOf / 2 + 1
    omega
  -- one depth serves every point
  have answers : ∀ x : ℚ, (0 : ℚ) ≤ x → x ≤ 1 → ∃ b, belowTarget 20 t bestOf x = .ok b := by
    intro x _ _
    have shallow : (2 * (bestOf / 2 + 1) - (unplayed.setsFor + unplayed.setsAgainst)).toNat < 20 := by
      show (2 * (bestOf / 2 + 1) - (0 + 0)).toNat < 20
      omega
    obtain ⟨⟨now, take, lose⟩, found⟩ := matchChances_defined (p := x) (by omega) shallow
      (unplayed_undecided format).games
    refine ⟨_, belowTarget_eq_ok.mpr ⟨now * take + (1 - now) * lose, ?_, rfl⟩⟩
    rw [matchWinProbability_open format running, found]
  obtain ⟨found, halved⟩ := @bisect_total ℚ _ _ _ _ _ 60 (0, 1) answers zero_le_one
  exact ⟨middle found, 20, (effective_inside format (lt_of_le_of_ne low apart.1.symm)
    (lt_of_le_of_ne high apart.2)).mpr ⟨found, halved, rfl⟩⟩

theorem effective_unique (format : bestOf = 3 ∨ bestOf = 5) (point : Effective bestOf t x)
    (point' : Effective bestOf t x') : x = x' := by
  obtain ⟨depth, answer⟩ := point
  obtain ⟨deep, answer'⟩ := point'
  have one := effective_deeper format (Nat.le_max_left depth deep) answer
  have two := effective_deeper format (Nat.le_max_right depth deep) answer'
  exact Except.ok.inj (one.symm.trans two)

/-- The last interval brackets the prior. -/
theorem effective_bracket (format : bestOf = 3 ∨ bestOf = 5) (low : 0 < t) (high : t < 1)
    (point : Effective bestOf t x) :
    ∃ left right, 0 ≤ left ∧ right ≤ 1 ∧ right - left = 1 / 2 ^ 60 ∧ x = (left + right) / 2 ∧
      (∃ v, Chance bestOf left unplayed v ∧ v < t) ∧ ∃ v, Chance bestOf right unplayed v ∧ t ≤ v := by
  obtain ⟨depth, answer⟩ := point
  obtain ⟨ends, halved, rfl⟩ := (effective_inside format low high).mp answer
  obtain ⟨first, -, last⟩ := bisect_within zero_le_one halved
  have width := bisect_width halved
  simp only [sub_zero] at width
  obtain ⟨bottom, zero⟩ := chance_exists (p := 0) format (unplayed_undecided format)
  obtain ⟨top, one⟩ := chance_exists (p := 1) format (unplayed_undecided format)
  obtain rfl := chance_zero format zero
  obtain rfl := chance_one format one
  have raised : ∀ y, belowTarget depth t bestOf y = .ok true →
      ∃ v, Chance bestOf y unplayed v ∧ v < t := by
    intro y passed
    obtain ⟨v, value, less⟩ := belowTarget_eq_ok.mp passed
    exact ⟨v, ⟨depth, value⟩, of_decide_eq_true less⟩
  have lowered : ∀ y, belowTarget depth t bestOf y = .ok false →
      ∃ v, Chance bestOf y unplayed v ∧ t ≤ v := by
    intro y failed
    obtain ⟨v, value, less⟩ := belowTarget_eq_ok.mp failed
    exact ⟨v, ⟨depth, value⟩, not_lt.mp (of_decide_eq_false less)⟩
  have bracket := bisect_bracket raised lowered halved ⟨0, zero, low⟩ ⟨1, one, high.le⟩
  exact ⟨ends.1, ends.2, first, last, width, rfl, bracket⟩

theorem effective_bounds (format : bestOf = 3 ∨ bestOf = 5) (low : 0 ≤ t) (high : t ≤ 1)
    (point : Effective bestOf t x) : 0 ≤ x ∧ x ≤ 1 := by
  by_cases ends : t = 0 ∨ t = 1
  · obtain ⟨depth, answer⟩ := point
    rw [effective_ends format ends] at answer
    obtain rfl := Except.ok.inj answer
    exact ⟨low, high⟩
  · have apart : t ≠ 0 ∧ t ≠ 1 := not_or.mp ends
    obtain ⟨left, right, first, last, width, rfl, -⟩ := effective_bracket format
      (lt_of_le_of_ne low apart.1.symm) (lt_of_le_of_ne high apart.2) point
    have positive : (0 : ℚ) < 1 / 2 ^ 60 := by positivity
    constructor <;> linarith

/-- A larger prior finds no smaller point probability. -/
theorem effective_mono (format : bestOf = 3 ∨ bestOf = 5) (low : 0 ≤ t) (more : t ≤ t')
    (high : t' ≤ 1) (point : Effective bestOf t x) (point' : Effective bestOf t' x') : x ≤ x' := by
  obtain ⟨depth, answer⟩ := point
  obtain ⟨deep, answer'⟩ := point'
  replace answer := effective_deeper format (Nat.le_max_left depth deep) answer
  replace answer' := effective_deeper format (Nat.le_max_right depth deep) answer'
  have bounds := effective_bounds format low (more.trans high) ⟨_, answer⟩
  have bounds' := effective_bounds format (low.trans more) high ⟨_, answer'⟩
  by_cases first : t = 0
  · rw [effective_ends format (Or.inl first)] at answer
    obtain rfl := Except.ok.inj answer
    rw [first]
    exact bounds'.1
  by_cases last : t' = 1
  · rw [effective_ends format (Or.inr last)] at answer'
    obtain rfl := Except.ok.inj answer'
    rw [last]
    exact bounds.2
  have above : 0 < t := lt_of_le_of_ne low (Ne.symm first)
  have beneath : t' < 1 := lt_of_le_of_ne high last
  obtain ⟨ends, halved, rfl⟩ :=
    (effective_inside format above (more.trans_lt beneath)).mp answer
  obtain ⟨ends', halved', rfl⟩ := (effective_inside format (above.trans_le more) beneath).mp answer'
  refine middle_le_middle (bisect_within zero_le_one halved).2.1
    (bisect_within zero_le_one halved').2.1 (bisect_mono ?_ zero_le_one halved halved')
  intro y passed failed
  obtain ⟨v, value, less⟩ := belowTarget_eq_ok.mp passed
  obtain ⟨v', value', less'⟩ := belowTarget_eq_ok.mp failed
  obtain rfl := Except.ok.inj (value.symm.trans value')
  exact of_decide_eq_false less' ((of_decide_eq_true less).trans_le more)

/-! ## The chance from a prior -/

variable {score : Score} {v v' : ℚ}

theorem priorChance_iff (format : bestOf = 3 ∨ bestOf = 5) :
    PriorChance bestOf score t v ↔ ∃ point, Effective bestOf t point ∧ Chance bestOf point score v := by
  constructor
  · rintro ⟨depth, answer⟩
    obtain ⟨point, found, value⟩ := bind_eq_ok.mp answer
    exact ⟨point, ⟨depth, found⟩, depth, value⟩
  · rintro ⟨point, ⟨depth, found⟩, deep, value⟩
    exact ⟨max depth deep, bind_eq_ok.mpr ⟨point,
      effective_deeper format (Nat.le_max_left depth deep) found,
      matchWinProbability_deeper format (Nat.le_max_right depth deep) value⟩⟩

/-- The calibration brackets the prior, rises with it, and so does the chance on every fixed score
that shows no more than seven games each and not seven all. -/
theorem calibration_monotone (bestOf : ℤ) (format : bestOf = 3 ∨ bestOf = 5) :
    (∀ t, 0 < t → t < 1 → ∃ x, Effective bestOf t x ∧ (∀ y, Effective bestOf t y → y = x) ∧
      ∃ left right, x = (left + right) / 2 ∧ right - left = 1 / 2 ^ 60 ∧
        (∃ v, Chance bestOf left unplayed v ∧ v < t) ∧
        ∃ v, Chance bestOf right unplayed v ∧ t ≤ v) ∧
    (∀ t t' x x', 0 ≤ t → t ≤ t' → t' ≤ 1 → Effective bestOf t x → Effective bestOf t' x' →
      x ≤ x') ∧
    ∀ score : Score, score.gamesFor ≤ 7 → score.gamesAgainst ≤ 7 →
      ¬(score.gamesFor = 7 ∧ score.gamesAgainst = 7) → ∀ t t', 0 ≤ t → t ≤ t' → t' ≤ 1 →
      ∃ v v', PriorChance bestOf score t v ∧ PriorChance bestOf score t' v' ∧ v ≤ v' ∧
        ∀ w w', PriorChance bestOf score t w → PriorChance bestOf score t' w' → w = v ∧ w' = v' := by
  refine ⟨?_, ?_, ?_⟩
  · intro t low high
    obtain ⟨x, point⟩ := effective_exists format low.le high.le
    obtain ⟨left, right, -, -, width, here, bracket⟩ := effective_bracket format low high point
    exact ⟨x, point, fun y other => effective_unique format other point, left, right, here, width,
      bracket⟩
  · intro t t' x x' low more high point point'
    exact effective_mono format low more high point point'
  · intro score most most' unlevel t t' low more high
    obtain ⟨x, point⟩ := effective_exists format low (more.trans high)
    obtain ⟨x', point'⟩ := effective_exists format (low.trans more) high
    have unlevel' : ¬(7 ≤ score.gamesFor ∧ 7 ≤ score.gamesAgainst) := by omega
    obtain ⟨v, chance⟩ := chance_found (p := x) format unlevel'
    obtain ⟨v', chance'⟩ := chance_found (p := x') format unlevel'
    obtain ⟨first, -⟩ := effective_bounds format low (more.trans high) point
    obtain ⟨-, last⟩ := effective_bounds format (low.trans more) high point'
    have order := effective_mono format low more high point point'
    refine ⟨v, v', (priorChance_iff format).mpr ⟨x, point, chance⟩,
      (priorChance_iff format).mpr ⟨x', point', chance'⟩,
      chance_mono format first order last chance chance', ?_⟩
    intro w w' other other'
    obtain ⟨y, found, answer⟩ := (priorChance_iff format).mp other
    obtain ⟨y', found', answer'⟩ := (priorChance_iff format).mp other'
    obtain rfl := effective_unique format found point
    obtain rfl := effective_unique format found' point'
    exact ⟨chance_unique format first (order.trans last) answer chance,
      chance_unique format (first.trans order) last answer' chance'⟩

end

theorem calibration_monotone_final :
    ∃ x, Effective 5 (2 / 3) x ∧ (∀ y, Effective 5 (2 / 3) y → y = x) ∧
      ∃ left right, x = (left + right) / 2 ∧ right - left = 1 / 2 ^ 60 ∧
        (∃ v, Chance 5 left unplayed v ∧ v < 2 / 3) ∧ ∃ v, Chance 5 right unplayed v ∧ 2 / 3 ≤ v :=
  (calibration_monotone 5 (Or.inr rfl)).1 (2 / 3) (by norm_num) (by norm_num)

end Inci.Espn
