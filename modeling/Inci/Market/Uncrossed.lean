/-
# Market.Uncrossed -- the ladders of a book do not cross

The best bids of a book are added in a context of 80 digits, which are 79 places
above one.  So a book is uncrossed up to half a unit of the 79th place, and
exactly for prices that have no digits below it.  The ladders stay strictly
descending with something to sell on every level.
-/
import Inci.Market.Reconstruction

namespace Inci.Market

open Inci.Theory Inci.Expert

set_option autoImplicit false

def opposing : ContractSide → ContractSide
  | .yes => .no
  | .no => .yes

/-- A price of at most 79 decimal places. -/
def OnGrid (price : Decimal) : Prop := ∃ n : ℤ, price.value = n * 10 ^ (-79 : ℤ)

/-- What is known of the best prices of a book with its ladders. -/
structure Uncrossed (s : BookState) : Prop where
  descending : ∀ side, Descending BookLevel.price (s.bids side)
  positive : ∀ side, ∀ level ∈ s.bids side, 0 < level.quantity
  apart : ∀ yes no, s.yesBids.head? = some yes → s.noBids.head? = some no →
    yes.price.value + no.price.value ≤ 1 + 1 / 2 * 10 ^ (-79 : ℤ) ∧
      (OnGrid yes.price → OnGrid no.price → yes.price.value + no.price.value ≤ 1)
  asks : ∀ side own other, (s.bids side).head? = some own →
    (s.bids (opposing side)).head? = some other →
      ∃ ask, bestAsk (s.bids (opposing side)) = .ok (some ask) ∧
        own.price.value ≤ ask.value + 10 ^ (-79 : ℤ) ∧
        (OnGrid own.price → OnGrid other.price → own.price ≤ ask)

/-! ## Best prices -/

theorem OnGrid.add_le {x y : Decimal} (xGrid : OnGrid x) (yGrid : OnGrid y)
    (near : x.value + y.value ≤ 1 + 1 / 2 * 10 ^ (-79 : ℤ)) : x.value + y.value ≤ 1 := by
  obtain ⟨m, mx⟩ := xGrid
  obtain ⟨n, ny⟩ := yGrid
  have unit : (10 : ℚ) ^ (-79 : ℤ) * 10 ^ 79 = 1 := by norm_num
  have scaled : ((m + n : ℤ) : ℚ) ≤ 10 ^ 79 + 1 / 2 := by
    have times := mul_le_mul_of_nonneg_right near (by positivity : (0 : ℚ) ≤ 10 ^ 79)
    rw [mx, ny] at times
    push_cast
    linarith
  have whole : m + n ≤ 10 ^ 79 := by
    by_contra more
    have next : ((10 ^ 79 + 1 : ℤ) : ℚ) ≤ ((m + n : ℤ) : ℚ) := by exact_mod_cast not_le.mp more
    push_cast at next scaled
    linarith
  have back : ((m + n : ℤ) : ℚ) * 10 ^ (-79 : ℤ) ≤ 10 ^ 79 * 10 ^ (-79 : ℤ) :=
    mul_le_mul_of_nonneg_right (by exact_mod_cast whole) (by positivity)
  rw [mx, ny]
  push_cast at back
  linarith

/-- The ask a best bid implies, in the 80 digits of the context. -/
theorem bestAsk_cons {level : BookLevel} (rest : List BookLevel)
    (price : 0 ≤ level.price ∧ level.price ≤ 1) :
    ∃ ask, bestAsk (level :: rest) = .ok (some ask) ∧
      1 - level.price.value ≤ ask.value + 1 / 2 * 10 ^ (-79 : ℤ) ∧
      (OnGrid level.price → ask.value = 1 - level.price.value) := by
  simp only [Decimal.le_def, Decimal.zero_value, Decimal.one_value] at price
  obtain ⟨x, difference⟩ : ∃ x, x = 1 - level.price.value := ⟨_, rfl⟩
  have low : 0 ≤ x := by linarith
  have high : x ≤ 1 := by linarith
  have tail : (0 : ℚ) < 10 ^ (-79 : ℤ) := zpow_pos (by norm_num) _
  have answer : |decimalContext.roundValue x| < 10 ∧
      x ≤ decimalContext.roundValue x + 1 / 2 * 10 ^ (-79 : ℤ) ∧
      (OnGrid level.price → decimalContext.roundValue x = x) := by
    rcases low.eq_or_lt with zero | positive
    · rw [← zero]
      have still : decimalContext.roundValue 0 = 0 := by simp [DecimalContext.roundValue]
      rw [still]
      exact ⟨by norm_num, by linarith, fun _ => rfl⟩
    have kept : decimalContext.quantum x ≤ -79 :=
      decimalContext.quantum_le (by decide) positive (by linarith)
    have near := abs_le.mp (decimalContext.roundValue_near x)
    have small : (10 : ℚ) ^ decimalContext.quantum x ≤ 10 ^ (-79 : ℤ) :=
      zpow_le_zpow_right₀ (by norm_num) kept
    refine ⟨?_, ?_, ?_⟩
    · have unit : (10 : ℚ) ^ (-79 : ℤ) ≤ 1 := by norm_num
      rw [abs_lt]
      constructor <;> linarith [near.1, near.2]
    · have off := near.1
      generalize (10 : ℚ) ^ (-79 : ℤ) = unit at small ⊢
      linarith
    · rintro ⟨n, grid⟩
      refine decimalContext.roundValue_exact (m := 10 ^ 79 - n) (e := -79) ?_ kept
      rw [difference, grid, Int.cast_sub, sub_mul]
      norm_num
  obtain ⟨small, near, exact⟩ := answer
  refine ⟨⟨decimalContext.roundValue x, decimalContext.roundValue_finite x⟩, ?_, ?_, ?_⟩
  · simp only [bestAsk, contextSub, Decimal.one_value, ← difference]
    rw [decimalContext.round_total _ (by decide) small]
    rfl
  · rw [← difference]
    exact near
  · intro grid
    rw [← difference]
    exact exact grid

/-! ## The levels of a run -/

/-- Every level of the snapshot passed its constructor. -/
def BookSnapshot.LevelsBuilt (snapshot : BookSnapshot) : Prop :=
  ∀ side, ∀ level ∈ snapshot.bids side, level.postInit = .ok ()

def BookState.LevelsBuilt (state : BookState) : Prop :=
  ∀ side, ∀ level ∈ state.bids side, level.postInit = .ok ()

/-- The event of a call passed its constructor, and so did its levels. -/
def BookCall.Built : BookCall → Prop
  | .snapshot s => s.postInit = .ok () ∧ s.LevelsBuilt
  | .delta d => d.postInit = .ok ()
  | .lifecycle l => l.postInit = .ok ()
  | .resnapshot => True

theorem levelAfter_built {delta : BookDelta} {level : BookLevel} (good : delta.postInit = .ok ())
    (left : levelAfter delta = some level) : level.postInit = .ok () := by
  simp only [BookDelta.postInit, bind_eq_ok, exists_unit, probability_eq_ok, quantity_eq_ok] at good
  obtain ⟨-, -, -, -, -, -, price, quantity⟩ := good
  unfold levelAfter at left
  split_ifs at left with zero
  obtain rfl := Option.some.inj left
  have positive : 0 < delta.quantity := lt_of_le_of_ne quantity (Ne.symm zero)
  simp [BookLevel.postInit, price, positive]

theorem bidsAfter_built {s : BookState} {delta : BookDelta} (good : delta.postInit = .ok ())
    (descending : ∀ side, Descending BookLevel.price (s.bids side)) (built : s.LevelsBuilt)
    (side : ContractSide) : ∀ level ∈ bidsAfter s delta side, level.postInit = .ok () := by
  unfold bidsAfter
  intro level member
  split_ifs at member
  · rcases (mem_update (descending side).nodup).mp member with ⟨before, -⟩ | left
    · exact built side level before
    · exact levelAfter_built good left
  · exact built side level member

theorem BookState.ladders {s : BookState} (good : s.postInit = .ok ()) :
    (∀ side, Descending BookLevel.price (s.bids side)) ∧
      crossed s.yesBids s.noBids = .ok false := by
  simp only [BookState.postInit, bind_eq_ok, exists_unit, validateBookLadders,
    validateLadder_eq_ok, refuse_eq_ok] at good
  obtain ⟨-, -, -, -, -, -, -, -, -, -, ⟨yes, no, cross, computed, apart⟩, -⟩ := good
  refine ⟨fun side => ?_, ?_⟩
  · cases side
    · exact yes
    · exact no
  · rw [computed]
    simpa using apart

theorem stepBook_built {s : BookState} {call : BookCall} (good : s.postInit = .ok ())
    (built : s.LevelsBuilt) (argument : call.Built) : (stepBook s call).1.LevelsBuilt := by
  have move := stepBook_move s call
  revert move
  generalize stepBook s call = next
  intro move
  cases move with
  | kept call next kind yesBids noBids _ _ _ _ _ =>
      intro side level member
      refine built side level ?_
      cases side
      · show level ∈ s.yesBids
        rw [← yesBids]
        exact member
      · show level ∈ s.noBids
        rw [← noBids]
        exact member
  | replaced snapshot move digest _ _ =>
      intro side level member
      refine argument.2 side level ?_
      cases side
      · exact member
      · exact member
  | advanced delta move digest _ _ _ =>
      intro side level member
      refine bidsAfter_built argument (BookState.ladders good).1 built side level ?_
      cases side
      · exact member
      · exact member

theorem runBook_built (calls : List BookCall) :
    ∀ {s : BookState}, s.postInit = .ok () → s.LevelsBuilt → (∀ call ∈ calls, call.Built) →
      (runBook s calls).1.LevelsBuilt := by
  induction calls with
  | nil => exact fun _ built _ => built
  | cons call rest ih =>
      intro s good built arguments
      exact ih (stepBook_constructed call good)
        (stepBook_built good built (arguments call List.mem_cons_self))
        fun later member => arguments later (List.mem_cons_of_mem _ member)

/-- A constructed book of constructed levels is uncrossed. -/
theorem uncrossed_of_built {s : BookState} (good : s.postInit = .ok ()) (built : s.LevelsBuilt) :
    Uncrossed s := by
  obtain ⟨descending, cross⟩ := BookState.ladders good
  have price : ∀ side, ∀ level ∈ s.bids side, 0 ≤ level.price ∧ level.price ≤ 1 := by
    intro side level member
    have accepted := built side level member
    simp only [BookLevel.postInit, bind_eq_ok, exists_unit, probability_eq_ok] at accepted
    exact accepted.1
  have near : ∀ yes no, s.yesBids.head? = some yes → s.noBids.head? = some no →
      yes.price.value + no.price.value ≤ 1 + 1 / 2 * 10 ^ (-79 : ℤ) := by
    intro yes no yesBest noBest
    obtain ⟨yesRest, yesLadder⟩ := List.head?_eq_some_iff.mp yesBest
    obtain ⟨noRest, noLadder⟩ := List.head?_eq_some_iff.mp noBest
    rw [yesLadder, noLadder, crossed_eq (price .yes yes (by simp [BookState.bids, yesLadder]))
      (price .no no (by simp [BookState.bids, noLadder]))] at cross
    simpa using cross
  refine ⟨descending, ?_, ?_, ?_⟩
  · intro side level member
    have accepted := built side level member
    simp only [BookLevel.postInit, bind_eq_ok, exists_unit, positiveQuantity_eq_ok] at accepted
    exact accepted.2
  · intro yes no yesBest noBest
    have sum := near yes no yesBest noBest
    exact ⟨sum, fun yesGrid noGrid => yesGrid.add_le noGrid sum⟩
  · intro side own other ownBest otherBest
    have sum : own.price.value + other.price.value ≤ 1 + 1 / 2 * 10 ^ (-79 : ℤ) := by
      cases side
      · exact near own other ownBest otherBest
      · rw [add_comm]
        exact near other own otherBest ownBest
    obtain ⟨rest, ladder⟩ := List.head?_eq_some_iff.mp otherBest
    have tail : (0 : ℚ) < 10 ^ (-79 : ℤ) := zpow_pos (by norm_num) _
    obtain ⟨ask, answer, below, exact⟩ :=
      bestAsk_cons rest (price (opposing side) other (by simp [ladder]))
    refine ⟨ask, by rw [ladder]; exact answer, ?_, fun ownGrid otherGrid => ?_⟩
    · generalize (10 : ℚ) ^ (-79 : ℤ) = unit at sum below tail ⊢
      linarith
    · rw [Decimal.le_def, exact otherGrid]
      have level := ownGrid.add_le otherGrid sum
      linarith

/-- Every book of a run is uncrossed up to half a unit of the 79th place, and
exactly on prices without digits below it. -/
theorem book_uncrossed (first : BookSnapshot) (opened : BookTransitionResult)
    (calls : List BookCall) (opens : bookFromSnapshot first = .ok opened)
    (levels : first.LevelsBuilt) (arguments : ∀ call ∈ calls, call.Built) :
    ∀ before after, calls = before ++ after → Uncrossed (runBook opened.state before).1 := by
  obtain ⟨digest, -, good, rfl⟩ := bookFromSnapshot_cases opens
  rintro before after rfl
  refine uncrossed_of_built (runBook_constructed before good) (runBook_built before good ?_
    fun call member => arguments call (List.mem_append_left _ member))
  intro side level member
  refine levels side level ?_
  cases side
  · exact member
  · exact member

/-! ## A book at the last digit -/

theorem finite_half : FiniteExpansion (1 / 2) := ⟨1, 5, by norm_num⟩

def half : Decimal := ⟨1 / 2, finite_half⟩

/-- One half and a unit of the 81st place. -/
def overHalf : Decimal := ⟨1 / 2 + 1 / 10 ^ 81, 81, 5 * 10 ^ 80 + 1, by norm_num⟩

def touchingBook : BookSnapshot :=
  { openingBook with
    yesBids := [⟨half, 1⟩]
    noBids := [⟨overHalf, 1⟩] }

theorem touchingBook_built : touchingBook.LevelsBuilt := by
  intro side level member
  cases side <;> simp [touchingBook, BookSnapshot.bids] at member <;> subst member <;>
    simp [BookLevel.postInit, half, overHalf, Decimal.le_def, Decimal.lt_def] <;> norm_num

theorem touchingBook_constructed {epoch : Nat} (known : epoch < integerBound) :
    BookSnapshot.postInit { touchingBook with connectionEpoch := epoch } = .ok () := by
  have bound : 2 < integerBound := by norm_num [integerBound]
  have ticker : Ticker "MATCH-HOME" := by decide
  have apart : crossed [⟨half, 1⟩] [⟨overHalf, 1⟩] = .ok false := by
    rw [crossed_eq] <;> simp [half, overHalf, Decimal.le_def] <;> norm_num
  simp [BookSnapshot.postInit, touchingBook, openingBook, ticker, validateBookLadders,
    validateLadder, apart, integerBound_pos, known]
  omega

theorem touchingBook_opens : ∃ opened, bookFromSnapshot touchingBook = .ok opened := by
  have bound : 2 < integerBound := by norm_num [integerBound]
  refine bookFromSnapshot_total touchingBook (touchingBook_constructed (Nat.lt_of_succ_lt bound)) ?_
  · simp [BookSnapshot.py, touchingBook, openingBook, Encodes, EncodesFields, EncodesAll,
      MarketStatus.py, integerBound_pos, BookLevel.py]
    refine ⟨bound.trans' (by decide), ?_, ?_⟩
    · decide +kernel
    · decide +kernel

/-- The prices of an accepted snapshot may add up to more than one. -/
theorem book_crosses_below_last_digit :
    ∃ opened, bookFromSnapshot touchingBook = .ok opened ∧ touchingBook.LevelsBuilt ∧
      ∃ yes no, opened.state.yesBids.head? = some yes ∧ opened.state.noBids.head? = some no ∧
        1 < yes.price.value + no.price.value := by
  obtain ⟨opened, opens⟩ := touchingBook_opens
  obtain ⟨digest, -, -, rfl⟩ := bookFromSnapshot_cases opens
  refine ⟨_, opens, touchingBook_built, ⟨half, 1⟩, ⟨overHalf, 1⟩, rfl, rfl, ?_⟩
  norm_num [half, overHalf]

/-- The touching book after a delta, a resnapshot and its snapshot on the next connection. -/
theorem book_uncrossed_touching : ∃ opened, bookFromSnapshot touchingBook = .ok opened ∧
    ∀ before after, [.delta openingDelta, .resnapshot,
        .snapshot { touchingBook with connectionEpoch := 2 }] = before ++ after →
      Uncrossed (runBook opened.state before).1 := by
  have bound : 2 < integerBound := by norm_num [integerBound]
  obtain ⟨opened, opens⟩ := touchingBook_opens
  refine ⟨opened, opens, book_uncrossed touchingBook opened _ opens touchingBook_built ?_⟩
  intro call member
  simp only [List.mem_cons, List.not_mem_nil, or_false] at member
  rcases member with rfl | rfl | rfl
  · exact openingDelta_constructed
  · trivial
  · exact ⟨touchingBook_constructed bound, touchingBook_built⟩

end Inci.Market
