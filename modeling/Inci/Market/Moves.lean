/-
# Market.Moves -- the move of the best prices

A move is measured on the asks, which are the complements of the best bids in the
80 digits of the context.  On prices of at most 80 decimal places the complements
and their differences are exact, so the move is the larger change of the two best
bids; below the 80th place two prices may have the same ask.
-/
import Inci.Market.Uncrossed

namespace Inci.Market

open Inci.Theory Inci.Expert

set_option autoImplicit false

/-! ## Asks -/

/-- The value of the ask that the best bid of a ladder implies. -/
def impliedAsk (bids : List BookLevel) : Option ℚ :=
  bids.head?.map fun level => decimalContext.roundValue (1 - level.price.value)

/-- The change of one ask: one where it appears or vanishes. -/
def askMove : Option ℚ → Option ℚ → ℚ
  | none, none => 0
  | some before, some after =>
      decimalContext.roundValue |decimalContext.roundValue (after - before)|
  | _, _ => 1

theorem bestAsk_eq_ok {bids : List BookLevel} {ask : Option Decimal}
    (computed : bestAsk bids = .ok ask) : ask.map Decimal.value = impliedAsk bids := by
  cases bids with
  | nil => cases computed; rfl
  | cons level rest =>
      obtain ⟨d, rounded, rfl⟩ := map_eq_ok.mp computed
      have value := decimalContext.round_value rounded
      rw [Decimal.one_value] at value
      simp [impliedAsk, value]

theorem oneSideMove_eq_ok {before after : Option Decimal} {move : Decimal}
    (computed : oneSideMove before after = .ok move) :
    move.value = askMove (before.map Decimal.value) (after.map Decimal.value) := by
  cases before with
  | none =>
      cases after with
      | none => cases computed; exact Decimal.zero_value
      | some after => cases computed; exact Decimal.one_value
  | some before =>
      cases after with
      | none => cases computed; exact Decimal.one_value
      | some after =>
          obtain ⟨difference, subtracted, rounded⟩ := bind_eq_ok.mp computed
          rw [decimalContext.round_value rounded, decimalContext.round_value subtracted]
          rfl

/-- The move is the larger change of the two asks. -/
theorem executableMove_eq_ok {beforeYes beforeNo afterYes afterNo : List BookLevel} {move : Decimal}
    (computed : executableMove beforeYes beforeNo afterYes afterNo = .ok move) :
    move.value = max (askMove (impliedAsk beforeNo) (impliedAsk afterNo))
      (askMove (impliedAsk beforeYes) (impliedAsk afterYes)) := by
  simp only [executableMove, bind_eq_ok, pure_eq_ok] at computed
  obtain ⟨yes, yesBefore, no, noBefore, yes', yesAfter, no', noAfter, yesMove, yesMoved, noMove,
    noMoved, rfl⟩ := computed
  rw [Decimal.max_value, oneSideMove_eq_ok yesMoved, oneSideMove_eq_ok noMoved,
    bestAsk_eq_ok yesBefore, bestAsk_eq_ok noBefore, bestAsk_eq_ok yesAfter, bestAsk_eq_ok noAfter]

theorem askMove_nonneg (before after : Option ℚ) : 0 ≤ askMove before after := by
  cases before <;> cases after
  · exact le_rfl
  · exact zero_le_one
  · exact zero_le_one
  · exact DecimalContext.roundValue_nonneg (abs_nonneg _)

/-- An ask moves when it is another one, however small the difference. -/
theorem askMove_round_pos (x y : ℚ) :
    0 < askMove (some (decimalContext.roundValue x)) (some (decimalContext.roundValue y)) ↔
      decimalContext.roundValue x ≠ decimalContext.roundValue y := by
  obtain ⟨m, before⟩ := decimalContext.roundValue_units x
  obtain ⟨n, after⟩ := decimalContext.roundValue_units y
  generalize decimalContext.roundValue x = a at before ⊢
  generalize decimalContext.roundValue y = b at after ⊢
  have moves : 0 < askMove (some a) (some b) ↔ askMove (some a) (some b) ≠ 0 :=
    (askMove_nonneg _ _).lt_iff_ne.trans ne_comm
  rw [moves, ne_eq, ne_eq, not_iff_not]
  constructor
  · intro still
    by_contra other
    have difference : b - a = ((n - m : ℤ) : ℚ) * 10 ^ decimalContext.tinyExponent := by
      rw [before, after]
      push_cast
      ring
    have moved := decimalContext.roundValue_ne_zero (by decide) difference
      (sub_ne_zero.mpr (Ne.symm other))
    obtain ⟨k, units⟩ := decimalContext.roundValue_units (b - a)
    have size : |decimalContext.roundValue (b - a)| =
        ((|k| : ℤ) : ℚ) * 10 ^ decimalContext.tinyExponent := by
      have scale : (0 : ℚ) < 10 ^ decimalContext.tinyExponent := zpow_pos (by norm_num) _
      rw [units, abs_mul, abs_of_pos scale]
      push_cast
      rfl
    exact decimalContext.roundValue_ne_zero (by decide) size (abs_ne_zero.mpr moved) still
  · rintro rfl
    simp [askMove, DecimalContext.roundValue]

theorem askMove_pos {before after : List BookLevel} :
    0 < askMove (impliedAsk before) (impliedAsk after) ↔ impliedAsk before ≠ impliedAsk after := by
  cases before with
  | nil => cases after <;> simp [impliedAsk, askMove]
  | cons level rest =>
      cases after with
      | nil => simp [impliedAsk, askMove]
      | cons level' rest' =>
          simpa [impliedAsk] using
            askMove_round_pos (1 - level.price.value) (1 - level'.price.value)

/-! ## Exact prices -/

/-- A price of at most 80 decimal places. -/
def Places80 (price : Decimal) : Prop := ∃ n : ℤ, price.value = n * 10 ^ (-80 : ℤ)

/-- The best bid price of a ladder. -/
def bestPrice (bids : List BookLevel) : Option ℚ := bids.head?.map fun level => level.price.value

/-- The change of a best price: one where it appears or vanishes. -/
def priceMove : Option ℚ → Option ℚ → ℚ
  | none, none => 0
  | some before, some after => |after - before|
  | _, _ => 1

/-- The best price of the ladder is a probability of at most 80 decimal places. -/
def Exact80 (bids : List BookLevel) : Prop :=
  ∀ level, bids.head? = some level → 0 ≤ level.price ∧ level.price ≤ 1 ∧ Places80 level.price

/-- A number of at most 80 places, one at most in size, is kept by the context. -/
theorem round_places {x : ℚ} {n : ℤ} (places : x = n * 10 ^ (-80 : ℤ)) (small : |x| ≤ 1) :
    decimalContext.roundValue x = x := by
  rcases small.lt_or_eq with less | one
  · rcases eq_or_ne x 0 with rfl | nonzero
    · simp [DecimalContext.roundValue]
    refine decimalContext.roundValue_exact places ?_
    have upper : Int.log 10 |x| < 0 := by
      rw [← Int.lt_zpow_iff_log_lt (by norm_num) (abs_pos.mpr nonzero)]
      simpa using less
    unfold DecimalContext.quantum decimalContext
    simp only
    omega
  · have unit : x = (if 0 ≤ x then 1 else -1 : ℤ) * 10 ^ (0 : ℤ) := by
      rcases abs_eq zero_le_one |>.mp one with rfl | rfl <;> norm_num
    refine decimalContext.roundValue_exact unit ?_
    have log : Int.log 10 |x| = 0 := by rw [one]; simp
    unfold DecimalContext.quantum decimalContext
    rw [log]
    decide

theorem impliedAsk_exact {bids : List BookLevel} (exact80 : Exact80 bids) :
    impliedAsk bids = (bestPrice bids).map fun price => 1 - price := by
  cases bids with
  | nil => rfl
  | cons level rest =>
      obtain ⟨low, high, n, places⟩ := exact80 level rfl
      rw [Decimal.le_def, Decimal.zero_value] at low
      rw [Decimal.le_def, Decimal.one_value] at high
      have complement : 1 - level.price.value = ((10 ^ 80 - n : ℤ) : ℚ) * 10 ^ (-80 : ℤ) := by
        rw [places]
        push_cast
        rw [sub_mul]
        norm_num
      have kept := round_places complement (by rw [abs_le]; constructor <;> linarith)
      simp [impliedAsk, bestPrice, kept]

theorem askMove_exact {before after : List BookLevel} (exactBefore : Exact80 before)
    (exactAfter : Exact80 after) :
    askMove (impliedAsk before) (impliedAsk after) =
      priceMove (bestPrice before) (bestPrice after) := by
  rw [impliedAsk_exact exactBefore, impliedAsk_exact exactAfter]
  cases before with
  | nil => cases after <;> rfl
  | cons level rest =>
      cases after with
      | nil => rfl
      | cons level' rest' =>
          obtain ⟨low, high, m, places⟩ := exactBefore level rfl
          obtain ⟨low', high', n, places'⟩ := exactAfter level' rfl
          rw [Decimal.le_def, Decimal.zero_value] at low low'
          rw [Decimal.le_def, Decimal.one_value] at high high'
          have difference : (1 - level'.price.value) - (1 - level.price.value) =
              ((m - n : ℤ) : ℚ) * 10 ^ (-80 : ℤ) := by
            rw [places, places']
            push_cast
            ring
          have kept := round_places difference (by rw [abs_le]; constructor <;> linarith)
          have size : |(1 - level'.price.value) - (1 - level.price.value)| =
              ((|m - n| : ℤ) : ℚ) * 10 ^ (-80 : ℤ) := by
            have unit : (0 : ℚ) < 10 ^ (-80 : ℤ) := zpow_pos (by norm_num) _
            rw [difference, abs_mul, abs_of_pos unit]
            push_cast
            rfl
          have keptSize := round_places size
            (by rw [abs_abs, abs_le]; constructor <;> linarith)
          simp only [askMove, priceMove, bestPrice, List.head?_cons, Option.map_some, kept,
            keptSize]
          rw [abs_sub_comm]
          congr 1
          ring

/-! ## Accepted events -/

/-- The result of an accepted delta or of an accepted resnapshot of a book. -/
inductive Moved (s : BookState) (r : BookTransitionResult) : Prop where
  | delta (delta : BookDelta) (answer : applyBookDelta s delta = .ok r)
      (kind : r.acceptedEventKind = some .delta)
  | snapshot (snapshot : BookSnapshot) (answer : applyBookSnapshot s snapshot = .ok r)
      (kind : r.acceptedEventKind = some .snapshot)

theorem deltaLevels_move {s : BookState} {delta : BookDelta} {yesBids noBids : List BookLevel}
    {move : Decimal} (computed : deltaLevels s delta = .ok (some (yesBids, noBids, move))) :
    executableMove s.yesBids s.noBids yesBids noBids = .ok move := by
  unfold deltaLevels at computed
  rw [ite_eq_iff] at computed
  rcases computed with ⟨-, computed⟩ | ⟨-, computed⟩
  · simp at computed
  obtain ⟨level, built, computed⟩ := bind_eq_ok.mp computed
  obtain ⟨cross, -, computed⟩ := bind_eq_ok.mp computed
  rw [ite_eq_iff] at computed
  rcases computed with ⟨-, computed⟩ | ⟨-, computed⟩
  · simp at computed
  simp only [bind_eq_ok, pure_eq_ok, Option.some.injEq, Prod.mk.injEq] at computed
  obtain ⟨_, moved, rfl, rfl, rfl⟩ := computed
  exact moved

theorem Moved.move {s : BookState} {r : BookTransitionResult} (moved : Moved s r) :
    executableMove s.yesBids s.noBids r.state.yesBids r.state.noBids = .ok r.executableMove ∧
      r.topOfBookChanged = decide (0 < r.executableMove) := by
  cases moved with
  | delta delta answer kind =>
      obtain ⟨-, -, -, -, ⟨-, rfl⟩ | ⟨-, yesBids, noBids, move, digest, computed, -, -, rfl⟩⟩ :=
        applyBookDelta_cases answer
      · exact nomatch kind
      · exact ⟨deltaLevels_move computed, rfl⟩
  | snapshot snapshot answer kind =>
      obtain ⟨-, ⟨-, -, rfl⟩ | ⟨-, move, digest, computed, -, -, rfl⟩⟩ :=
        applyBookSnapshot_cases answer
      · exact nomatch kind
      · exact ⟨computed, rfl⟩

/-- An accepted event moves the book by the larger change of the two asks, and the
top of the book has changed when an ask has.  Where the four best prices have at
most 80 places these are the changes of the best bids. -/
theorem move_detected (s : BookState) (r : BookTransitionResult) (moved : Moved s r) :
    (r.topOfBookChanged = true ↔ impliedAsk s.yesBids ≠ impliedAsk r.state.yesBids ∨
      impliedAsk s.noBids ≠ impliedAsk r.state.noBids) ∧
    r.executableMove.value = max (askMove (impliedAsk s.yesBids) (impliedAsk r.state.yesBids))
      (askMove (impliedAsk s.noBids) (impliedAsk r.state.noBids)) ∧
    (Exact80 s.yesBids → Exact80 s.noBids → Exact80 r.state.yesBids → Exact80 r.state.noBids →
      (r.topOfBookChanged = true ↔ bestPrice s.yesBids ≠ bestPrice r.state.yesBids ∨
        bestPrice s.noBids ≠ bestPrice r.state.noBids) ∧
      r.executableMove.value = max (priceMove (bestPrice s.yesBids) (bestPrice r.state.yesBids))
        (priceMove (bestPrice s.noBids) (bestPrice r.state.noBids))) := by
  obtain ⟨computed, changed⟩ := moved.move
  have value := executableMove_eq_ok computed
  rw [max_comm] at value
  have general : r.topOfBookChanged = true ↔ impliedAsk s.yesBids ≠ impliedAsk r.state.yesBids ∨
      impliedAsk s.noBids ≠ impliedAsk r.state.noBids := by
    rw [changed, decide_eq_true_iff, Decimal.lt_def, Decimal.zero_value, value, lt_max_iff,
      askMove_pos, askMove_pos]
  refine ⟨general, value, fun yes no yes' no' => ?_⟩
  rw [← askMove_exact yes yes', ← askMove_exact no no', general]
  refine ⟨?_, value⟩
  have same {before after : List BookLevel} (one : Exact80 before) (other : Exact80 after) :
      impliedAsk before ≠ impliedAsk after ↔ bestPrice before ≠ bestPrice after := by
    have inj : Function.Injective (Option.map fun price : ℚ => 1 - price) :=
      Option.map_injective sub_right_injective
    rw [impliedAsk_exact one, impliedAsk_exact other, inj.ne_iff]
  rw [same yes yes', same no no']

/-! ## Prices with one ask -/

/-- A newer snapshot of an encodable book is accepted, with the move its ladders make. -/
theorem applyBookSnapshot_total {s : BookState} {snapshot : BookSnapshot} {move : Decimal}
    (replaceable : Replaceable s snapshot) (good : snapshot.postInit = .ok ())
    (encodes : Encodes snapshot.py)
    (status : statusTransitionAllowed s.marketStatus snapshot.marketStatus = true)
    (computed : executableMove s.yesBids s.noBids snapshot.yesBids snapshot.noBids = .ok move)
    (range : 0 ≤ move ∧ move ≤ 1) :
    ∃ r, applyBookSnapshot s snapshot = .ok r ∧ r.acceptedEventKind = some .snapshot ∧
      r.state.yesBids = snapshot.yesBids ∧ r.state.noBids = snapshot.noBids := by
  obtain ⟨digest, encoded⟩ :=
    (domainSha256_total "INCI-EXPERT-CONTRACT-SHA256-V1" snapshot.py).mpr encodes
  have digests := domainSha256_isSha256 encoded
  simp only [BookSnapshot.postInit, bind_eq_ok, exists_unit, integer_eq_ok, positiveInteger_eq_ok]
    at good
  obtain ⟨ticker, epoch, sequence, close, source, observed, uncertainty, ladders⟩ := good
  obtain ⟨sameTicker, untrusted, gap, newer, bookTime, lifecycleTime⟩ := replaceable
  have state : (snapshotState snapshot move digest).postInit = .ok () := by
    simp [BookState.postInit, snapshotState, ticker, epoch, sequence, close, source, observed,
      uncertainty, ladders, range, digests]
  have result : (accepted (snapshotState snapshot move digest) .snapshot
      snapshot.observedMonotonicNs (decide (0 < move))).postInit = .ok () := by
    simp [BookTransitionResult.postInit, accepted, snapshotState, digests, range, observed, epoch,
      sequence]
    exact decide_eq_decide.mpr Iff.rfl
  refine ⟨accepted (snapshotState snapshot move digest) .snapshot snapshot.observedMonotonicNs
    (decide (0 < move)), ?_, rfl, rfl, rfl⟩
  have time : ¬snapshot.observedMonotonicNs <
      max s.bookObservedMonotonicNs s.lifecycleObservedMonotonicNs :=
    not_lt.mpr (max_le bookTime lifecycleTime)
  simp only [applyBookSnapshot, sameTicker, untrusted, gap, status, computed, expertContractSha256,
    encoded, ok_bind, refuse_ok, arithmetic, recover, BookState.construct_eq_ok.mpr ⟨state, rfl⟩,
    refuse_ok _ time, refuse_ok _ (not_lt.mpr newer.le), refuse_ok _ newer.ne', ne_eq, not_true,
    not_false_iff, reduceCtorEq, or_self, if_false]
  exact BookTransitionResult.construct_eq_ok.mpr ⟨result, rfl⟩

/-- The first and the second unit of the 81st place. -/
def fine (n : ℕ) : Decimal := ⟨n / 10 ^ 81, 81, n, by norm_num⟩

def fineBook (n epoch : ℕ) : BookSnapshot :=
  { openingBook with
    connectionEpoch := epoch
    yesBids := [⟨fine n, 1⟩] }

theorem fine_ask {n : ℕ} (small : n = 1 ∨ n = 2) : contextSub 1 (fine n) = .ok 1 := by
  have value : (1 : Decimal).value - (fine n).value = 1 - n / 10 ^ 81 := by
    rw [Decimal.one_value]
    rfl
  have rounded : decimalContext.roundValue (1 - n / 10 ^ 81) = 1 := by
    have below : (1 : ℚ) - n / 10 ^ 81 < 1 := by
      rcases small with rfl | rfl <;> norm_num
    have above : (1 : ℚ) / 10 ≤ 1 - n / 10 ^ 81 := by
      rcases small with rfl | rfl <;> norm_num
    have log : Int.log 10 ((1 : ℚ) - n / 10 ^ 81) = -1 := by
      have lower : (-1 : ℤ) ≤ Int.log 10 ((1 : ℚ) - n / 10 ^ 81) := by
        rw [← Int.zpow_le_iff_le_log (by norm_num) (by linarith)]
        norm_num at above ⊢
        exact above
      have upper : Int.log 10 ((1 : ℚ) - n / 10 ^ 81) < 0 := by
        rw [← Int.lt_zpow_iff_log_lt (by norm_num) (by linarith)]
        simpa using below
      omega
    have quantum : decimalContext.quantum (1 - n / 10 ^ 81) = -80 := by
      unfold DecimalContext.quantum decimalContext
      rw [abs_of_pos (by linarith), log]
      decide
    unfold DecimalContext.roundValue
    rw [if_neg (by linarith), quantum]
    have nearest : roundHalfEven ((1 - (n : ℚ) / 10 ^ 81) / 10 ^ (-80 : ℤ)) = 10 ^ 80 := by
      have scaled : (1 - (n : ℚ) / 10 ^ 81) / 10 ^ (-80 : ℤ) = 10 ^ 80 - n / 10 := by
        rcases small with rfl | rfl <;> norm_num
      have floor : ⌊(10 : ℚ) ^ 80 - n / 10⌋ = 10 ^ 80 - 1 := by
        rw [Int.floor_eq_iff]
        rcases small with rfl | rfl <;> norm_num
      rw [scaled, roundHalfEven, floor]
      rcases small with rfl | rfl <;> norm_num
    rw [nearest]
    norm_num
  unfold contextSub
  rw [value, decimalContext.round_total _ (by decide) (by rw [rounded]; norm_num)]
  congr 1
  exact Decimal.ext' rounded

theorem fineBook_good (n epoch : ℕ) (small : n = 1 ∨ n = 2) (early : epoch ≤ 2) :
    (fineBook n epoch).postInit = .ok () ∧ (fineBook n epoch).LevelsBuilt ∧
      Encodes (fineBook n epoch).py := by
  have bound : 2 < integerBound := by norm_num [integerBound]
  have ticker : Ticker "MATCH-HOME" := by decide
  refine ⟨?_, ?_, ?_⟩
  · simp [BookSnapshot.postInit, fineBook, openingBook, ticker, validateBookLadders,
      validateLadder, crossed, integerBound_pos]
    omega
  · intro side level member
    cases side <;> simp [fineBook, openingBook, BookSnapshot.bids] at member
    subst member
    rcases small with rfl | rfl <;>
      simp [BookLevel.postInit, fine, Decimal.le_def, Decimal.lt_def] <;> norm_num
  · rcases small with rfl | rfl <;>
      simp [BookSnapshot.py, fineBook, openingBook, Encodes, EncodesFields, EncodesAll,
        MarketStatus.py, integerBound_pos, BookLevel.py] <;>
      refine ⟨by omega, by omega, ?_, ?_⟩ <;> decide +kernel

/-- Two books with one ask: the best bid doubles in the 81st place. -/
theorem fine_moved : ∃ s r, s.postInit = .ok () ∧ s.LevelsBuilt ∧ Moved s r ∧
    s.yesBids = [⟨fine 1, 1⟩] ∧ r.state.yesBids = [⟨fine 2, 1⟩] ∧ r.executableMove = 0 := by
  obtain ⟨good, built, encodes⟩ := fineBook_good 1 1 (.inl rfl) (by decide)
  obtain ⟨good', built', encodes'⟩ := fineBook_good 2 2 (.inr rfl) (by decide)
  obtain ⟨opened, opens⟩ := bookFromSnapshot_total _ good encodes
  obtain ⟨digest, -, constructed, rfl⟩ := bookFromSnapshot_cases opens
  have zero : decimalContext.roundValue 0 = 0 := by simp [DecimalContext.roundValue]
  have subtracted : contextSub 1 1 = .ok 0 := by
    unfold contextSub
    rw [sub_self, decimalContext.round_total _ (by decide) (by rw [zero]; norm_num)]
    exact congrArg Except.ok (Decimal.ext' (zero.trans Decimal.zero_value.symm))
  have size : decimalContext.round ExpertError.decimal |(0 : Decimal).value| = .ok 0 := by
    rw [Decimal.zero_value, abs_zero,
      decimalContext.round_total _ (by decide) (by rw [zero]; norm_num)]
    exact congrArg Except.ok (Decimal.ext' (zero.trans Decimal.zero_value.symm))
  have still : executableMove [⟨fine 1, 1⟩] [] [⟨fine 2, 1⟩] [] = .ok 0 := by
    have none : bestAsk [] = .ok none := rfl
    have some (n : ℕ) (small : n = 1 ∨ n = 2) : bestAsk [⟨fine n, 1⟩] = .ok (some 1) := by
      show Option.some <$> contextSub 1 (fine n) = _
      rw [fine_ask small]
      rfl
    have same : oneSideMove (.some 1) (.some 1) = .ok 0 := by
      show (contextSub 1 1 >>= fun difference =>
        decimalContext.round ExpertError.decimal |difference.value|) = _
      rw [subtracted, ok_bind, size]
    have absent : oneSideMove .none .none = .ok 0 := rfl
    simp only [executableMove, none, some 1 (.inl rfl), some 2 (.inr rfl), ok_bind, same, absent,
      max_self]
    rfl
  obtain ⟨r, answer, kind, yes, no⟩ := applyBookSnapshot_total
    (s := gapped (snapshotState (fineBook 1 1) 0 digest))
    (show Replaceable _ (fineBook 2 2) from ⟨rfl, rfl, rfl, Nat.one_lt_two, le_rfl, le_rfl⟩) good'
    encodes' rfl still (by simp [Decimal.le_def])
  have moved : Moved (gapped (snapshotState (fineBook 1 1) 0 digest)) r := .snapshot _ answer kind
  refine ⟨_, r, gapped_postInit constructed, ?_, moved, rfl, yes, ?_⟩
  · intro side
    cases side
    · exact built .yes
    · exact built .no
  · have unchanged := moved.move
    rw [yes, no] at unchanged
    exact Except.ok.inj (unchanged.1.symm.trans still)

/-- The best bid of a book has doubled, and the top of the book has not changed. -/
theorem price_change_unseen : ∃ s r, s.postInit = .ok () ∧ s.LevelsBuilt ∧ Moved s r ∧
    bestPrice s.yesBids ≠ bestPrice r.state.yesBids ∧ r.topOfBookChanged = false := by
  obtain ⟨s, r, good, built, moved, before, after, still⟩ := fine_moved
  refine ⟨s, r, good, built, moved, ?_, ?_⟩
  · rw [before, after]
    simp only [bestPrice, fine, List.head?_cons, Option.map_some]
    norm_num
  · rw [moved.move.2, still]
    simp

/-- The asks of that book are its asks of before. -/
theorem price_change_seen : ∃ s r, Moved s r ∧ bestPrice s.yesBids ≠ bestPrice r.state.yesBids ∧
    (r.topOfBookChanged = true ↔ impliedAsk s.yesBids ≠ impliedAsk r.state.yesBids ∨
      impliedAsk s.noBids ≠ impliedAsk r.state.noBids) := by
  obtain ⟨s, r, -, -, moved, before, after, -⟩ := fine_moved
  refine ⟨s, r, moved, ?_, (move_detected s r moved).1⟩
  rw [before, after]
  simp only [bestPrice, fine, List.head?_cons, Option.map_some]
  norm_num

end Inci.Market
