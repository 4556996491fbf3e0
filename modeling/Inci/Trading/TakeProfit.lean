/-
# Trading.TakeProfit -- the entry gate guarantees the exit

The paper path of one clip with decimals taken as exact: the projection the entry is gated by,
the attempt of an order against the book, and the result `record_fill` realizes.

A sale nets its revenue less the settled fee, which is the revenue less the trade fee, floored to
the account's precision.  The trade fee grows by at most seven hundredths of what the revenue
does, and its ceiling by a centicent more, so one price step that moves the revenue by a centicent
pays for both (`proceeds_mono`).  A projection that is positive at the target is then positive at
every bid from there on, and the gate and the ledger compute just that (`take_profit_realizes`).
A bid between the price steps of a small clip can lose the gain (`between_steps_loses`).
-/
import Inci.Trading.Executor
import Inci.Trading.FeeLaw

namespace Inci.Trading

open Inci.Theory

set_option autoImplicit false

namespace Exact

/-! ## The program -/

/-- `projected_scalp_pnl_usd`; the slippage is not used. -/
def projectedScalpPnlUsd (askCents tpCents contracts balancePrecisionUsd : ℚ) :
    Except EngineError ℚ := do
  let entry := min 99 askCents
  let exitFill := min 99 (entry + tpCents)
  let gross := (exitFill - entry) * contracts / 100
  let entryFee ← feeUsd entry contracts 1 .buy balancePrecisionUsd
  let exitFee ← feeUsd exitFill contracts 1 .sell balancePrecisionUsd
  return gross - entryFee - exitFee

/-- The fields of `Config` that an attempt reads. -/
structure PaperConfig where
  takeProfit : ℚ
  simSlippageCents : ℚ
  balancePrecisionUsd : ℚ

/-- What an attempt reads of a `PendingPaperOrder`. -/
structure PaperOrder where
  side : OrderSide
  contracts : ℚ
  reason : String
  limitPrice : Option ℚ
  entryPrice : Option ℚ
  entryContracts : Option ℚ
  entryFeeUsd : Option ℚ

/-- `top_of_book` -/
structure Quote where
  bid : Option ℚ
  bidQty : Option ℚ
  ask : Option ℚ
  askQty : Option ℚ

/-- A price, a quantity and a fee. -/
structure PaperFill where
  price : ℚ
  filled : ℚ
  fee : ℚ
  deriving DecidableEq

/-- The price and the depth an order meets, unless its bound refuses them. -/
def arrivalPrice (cfg : PaperConfig) (order : PaperOrder) (book : Quote) :
    Option (ℚ × Option ℚ) :=
  match order.side with
  | .buy => do
      let ask ← book.ask
      if ∃ limit ∈ order.limitPrice, limit < ask then none else some (ask, book.askQty)
  | .sell => do
      let bid ← book.bid
      if isStop order.reason then some (max 0 (bid - cfg.simSlippageCents), book.bidQty)
      else if isTime order.reason then some (bid, book.bidQty)
      else if ∃ limit ∈ order.limitPrice, bid < limit then none
      else some (bid, book.bidQty)

/-- What a take-profit SELL earns over its cost basis, when the basis is usable. -/
def basisPnl (order : PaperOrder) (price filled fee : ℚ) : Option ℚ := do
  let entryPrice ← order.entryPrice
  let entryContracts ← order.entryContracts
  let entryFee ← order.entryFeeUsd
  if entryContracts ≤ 0 ∨ entryFee < 0 ∨ entryContracts < filled then none
  else
    let entryFeePart := entryFee * filled / entryContracts
    some ((price - entryPrice) * filled / 100 - fee - entryFeePart)

/-- `_paper_fill` -/
def paperFill (cfg : PaperConfig) (order : PaperOrder) (book : Quote) :
    Except EngineError (Option PaperFill) :=
  match arrivalPrice cfg order book with
  | none => .ok none
  | some (price, depth) =>
      let filled := min order.contracts (depth.getD 0)
      if filled ≤ 0 then .ok none
      else do
        let loses ← match order.side with
          | .buy => do
              let projected ← projectedScalpPnlUsd price cfg.takeProfit filled
                cfg.balancePrecisionUsd
              pure (decide (projected ≤ 0))
          | .sell => pure false
        if loses then pure none
        else do
          let fee ← feeUsd price filled 1 order.side cfg.balancePrecisionUsd
          if order.side = .sell ∧ ¬isStop order.reason ∧ ¬isTime order.reason then
            match basisPnl order price filled fee with
            | none => pure none
            | some projected => pure (if projected ≤ 0 then none else some ⟨price, filled, fee⟩)
          else pure (some ⟨price, filled, fee⟩)

structure Position where
  entryPrice : ℚ
  contracts : ℚ
  entryFeeUsd : ℚ

/-- The position of a ticker and the session's result. -/
structure Book where
  position : Option Position
  realizedPnl : ℚ

/-- `record_fill` -/
def recordFill (book : Book) (side : OrderSide) (fill : PaperFill) : Book :=
  if fill.filled ≤ 0 then book
  else match side, book.position with
    | .buy, none => { book with position := some ⟨fill.price, fill.filled, fill.fee⟩ }
    | .buy, some pos =>
        let total := pos.contracts + fill.filled
        let entryPrice := (pos.entryPrice * pos.contracts + fill.price * fill.filled) / total
        { book with position := some ⟨entryPrice, total, pos.entryFeeUsd + fill.fee⟩ }
    | .sell, none => book
    | .sell, some pos =>
        let closing := min fill.filled pos.contracts
        let frac := closing / pos.contracts
        let entryFeePart := pos.entryFeeUsd * frac
        let pnl := (fill.price - pos.entryPrice) * closing / 100 - fill.fee - entryFeePart
        let left := pos.contracts - closing
        ⟨if left = 0 then none
          else some { pos with contracts := left, entryFeeUsd := pos.entryFeeUsd - entryFeePart },
          book.realizedPnl + pnl⟩

/-! ## Proceeds -/

/-- The estimate's fee as a number: the settled trade fee. -/
def feeOf (unit priceCents contracts : ℚ) (side : OrderSide) : ℚ :=
  settled unit (revenue priceCents contracts side) (tradeFeeUsd priceCents contracts 1)

theorem feeUsd_iff {unit price q fee : ℚ} {side : OrderSide} :
    feeUsd price q 1 side unit = .ok fee ↔
      (0 ≤ q ∧ (0 ≤ price ∧ price ≤ 100) ∧ Precision unit) ∧ feeOf unit price q side = fee := by
  have valid : ¬(q < 0 ∨ ¬(0 ≤ price / 100 ∧ price / 100 ≤ 1) ∨
      (unit ≠ 1 / 100 ∧ unit ≠ 1 / 10000)) ↔ 0 ≤ q ∧ (0 ≤ price ∧ price ≤ 100) ∧ Precision unit := by
    have low : 0 ≤ price / 100 ↔ 0 ≤ price := by
      constructor <;> intro <;> linarith
    have high : price / 100 ≤ 1 ↔ price ≤ 100 := div_le_one (by norm_num)
    rw [low, high]
    unfold Precision
    constructor
    · intro accepted
      have parts := not_or.mp accepted
      have rest := not_or.mp parts.2
      exact ⟨not_lt.mp parts.1, not_not.mp rest.1, by tauto⟩
    · rintro ⟨nonneg, priced, known⟩ (negative | outside | unknown)
      · exact absurd nonneg (not_le.mpr negative)
      · exact outside priced
      · tauto
  unfold feeUsd
  by_cases accepted : 0 ≤ q ∧ (0 ≤ price ∧ price ≤ 100) ∧ Precision unit
  · rw [if_neg (valid.mpr accepted)]
    refine ⟨fun answered => ⟨accepted, Except.ok.inj answered⟩, fun charged => ?_⟩
    exact congrArg Except.ok charged.2
  · rw [if_pos (not_not.mp fun refused => accepted (valid.mp refused))]
    constructor
    · intro answered
      exact nomatch answered
    · intro charged
      exact absurd charged.1 accepted

/-- What a sale nets. -/
def proceeds (unit priceCents contracts : ℚ) : ℚ :=
  priceCents / 100 * contracts - feeOf unit priceCents contracts .sell

theorem proceeds_eq (unit price q : ℚ) :
    proceeds unit price q = floorTo unit (price / 100 * q - tradeFeeUsd price q 1) := by
  have sold : revenue price q .sell = price / 100 * q := mul_one _
  unfold proceeds feeOf
  rw [sold, sub_settled]

section

variable {unit x y q : ℚ}

/-- Seven hundredths of a centicent's worth round up to no more than it. -/
theorem ceil_share_le {worth : ℚ} (least : 1 / 10000 ≤ worth) :
    ceilTo (1 / 10000) (7 / 100 * worth) ≤ worth := by
  have positive : (0 : ℚ) < 1 / 10000 := by norm_num
  by_cases small : 7 / 100 * worth ≤ 1 / 10000
  · have one : (1 / 10000 : ℚ) ∈ grid (1 / 10000 : ℚ) := mem_grid.mpr ⟨1, by norm_num⟩
    exact ((ceilTo_isLeast positive _).2 ⟨one, small⟩).trans least
  · have near := ceilTo_lt_add positive (7 / 100 * worth)
    linarith

/-- The trade fee grows by less than the revenue does, where a price step is worth a centicent. -/
theorem tradeFee_step (low : 0 ≤ x) (order : x ≤ y) (nonneg : 0 ≤ q)
    (step : x = y ∨ 1 / 100 ≤ q * (y - x)) :
    tradeFeeUsd y q 1 - tradeFeeUsd x q 1 ≤ y / 100 * q - x / 100 * q := by
  rcases step with rfl | step
  · simp
  let worth := q * (y - x) / 100
  have positive : (0 : ℚ) < 1 / 10000 := by norm_num
  have concave : 1 * (7 / 100) * q * (y / 100) * (1 - y / 100) ≤
      1 * (7 / 100) * q * (x / 100) * (1 - x / 100) + 7 / 100 * worth := by
    have sum : 0 ≤ q * (y - x) * (x + y) :=
      mul_nonneg (mul_nonneg nonneg (by linarith)) (by linarith)
    show _ ≤ _ + 7 / 100 * (q * (y - x) / 100)
    linarith
  calc tradeFeeUsd y q 1 - tradeFeeUsd x q 1
      ≤ ceilTo (1 / 10000) (7 / 100 * worth) := by
        have raised := (ceilTo_le_of_le positive concave).trans (ceilTo_add_le positive _ _)
        unfold tradeFeeUsd
        linarith
    _ ≤ worth := ceil_share_le (show 1 / 10000 ≤ q * (y - x) / 100 by linarith)
    _ = y / 100 * q - x / 100 * q := by ring

/-- The net proceeds do not fall with the bid. -/
theorem proceeds_mono (positive : 0 < unit) (low : 0 ≤ x) (order : x ≤ y) (nonneg : 0 ≤ q)
    (step : x = y ∨ 1 / 100 ≤ q * (y - x)) : proceeds unit x q ≤ proceeds unit y q := by
  rw [proceeds_eq, proceeds_eq]
  have grows := tradeFee_step low order nonneg step
  exact floorTo_mono positive (by linarith)

end

/-! ## The round trip -/

/-- The price steps: whole cents for hundredths of a contract, hundredths of a cent for a whole
contract and more. -/
def Grain (step q : ℚ) : Prop :=
  (step = 1 ∧ ∃ n : ℕ, 0 < n ∧ q = n / 100) ∨ (step = 1 / 100 ∧ 1 ≤ q)

section

variable {step q unit : ℚ}

/-- A step is worth a centicent. -/
theorem Grain.worth (grain : Grain step q) :
    0 < q ∧ 0 < step ∧ 1 / 100 ≤ q * step ∧ (99 : ℚ) ∈ grid step := by
  rcases grain with ⟨rfl, n, some, rfl⟩ | ⟨rfl, whole⟩
  · have one : (1 : ℚ) ≤ n := by exact_mod_cast some
    refine ⟨by linarith, by norm_num, by linarith, mem_grid.mpr ⟨99, by norm_num⟩⟩
  · exact ⟨by linarith, by norm_num, by linarith, mem_grid.mpr ⟨9900, by norm_num⟩⟩

theorem Grain.apart {x y : ℚ} (grain : Grain step q) (first : x ∈ grid step) (second : y ∈ grid step)
    (order : x ≤ y) : x = y ∨ 1 / 100 ≤ q * (y - x) := by
  obtain ⟨some, positive, worth, -⟩ := grain.worth
  refine (grid_apart positive first second order).imp id fun apart => ?_
  exact worth.trans (mul_le_mul_of_nonneg_left apart some.le)

theorem fee_nonneg {price : ℚ} {side : OrderSide} (known : Precision unit) (nonneg : 0 ≤ q)
    (low : 0 ≤ price) (high : price ≤ 100) : 0 ≤ feeOf unit price q side := by
  have raised := (settled_near known.positive (revenue price q side) (tradeFeeUsd price q 1)).1
  have raw : 0 ≤ 1 * (7 / 100) * q * (price / 100) * (1 - price / 100) := by
    have rest : 0 ≤ 1 - price / 100 := by linarith
    positivity
  have least := (ceilTo_isLeast (show (0 : ℚ) < 1 / 10000 by norm_num)
    (1 * (7 / 100) * q * (price / 100) * (1 - price / 100))).1.2
  unfold feeOf
  unfold tradeFeeUsd at raised ⊢
  linarith

/-- What a positive projection says: the entry is at the price itself, both fees are known, and
the sale at the target nets more than the purchase cost. -/
theorem projected_gains {p tp edge : ℚ} (positive : 0 < q)
    (projected : projectedScalpPnlUsd p tp q unit = .ok edge) (gains : 0 < edge) :
    0 ≤ min 99 (p + tp) ∧ feeUsd p q 1 .buy unit = .ok (feeOf unit p q .buy) ∧
      0 ≤ feeOf unit p q .buy ∧
      edge = proceeds unit (min 99 (p + tp)) q - (p / 100 * q + feeOf unit p q .buy) := by
  obtain ⟨entryFee, bought, rest⟩ := bind_eq_ok.mp projected
  obtain ⟨exitFee, sold, total⟩ := bind_eq_ok.mp rest
  obtain ⟨⟨-, ⟨low, high⟩, known⟩, rfl⟩ := feeUsd_iff.mp bought
  obtain ⟨⟨-, ⟨low', high'⟩, -⟩, rfl⟩ := feeUsd_iff.mp sold
  have paid := @fee_nonneg q unit _ .buy known positive.le low high
  have paid' := @fee_nonneg q unit _ .sell known positive.le low' high'
  obtain rfl := Except.ok.inj total
  by_cases cheap : p ≤ 99
  · rw [min_eq_right cheap] at *
    refine ⟨low', bought, paid, ?_⟩
    unfold proceeds
    ring
  · -- above 99 the target is not above the entry
    have dear : min 99 p = 99 := min_eq_left (le_of_not_ge cheap)
    rw [dear] at gains paid paid'
    have short : (min 99 (99 + tp) - 99) * q ≤ 0 :=
      mul_nonpos_of_nonpos_of_nonneg (by linarith [min_le_left 99 (99 + tp)]) positive.le
    linarith

end

/-- A take-profit SELL of a whole position, bounded by no more than the bid. -/
structure TakesProfit (order : PaperOrder) (p q entryFee b : ℚ) : Prop where
  side : order.side = .sell
  contracts : order.contracts = q
  stop : isStop order.reason = false
  time : isTime order.reason = false
  limit : ∀ limit ∈ order.limitPrice, limit ≤ b
  entryPrice : order.entryPrice = some p
  entryContracts : order.entryContracts = some q
  entryFeeUsd : order.entryFeeUsd = some entryFee

section

variable {p q entryFee b fee : ℚ}

/-- The gate passes a take-profit SELL that nets more than its cost. -/
theorem paperFill_takesProfit {cfg : PaperConfig} {order : PaperOrder} {book : Quote} {depth : ℚ}
    (positive : 0 < q) (takes : TakesProfit order p q entryFee b) (bid : book.bid = some b)
    (deep : book.bidQty = some depth) (enough : q ≤ depth)
    (charged : feeUsd b q 1 .sell cfg.balancePrecisionUsd = .ok fee) (paid : 0 ≤ entryFee)
    (gains : 0 < (b - p) * q / 100 - fee - entryFee) :
    paperFill cfg order book = .ok (some ⟨b, q, fee⟩) := by
  have unbounded : ¬∃ limit ∈ order.limitPrice, b < limit := by
    rintro ⟨limit, bound, above⟩
    exact absurd (takes.limit limit bound) (not_le.mpr above)
  have arrives : arrivalPrice cfg order book = some (b, some depth) := by
    unfold arrivalPrice
    simp only [takes.side, bid, takes.stop, takes.time, Option.bind_eq_bind, Option.bind_some,
      Bool.false_eq_true, if_false, if_neg unbounded, deep]
  have whole : min q depth = q := min_eq_left enough
  have basis : basisPnl order b q fee = some ((b - p) * q / 100 - fee - entryFee) := by
    have usable : ¬(q ≤ 0 ∨ entryFee < 0 ∨ q < q) := by
      rintro (none | negative | less)
      · exact absurd positive (not_lt.mpr none)
      · exact absurd paid (not_le.mpr negative)
      · exact absurd less (lt_irrefl q)
    have part : entryFee * q / q = entryFee := mul_div_cancel_right₀ entryFee positive.ne'
    unfold basisPnl
    simp only [takes.entryPrice, takes.entryContracts, takes.entryFeeUsd, Option.bind_eq_bind,
      Option.bind_some, if_neg usable, part]
  unfold paperFill
  simp only [arrives, takes.contracts, Option.getD_some, whole, if_neg (not_le.mpr positive),
    takes.side, takes.stop, takes.time, pure_bind, Bool.false_eq_true, if_false, charged, ok_bind,
    not_false_eq_true, and_self, if_true, basis, if_neg (not_le.mpr gains)]
  rfl

/-- Closing the position realizes what the sale nets over its cost. -/
theorem recordFill_round (book : Book) (flat : book.position = none) (positive : 0 < q) :
    recordFill (recordFill book .buy ⟨p, q, entryFee⟩) .sell ⟨b, q, fee⟩ =
      ⟨none, book.realizedPnl + ((b - p) * q / 100 - fee - entryFee)⟩ := by
  have bought : recordFill book .buy ⟨p, q, entryFee⟩ =
      ⟨some ⟨p, q, entryFee⟩, book.realizedPnl⟩ := by
    unfold recordFill
    simp only [if_neg (not_le.mpr positive), flat]
  have all : q / q = 1 := div_self positive.ne'
  rw [bought]
  unfold recordFill
  simp only [if_neg (not_le.mpr positive), min_self, all, mul_one, sub_self, if_true]

end

end Exact

/-- The entry gate guarantees the take-profit exit.  Of a quantity whose price steps are worth a
centicent the net proceeds do not fall with the bid.  Bought at a price of positive projection, it
passes the gate of a take-profit SELL at every bid on the steps from the target on, and the ledger
realizes a gain. -/
theorem take_profit_realizes {step q unit : ℚ} (grain : Exact.Grain step q)
    (known : Exact.Precision unit) :
    (∀ x ∈ grid step, ∀ y ∈ grid step, 0 ≤ x → x ≤ y → y ≤ 100 → ∃ fee fee',
      Exact.feeUsd x q 1 .sell unit = .ok fee ∧ Exact.feeUsd y q 1 .sell unit = .ok fee' ∧
      x / 100 * q - fee ≤ y / 100 * q - fee') ∧
    ∀ p ∈ grid step, ∀ tp ∈ grid step, ∀ edge,
      Exact.projectedScalpPnlUsd p tp q unit = .ok edge → 0 < edge →
      ∃ entryFee, Exact.feeUsd p q 1 .buy unit = .ok entryFee ∧
        ∀ b ∈ grid step, min 99 (p + tp) ≤ b → b ≤ 99 →
        ∃ fee, Exact.feeUsd b q 1 .sell unit = .ok fee ∧
        ∀ (cfg : Exact.PaperConfig) (order : Exact.PaperOrder) (quote : Exact.Quote)
          (book : Exact.Book), cfg.balancePrecisionUsd = unit →
          Exact.TakesProfit order p q entryFee b → quote.bid = some b →
          (∃ depth, quote.bidQty = some depth ∧ q ≤ depth) → book.position = none →
          Exact.paperFill cfg order quote = .ok (some ⟨b, q, fee⟩) ∧
          book.realizedPnl < (Exact.recordFill (Exact.recordFill book .buy ⟨p, q, entryFee⟩) .sell
            ⟨b, q, fee⟩).realizedPnl := by
  obtain ⟨positive, -, -, top⟩ := grain.worth
  refine ⟨?_, ?_⟩
  · intro x first y second low order high
    have cheap := (@Exact.feeUsd_iff unit x q (Exact.feeOf unit x q .sell) .sell).mpr
      ⟨⟨positive.le, ⟨low, order.trans high⟩, known⟩, rfl⟩
    have dear := (@Exact.feeUsd_iff unit y q (Exact.feeOf unit y q .sell) .sell).mpr
      ⟨⟨positive.le, ⟨low.trans order, high⟩, known⟩, rfl⟩
    exact ⟨_, _, cheap, dear, Exact.proceeds_mono known.positive low order positive.le
      (grain.apart first second order)⟩
  · intro p entry tp target edge projected gains
    obtain ⟨low, bought, paid, total⟩ := Exact.projected_gains positive projected gains
    refine ⟨_, bought, fun b onGrid reached most => ?_⟩
    have targetOnGrid : min 99 (p + tp) ∈ grid step := by
      rcases min_choice 99 (p + tp) with same | same
      · rw [same]
        exact top
      · rw [same]
        exact add_mem entry target
    have more := Exact.proceeds_mono known.positive low reached positive.le
      (grain.apart targetOnGrid onGrid reached)
    have charged := (@Exact.feeUsd_iff unit b q (Exact.feeOf unit b q .sell) .sell).mpr
      ⟨⟨positive.le, ⟨low.trans reached, most.trans (by norm_num)⟩, known⟩, rfl⟩
    refine ⟨_, charged, fun cfg order quote book precision takes bid deep flat => ?_⟩
    obtain ⟨depth, depthIs, enough⟩ := deep
    subst precision
    have net : 0 < (b - p) * q / 100 - Exact.feeOf cfg.balancePrecisionUsd b q .sell -
        Exact.feeOf cfg.balancePrecisionUsd p q .buy := by
      unfold Exact.proceeds at more total
      linarith
    refine ⟨Exact.paperFill_takesProfit positive takes bid depthIs enough charged paid net, ?_⟩
    rw [Exact.recordFill_round book flat positive]
    exact lt_add_of_pos_right _ net

/-- A take-profit SELL of ten contracts bought at fifty cents. -/
def evenOrder : Exact.PaperOrder := ⟨.sell, 10, "take-profit", none, some 50, some 10, some (9 / 50)⟩

theorem take_profit_realizes_even : ∃ fee, Exact.paperFill ⟨5, 1, 1 / 100⟩ evenOrder
    ⟨some 57, some 12, some 58, some 3⟩ = .ok (some ⟨57, 10, fee⟩) := by
  have onGrid (n : ℕ) : (n : ℚ) ∈ grid (1 : ℚ) := mem_grid.mpr ⟨n, by norm_num⟩
  have grain : Exact.Grain 1 10 := .inl ⟨rfl, 1000, by norm_num, by norm_num⟩
  obtain ⟨entryFee, bought, sells⟩ := (take_profit_realizes grain (.inl rfl)).2 50 (onGrid 50) 5
    (onGrid 5) (7 / 50) (by decide +kernel) (by norm_num)
  have paid : Exact.feeUsd 50 10 1 .buy (1 / 100) = .ok (9 / 50) := by decide +kernel
  obtain rfl := Except.ok.inj (bought.symm.trans paid)
  obtain ⟨fee, -, fills⟩ := sells 57 (onGrid 57) (by norm_num) (by norm_num)
  exact ⟨fee, (fills ⟨5, 1, 1 / 100⟩ evenOrder ⟨some 57, some 12, some 58, some 3⟩ ⟨none, 0⟩ rfl
    ⟨rfl, rfl, by decide, by decide, by decide, rfl, rfl, rfl⟩ rfl ⟨12, rfl, by norm_num⟩ rfl).1⟩

/-- A hundredth of a contract, bought at fourteen cents for a target of three. -/
def smallOrder : Exact.PaperOrder :=
  ⟨.sell, 1 / 100, "take-profit", none, some 14, some (1 / 100), some (1 / 10000)⟩

theorem between_steps_loses :
    ¬∀ (p tp q b unit edge entryFee : ℚ) (cfg : Exact.PaperConfig) (order : Exact.PaperOrder)
      (quote : Exact.Quote), Exact.Precision unit → (∃ n : ℕ, p = n) →
      (∃ n : ℕ, 0 < n ∧ q = n / 100) → Exact.projectedScalpPnlUsd p tp q unit = .ok edge → 0 < edge →
      Exact.feeUsd p q 1 .buy unit = .ok entryFee → min 99 (p + tp) ≤ b → b ≤ 99 →
      cfg.balancePrecisionUsd = unit → Exact.TakesProfit order p q entryFee b →
      quote.bid = some b → quote.bidQty = some q →
      ∃ fill, Exact.paperFill cfg order quote = .ok (some fill) := by
  intro passes
  obtain ⟨fill, passed⟩ := passes 14 3 (1 / 100) (173 / 10) (1 / 10000) (1 / 10000) (1 / 10000)
    ⟨3, 0, 1 / 10000⟩ smallOrder ⟨some (173 / 10), some (1 / 100), none, none⟩ (.inr rfl) ⟨14, rfl⟩
    ⟨1, by norm_num, by norm_num⟩ (by decide +kernel) (by norm_num) (by decide +kernel) (by norm_num) (by norm_num) rfl
    ⟨rfl, rfl, by decide, by decide, by decide, rfl, rfl, rfl⟩ rfl rfl
  have refused : Exact.paperFill ⟨3, 0, 1 / 10000⟩ smallOrder
      ⟨some (173 / 10), some (1 / 100), none, none⟩ = .ok none := by
    decide +kernel
  exact nomatch refused.symm.trans passed

end Inci.Trading
