/-
# Market.Buying -- what a book sells at a limit

A purchase walks the bids of the other side in their order, best first, as asks in
ascending price.  Where the numbers it computes have 80 digits at most, the walk is
the fill of `Theory.Filling`, so what it returns is the cheapest way to take that
quantity from the whole book (`executableBuy_best`), and a larger request neither
takes less nor pays a smaller average (`executableBuy_mono`).
-/
import Inci.Theory.Filling
import Inci.Market.Uncrossed
import Mathlib.Data.List.TakeWhile

namespace Inci.Market

open Inci.Theory Inci.Expert

set_option autoImplicit false

/-! ## The walk -/

def contextMul (x y : Decimal) : Except ExpertError Decimal :=
  decimalContext.round .decimal (x.value * y.value)

def contextDiv (x y : Decimal) : Except ExpertError Decimal :=
  if y = 0 then .error .decimal else decimalContext.round .decimal (x.value / y.value)

/-- The loop over the bids: the levels consumed of `remaining` contracts. -/
def consume (limitPrice remaining : Decimal) : List BookLevel → Except ExpertError (List BookLevel)
  | [] => pure []
  | bidLevel :: rest => do
      let askPrice ← contextSub 1 bidLevel.price
      if limitPrice < askPrice then pure []
      else do
        let quantity := min remaining bidLevel.quantity
        let level ← BookLevel.construct ⟨askPrice, quantity⟩
        let remaining ← contextSub remaining quantity
        if remaining = 0 then pure [level]
        else do
          let others ← consume limitPrice remaining rest
          pure (level :: others)

/-- Python's `sum` of a term for each level, from zero. -/
def sumOf (term : BookLevel → Except ExpertError Decimal) (levels : List BookLevel)
    (start : Decimal) : Except ExpertError Decimal :=
  levels.foldlM (fun total level => do contextAdd total (← term level)) start

/-- `executable_buy`: the filled contracts, their average price and the levels consumed. -/
def executableBuy (state : BookState) (outcome : ContractSide) (contracts limitPrice : Decimal) :
    Except ExpertError (Decimal × Decimal × List BookLevel) := do
  refuse (contracts < 0) (.contract "contracts")
  refuse (limitPrice < 0 ∨ 1 < limitPrice) (.contract "limit_price")
  refuse (state.trusted = false ∨ state.sequenceGap = true) (.contract "book_untrusted")
  refuse (state.marketStatus ≠ .open) (.contract "market_not_open")
  arithmetic do
    if contracts = 0 then pure (0, 0, [])
    else if state.bids (opposing outcome) = [] then pure (0, 0, [])
    else do
      let consumed ← consume limitPrice contracts (state.bids (opposing outcome))
      if consumed = [] then pure (0, 0, [])
      else do
        let filledContracts ← sumOf (fun item => pure item.quantity) consumed 0
        let totalCost ← sumOf (fun item => contextMul item.price item.quantity) consumed 0
        let averagePrice ← contextDiv totalCost filledContracts
        pure (filledContracts, averagePrice, consumed)

/-! ## Exact numbers -/

/-- A number of at most 80 digits, inside the exponents of the context. -/
def Digits80 (x : ℚ) : Prop :=
  ∃ m e : ℤ, x = m * 10 ^ e ∧ |m| < 10 ^ 80 ∧ decimalContext.tinyExponent ≤ e ∧
    e + 80 ≤ decimalContext.maxExponent + 1

theorem Digits80.round {x : ℚ} (digits : Digits80 x) :
    ∃ d, decimalContext.round ExpertError.decimal x = .ok d ∧ d.value = x := by
  obtain ⟨m, e, rfl, size, tiny, room⟩ := digits
  exact ⟨_, decimalContext.round_exact _ rfl size tiny room (finite_scaled m e), rfl⟩

theorem Digits80.roundValue {x : ℚ} (digits : Digits80 x) : decimalContext.roundValue x = x := by
  obtain ⟨d, rounded, value⟩ := digits.round
  rw [← decimalContext.round_value rounded, value]

/-- The level as a quantity on offer. -/
def BookLevel.offer (level : BookLevel) : Offer ℚ := ⟨level.price.value, level.quantity.value⟩

/-- The offer a bid of the other side implies. -/
def BookLevel.ask (bid : BookLevel) : Offer ℚ := ⟨1 - bid.price.value, bid.quantity.value⟩

/-- The complementary ladder of an outcome. -/
def asks (state : BookState) (outcome : ContractSide) : List (Offer ℚ) :=
  (state.bids (opposing outcome)).map BookLevel.ask

/-- The offers before the first above the limit. -/
def upTo (limit : ℚ) (offers : List (Offer ℚ)) : List (Offer ℚ) :=
  offers.takeWhile fun offer => decide (offer.price ≤ limit)

/-- The differences, sums and products of a purchase have at most 80 digits. -/
structure Representable (offers : List (Offer ℚ)) (contracts limit : ℚ) : Prop where
  asks : ∀ offer ∈ offers, Digits80 offer.price
  remaining : ∀ taken, taken ≠ [] → taken <+: fill contracts (upTo limit offers) →
    Digits80 (contracts - quantityOf taken)
  filled : ∀ taken, taken ≠ [] → taken <+: fill contracts (upTo limit offers) →
    Digits80 (quantityOf taken)
  products : ∀ offer ∈ fill contracts (upTo limit offers), Digits80 (offer.price * offer.quantity)
  cost : ∀ taken, taken ≠ [] → taken <+: fill contracts (upTo limit offers) →
    Digits80 (costOf taken)

/-- The levels are the cheapest way to take as much of the contracts as is on offer
within the limit. -/
structure Best (offers : List (Offer ℚ)) (contracts limit : ℚ)
    (purchase : Decimal × Decimal × List BookLevel) : Prop where
  ascending : offers.Pairwise fun a b => a.price < b.price
  filled : purchase.1.value =
    min contracts (quantityOf (offers.filter fun offer => decide (offer.price ≤ limit)))
  ladder : TakenFrom (purchase.2.2.map BookLevel.offer) offers
  levels : quantityOf (purchase.2.2.map BookLevel.offer) = purchase.1.value
  cheapest : ∀ quantities, Allocation quantities offers → quantities.sum = purchase.1.value →
    costOf (purchase.2.2.map BookLevel.offer) ≤ allocationCost quantities offers
  average : purchase.2.1.value = if purchase.1 = 0 then 0 else
    decimalContext.roundValue (costOf (purchase.2.2.map BookLevel.offer) / purchase.1.value)
  withinLimit : purchase.2.1.value ≤ limit

/-! ## The walk is the fill -/

theorem consume_fill {limitPrice remaining : Decimal} {bids : List BookLevel}
    (built : ∀ bid ∈ bids, bid.postInit = .ok ())
    (exact : ∀ bid ∈ bids, Digits80 (1 - bid.price.value)) (some : 0 < remaining)
    (left : ∀ taken, taken ≠ [] →
      taken <+: fill remaining.value (upTo limitPrice.value (bids.map BookLevel.ask)) →
      Digits80 (remaining.value - quantityOf taken)) :
    ∃ levels, consume limitPrice remaining bids = .ok levels ∧ levels.map BookLevel.offer =
      fill remaining.value (upTo limitPrice.value (bids.map BookLevel.ask)) := by
  induction bids generalizing remaining with
  | nil => exact ⟨[], rfl, rfl⟩
  | cons bid rest ih =>
      have level := built bid List.mem_cons_self
      simp only [BookLevel.postInit, bind_eq_ok, exists_unit, probability_eq_ok,
        positiveQuantity_eq_ok, Decimal.le_def, Decimal.lt_def, Decimal.zero_value,
        Decimal.one_value] at level
      obtain ⟨⟨low, high⟩, quantity⟩ := level
      obtain ⟨ask, subtracted, value⟩ := (exact bid List.mem_cons_self).round
      have asked : contextSub 1 bid.price = .ok ask := by
        rw [contextSub, Decimal.one_value, subtracted]
      rw [consume, asked, ok_bind]
      by_cases above : limitPrice < ask
      · rw [Decimal.lt_def, value] at above
        refine ⟨[], by rw [if_pos (by rwa [Decimal.lt_def, value])]; rfl, ?_⟩
        simp [upTo, BookLevel.ask, not_le.mpr above]
      rw [if_neg above]
      rw [Decimal.lt_def, value, not_lt] at above
      have offered : upTo limitPrice.value ((bid :: rest).map BookLevel.ask) =
          bid.ask :: upTo limitPrice.value (rest.map BookLevel.ask) := by
        simp [upTo, BookLevel.ask, above]
      rw [offered] at left ⊢
      rw [Decimal.lt_def, Decimal.zero_value] at some
      have positive : 0 < min remaining.value bid.quantity.value := lt_min some quantity
      have constructed : BookLevel.construct ⟨ask, min remaining bid.quantity⟩ =
          .ok ⟨ask, min remaining bid.quantity⟩ := by
        refine BookLevel.construct_eq_ok.mpr ⟨?_, rfl⟩
        simp only [BookLevel.postInit, bind_eq_ok, exists_unit, probability_eq_ok,
          positiveQuantity_eq_ok, Decimal.le_def, Decimal.lt_def, Decimal.zero_value,
          Decimal.one_value, Decimal.min_value, value]
        exact ⟨⟨by linarith, by linarith⟩, positive⟩
      simp only [constructed, ok_bind]
      rcases le_or_gt remaining.value bid.quantity.value with within | more
      · have last := fill_part (upTo limitPrice.value (rest.map BookLevel.ask)) some
          (show remaining.value ≤ bid.ask.quantity from within)
        rw [last] at left ⊢
        obtain ⟨none, computed, gone⟩ := (left _ (by simp) List.prefix_rfl).round
        have exhausted : contextSub remaining (min remaining bid.quantity) = .ok none := by
          rw [contextSub, Decimal.min_value, min_eq_left within, ← computed]
          simp
        have zero : none = 0 := Decimal.ext' (by simp [gone])
        refine ⟨[⟨ask, min remaining bid.quantity⟩], ?_, ?_⟩
        · rw [exhausted, ok_bind, if_pos zero]
          rfl
        · simp [BookLevel.offer, BookLevel.ask, value, Decimal.min_value, min_eq_left within]
      · have first := fill_whole (upTo limitPrice.value (rest.map BookLevel.ask)) some
          (show bid.ask.quantity < remaining.value from more)
        rw [first] at left ⊢
        obtain ⟨next, computed, difference⟩ :=
          (left [bid.ask] (by simp) (List.prefix_append [bid.ask] _)).round
        have reduced : contextSub remaining (min remaining bid.quantity) = .ok next := by
          rw [contextSub, Decimal.min_value, min_eq_right more.le, ← computed]
          simp [BookLevel.ask]
        simp only [quantityOf_cons, quantityOf_nil, add_zero] at difference
        obtain ⟨levels, walked, same⟩ := @ih next
          (fun other member => built other (List.mem_cons_of_mem bid member))
          (fun other member => exact other (List.mem_cons_of_mem bid member))
          (by rw [Decimal.lt_def, Decimal.zero_value, difference]; exact sub_pos.mpr more)
          (fun taken some within => by
            rw [difference] at within ⊢
            have digits := left (bid.ask :: taken) (by simp)
              (List.cons_prefix_cons.mpr ⟨rfl, within⟩)
            rwa [quantityOf_cons, ← sub_sub] at digits)
        have unfinished : next ≠ 0 := by
          rintro rfl
          rw [Decimal.zero_value] at difference
          exact absurd difference.symm (sub_pos.mpr more).ne'
        refine ⟨⟨ask, min remaining bid.quantity⟩ :: levels, ?_, ?_⟩
        · rw [reduced, ok_bind, if_neg unfinished, walked]
          rfl
        · rw [List.map_cons, same, difference]
          simp [BookLevel.offer, BookLevel.ask, value, Decimal.min_value, min_eq_right more.le]

/-- A sum whose partial sums have at most 80 digits is exact. -/
theorem sumOf_exact (term : BookLevel → Except ExpertError Decimal) (value : Offer ℚ → ℚ)
    {levels : List BookLevel} {start : Decimal}
    (terms : ∀ level ∈ levels, ∃ d, term level = .ok d ∧ d.value = value level.offer)
    (partials : ∀ taken, taken ≠ [] → taken <+: levels.map BookLevel.offer →
      Digits80 (start.value + (taken.map value).sum)) :
    ∃ total, sumOf term levels start = .ok total ∧
      total.value = start.value + ((levels.map BookLevel.offer).map value).sum := by
  induction levels generalizing start with
  | nil => exact ⟨start, rfl, by simp⟩
  | cons level rest ih =>
      obtain ⟨d, here, same⟩ := terms level List.mem_cons_self
      obtain ⟨next, added, total⟩ := (partials [level.offer] (by simp) (by simp)).round
      rw [List.map_singleton, List.sum_singleton] at added total
      obtain ⟨sum, folded, whole⟩ := @ih next
        (fun other member => terms other (List.mem_cons_of_mem level member))
        (fun taken some within => by
          have digits := partials (level.offer :: taken) (by simp)
            (List.cons_prefix_cons.mpr ⟨rfl, within⟩)
          rwa [List.map_cons, List.sum_cons, ← add_assoc, ← total] at digits)
      refine ⟨sum, ?_, ?_⟩
      · rw [sumOf, List.foldlM_cons, here, ok_bind, contextAdd, same, added, ok_bind]
        exact folded
      · rw [whole, total, List.map_cons, List.map_cons, List.sum_cons, add_assoc]

/-! ## The asks of a book -/

theorem asks_ascending {s : BookState} (good : s.postInit = .ok ()) (outcome : ContractSide) :
    (asks s outcome).Pairwise fun a b => a.price < b.price := by
  rw [asks, List.pairwise_map]
  refine ((BookState.ladders good).1 (opposing outcome)).imp fun below => ?_
  rw [Decimal.lt_def] at below
  simp only [BookLevel.ask]
  linarith

/-- The asks of constructed levels sell something at a probability. -/
theorem asks_offers {s : BookState} (built : s.LevelsBuilt) (outcome : ContractSide) :
    ∀ offer ∈ asks s outcome, 0 < offer.quantity ∧ 0 ≤ offer.price ∧ offer.price ≤ 1 := by
  intro offer member
  obtain ⟨bid, listed, rfl⟩ := List.mem_map.mp member
  have level := built (opposing outcome) bid listed
  simp only [BookLevel.postInit, bind_eq_ok, exists_unit, probability_eq_ok,
    positiveQuantity_eq_ok, Decimal.le_def, Decimal.lt_def, Decimal.zero_value,
    Decimal.one_value] at level
  obtain ⟨⟨low, high⟩, quantity⟩ := level
  refine ⟨quantity, ?_, ?_⟩ <;> simp only [BookLevel.ask] <;> linarith

section Limit

variable {limit : ℚ} {offers : List (Offer ℚ)}

/-- On ascending offers those within the limit come first. -/
theorem upTo_eq_filter (ascending : offers.Pairwise fun a b => a.price < b.price) :
    upTo limit offers = offers.filter fun offer => decide (offer.price ≤ limit) := by
  induction offers with
  | nil => rfl
  | cons offer rest ih =>
      obtain ⟨least, ordered⟩ := List.pairwise_cons.mp ascending
      by_cases within : offer.price ≤ limit
      · rw [upTo, List.takeWhile_cons_of_pos (by simpa using within),
          List.filter_cons_of_pos (by simpa using within), ← ih ordered]
        rfl
      · have none : rest.filter (fun other => decide (other.price ≤ limit)) = [] := by
          refine List.filter_eq_nil_iff.mpr fun other member => ?_
          have dearer := least other member
          simp only [decide_eq_true_eq]
          linarith
        rw [upTo, List.takeWhile_cons_of_neg (by simpa using within),
          List.filter_cons_of_neg (by simpa using within), none]

theorem mem_upTo {offer : Offer ℚ} (member : offer ∈ upTo limit offers) :
    offer ∈ offers ∧ offer.price ≤ limit :=
  ⟨List.takeWhile_subset _ member, by simpa using List.mem_takeWhile_imp member⟩

/-- A fill within the limit is the fill of its quantity from the whole ladder. -/
theorem fill_upTo {contracts : ℚ} (nonneg : 0 ≤ contracts)
    (positive : ∀ offer ∈ offers, 0 < offer.quantity) :
    fill contracts (upTo limit offers) =
      fill (min contracts (quantityOf (upTo limit offers))) offers := by
  have within := fun offer (member : offer ∈ upTo limit offers) =>
    positive offer (mem_upTo member).1
  calc fill contracts (upTo limit offers)
      = fill (min contracts (quantityOf (upTo limit offers))) (upTo limit offers) :=
        (fill_min nonneg within).symm
    _ = fill (min contracts (quantityOf (upTo limit offers)))
          (upTo limit offers ++ offers.dropWhile fun offer => decide (offer.price ≤ limit)) :=
        (fill_append _ (min_le_right _ _)).symm
    _ = fill (min contracts (quantityOf (upTo limit offers))) offers := by
        rw [upTo, List.takeWhile_append_dropWhile]

end Limit

/-! ## Purchases -/

/-- The average of a fill within the limit. -/
def averageOf (offers : List (Offer ℚ)) (contracts limit : ℚ) : ℚ :=
  decimalContext.roundValue (costOf (fill contracts (upTo limit offers)) /
    quantityOf (fill contracts (upTo limit offers)))

/-- The conditions a purchase checks, on a book of constructed levels. -/
structure Sells (s : BookState) (contracts limit : Decimal) : Prop where
  good : s.postInit = .ok ()
  built : s.LevelsBuilt
  trusted : s.trusted = true
  status : s.marketStatus = .open
  some : 0 < contracts
  range : 0 ≤ limit ∧ limit ≤ 1

variable {s : BookState} {outcome : ContractSide} {contracts more limit : Decimal}

theorem Sells.ungapped (sells : Sells s contracts limit) : s.sequenceGap = false := by
  have good := sells.good
  simp only [BookState.postInit, bind_eq_ok, exists_unit, refuse_eq_ok, sells.trusted] at good
  obtain ⟨-, -, -, -, -, -, -, -, -, -, -, gap, -⟩ := good
  simpa using gap

theorem Sells.quantity (sells : Sells s contracts limit) (outcome : ContractSide) :
    quantityOf (fill contracts.value (upTo limit.value (asks s outcome))) =
      min contracts.value (quantityOf (upTo limit.value (asks s outcome))) := by
  have some := sells.some
  rw [Decimal.lt_def, Decimal.zero_value] at some
  exact fill_quantity some.le fun offer member =>
    (asks_offers sells.built outcome offer (mem_upTo member).1).1

/-- What a fill costs lies between nothing and the highest ask it takes, a number of
80 digits within the limit. -/
theorem Sells.average (sells : Sells s contracts limit)
    (representable : Representable (asks s outcome) contracts.value limit.value)
    (filled : 0 < quantityOf (fill contracts.value (upTo limit.value (asks s outcome)))) :
    0 ≤ averageOf (asks s outcome) contracts.value limit.value ∧
      averageOf (asks s outcome) contracts.value limit.value ≤ limit.value := by
  have some := sells.some
  rw [Decimal.lt_def, Decimal.zero_value] at some
  have positive := fun offer member => (asks_offers sells.built outcome offer member).1
  have within := fun offer (member : offer ∈ upTo limit.value (asks s outcome)) =>
    positive offer (mem_upTo member).1
  have ascending : Ascending (upTo limit.value (asks s outcome)) :=
    ((asks_ascending sells.good outcome).imp le_of_lt).sublist (List.takeWhile_sublist _)
  have total := sells.quantity outcome
  have same := fill_min some.le within
  rw [total] at filled
  obtain ⟨price, ⟨offer, listed, rfl⟩, taken, -⟩ :=
    fill_marginal filled ascending (min_le_right _ _) within
  have cheap := le_costOf_fill 0 filled.le
    (fun offer member => (asks_offers sells.built outcome offer (mem_upTo member).1).2.1)
    (min_le_right _ _) within
  rw [same] at taken cheap
  rw [zero_mul] at cheap
  have digits := representable.asks offer (mem_upTo listed).1
  unfold averageOf
  rw [total]
  refine ⟨decimalContext.roundValue_nonneg (div_nonneg cheap filled.le), ?_⟩
  calc decimalContext.roundValue
          (costOf (fill contracts.value (upTo limit.value (asks s outcome))) /
            min contracts.value (quantityOf (upTo limit.value (asks s outcome))))
      ≤ decimalContext.roundValue offer.price := decimalContext.roundValue_mono (by decide)
        (div_nonneg cheap filled.le) ((div_le_iff₀ filled).mpr taken)
    _ = offer.price := digits.roundValue
    _ ≤ limit.value := (mem_upTo listed).2

/-- A purchase returns the quantity, the average and the levels of the fill. -/
theorem executableBuy_fill (sells : Sells s contracts limit)
    (representable : Representable (asks s outcome) contracts.value limit.value) :
    ∃ purchase, executableBuy s outcome contracts limit = .ok purchase ∧
      purchase.1.value = quantityOf (fill contracts.value (upTo limit.value (asks s outcome))) ∧
      purchase.2.1.value = (if purchase.1 = 0 then 0 else
        averageOf (asks s outcome) contracts.value limit.value) ∧
      purchase.2.2.map BookLevel.offer =
        fill contracts.value (upTo limit.value (asks s outcome)) := by
  have nonzero : contracts ≠ 0 := sells.some.ne'
  have some := sells.some
  obtain ⟨consumed, walked, same⟩ := @consume_fill limit contracts
    (s.bids (opposing outcome)) (sells.built (opposing outcome)) (fun bid member => representable.asks bid.ask
      (List.mem_map_of_mem member)) some representable.remaining
  have outside : ¬(limit < 0 ∨ 1 < limit) := by
    rintro (low | high)
    · exact absurd sells.range.1 (not_le.mpr low)
    · exact absurd sells.range.2 (not_le.mpr high)
  simp only [executableBuy, refuse_ok _ (not_lt.mpr some.le), refuse_ok _ outside, sells.trusted,
    sells.ungapped, sells.status, reduceCtorEq, or_self, refuse_ok _ not_false, ne_eq,
    not_true_eq_false, ok_bind, if_neg nonzero, walked]
  change _ = fill contracts.value (upTo limit.value (asks s outcome)) at same
  by_cases empty : s.bids (opposing outcome) = []
  · rw [if_pos empty]
    refine ⟨(0, 0, []), rfl, ?_, ?_, ?_⟩ <;> simp [asks, empty, upTo]
  rw [if_neg empty]
  by_cases none : consumed = []
  · rw [if_pos none]
    rw [none, List.map_nil] at same
    refine ⟨(0, 0, []), rfl, ?_, ?_, ?_⟩ <;> simp [← same]
  rw [if_neg none]
  obtain ⟨filled, summed, quantity⟩ := @sumOf_exact
    (fun item => pure item.quantity) Offer.quantity consumed 0
    (fun level _ => ⟨level.quantity, rfl, rfl⟩) (fun taken nonempty within => by
      rw [same] at within
      rw [Decimal.zero_value, zero_add]
      exact representable.filled taken nonempty within)
  obtain ⟨cost, charged, price⟩ := @sumOf_exact
    (fun item => contextMul item.price item.quantity) (fun offer => offer.price * offer.quantity)
    consumed 0
    (fun level member => (representable.products level.offer
      (same ▸ List.mem_map_of_mem member)).round) (fun taken nonempty within => by
      rw [same] at within
      rw [Decimal.zero_value, zero_add]
      exact representable.cost taken nonempty within)
  rw [Decimal.zero_value, zero_add, same] at quantity price
  change filled.value = quantityOf _ at quantity
  change cost.value = costOf _ at price
  have positive : 0 < filled.value := by
    have within := fun offer (member : offer ∈ upTo limit.value (asks s outcome)) =>
      (asks_offers sells.built outcome offer (mem_upTo member).1).1
    rw [quantity, sells.quantity]
    by_contra nothing
    rw [← fill_min some.le within, fill_none (not_lt.mp nothing), List.map_eq_nil_iff] at same
    exact none same
  have nonempty : filled ≠ 0 := by
    rintro rfl
    exact absurd Decimal.zero_value positive.ne'
  obtain ⟨low, high⟩ := sells.average representable (by rw [← quantity]; exact positive)
  have ratio : cost.value / filled.value =
      costOf (fill contracts.value (upTo limit.value (asks s outcome))) /
        quantityOf (fill contracts.value (upTo limit.value (asks s outcome))) := by
    rw [quantity, price]
  have small : |decimalContext.roundValue (cost.value / filled.value)| < 10 := by
    have most := sells.range.2
    rw [Decimal.le_def, Decimal.one_value] at most
    rw [ratio, abs_lt]
    unfold averageOf at low high
    constructor <;> linarith
  refine ⟨⟨filled, ⟨decimalContext.roundValue (cost.value / filled.value),
    decimalContext.roundValue_finite _⟩, consumed⟩, ?_, quantity, ?_, same⟩
  · rw [summed, ok_bind, charged, ok_bind, contextDiv, if_neg nonempty,
      decimalContext.round_total _ (by decide) small]
    rfl
  · rw [if_neg nonempty, averageOf, ← ratio]

/-- A purchase is the cheapest way to take what the limit allows. -/
theorem executableBuy_best (sells : Sells s contracts limit)
    (representable : Representable (asks s outcome) contracts.value limit.value) :
    ∃ purchase, executableBuy s outcome contracts limit = .ok purchase ∧
      Best (asks s outcome) contracts.value limit.value purchase := by
  obtain ⟨purchase, bought, quantity, average, levels⟩ := executableBuy_fill sells representable
  have some := sells.some
  rw [Decimal.lt_def, Decimal.zero_value] at some
  have positive := fun offer member => (asks_offers sells.built outcome offer member).1
  have ascending := asks_ascending sells.good outcome
  have whole : fill contracts.value (upTo limit.value (asks s outcome)) = _ :=
    fill_upTo some.le positive
  rw [← sells.quantity] at whole
  refine ⟨purchase, bought, ascending, ?_, ?_, ?_, ?_, ?_, ?_⟩
  · rw [quantity, sells.quantity, upTo_eq_filter ascending]
  · rw [levels, whole]
    exact fill_taken
  · rw [levels, quantity]
  · intro quantities allocation same
    rw [levels, whole, ← quantity, ← same]
    exact fill_optimal (ascending.imp le_of_lt) positive allocation
  · rw [average, levels, quantity]
    rfl
  · rw [average]
    split_ifs with none
    · exact sells.range.1
    · have filled : 0 < purchase.1.value := by
        refine lt_of_le_of_ne ?_ fun zero => none (Decimal.ext' ?_)
        · rw [quantity, sells.quantity]
          exact le_min some.le (quantityOf_nonneg fun offer member =>
            (positive offer (mem_upTo member).1).le)
        · rw [← zero, Decimal.zero_value]
      exact (sells.average representable (quantity ▸ filled)).2

/-- A larger request takes no less, at no smaller an average. -/
theorem executableBuy_mono (sells : Sells s contracts limit) (sells' : Sells s more limit)
    (above : contracts ≤ more)
    (representable : Representable (asks s outcome) contracts.value limit.value)
    (representable' : Representable (asks s outcome) more.value limit.value)
    {purchase larger : Decimal × Decimal × List BookLevel}
    (bought : executableBuy s outcome contracts limit = .ok purchase)
    (bought' : executableBuy s outcome more limit = .ok larger) :
    purchase.1 ≤ larger.1 ∧ purchase.2.1 ≤ larger.2.1 := by
  obtain ⟨_, same, quantity, average, -⟩ := executableBuy_fill sells representable
  obtain ⟨_, same', quantity', average', -⟩ := executableBuy_fill sells' representable'
  cases Except.ok.inj (bought.symm.trans same)
  cases Except.ok.inj (bought'.symm.trans same')
  have some := sells.some
  rw [Decimal.lt_def, Decimal.zero_value] at some
  rw [Decimal.le_def] at above
  have offers := asks_offers sells.built outcome
  have positive := fun offer (member : offer ∈ upTo limit.value (asks s outcome)) =>
    (offers offer (mem_upTo member).1).1
  have ascending : Ascending (upTo limit.value (asks s outcome)) :=
    ((asks_ascending sells.good outcome).imp le_of_lt).sublist (List.takeWhile_sublist _)
  have depth : 0 ≤ quantityOf (upTo limit.value (asks s outcome)) :=
    quantityOf_nonneg fun offer member => (positive offer member).le
  have grows : min contracts.value (quantityOf (upTo limit.value (asks s outcome))) ≤
      min more.value (quantityOf (upTo limit.value (asks s outcome))) := min_le_min_right _ above
  rw [sells.quantity] at quantity
  rw [sells'.quantity] at quantity'
  refine ⟨by rwa [Decimal.le_def, quantity, quantity'], ?_⟩
  rw [Decimal.le_def, average, average']
  rcases depth.eq_or_lt with nothing | listed
  · -- No ask is within the limit.
    have none : purchase.1 = 0 := Decimal.ext' (by
      rw [quantity, ← nothing, min_eq_right some.le, Decimal.zero_value])
    have none' : larger.1 = 0 := Decimal.ext' (by
      rw [quantity', ← nothing, min_eq_right (some.le.trans above), Decimal.zero_value])
    rw [if_pos none, if_pos none']
  have filled := lt_min some listed
  have nonzero : purchase.1 ≠ 0 := by
    intro zero
    rw [zero, Decimal.zero_value] at quantity
    exact filled.ne quantity
  have nonzero' : larger.1 ≠ 0 := by
    intro zero
    rw [zero, Decimal.zero_value] at quantity'
    exact (filled.trans_le grows).ne quantity'
  have dearer := fill_average filled ascending grows (min_le_right _ _) positive
  have cheap := le_costOf_fill 0 filled.le
    (fun offer member => (offers offer (mem_upTo member).1).2.1) (min_le_right _ _) positive
  rw [zero_mul] at cheap
  rw [fill_min some.le positive] at dearer cheap
  rw [fill_min (some.le.trans above) positive] at dearer
  rw [if_neg nonzero, if_neg nonzero', averageOf, averageOf, sells.quantity, sells'.quantity]
  exact decimalContext.roundValue_mono (by decide) (div_nonneg cheap filled.le) dearer

/-- What `executable_buy` returns is exact, the cheapest way to take what the limit
allows, and grows with the request. -/
theorem executable_buy_optimal (s : BookState) (outcome : ContractSide) (contracts limit : Decimal)
    (sells : Sells s contracts limit)
    (representable : Representable (asks s outcome) contracts.value limit.value) :
    ∃ purchase, executableBuy s outcome contracts limit = .ok purchase ∧
      Best (asks s outcome) contracts.value limit.value purchase ∧
      ∀ more larger, contracts ≤ more →
        Representable (asks s outcome) more.value limit.value →
        executableBuy s outcome more limit = .ok larger →
        purchase.1 ≤ larger.1 ∧ purchase.2.1 ≤ larger.2.1 := by
  obtain ⟨purchase, bought, best⟩ := executableBuy_best sells representable
  refine ⟨purchase, bought, best, fun more larger above representable' bought' => ?_⟩
  exact executableBuy_mono sells { sells with some := sells.some.trans_le above } above
    representable representable' bought bought'

/-! ## A book of two levels -/

def quarter : Decimal := ⟨1 / 4, 2, 25, by norm_num⟩

/-- One contract at one half, and two at three quarters. -/
def twoLevelBook : BookSnapshot :=
  { openingBook with noBids := [⟨half, 1⟩, ⟨quarter, .ofNat 2⟩] }

theorem twoLevelBook_opens : ∃ s, s.noBids = twoLevelBook.noBids ∧ Sells s (.ofNat 2) 1 := by
  have bound : 2 < integerBound := by norm_num [integerBound]
  have ticker : Ticker "MATCH-HOME" := by decide
  have two : (Decimal.ofNat 2).value = 2 := rfl
  obtain ⟨opened, opens⟩ := bookFromSnapshot_total twoLevelBook
    (by
      simp [BookSnapshot.postInit, twoLevelBook, openingBook, ticker, validateBookLadders,
        validateLadder, crossed, integerBound_pos, half, quarter, Decimal.le_def]
      norm_num
      omega)
    (by
      simp [BookSnapshot.py, twoLevelBook, openingBook, Encodes, EncodesFields, EncodesAll,
        MarketStatus.py, integerBound_pos, BookLevel.py]
      refine ⟨bound.trans' (by decide), ?_, ?_, ?_⟩ <;> decide +kernel)
  obtain ⟨digest, -, constructed, rfl⟩ := bookFromSnapshot_cases opens
  refine ⟨snapshotState twoLevelBook 0 digest, rfl, constructed, ?_, rfl, rfl, ?_, ?_⟩
  · intro side level member
    cases side
    · simp [twoLevelBook, openingBook, snapshotState, BookState.bids] at member
    · simp only [twoLevelBook, snapshotState, BookState.bids, List.mem_cons, List.not_mem_nil,
        or_false] at member
      rcases member with rfl | rfl <;>
        simp [BookLevel.postInit, half, quarter, two, Decimal.le_def, Decimal.lt_def] <;> norm_num
  · simp [Decimal.lt_def, two]
  · simp [Decimal.le_def]

/-- A number of a few hundredths. -/
theorem digits80_hundredths {x : ℚ} {m : ℤ} (value : x = m * 10 ^ (-2 : ℤ)) (few : |m| < 10 ^ 80) :
    Digits80 x := ⟨m, -2, value, few, by decide, by decide⟩

theorem twoLevelBook_representable {s : BookState} (bids : s.noBids = twoLevelBook.noBids) :
    Representable (asks s .yes) (Decimal.ofNat 2).value (1 : Decimal).value := by
  have offers : asks s .yes = [⟨1 / 2, 1⟩, ⟨3 / 4, 2⟩] := by
    show s.noBids.map BookLevel.ask = _
    rw [bids]
    simp only [twoLevelBook, BookLevel.ask, half, quarter, List.map_cons, List.map_nil,
      Decimal.one_value, show (Decimal.ofNat 2).value = 2 from rfl]
    norm_num
  have taken : fill (Decimal.ofNat 2).value (upTo (1 : Decimal).value (asks s .yes)) =
      [⟨1 / 2, 1⟩, ⟨3 / 4, 1⟩] := by
    rw [offers, Decimal.one_value, show (Decimal.ofNat 2).value = 2 from rfl]
    norm_num [upTo, fill, List.takeWhile]
  have prefixes (part : List (Offer ℚ)) (some : part ≠ [])
      (within : part <+: [⟨1 / 2, 1⟩, ⟨3 / 4, 1⟩]) :
      part = [⟨1 / 2, 1⟩] ∨ part = [⟨1 / 2, 1⟩, ⟨3 / 4, 1⟩] := by
    rcases List.prefix_cons_iff.mp within with rfl | ⟨rest, rfl, second⟩
    · exact absurd rfl some
    rcases List.prefix_cons_iff.mp second with rfl | ⟨others, rfl, third⟩
    · exact .inl rfl
    · rw [List.prefix_nil.mp third]
      exact .inr rfl
  refine ⟨?_, ?_, ?_, ?_, ?_⟩
  · rw [offers]
    intro offer member
    rcases List.mem_pair.mp member with rfl | rfl
    · exact digits80_hundredths (m := 50) (by norm_num) (by norm_num)
    · exact digits80_hundredths (m := 75) (by norm_num) (by norm_num)
  · rw [taken]
    intro part some within
    rcases prefixes part some within with rfl | rfl <;>
      rw [show (Decimal.ofNat 2).value = 2 from rfl]
    · exact digits80_hundredths (m := 100) (by norm_num) (by norm_num)
    · exact digits80_hundredths (m := 0) (by norm_num) (by norm_num)
  · rw [taken]
    intro part some within
    rcases prefixes part some within with rfl | rfl
    · exact digits80_hundredths (m := 100) (by norm_num) (by norm_num)
    · exact digits80_hundredths (m := 200) (by norm_num) (by norm_num)
  · rw [taken]
    intro offer member
    rcases List.mem_pair.mp member with rfl | rfl
    · exact digits80_hundredths (m := 50) (by norm_num) (by norm_num)
    · exact digits80_hundredths (m := 75) (by norm_num) (by norm_num)
  · rw [taken]
    intro part some within
    rcases prefixes part some within with rfl | rfl
    · exact digits80_hundredths (m := 50) (by norm_num) (by norm_num)
    · exact digits80_hundredths (m := 125) (by norm_num) (by norm_num)

/-- Two contracts of a book of two levels. -/
theorem two_contracts_optimal : ∃ s purchase, s.noBids = twoLevelBook.noBids ∧
    executableBuy s .yes (.ofNat 2) 1 = .ok purchase ∧
    Best (asks s .yes) (Decimal.ofNat 2).value (1 : Decimal).value purchase := by
  obtain ⟨s, bids, sells⟩ := twoLevelBook_opens
  obtain ⟨purchase, bought, best, -⟩ := executable_buy_optimal s .yes (.ofNat 2) 1 sells
    (twoLevelBook_representable bids)
  exact ⟨s, purchase, bids, bought, best⟩

end Inci.Market
