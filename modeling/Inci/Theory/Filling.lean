/-
# Theory.Filling -- taking a quantity from priced offers in their order

`fill amount offers` takes from each offer what is left of the amount.  On offers
in ascending price no other way to take the same quantity costs less
(`fill_optimal`), and a larger quantity never has a smaller average price
(`fill_average`).  Both rest on the marginal price of a fill: all that it took cost
at most that price, and whatever is taken beyond it costs at least as much.
-/
import Mathlib.Algebra.Order.Field.Basic
import Mathlib.Algebra.Order.BigOperators.Group.List
import Mathlib.Tactic.Ring
import Mathlib.Tactic.Linarith

namespace Inci.Theory

set_option autoImplicit false

/-- A quantity on offer and its price. -/
@[ext] structure Offer (K : Type) where
  price : K
  quantity : K

variable {K : Type} [Field K]

/-! ## Quantities and costs -/

def quantityOf (offers : List (Offer K)) : K := (offers.map Offer.quantity).sum

def costOf (offers : List (Offer K)) : K :=
  (offers.map fun offer => offer.price * offer.quantity).sum

@[simp] theorem quantityOf_nil : quantityOf ([] : List (Offer K)) = 0 := rfl
@[simp] theorem costOf_nil : costOf ([] : List (Offer K)) = 0 := rfl

@[simp] theorem quantityOf_cons (offer : Offer K) (rest : List (Offer K)) :
    quantityOf (offer :: rest) = offer.quantity + quantityOf rest := by
  simp [quantityOf]

@[simp] theorem costOf_cons (offer : Offer K) (rest : List (Offer K)) :
    costOf (offer :: rest) = offer.price * offer.quantity + costOf rest := by
  simp [costOf]

variable [LinearOrder K]

/-! ## Fills -/

/-- From each offer the quantity that is left to take. -/
def fill (amount : K) : List (Offer K) → List (Offer K)
  | [] => []
  | offer :: rest =>
      if amount ≤ 0 then []
      else if amount ≤ offer.quantity then [⟨offer.price, amount⟩]
      else offer :: fill (amount - offer.quantity) rest

/-- The offers in their order up to some point, of the last one perhaps a part. -/
inductive TakenFrom : List (Offer K) → List (Offer K) → Prop
  | nothing (offers : List (Offer K)) : TakenFrom [] offers
  | last (price quantity part : K) (rest : List (Offer K)) (some : 0 < part)
      (within : part ≤ quantity) : TakenFrom [⟨price, part⟩] (⟨price, quantity⟩ :: rest)
  | whole (offer : Offer K) (taken rest : List (Offer K)) (others : TakenFrom taken rest) :
      TakenFrom (offer :: taken) (offer :: rest)

/-- Quantities to take from the offers, one for each. -/
def Allocation (quantities : List K) (offers : List (Offer K)) : Prop :=
  List.Forall₂ (fun quantity offer => 0 ≤ quantity ∧ quantity ≤ offer.quantity) quantities offers

/-- What the quantities cost at the prices of the offers. -/
def allocationCost (quantities : List K) (offers : List (Offer K)) : K :=
  (List.zipWith (fun quantity offer => offer.price * quantity) quantities offers).sum

def Ascending (offers : List (Offer K)) : Prop :=
  offers.Pairwise fun a b => a.price ≤ b.price

@[simp] theorem fill_nil (amount : K) : fill amount [] = [] := rfl

theorem fill_none {amount : K} (none : amount ≤ 0) (offers : List (Offer K)) :
    fill amount offers = [] := by
  cases offers with
  | nil => rfl
  | cons offer rest => simp [fill, none]

theorem fill_part {amount : K} {offer : Offer K} (rest : List (Offer K)) (some : 0 < amount)
    (within : amount ≤ offer.quantity) :
    fill amount (offer :: rest) = [⟨offer.price, amount⟩] := by
  simp [fill, not_le.mpr some, within]

theorem fill_whole {amount : K} {offer : Offer K} (rest : List (Offer K)) (some : 0 < amount)
    (more : offer.quantity < amount) :
    fill amount (offer :: rest) = offer :: fill (amount - offer.quantity) rest := by
  simp [fill, not_le.mpr some, not_le.mpr more]

theorem fill_taken {amount : K} {offers : List (Offer K)} :
    TakenFrom (fill amount offers) offers := by
  induction offers generalizing amount with
  | nil => exact .nothing _
  | cons offer rest ih =>
      rcases le_or_gt amount 0 with none | some
      · rw [fill_none none]
        exact .nothing _
      rcases le_or_gt amount offer.quantity with within | more
      · rw [fill_part rest some within]
        exact .last _ _ _ _ some within
      · rw [fill_whole rest some more]
        exact .whole _ _ _ ih

variable [IsStrictOrderedRing K]

theorem quantityOf_nonneg {offers : List (Offer K)}
    (nonneg : ∀ offer ∈ offers, 0 ≤ offer.quantity) : 0 ≤ quantityOf offers :=
  List.sum_nonneg (by simpa using nonneg)

/-! ## What a fill takes -/

theorem fill_quantity {amount : K} {offers : List (Offer K)} (nonneg : 0 ≤ amount)
    (positive : ∀ offer ∈ offers, 0 < offer.quantity) :
    quantityOf (fill amount offers) = min amount (quantityOf offers) := by
  induction offers generalizing amount with
  | nil => simp [nonneg]
  | cons offer rest ih =>
      have here := positive offer List.mem_cons_self
      have others := fun other member => positive other (List.mem_cons_of_mem offer member)
      have rests := quantityOf_nonneg fun other member => (others other member).le
      rcases nonneg.eq_or_lt with rfl | some
      · rw [fill_none le_rfl, quantityOf_nil, quantityOf_cons, min_eq_left (by linarith)]
      rcases le_or_gt amount offer.quantity with within | more
      · rw [fill_part rest some within, quantityOf_cons, quantityOf_cons, quantityOf_nil,
          min_eq_left (by linarith), add_zero]
      · rw [fill_whole rest some more, quantityOf_cons, quantityOf_cons,
          ih (by linarith) others, ← min_add_add_left, add_sub_cancel]

/-- A quantity that the first offers can give is not taken from the others. -/
theorem fill_append {amount : K} {offers : List (Offer K)} (others : List (Offer K))
    (enough : amount ≤ quantityOf offers) :
    fill amount (offers ++ others) = fill amount offers := by
  induction offers generalizing amount with
  | nil => simp only [quantityOf_nil] at enough; rw [fill_none enough, fill_none enough]
  | cons offer rest ih =>
      rw [quantityOf_cons] at enough
      rcases le_or_gt amount 0 with none | some
      · rw [fill_none none, fill_none none]
      rcases le_or_gt amount offer.quantity with within | more
      · rw [List.cons_append, fill_part _ some within, fill_part _ some within]
      · rw [List.cons_append, fill_whole _ some more, fill_whole _ some more,
          ih (by linarith)]

/-- An amount beyond what is on offer takes the same as all that is on offer. -/
theorem fill_min {amount : K} {offers : List (Offer K)} (nonneg : 0 ≤ amount)
    (positive : ∀ offer ∈ offers, 0 < offer.quantity) :
    fill (min amount (quantityOf offers)) offers = fill amount offers := by
  induction offers generalizing amount with
  | nil => rfl
  | cons offer rest ih =>
      have here := positive offer List.mem_cons_self
      have others := fun other member => positive other (List.mem_cons_of_mem offer member)
      have rests := quantityOf_nonneg fun other member => (others other member).le
      rw [quantityOf_cons]
      rcases nonneg.eq_or_lt with rfl | some
      · rw [min_eq_left (by linarith)]
      rcases le_or_gt amount offer.quantity with within | more
      · rw [min_eq_left (by linarith)]
      rcases rests.eq_or_lt with empty | nonempty
      · have gone : rest = [] := by
          cases rest with
          | nil => rfl
          | cons next rest =>
              have next := others next List.mem_cons_self
              have rests := quantityOf_nonneg fun other member =>
                (others other (List.mem_cons_of_mem _ member)).le
              rw [quantityOf_cons] at empty
              linarith
        rw [gone, fill_whole _ some more, quantityOf_nil, add_zero, min_eq_right more.le,
          fill_part _ here le_rfl, fill_nil]
      · have larger : offer.quantity < min amount (offer.quantity + quantityOf rest) :=
          lt_min more (by linarith)
        have left : min amount (offer.quantity + quantityOf rest) - offer.quantity =
            min (amount - offer.quantity) (quantityOf rest) := by
          rw [sub_eq_add_neg, ← min_add_add_right, ← sub_eq_add_neg, ← sub_eq_add_neg,
            add_sub_cancel_left]
        rw [fill_whole _ (here.trans larger) larger, fill_whole _ some more, left,
          ih (by linarith) others]

/-! ## The marginal price -/

/-- What a fill took cost the marginal price at most, and more of it costs at least
that. -/
structure Marginal (offers : List (Offer K)) (amount price : K) : Prop where
  listed : ∃ offer ∈ offers, offer.price = price
  taken : costOf (fill amount offers) ≤ price * amount
  beyond : ∀ more, amount ≤ more → more ≤ quantityOf offers →
    costOf (fill amount offers) + price * (more - amount) ≤ costOf (fill more offers)

/-- Filling from offers above a price costs at least that price. -/
theorem le_costOf_fill (price : K) {amount : K} {offers : List (Offer K)} (nonneg : 0 ≤ amount)
    (least : ∀ offer ∈ offers, price ≤ offer.price) (enough : amount ≤ quantityOf offers)
    (positive : ∀ offer ∈ offers, 0 < offer.quantity) :
    price * amount ≤ costOf (fill amount offers) := by
  induction offers generalizing amount with
  | nil =>
      have none : amount = 0 := le_antisymm enough nonneg
      simp [none]
  | cons offer rest ih =>
      have cheap := least offer List.mem_cons_self
      have here := positive offer List.mem_cons_self
      rw [quantityOf_cons] at enough
      rcases nonneg.eq_or_lt with rfl | some
      · simp [fill]
      rcases le_or_gt amount offer.quantity with within | more
      · rw [fill_part rest some within, costOf_cons, costOf_nil, add_zero]
        exact mul_le_mul_of_nonneg_right cheap nonneg
      · have others := ih (by linarith : (0 : K) ≤ amount - offer.quantity)
          (fun other member => least other (List.mem_cons_of_mem offer member)) (by linarith)
          (fun other member => positive other (List.mem_cons_of_mem offer member))
        have first := mul_le_mul_of_nonneg_right cheap here.le
        rw [fill_whole rest some more, costOf_cons]
        linarith

theorem fill_marginal {amount : K} {offers : List (Offer K)} (some : 0 < amount)
    (ascending : Ascending offers) (enough : amount ≤ quantityOf offers)
    (positive : ∀ offer ∈ offers, 0 < offer.quantity) : ∃ price, Marginal offers amount price := by
  induction offers generalizing amount with
  | nil => exact absurd enough (not_le.mpr some)
  | cons offer rest ih =>
      obtain ⟨least, ordered⟩ := List.pairwise_cons.mp ascending
      have here := positive offer List.mem_cons_self
      have others := fun other member => positive other (List.mem_cons_of_mem offer member)
      rw [quantityOf_cons] at enough
      rcases le_or_gt amount offer.quantity with within | more
      · refine ⟨offer.price, ⟨offer, List.mem_cons_self, rfl⟩, ?_, ?_⟩
        · simp [fill_part rest some within]
        · intro larger above available
          rw [quantityOf_cons] at available
          have start := le_costOf_fill offer.price (some.le.trans above)
            (List.forall_mem_cons.mpr ⟨le_rfl, least⟩) (by simpa using available) positive
          rw [fill_part rest some within, costOf_cons, costOf_nil]
          linarith
      · obtain ⟨price, ⟨listed, member, same⟩, taken, beyond⟩ :=
          ih (sub_pos.mpr more) ordered (by linarith) others
        have dearer : offer.price ≤ price := same ▸ least listed member
        refine ⟨price, ⟨listed, List.mem_cons_of_mem _ member, same⟩, ?_, ?_⟩
        · have first := mul_le_mul_of_nonneg_right dearer here.le
          rw [fill_whole rest some more, costOf_cons]
          linarith
        · intro larger above available
          rw [quantityOf_cons] at available
          have after := beyond (larger - offer.quantity) (by linarith) (by linarith)
          rw [fill_whole rest some more, fill_whole rest (some.trans_le above) (by linarith),
            costOf_cons, costOf_cons]
          linarith

/-- The average price of a larger quantity is not smaller. -/
theorem fill_average {amount more : K} {offers : List (Offer K)} (some : 0 < amount)
    (ascending : Ascending offers) (above : amount ≤ more) (enough : more ≤ quantityOf offers)
    (positive : ∀ offer ∈ offers, 0 < offer.quantity) :
    costOf (fill amount offers) / amount ≤ costOf (fill more offers) / more := by
  obtain ⟨price, -, taken, beyond⟩ :=
    fill_marginal some ascending (above.trans enough) positive
  have later := mul_le_mul_of_nonneg_right (beyond more above enough) some.le
  have earlier := mul_le_mul_of_nonneg_right taken (sub_nonneg.mpr above)
  rw [div_le_div_iff₀ some (some.trans_le above)]
  linarith

/-! ## Optimality -/

theorem Allocation.nonneg {quantities : List K} {offers : List (Offer K)}
    (allocation : Allocation quantities offers) : 0 ≤ quantities.sum := by
  induction allocation with
  | nil => simp
  | cons bounds _ ih =>
      rw [List.sum_cons]
      exact add_nonneg bounds.1 ih

theorem Allocation.sum_le {quantities : List K} {offers : List (Offer K)}
    (allocation : Allocation quantities offers) : quantities.sum ≤ quantityOf offers := by
  induction allocation with
  | nil => simp
  | cons bounds _ ih =>
      rw [List.sum_cons, quantityOf_cons]
      exact add_le_add bounds.2 ih

theorem Allocation.cost_ge {price : K} {quantities : List K} {offers : List (Offer K)}
    (allocation : Allocation quantities offers) (least : ∀ offer ∈ offers, price ≤ offer.price) :
    price * quantities.sum ≤ allocationCost quantities offers := by
  induction allocation with
  | nil => simp [allocationCost]
  | @cons quantity offer quantities offers bounds _ ih =>
      have here := mul_le_mul_of_nonneg_right (least offer List.mem_cons_self) bounds.1
      have others := ih fun other member => least other (List.mem_cons_of_mem offer member)
      rw [List.sum_cons, mul_add]
      simpa [allocationCost] using add_le_add here others

/-- Costs from offers above a price grow by at least that price. -/
theorem fill_grows {price amount more : K} {offers : List (Offer K)} (nonneg : 0 ≤ amount)
    (least : ∀ offer ∈ offers, price ≤ offer.price) (ascending : Ascending offers)
    (above : amount ≤ more) (enough : more ≤ quantityOf offers)
    (positive : ∀ offer ∈ offers, 0 < offer.quantity) :
    costOf (fill amount offers) + price * (more - amount) ≤ costOf (fill more offers) := by
  rcases nonneg.eq_or_lt with rfl | some
  · have start := le_costOf_fill price above least enough positive
    rw [fill_none le_rfl, costOf_nil]
    linarith
  · obtain ⟨marginal, ⟨offer, member, rfl⟩, -, beyond⟩ :=
      fill_marginal some ascending (above.trans enough) positive
    have grown := beyond more above enough
    have cheap := mul_le_mul_of_nonneg_right (least offer member) (sub_nonneg.mpr above)
    linarith

/-- No other way to take a quantity costs less. -/
theorem fill_optimal {quantities : List K} {offers : List (Offer K)} (ascending : Ascending offers)
    (positive : ∀ offer ∈ offers, 0 < offer.quantity) (allocation : Allocation quantities offers) :
    costOf (fill quantities.sum offers) ≤ allocationCost quantities offers := by
  induction allocation with
  | nil => simp [allocationCost]
  | @cons quantity offer quantities offers bounds allocation ih =>
      obtain ⟨least, ordered⟩ := List.pairwise_cons.mp ascending
      have others := fun other member => positive other (List.mem_cons_of_mem offer member)
      have rests := Allocation.nonneg allocation
      have dear := Allocation.cost_ge allocation least
      have optimal := ih ordered others
      have split : allocationCost (quantity :: quantities) (offer :: offers) =
          offer.price * quantity + allocationCost quantities offers := by simp [allocationCost]
      rw [List.sum_cons, split]
      rcases (add_nonneg bounds.1 rests).eq_or_lt with none | some
      · have first : quantity = 0 := by linarith
        have last : quantities.sum = 0 := by linarith
        rw [← none, fill_none le_rfl, costOf_nil, first]
        rw [last] at dear
        linarith
      rcases le_or_gt (quantity + quantities.sum) offer.quantity with within | more
      · rw [fill_part _ some within, costOf_cons, costOf_nil]
        linarith
      · have grown := fill_grows (by linarith : 0 ≤ quantity + quantities.sum - offer.quantity)
          least ordered (by linarith [bounds.2])
          (Allocation.sum_le allocation) others
        rw [fill_whole _ some more, costOf_cons]
        linarith

end Inci.Theory
