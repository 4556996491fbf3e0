/-
# Trading.Attempts -- what a paper fill respects

An attempt fills a positive quantity within the order and the display, at a price
the order's bound allows.  A take-profit SELL also clears its fees and its cost
basis.
-/
import Inci.Theory.Checks
import Inci.Trading.Executor

namespace Inci.Trading

open Inci.Theory

set_option autoImplicit false

variable {Time Day : Type} [LinearOrder Time] [Zero Time] [Add Time] [Sub Time] [DecidableEq Day]

/-- The quantity displayed on the side of the book an order takes from. -/
def Book.displayed (book : Book) : OrderSide → Option Decimal
  | .buy => book.askQty
  | .sell => book.bidQty

section Fills

variable {inst : Installation Time Day} {order : PendingPaperOrder Time} {book : Book}

omit [LinearOrder Time] [Zero Time] [Add Time] [Sub Time] [DecidableEq Day]

/-- The touch an order meets, with the depth on its side: within its bound, unless
it is a stop or a time exit. -/
theorem arrivalPrice_touch {price : Decimal} {depth : Option Decimal}
    (met : arrivalPrice inst order book = .ok (some (price, depth))) :
    depth = book.displayed order.side ∧
      (order.side = .buy → ∀ limit, order.limitPrice = some limit → price ≤ limit) ∧
      (order.side = .sell → ¬isStop order.reason → ¬isTime order.reason →
        ∀ limit, order.limitPrice = some limit → limit ≤ price) := by
  unfold arrivalPrice at met
  cases side : order.side with
  | buy =>
      simp only [side] at met
      cases ask : book.ask with
      | none =>
          rw [ask] at met
          cases met
      | some price' =>
          simp only [ask] at met
          by_cases above : ∃ limit, order.limitPrice = some limit ∧ limit < price'
          · rw [if_pos above] at met
            cases met
          · rw [if_neg above] at met
            cases met
            refine ⟨rfl, fun _ limit bound => ?_, nofun⟩
            exact not_lt.mp fun less => above ⟨limit, bound, less⟩
  | sell =>
      simp only [side] at met
      cases bid : book.bid with
      | none =>
          rw [bid] at met
          cases met
      | some price' =>
          simp only [bid] at met
          by_cases stop : isStop order.reason
          · rw [if_pos stop] at met
            obtain ⟨slipped, -, met⟩ := bind_eq_ok.mp met
            cases met
            exact ⟨rfl, nofun, fun _ calm => absurd stop calm⟩
          rw [if_neg stop] at met
          by_cases time : isTime order.reason
          · rw [if_pos time] at met
            cases met
            exact ⟨rfl, nofun, fun _ _ calm => absurd time calm⟩
          rw [if_neg time] at met
          by_cases below : ∃ limit, order.limitPrice = some limit ∧ price' < limit
          · rw [if_pos below] at met
            cases met
          · rw [if_neg below] at met
            cases met
            refine ⟨rfl, nofun, fun _ _ _ limit bound => ?_⟩
            exact not_lt.mp fun less => below ⟨limit, bound, less⟩

/-- What every fill of an order respects: a positive quantity within the order
and the display, the order's bound, and for a take-profit SELL its cost basis. -/
structure Respects (order : PendingPaperOrder Time) (book : Book) (fill : Fill) : Prop where
  positive : 0 < fill.filled
  within : fill.filled ≤ order.contracts
  displayed : ∃ depth, book.displayed order.side = some depth ∧ fill.filled ≤ depth
  bought : order.side = .buy → ∀ limit, order.limitPrice = some limit → fill.price ≤ limit
  sold : order.side = .sell → ¬isStop order.reason → ¬isTime order.reason →
    (∀ limit, order.limitPrice = some limit → limit ≤ fill.price) ∧
      ∃ projected, basisPnl order fill.price fill.filled fill.fee = .ok (some projected) ∧
        0 < projected

theorem paperFill_respects {fill : Fill} (filled : paperFill inst order book = .ok (some fill)) :
    Respects order book fill := by
  obtain ⟨arrival, met, filled⟩ := bind_eq_ok.mp filled
  cases arrival with
  | none => simp at filled
  | some touch =>
      obtain ⟨price, depth⟩ := touch
      obtain ⟨rfl, bought, sold⟩ := arrivalPrice_touch met
      by_cases empty : min order.contracts ((book.displayed order.side).getD 0) ≤ 0
      · simp [empty] at filled
      simp only [empty, if_false] at filled
      have positive := not_le.mp empty
      have displayed : ∃ depth, book.displayed order.side = some depth ∧
          min order.contracts ((book.displayed order.side).getD 0) ≤ depth := by
        cases shown : book.displayed order.side with
        | none => simp [shown] at positive
        | some depth => exact ⟨depth, rfl, min_le_right _ _⟩
      cases side : order.side with
      | buy =>
          simp only [side] at filled
          obtain ⟨projected, -, filled⟩ := bind_eq_ok.mp filled
          by_cases loses : projected ≤ 0
          · simp [loses] at filled
          · simp only [loses, decide_false, pure_bind, Bool.false_eq_true, if_false, reduceCtorEq,
              false_and] at filled
            obtain ⟨fee, -, filled⟩ := bind_eq_ok.mp filled
            cases (pure_eq_ok _ _).mp filled
            rw [side] at positive displayed
            refine ⟨positive, min_le_left _ _, side.symm ▸ displayed, bought, fun sell => ?_⟩
            cases side.symm.trans sell
      | sell =>
          simp only [side, pure_bind, Bool.false_eq_true, if_false, true_and] at filled
          obtain ⟨fee, -, filled⟩ := bind_eq_ok.mp filled
          rw [side] at positive displayed
          by_cases calm : ¬isStop order.reason = true ∧ ¬isTime order.reason = true
          · rw [if_pos calm] at filled
            obtain ⟨basis, earned, filled⟩ := bind_eq_ok.mp filled
            cases basis with
            | none => cases filled
            | some projected =>
                by_cases loses : projected ≤ 0
                · simp [loses] at filled
                · simp only [loses, if_false] at filled
                  cases (pure_eq_ok _ _).mp filled
                  refine ⟨positive, min_le_left _ _, side.symm ▸ displayed, bought, ?_⟩
                  exact fun sell stop time =>
                    ⟨sold sell stop time, projected, earned, not_le.mp loses⟩
          · rw [if_neg calm] at filled
            cases (pure_eq_ok _ _).mp filled
            refine ⟨positive, min_le_left _ _, side.symm ▸ displayed, bought, ?_⟩
            exact fun _ stop time => absurd ⟨stop, time⟩ calm

end Fills

/-- An attempt in its window, within what a fill respects. -/
structure Attempted (inst : Installation Time Day) (feed : Feed Time) (now : Time)
    (order : PendingPaperOrder Time) (fill : Fill) : Prop where
  unexpired : now ≤ order.dueAt + inst.cfg.fillTimeoutS
  respects : Respects order (feed.topOfBook order.ticker) fill

omit [Zero Time] [Sub Time] [DecidableEq Day] in
/-- Each due order gets one attempt, in order. -/
theorem attemptAll_attempted {inst : Installation Time Day} {feed : Feed Time} {now : Time}
    {orders : List (PendingPaperOrder Time)} {results : List (PendingPaperOrder Time × Option Fill)}
    (attempted : attemptAll inst feed now orders = .ok results) :
    results.map Prod.fst = orders ∧
      ∀ order fill, (order, some fill) ∈ results → Attempted inst feed now order fill := by
  induction orders generalizing results with
  | nil =>
      cases (pure_eq_ok _ _).mp attempted
      exact ⟨rfl, fun _ _ member => absurd member List.not_mem_nil⟩
  | cons order rest ih =>
      rw [attemptAll] at attempted
      by_cases expired : order.dueAt + inst.cfg.fillTimeoutS < now
      · simp only [expired, if_true, pure_bind] at attempted
        obtain ⟨later, found, attempted⟩ := bind_eq_ok.mp attempted
        cases (pure_eq_ok _ _).mp attempted
        obtain ⟨orders, each⟩ := ih found
        refine ⟨by simp [orders], fun o fill member => ?_⟩
        rcases List.mem_cons.mp member with here | there
        · cases here
        · exact each o fill there
      · simp only [expired, if_false] at attempted
        obtain ⟨attempt, once, attempted⟩ := bind_eq_ok.mp attempted
        obtain ⟨later, found, attempted⟩ := bind_eq_ok.mp attempted
        cases (pure_eq_ok _ _).mp attempted
        obtain ⟨orders, each⟩ := ih found
        refine ⟨by simp [orders], fun o fill member => ?_⟩
        rcases List.mem_cons.mp member with here | there
        · cases here
          exact ⟨not_lt.mp expired, paperFill_respects once⟩
        · exact each o fill there

end Inci.Trading
