/-
# Trading.Portfolio -- the portfolio invariant of the paper engine

`Balanced` relates the open positions to the orders still working: one order a
ticker, no entry into a held ticker, every exit covered by its position, the
position bound counted with the entries, and one ticker an Event.  Its first
section is about the two lists alone.  The second proves that every phase of a
tick keeps it, a phase stopped by a failure included, and the run theorem
follows.  Orders that were taken off the book but not yet applied count as
working.
-/
import Mathlib.Data.List.Perm.Basic
import Inci.Trading.Changes

namespace Inci.Trading

open Inci.Theory

set_option autoImplicit false

variable {Time Day : Type} [LinearOrder Time] [Zero Time] [Add Time] [Sub Time] [DecidableEq Day]

/-- The order closes exactly the position, with the position's own cost basis. -/
structure PendingPaperOrder.Covers (order : PendingPaperOrder Time) (pos : Position Time) :
    Prop where
  contracts : order.contracts = pos.contracts
  entryPrice : order.entryPrice = some pos.entryPrice
  entryContracts : order.entryContracts = some pos.contracts
  entryFeeUsd : order.entryFeeUsd = some pos.entryFeeUsd

/-- A ticker with a position or a working order. -/
def Exposed (positions : List (String × Position Time)) (orders : List (PendingPaperOrder Time))
    (ticker : String) : Prop :=
  ticker ∈ Dict.keys positions ∨ ticker ∈ orders.map (·.ticker)

/-- How many of the orders are entries. -/
def entries (orders : List (PendingPaperOrder Time)) : Nat :=
  (orders.filter fun order => order.side = .buy).length

/-- No recorded exit sold more than was held. -/
def Action.Fair : Action Time → Prop
  | .filled order fill held => order.side = .sell → ∃ h, held = some h ∧ fill.filled ≤ h
  | _ => True

structure Balanced (inst : Installation Time Day) (positions : List (String × Position Time))
    (orders : List (PendingPaperOrder Time)) (history : List (Action Time)) : Prop where
  keys : (Dict.keys positions).Nodup
  single : (orders.map (·.ticker)).Nodup
  entering : ∀ order ∈ orders, order.side = .buy → Dict.get positions order.ticker = none
  exiting : ∀ order ∈ orders, order.side = .sell →
    ∃ pos, Dict.get positions order.ticker = some pos ∧ order.Covers pos
  bounded : positions.length + entries orders ≤ inst.cfg.maxOpenPositions
  apart : inst.cfg.oneContractPerEvent = true → ∀ one other, Exposed positions orders one →
    Exposed positions orders other → one ≠ other →
    ∀ event, inst.eventTicker one = some event → inst.eventTicker other ≠ some event
  fair : ∀ action ∈ history, action.Fair

namespace Balanced

omit [LinearOrder Time] [Zero Time] [Add Time] [Sub Time] [DecidableEq Day]

variable {inst : Installation Time Day} {positions : List (String × Position Time)}
  {orders orders' : List (PendingPaperOrder Time)} {history : List (Action Time)}

/-- Fewer working orders, in any order. -/
theorem fewer (balanced : Balanced inst positions orders history)
    (fewer : List.Subperm orders' orders) : Balanced inst positions orders' history := by
  have members : ∀ order ∈ orders', order ∈ orders := fun order => fun member =>
    fewer.subset member
  have exposed : ∀ ticker, Exposed positions orders' ticker → Exposed positions orders ticker := by
    rintro ticker (held | working)
    · exact Or.inl held
    · obtain ⟨order, member, rfl⟩ := List.mem_map.mp working
      exact Or.inr (List.mem_map_of_mem (members order member))
  have count : entries orders' ≤ entries orders := (fewer.filter _).length_le
  obtain ⟨middle, perm, sub⟩ := fewer
  refine ⟨balanced.keys, ?_, fun order member => balanced.entering order (members order member),
    fun order member => balanced.exiting order (members order member), ?_, ?_, balanced.fair⟩
  · have nodup := balanced.single.sublist (sub.map (·.ticker))
    exact (perm.map (·.ticker)).nodup_iff.mp nodup
  · exact le_trans (Nat.add_le_add_left count _) balanced.bounded
  · intro one one' other here there
    exact balanced.apart one one' other (exposed one' here) (exposed other there)

/-- The order under another reason and bound. -/
def Retagged (order order' : PendingPaperOrder Time) : Prop :=
  order'.ticker = order.ticker ∧ order'.side = order.side ∧
    ∀ pos, order.Covers pos → order'.Covers pos

theorem Retagged.rfl (order : PendingPaperOrder Time) : Retagged order order :=
  ⟨Eq.refl _, Eq.refl _, fun _ covers => covers⟩

theorem retagged_tickers (same : List.Forall₂ Retagged orders orders') :
    orders'.map (·.ticker) = orders.map (·.ticker) := by
  induction same with
  | nil => exact Eq.refl _
  | cons first _ ih => rw [List.map_cons, List.map_cons, first.1, ih]

theorem retagged_entries (same : List.Forall₂ Retagged orders orders') :
    entries orders' = entries orders := by
  unfold entries
  induction same with
  | nil => exact Eq.refl _
  | @cons order order' _ _ first _ ih =>
      by_cases entry : order.side = .buy
      · simp [first.2.1, entry, ih]
      · simp [first.2.1, entry, ih]

/-- Orders under other reasons and bounds. -/
theorem retagged (balanced : Balanced inst positions orders history)
    (same : List.Forall₂ Retagged orders orders') : Balanced inst positions orders' history := by
  have tickers := retagged_tickers same
  refine ⟨balanced.keys, by rw [tickers]; exact balanced.single, ?_, ?_,
    by rw [retagged_entries same]; exact balanced.bounded, ?_, balanced.fair⟩
  · intro order' member entry
    obtain ⟨order, there, ticker, side, -⟩ := counterpart same member
    rw [ticker]
    exact balanced.entering order there (side ▸ entry)
  · intro order' member exit
    obtain ⟨order, there, ticker, side, covers⟩ := counterpart same member
    obtain ⟨pos, found, covered⟩ := balanced.exiting order there (side ▸ exit)
    exact ⟨pos, ticker ▸ found, covers pos covered⟩
  · intro one one' other here there
    unfold Exposed at here there
    rw [tickers] at here there
    exact balanced.apart one one' other here there

/-- A new record that is no unfair fill. -/
theorem logged (balanced : Balanced inst positions orders history) {actions : List (Action Time)}
    (fair : ∀ action ∈ actions, action.Fair) :
    Balanced inst positions orders (history ++ actions) := by
  refine ⟨balanced.keys, balanced.single, balanced.entering, balanced.exiting, balanced.bounded,
    balanced.apart, ?_⟩
  intro action member
  rcases List.mem_append.mp member with old | new
  · exact balanced.fair action old
  · exact fair action new

/-! A position replaced under its key -/

theorem exposed_put {ticker one : String} {pos : Position Time}
    (held : ticker ∈ Dict.keys positions)
    (exposed : Exposed (Dict.put positions ticker pos) orders one) :
    Exposed positions orders one := by
  rcases exposed with there | working
  · rcases Dict.mem_keys_put.mp there with rfl | old
    · exact Or.inl held
    · exact Or.inl old
  · exact Or.inr working

/-- A position of a ticker whose exit, if any, it still backs. -/
theorem replaced (balanced : Balanced inst positions orders history) {ticker : String}
    {pos : Position Time} (held : ticker ∈ Dict.keys positions)
    (backs : ∀ order ∈ orders, order.ticker = ticker → order.side = .sell → order.Covers pos) :
    Balanced inst (Dict.put positions ticker pos) orders history := by
  refine ⟨Dict.nodup_put balanced.keys, balanced.single, ?_, ?_, ?_, ?_, balanced.fair⟩
  · intro order member entry
    have free := balanced.entering order member entry
    have other : order.ticker ≠ ticker := by
      intro same
      rw [same, Dict.get_eq_none] at free
      exact free held
    rw [Dict.get_put_other other]
    exact free
  · intro order member exit
    by_cases same : order.ticker = ticker
    · exact ⟨pos, by rw [same, Dict.get_put_same], backs order member same exit⟩
    · rw [Dict.get_put_other same]
      exact balanced.exiting order member exit
  · rw [Dict.length_put, if_pos held]
    exact balanced.bounded
  · intro one one' other here there
    exact balanced.apart one one' other (exposed_put held here) (exposed_put held there)

/-- A closed position of a ticker with nothing working. -/
theorem closed (balanced : Balanced inst positions orders history) {ticker : String}
    (idle : ∀ order ∈ orders, order.ticker ≠ ticker) :
    Balanced inst (Dict.erase positions ticker) orders history := by
  have exposed : ∀ one, Exposed (Dict.erase positions ticker) orders one →
      Exposed positions orders one := by
    rintro one (held | working)
    · exact Or.inl (Dict.mem_keys_erase.mp held).2
    · exact Or.inr working
  refine ⟨Dict.nodup_erase balanced.keys, balanced.single, ?_, ?_, ?_, ?_, balanced.fair⟩
  · intro order member entry
    rw [Dict.get_erase_other (idle order member)]
    exact balanced.entering order member entry
  · intro order member exit
    rw [Dict.get_erase_other (idle order member)]
    exact balanced.exiting order member exit
  · exact le_trans (Nat.add_le_add_right Dict.length_erase_le _) balanced.bounded
  · intro one one' other here there
    exact balanced.apart one one' other (exposed one' here) (exposed other there)

/-- A filled entry: the order's place is taken by its position. -/
theorem entered {order : PendingPaperOrder Time}
    (balanced : Balanced inst positions (order :: orders) history) (entry : order.side = .buy)
    (pos : Position Time) :
    Balanced inst (Dict.put positions order.ticker pos) orders history := by
  obtain ⟨fresh, single⟩ := List.nodup_cons.mp balanced.single
  have free := Dict.get_eq_none.mp (balanced.entering order List.mem_cons_self entry)
  have idle : ∀ o ∈ orders, o.ticker ≠ order.ticker := by
    intro o member same
    exact fresh (List.mem_map.mpr ⟨o, member, same⟩)
  have exposed : ∀ one, Exposed (Dict.put positions order.ticker pos) orders one →
      Exposed positions (order :: orders) one := by
    rintro one (held | working)
    · rcases Dict.mem_keys_put.mp held with rfl | old
      · exact Or.inr List.mem_cons_self
      · exact Or.inl old
    · exact Or.inr (List.mem_cons_of_mem _ working)
  have count : entries (order :: orders) = entries orders + 1 := by simp [entries, entry]
  refine ⟨Dict.nodup_put balanced.keys, single, ?_, ?_, ?_, ?_, balanced.fair⟩
  · intro o member side
    rw [Dict.get_put_other (idle o member)]
    exact balanced.entering o (List.mem_cons_of_mem _ member) side
  · intro o member side
    rw [Dict.get_put_other (idle o member)]
    exact balanced.exiting o (List.mem_cons_of_mem _ member) side
  · have bounded := balanced.bounded
    rw [count] at bounded
    rw [Dict.length_put, if_neg free]
    omega
  · intro one one' other here there
    exact balanced.apart one one' other (exposed one' here) (exposed other there)

/-! A new order -/

/-- A new order of an idle ticker: an exit its position backs, or an entry within the bound
and apart from every exposure. -/
theorem submitted (balanced : Balanced inst positions orders history)
    {order : PendingPaperOrder Time} (idle : order.ticker ∉ orders.map (·.ticker))
    (backed : order.side = .sell →
      ∃ pos, Dict.get positions order.ticker = some pos ∧ order.Covers pos)
    (room : order.side = .buy → Dict.get positions order.ticker = none ∧
      positions.length + entries orders < inst.cfg.maxOpenPositions ∧
      (inst.cfg.oneContractPerEvent = true → ∀ event,
        inst.eventTicker order.ticker = some event → ∀ other, Exposed positions orders other →
          other ≠ order.ticker → inst.eventTicker other ≠ some event)) :
    Balanced inst positions (orders ++ [order]) history := by
  have single : ((orders ++ [order]).map (·.ticker)).Nodup := by
    rw [List.map_append]
    apply List.Nodup.append balanced.single (List.nodup_singleton _)
    intro ticker there here
    obtain rfl := List.mem_singleton.mp here
    exact idle there
  have exposed : ∀ one, Exposed positions (orders ++ [order]) one →
      one = order.ticker ∨ Exposed positions orders one := by
    rintro one (held | working)
    · exact Or.inr (Or.inl held)
    · rw [List.map_append, List.mem_append] at working
      rcases working with old | new
      · exact Or.inr (Or.inr old)
      · exact Or.inl (List.mem_singleton.mp new)
  refine ⟨balanced.keys, single, ?_, ?_, ?_, ?_, balanced.fair⟩
  · intro o member side
    rcases List.mem_append.mp member with old | new
    · exact balanced.entering o old side
    · obtain rfl := List.mem_singleton.mp new
      exact (room side).1
  · intro o member side
    rcases List.mem_append.mp member with old | new
    · exact balanced.exiting o old side
    · obtain rfl := List.mem_singleton.mp new
      exact backed side
  · have bounded := balanced.bounded
    cases side : order.side with
    | buy =>
        have within := (room side).2.1
        have count : entries (orders ++ [order]) = entries orders + 1 := by
          simp [entries, List.filter_append, side]
        omega
    | sell =>
        have count : entries (orders ++ [order]) = entries orders := by
          simp [entries, List.filter_append, side]
        omega
  · intro enabled one other here there different event hasEvent
    cases side : order.side with
    | sell =>
        -- the exit's ticker is exposed through its position already
        obtain ⟨pos, found, -⟩ := backed side
        have held : Exposed positions orders order.ticker := Or.inl (Dict.mem_keys_of_get found)
        have old : ∀ t, Exposed positions (orders ++ [order]) t → Exposed positions orders t := by
          intro t exposure
          rcases exposed t exposure with rfl | before
          · exact held
          · exact before
        exact balanced.apart enabled one other (old one here) (old other there) different event
          hasEvent
    | buy =>
        have clear := (room side).2.2 enabled
        rcases exposed one here with rfl | before
        · rcases exposed other there with same | before'
          · exact absurd same.symm different
          · exact clear event hasEvent other before' (Ne.symm different)
        · rcases exposed other there with rfl | before'
          · intro shared
            exact clear event shared one before different hasEvent
          · exact balanced.apart enabled one other before before' different event hasEvent

end Balanced

end Inci.Trading
