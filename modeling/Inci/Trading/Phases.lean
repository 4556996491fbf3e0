/-
# Trading.Phases -- every phase of a tick keeps the portfolio invariant

Each part of `processTick` keeps `Balanced`, whether it answers or raises.  Orders
taken off the book but not yet applied count as working until they are, so the
fills are applied under the invariant of the orders still in flight.
`paper_portfolio_invariant` is the run theorem.
-/
import Inci.Trading.Portfolio

namespace Inci.Trading

open Inci.Theory

set_option autoImplicit false

variable {Time Day : Type} [LinearOrder Time] [Zero Time] [Add Time] [Sub Time] [DecidableEq Day]

section Invariant

variable (inst : Installation Time Day)

omit [LinearOrder Time] [Zero Time] [Add Time] [Sub Time] [DecidableEq Day]

/-- The invariant of a context. -/
def InBalance (s : Context Time Day) : Prop :=
  Balanced inst s.positions s.pendingPaper s.history

/-- The invariant while orders taken off the book await their fills. -/
def InFlight (flight : List (PendingPaperOrder Time)) (s : Context Time Day) : Prop :=
  Balanced inst s.positions (flight ++ s.pendingPaper) s.history

variable {inst}

theorem InFlight.landed {flight : List (PendingPaperOrder Time)} {s : Context Time Day}
    (balanced : InFlight inst flight s) : InBalance inst s :=
  Balanced.fewer balanced (List.sublist_append_right flight _).subperm

theorem InFlight.dropped {order : PendingPaperOrder Time} {flight : List (PendingPaperOrder Time)}
    {s : Context Time Day} (balanced : InFlight inst (order :: flight) s) :
    InFlight inst flight s := Balanced.fewer balanced (List.sublist_cons_self order _).subperm

theorem InBalance.steady (s₀ s : Context Time Day) (steady : s₀.Steady s)
    (balanced : InBalance inst s₀) : InBalance inst s := by
  unfold InBalance
  rw [steady.positions, steady.pendingPaper, steady.history]
  exact balanced

theorem InFlight.steady {flight : List (PendingPaperOrder Time)} (s₀ s : Context Time Day)
    (steady : s₀.Steady s) (balanced : InFlight inst flight s₀) : InFlight inst flight s := by
  unfold InFlight
  rw [steady.positions, steady.pendingPaper, steady.history]
  exact balanced

theorem PendingPaperOrder.Again.retagged {order order' : PendingPaperOrder Time}
    (again : order.Again order') : Balanced.Retagged order order' := by
  rcases again with rfl | ⟨_, reason, rfl⟩
  · exact Balanced.Retagged.rfl _
  · refine ⟨rfl, rfl, ?_⟩
    intro pos covers
    exact ⟨covers.contracts, covers.entryPrice, covers.entryContracts, covers.entryFeeUsd⟩

end Invariant

/-! ## Judging and canceling -/

section Judging

variable (inst : Installation Time Day)

omit [Zero Time] [Add Time] [DecidableEq Day] in
/-- A raised peak is no part of any order's cost basis. -/
theorem checkExit_balance (ticker : String) (bid : Option Decimal) (now : Time) :
    Keeps (InBalance inst) (checkExit inst ticker bid now) := by
  apply Triple.get_bind
  intro s balanced
  cases held : s.position ticker with
  | none =>
      apply Triple.answer_from
      exact balanced
  | some pos =>
      cases bid with
      | none =>
          apply Triple.answer_from
          exact balanced
      | some bid =>
          apply Triple.bind (S := fun _ => InBalance inst)
          · apply Triple.modify_from
            apply Balanced.replaced balanced (Dict.mem_keys_of_get held)
            intro order member same exit
            obtain ⟨pos', found, covers⟩ := balanced.exiting order member exit
            rw [same] at found
            cases held.symm.trans found
            exact ⟨covers.contracts, covers.entryPrice, covers.entryContracts, covers.entryFeeUsd⟩
          · intro _
            exact Keeps.except _

omit [LinearOrder Time] [Zero Time] [Add Time] [Sub Time] [DecidableEq Day] in
theorem upgradePendingPaperExit_balance (ticker reason : String) :
    Keeps (InBalance inst) (upgradePendingPaperExit ticker reason) := by
  apply Keeps.change
  intro s balanced
  apply Balanced.retagged balanced
  exact (upgradeFirst_again ticker reason s.pendingPaper).imp fun _ _ again => again.retagged

omit [Zero Time] [Add Time] [DecidableEq Day] in
theorem upgradeDueExit_balance (t : Tick Time) (bid : Decimal) :
    Keeps (InBalance inst) (upgradeDueExit inst t bid) := by
  apply Keeps.bind Keeps.read
  intro s
  cases s.getPending t.ticker .sell with
  | none => exact Keeps.answer _
  | some order =>
      apply Keeps.ite
      · intro _
        apply Keeps.bind (checkExit_balance inst t.ticker (some bid) t.observedAt)
        intro signal
        cases signal with
        | none => exact Keeps.answer _
        | some reason =>
            apply Keeps.ite
            · intro _
              exact upgradePendingPaperExit_balance inst t.ticker reason
            · intro _
              exact Keeps.answer _
      · intro _
        exact Keeps.answer _

omit [Zero Time] [Add Time] in
theorem checkLossLimit_balance (feed : Feed Time) (now : Time) :
    Keeps (InBalance inst) (checkLossLimit inst feed now) :=
  Keeps.ofSteady (checkLossLimit_steady inst feed now) InBalance.steady

omit [LinearOrder Time] [Zero Time] [Add Time] [Sub Time] [DecidableEq Day] in
theorem cancelPending_balance {s : Context Time Day} (balanced : InBalance inst s)
    (ticker : String) (side : OrderSide) : InBalance inst (s.cancelPending ticker side) := by
  apply Balanced.logged
  · exact Balanced.fewer balanced List.filter_sublist.subperm
  · intro action member
    obtain ⟨order, -, rfl⟩ := List.mem_map.mp member
    trivial

omit [Zero Time] in
theorem blockDueEntry_balance (t : Tick Time) (bid ask : Decimal) (now : Time)
    (gate : GateSnapshot) (siblings : SiblingSnapshot) :
    Keeps (InBalance inst) (blockDueEntry inst t bid ask now gate siblings) := by
  apply Keeps.bind Keeps.read
  intro s
  cases s.getPending t.ticker .buy with
  | none => exact Keeps.answer _
  | some order =>
      apply Keeps.ite
      · intro _
        apply Keeps.bind (checkLossLimit_balance inst t.feed t.clockAtArrival)
        intro _
        apply Keeps.bind Keeps.read
        intro s'
        apply Keeps.bind (Keeps.except _)
        intro block
        cases block with
        | none => exact Keeps.answer _
        | some _ =>
            exact Keeps.change fun s'' balanced => cancelPending_balance inst balanced _ _
      · intro _
        exact Keeps.answer _

end Judging

/-! ## Applying the fills -/

section Filling

variable (inst : Installation Time Day) {flight : List (PendingPaperOrder Time)}

omit [LinearOrder Time] [Zero Time] [Add Time] [Sub Time] [DecidableEq Day]

/-- A held ticker that no order works on. -/
structure Idle (flight : List (PendingPaperOrder Time)) (ticker : String)
    (s : Context Time Day) : Prop where
  balanced : InFlight inst flight s
  idle : ∀ order ∈ flight ++ s.pendingPaper, order.ticker ≠ ticker
  held : ticker ∈ Dict.keys s.positions

variable {inst}

theorem Idle.put {ticker : String} {s : Context Time Day} (idle : Idle inst flight ticker s)
    (pos : Position Time) : Idle inst flight ticker (s.putPosition ticker pos) := by
  refine ⟨?_, idle.idle, Dict.mem_keys_put.mpr (Or.inl rfl)⟩
  apply Balanced.replaced idle.balanced idle.held
  intro order member same
  exact absurd same (idle.idle order member)

/-- The exit that is about to be applied leaves its ticker idle. -/
theorem InFlight.idle {order : PendingPaperOrder Time} {s : Context Time Day}
    (balanced : InFlight inst (order :: flight) s) (held : (s.position order.ticker).isSome) :
    Idle inst flight order.ticker s := by
  refine ⟨balanced.dropped, ?_, Dict.get_isSome.mp held⟩
  intro other member same
  exact (List.nodup_cons.mp balanced.single).1 (List.mem_map.mpr ⟨other, member, same⟩)

end Filling

section Applying

variable (inst : Installation Time Day) {flight : List (PendingPaperOrder Time)}

omit [Add Time] [Sub Time] [DecidableEq Day] in
theorem recordPnl_idle (ticker : String) (pnl : Decimal) (ts : Time) :
    Keeps (Idle inst flight ticker) (recordPnl inst pnl ts) := by
  apply Keeps.bind Keeps.read
  intro s
  cases s.ledger with
  | none => exact Keeps.answer _
  | some ledger =>
      apply Keeps.ite
      · intro _
        exact Keeps.raise _
      · intro _
        exact Keeps.change fun s' idle => ⟨idle.balanced, idle.idle, idle.held⟩

omit [Add Time] [Sub Time] [DecidableEq Day] in
theorem closePosition_balance (ticker : String) (pos : Position Time) (fill : Fill) (now : Time) :
    Triple (Idle inst flight ticker) (closePosition inst ticker pos fill now)
      (fun _ => InFlight inst flight) (InFlight inst flight) := by
  have landed : ∀ s : Context Time Day, Idle inst flight ticker s → InFlight inst flight s :=
    fun s idle => idle.balanced
  apply Triple.except_bind _ landed
  rintro ⟨pnl, entryFeePart⟩ _
  apply Keeps.before Keeps.read landed
  intro s
  apply Triple.except_bind _ landed
  intro realized _
  refine Keeps.before (Keeps.change ?_) landed ?_
  · exact fun s' idle => ⟨idle.balanced, idle.idle, idle.held⟩
  intro _
  apply Keeps.before (recordPnl_idle inst ticker pnl now) landed
  intro _
  apply Triple.except_bind _ landed
  intro left _
  refine Keeps.before (Keeps.change ?_) landed ?_
  · exact fun s' idle => idle.put _
  intro _
  apply Triple.except_bind _ landed
  intro feeLeft _
  refine Keeps.before (Keeps.change ?_) landed ?_
  · exact fun s' idle => idle.put _
  intro _
  apply Triple.ite
  · intro _ s' idle
    exact Balanced.closed idle.balanced idle.idle
  · intro _ s' idle
    exact idle.balanced

omit [Add Time] [Sub Time] in
/-- An order's fill lands it: an entry becomes a position, an exit shrinks or closes one. -/
theorem recordFill_balance (order : PendingPaperOrder Time) (fill : Fill) (now : Time) :
    Triple (InFlight inst (order :: flight)) (recordFill inst order.ticker order.side fill now)
      (fun _ => InFlight inst flight) (InFlight inst flight) := by
  have dropped : ∀ s : Context Time Day, InFlight inst (order :: flight) s →
      InFlight inst flight s := fun s balanced => balanced.dropped
  apply Triple.ite
  · intro _
    exact dropped
  · intro _
    apply Keeps.before (Keeps.ofSteady (refreshDailyPnl_steady inst now) InFlight.steady) dropped
    intro _
    apply Triple.get_bind
    intro s balanced
    cases side : order.side with
    | buy =>
        have free : s.position order.ticker = none :=
          balanced.entering order List.mem_cons_self side
        rw [free]
        apply Triple.modify_from
        exact Balanced.entered balanced side _
    | sell =>
        cases held : s.position order.ticker with
        | none => exact Triple.answer_from balanced.dropped
        | some pos =>
            rintro _ rfl
            exact closePosition_balance inst order.ticker pos fill now _
              (balanced.idle (by rw [held]; rfl))

omit [Add Time] [Sub Time] in
/-- The fills of the orders in flight land them one after the other. -/
theorem applyFills_balance (now : Time) (results : List (PendingPaperOrder Time × Option Fill))
    (bounded : ∀ order fill, (order, some fill) ∈ results → fill.filled ≤ order.contracts) :
    Triple (InFlight inst (results.map Prod.fst)) (applyFills inst now results)
      (fun _ => InBalance inst) (InBalance inst) := by
  induction results with
  | nil => exact fun s balanced => InFlight.landed balanced
  | cons result rest ih =>
      have later : ∀ order fill, (order, some fill) ∈ rest → fill.filled ≤ order.contracts :=
        fun order fill member => bounded order fill (List.mem_cons_of_mem _ member)
      have landed : ∀ s : Context Time Day, InFlight inst (result.1 :: rest.map Prod.fst) s →
          InBalance inst s := fun s balanced => balanced.landed
      obtain ⟨order, attempt⟩ := result
      cases attempt with
      | none =>
          apply (ih later).weaken
          · exact fun s balanced => InFlight.dropped balanced
          · exact fun _ _ reached => reached
          · exact fun _ reached => reached
      | some fill =>
          apply Keeps.before _ landed
          · intro _
            apply Triple.bind (S := fun _ => InFlight inst (rest.map Prod.fst))
            · apply (recordFill_balance inst order fill now).weaken
              · exact fun _ balanced => balanced
              · exact fun _ _ reached => reached
              · exact fun _ reached => reached.landed
            · intro _
              exact ih later
          · apply Keeps.change
            intro s balanced
            apply Balanced.logged balanced
            intro action member
            obtain rfl := List.mem_singleton.mp member
            intro side
            -- the exit is backed by its position, which the order cannot exceed
            obtain ⟨pos, found, covers⟩ := balanced.exiting order List.mem_cons_self side
            refine ⟨pos.contracts, by rw [Context.position, found]; rfl, ?_⟩
            rw [← covers.contracts]
            exact bounded order fill List.mem_cons_self

omit [Zero Time] [Sub Time] [DecidableEq Day] in
/-- Taking the due orders off the book puts them in flight. -/
theorem processDuePaperOrders_balance (feed : Feed Time) (now : Time) (ticker : String) :
    Triple (InBalance inst) (processDuePaperOrders inst feed now ticker)
      (fun results s => InFlight inst (results.map Prod.fst) s ∧
        ∀ order fill, (order, some fill) ∈ results → fill.filled ≤ order.contracts)
      (InBalance inst) := by
  apply Triple.get_bind
  intro s balanced
  apply Triple.except_bind
  · intro results attempted
    obtain ⟨taken, bounded⟩ := attemptAll_spec inst attempted
    apply Triple.bind (S := fun _ => InFlight inst (results.map Prod.fst))
    · apply Triple.modify_from
      apply Balanced.fewer balanced
      rw [taken]
      have perm := List.filter_append_perm (fun order => order.isDue now ticker) s.pendingPaper
      simp only [decide_not] at perm ⊢
      exact perm.subperm
    · intro _ s' flying
      exact ⟨flying, bounded⟩
  · rintro _ rfl
    exact balanced

omit [Sub Time] in
theorem meetBook_balance (t : Tick Time) (now : Time) :
    Keeps (InBalance inst) (do
      let results ← processDuePaperOrders inst t.feed t.observedAt t.ticker
      applyFills inst now results) := by
  apply Triple.bind (processDuePaperOrders_balance inst t.feed t.observedAt t.ticker)
  intro results
  apply Triple.pointwise
  rintro s ⟨flying, bounded⟩
  exact (applyFills_balance inst now results bounded).starting flying

theorem meetDueOrders_balance (t : Tick Time) (bid ask : Decimal) (now : Time)
    (gate : GateSnapshot) (siblings : SiblingSnapshot) :
    Keeps (InBalance inst) (meetDueOrders inst t bid ask now gate siblings) := by
  apply Keeps.bind (upgradeDueExit_balance inst t bid)
  intro _
  apply Keeps.bind (blockDueEntry_balance inst t bid ask now gate siblings)
  intro _
  exact meetBook_balance inst t now

end Applying

/-! ## New orders -/

section Scheduling

variable (inst : Installation Time Day)

omit [LinearOrder Time] [Zero Time] [Add Time] [Sub Time] [DecidableEq Day] in
/-- A submission keeps the invariant when the order would fit. -/
theorem submitPaper_balance {order : PendingPaperOrder Time} {s₀ : Context Time Day}
    (balanced : InBalance inst s₀)
    (fits : order.ticker ∉ s₀.pendingPaper.map (·.ticker) →
      Balanced inst s₀.positions (s₀.pendingPaper ++ [order]) s₀.history) :
    Triple (fun s => s = s₀) (submitPaper order) (fun _ => InBalance inst) (InBalance inst) := by
  apply Triple.get_bind
  rintro _ rfl
  apply Triple.ite
  · intro _
    exact Triple.answer_from balanced
  · intro idle
    apply Triple.modify_from
    apply Balanced.logged
    · apply fits
      intro working
      obtain ⟨other, member, same⟩ := List.mem_map.mp working
      exact idle ⟨other, member, same⟩
    · intro action member
      obtain rfl := List.mem_singleton.mp member
      trivial

omit [LinearOrder Time] [Zero Time] [Sub Time] [DecidableEq Day] in
theorem scheduleExit_balance (t : Tick Time) (reason : String) (now : Time) :
    Keeps (InBalance inst) (scheduleExit inst t reason now) := by
  apply Triple.get_bind
  intro s balanced
  cases held : s.position t.ticker with
  | none => exact Triple.answer_from balanced
  | some pos =>
      cases s.getPending t.ticker .sell with
      | some working =>
          apply Triple.ite
          · rintro _ _ rfl
            exact upgradePendingPaperExit_balance inst t.ticker reason _ balanced
          · intro _
            exact Triple.answer_from balanced
      | none =>
          apply submitPaper_balance inst balanced
          intro idle
          apply Balanced.submitted balanced idle
          · intro _
            exact ⟨pos, held, rfl, rfl, rfl, rfl⟩
          · intro side
            exact nomatch side

omit [LinearOrder Time] [Zero Time] [Add Time] [Sub Time] [DecidableEq Day] in
/-- Without a conflict no other exposed ticker shares the Event. -/
theorem sameEventExposure_none {s : Context Time Day} {ticker : String}
    (clear : sameEventExposure inst s ticker = none) {event : String}
    (listed : inst.eventTicker ticker = some event) {other : String}
    (exposed : Exposed s.positions s.pendingPaper other) (different : other ≠ ticker) :
    inst.eventTicker other ≠ some event := by
  unfold sameEventExposure at clear
  rw [listed] at clear
  simp only [List.find?_eq_none, List.mem_append] at clear
  intro shared
  exact clear other exposed (by simp [different, shared])

omit [LinearOrder Time] [Zero Time] [Sub Time] [DecidableEq Day] in
/-- An entry of a free ticker, with room for it, fits unless its Event is exposed. -/
theorem submitEntry_balance (t : Tick Time) (signal : EntrySignal) (now : Time)
    (gate : GateSnapshot) (siblings : SiblingSnapshot) {s₀ : Context Time Day}
    (balanced : InBalance inst s₀) (free : s₀.position t.ticker = none)
    (room : s₀.positions.length + s₀.pendingCount .buy < inst.cfg.maxOpenPositions) :
    Triple (fun s => s = s₀) (submitEntry inst t signal now gate siblings)
      (fun _ => InBalance inst) (InBalance inst) := by
  apply Triple.get_bind
  rintro s rfl
  apply Triple.ite
  · intro _
    exact Triple.answer_from balanced
  · intro clear
    apply Triple.except_bind
    · intro spike _
      cases spike with
      | some _ => exact Triple.answer_from balanced
      | none =>
          apply Triple.ite
          · intro _
            exact Triple.answer_from balanced
          · intro _
            apply submitPaper_balance inst balanced
            intro idle
            apply Balanced.submitted balanced idle
            · intro side
              exact nomatch side
            · intro _
              refine ⟨free, room, ?_⟩
              intro enabled event listed other exposed different
              have none : sameEventExposure inst s t.ticker = none := by
                rw [← Option.not_isSome_iff_eq_none]
                exact fun conflict => clear ⟨enabled, conflict⟩
              exact sameEventExposure_none inst none listed exposed different
    · rintro _ rfl
      exact balanced

omit [Add Time] [DecidableEq Day] in
/-- Only a ticker without a position is entered. -/
theorem entryDecision_free {s : Context Time Day} {ticker : String}
    {history : List (Time × Decimal)} {nowTs : Time} {mid bid ask askQty : Option Decimal}
    {signal : EntrySignal}
    (decided : entryDecision inst s ticker history nowTs mid bid ask askQty = .ok (some signal)) :
    s.position ticker = none := by
  unfold entryDecision at decided
  cases mid with
  | none => simp at decided
  | some mid =>
      cases bid with
      | none => simp at decided
      | some bid =>
          cases ask with
          | none => simp at decided
          | some ask =>
              by_cases held : (s.position ticker).isSome
              · simp [held] at decided
              · exact Option.not_isSome_iff_eq_none.mp held

theorem scheduleEntry_balance (t : Tick Time) (now : Time) (gate : GateSnapshot)
    (siblings : SiblingSnapshot) :
    Keeps (InBalance inst) (scheduleEntry inst t now gate siblings) := by
  apply Triple.get_bind
  intro s₀ balanced
  apply Triple.ite
  · intro _
    exact Triple.answer_from balanced
  · intro full
    apply Triple.ite
    · intro _
      exact Triple.answer_from balanced
    · intro _
      -- the day's refresh leaves the exposure that was counted
      have refreshed : Triple (fun s => s = s₀) (checkEntry inst t.ticker
          (t.feed.history t.ticker).dropLast now t.mid t.bid t.ask
          (t.feed.topOfBook t.ticker).askQty) (fun signal s => s₀.Steady s ∧
            ∀ found, signal = some found → s.position t.ticker = none) (InBalance inst) := by
        apply Triple.bind (S := fun _ => s₀.Steady)
        · apply (refreshDailyPnl_steady inst now s₀).weaken
          · rintro _ rfl
            exact Context.Steady.rfl
          · exact fun _ _ steady => steady
          · exact fun s steady => InBalance.steady s₀ s steady balanced
        · intro _
          apply Triple.get_bind
          intro read steady
          rintro s rfl
          rw [Effect.runFrom_ofExcept]
          cases decided : entryDecision inst s t.ticker (t.feed.history t.ticker).dropLast now t.mid
              t.bid t.ask (t.feed.topOfBook t.ticker).askQty with
          | error e => exact InBalance.steady s₀ s steady balanced
          | ok signal =>
              refine ⟨steady, ?_⟩
              rintro found rfl
              exact entryDecision_free inst decided
      apply Triple.bind refreshed
      intro signal
      apply Triple.pointwise
      rintro s ⟨steady, free⟩
      have kept := InBalance.steady s₀ s steady balanced
      cases signal with
      | none => exact Triple.answer_from kept
      | some signal =>
          apply submitEntry_balance inst t signal now gate siblings kept (free signal rfl)
          unfold Context.pendingCount at full ⊢
          rw [steady.positions, steady.pendingPaper]
          omega

theorem act_balance (t : Tick Time) (now : Time) (gate : GateSnapshot)
    (siblings : SiblingSnapshot) : Keeps (InBalance inst) (act inst t now gate siblings) := by
  apply Keeps.bind Keeps.read
  intro s
  apply Keeps.ite
  · intro _
    exact Keeps.answer _
  · intro _
    apply Keeps.bind (checkExit_balance inst t.ticker t.bid now)
    intro signal
    cases signal with
    | some reason => exact scheduleExit_balance inst t reason now
    | none =>
        apply Keeps.bind Keeps.read
        intro s'
        apply Keeps.ite
        · intro _
          exact Keeps.answer _
        · intro _
          exact scheduleEntry_balance inst t now gate siblings

/-! ## Whole runs -/

/-- A tick keeps the invariant, and so does one that a failure ends. -/
theorem processTick_balance (t : Tick Time) : Keeps (InBalance inst) (processTick inst t) := by
  apply Keeps.bind (Keeps.except _)
  intro gate
  apply Keeps.bind (Keeps.except _)
  intro siblings
  apply Keeps.bind
  · apply Keeps.change
    intro s balanced
    unfold markQuote
    cases t.bid with
    | none => exact balanced
    | some bid => exact balanced
  intro _
  have rest : Keeps (InBalance inst) (do
      checkLossLimit inst t.feed t.clockAtRevaluation
      let s ← get
      if s.tripped then pure ()
      else act inst t (t.decisionAt.getD t.observedAt) gate siblings) := by
    apply Keeps.bind (checkLossLimit_balance inst t.feed t.clockAtRevaluation)
    intro _
    apply Keeps.bind Keeps.read
    intro s
    apply Keeps.ite
    · intro _
      exact Keeps.answer _
    · intro _
      exact act_balance inst t _ gate siblings
  cases t.mid with
  | none => exact rest
  | some mid =>
      cases t.bid with
      | none => exact rest
      | some bid =>
          cases t.ask with
          | none => exact rest
          | some ask =>
              apply Keeps.bind (meetDueOrders_balance inst t bid ask _ gate siblings)
              exact fun _ => rest

/-- The ticks one after the other; a tick that raises leaves what it had done. -/
def runTicks (s : Context Time Day) (ticks : List (Tick Time)) : Context Time Day :=
  ticks.foldl (fun s t => (Effect.runFrom (processTick inst t) s).2) s

theorem runTicks_balance (ticks : List (Tick Time)) (s : Context Time Day)
    (balanced : InBalance inst s) : InBalance inst (runTicks inst s ticks) := by
  induction ticks generalizing s with
  | nil => exact balanced
  | cons t rest ih =>
      rw [runTicks, List.foldl_cons]
      apply ih
      exact (processTick_balance inst t).after balanced

end Scheduling

/-- Nothing held, nothing working and nothing recorded. -/
structure Context.Flat (s : Context Time Day) : Prop where
  positions : s.positions = []
  pendingPaper : s.pendingPaper = []
  history : s.history = []

section Invariance

variable (inst : Installation Time Day)

omit [LinearOrder Time] [Zero Time] [Add Time] [Sub Time] [DecidableEq Day] in
theorem Context.Flat.inBalance {s : Context Time Day} (flat : s.Flat) : InBalance inst s := by
  unfold InBalance
  rw [flat.positions, flat.pendingPaper, flat.history]
  refine ⟨List.nodup_nil, List.nodup_nil, ?_, ?_, Nat.zero_le _, ?_, ?_⟩
  · exact fun order member => absurd member (List.not_mem_nil)
  · exact fun order member => absurd member (List.not_mem_nil)
  · rintro _ one other (held | working)
    · exact absurd held (List.not_mem_nil)
    · exact absurd working (List.not_mem_nil)
  · exact fun action member => absurd member (List.not_mem_nil)

/-- What a paper portfolio looks like between ticks. -/
structure PaperPortfolio (s : Context Time Day) : Prop where
  oneOrder : ∀ ticker, (s.pendingPaper.filter fun order => order.ticker = ticker).length ≤ 1
  entering : ∀ order ∈ s.pendingPaper, order.side = .buy → s.position order.ticker = none
  exiting : ∀ order ∈ s.pendingPaper, order.side = .sell →
    ∃ pos, s.position order.ticker = some pos ∧ order.contracts = pos.contracts ∧
      order.entryPrice = some pos.entryPrice ∧ order.entryContracts = some pos.contracts ∧
      order.entryFeeUsd = some pos.entryFeeUsd
  covered : ∀ order fill held, Action.filled order fill held ∈ s.history → order.side = .sell →
    ∃ contracts, held = some contracts ∧ fill.filled ≤ contracts
  bounded : s.positions.length + s.pendingCount .buy ≤ inst.cfg.maxOpenPositions
  apart : ∀ one other, Exposed s.positions s.pendingPaper one →
    Exposed s.positions s.pendingPaper other → one ≠ other →
    ∀ event, inst.eventTicker one = some event → inst.eventTicker other ≠ some event

omit [LinearOrder Time] [Zero Time] [Add Time] [Sub Time] [DecidableEq Day] in
theorem InBalance.portfolio {s : Context Time Day} (balanced : InBalance inst s)
    (enabled : inst.cfg.oneContractPerEvent = true) : PaperPortfolio inst s := by
  refine ⟨?_, balanced.entering, ?_, ?_, balanced.bounded, balanced.apart enabled⟩
  · intro ticker
    have once := List.nodup_iff_count_le_one.mp balanced.single ticker
    rw [List.count, List.countP_map, List.countP_eq_length_filter] at once
    simpa [Function.comp_def, beq_eq_decide] using once
  · intro order member side
    obtain ⟨pos, found, covers⟩ := balanced.exiting order member side
    exact ⟨pos, found, covers.contracts, covers.entryPrice, covers.entryContracts,
      covers.entryFeeUsd⟩
  · intro order fill held member side
    exact balanced.fair _ member side

/-- From a flat start, with one contract per Event, every run of ticks ends in a paper
portfolio. -/
theorem paper_portfolio_invariant (enabled : inst.cfg.oneContractPerEvent = true)
    {start : Context Time Day} (flat : start.Flat) (ticks : List (Tick Time)) :
    PaperPortfolio inst (runTicks inst start ticks) :=
  (runTicks_balance inst ticks start (flat.inBalance inst)).portfolio inst enabled

end Invariance

/-! ## A small account

One market with a steady quote of 39 and 40 after a dip from 50. -/

/-- The defaults, with a loss limit of one dollar. -/
def smallAccount : Installation Int Int where
  cfg :=
    { dipThreshold := Decimal.ofNat 7
      lookbackSeconds := 45
      takeProfit := Decimal.ofNat 5
      tpTrailCents := Decimal.ofNat 2
      stopLoss := Decimal.ofNat 6
      maxHoldSeconds := 300
      closeBufferSeconds := 60
      contractsPerTrade := Decimal.ofNat 20
      maxOpenPositions := 3
      maxDailyLossUsd := 1
      minPrice := Decimal.ofNat 10
      maxPrice := Decimal.ofNat 90
      maxSpread := Decimal.ofNat 3
      simLatencyS := 1
      simSlippageCents := 1
      balancePrecisionUsd := cent
      fillTimeoutS := 4
      staleDataS := 20
      oneContractPerEvent := true
      siblingSpikeCents := Decimal.ofNat 3
      siblingSpikeLookbackS := 60 }
  eventTicker := fun ticker => if ticker = "MATCH-A" then some "MATCH" else none
  utcDay := fun ts => ts / 86400
  format := fun spec amount =>
    if spec = ".1f" then "10.0"
    else if spec = "+.4f" then "+0.3100"
    else if spec = "+.2f" then "-1.07"
    else if amount = Decimal.ofNat 40 then "40" else "20"
  formatTime := fun _ seconds => toString seconds

def flatAccount : Context Int Int where
  positions := []
  realizedPnl := 0
  ledger := none
  ledgerDay := none
  pendingPaper := []
  latestBid := fun _ => none
  bidTs := fun _ => none
  trippedReason := none
  history := []

theorem flatAccount_flat : flatAccount.Flat := ⟨rfl, rfl, rfl⟩

def dippedTick (at_ : Int) : Tick Int where
  ticker := "MATCH-A"
  mid := some (Decimal.ofDigits 395 1)
  bid := some (Decimal.ofNat 39)
  ask := some (Decimal.ofNat 40)
  observedAt := at_
  decisionAt := none
  gate := .ok ⟨false, true, none⟩
  siblings := .ok ⟨false, true, [], none⟩
  feed :=
    { topOfBook := fun _ => ⟨some (Decimal.ofNat 39), some (Decimal.ofNat 50),
        some (Decimal.ofNat 40), some (Decimal.ofNat 50)⟩
      closeTimes := fun _ => some 100000
      history := fun _ => [(at_ - 10, Decimal.ofNat 50), (at_, Decimal.ofDigits 395 1)] }
  clockAtArrival := at_
  clockAtRevaluation := at_

/-- The run that enters and fills. -/
theorem paper_portfolio_invariant_entry :
    (runTicks smallAccount flatAccount [dippedTick 1000, dippedTick 1001]).history.length = 2 ∧
      PaperPortfolio smallAccount
        (runTicks smallAccount flatAccount [dippedTick 1000, dippedTick 1001]) :=
  ⟨by decide +kernel, paper_portfolio_invariant smallAccount rfl flatAccount_flat _⟩

end Inci.Trading
