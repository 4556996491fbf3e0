/-
# Trading.Changes -- what the parts of a tick can change

`Context.Steady` bounds a revaluation: the exposure and the record stay, and a
spoken halt reason stays.  The other lemmas say what a part of the tick leaves
of the working orders, so that an invariant follows from the exposure alone.
-/
import Inci.Trading.Attempts
import Inci.Trading.Engine

namespace Inci.Trading

open Inci.Theory

set_option autoImplicit false

variable {Time Day : Type} [LinearOrder Time] [Zero Time] [Add Time] [Sub Time] [DecidableEq Day]

namespace Context

/-- The exposure and the record are those of the first context, and its halt reason stays. -/
structure Steady (s₀ s : Context Time Day) : Prop where
  positions : s.positions = s₀.positions
  pendingPaper : s.pendingPaper = s₀.pendingPaper
  history : s.history = s₀.history
  halt : ∀ reason, reason ≠ "" → s₀.trippedReason = some reason → s.trippedReason = some reason

omit [LinearOrder Time] [Zero Time] [Add Time] [Sub Time] [DecidableEq Day] in
theorem Steady.rfl {s : Context Time Day} : s.Steady s := ⟨Eq.refl _, Eq.refl _, Eq.refl _,
  fun _ _ halted => halted⟩

omit [LinearOrder Time] [Zero Time] [Add Time] [Sub Time] [DecidableEq Day] in
theorem Steady.trip {s₀ s : Context Time Day} (steady : s₀.Steady s) (reason : String) :
    s₀.Steady (s.trip reason) := by
  unfold Context.trip
  cases halted : s.trippedReason with
  | none =>
      refine ⟨steady.positions, steady.pendingPaper, steady.history, ?_⟩
      intro first spoken was
      have still := steady.halt first spoken was
      rw [halted] at still
      exact nomatch still
  | some first =>
      by_cases silent : first = ""
      · simp only [silent, if_true]
        refine ⟨steady.positions, steady.pendingPaper, steady.history, ?_⟩
        intro other spoken was
        have still := steady.halt other spoken was
        rw [halted, silent] at still
        exact absurd (Option.some.inj still).symm spoken
      · simp only [silent, if_false]
        exact steady

end Context

section Revaluation

variable (inst : Installation Time Day) {I : Context Time Day → Prop}

omit [LinearOrder Time] [Zero Time] [Add Time] [Sub Time] in
/-- The day's refresh writes the day and its result only. -/
theorem refreshDailyPnl_keeps
    (result : ∀ s pnl day, I s → I { s with realizedPnl := pnl, ledgerDay := day }) (now : Time) :
    Keeps I (refreshDailyPnl inst now) := by
  apply Keeps.bind Keeps.read
  intro s
  cases s.ledger with
  | none => exact Keeps.answer _
  | some ledger =>
      apply Keeps.ite
      · intro _
        exact Keeps.answer _
      · intro _
        apply Keeps.bind (Keeps.except _)
        intro total
        exact Keeps.change fun s holds => result s total _ holds

omit [Zero Time] [Add Time] in
/-- A revaluation refreshes the day, and may trip with a reason that is not empty. -/
theorem checkLossLimit_keeps
    (result : ∀ s pnl day, I s → I { s with realizedPnl := pnl, ledgerDay := day })
    (trip : ∀ s reason, reason ≠ "" → I s → I (s.trip reason)) (feed : Feed Time) (now : Time) :
    Keeps I (checkLossLimit inst feed now) := by
  apply Keeps.bind (refreshDailyPnl_keeps inst result now)
  intro _
  apply Keeps.bind Keeps.read
  intro s
  cases unvaluable inst s now with
  | some ticker =>
      apply Keeps.change
      intro s holds
      apply trip s _ _ holds
      simp
  | none =>
      apply Keeps.bind (Keeps.except _)
      intro mark
      apply Keeps.bind (Keeps.except _)
      intro total
      apply Keeps.bind (Keeps.except _)
      intro floor
      apply Keeps.ite
      · intro _
        apply Keeps.change
        intro s holds
        apply trip s _ _ holds
        simp
      · intro _
        exact Keeps.answer _

omit [LinearOrder Time] [Zero Time] [Add Time] [Sub Time] in
theorem refreshDailyPnl_steady (now : Time) (s₀ : Context Time Day) :
    Keeps s₀.Steady (refreshDailyPnl inst now) :=
  refreshDailyPnl_keeps inst (fun _ _ _ steady =>
    ⟨steady.positions, steady.pendingPaper, steady.history, steady.halt⟩) now

omit [Zero Time] [Add Time] in
theorem checkLossLimit_steady (feed : Feed Time) (now : Time) (s₀ : Context Time Day) :
    Keeps s₀.Steady (checkLossLimit inst feed now) :=
  checkLossLimit_keeps inst (fun _ _ _ steady =>
    ⟨steady.positions, steady.pendingPaper, steady.history, steady.halt⟩)
    (fun _ reason _ steady => steady.trip reason) feed now

end Revaluation

omit [LinearOrder Time] [Zero Time] [Add Time] [Sub Time] [DecidableEq Day] in
/-- What every revaluation leaves, a steady effect keeps. -/
theorem Keeps.ofSteady {α : Type} {I : Context Time Day → Prop} {m : Engine Time Day α}
    (steady : ∀ s₀ : Context Time Day, Keeps s₀.Steady m) (stable : ∀ s₀ s, s₀.Steady s → I s₀ → I s) : Keeps I m := by
  apply Triple.pointwise
  intro s₀ holds
  exact (steady s₀).weaken (fun s => fun same => same ▸ Context.Steady.rfl)
    (fun _ s reached => stable s₀ s reached holds) (fun s reached => stable s₀ s reached holds)

/-! ## Positions and results -/

section Accounts

/-- A property that positions, results and the ledger do not touch. -/
structure Bystander (I : Context Time Day → Prop) : Prop where
  positions : ∀ s positions, I s → I { s with positions := positions }
  result : ∀ s pnl day, I s → I { s with realizedPnl := pnl, ledgerDay := day }
  ledger : ∀ s ledger, I s → I { s with ledger := ledger }

variable (inst : Installation Time Day) {I : Context Time Day → Prop}

omit [Zero Time] [Add Time] [DecidableEq Day] in
theorem checkExit_keeps (bystander : Bystander I) (ticker : String) (bid : Option Decimal)
    (now : Time) : Keeps I (checkExit inst ticker bid now) := by
  apply Keeps.bind Keeps.read
  intro s
  cases s.position ticker with
  | none => exact Keeps.answer _
  | some pos =>
      cases bid with
      | none => exact Keeps.answer _
      | some bid =>
          apply Keeps.bind (Keeps.change fun s holds => bystander.positions s _ holds)
          intro _
          exact Keeps.except _

omit [Add Time] [Sub Time] [DecidableEq Day] in
theorem closePosition_keeps (bystander : Bystander I) (ticker : String) (pos : Position Time)
    (fill : Fill) (now : Time) : Keeps I (closePosition inst ticker pos fill now) := by
  have recorded : ∀ pnl, Keeps I (recordPnl inst pnl now) := by
    intro pnl
    apply Keeps.bind Keeps.read
    intro s
    cases s.ledger with
    | none => exact Keeps.answer _
    | some ledger =>
        apply Keeps.ite
        · intro _
          exact Keeps.raise _
        · intro _
          exact Keeps.change fun s holds => bystander.ledger s _ holds
  apply Keeps.bind (Keeps.except _)
  rintro ⟨pnl, entryFeePart⟩
  apply Keeps.bind Keeps.read
  intro s
  apply Keeps.bind (Keeps.except _)
  intro realized
  apply Keeps.bind (Keeps.change fun s holds => bystander.result s _ s.ledgerDay holds)
  intro _
  apply Keeps.bind (recorded pnl)
  intro _
  apply Keeps.bind (Keeps.except _)
  intro left
  apply Keeps.bind (Keeps.change fun s holds => bystander.positions s _ holds)
  intro _
  apply Keeps.bind (Keeps.except _)
  intro feeLeft
  apply Keeps.bind (Keeps.change fun s holds => bystander.positions s _ holds)
  intro _
  apply Keeps.ite
  · intro _
    exact Keeps.change fun s holds => bystander.positions s _ holds
  · intro _
    exact Keeps.answer _

omit [Add Time] [Sub Time] in
theorem recordFill_keeps (bystander : Bystander I) (ticker : String) (side : OrderSide)
    (fill : Fill) (now : Time) : Keeps I (recordFill inst ticker side fill now) := by
  apply Keeps.ite
  · intro _
    exact Keeps.answer _
  · intro _
    apply Keeps.bind (refreshDailyPnl_keeps inst bystander.result now)
    intro _
    apply Keeps.bind Keeps.read
    intro s
    cases side with
    | buy =>
        cases s.position ticker with
        | none => exact Keeps.change fun s holds => bystander.positions s _ holds
        | some pos =>
            apply Keeps.bind (Keeps.except _)
            rintro ⟨total, entryPrice⟩
            apply Keeps.bind (Keeps.change fun s holds => bystander.positions s _ holds)
            intro _
            apply Keeps.bind (Keeps.except _)
            intro fee
            exact Keeps.change fun s holds => bystander.positions s _ holds
    | sell =>
        cases s.position ticker with
        | none => exact Keeps.answer _
        | some pos => exact closePosition_keeps inst bystander ticker pos fill now

end Accounts

/-! ## Working orders -/

section Orders

omit [LinearOrder Time] [Zero Time] [Add Time] [Sub Time]

/-- A member of the second list has its counterpart in the first. -/
theorem counterpart {α β : Type} {R : α → β → Prop} {as : List α} {bs : List β} {b : β}
    (same : List.Forall₂ R as bs) (member : b ∈ bs) : ∃ a ∈ as, R a b := by
  induction same with
  | nil => exact absurd member List.not_mem_nil
  | cons first _ ih =>
      rcases List.mem_cons.mp member with rfl | later
      · exact ⟨_, List.mem_cons_self, first⟩
      · obtain ⟨a, there, related⟩ := ih later
        exact ⟨a, List.mem_cons_of_mem _ there, related⟩

/-- The order again, under its own or a higher reason. -/
def PendingPaperOrder.Again (order order' : PendingPaperOrder Time) : Prop :=
  order' = order ∨ order.side = .sell ∧ ∃ reason, order' = order.retag reason

theorem upgradeFirst_again (ticker reason : String) (orders : List (PendingPaperOrder Time)) :
    List.Forall₂ PendingPaperOrder.Again orders (upgradeFirst ticker reason orders) := by
  induction orders with
  | nil => exact List.Forall₂.nil
  | cons order rest ih =>
      by_cases first : order.isFor ticker .sell
      · rw [upgradeFirst, if_pos first]
        exact List.Forall₂.cons (Or.inr ⟨first.2, reason, rfl⟩)
          (List.forall₂_same.mpr fun _ _ => Or.inl rfl)
      · rw [upgradeFirst, if_neg first]
        exact List.Forall₂.cons (Or.inl rfl) ih

end Orders

section Attempts

variable (inst : Installation Time Day)

omit [Zero Time] [Sub Time] [DecidableEq Day] in
/-- Each due order gets one attempt, in order. -/
theorem attemptAll_spec {feed : Feed Time} {now : Time} {orders : List (PendingPaperOrder Time)}
    {results : List (PendingPaperOrder Time × Option Fill)}
    (attempted : attemptAll inst feed now orders = .ok results) :
    results.map Prod.fst = orders ∧
      ∀ order fill, (order, some fill) ∈ results → fill.filled ≤ order.contracts := by
  obtain ⟨inOrder, each⟩ := attemptAll_attempted attempted
  exact ⟨inOrder, fun order fill member => (each order fill member).respects.within⟩

end Attempts

/-! ## The whole tick -/

section Tick

/-- A property that only a trip could touch, and that a reason that is not empty keeps. -/
structure Unexposed (I : Context Time Day → Prop) : Prop extends Bystander I where
  trip : ∀ s reason, reason ≠ "" → I s → I (s.trip reason)
  orders : ∀ s orders, I s → I { s with pendingPaper := orders }
  actions : ∀ s orders actions, I s → I { s with pendingPaper := orders, history := actions }
  marks : ∀ s latestBid bidTs, I s → I { s with latestBid := latestBid, bidTs := bidTs }

variable (inst : Installation Time Day) {I : Context Time Day → Prop}

omit [LinearOrder Time] [Zero Time] [Add Time] [Sub Time] [DecidableEq Day] in
theorem submitPaper_keeps (unexposed : Unexposed I) (order : PendingPaperOrder Time) :
    Keeps I (submitPaper order : Engine Time Day Unit) := by
  apply Keeps.bind Keeps.read
  intro s
  apply Keeps.ite
  · intro _
    exact Keeps.answer _
  · intro _
    exact Keeps.change fun s holds => unexposed.actions s _ _ holds

omit [Zero Time] in
theorem blockDueEntry_keeps (unexposed : Unexposed I) (t : Tick Time) (bid ask : Decimal)
    (now : Time) (gate : GateSnapshot) (siblings : SiblingSnapshot) :
    Keeps I (blockDueEntry inst t bid ask now gate siblings) := by
  apply Keeps.bind Keeps.read
  intro s
  cases s.getPending t.ticker .buy with
  | none => exact Keeps.answer _
  | some order =>
      apply Keeps.ite
      · intro _
        apply Keeps.bind (checkLossLimit_keeps inst unexposed.result unexposed.trip _ _)
        intro _
        apply Keeps.bind Keeps.read
        intro s'
        apply Keeps.bind (Keeps.except _)
        intro block
        cases block with
        | none => exact Keeps.answer _
        | some _ => exact Keeps.change fun s holds => unexposed.actions s _ _ holds
      · intro _
        exact Keeps.answer _

omit [Zero Time] [Add Time] [DecidableEq Day] in
theorem upgradeDueExit_keeps (unexposed : Unexposed I) (t : Tick Time) (bid : Decimal) :
    Keeps I (upgradeDueExit inst t bid) := by
  apply Keeps.bind Keeps.read
  intro s
  cases s.getPending t.ticker .sell with
  | none => exact Keeps.answer _
  | some order =>
      apply Keeps.ite
      · intro _
        apply Keeps.bind (checkExit_keeps inst unexposed.toBystander _ _ _)
        intro signal
        cases signal with
        | none => exact Keeps.answer _
        | some reason =>
            apply Keeps.ite
            · intro _
              exact Keeps.change fun s holds => unexposed.orders s _ holds
            · intro _
              exact Keeps.answer _
      · intro _
        exact Keeps.answer _

omit [Add Time] [Sub Time] in
theorem applyFills_keeps (unexposed : Unexposed I) (now : Time)
    (results : List (PendingPaperOrder Time × Option Fill)) :
    Keeps I (applyFills inst now results) := by
  induction results with
  | nil => exact Keeps.answer _
  | cons result rest ih =>
      obtain ⟨order, attempt⟩ := result
      cases attempt with
      | none => exact ih
      | some fill =>
          apply Keeps.bind (Keeps.change fun s holds => unexposed.actions s s.pendingPaper _ holds)
          intro _
          apply Keeps.bind (recordFill_keeps inst unexposed.toBystander _ _ fill now)
          exact fun _ => ih

theorem meetDueOrders_keeps (unexposed : Unexposed I) (t : Tick Time) (bid ask : Decimal)
    (now : Time) (gate : GateSnapshot) (siblings : SiblingSnapshot) :
    Keeps I (meetDueOrders inst t bid ask now gate siblings) := by
  apply Keeps.bind (upgradeDueExit_keeps inst unexposed t bid)
  intro _
  apply Keeps.bind (blockDueEntry_keeps inst unexposed t bid ask now gate siblings)
  intro _
  apply Keeps.bind
  · apply Keeps.bind Keeps.read
    intro s
    apply Keeps.bind (Keeps.except _)
    intro results
    apply Keeps.bind (Keeps.change fun s holds => unexposed.orders s _ holds)
    exact fun _ => Keeps.answer _
  · exact fun results => applyFills_keeps inst unexposed now results

theorem scheduleEntry_keeps (unexposed : Unexposed I) (t : Tick Time) (now : Time)
    (gate : GateSnapshot) (siblings : SiblingSnapshot) :
    Keeps I (scheduleEntry inst t now gate siblings) := by
  apply Keeps.bind Keeps.read
  intro s
  apply Keeps.ite
  · intro _
    exact Keeps.answer _
  · intro _
    apply Keeps.ite
    · intro _
      exact Keeps.answer _
    · intro _
      apply Keeps.bind
      · apply Keeps.bind (refreshDailyPnl_keeps inst unexposed.result now)
        intro _
        apply Keeps.bind Keeps.read
        exact fun s => Keeps.except _
      · intro signal
        cases signal with
        | none => exact Keeps.answer _
        | some signal =>
            apply Keeps.bind Keeps.read
            intro s
            apply Keeps.ite
            · intro _
              exact Keeps.answer _
            · intro _
              apply Keeps.bind (Keeps.except _)
              intro spike
              cases spike with
              | some _ => exact Keeps.answer _
              | none =>
                  apply Keeps.ite
                  · intro _
                    exact Keeps.answer _
                  · intro _
                    exact submitPaper_keeps unexposed _

theorem act_keeps (unexposed : Unexposed I) (t : Tick Time) (now : Time) (gate : GateSnapshot)
    (siblings : SiblingSnapshot) : Keeps I (act inst t now gate siblings) := by
  apply Keeps.bind Keeps.read
  intro s
  apply Keeps.ite
  · intro _
    exact Keeps.answer _
  · intro _
    apply Keeps.bind (checkExit_keeps inst unexposed.toBystander _ _ _)
    intro signal
    cases signal with
    | none =>
        apply Keeps.bind Keeps.read
        intro s'
        apply Keeps.ite
        · intro _
          exact Keeps.answer _
        · intro _
          exact scheduleEntry_keeps inst unexposed t now gate siblings
    | some reason =>
        apply Keeps.bind Keeps.read
        intro s'
        cases s'.position t.ticker with
        | none => exact Keeps.answer _
        | some pos =>
            cases s'.getPending t.ticker .sell with
            | none => exact submitPaper_keeps unexposed _
            | some working =>
                apply Keeps.ite
                · intro _
                  exact Keeps.change fun s holds => unexposed.orders s _ holds
                · intro _
                  exact Keeps.answer _

theorem processTick_keeps (unexposed : Unexposed I) (t : Tick Time) :
    Keeps I (processTick inst t) := by
  apply Keeps.bind (Keeps.except _)
  intro gate
  apply Keeps.bind (Keeps.except _)
  intro siblings
  apply Keeps.bind
  · apply Keeps.change
    intro s holds
    unfold markQuote
    cases t.bid with
    | none => exact holds
    | some bid => exact unexposed.marks s _ _ holds
  intro _
  have rest : Keeps I (do
      checkLossLimit inst t.feed t.clockAtRevaluation
      let s ← get
      if s.tripped then pure ()
      else act inst t (t.decisionAt.getD t.observedAt) gate siblings) := by
    apply Keeps.bind (checkLossLimit_keeps inst unexposed.result unexposed.trip _ _)
    intro _
    apply Keeps.bind Keeps.read
    intro s
    apply Keeps.ite
    · intro _
      exact Keeps.answer _
    · intro _
      exact act_keeps inst unexposed t _ gate siblings
  cases t.mid with
  | none => exact rest
  | some mid =>
      cases t.bid with
      | none => exact rest
      | some bid =>
          cases t.ask with
          | none => exact rest
          | some ask =>
              apply Keeps.bind (meetDueOrders_keeps inst unexposed t bid ask _ gate siblings)
              exact fun _ => rest

end Tick

end Inci.Trading
