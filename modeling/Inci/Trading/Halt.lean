/-
# Trading.Halt -- a tripped halt is absorbing

`Winding` says what a halted account may still do: cancel, and fill the exits that
were working when it halted.  Every part of a tick keeps it as long as no entry of
the tick's ticker is due, and the arrival check of a halted account cancels those.

The halt is checked before the orders of a tick meet the book and again after, so
an entry may fill in the tick whose second check trips; `entry_fills_then_trips`
is such a tick.
-/
import Inci.Trading.Phases

namespace Inci.Trading

open Inci.Theory

set_option autoImplicit false

variable {Time Day : Type} [LinearOrder Time] [Zero Time] [Add Time] [Sub Time] [DecidableEq Day]

section Winding

omit [LinearOrder Time] [Zero Time] [Add Time] [Sub Time] [DecidableEq Day]

theorem PendingPaperOrder.Again.trans {one two three : PendingPaperOrder Time}
    (first : one.Again two) (second : two.Again three) : one.Again three := by
  rcases first with rfl | ⟨side, reason, rfl⟩
  · exact second
  · rcases second with rfl | ⟨_, other, rfl⟩
    · exact Or.inr ⟨side, reason, rfl⟩
    · exact Or.inr ⟨side, other, rfl⟩

/-- The order was working in the context, under this reason or another. -/
def Context.Worked (s₀ : Context Time Day) (order : PendingPaperOrder Time) : Prop :=
  ∃ old ∈ s₀.pendingPaper, old.Again order

/-- What a halted account may still do: cancel, and fill an exit that was working. -/
def Action.Unwinds (s₀ : Context Time Day) : Action Time → Prop
  | .submitted _ => False
  | .canceled order => s₀.Worked order
  | .filled order _ _ => order.side = .sell ∧ s₀.Worked order

/-- An account that halted in the first context, some ticks later. -/
structure Winding (s₀ : Context Time Day) (reason : String) (s : Context Time Day) : Prop where
  halted : s.trippedReason = some reason
  working : ∀ order ∈ s.pendingPaper, s₀.Worked order
  actions : ∃ new, s.history = s₀.history ++ new ∧ ∀ action ∈ new, action.Unwinds s₀

variable {s₀ s : Context Time Day} {reason : String}

theorem Winding.start (halted : s.trippedReason = some reason) : Winding s reason s :=
  ⟨halted, fun order member => ⟨order, member, Or.inl rfl⟩,
    ⟨[], (List.append_nil _).symm, fun _ member => absurd member List.not_mem_nil⟩⟩

/-- A spoken reason is not replaced. -/
theorem trip_spoken (halted : s.trippedReason = some reason) (spoken : reason ≠ "")
    (other : String) : s.trip other = s := by
  unfold Context.trip
  rw [halted]
  simp [spoken]

theorem Winding.act (winding : Winding s₀ reason s) {action : Action Time}
    (unwinds : action.Unwinds s₀) : Winding s₀ reason (s.act action) := by
  obtain ⟨new, grown, fine⟩ := winding.actions
  refine ⟨winding.halted, winding.working, new ++ [action], ?_, ?_⟩
  · show s.history ++ [action] = _
    rw [grown, List.append_assoc]
  · intro one member
    rcases List.mem_append.mp member with old | here
    · exact fine one old
    · obtain rfl := List.mem_singleton.mp here
      exact unwinds

theorem Winding.fewer (winding : Winding s₀ reason s) {orders : List (PendingPaperOrder Time)}
    (fewer : ∀ order ∈ orders, ∃ old ∈ s.pendingPaper, old.Again order) :
    Winding s₀ reason { s with pendingPaper := orders } := by
  refine ⟨winding.halted, ?_, winding.actions⟩
  intro order member
  obtain ⟨old, there, again⟩ := fewer order member
  obtain ⟨first, was, before⟩ := winding.working old there
  exact ⟨first, was, before.trans again⟩

theorem Winding.cancel (winding : Winding s₀ reason s) (ticker : String) (side : OrderSide) :
    Winding s₀ reason (s.cancelPending ticker side) := by
  obtain ⟨new, grown, fine⟩ := winding.actions
  refine ⟨winding.halted, ?_, new ++ (s.pendingPaper.filter fun order =>
    order.isFor ticker side).map .canceled, ?_, ?_⟩
  · exact fun order member => winding.working order (List.mem_of_mem_filter member)
  · show s.history ++ _ = _
    rw [grown, List.append_assoc]
  · intro action member
    rcases List.mem_append.mp member with old | here
    · exact fine action old
    · obtain ⟨order, there, rfl⟩ := List.mem_map.mp here
      exact winding.working order (List.mem_of_mem_filter there)

theorem Winding.bystander : Bystander (Winding s₀ reason) :=
  ⟨fun _ _ winding => ⟨winding.halted, winding.working, winding.actions⟩,
    fun _ _ _ winding => ⟨winding.halted, winding.working, winding.actions⟩,
    fun _ _ winding => ⟨winding.halted, winding.working, winding.actions⟩⟩

end Winding

/-! ## The parts of a tick -/

section Parts

variable (inst : Installation Time Day) {s₀ : Context Time Day} {reason : String}

omit [LinearOrder Time] [Zero Time] [Add Time] [Sub Time] [DecidableEq Day] in
theorem upgradePendingPaperExit_winding (ticker other : String) :
    Keeps (Winding s₀ reason) (upgradePendingPaperExit ticker other) := by
  apply Keeps.change
  intro s winding
  apply winding.fewer
  intro order member
  exact counterpart (upgradeFirst_again ticker other s.pendingPaper) member

omit [Zero Time] [Add Time] [DecidableEq Day] in
theorem upgradeDueExit_winding (t : Tick Time) (bid : Decimal) :
    Keeps (Winding s₀ reason) (upgradeDueExit inst t bid) := by
  apply Keeps.bind Keeps.read
  intro s
  cases s.getPending t.ticker .sell with
  | none => exact Keeps.answer _
  | some order =>
      apply Keeps.ite
      · intro _
        apply Keeps.bind (checkExit_keeps inst Winding.bystander t.ticker (some bid) t.observedAt)
        intro signal
        cases signal with
        | none => exact Keeps.answer _
        | some other =>
            apply Keeps.ite
            · intro _
              exact upgradePendingPaperExit_winding t.ticker other
            · intro _
              exact Keeps.answer _
      · intro _
        exact Keeps.answer _

omit [Zero Time] [Add Time] in
theorem checkLossLimit_winding (spoken : reason ≠ "") (feed : Feed Time) (now : Time) :
    Keeps (Winding s₀ reason) (checkLossLimit inst feed now) := by
  apply checkLossLimit_keeps inst Winding.bystander.result
  intro s other _ winding
  rw [trip_spoken winding.halted spoken]
  exact winding

omit [LinearOrder Time] [Zero Time] [Add Time] [Sub Time] [DecidableEq Day] in
/-- A ticker has one working order. -/
theorem InBalance.unique {s : Context Time Day} (balanced : InBalance inst s)
    {one other : PendingPaperOrder Time} (here : one ∈ s.pendingPaper)
    (there : other ∈ s.pendingPaper) (same : one.ticker = other.ticker) : one = other :=
  List.inj_on_of_nodup_map balanced.single here there same

omit [Zero Time] [Add Time] [Sub Time] [DecidableEq Day] in
/-- No entry of the tick's ticker is about to meet the book. -/
def NoDueEntry (t : Tick Time) (s : Context Time Day) : Prop :=
  ∀ order ∈ s.pendingPaper, order.isDue t.observedAt t.ticker → order.side = .sell

omit [Zero Time] [Sub Time] [DecidableEq Day] in
/-- A halt blocks every due entry. -/
theorem arrivalBlock_halted {s : Context Time Day} (halted : s.trippedReason = some reason)
    (t : Tick Time) (bid ask : Decimal) (now : Time) (gate : GateSnapshot)
    (siblings : SiblingSnapshot) :
    ∃ block, arrivalBlock inst s t bid ask now gate siblings = .ok (some block) := by
  unfold arrivalBlock
  rw [halted]
  exact ⟨_, rfl⟩

omit [Zero Time] [Add Time] [Sub Time] [DecidableEq Day] in
theorem noDueEntry_canceled (t : Tick Time) (s : Context Time Day) :
    NoDueEntry t (s.cancelPending t.ticker .buy) := by
  intro order member due
  have kept := of_decide_eq_true (List.mem_filter.mp member).2
  cases side : order.side with
  | sell => rfl
  | buy => exact absurd ⟨due.2, side⟩ kept

omit [Zero Time] in
/-- A halted account keeps no due entry of the ticker for the book. -/
theorem blockDueEntry_winding (spoken : reason ≠ "") (t : Tick Time) (bid ask : Decimal)
    (now : Time) (gate : GateSnapshot) (siblings : SiblingSnapshot) :
    Triple (fun s => Winding s₀ reason s ∧ InBalance inst s)
      (blockDueEntry inst t bid ask now gate siblings)
      (fun _ s => (Winding s₀ reason s ∧ InBalance inst s) ∧ NoDueEntry t s)
      (fun s => Winding s₀ reason s ∧ InBalance inst s) := by
  apply Triple.get_bind
  rintro s ⟨winding, balanced⟩
  cases pending : s.getPending t.ticker .buy with
  | none =>
      apply Triple.answer_from
      refine ⟨⟨winding, balanced⟩, ?_⟩
      intro order member due
      have other := List.find?_eq_none.mp pending order member
      cases side : order.side with
      | sell => rfl
      | buy => exact absurd (decide_eq_true ⟨due.2, side⟩) other
  | some entry =>
      have there := List.mem_of_find?_eq_some pending
      have isEntry : entry.isFor t.ticker .buy := by simpa using List.find?_some pending
      apply Triple.ite
      · intro _
        have checked : Keeps (fun s => Winding s₀ reason s ∧ InBalance inst s)
            (checkLossLimit inst t.feed t.clockAtArrival) :=
          Keeps.both (checkLossLimit_winding inst spoken t.feed t.clockAtArrival)
            (checkLossLimit_balance inst t.feed t.clockAtArrival)
        apply Triple.bind (Triple.starting checked ⟨winding, balanced⟩)
        intro _
        apply Triple.get_bind
        rintro s' ⟨winding', balanced'⟩
        obtain ⟨block, blocked⟩ := arrivalBlock_halted inst winding'.halted t bid ask now gate siblings
        rw [blocked]
        apply Triple.modify_from
        exact ⟨⟨winding'.cancel _ _, cancelPending_balance inst balanced' _ _⟩,
          noDueEntry_canceled t s'⟩
      · intro early
        apply Triple.answer_from
        refine ⟨⟨winding, balanced⟩, ?_⟩
        intro order member due
        -- the entry that is not due is the ticker's one order
        have same := balanced.unique inst member there (due.2.trans isEntry.1.symm)
        exact absurd (same ▸ due.1) early

omit [Zero Time] [Sub Time] [DecidableEq Day] in
theorem processDuePaperOrders_winding (t : Tick Time) :
    Triple (fun s => Winding s₀ reason s ∧ NoDueEntry t s)
      (processDuePaperOrders inst t.feed t.observedAt t.ticker)
      (fun results s => Winding s₀ reason s ∧
        ∀ result ∈ results, result.1.side = .sell ∧ s₀.Worked result.1)
      (Winding s₀ reason) := by
  apply Triple.get_bind
  rintro s ⟨winding, noEntry⟩
  apply Triple.except_bind
  · intro results attempted
    obtain ⟨taken, -⟩ := attemptAll_spec inst attempted
    apply Triple.bind (S := fun _ => Winding s₀ reason)
    · apply Triple.modify_from
      apply winding.fewer
      exact fun order member => ⟨order, List.mem_of_mem_filter member, Or.inl rfl⟩
    · intro _ s' winding'
      refine ⟨winding', ?_⟩
      intro result member
      have due : result.1 ∈ results.map Prod.fst := List.mem_map_of_mem member
      rw [taken, List.mem_filter] at due
      exact ⟨noEntry _ due.1 (of_decide_eq_true due.2), winding.working _ due.1⟩
  · rintro _ rfl
    exact winding

omit [Add Time] [Sub Time] in
theorem applyFills_winding (now : Time) (results : List (PendingPaperOrder Time × Option Fill))
    (exits : ∀ result ∈ results, result.1.side = .sell ∧ s₀.Worked result.1) :
    Keeps (Winding s₀ reason) (applyFills inst now results) := by
  induction results with
  | nil => exact Keeps.answer _
  | cons result rest ih =>
      have later := ih fun r member => exits r (List.mem_cons_of_mem _ member)
      obtain ⟨order, attempt⟩ := result
      cases attempt with
      | none => exact later
      | some fill =>
          apply Keeps.bind
          · apply Keeps.change
            intro s winding
            exact winding.act (exits _ List.mem_cons_self)
          · intro _
            apply Keeps.bind (recordFill_keeps inst Winding.bystander _ _ fill now)
            exact fun _ => later

omit [Sub Time] in
/-- With no due entry of its ticker, a halted account's due orders are its exits. -/
theorem meetBook_winding (t : Tick Time) (now : Time) :
    Triple (fun s => (Winding s₀ reason s ∧ InBalance inst s) ∧ NoDueEntry t s) (do
        let results ← processDuePaperOrders inst t.feed t.observedAt t.ticker
        applyFills inst now results)
      (fun _ s => Winding s₀ reason s ∧ InBalance inst s)
      (fun s => Winding s₀ reason s ∧ InBalance inst s) := by
  have wound : Triple (fun s => Winding s₀ reason s ∧ NoDueEntry t s) (do
        let results ← processDuePaperOrders inst t.feed t.observedAt t.ticker
        applyFills inst now results)
      (fun _ => Winding s₀ reason) (Winding s₀ reason) := by
    apply Triple.bind (processDuePaperOrders_winding inst t)
    intro results
    apply Triple.pointwise
    rintro s ⟨winding, exits⟩
    exact Triple.starting (applyFills_winding inst now results exits) winding
  apply (wound.both (meetBook_balance inst t now)).weaken
  · exact fun s holds => ⟨⟨holds.1.1, holds.2⟩, holds.1.2⟩
  · exact fun _ _ reached => reached
  · exact fun _ reached => reached

/-- A revaluation and, unless the account is halted, new orders. -/
def revalue (t : Tick Time) (gate : GateSnapshot) (siblings : SiblingSnapshot) :
    Engine Time Day Unit := do
  checkLossLimit inst t.feed t.clockAtRevaluation
  let s ← get
  if s.tripped then pure () else act inst t (t.decisionAt.getD t.observedAt) gate siblings

theorem revalue_winding (spoken : reason ≠ "") (t : Tick Time) (gate : GateSnapshot)
    (siblings : SiblingSnapshot) :
    Keeps (fun s => Winding s₀ reason s ∧ InBalance inst s) (revalue inst t gate siblings) := by
  apply Keeps.bind (Keeps.both (checkLossLimit_winding inst spoken t.feed t.clockAtRevaluation)
    (checkLossLimit_balance inst t.feed t.clockAtRevaluation))
  intro _
  apply Triple.get_bind
  rintro s ⟨winding, balanced⟩
  apply Triple.ite
  · intro _
    exact Triple.answer_from ⟨winding, balanced⟩
  · intro active
    exact absurd (show s.trippedReason.isSome = true by rw [winding.halted]; rfl) active

/-- A tick of a halted account only unwinds. -/
theorem processTick_winding (spoken : reason ≠ "") (t : Tick Time) :
    Keeps (fun s => Winding s₀ reason s ∧ InBalance inst s) (processTick inst t) := by
  apply Keeps.bind (Keeps.except _)
  intro gate
  apply Keeps.bind (Keeps.except _)
  intro siblings
  apply Keeps.bind
  · apply Keeps.change
    rintro s ⟨winding, balanced⟩
    unfold markQuote
    cases t.bid with
    | none => exact ⟨winding, balanced⟩
    | some bid => exact ⟨⟨winding.halted, winding.working, winding.actions⟩, balanced⟩
  intro _
  have rest : Keeps (fun s => Winding s₀ reason s ∧ InBalance inst s)
      (revalue inst t gate siblings) := revalue_winding inst spoken t gate siblings
  cases t.mid with
  | none => exact rest
  | some mid =>
      cases t.bid with
      | none => exact rest
      | some bid =>
          cases t.ask with
          | none => exact rest
          | some ask =>
              apply Keeps.bind _ (fun _ => rest)
              apply Keeps.bind
              · exact Keeps.both (upgradeDueExit_winding inst t bid) (upgradeDueExit_balance inst t bid)
              intro _
              apply Triple.bind (blockDueEntry_winding inst spoken t bid ask _ gate siblings)
              exact fun _ => meetBook_winding inst t _

end Parts

/-! ## Runs -/

section Runs

variable (inst : Installation Time Day)

/-- What happens to a running account: a tick, or a halt from elsewhere with its reason. -/
inductive Happening (Time : Type) where
  | tick (t : Tick Time)
  | alarm (reason : String) (spoken : reason ≠ "")

def happen (s : Context Time Day) : Happening Time → Context Time Day
  | .tick t => (Effect.runFrom (processTick inst t) s).2
  | .alarm reason _ => s.trip reason

def runHappenings (s : Context Time Day) (happenings : List (Happening Time)) : Context Time Day :=
  happenings.foldl (happen inst) s

omit [LinearOrder Time] [Zero Time] [Add Time] [Sub Time] [DecidableEq Day] in
theorem InBalance.trip {s : Context Time Day} (balanced : InBalance inst s) (reason : String) :
    InBalance inst (s.trip reason) := InBalance.steady s _ (Context.Steady.rfl.trip reason) balanced

/-- The halt reason, if any, is not empty. -/
def Spoken (s : Context Time Day) : Prop := ∀ reason, s.trippedReason = some reason → reason ≠ ""

omit [LinearOrder Time] [Zero Time] [Add Time] [Sub Time] [DecidableEq Day] in
theorem Spoken.unexposed : Unexposed (fun s : Context Time Day => Spoken s) := by
  refine ⟨⟨fun _ _ spoken => spoken, fun _ _ _ spoken => spoken, fun _ _ spoken => spoken⟩, ?_,
    fun _ _ spoken => spoken, fun _ _ _ spoken => spoken, fun _ _ _ spoken => spoken⟩
  intro s reason given spoken
  cases was : s.trippedReason with
  | none =>
      unfold Context.trip Spoken
      rw [was]
      rintro _ ⟨⟩
      exact given
  | some first =>
      rw [trip_spoken was (spoken first was)]
      exact spoken

theorem happen_sound {s : Context Time Day} (sound : InBalance inst s ∧ Spoken s)
    (happening : Happening Time) :
    InBalance inst (happen inst s happening) ∧ Spoken (happen inst s happening) := by
  cases happening with
  | tick t =>
      exact ⟨(processTick_balance inst t).after sound.1,
        (processTick_keeps inst Spoken.unexposed t).after sound.2⟩
  | alarm reason given =>
      exact ⟨sound.1.trip inst reason, Spoken.unexposed.trip s reason given sound.2⟩

theorem runHappenings_sound (happenings : List (Happening Time)) {s : Context Time Day}
    (sound : InBalance inst s ∧ Spoken s) :
    InBalance inst (runHappenings inst s happenings) ∧
      Spoken (runHappenings inst s happenings) := by
  induction happenings generalizing s with
  | nil => exact sound
  | cons happening rest ih => exact ih (happen_sound inst sound happening)

theorem runHappenings_winding (happenings : List (Happening Time)) {s₀ s : Context Time Day}
    {reason : String} (spoken : reason ≠ "") (winding : Winding s₀ reason s ∧ InBalance inst s) :
    Winding s₀ reason (runHappenings inst s happenings) := by
  induction happenings generalizing s with
  | nil => exact winding.1
  | cons happening rest ih =>
      rw [runHappenings, List.foldl_cons]
      apply ih
      cases happening with
      | tick t => exact (processTick_winding inst spoken t).after winding
      | alarm other _ =>
          show Winding s₀ reason (s.trip other) ∧ InBalance inst (s.trip other)
          rw [trip_spoken winding.1.halted spoken]
          exact winding

/-- The quote is complete and its evidence was read. -/
structure Tick.Quoted (t : Tick Time) : Prop where
  gate : ∃ gate, t.gate = .ok gate
  siblings : ∃ siblings, t.siblings = .ok siblings
  mid : ∃ mid, t.mid = some mid
  bid : ∃ bid, t.bid = some bid
  ask : ∃ ask, t.ask = some ask

/-- The check made when a due entry of the tick arrives finds the account halted. -/
def HaltedAtArrival (t : Tick Time) (s : Context Time Day) : Prop :=
  let check := Effect.runFrom (checkLossLimit inst t.feed t.clockAtArrival) (markQuote t s)
  check.1.isOk = true ∧ check.2.tripped

omit [LinearOrder Time] [Zero Time] [Add Time] [Sub Time] [DecidableEq Day] in
theorem markQuote_pending (t : Tick Time) (s : Context Time Day) :
    (markQuote t s).pendingPaper = s.pendingPaper ∧ (markQuote t s).history = s.history ∧
      (InBalance inst s → InBalance inst (markQuote t s)) := by
  unfold markQuote
  cases t.bid with
  | none => exact ⟨rfl, rfl, id⟩
  | some bid => exact ⟨rfl, rfl, id⟩

/-- An entry that arrives at a halted account is canceled, and the tick only unwinds. -/
theorem dueEntry_canceled {s : Context Time Day} (balanced : InBalance inst s) (spoken : Spoken s)
    {t : Tick Time} (quoted : t.Quoted) {order : PendingPaperOrder Time}
    (member : order ∈ s.pendingPaper) (entry : order.side = .buy)
    (due : order.isDue t.observedAt t.ticker) (halted : HaltedAtArrival inst t s) :
    ∃ new, (happen inst s (.tick t)).history = s.history ++ new ∧ .canceled order ∈ new ∧
      ∀ action ∈ new, action.Unwinds s := by
  obtain ⟨gate, gateRead⟩ := quoted.gate
  obtain ⟨siblings, siblingsRead⟩ := quoted.siblings
  obtain ⟨mid, midRead⟩ := quoted.mid
  obtain ⟨bid, bidRead⟩ := quoted.bid
  obtain ⟨ask, askRead⟩ := quoted.ask
  obtain ⟨pending, history, marked⟩ := markQuote_pending inst t s
  -- the state the arrival check leaves
  obtain ⟨s₁, run, found⟩ : ∃ s₁, Effect.runFrom (checkLossLimit inst t.feed t.clockAtArrival)
      (markQuote t s) = (.ok (), s₁) ∧ s₁.tripped := by
    obtain ⟨clean, found⟩ := halted
    revert clean found
    rcases Effect.runFrom (checkLossLimit inst t.feed t.clockAtArrival) (markQuote t s) with
      ⟨e | u, s₁⟩
    · exact fun clean => nomatch clean
    · exact fun _ found => ⟨s₁, rfl, found⟩
  have after : ∀ {I : Context Time Day → Prop},
      Keeps I (checkLossLimit inst t.feed t.clockAtArrival) → I (markQuote t s) → I s₁ := by
    intro I kept holds
    have reached := kept.after holds
    rw [run] at reached
    exact reached
  have steady : (markQuote t s).Steady s₁ :=
    after (checkLossLimit_steady inst t.feed t.clockAtArrival _) Context.Steady.rfl
  have balanced₁ : InBalance inst s₁ :=
    after (checkLossLimit_balance inst t.feed t.clockAtArrival) (marked balanced)
  have spoken₁ : Spoken s₁ := by
    apply after (checkLossLimit_keeps inst Spoken.unexposed.result Spoken.unexposed.trip _ _)
    unfold markQuote
    rw [bidRead]
    exact spoken
  obtain ⟨reason, tripped⟩ := Option.isSome_iff_exists.mp found
  have pending₁ : s₁.pendingPaper = s.pendingPaper := steady.pendingPaper.trans pending
  have alone : ∀ other ∈ s.pendingPaper, other.ticker = t.ticker → other = order :=
    fun other there same => balanced.unique inst there member (same.trans due.2.symm)
  have noExit : (markQuote t s).getPending t.ticker .sell = none := by
    apply List.find?_eq_none.mpr
    intro other there matching
    have exit : other.isFor t.ticker .sell := of_decide_eq_true matching
    rw [pending] at there
    have side := exit.2
    rw [alone other there exit.1, entry] at side
    exact nomatch side
  have first : (markQuote t s).getPending t.ticker .buy = some order := by
    unfold Context.getPending
    rw [pending]
    cases found : s.pendingPaper.find? fun order => order.isFor t.ticker .buy with
    | none => exact absurd (decide_eq_true ⟨due.2, entry⟩) (List.find?_eq_none.mp found order member)
    | some other =>
        have isEntry : other.isFor t.ticker .buy := by simpa using List.find?_some found
        rw [alone other (List.mem_of_find?_eq_some found) isEntry.1]
  -- it cancels the entry, and what follows winds from there
  have winding : Winding (s₁.cancelPending t.ticker .buy) reason (happen inst s (.tick t)) := by
    have whole : Triple (fun s' => s' = s) (processTick inst t)
        (fun _ s' => Winding (s₁.cancelPending t.ticker .buy) reason s' ∧ InBalance inst s')
        (fun s' => Winding (s₁.cancelPending t.ticker .buy) reason s' ∧ InBalance inst s') := by
      unfold processTick
      rw [gateRead, siblingsRead]
      apply Triple.except_ok
      apply Triple.except_ok
      apply Triple.bind (S := fun _ s' => s' = markQuote t s) (Triple.modify_from rfl)
      intro _
      rw [midRead, bidRead, askRead]
      apply Triple.bind _ fun _ => revalue_winding inst (spoken₁ reason tripped) t gate siblings
      apply Triple.bind (S := fun _ s' => s' = markQuote t s)
      · apply Triple.get_bind
        rintro _ rfl
        rw [noExit]
        exact Triple.answer_from rfl
      intro _
      apply Triple.bind (S := fun _ s' => s' = s₁.cancelPending t.ticker .buy)
      · apply Triple.get_bind
        rintro _ rfl
        rw [first]
        apply Triple.ite
        · intro _
          apply Triple.bind (S := fun _ s' => s' = s₁) (Triple.known run rfl)
          intro _
          apply Triple.get_bind
          rintro _ rfl
          obtain ⟨block, blocked⟩ := arrivalBlock_halted inst tripped t bid ask
            (t.decisionAt.getD t.observedAt) gate siblings
          rw [blocked]
          exact Triple.modify_from rfl
        · intro early
          exact absurd due.1 early
      · intro _
        apply (meetBook_winding inst t _).starting
        exact ⟨⟨Winding.start tripped, cancelPending_balance inst balanced₁ _ _⟩,
          noDueEntry_canceled t s₁⟩
    exact (whole.after rfl).1
  obtain ⟨new, grown, fine⟩ := winding.actions
  refine ⟨(s₁.pendingPaper.filter fun order => order.isFor t.ticker .buy).map .canceled ++ new,
    ?_, ?_, ?_⟩
  · rw [grown, ← List.append_assoc]
    congr 1
    show s₁.history ++ _ = _
    rw [steady.history, history]
  · apply List.mem_append_left
    apply List.mem_map_of_mem
    rw [pending₁]
    exact List.mem_filter.mpr ⟨member, decide_eq_true ⟨due.2, entry⟩⟩
  · have worked : ∀ o, (s₁.cancelPending t.ticker .buy).Worked o → s.Worked o := by
      rintro o ⟨old, there, again⟩
      have still := List.mem_of_mem_filter there
      rw [pending₁] at still
      exact ⟨old, still, again⟩
    intro action here
    rcases List.mem_append.mp here with canceled | later
    · obtain ⟨o, there, rfl⟩ := List.mem_map.mp canceled
      have still := List.mem_of_mem_filter there
      rw [pending₁] at still
      exact ⟨o, still, Or.inl rfl⟩
    · have unwinds := fine action later
      cases action with
      | submitted o => exact unwinds
      | canceled o => exact worked o unwinds
      | filled o fill held => exact ⟨unwinds.1, worked o unwinds.2⟩

/-- From a flat running account: once halted, whatever happens only cancels orders and fills
the exits that were working, under the same reason; and a due entry whose arrival check
finds the account halted is canceled in a tick that only unwinds. -/
theorem halt_absorbing {start : Context Time Day} (flat : start.Flat)
    (running : start.trippedReason = none) (before : List (Happening Time)) :
    (∀ reason, (runHappenings inst start before).trippedReason = some reason →
      ∀ after, Winding (runHappenings inst start before) reason
        (runHappenings inst start (before ++ after))) ∧
    ∀ t order, t.Quoted → order ∈ (runHappenings inst start before).pendingPaper →
      order.side = .buy → order.isDue t.observedAt t.ticker →
      HaltedAtArrival inst t (runHappenings inst start before) →
      ∃ new, (runHappenings inst start (before ++ [.tick t])).history =
          (runHappenings inst start before).history ++ new ∧
        .canceled order ∈ new ∧
        ∀ action ∈ new, action.Unwinds (runHappenings inst start before) := by
  have quiet : Spoken start := by
    intro reason halted
    rw [running] at halted
    exact nomatch halted
  obtain ⟨balanced, spoken⟩ := runHappenings_sound inst before ⟨flat.inBalance inst, quiet⟩
  constructor
  · intro reason halted after
    have wound := runHappenings_winding inst after (spoken reason halted)
      ⟨Winding.start halted, balanced⟩
    unfold runHappenings at wound ⊢
    rw [List.foldl_append]
    exact wound
  · intro t order quoted member entry due halted
    have canceled := dueEntry_canceled inst balanced spoken quoted member entry due halted
    unfold runHappenings at canceled ⊢
    rw [List.foldl_append]
    exact canceled

end Runs

/-- The order that the small account's dip makes one second later due. -/
def dipOrder (dueAt : Int) : PendingPaperOrder Int where
  ticker := "MATCH-A"
  side := .buy
  contracts := Decimal.ofNat 20
  dueAt := dueAt
  reason := "dip 10.0c; entry ask 40c, size 20, projected net $+0.3100"
  limitPrice := some (Decimal.ofNat 40)
  entryPrice := none
  entryContracts := none
  entryFeeUsd := none

/-- The small account with two dollars lost on the second day. -/
def secondDayLoss : Context Int Int :=
  { flatAccount with ledger := some ⟨[(1, Decimal.ofDigits (-2) 0)]⟩ }

theorem secondDayLoss_flat : secondDayLoss.Flat := ⟨rfl, rfl, rfl⟩

/-- The small account is halted by its first fill; with a loss booked for the second day, an
entry due at midnight is canceled. -/
theorem halt_absorbing_small :
    Winding (runHappenings smallAccount flatAccount [.tick (dippedTick 1000), .tick (dippedTick 1001)])
      "loss limit incl. open positions (-1.07 USD)"
      (runHappenings smallAccount flatAccount
        ([.tick (dippedTick 1000), .tick (dippedTick 1001)] ++ [.tick (dippedTick 1002)])) ∧
    ∃ new, (runHappenings smallAccount secondDayLoss
        ([.tick (dippedTick 86399)] ++ [.tick (dippedTick 86400)])).history =
          (runHappenings smallAccount secondDayLoss [.tick (dippedTick 86399)]).history ++ new ∧
      .canceled (dipOrder 86400) ∈ new ∧
      ∀ action ∈ new,
        action.Unwinds (runHappenings smallAccount secondDayLoss [.tick (dippedTick 86399)]) :=
  ⟨(halt_absorbing smallAccount flatAccount_flat rfl
      [.tick (dippedTick 1000), .tick (dippedTick 1001)]).1 _ (by decide +kernel) _,
    (halt_absorbing smallAccount secondDayLoss_flat rfl
      [.tick (dippedTick 86399)]).2 (dippedTick 86400) (dipOrder 86400)
      ⟨⟨_, rfl⟩, ⟨_, rfl⟩, ⟨_, rfl⟩, ⟨_, rfl⟩, ⟨_, rfl⟩⟩ (by decide +kernel) rfl
      (by decide +kernel) ⟨by decide +kernel, by decide +kernel⟩⟩

/-- An entry fills in the very tick that finds the loss limit crossed: the limit holds when
the entry arrives and is crossed by its own fill. -/
theorem entry_fills_then_trips :
    ∃ order fill,
      (runHappenings smallAccount flatAccount [.tick (dippedTick 1000)]).pendingPaper = [order] ∧
      order.side = .buy ∧ order.isDue 1001 "MATCH-A" ∧
      (runHappenings smallAccount flatAccount [.tick (dippedTick 1000)]).trippedReason = none ∧
      (runHappenings smallAccount flatAccount
        [.tick (dippedTick 1000), .tick (dippedTick 1001)]).trippedReason =
          some "loss limit incl. open positions (-1.07 USD)" ∧
      (runHappenings smallAccount flatAccount
        [.tick (dippedTick 1000), .tick (dippedTick 1001)]).history =
          [.submitted order, .filled order fill none] :=
  ⟨dipOrder 1001, ⟨Decimal.ofNat 40, Decimal.ofNat 20, Decimal.ofDigits 34 2⟩,
    by decide +kernel⟩

end Inci.Trading
