/-
# Trading.Convergence -- what a resolution rests on, and that it ends

`OrderResolver.resolve` with its defaults, over an exchange whose answers are given in advance:
the `k`-th order, the `k`-th list of fills, the `k`-th list of positions and the `k`-th reading of
the clock, whatever they are.

The counter of the loop is the longest streak of one coherent observation at the end of the polls
made, so the order returned was seen in as many polls in a row as were asked for, and in no
streak before (`resolve_settled`).  Once a reading has reached the deadline no more polls are
made (`resolve_ends`).
-/
import Inci.Theory.Streak
import Inci.Trading.OrderResolution

namespace Inci.Trading

open Inci.Theory Effect

set_option autoImplicit false

/-! ## The resolver -/

section

variable {σ Time : Type} [LinearOrder Time] [OfScientific Time] (client : Client σ Time)

def convergeLoop (intent : OrderIntent) (stablePolls : ℤ) (deadline : Time) :
    ℕ → Order → ℕ → Option Snapshot → Resolver σ Resolution
  | 0, _, _, _ => throw .unfinished
  | polls + 1, found, stable, prior => do
      let (avg, filled, fee) ← pollFills client intent.orderId
      let post ← authoritativePosition client intent.ticker ("after order " ++ intent.orderId)
      let seen := snapshot found avg filled fee post
      observe intent.orderId seen
      let coherent ← ofExcept (amount (coherent intent seen))
      let stable := stableAfter coherent stable prior seen
      if coherent = true ∧ stablePolls ≤ stable then pure ⟨found, avg, filled, fee, post⟩
      else do
        let now ← readClock client
        if deadline ≤ now then throw (.resolution (.notConverged intent.orderId seen))
        else do
          pause client 0.25
          let next ← pollOrder client intent.orderId (some intent.clientOrderId)
          convergeLoop intent stablePolls deadline polls next stable (some seen)

variable [Add Time]

/-- `OrderResolver.resolve`, with `reconcile_timeout_s` for an absent timeout. -/
def OrderResolver.resolve (polls : ℕ) (reconcileTimeout : Time) (intent : OrderIntent)
    (initial : Option Order) (timeout : Option Time) (stablePolls : ℤ) : Resolver σ Resolution := do
  let now ← readClock client
  let found ← firstPoll client intent.orderId (some intent.clientOrderId) initial
  convergeLoop client intent stablePolls (now + timeout.getD reconcileTimeout) polls found 0 none

omit [Add Time] in
theorem convergeLoop_two (intent : OrderIntent) (deadline : Time) (polls : ℕ) (found : Order)
    (stable : ℕ) (prior : Option Snapshot) :
    convergeLoop client intent 2 deadline polls found stable prior =
      resolveLoop client intent deadline polls found stable prior := by
  induction polls generalizing found stable prior with
  | zero => rfl
  | succ polls ih =>
      have twice (agreed : Bool) (seen : Snapshot) :
          (agreed = true ∧ (2 : ℤ) ≤ (stableAfter agreed stable prior seen : ℕ)) ↔
            2 ≤ stableAfter agreed stable prior seen := by
        cases agreed with
        | false => simp [stableAfter]
        | true => simp only [true_and, Nat.ofNat_le_cast]
      simp only [convergeLoop, resolveLoop, twice, ih]

/-- The executor's call: the order at hand, the configured timeout and two polls. -/
theorem resolve_eq (polls : ℕ) (reconcileTimeout : Time) (intent : OrderIntent) (initial : Order) :
    OrderResolver.resolve client polls reconcileTimeout intent (some initial) none 2 =
      resolve client polls intent reconcileTimeout initial := by
  unfold OrderResolver.resolve resolve firstPoll
  simp only [convergeLoop_two, pure_bind, Option.getD_none]

end

/-! ## Answers given in advance -/

structure Answers (Time : Type) where
  order : ℕ → Except ClientError Order
  fills : ℕ → Except ClientError (List FillRow)
  positions : ℕ → Except ClientError (List PositionRow)
  clock : ℕ → Time

/-- How many requests of each kind have been answered. -/
structure Asked where
  orders : ℕ
  fills : ℕ
  positions : ℕ
  readings : ℕ
  deriving DecidableEq

/-- The exchange that answers so.  A resolution places and cancels nothing. -/
def Answers.client {Time : Type} (answers : Answers Time) : Client Asked Time where
  createOrder _ asked := (false, .error "no order is placed", asked)
  getOrder _ := fun asked => (answers.order asked.orders, { asked with orders := asked.orders + 1 })
  getFills _ := fun asked => (answers.fills asked.fills, { asked with fills := asked.fills + 1 })
  getPositions := fun asked =>
    (answers.positions asked.positions, { asked with positions := asked.positions + 1 })
  cancelOrder _ := throw "no order is canceled"
  getOpenOrders := throw "no order is listed"
  clock asked := (answers.clock asked.readings, { asked with readings := asked.readings + 1 })
  sleep _ asked := asked

/-- The order that poll `k` is about: the first one may be at hand. -/
def Answers.orderAt {Time : Type} (answers : Answers Time) (initial : Option Order) (k : ℕ) :
    Except ClientError Order :=
  match initial, k with
  | some found, 0 => .ok found
  | some _, k + 1 => answers.order k
  | none, k => answers.order k

/-- The position of a ticker among the rows, zero where there is none. -/
def positionOf (ticker : String) (rows : List PositionRow) : Option Decimal :=
  match (rows.filter fun row => row.ticker = ticker).map PositionRow.position with
  | [] => some 0
  | [position] => some position
  | _ => none

/-- What poll `k` shows of the order, by the answers alone. -/
def Shown {Time : Type} (answers : Answers Time) (intent : OrderIntent) (initial : Option Order)
    (k : ℕ) (seen : Snapshot) : Prop :=
  ∃ found rows positions avg filled fee post, answers.orderAt initial k = .ok found ∧
    answers.fills k = .ok rows ∧ sumFills intent.orderId rows = .ok (avg, filled, fee) ∧
    answers.positions k = .ok positions ∧ positionOf intent.ticker positions = some post ∧
    seen = snapshot found avg filled fee post

theorem shown_unique {Time : Type} {answers : Answers Time} {intent : OrderIntent}
    {initial : Option Order} (k : ℕ) (seen seen' : Snapshot)
    (shown : Shown answers intent initial k seen) (shown' : Shown answers intent initial k seen') :
    seen = seen' := by
  obtain ⟨found, rows, positions, avg, filled, fee, post, order, fills, sums, held, position, rfl⟩ :=
    shown
  obtain ⟨found', rows', positions', avg', filled', fee', post', order', fills', sums', held',
    position', rfl⟩ := shown'
  obtain rfl := Except.ok.inj (order.symm.trans order')
  obtain rfl := Except.ok.inj (fills.symm.trans fills')
  obtain rfl := Except.ok.inj (held.symm.trans held')
  obtain ⟨rfl, rfl, rfl⟩ : (avg, filled, fee) = (avg', filled', fee') :=
    Except.ok.inj (sums.symm.trans sums')
  obtain rfl := Option.some.inj (position.symm.trans position')
  rfl

/-! ## One poll -/

section

variable {Time : Type} {answers : Answers Time} {intent : OrderIntent} {initial : Option Order}
  {asked : Asked}

theorem ask_asked {α : Type} {request : Effect Asked ClientError α}
    {report : ClientError → Trouble} {attempt : Except ClientError α} {later : Asked}
    (answered : request asked = (attempt, later)) :
    Triple (fun s => s.exchange = asked) (ask request report)
      (fun a s => s.exchange = later ∧ attempt = .ok a) fun _ => True := by
  rintro s rfl
  unfold ask Effect.handle Effect.within
  simp only [runFrom, answered]
  cases attempt with
  | ok a => exact ⟨rfl, rfl⟩
  | error cause => trivial

theorem pollFills_asked (id : String) :
    Triple (fun s => s.exchange = asked) (pollFills answers.client id)
      (fun sums s => s.exchange = { asked with fills := asked.fills + 1 } ∧
        ∃ rows, answers.fills asked.fills = .ok rows ∧ sumFills id rows = .ok sums)
      fun _ => True := by
  refine Triple.bind (ask_asked rfl) fun rows => ?_
  rintro s ⟨later, answered⟩
  rw [runFrom_ofExcept]
  cases summed : sumFills id rows with
  | ok sums => exact ⟨later, rows, answered, summed⟩
  | error e => trivial

theorem authoritativePosition_asked (ticker context : String) :
    Triple (fun s => s.exchange = asked) (authoritativePosition answers.client ticker context)
      (fun post s => s.exchange = { asked with positions := asked.positions + 1 } ∧
        ∃ rows, answers.positions asked.positions = .ok rows ∧ positionOf ticker rows = some post)
      fun _ => True := by
  refine Triple.bind (ask_asked rfl) fun rows => ?_
  generalize known : (rows.filter fun row => row.ticker = ticker).map PositionRow.position = held
  have position : ∀ post, (held = [] ∧ post = 0) ∨ held = [post] →
      positionOf ticker rows = some post := by
    intro post shape
    unfold positionOf
    rw [known]
    rcases shape with ⟨rfl, rfl⟩ | rfl <;> rfl
  match held with
  | [] => exact fun _ after => ⟨after.1, rows, after.2, position 0 (Or.inl ⟨rfl, rfl⟩)⟩
  | [post] => exact fun _ after => ⟨after.1, rows, after.2, position post (Or.inr rfl)⟩
  | _ :: _ :: _ => exact fun _ _ => trivial

theorem pollOrder_asked (id : String) (cid : Option String) :
    Triple (fun s => s.exchange = asked) (pollOrder answers.client id cid)
      (fun found s => s.exchange = { asked with orders := asked.orders + 1 } ∧
        answers.order asked.orders = .ok found) fun _ => True := by
  refine Triple.bind (ask_asked rfl) fun found => ?_
  refine Triple.ite (fun _ => fun _ _ => trivial) fun _ => ?_
  cases cid with
  | none => exact fun _ after => after
  | some expected => exact Triple.ite (fun _ => fun _ _ => trivial) fun _ => fun _ after => after

theorem readClock_asked :
    Triple (fun s => s.exchange = asked) (readClock answers.client)
      (fun now s => s.exchange = { asked with readings := asked.readings + 1 } ∧
        now = answers.clock asked.readings) fun _ => True := by
  rintro s rfl
  exact ⟨rfl, rfl⟩

end

/-! ## The streak -/

/-- How many polls a resolution needs: one at least. -/
def pollsNeeded (stablePolls : ℤ) : ℕ := max 1 stablePolls.toNat

theorem pollsNeeded_pos (stablePolls : ℤ) : 0 < pollsNeeded stablePolls :=
  Nat.one_pos.trans_le (le_max_left _ _)

/-- The requests answered before poll `k`. -/
def atPoll (initial : Option Order) (k : ℕ) : Asked :=
  ⟨if initial.isSome then k else k + 1, k, k, k + 1⟩

section

variable {Time : Type} {answers : Answers Time} {intent : OrderIntent} {initial : Option Order}
  {stablePolls : ℤ} {k : ℕ}

/-- An unbroken streak of coherent observations of one state. -/
def Agreeing (answers : Answers Time) (intent : OrderIntent) (initial : Option Order) :
    ℕ → ℕ → Prop :=
  Streak (Shown answers intent initial) fun seen => coherent intent seen = .ok true

/-- The result of the polls up to the last. -/
structure Converged (answers : Answers Time) (intent : OrderIntent) (initial : Option Order)
    (stablePolls : ℤ) (result : Resolution) (last : ℕ) : Prop where
  room : pollsNeeded stablePolls ≤ last + 1
  shown : ∀ i, last + 1 ≤ i + pollsNeeded stablePolls → i ≤ last →
    Shown answers intent initial i result.snapshot
  coherent : coherent intent result.snapshot = .ok true
  first : ∀ m ≤ last, ¬Agreeing answers intent initial m (pollsNeeded stablePolls)

theorem orderAt_next : answers.orderAt initial (k + 1) =
    answers.order (if initial.isSome then k else k + 1) := by
  cases initial <;> rfl

theorem firstPoll_asked (id : String) (cid : Option String) :
    Triple (fun s => s.exchange = ⟨0, 0, 0, 1⟩) (firstPoll answers.client id cid initial)
      (fun found s => s.exchange = atPoll initial 0 ∧ answers.orderAt initial 0 = .ok found)
      fun _ => True := by
  cases initial with
  | none => exact pollOrder_asked id cid
  | some found => exact fun s after => ⟨after, rfl⟩

variable [LinearOrder Time] [OfScientific Time] {deadline : Time} {polls stable : ℕ}
  {prior : Option Snapshot}

theorem convergeLoop_settled {found : Order} (order : answers.orderAt initial k = .ok found)
    (longest : Longest (Shown answers intent initial) (fun seen => coherent intent seen = .ok true)
      k stable prior)
    (first : ∀ m ≤ k, ¬Agreeing answers intent initial m (pollsNeeded stablePolls)) :
    Triple (fun s => s.exchange = atPoll initial k)
      (convergeLoop answers.client intent stablePolls deadline polls found stable prior)
      (fun result _ => ∃ last, Converged answers intent initial stablePolls result last)
      fun _ => True := by
  induction polls generalizing k found stable prior with
  | zero => exact fun _ _ => trivial
  | succ polls ih =>
      refine Triple.bind (pollFills_asked _) fun sums => Triple.given fun ⟨rows, fills, summed⟩ => ?_
      refine Triple.bind (authoritativePosition_asked _ _) fun post =>
        Triple.given fun ⟨positions, held, position⟩ => ?_
      generalize seenAs : snapshot found sums.1 sums.2.1 sums.2.2 post = seen
      have shown : Shown answers intent initial k seen :=
        ⟨found, rows, positions, _, _, _, post, order, fills, summed, held, position, seenAs.symm⟩
      refine Triple.bind (S := fun _ (s : Session Asked) => s.exchange = ⟨(atPoll initial k).orders, k + 1, k + 1, k + 1⟩)
        (fun _ after => after) fun _ => ?_
      refine Triple.except_bind (fun agreed computed => ?_) fun _ _ => trivial
      have known : agreed = true ↔ coherent intent seen = .ok true := by
        rw [ofAmount computed, Except.ok.injEq]
      have next : Longest (Shown answers intent initial) (fun seen => coherent intent seen = .ok true)
          (k + 1) (stableAfter agreed stable prior seen) (some seen) :=
        longest.next shown_unique shown known
      refine Triple.ite (fun enough => fun _ _ => ?_) fun less => ?_
      · obtain ⟨agrees, counted⟩ := enough
        subst agrees
        have one := next.bound (streak_one (known.mp rfl) shown)
        have needed : pollsNeeded stablePolls ≤ stableAfter true stable prior seen :=
          max_le one (by omega)
        obtain ⟨room, same⟩ := next.streak.shorter needed
        obtain ⟨x, fine, all⟩ := same (pollsNeeded_pos stablePolls)
        have some := pollsNeeded_pos stablePolls
        obtain rfl := shown_unique k x seen (all k (by omega) (Nat.lt_succ_self k)) shown
        subst seenAs
        exact ⟨k, room, fun i late early => all i late (Nat.lt_succ_of_le early), fine, first⟩
      · refine Triple.bind readClock_asked fun now => Triple.given fun _ => ?_
        refine Triple.ite (fun _ => fun _ _ => trivial) fun _ => ?_
        refine Triple.bind (S := fun _ (s : Session Asked) => s.exchange = ⟨(atPoll initial k).orders, k + 1, k + 1, k + 2⟩)
          (fun _ after => after) fun _ => ?_
        refine Triple.bind (pollOrder_asked _ _) fun found' => Triple.given fun order' => ?_
        have further := ih (orderAt_next.trans order') next ?_
        · refine further.weaken (fun s after => ?_) (fun _ _ holds => holds) fun _ holds => holds
          rw [after]
          cases initial <;> rfl
        · intro m within
          by_cases before : m ≤ k
          · exact first m before
          · obtain rfl : m = k + 1 := by omega
            intro reached
            have enough := next.bound reached
            have some := pollsNeeded_pos stablePolls
            cases agreed with
            | false => exact absurd (some.trans_le enough) (lt_irrefl 0)
            | true => exact less ⟨rfl, by unfold pollsNeeded at enough; omega⟩

/-- Once a reading has reached the deadline the loop has come to an end of its own. -/
theorem convergeLoop_ends {m : ℕ} (reached : deadline ≤ answers.clock m) (later : k < m)
    (enough : m ≤ k + polls) (found : Order) :
    Fails (fun s => s.exchange = atPoll initial k) Explained
      (convergeLoop answers.client intent stablePolls deadline polls found stable prior) := by
  induction polls generalizing k found stable prior with
  | zero => omega
  | succ polls ih =>
      refine Fails.bind (pollFills_fails _) (pollFills_asked _) fun sums => Fails.given fun _ => ?_
      refine Fails.bind (authoritativePosition_fails _ _) (authoritativePosition_asked _ _)
        fun post => Fails.given fun _ => ?_
      refine Fails.bind (S := fun _ (s : Session Asked) => s.exchange =
        ⟨(atPoll initial k).orders, k + 1, k + 1, k + 1⟩) (Fails.change _)
        (fun _ after => after) fun _ => ?_
      refine Fails.bind (Fails.except (amount_explained coherent_signals))
        (Keeps.except _).reached fun agreed => ?_
      refine Fails.ite (fun _ => Fails.answer _) fun _ => ?_
      refine Fails.bind readClock_fails readClock_asked fun now => Fails.given fun read => ?_
      refine Fails.ite (fun _ => Fails.raise trivial) fun early => ?_
      have apart : k + 1 ≠ m := by
        rintro rfl
        exact early (by rw [read]; exact reached)
      refine Fails.bind (S := fun _ (s : Session Asked) => s.exchange =
        ⟨(atPoll initial k).orders, k + 1, k + 1, k + 2⟩) (Fails.change _)
        (fun _ after => after) fun _ => ?_
      refine Fails.bind (pollOrder_fails _ _) (pollOrder_asked _ _) fun found' =>
        Fails.given fun _ => ?_
      refine (@ih (k + 1) _ _ (by omega) (by omega) found').of fun s after => ?_
      rw [after]
      cases initial <;> rfl

variable [Add Time] {reconcileTimeout : Time} {timeout : Option Time}

/-- Nothing asked yet. -/
def unasked : Session Asked := ⟨⟨0, 0, 0, 0⟩, []⟩

theorem resolve_settled (answers : Answers Time) (polls : ℕ) (reconcileTimeout : Time)
    (intent : OrderIntent) (initial : Option Order) (timeout : Option Time) (stablePolls : ℤ) :
    Triple (fun s => s = unasked) (OrderResolver.resolve answers.client polls reconcileTimeout
      intent initial timeout stablePolls)
    (fun result _ => ∃ last, Converged answers intent initial stablePolls result last)
    fun _ => True := by
  refine Triple.bind (S := fun _ (s : Session Asked) => s.exchange = ⟨0, 0, 0, 1⟩) ?_ fun now => ?_
  · rintro _ rfl
    rfl
  refine Triple.bind (firstPoll_asked _ _) fun found => Triple.given fun order => ?_
  refine convergeLoop_settled order longest_zero fun m none streak => ?_
  have some := pollsNeeded_pos stablePolls
  have room := streak.1
  omega

theorem resolve_ends (intent : OrderIntent) (initial : Option Order) (stablePolls : ℤ) {m : ℕ}
    (reached : answers.clock 0 + timeout.getD reconcileTimeout ≤ answers.clock (m + 1))
    (enough : m < polls) : Fails (fun s => s = unasked) Explained
      (OrderResolver.resolve answers.client polls reconcileTimeout intent initial timeout
        stablePolls) := by
  refine Fails.bind (S := fun now (s : Session Asked) =>
    s.exchange = ⟨0, 0, 0, 1⟩ ∧ now = answers.clock 0) readClock_fails ?_ fun now =>
      Fails.given fun read => ?_
  · rintro _ rfl
    exact ⟨rfl, rfl⟩
  refine Fails.bind (firstPoll_fails _ _ _) (firstPoll_asked _ _) fun found =>
    Fails.given fun _ => ?_
  rw [read]
  exact convergeLoop_ends reached (Nat.succ_pos m) (by omega) found

/-! ## The resolution -/

/-- What a resolution may rest on: the order is terminal, the one meant and in full, its fills
and the acknowledgement agree with its count, and the position has moved by them. -/
structure Agrees (intent : OrderIntent) (seen : Snapshot) : Prop where
  terminal : seen.status.terminal = true
  ticker : seen.ticker = intent.ticker
  size : seen.initialCount = intent.requested
  filled : seen.fillCount = seen.filled
  acknowledged : seen.fillCount = intent.ackFill
  position : expectedPost intent seen.filled = .ok seen.postPosition

omit [LinearOrder Time] [OfScientific Time] [Add Time] in
theorem agrees_of_coherent {seen : Snapshot} (agreed : coherent intent seen = .ok true) :
    Agrees intent seen := by
  unfold coherent at agreed
  obtain ⟨expected, position, agreed⟩ := bind_eq_ok.mp agreed
  obtain ⟨counts, counted, agreed⟩ := bind_eq_ok.mp agreed
  simp only [pure, Except.pure, Except.ok.injEq, Bool.and_eq_true, decide_eq_true_eq] at agreed
  obtain ⟨⟨⟨terminal, ticker⟩, rfl⟩, same⟩ := agreed
  unfold countsCoherent at counted
  split_ifs at counted with size
  · cases counted
  obtain ⟨shown, -, counted⟩ := bind_eq_ok.mp counted
  split_ifs at counted
  · obtain ⟨acked, -, counted⟩ := bind_eq_ok.mp counted
    split_ifs at counted
    · simp only [pure, Except.pure, Except.ok.injEq, decide_eq_true_eq] at counted
      exact ⟨terminal, ticker, not_not.mp size, counted.2.2, counted.1, same ▸ position⟩
    · cases counted
  · cases counted

omit [LinearOrder Time] [OfScientific Time] [Add Time] in
/-- The filled count is the sum of the counts of the order's fills. -/
theorem sumFills_counts {id : String} {rows : List FillRow} {avg filled fee : Decimal}
    (summed : sumFills id rows = .ok (avg, filled, fee)) :
    (∀ row ∈ rows, row.orderId = id) ∧ (rows.map FillRow.count).foldlM add 0 = .ok filled := by
  have tallies (rows : List FillRow) (start after : Decimal × Decimal × Decimal)
      (folded : rows.foldlM (tally id) start = .ok after) :
      (∀ row ∈ rows, row.orderId = id) ∧
        (rows.map FillRow.count).foldlM add start.1 = .ok after.1 := by
    induction rows generalizing start with
    | nil =>
        cases folded
        exact ⟨fun row inside => absurd inside List.not_mem_nil, rfl⟩
    | cons row rest ih =>
        rw [List.foldlM_cons] at folded
        obtain ⟨next, tallied, folded⟩ := bind_eq_ok.mp folded
        unfold tally at tallied
        split_ifs at tallied with wrong
        obtain ⟨sum, added, tallied⟩ := bind_eq_ok.mp tallied
        obtain ⟨cost, -, tallied⟩ := bind_eq_ok.mp tallied
        obtain ⟨notional, -, tallied⟩ := bind_eq_ok.mp tallied
        obtain ⟨fees, -, tallied⟩ := bind_eq_ok.mp tallied
        cases tallied
        obtain ⟨own, sums⟩ := ih _ folded
        refine ⟨List.forall_mem_cons.mpr ⟨not_not.mp wrong, own⟩, ?_⟩
        rw [List.map_cons, List.foldlM_cons]
        exact bind_eq_ok.mpr ⟨sum, ofAmount added, sums⟩
  unfold sumFills at summed
  obtain ⟨⟨sum, notional, fees⟩, folded, rest⟩ := bind_eq_ok.mp summed
  obtain ⟨average, -, rest⟩ := bind_eq_ok.mp rest
  cases rest
  exact tallies rows _ _ folded

/-- How a resolution of at most `polls` polls ends. -/
def Answers.resolution (answers : Answers Time) (polls : ℕ) (reconcileTimeout : Time)
    (intent : OrderIntent) (initial : Option Order) (timeout : Option Time) (stablePolls : ℤ) :
    Except Trouble Resolution :=
  (runFrom (OrderResolver.resolve answers.client polls reconcileTimeout intent initial timeout
    stablePolls) unasked).1

theorem settled_of_answered {result : Resolution}
    (answered : answers.resolution polls reconcileTimeout intent initial timeout stablePolls =
      .ok result) : ∃ last, Converged answers intent initial stablePolls result last := by
  have settled := resolve_settled answers polls reconcileTimeout intent initial timeout stablePolls
    unasked rfl
  unfold Answers.resolution at answered
  revert settled answered
  cases runFrom (OrderResolver.resolve answers.client polls reconcileTimeout intent initial timeout
    stablePolls) unasked with
  | mk outcome s =>
      intro answered settled
      cases answered
      exact settled

/-- A resolution comes to an end once the clock has reached the deadline, and what it answers was
shown by as many polls in a row as were asked for, by no streak before them, and agrees with the
intent: the last of the polls that an incoherent or different one did not set back. -/
theorem resolve_converges (answers : Answers Time) (reconcileTimeout : Time) (intent : OrderIntent)
    (initial : Option Order) (timeout : Option Time) (stablePolls : ℤ) :
    ((∃ m, answers.clock 0 + timeout.getD reconcileTimeout ≤ answers.clock (m + 1)) →
      ∃ enough, ∀ polls, enough ≤ polls →
        match answers.resolution polls reconcileTimeout intent initial timeout stablePolls with
        | .ok _ => True
        | .error trouble => Explained trouble) ∧
    ∀ polls result,
      answers.resolution polls reconcileTimeout intent initial timeout stablePolls = .ok result →
      Agrees intent result.snapshot ∧ ∃ last : ℕ, stablePolls ≤ last + 1 ∧
        (∀ i : ℕ, i ≤ last → (i = last ∨ last < i + stablePolls) →
          Shown answers intent initial i result.snapshot ∧ ∃ rows, answers.fills i = .ok rows ∧
            (∀ row ∈ rows, row.orderId = intent.orderId) ∧
            (rows.map FillRow.count).foldlM add 0 = .ok result.filled) ∧
        ∀ m ≤ last, ¬Agreeing answers intent initial m (pollsNeeded stablePolls) := by
  constructor
  · rintro ⟨m, reached⟩
    refine ⟨m + 1, fun polls enough => ?_⟩
    have ends := resolve_ends intent initial stablePolls reached enough unasked rfl
    cases resolved : answers.resolution polls reconcileTimeout intent initial timeout stablePolls with
    | ok result => trivial
    | error trouble => exact ends trouble resolved
  · intro polls result answered
    obtain ⟨last, converged⟩ := settled_of_answered answered
    have agrees := agrees_of_coherent converged.coherent
    have some := pollsNeeded_pos stablePolls
    have needed : stablePolls ≤ pollsNeeded stablePolls := by
      unfold pollsNeeded
      omega
    have room := converged.room
    refine ⟨agrees, last, by omega, fun i within late => ?_, converged.first⟩
    have shown := converged.shown i (by omega) within
    obtain ⟨found, rows, positions, avg, filled, fee, post, -, fills, summed, -, -, same⟩ := shown
    obtain ⟨own, counts⟩ := sumFills_counts summed
    have here : result.filled = filled := congrArg Snapshot.filled same
    exact ⟨converged.shown i (by omega) within, rows, fills, own, here ▸ counts⟩

end

/-! ## Signals -/

/-- The first count past the largest decimal is a finite number. -/
theorem exists_vast : ∃ count : Decimal, count.value = 10 ^ (pythonContext.maxExponent + 1) :=
  ⟨⟨10 ^ (pythonContext.maxExponent + 1), by
    simpa using finite_scaled 1 (pythonContext.maxExponent + 1)⟩, rfl⟩

theorem add_vast {count : Decimal} (vast : count.value = 10 ^ (pythonContext.maxExponent + 1)) :
    add 0 count = .error (.decimal .overflow) := by
  have total : (0 : Decimal).value + count.value = 10 ^ (pythonContext.maxExponent + 1) := by
    rw [Decimal.zero_value, zero_add, vast]
  unfold add DecimalContext.add
  rw [pythonContext.round_vast DecimalSignal.overflow (by decide) (by decide) total]
  rfl

/-- A fill of one order by that count. -/
def vastFill (count : Decimal) (counted : cent ≤ count) : FillRow :=
  ⟨count, 0, "o", 0, counted⟩

theorem sumFills_vast {count : Decimal} (counted : cent ≤ count)
    (vast : count.value = 10 ^ (pythonContext.maxExponent + 1)) :
    sumFills "o" [vastFill count counted] = .error (.engine (.decimal .overflow)) := by
  have first : tally "o" (0, 0, 0) (vastFill count counted) =
      .error (.engine (.decimal .overflow)) := by
    have own : ¬(vastFill count counted).orderId ≠ "o" := not_not.mpr rfl
    unfold tally
    rw [if_neg own]
    show (amount (add 0 count) >>= _) = _
    rw [add_vast vast]
    rfl
  unfold sumFills
  rw [List.foldlM_cons, first]
  rfl

/-- An exchange that shows the order executed by that fill, at every poll. -/
def vastAnswers (count : Decimal) (counted : cent ≤ count) : Answers ℚ where
  order _ := .ok ⟨"o", .executed, count, 0, count, "T", "c"⟩
  fills _ := .ok [vastFill count counted]
  positions _ := .ok []
  clock k := k

/-- A resolution can stop at a decimal signal. -/
theorem resolve_may_signal :
    ¬∀ (answers : Answers ℚ) (reconcileTimeout : ℚ) (intent : OrderIntent) (initial : Option Order)
      (timeout : Option ℚ) (stablePolls : ℤ),
      (∃ m, answers.clock 0 + timeout.getD reconcileTimeout ≤ answers.clock (m + 1)) →
      ∃ polls, (∃ result, answers.resolution polls reconcileTimeout intent initial timeout
        stablePolls = .ok result) ∨ ∃ error, answers.resolution polls reconcileTimeout intent initial
          timeout stablePolls = .error (.resolution error) := by
  intro ends
  obtain ⟨count, vast⟩ := exists_vast
  have counted : cent ≤ count := by
    rw [Decimal.le_def, vast]
    have one : (1 : ℚ) ≤ 10 ^ (pythonContext.maxExponent + 1) :=
      one_le_zpow₀ (by norm_num) (by decide)
    have small : cent.value ≤ 1 := by norm_num [cent]
    exact small.trans one
  let intent : OrderIntent := ⟨"o", "c", "T", .buy, count, 0, count, 0⟩
  obtain ⟨polls, ended⟩ := ends (vastAnswers count counted) 1 intent none none 2
    ⟨0, by norm_num [vastAnswers]⟩
  have stopped : (vastAnswers count counted).resolution polls 1 intent none none 2 =
      .error .unfinished ∨ (vastAnswers count counted).resolution polls 1 intent none none 2 =
        .error (.engine (.decimal .overflow)) := by
    cases polls with
    | zero => exact Or.inl rfl
    | succ polls =>
        right
        have fills (s : Session Asked) : runFrom (pollFills (vastAnswers count counted).client "o") s =
            (.error (.engine (.decimal .overflow)), s.place { s.exchange with
              fills := s.exchange.fills + 1 }) := by
          show runFrom (ofExcept (sumFills "o" [vastFill count counted])) _ = _
          rw [sumFills_vast counted vast]
          rfl
        show (runFrom (pollFills (vastAnswers count counted).client "o" >>= _) ⟨⟨1, 0, 0, 1⟩, []⟩).1 = _
        rw [runFrom_bind, fills]
  rcases ended with ⟨result, answered⟩ | ⟨error, answered⟩ <;> rcases stopped with early | signaled
  · cases answered.symm.trans early
  · cases answered.symm.trans signaled
  · cases answered.symm.trans early
  · cases answered.symm.trans signaled

end Inci.Trading
