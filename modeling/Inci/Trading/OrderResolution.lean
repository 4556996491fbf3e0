/-
# Trading.OrderResolution -- what the exchange says of an order

`Client` is the exchange behind its parsers, with the clock and the sleep that
the polls wait by: programs on a state of its own, which may answer anything the
parsers accept.  `OrderResolver` polls it.  A resolution needs two polls in a row
that show one coherent state of the order, its fills and the account's position:
`resolve_confirmed`.

The polling loops end at a deadline.  They are given a number of polls, and fail
as `unfinished` where it runs out first; `resolve_fails` and its companions say
that under a clock that reaches every deadline within that number none does.
-/
import Inci.Theory.Checks
import Inci.Trading.Fees
import Inci.Trading.OrderJournal

namespace Inci.Trading

open Inci.Theory Effect

set_option autoImplicit false

/-! ## The exchange -/

/-- The text of an exception. -/
abbrev ClientError := String

/-- `parse_order` -/
structure Order where
  orderId : String
  status : OrderStatus
  fillCount : Decimal
  remainingCount : Decimal
  initialCount : Decimal
  ticker : String
  clientOrderId : String

/-- `parse_fill`: a count is positive and has two decimals. -/
structure FillRow where
  count : Decimal
  yesPrice : Decimal
  orderId : String
  fee : Decimal
  counted : cent ≤ count

/-- `parse_create_ack`: an order id is not empty. -/
structure CreateAck where
  orderId : String
  clientOrderId : Option String
  fillCount : Decimal
  remainingCount : Decimal
  tsMs : ℕ
  named : orderId ≠ ""

structure PositionRow where
  ticker : String
  position : Decimal

/-- `build_order_body`: a bid or an ask with its count, and its price in dollars. -/
structure OrderBody where
  ticker : String
  clientOrderId : String
  side : OrderSide
  count : Decimal
  price : Decimal
  timeInForce : String
  selfTradePreventionType : String
  reduceOnly : Bool
  subaccount : ℤ

structure Client (σ Time : Type) where
  /-- Whether the exchange accepted the order, whatever becomes of its answer. -/
  createOrder : OrderBody → σ → Bool × Except ClientError CreateAck × σ
  getOrder : String → Effect σ ClientError Order
  getFills : String → Effect σ ClientError (List FillRow)
  getPositions : Effect σ ClientError (List PositionRow)
  cancelOrder : String → Effect σ ClientError Unit
  getOpenOrders : Effect σ ClientError (List Order)
  clock : σ → Time × σ
  sleep : Time → σ → σ

structure OrderIntent where
  orderId : String
  clientOrderId : String
  ticker : String
  side : OrderSide
  requested : Decimal
  prePosition : Decimal
  ackFill : Decimal
  ackRemaining : Decimal
  deriving DecidableEq

/-- One observation across the order, its fills and the position. -/
structure Snapshot where
  status : OrderStatus
  ticker : String
  initialCount : Decimal
  fillCount : Decimal
  remainingCount : Decimal
  filled : Decimal
  avgPrice : Decimal
  fee : Decimal
  postPosition : Decimal
  deriving DecidableEq

structure Resolution where
  order : Order
  avgPrice : Decimal
  filled : Decimal
  fee : Decimal
  postPosition : Decimal

def snapshot (found : Order) (avgPrice filled fee postPosition : Decimal) : Snapshot :=
  ⟨found.status, found.ticker, found.initialCount, found.fillCount, found.remainingCount, filled,
    avgPrice, fee, postPosition⟩

def Resolution.snapshot (result : Resolution) : Snapshot :=
  Trading.snapshot result.order result.avgPrice result.filled result.fee result.postPosition

/-- The outcome line of a resolution. -/
def outcomeEntry (intent : OrderIntent) (result : Resolution) (canceled : Decimal)
    (recovered : Bool) : JournalEntry where
  event := .outcome
  clientOrderId := some intent.clientOrderId
  orderId := some intent.orderId
  ticker := some intent.ticker
  side := some intent.side
  status := some result.order.status
  filled := some result.filled
  avgPrice := some result.avgPrice
  remaining := some result.order.remainingCount
  canceled := some canceled
  fee := some result.fee
  apiPosition := some result.postPosition
  recoveredOnStartup := recovered

/-- `initial_count - filled - remaining_count` -/
def canceledCount (result : Resolution) : Except EngineError Decimal := do
  let unfilled ← subtract result.order.initialCount result.filled
  subtract unfilled result.order.remainingCount

/-- The messages of `ResolutionError`, with the values they name. -/
inductive ResolutionError where
  | statusPoll (orderId : String) (cause : ClientError)
  | identity (requested got : String)
  | clientOrderId (orderId expected got : String)
  | positionFetch (context : String) (cause : ClientError)
  | duplicatePosition (ticker : String)
  | fillsLookup (orderId : String) (cause : ClientError)
  | wrongOrder (expected got : String)
  | notTerminal (orderId : String) (status : OrderStatus) (cancelError : Option ClientError)
  | notConverged (orderId : String) (last : Snapshot)

/-- What stops the resolver: its own error, a decimal signal, or the end of its polls. -/
inductive Trouble where
  | resolution (error : ResolutionError)
  | engine (error : EngineError)
  | unfinished

/-- The exchange during a run, with every observation `resolve` has made of an
order.  No function reads the observations. -/
structure Session (σ : Type) where
  exchange : σ
  observed : List (String × Snapshot)

abbrev Resolver (σ : Type) := Effect (Session σ) Trouble

section

variable {σ Time : Type} [LinearOrder Time] [Add Time] [OfScientific Time]
variable (client : Client σ Time)

/-! ## The resolver -/

def Session.place (s : Session σ) (exchange : σ) : Session σ := { s with exchange := exchange }

/-- A request, whose failure the caller reports. -/
def ask {α : Type} (request : Effect σ ClientError α) (report : ClientError → Trouble) :
    Resolver σ α :=
  (within Session.exchange Session.place request).handle fun cause => throw (report cause)

def readClock : Resolver σ Time := fun s =>
  (.ok (client.clock s.exchange).1, s.place (client.clock s.exchange).2)

def pause (seconds : Time) : Resolver σ Unit :=
  modify fun s => s.place (client.sleep seconds s.exchange)

def amount {α : Type} (result : Except EngineError α) : Except Trouble α := result.mapError .engine

/-- `OrderResolver.order` -/
def pollOrder (orderId : String) (clientOrderId : Option String) : Resolver σ Order := do
  let found ← ask (client.getOrder orderId) fun cause => .resolution (.statusPoll orderId cause)
  if found.orderId ≠ orderId then throw (.resolution (.identity orderId found.orderId))
  else
    match clientOrderId with
    | some expected =>
        if found.clientOrderId ≠ expected then
          throw (.resolution (.clientOrderId orderId expected found.clientOrderId))
        else pure found
    | none => pure found

/-- `OrderResolver.position` -/
def authoritativePosition (ticker context : String) : Resolver σ Decimal := do
  let rows ← ask client.getPositions fun cause => .resolution (.positionFetch context cause)
  match (rows.filter fun row => row.ticker = ticker).map PositionRow.position with
  | [] => pure 0
  | [position] => pure position
  | _ => throw (.resolution (.duplicatePosition ticker))

/-- The fills of an order added up: the count, the notional and the fee. -/
def tally (orderId : String) (sums : Decimal × Decimal × Decimal) (row : FillRow) :
    Except Trouble (Decimal × Decimal × Decimal) :=
  if row.orderId ≠ orderId then throw (.resolution (.wrongOrder orderId row.orderId))
  else do
    let filled ← amount (add sums.1 row.count)
    let cost ← amount (multiply row.yesPrice row.count)
    let notional ← amount (add sums.2.1 cost)
    let fee ← amount (add sums.2.2 row.fee)
    pure (filled, notional, fee)

def averagePrice (notional filled : Decimal) : Except Trouble Decimal :=
  if filled = 0 then pure 0 else amount (divide notional filled)

def sumFills (orderId : String) (rows : List FillRow) :
    Except Trouble (Decimal × Decimal × Decimal) := do
  let (filled, notional, fee) ← rows.foldlM (tally orderId) (0, 0, 0)
  let avg ← averagePrice notional filled
  pure (avg, filled, fee)

/-- `OrderResolver.fills` -/
def pollFills (orderId : String) : Resolver σ (Decimal × Decimal × Decimal) := do
  let rows ← ask (client.getFills orderId) fun cause => .resolution (.fillsLookup orderId cause)
  ofExcept (sumFills orderId rows)

def pollLoop (orderId : String) (clientOrderId : Option String) (deadline : Time) :
    ℕ → Order → Resolver σ Order
  | 0, _ => throw .unfinished
  | polls + 1, found =>
      if found.status.terminal then pure found
      else do
        let now ← readClock client
        if deadline ≤ now then pure found
        else do
          pause client 0.5
          let next ← pollOrder client orderId clientOrderId
          pollLoop orderId clientOrderId deadline polls next

variable (polls : ℕ)

def firstPoll (orderId : String) (clientOrderId : Option String) (initial : Option Order) :
    Resolver σ Order :=
  match initial with
  | some found => pure found
  | none => pollOrder client orderId clientOrderId

/-- `OrderResolver.poll_terminal` -/
def pollTerminal (orderId : String) (timeout : Time) (clientOrderId : Option String)
    (initial : Option Order) : Resolver σ Order := do
  let now ← readClock client
  let found ← firstPoll client orderId clientOrderId initial
  pollLoop client orderId clientOrderId (now + timeout) polls found

/-- The cancellation's error, where it has one: the request is not authoritative. -/
def cancelRequest (orderId : String) : Resolver σ (Option ClientError) :=
  (within Session.exchange Session.place do
    client.cancelOrder orderId
    pure none).handle fun cause => pure (some cause)

/-- `OrderResolver.cancel_to_terminal` -/
def cancelToTerminal (orderId : String) (timeout : Time) (clientOrderId : Option String)
    (initial : Option Order) : Resolver σ Order := do
  let found ← firstPoll client orderId clientOrderId initial
  if found.status.terminal then pure found
  else do
    let cancelError ← cancelRequest client orderId
    let last ← pollTerminal client polls orderId timeout clientOrderId (some found)
    if last.status.terminal then pure last
    else throw (.resolution (.notTerminal orderId last.status cancelError))

def countsCoherent (intent : OrderIntent) (seen : Snapshot) : Except EngineError Bool :=
  if seen.initialCount ≠ intent.requested then pure false
  else do
    let shown ← add seen.fillCount seen.remainingCount
    if ¬shown ≤ intent.requested then pure false
    else do
      let acked ← add intent.ackFill intent.ackRemaining
      if ¬acked ≤ intent.requested then pure false
      else pure (decide (seen.fillCount = intent.ackFill ∧ seen.remainingCount = intent.ackRemaining ∧
        seen.fillCount = seen.filled))

def expectedPost (intent : OrderIntent) (filled : Decimal) : Except EngineError Decimal :=
  match intent.side with
  | .buy => add intent.prePosition filled
  | .sell => subtract intent.prePosition filled

/-- The order, its fills and the position agree with each other and with the intent. -/
def coherent (intent : OrderIntent) (seen : Snapshot) : Except EngineError Bool := do
  let expected ← expectedPost intent seen.filled
  let counts ← countsCoherent intent seen
  pure (seen.status.terminal && decide (seen.ticker = intent.ticker) && counts &&
    decide (seen.postPosition = expected))

def observe (orderId : String) (seen : Snapshot) : Resolver σ Unit :=
  modify fun s => { s with observed := s.observed ++ [(orderId, seen)] }

/-- One round of `resolve`: how many coherent observations in a row are the same. -/
def stableAfter (coherent : Bool) (stable : ℕ) (prior : Option Snapshot) (seen : Snapshot) : ℕ :=
  if coherent then if prior = some seen then stable + 1 else 1 else 0

def resolveLoop (intent : OrderIntent) (deadline : Time) :
    ℕ → Order → ℕ → Option Snapshot → Resolver σ Resolution
  | 0, _, _, _ => throw .unfinished
  | polls + 1, found, stable, prior => do
      let (avg, filled, fee) ← pollFills client intent.orderId
      let post ← authoritativePosition client intent.ticker ("after order " ++ intent.orderId)
      let seen := snapshot found avg filled fee post
      observe intent.orderId seen
      let coherent ← ofExcept (amount (coherent intent seen))
      let stable := stableAfter coherent stable prior seen
      if 2 ≤ stable then pure ⟨found, avg, filled, fee, post⟩
      else do
        let now ← readClock client
        if deadline ≤ now then throw (.resolution (.notConverged intent.orderId seen))
        else do
          pause client 0.25
          let next ← pollOrder client intent.orderId (some intent.clientOrderId)
          resolveLoop intent deadline polls next stable (some seen)

/-- `OrderResolver.resolve` -/
def resolve (intent : OrderIntent) (timeout : Time) (initial : Order) : Resolver σ Resolution := do
  let now ← readClock client
  resolveLoop client intent (now + timeout) polls initial 0 none

end

section

variable {σ Time : Type} {client : Client σ Time} {polls : ℕ} {I : Session σ → Prop}

/-! ## What polling leaves alone -/

/-- A property of a session that no request changes. -/
structure Calm (client : Client σ Time) (I : Session σ → Prop) : Prop where
  getOrder : ∀ id s, I s → I (s.place (runFrom (client.getOrder id) s.exchange).2)
  getFills : ∀ id s, I s → I (s.place (runFrom (client.getFills id) s.exchange).2)
  getPositions : ∀ s, I s → I (s.place (runFrom client.getPositions s.exchange).2)
  clock : ∀ s, I s → I (s.place (client.clock s.exchange).2)

theorem calm_of_observed (J : List (String × Snapshot) → Prop) :
    Calm client fun s => J s.observed :=
  ⟨fun _ _ holds => holds, fun _ _ holds => holds, fun _ holds => holds, fun _ holds => holds⟩

theorem ask_keeps {α : Type} {request : Effect σ ClientError α} {report : ClientError → Trouble}
    (calm : ∀ s, I s → I (s.place (runFrom request s.exchange).2)) : Keeps I (ask request report) := by
  refine Keeps.handle (Keeps.within fun t holds => ?_) fun _ => Keeps.raise _
  rintro _ rfl
  have after := calm t holds
  revert after
  cases runFrom request t.exchange with
  | mk result s => cases result <;> exact fun after => after

theorem readClock_keeps (calm : Calm client I) : Keeps I (readClock client) :=
  fun s holds => calm.clock s holds

theorem pollOrder_keeps (calm : Calm client I) (id : String) (cid : Option String) :
    Keeps I (pollOrder client id cid) := by
  refine Keeps.bind (ask_keeps (calm.getOrder id)) fun found => ?_
  refine Keeps.ite (fun _ => Keeps.raise _) fun _ => ?_
  cases cid with
  | none => exact Keeps.answer _
  | some expected => exact Keeps.ite (fun _ => Keeps.raise _) fun _ => Keeps.answer _

theorem authoritativePosition_keeps (calm : Calm client I) (ticker context : String) :
    Keeps I (authoritativePosition client ticker context) := by
  refine Keeps.bind (ask_keeps calm.getPositions) fun rows => ?_
  split
  · exact Keeps.answer _
  · exact Keeps.answer _
  · exact Keeps.raise _

theorem pollFills_keeps (calm : Calm client I) (id : String) : Keeps I (pollFills client id) :=
  Keeps.bind (ask_keeps (calm.getFills id)) fun _ => Keeps.except _

theorem firstPoll_keeps (calm : Calm client I) (id : String) (cid : Option String)
    (initial : Option Order) : Keeps I (firstPoll client id cid initial) := by
  cases initial with
  | none => exact pollOrder_keeps calm id cid
  | some found => exact Keeps.answer found

section Quiet

variable {J : List (String × Snapshot) → Prop}

theorem pause_quiet (seconds : Time) : Keeps (fun s => J s.observed) (pause client seconds) :=
  Keeps.change fun _ holds => holds

theorem cancelRequest_quiet (id : String) :
    Keeps (fun s => J s.observed) (cancelRequest client id) := by
  refine Keeps.handle (Keeps.within fun t holds => ?_) fun _ => Keeps.answer _
  rintro s rfl
  cases runFrom (client.cancelOrder id >>= fun _ => pure none) t.exchange with
  | mk result s => cases result <;> exact holds

variable [LinearOrder Time] [OfScientific Time]

theorem pollLoop_quiet (id : String) (cid : Option String) (deadline : Time) (found : Order) :
    Keeps (fun s => J s.observed) (pollLoop client id cid deadline polls found) := by
  induction polls generalizing found with
  | zero => exact Keeps.raise _
  | succ polls ih =>
      refine Keeps.ite (fun _ => Keeps.answer _) fun _ => ?_
      refine Keeps.bind (readClock_keeps (calm_of_observed J)) fun now => ?_
      refine Keeps.ite (fun _ => Keeps.answer _) fun _ => ?_
      refine Keeps.bind (pause_quiet _) fun _ => ?_
      exact Keeps.bind (pollOrder_keeps (calm_of_observed J) id cid) ih

variable [Add Time]

theorem pollTerminal_quiet (id : String) (timeout : Time) (cid : Option String)
    (initial : Option Order) :
    Keeps (fun s => J s.observed) (pollTerminal client polls id timeout cid initial) := by
  refine Keeps.bind (readClock_keeps (calm_of_observed J)) fun now => ?_
  refine Keeps.bind (firstPoll_keeps (calm_of_observed J) id cid initial) fun found => ?_
  exact pollLoop_quiet id cid _ found

theorem cancelToTerminal_quiet (id : String) (timeout : Time) (cid : Option String)
    (initial : Option Order) :
    Keeps (fun s => J s.observed) (cancelToTerminal client polls id timeout cid initial) := by
  refine Keeps.bind (firstPoll_keeps (calm_of_observed J) id cid initial) fun found => ?_
  refine Keeps.ite (fun _ => Keeps.answer _) fun _ => ?_
  refine Keeps.bind (cancelRequest_quiet id) fun cancelError => ?_
  refine Keeps.bind (pollTerminal_quiet id timeout cid _) fun last => ?_
  exact Keeps.ite (fun _ => Keeps.answer _) fun _ => Keeps.raise _

end Quiet

/-! ## Resolution -/

theorem ofAmount {α : Type} {result : Except EngineError α} {a : α} (known : amount result = .ok a) :
    result = .ok a := by
  cases result with
  | ok b => simpa [amount, Except.mapError] using known
  | error e => simp [amount, Except.mapError] at known

/-- Two observations in a row showed the resolution's snapshot, and it is coherent. -/
def Confirmed (observed : List (String × Snapshot)) (intent : OrderIntent) (result : Resolution) :
    Prop :=
  [(intent.orderId, result.snapshot), (intent.orderId, result.snapshot)] <:+: observed ∧
    coherent intent result.snapshot = .ok true

theorem Confirmed.grows {observed later : List (String × Snapshot)} {intent : OrderIntent}
    {result : Resolution} (confirmed : Confirmed observed intent result)
    (grown : observed <+: later) : Confirmed later intent result :=
  ⟨confirmed.1.trans grown.isInfix, confirmed.2⟩

/-- Observations made since `start`, with a count of the last ones that are the same. -/
structure Counted (start : List (String × Snapshot)) (id : String) (stable : ℕ)
    (prior : Option Snapshot) (observed : List (String × Snapshot)) : Prop where
  grown : start <+: observed
  small : stable ≤ 1
  last : stable = 1 → ∃ seen, prior = some seen ∧ [(id, seen)] <:+ observed

section Resolving

variable {intent : OrderIntent} {start observed : List (String × Snapshot)} {stable : ℕ}
  {prior : Option Snapshot} {seen : Snapshot} {agreed : Bool}

/-- The second equal observation stands right after the first. -/
theorem Counted.twice (counted : Counted start intent.orderId stable prior observed)
    (enough : 2 ≤ stableAfter agreed stable prior seen) :
    agreed = true ∧ [(intent.orderId, seen), (intent.orderId, seen)] <:+:
      observed ++ [(intent.orderId, seen)] := by
  unfold stableAfter at enough
  split_ifs at enough with agrees same
  · have one : stable = 1 := by
      have bound := counted.small
      omega
    obtain ⟨last, known, before, rfl⟩ := counted.last one
    rw [same] at known
    cases known
    exact ⟨agrees, ⟨before, [], by simp⟩⟩
  · omega
  · omega

theorem Counted.next (counted : Counted start intent.orderId stable prior observed)
    (less : ¬2 ≤ stableAfter agreed stable prior seen) :
    Counted start intent.orderId (stableAfter agreed stable prior seen) (some seen)
      (observed ++ [(intent.orderId, seen)]) where
  grown := counted.grown.trans (List.prefix_append _ _)
  small := by omega
  last _ := ⟨seen, rfl, List.suffix_append _ _⟩

variable [LinearOrder Time] [OfScientific Time]

theorem resolveLoop_confirmed {deadline : Time} {found : Order} :
    Triple (fun s => Counted start intent.orderId stable prior s.observed)
      (resolveLoop client intent deadline polls found stable prior)
      (fun result s => start <+: s.observed ∧ Confirmed s.observed intent result)
      fun s => start <+: s.observed := by
  induction polls generalizing found stable prior with
  | zero => exact fun s holds => holds.grown
  | succ polls ih =>
      have calm (stable : ℕ) (prior : Option Snapshot) : Calm client fun s =>
          Counted start intent.orderId stable prior s.observed := calm_of_observed _
      refine (pollFills_keeps (calm _ _) _).before (fun s holds => holds.grown) fun sums => ?_
      refine (authoritativePosition_keeps (calm _ _) _ _).before (fun s holds => holds.grown)
        fun post => ?_
      generalize seenAs : snapshot found sums.1 sums.2.1 sums.2.2 post = seen
      refine Triple.pointwise fun s counted => Triple.modify_bind ?_
      have grown : start <+: s.observed ++ [(intent.orderId, seen)] :=
        counted.grown.trans (List.prefix_append _ _)
      refine Triple.except_bind (fun agreed computed => ?_) (by rintro _ rfl; exact grown)
      refine Triple.ite (fun enough => ?_) fun less => ?_
      · obtain ⟨agrees, twice⟩ := counted.twice enough
        subst agrees
        refine Triple.answer_from ⟨grown, ?_⟩
        subst seenAs
        exact ⟨twice, ofAmount computed⟩
      · refine Triple.starting (P := fun s => Counted start intent.orderId
          (stableAfter agreed stable prior seen) (some seen) s.observed) ?_ (counted.next less)
        refine (readClock_keeps (calm _ _)).before (fun s holds => holds.grown) fun now => ?_
        refine Triple.ite (fun _ => fun s holds => holds.grown) fun _ => ?_
        refine (pause_quiet (J := Counted start intent.orderId _ (some seen)) _).before
          (fun s holds => holds.grown) fun _ => ?_
        exact (pollOrder_keeps (calm _ _) _ _).before (fun s holds => holds.grown) fun _ => ih

/-- A resolution rests on two observations in a row. -/
theorem resolve_confirmed [Add Time] {timeout : Time} {initial : Order} :
    Triple (fun s => start <+: s.observed) (resolve client polls intent timeout initial)
      (fun result s => start <+: s.observed ∧ Confirmed s.observed intent result)
      fun s => start <+: s.observed := by
  refine (readClock_keeps (calm_of_observed (start <+: ·))).before (fun s grown => grown) fun now => ?_
  exact resolveLoop_confirmed.weaken (fun s grown => ⟨grown, by omega, by omega⟩)
    (fun _ _ holds => holds) fun _ holds => holds

end Resolving

/-! ## Fills -/

/-- A sum of fills is zero, or far from it. -/
def FillSum (filled : Decimal) : Prop := filled = 0 ∨ 1 / 200 ≤ filled.value

theorem FillSum.nonneg {filled : Decimal} (sum : FillSum filled) : 0 ≤ filled.value := by
  rcases sum with rfl | large
  · exact le_of_eq Decimal.zero_value.symm
  · linarith

theorem FillSum.floatNonzero {filled : Decimal} (sum : FillSum filled) (some : filled ≠ 0) :
    JournalEntry.floatNonzero filled := by
  have large : 1 / 200 ≤ filled.value := sum.resolve_left some
  unfold JournalEntry.floatNonzero
  calc (2 : ℚ) ^ (-1075 : ℤ) ≤ 2 ^ (-8 : ℤ) := zpow_le_zpow_right₀ (by norm_num) (by norm_num)
    _ < 1 / 200 := by norm_num
    _ ≤ |filled.value| := large.trans (le_abs_self _)

theorem tally_sum {id : String} {sums after : Decimal × Decimal × Decimal} {row : FillRow}
    (sum : FillSum sums.1) (tallied : tally id sums row = .ok after) : FillSum after.1 := by
  unfold tally at tallied
  split_ifs at tallied with wrong
  · obtain ⟨filled, added, rest⟩ := bind_eq_ok.mp tallied
    obtain ⟨cost, _, rest⟩ := bind_eq_ok.mp rest
    obtain ⟨notional, _, rest⟩ := bind_eq_ok.mp rest
    obtain ⟨fee, _, rest⟩ := bind_eq_ok.mp rest
    cases rest
    refine Or.inr (add_cent (ofAmount added) ?_)
    have counted : (1 : ℚ) / 100 ≤ row.count.value := by
      have least := (Decimal.le_def _ _).mp row.counted
      norm_num [cent] at least ⊢
      exact least
    linarith [sum.nonneg]

theorem sumFills_sum {id : String} {rows : List FillRow} {sums : Decimal × Decimal × Decimal}
    (summed : sumFills id rows = .ok sums) : FillSum sums.2.1 := by
  have tallies (rows : List FillRow) (start after : Decimal × Decimal × Decimal)
      (sum : FillSum start.1) (folded : rows.foldlM (tally id) start = .ok after) :
      FillSum after.1 := by
    induction rows generalizing start with
    | nil => cases folded; exact sum
    | cons row rest ih =>
        rw [List.foldlM_cons] at folded
        obtain ⟨next, tallied, rest⟩ := bind_eq_ok.mp folded
        exact ih next (tally_sum sum tallied) rest
  unfold sumFills at summed
  obtain ⟨⟨filled, notional, fee⟩, folded, rest⟩ := bind_eq_ok.mp summed
  obtain ⟨avg, _, rest⟩ := bind_eq_ok.mp rest
  cases rest
  exact tallies rows _ _ (Or.inl rfl) folded

section Answers

variable {intent : OrderIntent}

theorem pollFills_sum (id : String) :
    Triple (fun _ => True) (pollFills client id) (fun sums _ => FillSum sums.2.1) fun _ => True := by
  refine Triple.bind Triple.total fun rows => ?_
  cases summed : sumFills id rows with
  | ok sums => exact fun _ _ => sumFills_sum summed
  | error e => exact fun _ _ => trivial

variable [LinearOrder Time] [OfScientific Time]

theorem resolveLoop_sum {deadline : Time} {found : Order} {stable : ℕ} {prior : Option Snapshot} :
    Triple (fun _ => True) (resolveLoop client intent deadline polls found stable prior)
      (fun result _ => FillSum result.filled) fun _ => True := by
  induction polls generalizing found stable prior with
  | zero => exact fun _ _ => trivial
  | succ polls ih =>
      refine Triple.bind (pollFills_sum intent.orderId) fun sums => ?_
      refine Triple.pointwise fun s sum => ?_
      have kept : Triple (fun t => t = s) (authoritativePosition client intent.ticker
          ("after order " ++ intent.orderId)) (fun _ _ => True) fun _ => True := Triple.total
      refine Triple.bind kept fun post => Triple.bind Triple.total fun _ => ?_
      refine Triple.bind Triple.total fun agreed => Triple.ite (fun _ => ?_) fun _ => ?_
      · exact fun _ _ => sum
      · refine Triple.bind Triple.total fun now => Triple.ite (fun _ => fun _ _ => trivial) fun _ => ?_
        exact Triple.bind Triple.total fun _ => Triple.bind Triple.total fun _ => ih

theorem resolve_sum [Add Time] {timeout : Time} {initial : Order} :
    Triple (fun _ => True) (resolve client polls intent timeout initial)
      (fun result _ => FillSum result.filled) fun _ => True :=
  Triple.bind Triple.total fun _ => resolveLoop_sum

end Answers

/-! ## The end of polling -/

/-- A clock that no request sets back and that every sleep brings closer to each
deadline: `left` bounds the sleeps until it passes. -/
structure Ticking [LE Time] [OfScientific Time] (client : Client σ Time) (left : Time → σ → ℕ) :
    Prop where
  passed : ∀ deadline s, left deadline s = 0 → deadline ≤ (client.clock s).1
  calm : ∀ deadline bound, Calm client fun s => left deadline s.exchange < bound
  half : ∀ deadline s, left deadline (client.sleep 0.5 s) ≤ left deadline s - 1
  quarter : ∀ deadline s, left deadline (client.sleep 0.25 s) ≤ left deadline s - 1

/-- A deadline this far ahead passes within the polls. -/
def Soon [Add Time] (client : Client σ Time) (left : Time → σ → ℕ) (polls : ℕ)
    (timeout : Time) : Prop := ∀ s, left ((client.clock s).1 + timeout) (client.clock s).2 < polls

/-- The resolver has come to an end of its own. -/
def Reported (trouble : Trouble) : Prop := trouble ≠ .unfinished

/-- The resolver's own error, or the signal of a decimal operation. -/
def Explained : Trouble → Prop
  | .resolution _ => True
  | .engine error => ∃ signal, error = .decimal signal
  | .unfinished => False

theorem Explained.reported {trouble : Trouble} (explained : Explained trouble) : Reported trouble := by
  rintro rfl
  exact explained

section Ending

variable {intent : OrderIntent} {left : Time → σ → ℕ} {deadline timeout : Time}
  {P : Session σ → Prop}

theorem ask_fails {α : Type} {request : Effect σ ClientError α} {report : ClientError → Trouble}
    (explained : ∀ cause, Explained (report cause)) : Fails P Explained (ask request report) :=
  Fails.handle (Fails.within Fails.any) fun cause _ => Fails.raise (explained cause)

theorem signals {x : Except DecimalSignal Decimal} {e : EngineError} (failed : money x = .error e) :
    ∃ signal, e = .decimal signal := by
  cases x with
  | ok d => exact nomatch failed
  | error signal =>
      cases failed
      exact ⟨signal, rfl⟩

theorem amount_explained {α : Type} {result : Except EngineError α}
    (known : ∀ e, result = .error e → ∃ signal, e = .decimal signal) :
    ∀ e, amount result = .error e → Explained e := by
  intro e failed
  cases result with
  | ok a => cases failed
  | error error =>
      cases failed
      exact known error rfl

theorem tally_explained {id : String} {rows : List FillRow} {sums : Decimal × Decimal × Decimal} :
    ∀ e, rows.foldlM (tally id) sums = .error e → Explained e := by
  induction rows generalizing sums with
  | nil => exact fun e failed => nomatch failed
  | cons row rest ih =>
      intro e failed
      rw [List.foldlM_cons] at failed
      rcases bind_eq_error.mp failed with first | ⟨next, _, later⟩
      · unfold tally at first
        split_ifs at first
        · cases first
          trivial
        · rcases bind_eq_error.mp first with added | ⟨_, _, first⟩
          · exact amount_explained (fun _ => signals) e added
          rcases bind_eq_error.mp first with cost | ⟨_, _, first⟩
          · exact amount_explained (fun _ => signals) e cost
          rcases bind_eq_error.mp first with notional | ⟨_, _, first⟩
          · exact amount_explained (fun _ => signals) e notional
          rcases bind_eq_error.mp first with fee | ⟨_, _, first⟩
          · exact amount_explained (fun _ => signals) e fee
          · cases first
      · exact ih e later

theorem sumFills_explained {id : String} {rows : List FillRow} :
    ∀ e, sumFills id rows = .error e → Explained e := by
  intro e failed
  unfold sumFills at failed
  rcases bind_eq_error.mp failed with folded | ⟨⟨filled, notional, fee⟩, _, rest⟩
  · exact tally_explained e folded
  · rcases bind_eq_error.mp rest with average | ⟨_, _, rest⟩
    · unfold averagePrice at average
      split_ifs at average
      · cases average
      · exact amount_explained (fun _ => signals) e average
    · cases rest

theorem coherent_signals {seen : Snapshot} (e : EngineError)
    (failed : coherent intent seen = .error e) : ∃ signal, e = .decimal signal := by
  unfold coherent at failed
  rcases bind_eq_error.mp failed with first | ⟨expected, _, failed⟩
  · unfold expectedPost at first
    cases side : intent.side with
    | buy =>
        rw [side] at first
        exact signals first
    | sell =>
        rw [side] at first
        exact signals first
  rcases bind_eq_error.mp failed with second | ⟨counts, _, failed⟩
  · unfold countsCoherent at second
    split_ifs at second
    · cases second
    rcases bind_eq_error.mp second with shown | ⟨_, _, second⟩
    · exact signals shown
    split_ifs at second
    · rcases bind_eq_error.mp second with acked | ⟨_, _, second⟩
      · exact signals acked
      split_ifs at second
      · cases second
      · cases second
    · cases second
  · cases failed

theorem pollOrder_fails (id : String) (cid : Option String) :
    Fails P Explained (pollOrder client id cid) := by
  refine (Fails.sequence (ask_fails fun _ => trivial) fun found => ?_)
  refine Fails.ite (fun _ => Fails.raise trivial) fun _ => ?_
  cases cid with
  | none => exact Fails.answer _
  | some expected =>
      exact Fails.ite (fun _ => Fails.raise trivial) fun _ => Fails.answer _

theorem authoritativePosition_fails (ticker context : String) :
    Fails P Explained (authoritativePosition client ticker context) := by
  refine Fails.sequence (ask_fails fun _ => trivial) fun rows => ?_
  split
  · exact Fails.answer _
  · exact Fails.answer _
  · exact Fails.raise trivial

theorem pollFills_fails (id : String) : Fails P Explained (pollFills client id) :=
  Fails.sequence (ask_fails fun _ => trivial) fun _ => Fails.except sumFills_explained

theorem firstPoll_fails (id : String) (cid : Option String) (initial : Option Order) :
    Fails P Explained (firstPoll client id cid initial) := by
  cases initial with
  | none => exact pollOrder_fails id cid
  | some found => exact Fails.answer found

theorem readClock_fails : Fails P Explained (readClock client) := fun _ _ _ failed => nomatch failed

theorem cancelRequest_fails (id : String) : Fails P Explained (cancelRequest client id) :=
  Fails.handle (Fails.within Fails.any) fun _ _ => Fails.answer _

theorem readClock_soon [Add Time] (soon : Soon client left polls timeout) :
    Triple (fun _ => True) (readClock client)
      (fun now s => left (now + timeout) s.exchange < polls) fun _ => True :=
  fun s _ => soon s.exchange

variable [LinearOrder Time] [OfScientific Time]

/-- A clock read before the deadline shows that a sleep was left. -/
theorem Ticking.read (ticking : Ticking client left) :
    Triple (fun s => left deadline s.exchange < polls + 1) (readClock client)
      (fun now s => (now < deadline → 0 < polls) ∧ left deadline s.exchange < polls + 1)
      fun _ => True := by
  intro s bound
  refine ⟨fun before => ?_, (ticking.calm deadline (polls + 1)).clock s bound⟩
  by_contra none
  have now := ticking.passed deadline s.exchange (by omega)
  exact absurd before (not_lt.mpr now)

omit [OfScientific Time] in
/-- The sleep taken before the deadline leaves one poll fewer. -/
theorem Ticking.sleeps {seconds now : Time}
    (closer : ∀ s, left deadline (client.sleep seconds s) ≤ left deadline s - 1)
    (before : now < deadline) :
    Triple (fun s => (now < deadline → 0 < polls) ∧ left deadline s.exchange < polls + 1)
      (pause client seconds) (fun _ s => left deadline s.exchange < polls) fun _ => True := by
  rintro s ⟨sleeps, bound⟩
  have some := sleeps before
  have less := closer s.exchange
  show left deadline (client.sleep seconds s.exchange) < polls
  omega

theorem pollLoop_fails (ticking : Ticking client left) (id : String) (cid : Option String)
    (found : Order) :
    Fails (fun s => left deadline s.exchange < polls) Explained
      (pollLoop client id cid deadline polls found) := by
  induction polls generalizing found with
  | zero => exact fun s impossible => absurd impossible (Nat.not_lt_zero _)
  | succ polls ih =>
      have calm := ticking.calm deadline polls
      refine Fails.ite (fun _ => Fails.answer _) fun _ => ?_
      refine Fails.bind readClock_fails ticking.read fun now => ?_
      refine Fails.ite (fun _ => Fails.answer _) fun before => ?_
      refine Fails.bind (Fails.change _)
        (Ticking.sleeps (ticking.half deadline) (not_le.mp before)) fun _ => ?_
      exact Fails.bind (pollOrder_fails id cid) (pollOrder_keeps calm id cid).reached ih

theorem resolveLoop_fails (ticking : Ticking client left) {found : Order} {stable : ℕ}
    {prior : Option Snapshot} :
    Fails (fun s => left deadline s.exchange < polls) Explained
      (resolveLoop client intent deadline polls found stable prior) := by
  induction polls generalizing found stable prior with
  | zero => exact fun s impossible => absurd impossible (Nat.not_lt_zero _)
  | succ polls ih =>
      have calm := ticking.calm deadline
      refine Fails.bind (pollFills_fails _) (pollFills_keeps (calm _) _).reached fun sums => ?_
      refine Fails.bind (authoritativePosition_fails _ _)
        (authoritativePosition_keeps (calm _) _ _).reached fun post => ?_
      refine Fails.bind (S := fun _ s => left deadline s.exchange < polls + 1) (Fails.change _)
        (fun _ bound => bound) fun _ => ?_
      refine Fails.bind (Fails.except (amount_explained coherent_signals)) (Keeps.except _).reached fun agreed => ?_
      refine Fails.ite (fun _ => Fails.answer _) fun _ => ?_
      refine Fails.bind readClock_fails ticking.read fun now => ?_
      refine Fails.ite (fun _ => Fails.raise trivial) fun before => ?_
      refine Fails.bind (Fails.change _)
        (Ticking.sleeps (ticking.quarter deadline) (not_le.mp before)) fun _ => ?_
      exact Fails.bind (pollOrder_fails _ _) (pollOrder_keeps (calm _) _ _).reached fun _ => ih

variable [Add Time]

theorem pollTerminal_fails (ticking : Ticking client left) (soon : Soon client left polls timeout)
    (id : String) (cid : Option String) (initial : Option Order) :
    Fails (fun _ => True) Explained (pollTerminal client polls id timeout cid initial) := by
  refine Fails.bind readClock_fails (readClock_soon soon) fun now => ?_
  exact Fails.bind (firstPoll_fails id cid initial)
    (firstPoll_keeps (ticking.calm _ _) id cid initial).reached (pollLoop_fails ticking id cid)

theorem cancelToTerminal_fails (ticking : Ticking client left)
    (soon : Soon client left polls timeout) (id : String) (cid : Option String)
    (initial : Option Order) :
    Fails (fun _ => True) Explained (cancelToTerminal client polls id timeout cid initial) := by
  refine Fails.sequence (firstPoll_fails id cid initial) fun found => ?_
  refine Fails.ite (fun _ => Fails.answer _) fun _ => ?_
  refine Fails.sequence (cancelRequest_fails id) fun cancelError => ?_
  refine Fails.sequence (pollTerminal_fails ticking soon id cid _) fun last => ?_
  exact Fails.ite (fun _ => Fails.answer _) fun _ => Fails.raise trivial

/-- Under such a clock a resolution that fails has reported why. -/
theorem resolve_fails (ticking : Ticking client left) (soon : Soon client left polls timeout)
    (initial : Order) :
    Fails (fun _ => True) Explained (resolve client polls intent timeout initial) :=
  Fails.bind readClock_fails (readClock_soon soon) fun _ => resolveLoop_fails ticking

end Ending

end

end Inci.Trading
