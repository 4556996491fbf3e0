/-
# Trading.Restart -- the strict check before trading

`Reconciler.startup` resolves every order the journal shows without an outcome,
cancels every order left at the exchange, and refuses to start unless nothing
was filled, nothing is left open or unapplied, and the account is flat twice.  It
collects the failures of the single orders and raises them together.

`startup_verified`: a startup that returns has only added outcomes of zero fills,
each seen in two observations in a row, and has left no order unresolved and no
fill unapplied.  `startup_raises` says that it ends.
-/
import Inci.Trading.OrderResolution

namespace Inci.Trading

open Inci.Theory Effect

set_option autoImplicit false

/-- The messages of `ExposureError`, with the values they name. -/
inductive ExposureError where
  | lacksEvidence (clientOrderId : Option String) (missing : List String)
  | resolution (error : ResolutionError)
  | filledWhileDown (orderId : String) (filled : Decimal)
  | strayFilled (orderId : String) (order first second : Decimal)
  | positionFetch (cause : ClientError)
  | duplicatePosition (ticker : String)
  | held (positions : List (String × Decimal))

/-- What `_drain_orders` and `startup` collect. -/
inductive DrainError where
  | journal (clientOrderId : Option String) (error : ExposureError)
  | listing (cause : ClientError)
  | order (orderId : String) (error : ExposureError)
  | stillOpen (orderIds : List String)
  | finalListing (cause : ClientError)
  | unresolved (clientOrderIds : List (Option String))
  | unapplied (orderIds : List (Option String))
  | notFlat (error : ExposureError)

/-- What stops a startup: an exposure, the collected errors, a decimal signal, or
the end of the polls. -/
inductive StartupError where
  | exposure (error : ExposureError)
  | failed (errors : List DrainError)
  | engine (error : EngineError)
  | unfinished

/-- The configuration the reconciler reads. -/
structure ReconcileConfig (Time : Type) where
  cancelTimeoutS : Time
  reconcileTimeoutS : Time

/-- The exchange and the journal after a restart. -/
structure Books (σ : Type) where
  session : Session σ
  journal : List JournalEntry

abbrev Reconcile (σ : Type) := Effect (Books σ) StartupError

def Books.place {σ : Type} (w : Books σ) (session : Session σ) : Books σ :=
  { w with session := session }

/-! ## The evidence of an entry -/

def JournalEntry.missing (e : JournalEntry) : List String :=
  (if e.orderId.isNone then ["order_id"] else []) ++
    (if e.clientOrderId.isNone then ["client_order_id"] else []) ++
    (if e.ticker.isNone then ["ticker"] else []) ++
    (if e.side.isNone then ["side"] else []) ++
    (if e.count.isNone then ["count"] else []) ++
    (if e.prePosition.isNone then ["pre_position"] else []) ++
    (if e.ackFill.isNone then ["ack_fill"] else []) ++
    (if e.ackRemaining.isNone then ["ack_remaining"] else [])

/-- `Reconciler._intent` -/
def JournalEntry.intent (e : JournalEntry) : Except StartupError OrderIntent :=
  match e.orderId, e.clientOrderId, e.ticker, e.side, e.count, e.prePosition, e.ackFill,
    e.ackRemaining with
  | some orderId, some clientOrderId, some ticker, some side, some count, some prePosition,
      some ackFill, some ackRemaining =>
      pure ⟨orderId, clientOrderId, ticker, side, count, prePosition, ackFill, ackRemaining⟩
  | _, _, _, _, _, _, _, _ => throw (.exposure (.lacksEvidence e.clientOrderId e.missing))

section

variable {σ Time : Type} [LinearOrder Time] [Add Time] [OfScientific Time]
variable (client : Client σ Time) (cfg : ReconcileConfig Time) (polls : ℕ)

/-- `except ResolutionError as e: raise ExposureError(str(e)) from e` -/
def exposed : Trouble → StartupError
  | .resolution error => .exposure (.resolution error)
  | .engine error => .engine error
  | .unfinished => .unfinished

def resolving {α : Type} (m : Resolver σ α) : Reconcile σ α :=
  (within Books.session Books.place m).handle fun trouble => throw (exposed trouble)

/-- A request outside the resolver. -/
def request {α : Type} (m : Effect σ ClientError α) (report : ClientError → StartupError) :
    Reconcile σ α :=
  (within (fun w : Books σ => w.session.exchange) (fun w s => w.place (w.session.place s)) m).handle
    fun cause => throw (report cause)

def record (e : JournalEntry) : Reconcile σ Unit :=
  modify fun w => { w with journal := w.journal ++ [e] }

/-! ## Single orders -/

/-- `Reconciler._resolve_journaled` -/
def resolveJournaled (e : JournalEntry) : Reconcile σ Unit := do
  let intent ← ofExcept e.intent
  let found ← resolving (pollOrder client intent.orderId (some intent.clientOrderId))
  let last ← resolving (cancelToTerminal client polls intent.orderId cfg.cancelTimeoutS
    (some intent.clientOrderId) (some found))
  let result ← resolving (resolve client polls intent cfg.reconcileTimeoutS last)
  let canceled ← ofExcept ((canceledCount result).mapError StartupError.engine)
  record (outcomeEntry intent result canceled true)
  if result.filled ≠ 0 then throw (.exposure (.filledWhileDown intent.orderId result.filled))
  else pure ()

/-- `Reconciler._cancel_stray` -/
def cancelStray (found : Order) : Reconcile σ Unit := do
  let last ← resolving (cancelToTerminal client polls found.orderId cfg.cancelTimeoutS none
    (some found))
  let (_, first, _) ← resolving (pollFills client found.orderId)
  resolving (pause client 0.25)
  let (_, second, _) ← resolving (pollFills client found.orderId)
  if first ≠ 0 ∨ second ≠ 0 ∨ last.fillCount ≠ 0 then
    throw (.exposure (.strayFilled found.orderId last.fillCount first second))
  else pure ()

/-- `except ExposureError as e: errors.append(...)` -/
def collecting (m : Reconcile σ Unit) (report : ExposureError → DrainError) :
    Reconcile σ (List DrainError) :=
  Effect.handle (m >>= fun _ => pure []) fun
    | .exposure error => pure [report error]
    | other => throw other

def drainJournal : List JournalEntry → Reconcile σ (List DrainError)
  | [] => pure []
  | e :: rest => do
      let errors ← collecting (resolveJournaled client cfg polls e) (.journal e.clientOrderId)
      let others ← drainJournal rest
      pure (errors ++ others)

def drainStrays : List Order → Reconcile σ (List DrainError)
  | [] => pure []
  | found :: rest => do
      let errors ← collecting (cancelStray client cfg polls found) (.order found.orderId)
      let others ← drainStrays rest
      pure (errors ++ others)

/-! ## The whole account -/

/-- The open orders, or the error of their listing. -/
def listOpen : Reconcile σ (Except ClientError (List Order)) := fun w =>
  (.ok (runFrom client.getOpenOrders w.session.exchange).1,
    w.place (w.session.place (runFrom client.getOpenOrders w.session.exchange).2))

def ended (journal : List JournalEntry) : List DrainError :=
  (if unresolved journal = [] then []
    else [.unresolved ((unresolved journal).map JournalEntry.clientOrderId)]) ++
  (if unappliedOutcomes journal = [] then []
    else [.unapplied ((unappliedOutcomes journal).map JournalEntry.orderId)])

/-- The error of the first listing, and the orders to cancel. -/
def listing : Except ClientError (List Order) → List DrainError × List Order
  | .ok orders => ([], orders)
  | .error cause => ([.listing cause], [])

/-- What the final listing still finds. -/
def leftOpen : Except ClientError (List Order) → List DrainError
  | .ok [] => []
  | .ok orders => [.stillOpen (orders.map Order.orderId)]
  | .error cause => [.finalListing cause]

/-- `Reconciler._drain_orders` -/
def drainOrders : Reconcile σ (List DrainError) := do
  let w ← get
  let journaled ← drainJournal client cfg polls (unresolved w.journal)
  let orders ← listOpen client
  let canceled ← drainStrays client cfg polls (listing orders).2
  let remaining ← listOpen client
  let w ← get
  pure (journaled ++ (listing orders).1 ++ canceled ++ leftOpen remaining ++ ended w.journal)

def positionsOf : List PositionRow → List (String × Decimal) →
    Except StartupError (List (String × Decimal))
  | [], out => pure out
  | row :: rest, out =>
      if row.ticker ∈ Dict.keys out then throw (.exposure (.duplicatePosition row.ticker))
      else positionsOf rest (Dict.put out row.ticker row.position)

/-- `Reconciler._positions` -/
def accountPositions : Reconcile σ (List (String × Decimal)) := do
  let rows ← request client.getPositions fun cause => .exposure (.positionFetch cause)
  ofExcept (positionsOf rows [])

/-- `Reconciler._require_flat_stable` -/
def requireFlatStable : Reconcile σ Unit := do
  let first ← accountPositions client
  resolving (pause client 0.25)
  let second ← accountPositions client
  match second, first with
  | [], [] => pure ()
  | [], first => throw (.exposure (.held first))
  | second, _ => throw (.exposure (.held second))

/-- `Reconciler.startup` -/
def startup : Reconcile σ Unit := do
  let drained ← drainOrders client cfg polls
  let flat ← collecting (requireFlatStable client) .notFlat
  if drained ++ flat = [] then pure ()
  else throw (.failed (drained ++ flat))

end

/-! ## What a startup has verified -/

section

variable {σ Time : Type} {client : Client σ Time} {cfg : ReconcileConfig Time} {polls : ℕ}
variable {before : List JournalEntry} {clean : Prop} {w : Books σ}

/-- An outcome recorded on startup of an order that was not filled, with two
observations in a row that show it. -/
def VerifiedZero (observed : List (String × Snapshot)) (e : JournalEntry) : Prop :=
  ∃ intent result canceled, e = outcomeEntry intent result canceled true ∧ result.filled = 0 ∧
    Confirmed observed intent result

/-- Only outcomes have been added to the journal, and where all has gone well they
are verified zero fills. -/
def Drained (before : List JournalEntry) (clean : Prop) (w : Books σ) : Prop :=
  ∃ added, w.journal = before ++ added ∧ (∀ e ∈ added, e.event = .outcome) ∧
    (clean → ∀ e ∈ added, VerifiedZero w.session.observed e)

theorem VerifiedZero.grows {observed later : List (String × Snapshot)} {e : JournalEntry}
    (verified : VerifiedZero observed e) (grown : observed <+: later) : VerifiedZero later e := by
  obtain ⟨intent, result, canceled, rfl, zero, confirmed⟩ := verified
  exact ⟨intent, result, canceled, rfl, zero, confirmed.grows grown⟩

theorem Drained.weaken {worse : Prop} (drained : Drained before clean w) (less : worse → clean) :
    Drained before worse w := by
  obtain ⟨added, journal, outcomes, zero⟩ := drained
  exact ⟨added, journal, outcomes, fun holds => zero (less holds)⟩

theorem Drained.place {session : Session σ} (drained : Drained before clean w)
    (grown : w.session.observed <+: session.observed) :
    Drained before clean (w.place session) := by
  obtain ⟨added, journal, outcomes, zero⟩ := drained
  exact ⟨added, journal, outcomes, fun holds e member => (zero holds e member).grows grown⟩

theorem Drained.record {intent : OrderIntent} {result : Resolution} {canceled : Decimal}
    (drained : Drained before clean w) (confirmed : Confirmed w.session.observed intent result) :
    Drained before (clean ∧ result.filled = 0)
      { w with journal := w.journal ++ [outcomeEntry intent result canceled true] } := by
  obtain ⟨added, journal, outcomes, zero⟩ := drained
  refine ⟨added ++ [outcomeEntry intent result canceled true], by simp [journal], ?_, ?_⟩
  · intro e member
    rcases List.mem_append.mp member with old | new
    · exact outcomes e old
    · rw [List.mem_singleton.mp new]
      rfl
  · rintro ⟨holds, unfilled⟩ e member
    rcases List.mem_append.mp member with old | new
    · exact zero holds e old
    · exact ⟨intent, result, canceled, List.mem_singleton.mp new, unfilled, confirmed⟩

/-- A property of the books that more observations leave true. -/
def Observing (K : Books σ → Prop) : Prop :=
  ∀ w session, K w → w.session.observed <+: session.observed → K (w.place session)

theorem observing_drained : Observing fun w : Books σ => Drained before clean w :=
  fun _ _ drained grown => drained.place grown

section Observing

variable {K : Books σ → Prop}

theorem resolving_keeps {α : Type} {m : Resolver σ α} (observing : Observing K)
    (grows : ∀ start, Keeps (fun s => start <+: s.observed) m) : Keeps K (resolving m) := by
  refine Keeps.handle (Keeps.within fun w holds => ?_) fun _ => Keeps.raise _
  refine (grows w.session.observed).weaken ?_ (fun _ s grown => observing w s holds grown)
    fun s grown => observing w s holds grown
  rintro _ rfl
  exact List.prefix_rfl

theorem request_keeps {α : Type} {m : Effect σ ClientError α} {report : ClientError → StartupError}
    (observing : Observing K) : Keeps K (request m report) := by
  refine Keeps.handle (Keeps.within fun w holds => ?_) fun _ => Keeps.raise _
  rintro s rfl
  cases runFrom m w.session.exchange with
  | mk result s => cases result <;> exact observing w _ holds List.prefix_rfl

theorem listOpen_keeps (observing : Observing K) : Keeps K (listOpen client) :=
  fun w holds => observing w _ holds List.prefix_rfl

theorem collecting_keeps {m : Reconcile σ Unit} {report : ExposureError → DrainError}
    (kept : Keeps K m) : Keeps K (collecting m report) := by
  refine Keeps.handle (Keeps.bind kept fun _ => Keeps.answer _) fun error => ?_
  cases error with
  | exposure error => exact Keeps.answer _
  | failed errors => exact Keeps.raise _
  | engine error => exact Keeps.raise _
  | unfinished => exact Keeps.raise _

theorem requireFlatStable_keeps [OfScientific Time] (observing : Observing K) :
    Keeps K (requireFlatStable client) := by
  have positions : Keeps K (accountPositions client) :=
    Keeps.bind (request_keeps observing) fun rows => Keeps.except _
  refine Keeps.bind positions fun first => ?_
  refine Keeps.bind (resolving_keeps observing fun start => pause_quiet (J := (start <+: ·)) _)
    fun _ => ?_
  refine Keeps.bind positions fun second => ?_
  split
  · exact Keeps.answer _
  · exact Keeps.raise _
  · exact Keeps.raise _

variable [LinearOrder Time] [Add Time] [OfScientific Time]

theorem cancelStray_keeps (observing : Observing K) (found : Order) :
    Keeps K (cancelStray client cfg polls found) := by
  have fills : Keeps K (resolving (pollFills client found.orderId)) :=
    resolving_keeps observing fun start => pollFills_keeps (calm_of_observed (start <+: ·)) _
  refine Keeps.bind (resolving_keeps observing fun start =>
    cancelToTerminal_quiet (J := (start <+: ·)) _ _ _ _) fun last => ?_
  refine Keeps.bind fills fun first => ?_
  refine Keeps.bind (resolving_keeps observing fun start => pause_quiet (J := (start <+: ·)) _)
    fun _ => ?_
  refine Keeps.bind fills fun second => ?_
  exact Keeps.ite (fun _ => Keeps.raise _) fun _ => Keeps.answer _

theorem drainStrays_keeps (observing : Observing K) (orders : List Order) :
    Keeps K (drainStrays client cfg polls orders) := by
  induction orders with
  | nil => exact Keeps.answer _
  | cons found rest ih =>
      refine Keeps.bind (collecting_keeps (cancelStray_keeps observing found)) fun errors => ?_
      exact Keeps.bind ih fun others => Keeps.answer _

end Observing

/-- Collected errors are no longer clean. -/
theorem collecting_drained {m : Reconcile σ Unit} {report : ExposureError → DrainError}
    (drains : Triple (Drained before clean) m (fun _ => Drained before clean)
      (Drained before False)) :
    Triple (Drained before clean) (collecting m report)
      (fun errors => Drained before (clean ∧ errors = [])) fun _ => True := by
  refine Triple.handle (S := Drained before False) (Triple.bind drains fun _ => ?_) fun error => ?_
  · exact fun w drained => drained.weaken And.left
  · cases error with
    | exposure error => exact fun w drained => drained.weaken fun holds => nomatch holds.2
    | failed errors => exact fun _ _ => trivial
    | engine error => exact fun _ _ => trivial
    | unfinished => exact fun _ _ => trivial

/-- What a startup that returns leaves: the added outcomes are verified zero fills
and nothing is unresolved or unapplied. -/
def Settled (before : List JournalEntry) (w : Books σ) : Prop :=
  Drained before True w ∧ unresolved w.journal = [] ∧ unappliedOutcomes w.journal = []

theorem observing_settled : Observing fun w : Books σ => Settled before w :=
  fun _ _ settled grown => ⟨settled.1.place grown, settled.2⟩

section Draining

variable [LinearOrder Time] [Add Time] [OfScientific Time]

theorem resolving_confirmed (intent : OrderIntent) (last : Order) :
    Triple (Drained before clean)
      (resolving (resolve client polls intent cfg.reconcileTimeoutS last))
      (fun result w => Drained before clean w ∧ Confirmed w.session.observed intent result)
      (Drained before clean) := by
  refine Triple.handle (S := Drained before clean) (Triple.within fun w drained => ?_)
    fun _ => Triple.raise _
  refine resolve_confirmed.weaken (fun s same => ?_)
    (fun result s reached => ⟨drained.place reached.1, reached.2⟩) fun s grown => drained.place grown
  subst same
  exact List.prefix_rfl

theorem resolveJournaled_drained (e : JournalEntry) :
    Triple (Drained before clean) (resolveJournaled client cfg polls e)
      (fun _ => Drained before clean) (Drained before False) := by
  have dirty (w : Books σ) (drained : Drained before clean w) : Drained before False w :=
    drained.weaken False.elim
  refine Triple.except_bind (fun intent _ => ?_) dirty
  have polled : Keeps (Drained before clean) (resolving
      (pollOrder client intent.orderId (some intent.clientOrderId))) :=
    resolving_keeps observing_drained fun start => pollOrder_keeps (calm_of_observed (start <+: ·)) _ _
  refine polled.before dirty fun found => ?_
  have canceled : Keeps (Drained before clean) (resolving (cancelToTerminal client polls
      intent.orderId cfg.cancelTimeoutS (some intent.clientOrderId) (some found))) :=
    resolving_keeps observing_drained fun start => cancelToTerminal_quiet (J := (start <+: ·)) _ _ _ _
  refine canceled.before dirty fun last => ?_
  refine Triple.bind ((resolving_confirmed intent last).weaken (fun _ drained => drained)
    (fun _ _ reached => reached) dirty) fun result => ?_
  refine Triple.except_bind (fun count _ => ?_) fun w reached => dirty w reached.1
  refine Triple.pointwise fun w reached => Triple.modify_bind ?_
  have recorded : Drained before (clean ∧ result.filled = 0)
      { w with journal := w.journal ++ [outcomeEntry intent result count true] } :=
    reached.1.record reached.2
  refine Triple.ite (fun filled => ?_) fun unfilled => ?_
  · rintro _ rfl
    exact recorded.weaken False.elim
  · rintro _ rfl
    exact recorded.weaken fun holds => ⟨holds, not_not.mp unfilled⟩

theorem drainJournal_drained (entries : List JournalEntry) :
    Triple (Drained before clean) (drainJournal client cfg polls entries)
      (fun errors => Drained before (clean ∧ errors = [])) fun _ => True := by
  induction entries generalizing clean with
  | nil => exact fun w drained => drained.weaken And.left
  | cons e rest ih =>
      refine Triple.bind (collecting_drained (resolveJournaled_drained e)) fun errors => ?_
      refine Triple.bind ih fun others => ?_
      refine fun w drained => drained.weaken fun holds => ?_
      obtain ⟨rfl, rfl⟩ := List.append_eq_nil_iff.mp holds.2
      exact ⟨⟨holds.1, rfl⟩, rfl⟩

theorem ended_eq_nil {journal : List JournalEntry} (none : ended journal = []) :
    unresolved journal = [] ∧ unappliedOutcomes journal = [] := by
  unfold ended at none
  obtain ⟨resolved, applied⟩ := List.append_eq_nil_iff.mp none
  exact ⟨of_not_not fun some => by simp [some] at resolved,
    of_not_not fun some => by simp [some] at applied⟩

theorem drainOrders_settled :
    Triple (fun w => w.journal = before) (drainOrders client cfg polls)
      (fun errors w => errors = [] → Settled before w) fun _ => True := by
  refine Triple.get_bind fun w₀ same => ?_
  subst same
  have drained : Triple (fun w => w = w₀) (drainJournal client cfg polls (unresolved w₀.journal))
      (fun errors => Drained w₀.journal (True ∧ errors = [])) fun _ => True :=
    (drainJournal_drained _).starting
      ⟨[], by simp, fun _ member => absurd member List.not_mem_nil,
        fun _ _ member => absurd member List.not_mem_nil⟩
  refine Triple.bind drained fun journaled => ?_
  refine (listOpen_keeps observing_drained).before (fun _ _ => trivial) fun orders => ?_
  refine (drainStrays_keeps observing_drained _).before (fun _ _ => trivial) fun canceled => ?_
  refine (listOpen_keeps observing_drained).before (fun _ _ => trivial) fun remaining => ?_
  refine Triple.get_bind fun w drained => Triple.answer_from fun clean => ?_
  simp only [List.append_eq_nil_iff] at clean
  exact ⟨drained.weaken fun _ => ⟨trivial, clean.1.1.1.1⟩, ended_eq_nil clean.2⟩

theorem startup_settled :
    Triple (fun w => w.journal = before) (startup client cfg polls) (fun _ => Settled before)
      fun _ => True := by
  refine Triple.bind drainOrders_settled fun drained => ?_
  by_cases none : drained = []
  · subst none
    have flat : Triple (fun w => [] = ([] : List DrainError) → Settled before w)
        (collecting (requireFlatStable client) .notFlat) (fun _ => Settled before) fun _ => True :=
      (collecting_keeps (requireFlatStable_keeps observing_settled)).reached.weaken
        (fun _ settled => settled rfl) (fun _ _ settled => settled) fun _ _ => trivial
    refine Triple.bind flat fun errors => Triple.ite (fun _ => fun _ settled => settled) fun _ => ?_
    exact fun _ _ => trivial
  · refine Triple.bind Triple.total fun errors => Triple.ite (fun clean => ?_) fun _ => ?_
    · exact absurd (List.append_eq_nil_iff.mp clean).1 none
    · exact fun _ _ => trivial

variable {w' : Books σ}

theorem startup_verified (started : runFrom (startup client cfg polls) w = (.ok (), w')) :
    Settled w.journal w' := by
  have triple : Triple (fun t => t.journal = w.journal) (startup client cfg polls)
      (fun _ => Settled w.journal) fun _ => True := startup_settled
  have settled := triple w rfl
  rw [started] at settled
  exact settled

/-- Every unresolved order of the journal has been resolved to a verified zero fill. -/
theorem startup_resolves (started : runFrom (startup client cfg polls) w = (.ok (), w'))
    {u : JournalEntry} (pending : u ∈ unresolved w.journal) :
    ∃ e ∈ w'.journal, e.clientOrderId = u.clientOrderId ∧ VerifiedZero w'.session.observed e := by
  obtain ⟨⟨added, journal, outcomes, zero⟩, resolved, _⟩ := startup_verified started
  obtain ⟨⟨sent, member, submitted, same⟩, open'⟩ := unresolved_open pending
  have there : sent ∈ w'.journal := journal ▸ List.mem_append_left _ member
  obtain ⟨d, place, done, sameId⟩ := done_of_resolved resolved there submitted
  rw [same] at sameId
  rw [journal] at place
  rcases List.mem_append.mp place with old | new
  · exact absurd sameId (open' d old done)
  · exact ⟨d, journal ▸ place, sameId, zero trivial d new⟩

/-- No startup returns over a filled outcome that is not applied. -/
theorem startup_unapplied (blocked : unappliedOutcomes w.journal ≠ []) :
    runFrom (startup client cfg polls) w ≠ (.ok (), w') := by
  intro started
  obtain ⟨⟨added, journal, outcomes, _⟩, _, applied⟩ := startup_verified started
  refine unapplied_persists blocked (fun e member applied => ?_) (journal ▸ applied)
  exact nomatch (outcomes e member).symm.trans applied

end Draining

/-! ## The end of a startup -/

def Raised (error : StartupError) : Prop := error ≠ .unfinished

section Ending

variable {left : Time → σ → ℕ} {P : Books σ → Prop}

theorem exposed_raised {trouble : Trouble} (reported : Reported trouble) :
    Raised (exposed trouble) := by
  cases trouble with
  | resolution error => exact fun same => nomatch same
  | engine error => exact fun same => nomatch same
  | unfinished => exact absurd rfl reported

theorem resolving_fails {α : Type} {m : Resolver σ α} (fails : Fails (fun _ => True) Explained m) :
    Fails P Raised (resolving m) :=
  Fails.handle (Fails.within fails) fun _ explained =>
    Fails.raise (exposed_raised explained.reported)

theorem request_fails {α : Type} {m : Effect σ ClientError α} {report : ClientError → StartupError}
    (raised : ∀ cause, Raised (report cause)) : Fails P Raised (request m report) :=
  Fails.handle (Fails.within Fails.any) fun cause _ => Fails.raise (raised cause)

theorem collecting_fails {m : Reconcile σ Unit} {report : ExposureError → DrainError}
    (fails : Fails (fun _ => True) Raised m) : Fails P Raised (collecting m report) := by
  refine Fails.handle (Fails.sequence fails fun _ => Fails.answer _) fun error raised => ?_
  cases error with
  | exposure error => exact Fails.answer _
  | failed errors => exact Fails.raise raised
  | engine error => exact Fails.raise raised
  | unfinished => exact Fails.raise raised

theorem positionsOf_raised {rows : List PositionRow} {out : List (String × Decimal)} :
    ∀ e, positionsOf rows out = .error e → Raised e := by
  induction rows generalizing out with
  | nil => exact fun e failed => nomatch failed
  | cons row rest ih =>
      intro e failed
      unfold positionsOf at failed
      split_ifs at failed
      · cases failed
        exact fun same => nomatch same
      · exact ih e failed

theorem intent_raised {entry : JournalEntry} : ∀ e, entry.intent = .error e → Raised e := by
  intro e failed
  unfold JournalEntry.intent at failed
  split at failed
  · cases failed
  · cases failed
    exact fun same => nomatch same

theorem requireFlatStable_fails [OfScientific Time] :
    Fails P Raised (requireFlatStable client) := by
  have positions {P : Books σ → Prop} : Fails P Raised (accountPositions client) :=
    Fails.sequence (request_fails fun _ same => nomatch same) fun rows =>
      Fails.except positionsOf_raised
  refine Fails.sequence positions fun first => ?_
  refine Fails.sequence (resolving_fails (Fails.change _)) fun _ => ?_
  refine Fails.sequence positions fun second => ?_
  split
  · exact Fails.answer _
  · exact Fails.raise fun same => nomatch same
  · exact Fails.raise fun same => nomatch same

variable [LinearOrder Time] [Add Time] [OfScientific Time]

theorem resolveJournaled_fails (ticking : Ticking client left)
    (cancels : Soon client left polls cfg.cancelTimeoutS)
    (reconciles : Soon client left polls cfg.reconcileTimeoutS) (e : JournalEntry) :
    Fails P Raised (resolveJournaled client cfg polls e) := by
  refine Fails.sequence (Fails.except intent_raised) fun intent => ?_
  refine Fails.sequence (resolving_fails (pollOrder_fails _ _)) fun found => ?_
  refine Fails.sequence (resolving_fails (cancelToTerminal_fails ticking cancels _ _ _))
    fun last => ?_
  refine Fails.sequence (resolving_fails (resolve_fails ticking reconciles last)) fun result => ?_
  refine Fails.sequence (Fails.except fun e failed => ?_) fun canceled => ?_
  · cases counted : canceledCount result with
    | ok count => rw [counted] at failed; cases failed
    | error error =>
        rw [counted] at failed
        cases failed
        exact fun same => nomatch same
  refine Fails.sequence (Fails.change _) fun _ => ?_
  exact Fails.ite (fun _ => Fails.raise fun same => nomatch same) fun _ => Fails.answer _

theorem cancelStray_fails (ticking : Ticking client left)
    (cancels : Soon client left polls cfg.cancelTimeoutS) (found : Order) :
    Fails P Raised (cancelStray client cfg polls found) := by
  refine Fails.sequence (resolving_fails (cancelToTerminal_fails ticking cancels _ _ _))
    fun last => ?_
  refine Fails.sequence (resolving_fails (pollFills_fails _)) fun first => ?_
  refine Fails.sequence (resolving_fails (Fails.change _)) fun _ => ?_
  refine Fails.sequence (resolving_fails (pollFills_fails _)) fun second => ?_
  exact Fails.ite (fun _ => Fails.raise fun same => nomatch same) fun _ => Fails.answer _

/-- Under a clock that reaches its deadlines a startup ends: it returns or it raises. -/
theorem startup_raises (ticking : Ticking client left)
    (cancels : Soon client left polls cfg.cancelTimeoutS)
    (reconciles : Soon client left polls cfg.reconcileTimeoutS) :
    Fails P Raised (startup client cfg polls) := by
  have journaled {P : Books σ → Prop} (entries : List JournalEntry) :
      Fails P Raised (drainJournal client cfg polls entries) := by
    induction entries generalizing P with
    | nil => exact Fails.answer _
    | cons e rest ih =>
        refine Fails.sequence (collecting_fails
          (resolveJournaled_fails ticking cancels reconciles e)) fun errors => ?_
        exact Fails.sequence ih fun others => Fails.answer _
  have strays {P : Books σ → Prop} (orders : List Order) :
      Fails P Raised (drainStrays client cfg polls orders) := by
    induction orders generalizing P with
    | nil => exact Fails.answer _
    | cons found rest ih =>
        refine Fails.sequence (collecting_fails (cancelStray_fails ticking cancels found))
          fun errors => ?_
        exact Fails.sequence ih fun others => Fails.answer _
  have listed {P : Books σ → Prop} : Fails P Raised (listOpen client) :=
    fun _ _ _ failed => nomatch failed
  have drained {P : Books σ → Prop} : Fails P Raised (drainOrders client cfg polls) := by
    refine Fails.sequence Fails.read fun w => Fails.sequence (journaled _) fun errors => ?_
    refine Fails.sequence listed fun orders => Fails.sequence (strays _) fun canceled => ?_
    exact Fails.sequence listed fun remaining => Fails.sequence Fails.read fun w => Fails.answer _
  refine Fails.sequence drained fun errors => ?_
  refine Fails.sequence (collecting_fails requireFlatStable_fails) fun flat => ?_
  exact Fails.ite (fun _ => Fails.answer _) fun _ => Fails.raise fun same => nomatch same

end Ending

end

end Inci.Trading
