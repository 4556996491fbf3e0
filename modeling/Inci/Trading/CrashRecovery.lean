/-
# Trading.CrashRecovery -- no live order is lost across a crash

A live order passes through stages, each reached by one more durable effect, so a
crash after any prefix of the effects leaves it in a stage (`Reached.crash`).  In
every stage in which the exchange may hold the order, the journal shows it: as
unresolved, as a recorded zero fill, as an unapplied fill, or as applied with
`record_fill` done (`Reached.covered`).

`liveOrder_reached`: the program passes through the stages.  With what a startup
verifies this is `live_order_survives_crash`.
-/
import Inci.Trading.LiveOrder
import Inci.Trading.Restart

namespace Inci.Trading

open Inci.Theory Effect

set_option autoImplicit false

section

variable {σ Time Day : Type}

/-! ## What a crash leaves -/

/-- The lines of the journal among the effects. -/
def lines (effects : List (LiveEffect Time Day)) : List JournalEntry :=
  effects.filterMap fun
    | .journal entry => some entry
    | _ => none

/-- The ledger file after the effects. -/
def ledgerFile (start : PnlFile Time Day) (effects : List (LiveEffect Time Day)) :
    PnlFile Time Day :=
  effects.foldl (fun file effect => match effect with
    | .ledger later => later
    | _ => file) start

/-! ## Stages -/

inductive Stage where
  | idle
  | submitted
  | offered (accepted : Bool)
  | acked (accepted : Bool) (ack : CreateAck)
  | settled (accepted : Bool) (ack : CreateAck) (fill : Fill)
  | booked (accepted : Bool) (ack : CreateAck) (fill : Fill)
  | recorded (accepted : Bool) (ack : CreateAck) (fill : Fill)
  | applied (accepted : Bool) (ack : CreateAck) (fill : Fill)

/-- The outcome line of an acknowledged order with this fill. -/
structure IsOutcome (cid : String) (ack : CreateAck) (fill : Fill) (e : JournalEntry) : Prop where
  event : e.event = .outcome
  clientOrderId : e.clientOrderId = some cid
  orderId : e.orderId = some ack.orderId
  filled : e.filled = some fill.filled
  avgPrice : e.avgPrice = some fill.price
  fee : e.fee = some fill.fee

section

variable [LinearOrder Time] [Zero Time] [DecidableEq Day]
variable (utcDay : Time → Option Day) (start : DailyStrategy Time Day)

/-- `record_fill` of the order's fill has returned, and left this ledger file. -/
def Completed (ack : CreateAck) (fill : Fill) (call : LedgerCall Time) (file : PnlFile Time Day) :
    Prop :=
  call.eventId = some ack.orderId ∧ call.fill = fill ∧
    ∃ after, runFrom (call.recordFill utcDay) start = (.ok (), after) ∧ after.file = file

/-- The effects by which an order under the client order id `cid` reaches its stages. -/
inductive Reached (issued : CreateAck → Prop) (cid : String) :
    Stage → List (LiveEffect Time Day) → Prop where
  | idle : Reached issued cid .idle []
  | submitted {effects e} (before : Reached issued cid .idle effects)
      (event : e.event = .submitted) (id : e.clientOrderId = some cid) :
      Reached issued cid .submitted (effects ++ [.journal e])
  | offered {effects accepted} (before : Reached issued cid .submitted effects) :
      Reached issued cid (.offered accepted) (effects ++ [.exchange accepted])
  | acked {effects accepted ack e} (before : Reached issued cid (.offered accepted) effects)
      (answered : issued ack) (event : e.event = .acked) (id : e.clientOrderId = some cid)
      (orderId : e.orderId = some ack.orderId) :
      Reached issued cid (.acked accepted ack) (effects ++ [.journal e])
  | settled {effects accepted ack fill e} (before : Reached issued cid (.acked accepted ack) effects)
      (outcome : IsOutcome cid ack fill e) (sum : FillSum fill.filled) :
      Reached issued cid (.settled accepted ack fill) (effects ++ [.journal e])
  | booked {effects accepted ack fill} (file : PnlFile Time Day)
      (before : Reached issued cid (.settled accepted ack fill) effects) (some : fill.filled ≠ 0) :
      Reached issued cid (.booked accepted ack fill) (effects ++ [.ledger file])
  | recorded {effects accepted ack fill call}
      (before : Reached issued cid (.settled accepted ack fill) effects) (some : fill.filled ≠ 0)
      (completed : Completed utcDay start ack fill call start.file) :
      Reached issued cid (.recorded accepted ack fill) (effects ++ [.recorded call])
  | recordedBooked {effects accepted ack fill call file}
      (before : Reached issued cid (.settled accepted ack fill) effects) (some : fill.filled ≠ 0)
      (completed : Completed utcDay start ack fill call file) :
      Reached issued cid (.recorded accepted ack fill) (effects ++ [.ledger file] ++ [.recorded call])
  | applied {effects accepted ack fill}
      (before : Reached issued cid (.recorded accepted ack fill) effects) :
      Reached issued cid (.applied accepted ack fill)
        (effects ++ [.journal (appliedEntry ack.orderId)])

variable {utcDay} {start} {issued : CreateAck → Prop} {cid : String}
  {effects kept : List (LiveEffect Time Day)} {stage : Stage}

/-- A crash leaves the order in an earlier stage. -/
theorem Reached.crash (reached : Reached utcDay start issued cid stage effects)
    (survived : kept <+: effects) : ∃ earlier, Reached utcDay start issued cid earlier kept := by
  induction reached with
  | idle =>
      rw [List.prefix_nil.mp survived]
      exact ⟨_, .idle⟩
  | submitted before event id ih =>
      rcases List.prefix_concat_iff.mp survived with rfl | earlier
      · exact ⟨_, .submitted before event id⟩
      · exact ih earlier
  | offered before ih =>
      rcases List.prefix_concat_iff.mp survived with rfl | earlier
      · exact ⟨_, .offered before⟩
      · exact ih earlier
  | acked before answered event id orderId ih =>
      rcases List.prefix_concat_iff.mp survived with rfl | earlier
      · exact ⟨_, .acked before answered event id orderId⟩
      · exact ih earlier
  | settled before outcome sum ih =>
      rcases List.prefix_concat_iff.mp survived with rfl | earlier
      · exact ⟨_, .settled before outcome sum⟩
      · exact ih earlier
  | booked file before some ih =>
      rcases List.prefix_concat_iff.mp survived with rfl | earlier
      · exact ⟨_, .booked file before some⟩
      · exact ih earlier
  | recorded before some completed ih =>
      rcases List.prefix_concat_iff.mp survived with rfl | earlier
      · exact ⟨_, .recorded before some completed⟩
      · exact ih earlier
  | recordedBooked before some completed ih =>
      rcases List.prefix_concat_iff.mp survived with rfl | booked
      · exact ⟨_, .recordedBooked before some completed⟩
      · rcases List.prefix_concat_iff.mp booked with rfl | earlier
        · exact ⟨_, .booked _ before some⟩
        · exact ih earlier
  | applied before ih =>
      rcases List.prefix_concat_iff.mp survived with rfl | earlier
      · exact ⟨_, .applied before⟩
      · exact ih earlier

end

/-! ## What the journal shows -/

variable {utcDay : Time → Option Day} {start : DailyStrategy Time Day}
  {issued : CreateAck → Prop} {cid : String} {effects : List (LiveEffect Time Day)}
  {stage : Stage} {base : List JournalEntry}

theorem lines_append (one other : List (LiveEffect Time Day)) :
    lines (one ++ other) = lines one ++ lines other := List.filterMap_append

section

variable [LinearOrder Time] [Zero Time] [DecidableEq Day]

/-- After a crash the journal shows an order the exchange may hold. -/
inductive Recoverable (utcDay : Time → Option Day) (start : DailyStrategy Time Day)
    (base : List JournalEntry) (cid : String) (effects : List (LiveEffect Time Day)) : Prop where
  | unresolved (u : JournalEntry) (member : u ∈ unresolved (base ++ lines effects))
      (id : u.clientOrderId = some cid)
  | zeroFill (ack : CreateAck) (fill : Fill) (e : JournalEntry) (member : e ∈ lines effects)
      (outcome : IsOutcome cid ack fill e) (zero : fill.filled = 0)
  | unapplied (ack : CreateAck) (fill : Fill) (e u : JournalEntry) (member : e ∈ lines effects)
      (outcome : IsOutcome cid ack fill e) (pending : u ∈ unappliedOutcomes (base ++ lines effects))
      (same : u.orderId = e.orderId)
  | applied (ack : CreateAck) (fill : Fill) (e : JournalEntry) (call : LedgerCall Time)
      (member : e ∈ lines effects) (outcome : IsOutcome cid ack fill e)
      (line : appliedEntry ack.orderId ∈ lines effects) (recorded : .recorded call ∈ effects)
      (completed : Completed utcDay start ack fill call (ledgerFile start.file effects))

/-- Until its outcome is journaled a submitted order is unresolved. -/
theorem covered_unresolved {e : JournalEntry} (fresh : ∀ d ∈ base, d.clientOrderId ≠ some cid)
    (member : e ∈ lines effects) (event : e.event = .submitted) (id : e.clientOrderId = some cid)
    (pending : ∀ d ∈ lines effects, ¬d.Done) : Recoverable utcDay start base cid effects := by
  obtain ⟨u, place, same⟩ := unresolved_of_submitted
    (List.mem_append_right base member) event fun d there done => by
      rcases List.mem_append.mp there with old | new
      · rw [id]
        exact fresh d old
      · exact absurd done (pending d new)
  exact .unresolved u place (same.trans id)

/-- Until its line is journaled a filled outcome is unapplied. -/
theorem covered_unapplied {ack : CreateAck} {fill : Fill} {e : JournalEntry}
    (fresh : ∀ d ∈ base, d.orderId ≠ some ack.orderId) (member : e ∈ lines effects)
    (outcome : IsOutcome cid ack fill e) (sum : FillSum fill.filled) (some : fill.filled ≠ 0)
    (pending : ∀ d ∈ lines effects, d.event ≠ .applied) : Recoverable utcDay start base cid effects := by
  have filled : e.Filled := by
    refine ⟨outcome.event, ?_⟩
    rw [outcome.filled]
    exact sum.floatNonzero some
  obtain ⟨u, place, same⟩ := unapplied_of_outcome (List.mem_append_right base member) filled
    outcome.orderId ack.named fun d there event => by
      rcases List.mem_append.mp there with old | new
      · exact fresh d old
      · exact absurd event (pending d new)
  exact .unapplied ack fill e u member outcome place (same.trans outcome.orderId.symm)

/-- The effects up to the acceptance. -/
theorem Reached.offered_effects {accepted : Bool}
    (reached : Reached utcDay start issued cid (.offered accepted) effects) :
    ∃ s, effects = [.journal s, .exchange accepted] ∧ s.event = .submitted ∧
      s.clientOrderId = some cid := by
  cases reached with
  | offered before =>
      cases before with
      | submitted before event id =>
          cases before
          exact ⟨_, rfl, event, id⟩

theorem Reached.acked_effects {accepted : Bool} {ack : CreateAck}
    (reached : Reached utcDay start issued cid (.acked accepted ack) effects) :
    ∃ s k, effects = [.journal s, .exchange accepted, .journal k] ∧ s.event = .submitted ∧
      s.clientOrderId = some cid ∧ k.event = .acked ∧ issued ack := by
  cases reached with
  | acked before answered event id orderId =>
      obtain ⟨s, rfl, submitted, same⟩ := before.offered_effects
      exact ⟨s, _, rfl, submitted, same, event, answered⟩

/-- The effects up to the outcome, which is the last of them. -/
theorem Reached.settled_effects {accepted : Bool} {ack : CreateAck} {fill : Fill}
    (reached : Reached utcDay start issued cid (.settled accepted ack fill) effects) :
    ∃ s k e, effects = [.journal s, .exchange accepted, .journal k, .journal e] ∧
      s.event = .submitted ∧ k.event = .acked ∧ issued ack ∧ IsOutcome cid ack fill e ∧
      FillSum fill.filled := by
  cases reached with
  | settled before outcome sum =>
      obtain ⟨s, k, rfl, submitted, same, event, answered⟩ := before.acked_effects
      exact ⟨s, k, _, rfl, submitted, event, answered, outcome, sum⟩

/-- The effects up to the end of `record_fill`. -/
theorem Reached.recorded_effects {accepted : Bool} {ack : CreateAck} {fill : Fill}
    (reached : Reached utcDay start issued cid (.recorded accepted ack fill) effects) :
    ∃ s k e call, lines effects = [s, k, e] ∧ .recorded call ∈ effects ∧
      s.event = .submitted ∧ k.event = .acked ∧ issued ack ∧ IsOutcome cid ack fill e ∧
      FillSum fill.filled ∧ fill.filled ≠ 0 ∧
      Completed utcDay start ack fill call (ledgerFile start.file effects) := by
  cases reached with
  | recorded before some completed =>
      obtain ⟨s, k, e, rfl, submitted, acked, answered, outcome, sum⟩ := before.settled_effects
      exact ⟨s, k, e, _, rfl, by simp, submitted, acked, answered, outcome, sum, some, completed⟩
  | recordedBooked before some completed =>
      obtain ⟨s, k, e, rfl, submitted, acked, answered, outcome, sum⟩ := before.settled_effects
      exact ⟨s, k, e, _, rfl, by simp, submitted, acked, answered, outcome, sum, some, completed⟩

omit [LinearOrder Time] [Zero Time] [DecidableEq Day] in
/-- No line applies the order before its applied line. -/
theorem unfinished_lines {ack : CreateAck} {fill : Fill} {s k e : JournalEntry}
    (whole : lines effects = [s, k, e]) (submitted : s.event = .submitted)
    (acked : k.event = .acked) (outcome : IsOutcome cid ack fill e) :
    ∀ d ∈ lines effects, d.event ≠ .applied := by
  intro d member
  rw [whole] at member
  have same : d = s ∨ d = k ∨ d = e := by simpa using member
  rcases same with rfl | rfl | rfl
  · simp [submitted]
  · simp [acked]
  · simp [outcome.event]

/-- In every stage past the exchange's acceptance the order is covered. -/
theorem Reached.covered (reached : Reached utcDay start issued cid stage effects)
    (accepted : .exchange true ∈ effects) (freshId : ∀ d ∈ base, d.clientOrderId ≠ some cid)
    (freshOrder : ∀ ack, issued ack → ∀ d ∈ base, d.orderId ≠ some ack.orderId) :
    Recoverable utcDay start base cid effects := by
  cases stage with
  | idle =>
      cases reached
      simp at accepted
  | submitted =>
      cases reached with
      | submitted before event id =>
          cases before
          simp at accepted
  | offered a =>
      obtain ⟨s, rfl, submitted, id⟩ := reached.offered_effects
      refine covered_unresolved freshId (e := s) (by simp [lines]) submitted id fun d member => ?_
      have same : d = s := by simpa [lines] using member
      simp [same, JournalEntry.Done, submitted]
  | acked a ack =>
      obtain ⟨s, k, rfl, submitted, id, acked, answered⟩ := reached.acked_effects
      refine covered_unresolved freshId (e := s) (by simp [lines]) submitted id fun d member => ?_
      have same : d = s ∨ d = k := by simpa [lines] using member
      rcases same with rfl | rfl
      · simp [JournalEntry.Done, submitted]
      · simp [JournalEntry.Done, acked]
  | settled a ack fill =>
      obtain ⟨s, k, e, rfl, submitted, acked, answered, outcome, sum⟩ := reached.settled_effects
      by_cases zero : fill.filled = 0
      · exact .zeroFill ack fill e (by simp [lines]) outcome zero
      · exact covered_unapplied (freshOrder ack answered) (by simp [lines]) outcome sum zero
          (unfinished_lines rfl submitted acked outcome)
  | booked a ack fill =>
      cases reached with
      | booked file before some =>
          obtain ⟨s, k, e, rfl, submitted, acked, answered, outcome, sum⟩ := before.settled_effects
          exact covered_unapplied (freshOrder ack answered) (by simp [lines]) outcome sum some
            (unfinished_lines rfl submitted acked outcome)
  | recorded a ack fill =>
      obtain ⟨s, k, e, call, whole, _, submitted, acked, answered, outcome, sum, some, _⟩ :=
        reached.recorded_effects
      exact covered_unapplied (freshOrder ack answered) (by simp [whole]) outcome sum some
        (unfinished_lines whole submitted acked outcome)
  | applied a ack fill =>
      cases reached with
      | applied before =>
          obtain ⟨s, k, e, call, whole, recorded, _, _, _, outcome, _, _, completed⟩ :=
            before.recorded_effects
          refine .applied ack fill e call ?_ outcome ?_ (List.mem_append_left _ recorded) ?_
          · rw [lines_append, whole]
            simp
          · rw [lines_append]
            exact List.mem_append_right _ (by simp [lines])
          · simpa [ledgerFile, List.foldl_append] using completed

end

end

/-! ## The program passes through the stages -/

section

variable {σ Time Day : Type} [LinearOrder Time] [Zero Time] [Add Time] [OfScientific Time]
  [DecidableEq Day]
variable {client : Client σ Time} {utcDay : Time → Option Day} {cfg : LiveConfig Time} {polls : ℕ}
  {start : DailyStrategy Time Day} {order : OrderRequest Time} {feed : LiveFeed Time}

/-- An answer `create_order` may give. -/
def Issued (client : Client σ Time) (ack : CreateAck) : Prop :=
  ∃ body s, (client.createOrder body s).2.1 = .ok ack

section

variable (client utcDay start order)

/-- The order has reached the stage, with the strategy as it was. -/
def At (stage : Stage) (w : LiveWorld σ Time Day) : Prop :=
  Reached utcDay start (Issued client) order.clientOrderId stage w.effects ∧ w.strategy = start

/-- The order has reached some stage. -/
def Somewhere (w : LiveWorld σ Time Day) : Prop :=
  ∃ stage, Reached utcDay start (Issued client) order.clientOrderId stage w.effects

/-- A fill is answered with its order id, when its outcome is journaled. -/
def Answered (result : Option Fill) (w : LiveWorld σ Time Day) : Prop :=
  Somewhere client utcDay start order w ∧ ∀ fill, result = some fill →
    ∃ accepted ack, w.lastOutcomeId = some ack.orderId ∧ fill.filled ≠ 0 ∧
      At client utcDay start order (.settled accepted ack fill) w

end

omit [LinearOrder Time] [Zero Time] [Add Time] [OfScientific Time] [DecidableEq Day] in
theorem consulting_keeps {α : Type} {m : Resolver σ α} {K : LiveWorld σ Time Day → Prop}
    (placed : ∀ w session, K w → K (w.place session)) : Keeps K (consulting m) := by
  refine Keeps.handle (Keeps.within fun w holds => ?_) fun _ => Keeps.raise _
  rintro s rfl
  cases runFrom m w.session with
  | mk result s => cases result <;> exact placed w s holds

omit [Add Time] [OfScientific Time]

theorem At.somewhere {stage : Stage} {w : LiveWorld σ Time Day}
    (reached : At client utcDay start order stage w) : Somewhere client utcDay start order w :=
  ⟨stage, reached.1⟩

/-- Consulting the exchange reaches no further stage. -/
theorem consulting_at {α : Type} {m : Resolver σ α} {stage : Stage} :
    Triple (At client utcDay start order stage) (consulting m)
      (fun _ => At client utcDay start order stage) (Somewhere client utcDay start order) :=
  (consulting_keeps fun _ _ reached => reached).weaken (fun _ reached => reached)
    (fun _ _ reached => reached) fun _ reached => reached.somewhere

/-- The same, with the answer of a resolution. -/
theorem consulting_sum {m : Resolver σ Resolution} {stage : Stage}
    (sum : Triple (fun _ => True) m (fun result _ => FillSum result.filled) fun _ => True) :
    Triple (At client utcDay start order stage) (consulting m)
      (fun result w => At client utcDay start order stage w ∧ FillSum result.filled)
      (Somewhere client utcDay start order) := by
  refine Triple.handle (S := At client utcDay start order stage) (Triple.within fun w reached => ?_)
    fun _ => (Triple.raise _).weaken (fun _ reached => reached.somewhere) (fun _ _ holds => holds)
      fun _ holds => holds
  refine (sum.starting (show (fun _ => True) w.session from trivial)).weaken (fun _ same => same)
    (fun result s summed => ⟨reached, summed⟩) fun _ _ => reached

theorem journalLine_at {stage next : Stage} {e : JournalEntry}
    (step : ∀ effects, Reached utcDay start (Issued client) order.clientOrderId stage effects →
      Reached utcDay start (Issued client) order.clientOrderId next (effects ++ [.journal e])) :
    Triple (At client utcDay start order stage) (journalLine e)
      (fun _ => At client utcDay start order next) (Somewhere client utcDay start order) :=
  fun w reached => ⟨step w.effects reached.1, reached.2⟩

theorem submit_at (body : OrderBody) :
    Triple (At client utcDay start order .submitted) (submit client body)
      (fun answer w => ∃ accepted, At client utcDay start order (.offered accepted) w ∧
        ∀ ack, answer = .ok ack → Issued client ack)
      (Somewhere client utcDay start order) :=
  fun w reached => ⟨(client.createOrder body w.session.exchange).1,
    ⟨.offered reached.1, reached.2⟩, fun _ answered => ⟨body, w.session.exchange, answered⟩⟩

/-- The end of `record_fill` is one more effect, after the ledger's line where it has one. -/
theorem applyFill_at {accepted : Bool} {ack : CreateAck} {fill : Fill} {call : LedgerCall Time}
    (filled : fill.filled ≠ 0) (id : call.eventId = some ack.orderId) (same : call.fill = fill) :
    Triple (At client utcDay start order (.settled accepted ack fill)) (applyFill utcDay call)
      (fun _ w => Reached utcDay start (Issued client) order.clientOrderId
        (.recorded accepted ack fill) w.effects)
      (Somewhere client utcDay start order) := by
  rintro w ⟨reached, rfl⟩
  simp only [runFrom, applyFill]
  cases run : call.recordFill utcDay w.strategy with
  | mk result after =>
      by_cases unchanged : after.file = w.strategy.file
      · cases result with
        | ok _ =>
            have step := Reached.recorded reached filled ⟨id, same, after, run, unchanged⟩
            simpa [fileChange, unchanged, LiveWorld.leave] using step
        | error e =>
            exact ⟨_, by simpa [fileChange, unchanged, LiveWorld.leave] using reached⟩
      · cases result with
        | ok _ =>
            have step := Reached.recordedBooked reached filled ⟨id, same, after, run, rfl⟩
            simpa [fileChange, unchanged, LiveWorld.leave] using step
        | error e =>
            have step := Reached.booked after.file reached filled
            exact ⟨_, by simpa [fileChange, unchanged, LiveWorld.leave] using step⟩

variable [Add Time] [OfScientific Time]

theorem submitted_at (position : Decimal) (body : OrderBody) :
    Triple (At client utcDay start order .submitted)
      (submitted client cfg polls order position body)
      (Answered client utcDay start order) (Somewhere client utcDay start order) := by
  refine Triple.bind (submit_at body) fun answer => Triple.pointwise fun w reached => ?_
  obtain ⟨accepted, offered, issued⟩ := reached
  cases answer with
  | error cause =>
      rintro _ rfl
      exact offered.somewhere
  | ok ack =>
      refine Triple.bind ((journalLine_at fun effects before =>
        .acked before (issued ack rfl) rfl rfl rfl).starting offered) fun _ => ?_
      refine Triple.except_bind (fun _ _ => ?_) fun _ reached => reached.somewhere
      refine Triple.bind consulting_at fun found => Triple.bind consulting_at fun last => ?_
      refine Triple.bind (consulting_sum resolve_sum) fun result => ?_
      refine Triple.except_bind (fun canceled _ => ?_) fun _ reached => reached.1.somewhere
      refine Triple.pointwise fun w reached => ?_
      have settled : Triple (At client utcDay start order (.acked accepted ack))
          (journalLine (outcomeEntry (order.intent position ack) result canceled false))
          (fun _ => At client utcDay start order
            (.settled accepted ack ⟨result.avgPrice, result.filled, result.fee⟩))
          (Somewhere client utcDay start order) :=
        journalLine_at fun effects before =>
          .settled before ⟨rfl, rfl, rfl, rfl, rfl, rfl⟩ reached.2
      refine Triple.bind (settled.starting reached.1) fun _ => ?_
      refine Triple.pointwise fun w done => Triple.modify_bind ?_
      refine Triple.ite (fun zero => ?_) fun some => ?_
      · exact Triple.answer_from ⟨done.somewhere, fun fill none => nomatch none⟩
      · refine Triple.answer_from ⟨done.somewhere, fun fill same => ?_⟩
        cases same
        exact ⟨accepted, ack, rfl, some, done⟩

theorem live_at (expected : Decimal) :
    Triple (At client utcDay start order .idle) (live client cfg polls feed order expected)
      (Answered client utcDay start order) (Somewhere client utcDay start order) := by
  have raised (w : LiveWorld σ Time Day) (reached : At client utcDay start order .idle w) :
      Somewhere client utcDay start order w := reached.somewhere
  refine Triple.except_bind (fun quote _ => ?_) raised
  refine Triple.except_bind (fun _ _ => ?_) raised
  cases bookPrice feed order with
  | none =>
      exact fun w reached => ⟨raised w reached, fun fill none => nomatch none⟩
  | some price =>
      refine Triple.bind consulting_at fun position => ?_
      refine Triple.except_bind (fun _ _ => Triple.except_bind (fun body _ => ?_) raised) raised
      have sent : Triple (At client utcDay start order .idle)
          (journalLine (submittedEntry order price position))
          (fun _ => At client utcDay start order .submitted) (Somewhere client utcDay start order) :=
        journalLine_at fun effects before => .submitted before rfl rfl
      exact Triple.bind sent fun _ => submitted_at position body

theorem execute_at (enabled : Bool) :
    Triple (At client utcDay start order .idle) (execute client cfg polls enabled feed order)
      (Answered client utcDay start order) (Somewhere client utcDay start order) := by
  have raised (w : LiveWorld σ Time Day) (reached : At client utcDay start order .idle w) :
      Somewhere client utcDay start order w := reached.somewhere
  refine Triple.bind (S := fun _ => At client utcDay start order .idle)
    (fun w reached => reached) fun _ => ?_
  refine Triple.ite (fun _ => raised) fun _ => Triple.ite (fun _ => raised) fun _ => ?_
  cases order.expectedPrePosition with
  | none => exact raised
  | some expected => exact live_at expected

/-- Wherever a live order ends, its effects are those of a stage. -/
theorem liveOrder_reached (enabled : Bool) :
    Triple (At client utcDay start order .idle)
      (liveOrder client utcDay cfg polls enabled feed order)
      (fun _ => Somewhere client utcDay start order) (Somewhere client utcDay start order) := by
  refine Triple.bind (execute_at enabled) fun result => ?_
  cases result with
  | none => exact fun w answered => answered.1
  | some fill =>
      refine Triple.get_bind fun w answered => ?_
      obtain ⟨accepted, ack, last, filled, settled⟩ := answered.2 fill rfl
      rw [last]
      refine Triple.bind ((applyFill_at filled rfl rfl).starting settled) fun _ => ?_
      refine Triple.ite (fun unnamed => absurd unnamed ack.named) fun _ => ?_
      exact fun w recorded => ⟨_, .applied recorded⟩

end

/-! ## Crash and restart -/

section

variable {σ σ' Time Day : Type} [LinearOrder Time] [Zero Time] [Add Time] [OfScientific Time]
  [DecidableEq Day]

/-- What the startup check makes of a journal, whatever state the exchange is in: a
startup that returns has resolved every unresolved order to a verified zero fill and
found no fill unapplied; and under a clock that reaches its deadlines a startup
that does not return raises. -/
def StartupGuards (client : Client σ Time) (cfg : ReconcileConfig Time) (polls : ℕ)
    (journal : List JournalEntry) : Prop :=
  ∀ w : Books σ, w.journal = journal →
    (∀ w', runFrom (startup client cfg polls) w = (.ok (), w') →
      unappliedOutcomes journal = [] ∧ ∀ u ∈ unresolved journal, ∃ e ∈ w'.journal,
        e.clientOrderId = u.clientOrderId ∧ VerifiedZero w'.session.observed e) ∧
    ∀ left, Ticking client left → Soon client left polls cfg.cancelTimeoutS →
      Soon client left polls cfg.reconcileTimeoutS →
      ∀ error, (runFrom (startup client cfg polls) w).1 = .error error → error ≠ .unfinished

omit [Zero Time] in
theorem startup_guards (client : Client σ Time) (cfg : ReconcileConfig Time) (polls : ℕ)
    (journal : List JournalEntry) : StartupGuards client cfg polls journal := by
  rintro w rfl
  refine ⟨fun w' started => ⟨?_, fun u pending => startup_resolves started pending⟩, ?_⟩
  · by_contra blocked
    exact startup_unapplied blocked started
  · intro left ticking cancels reconciles error failed
    exact startup_raises (P := fun _ => True) ticking cancels reconciles w trivial error failed

/-- A live order is crashed after any prefix of its effects, over any earlier journal
that has neither its client order id nor an order id the exchange may still give.
If the exchange accepted the order, the journal shows it, and a startup over the
journal does not return before what is unresolved is a verified zero fill. -/
theorem live_order_survives_crash (client : Client σ Time) (utcDay : Time → Option Day)
    (cfg : LiveConfig Time) (polls : ℕ) (enabled : Bool) (feed : LiveFeed Time)
    (order : OrderRequest Time) (restarted : Client σ' Time) (restartCfg : ReconcileConfig Time)
    (restartPolls : ℕ) (base : List JournalEntry) (session : Session σ)
    (start : DailyStrategy Time Day) (lastOutcomeId : Option String)
    (kept : List (LiveEffect Time Day))
    (freshId : ∀ d ∈ base, d.clientOrderId ≠ some order.clientOrderId)
    (freshOrder : ∀ ack, Issued client ack → ∀ d ∈ base, d.orderId ≠ some ack.orderId)
    (crash : kept <+: (runFrom (liveOrder client utcDay cfg polls enabled feed order)
      ⟨session, start, lastOutcomeId, []⟩).2.effects)
    (accepted : .exchange true ∈ kept) :
    Recoverable utcDay start base order.clientOrderId kept ∧
      StartupGuards restarted restartCfg restartPolls (base ++ lines kept) := by
  refine ⟨?_, startup_guards restarted restartCfg restartPolls _⟩
  have reached : Somewhere client utcDay start order
      (runFrom (liveOrder client utcDay cfg polls enabled feed order)
        ⟨session, start, lastOutcomeId, []⟩).2 :=
    (liveOrder_reached enabled).after ⟨.idle, rfl⟩
  obtain ⟨stage, effects⟩ := reached
  obtain ⟨earlier, reached⟩ := effects.crash crash
  exact reached.covered accepted freshId freshOrder

end

/-! ## A sale whose status poll fails -/

section Sample

def sampleAck : CreateAck := ⟨"o-2", some "c-2", dollars 0, dollars 1, 5, by decide⟩

/-- An exchange that accepts every order and answers no poll. -/
def sampleClient : Client Unit ℚ where
  createOrder _ s := (true, .ok sampleAck, s)
  getOrder _ := throw "timeout"
  getFills _ := pure []
  getPositions := pure [⟨"A", dollars 1⟩]
  cancelOrder _ := pure ()
  getOpenOrders := pure []
  clock s := (0, s)
  sleep _ s := s

def sampleConfig : LiveConfig ℚ where
  dipThreshold := dollars 5
  lookbackSeconds := 60
  takeProfit := dollars 3
  tpTrailCents := dollars 0
  stopLoss := dollars 5
  maxHoldSeconds := 600
  closeBufferSeconds := 60
  contractsPerTrade := dollars 1
  maxOpenPositions := 1
  maxDailyLossUsd := dollars 20
  minPrice := dollars 10
  maxPrice := dollars 90
  maxSpread := dollars 3
  simLatencyS := 1
  simSlippageCents := dollars 1
  balancePrecisionUsd := cent
  fillTimeoutS := 5
  staleDataS := 30
  oneContractPerEvent := true
  siblingSpikeCents := dollars 0
  siblingSpikeLookbackS := 0
  paperTrading := false
  cancelTimeoutS := 5
  reconcileTimeoutS := 5
  timeInForce := "immediate_or_cancel"
  selfTradePreventionType := "taker_at_cross"
  subaccount := 0

def sampleFeed : LiveFeed ℚ where
  getQuote := .ok (some (dollars 50), some (dollars 51), 0)
  topOfBook := ⟨some (dollars 50), some (dollars 1), some (dollars 51), some (dollars 1)⟩
  entryAllowed _ _ := true
  earlyCloseRisk := false

def sampleOrder : OrderRequest ℚ where
  ticker := "A"
  side := .sell
  contracts := dollars 1
  expectedPrePosition := some (dollars 1)
  maxEntryPrice := none
  clientOrderId := "c-2"
  countPlaces := 0
  pricePlaces := 1
  now := 0
  freshId := "made"
  outcome := .written

def sampleStrategy : DailyStrategy ℚ ℕ :=
  ⟨[("A", ⟨dollars 47, dollars 1, 0, dollars 0, none⟩)], dollars 0, 0, ⟨[], .whole⟩⟩

/-- An earlier order, completed. -/
def sampleJournal : List JournalEntry :=
  [{ event := .submitted, clientOrderId := some "c-1", ticker := some "A", side := some .buy },
    { event := .acked, clientOrderId := some "c-1", orderId := some "o-1" },
    { event := .outcome, clientOrderId := some "c-1", orderId := some "o-1",
      filled := some (dollars 1) },
    appliedEntry "o-1"]

def sampleStart : LiveWorld Unit ℚ ℕ := ⟨⟨(), []⟩, sampleStrategy, none, []⟩

def sampleEffects : List (LiveEffect ℚ ℕ) :=
  [.journal (submittedEntry sampleOrder (dollars 50) (dollars 1)), .exchange true,
    .journal (ackedEntry sampleOrder sampleAck)]

def sampleBody : OrderBody := ⟨"A", "c-2", .sell, dollars 1, Decimal.ofDigits 5 1,
  "immediate_or_cancel", "taker_at_cross", true, 0⟩

theorem sample_body :
    buildOrderBody sampleConfig sampleOrder (dollars 50) true = .ok sampleBody := by
  have price : divide (dollars 50) hundred = .ok (Decimal.ofDigits 5 1) := by
    have value : hundred.value = 100 := by
      show ((100 : ℕ) : ℚ) = 100
      norm_num
    exact divide_exact (by norm_num [value]) (by norm_num [value, dollars_value]) (by decide)
      (by decide)
  have half : (Decimal.ofDigits 5 1).value = 1 / 2 := by norm_num
  have positive : (0 : Decimal) < Decimal.ofDigits 5 1 := by
    rw [Decimal.lt_def, half, Decimal.zero_value]
    norm_num
  have small : Decimal.ofDigits 5 1 < (1 : Decimal) := by
    rw [Decimal.lt_def, half, Decimal.one_value]
    norm_num
  have counted : 0 < sampleOrder.contracts := one_positive
  unfold buildOrderBody
  rw [if_neg (not_lt.mpr counted.le), if_neg (by decide), if_neg (not_le.mpr counted), price]
  show (if ¬(_ ∧ _) then _ else _) = _
  rw [if_neg (not_not.mpr ⟨positive, small⟩), if_neg (by decide), if_neg (by decide),
    if_neg (by decide), if_neg (by decide)]
  rfl

theorem sample_position : positionCheck sampleOrder (dollars 1) (dollars 1) = .ok () := by
  have held : ¬(dollars 1 ≤ 0 ∨ dollars 1 < sampleOrder.contracts) := by
    rw [not_or]
    exact ⟨not_le.mpr one_positive, lt_irrefl _⟩
  unfold positionCheck
  rw [if_neg (not_not.mpr rfl)]
  exact if_neg held

theorem sample_ack : ackCheck sampleOrder sampleAck = .ok () := by
  have zero : ¬(dollars 0 < 0 ∨ dollars 1 < 0) := by
    rw [not_or]
    refine ⟨?_, not_lt.mpr one_positive.le⟩
    rw [Decimal.lt_def, Decimal.zero_value, dollars_value]
    norm_num
  have shown : add (dollars 0) (dollars 1) = .ok (dollars 1) :=
    add_exact (by norm_num [dollars_value]) (by decide) (by decide)
  unfold ackCheck
  rw [if_neg (by decide)]
  show (if dollars 0 < 0 ∨ dollars 1 < 0 then _ else _) = _
  rw [if_neg zero]
  show (figure (add (dollars 0) (dollars 1)) >>= fun shown => _) = _
  rw [shown]
  exact if_neg (lt_irrefl (dollars 1))

theorem sample_run : (runFrom (liveOrder sampleClient (fun _ => some 0) sampleConfig 3 true
    sampleFeed sampleOrder) sampleStart).2.effects = sampleEffects := by
  have ends : Triple (fun w => w = sampleStart) (liveOrder sampleClient (fun _ => some (0 : ℕ))
      sampleConfig 3 true sampleFeed sampleOrder) (fun _ w => w.effects = sampleEffects)
      fun w => w.effects = sampleEffects := by
    refine Triple.bind (S := fun _ _ => False) (Triple.modify_bind ?_)
      fun _ _ impossible => impossible.elim
    rw [if_neg (by decide), if_neg (by decide)]
    show Triple _ (live sampleClient sampleConfig 3 sampleFeed sampleOrder (dollars 1)) _ _
    refine Triple.except_ok (Triple.except_ok ?_)
    have polled : runFrom (consulting (authoritativePosition sampleClient "A" "before submit"))
        sampleStart = (.ok (dollars 1), sampleStart) := rfl
    refine Triple.bind (S := fun position w => position = dollars 1 ∧ w = sampleStart)
      (Triple.known polled ⟨rfl, rfl⟩) fun position => Triple.pointwise fun w reached => ?_
    obtain ⟨rfl, rfl⟩ := reached
    rw [sample_position]
    refine Triple.except_ok ?_
    show Triple _ (ofExcept (buildOrderBody sampleConfig sampleOrder (dollars 50) true) >>= _) _ _
    rw [sample_body]
    refine Triple.except_ok (Triple.modify_bind ?_)
    refine Triple.bind (S := fun answer w => answer = .ok sampleAck ∧
        w = { sampleStart with effects := sampleEffects.take 2 }) (fun w same => ?_)
      fun answer => Triple.pointwise fun w reached => ?_
    · rw [same]
      exact ⟨rfl, rfl⟩
    obtain ⟨rfl, rfl⟩ := reached
    refine Triple.modify_bind ?_
    rw [sample_ack]
    refine Triple.except_ok ?_
    exact Triple.bind (S := fun _ _ => False) (fun w same => by rw [same]; rfl)
      fun _ _ impossible => impossible.elim
  exact ends.after rfl

/-- The order is crashed after its last effect, over the journal of a completed one. -/
theorem sample_survives_crash :
    Recoverable (fun _ => some 0) sampleStrategy sampleJournal "c-2" sampleEffects ∧
      StartupGuards sampleClient ⟨5, 5⟩ 30 (sampleJournal ++ lines sampleEffects) := by
  refine live_order_survives_crash sampleClient (fun _ => some 0) sampleConfig 3 true sampleFeed
    sampleOrder sampleClient ⟨5, 5⟩ 30 sampleJournal ⟨(), []⟩ sampleStrategy none sampleEffects
    (by decide) ?_ ?_ ?_
  · rintro ack ⟨body, s, answered⟩
    cases answered
    decide
  · rw [show (runFrom _ (LiveWorld.mk _ _ _ _)).2.effects = sampleEffects from sample_run]
  · exact List.mem_cons_of_mem _ List.mem_cons_self

end Sample

end Inci.Trading
