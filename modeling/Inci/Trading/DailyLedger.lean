/-
# Trading.DailyLedger -- the day's result and its durable record

`DailyPnlLedger` appends every closing to a file, under an event id it accepts
once, and the strategy keeps the day's total in memory.  `recordFill` here is
`record_fill` with that file: it adds the result to the total before it records
it, so a record the file already has, or a record that raises, leaves the total
ahead of the file.  `ledger_in_step`: in a run where neither happens the two
agree after every call, and a call that raises changes nothing.
-/
import Inci.Trading.Strategy

namespace Inci.Trading

open Inci.Theory Effect

set_option autoImplicit false

variable {Time Day : Type} [LinearOrder Time] [Zero Time] [DecidableEq Day]

/-! ## The file -/

structure PnlEntry (Time Day : Type) where
  eventId : String
  day : Day
  value : Decimal
  ts : Time
  deriving DecidableEq

/-- How the file ends: with a whole line, with a line that lacks its newline, or
with a line no reading accepts. -/
inductive Ending where
  | whole
  | unterminated
  | damaged
  deriving DecidableEq

/-- The ledger file: the entries `_entries` reads, one for each event id. -/
structure PnlFile (Time Day : Type) where
  entries : List (PnlEntry Time Day)
  ending : Ending

/-- What a write that raises has left of its line. -/
inductive Leftover where
  | nothing
  | fragment
  | unterminated
  | line
  deriving DecidableEq

inductive WriteOutcome where
  | written
  | failed (left : Leftover)
  deriving DecidableEq

/-- What stops a call: what stops the engine, a time without a day, a line no
reading accepts, or the file system. -/
inductive FillError where
  | engine (error : EngineError)
  | outOfRange
  | invalidLine
  | os
  deriving DecidableEq

namespace PnlFile

variable (file : PnlFile Time Day)

omit [LinearOrder Time] [Zero Time]

/-- A line appended: after a line without a newline it makes one bad line of both. -/
def append (entry : PnlEntry Time Day) : PnlFile Time Day :=
  match file.ending with
  | .whole => { file with entries := file.entries ++ [entry] }
  | .unterminated | .damaged => { file with ending := .damaged }

def leave (entry : PnlEntry Time Day) : Leftover → PnlFile Time Day
  | .nothing => file
  | .fragment => { file with ending := .damaged }
  | .unterminated =>
      match file.ending with
      | .whole => ⟨file.entries ++ [entry], .unterminated⟩
      | .unterminated | .damaged => { file with ending := .damaged }
  | .line => file.append entry

/-- `_entries` -/
def read : Except FillError (List (PnlEntry Time Day)) :=
  if file.ending = .damaged then throw .invalidLine
  else pure file.entries

/-- The days and results of the entries. -/
def ledger (entries : List (PnlEntry Time Day)) : Ledger Day :=
  ⟨entries.map fun entry => (entry.day, entry.value)⟩

/-- `DailyPnlLedger.today_total` for a day. -/
def total (day : Day) : Except FillError Decimal := do
  let entries ← file.read
  (todayTotal (ledger entries) day).mapError .engine

end PnlFile

/-! ## The strategy -/

/-- One `record_fill` call: its arguments, the identifier the ledger makes where
there is none, and what becomes of the write. -/
structure LedgerCall (Time : Type) where
  ticker : String
  side : OrderSide
  fill : Fill
  now : Time
  eventId : Option String
  freshId : String
  outcome : WriteOutcome

/-- `event_id or uuid.uuid4().hex` -/
def LedgerCall.id (call : LedgerCall Time) : String :=
  match call.eventId with
  | some id => if id = "" then call.freshId else id
  | none => call.freshId

structure DailyStrategy (Time Day : Type) where
  positions : List (String × Position Time)
  realizedPnl : Decimal
  ledgerDay : Day
  file : PnlFile Time Day

abbrev DailyEffect (Time Day : Type) := Effect (DailyStrategy Time Day) FillError

namespace DailyStrategy

variable (s : DailyStrategy Time Day)

omit [LinearOrder Time] [Zero Time]

def position (ticker : String) : Option (Position Time) := Dict.get s.positions ticker

def putPosition (ticker : String) (pos : Position Time) : DailyStrategy Time Day :=
  { s with positions := Dict.put s.positions ticker pos }

def dropPosition (ticker : String) : DailyStrategy Time Day :=
  { s with positions := Dict.erase s.positions ticker }

/-- The total in memory is the file's. -/
def Synced : Prop := s.file.total s.ledgerDay = .ok s.realizedPnl

end DailyStrategy

section

-- The UTC day of a time, where it has one.
variable (utcDay : Time → Option Day)

def computed {α : Type} (result : Except EngineError α) : Except FillError α :=
  result.mapError .engine

/-- `DailyPnlLedger.utc_day`, which raises for a time without a day. -/
def dayOf (now : Time) : Except FillError Day :=
  match utcDay now with
  | some day => pure day
  | none => throw .outOfRange

/-- `ScalpStrategy.__init__` with a ledger. -/
def construct (file : PnlFile Time Day) (now : Time) : Except FillError (DailyStrategy Time Day) := do
  let day ← dayOf utcDay now
  let total ← file.total day
  pure ⟨[], total, day, file⟩

/-- `refresh_daily_pnl` -/
def refreshDay (now : Time) : DailyEffect Time Day Unit := do
  let s ← get
  let day ← ofExcept (dayOf utcDay now)
  if day = s.ledgerDay then pure ()
  else do
    let total ← ofExcept (s.file.total day)
    modify fun s => { s with realizedPnl := total, ledgerDay := day }

/-- `DailyPnlLedger.record_once` -/
def recordOnce (eventId : String) (pnl : Decimal) (ts : Time) (outcome : WriteOutcome) :
    DailyEffect Time Day Bool := do
  if ts < 0 then
    throw (.engine (.value "effective_ts must be finite and nonnegative"))
  else do
    let day ← ofExcept (dayOf utcDay ts)
    let s ← get
    let entries ← ofExcept s.file.read
    match entries.find? fun entry => entry.eventId = eventId with
    | some seen =>
        if (seen.day, seen.value, seen.ts) = (day, pnl, ts) then pure false
        else throw (.engine (.value ("conflicting duplicate P&L event_id " ++ eventId)))
    | none =>
        match outcome with
        | .written => do
            modify fun s => { s with file := s.file.append ⟨eventId, day, pnl, ts⟩ }
            pure true
        | .failed left => do
            modify fun s => { s with file := s.file.leave ⟨eventId, day, pnl, ts⟩ left }
            throw .os

def fillIn (ticker : String) (pos : Position Time) (fill : Fill) : DailyEffect Time Day Unit := do
  let (total, entryPrice) ← ofExcept (computed (averagedIn pos fill))
  modify fun s => s.putPosition ticker { pos with entryPrice := entryPrice, contracts := total }
  let fee ← ofExcept (computed (add pos.entryFeeUsd fill.fee))
  modify fun s => s.putPosition ticker
    { pos with entryPrice := entryPrice, contracts := total, entryFeeUsd := fee }

def fillOut (call : LedgerCall Time) (pos : Position Time) : DailyEffect Time Day Unit := do
  let (pnl, entryFeePart) ← ofExcept (computed (closingPnl pos call.fill))
  let s ← get
  let realized ← ofExcept (computed (add s.realizedPnl pnl))
  modify fun s => { s with realizedPnl := realized }
  let _ ← recordOnce utcDay call.id pnl call.now call.outcome
  let left ← ofExcept (computed (subtract pos.contracts (min call.fill.filled pos.contracts)))
  modify fun s => s.putPosition call.ticker { pos with contracts := left }
  let feeLeft ← ofExcept (computed (subtract pos.entryFeeUsd entryFeePart))
  modify fun s => s.putPosition call.ticker { pos with contracts := left, entryFeeUsd := feeLeft }
  if left = 0 then modify fun s => s.dropPosition call.ticker else pure ()

/-- `ScalpStrategy.record_fill` with a ledger. -/
def LedgerCall.recordFill (call : LedgerCall Time) : DailyEffect Time Day Unit := do
  if call.fill.filled ≤ 0 then pure ()
  else do
    refreshDay utcDay call.now
    let s ← get
    match call.side, s.position call.ticker with
    | .buy, none =>
        modify fun s => s.putPosition call.ticker
          ⟨call.fill.price, call.fill.filled, call.now, call.fill.fee, none⟩
    | .buy, some pos => fillIn call.ticker pos call.fill
    | .sell, none => pure ()
    | .sell, some pos => fillOut utcDay call pos

/-! ## Staying in step -/

def LedgerCall.after (call : LedgerCall Time) (s : DailyStrategy Time Day) :
    DailyStrategy Time Day :=
  (runFrom (call.recordFill utcDay) s).2

/-- What holds of every call of a run, at the state it comes to. -/
def EachCall (P : DailyStrategy Time Day → LedgerCall Time → Prop) :
    DailyStrategy Time Day → List (LedgerCall Time) → Prop
  | _, [] => True
  | s, call :: rest => P s call ∧ EachCall P (call.after utcDay s) rest

/-- The total in memory after a call is the file's for the call's day, which is
what a restart then reads, and a call that raises has changed nothing. -/
structure InStep (s : DailyStrategy Time Day) (call : LedgerCall Time) : Prop where
  total : ∀ day, utcDay call.now = some day →
    (call.after utcDay s).file.total day = .ok (call.after utcDay s).realizedPnl
  resumes : ∀ s', construct utcDay (call.after utcDay s).file call.now = .ok s' →
    s'.realizedPnl = (call.after utcDay s).realizedPnl
  unchanged : ∀ error, (runFrom (call.recordFill utcDay) s).1 = .error error →
    (call.after utcDay s).positions = s.positions ∧
      (call.after utcDay s).realizedPnl = s.realizedPnl

/-- The record a closing needs: a time the ledger takes, an event id the file
does not have, and a write that appends its line. -/
structure Recordable (s : DailyStrategy Time Day) (call : LedgerCall Time) : Prop where
  time : 0 ≤ call.now
  fresh : ∀ entry ∈ s.file.entries, entry.eventId ≠ call.id
  written : call.outcome = .written
  whole : s.file.ending = .whole

/-- No branch that goes wrong is taken: the file has a total for the call's day;
a closing with a result can be recorded; and no decimal operation signals after
the total or the position has changed. -/
def Steady (s : DailyStrategy Time Day) (call : LedgerCall Time) : Prop :=
  ∀ day, utcDay call.now = some day → ∃ total, s.file.total day = .ok total ∧
    match call.side, s.position call.ticker with
    | .buy, some pos =>
        match averagedIn pos call.fill with
        | .error _ => day = s.ledgerDay
        | .ok _ => ∃ fee, add pos.entryFeeUsd call.fill.fee = .ok fee
    | .sell, some pos =>
        match closingPnl pos call.fill with
        | .error _ => day = s.ledgerDay
        | .ok (pnl, part) =>
            match add total pnl with
            | .error _ => day = s.ledgerDay
            | .ok _ => Recordable s call ∧
                (∃ left, subtract pos.contracts (min call.fill.filled pos.contracts) = .ok left) ∧
                ∃ feeLeft, subtract pos.entryFeeUsd part = .ok feeLeft
    | _, _ => True

variable {utcDay} {s : DailyStrategy Time Day} {call : LedgerCall Time} {day : Day}

omit [LinearOrder Time] [Zero Time] in
/-- An entry of the day adds its result to the total: the fold goes in file order. -/
theorem total_append {total realized : Decimal} (entry : PnlEntry Time Day)
    (whole : s.file.ending = .whole) (before : s.file.total day = .ok total)
    (sameDay : entry.day = day) (added : add total entry.value = .ok realized) :
    (s.file.append entry).total day = .ok realized := by
  have extended : s.file.append entry = { s.file with entries := s.file.entries ++ [entry] } := by
    simp only [PnlFile.append, whole]
  have readable : ¬s.file.ending = .damaged := by simp [whole]
  have folded : todayTotal (PnlFile.ledger s.file.entries) day = .ok total := by
    unfold PnlFile.total PnlFile.read at before
    rw [if_neg readable] at before
    change (todayTotal _ day).mapError FillError.engine = .ok total at before
    cases fold : todayTotal (PnlFile.ledger s.file.entries) day with
    | ok value => rw [fold] at before; simpa [Except.mapError] using before
    | error error => rw [fold] at before; simp [Except.mapError] at before
  have longer : todayTotal (PnlFile.ledger (s.file.entries ++ [entry])) day = .ok realized := by
    unfold todayTotal PnlFile.ledger at folded ⊢
    simp only [List.map_append, List.filter_append, List.foldlM_append, List.map_cons,
      List.map_nil]
    rw [folded, List.filter_cons_of_pos (by simpa using sameDay)]
    show add total entry.value >>= pure = _
    rw [added]
    rfl
  rw [extended]
  unfold PnlFile.total PnlFile.read
  rw [if_neg readable]
  change (todayTotal _ day).mapError FillError.engine = .ok realized
  rw [longer]
  rfl

omit [LinearOrder Time] [Zero Time] in
/-- A refresh at a time with a day leaves the day's total in memory. -/
theorem refreshDay_current {total : Decimal} (synced : s.Synced) (dated : utcDay call.now = some day)
    (figure : s.file.total day = .ok total) {Q : Unit → DailyStrategy Time Day → Prop}
    {R : DailyStrategy Time Day → Prop}
    {next : Unit → DailyEffect Time Day Unit}
    (rest : Triple (fun t => t = { s with realizedPnl := total, ledgerDay := day }) (next ()) Q R) :
    Triple (fun t => t = s) (refreshDay utcDay call.now >>= next) Q R := by
  refine Triple.bind (S := fun _ t => t = { s with realizedPnl := total, ledgerDay := day }) ?_
    fun _ => rest
  refine Triple.read_bind ?_
  rw [dayOf, dated]
  refine Triple.except_ok (Triple.ite (fun same => ?_) fun other => ?_)
  · subst same
    have known : s.realizedPnl = total := by
      rw [DailyStrategy.Synced, figure] at synced
      exact (Except.ok.inj synced).symm
    exact Triple.answer_from (by rw [← known])
  · rw [figure]
    exact Triple.except_ok (Triple.modify_from rfl)

/-- The day is the call's, and the total in memory is the file's. -/
structure Current (day : Day) (t : DailyStrategy Time Day) : Prop where
  dated : t.ledgerDay = day
  total : t.file.total day = .ok t.realizedPnl

/-- Current, with nothing changed but the day. -/
structure Untouched (day : Day) (s t : DailyStrategy Time Day) : Prop where
  current : Current day t
  positions : t.positions = s.positions
  realized : t.realizedPnl = s.realizedPnl

section Step

variable {total : Decimal} {pos : Position Time}

omit [LinearOrder Time] [Zero Time]

theorem refreshed_current (figure : s.file.total day = .ok total) :
    Current day { s with realizedPnl := total, ledgerDay := day } := ⟨rfl, figure⟩

/-- On the day of the state the refresh has changed nothing. -/
theorem refreshed_untouched (synced : s.Synced) (figure : s.file.total day = .ok total)
    (same : day = s.ledgerDay) :
    Untouched day s { s with realizedPnl := total, ledgerDay := day } := by
  refine ⟨refreshed_current figure, rfl, ?_⟩
  subst same
  rw [DailyStrategy.Synced, figure] at synced
  exact Except.ok.inj synced

theorem fillIn_steady {fill : Fill} {ticker : String} (synced : s.Synced)
    (figure : s.file.total day = .ok total)
    (steady : match averagedIn pos fill with
      | .error _ => day = s.ledgerDay
      | .ok _ => ∃ fee, add pos.entryFeeUsd fill.fee = .ok fee) :
    Triple (fun t => t = { s with realizedPnl := total, ledgerDay := day })
      (fillIn ticker pos fill) (fun _ => Current day) (Untouched day s) := by
  unfold fillIn
  cases averaged : averagedIn pos fill with
  | error error =>
      rw [averaged] at steady
      refine Triple.except_error (e := FillError.engine error) ?_
      rintro _ rfl
      exact refreshed_untouched synced figure steady
  | ok result =>
      rw [averaged] at steady
      obtain ⟨fee, added⟩ := steady
      rw [added]
      refine Triple.except_ok (Triple.modify_bind (Triple.except_ok (Triple.modify_from ?_)))
      exact ⟨rfl, figure⟩

end Step

theorem recordOnce_recordable {pnl : Decimal} {t : DailyStrategy Time Day}
    {R : DailyStrategy Time Day → Prop} (recordable : Recordable t call)
    (dated : utcDay call.now = some day) :
    Triple (fun t' => t' = t) (recordOnce utcDay call.id pnl call.now call.outcome)
      (fun _ t' => t' = { t with file := t.file.append ⟨call.id, day, pnl, call.now⟩ }) R := by
  have absent : (t.file.entries.find? fun entry => entry.eventId = call.id) = none :=
    List.find?_eq_none.mpr fun entry member =>
      by simpa using recordable.fresh entry member
  have readable : t.file.read = .ok t.file.entries := by
    rw [PnlFile.read, if_neg (by simp [recordable.whole])]
    rfl
  unfold recordOnce
  rw [if_neg (not_lt.mpr recordable.time), dayOf, dated, recordable.written]
  refine Triple.except_ok (Triple.read_bind ?_)
  rw [readable]
  refine Triple.except_ok ?_
  rw [absent]
  exact Triple.modify_bind (Triple.answer_from rfl)

theorem fillOut_steady {total : Decimal} {pos : Position Time} (synced : s.Synced)
    (dated : utcDay call.now = some day) (figure : s.file.total day = .ok total)
    (steady : match closingPnl pos call.fill with
      | .error _ => day = s.ledgerDay
      | .ok (pnl, part) =>
          match add total pnl with
          | .error _ => day = s.ledgerDay
          | .ok _ => Recordable s call ∧
              (∃ left, subtract pos.contracts (min call.fill.filled pos.contracts) = .ok left) ∧
              ∃ feeLeft, subtract pos.entryFeeUsd part = .ok feeLeft) :
    Triple (fun t => t = { s with realizedPnl := total, ledgerDay := day })
      (fillOut utcDay call pos) (fun _ => Current day) (Untouched day s) := by
  have stays : day = s.ledgerDay → ∀ t : DailyStrategy Time Day,
      t = { s with realizedPnl := total, ledgerDay := day } → Untouched day s t := by
    rintro same _ rfl
    exact refreshed_untouched synced figure same
  unfold fillOut
  cases closed : closingPnl pos call.fill with
  | error error =>
      rw [closed] at steady
      exact Triple.except_error (e := FillError.engine error) (stays steady)
  | ok result =>
      obtain ⟨pnl, part⟩ := result
      rw [closed] at steady
      refine Triple.except_ok (Triple.read_bind ?_)
      cases added : add total pnl with
      | error error =>
          simp only [added] at steady
          exact Triple.except_error (e := FillError.engine error) (stays steady)
      | ok realized =>
          simp only [added] at steady
          obtain ⟨recordable, ⟨left, held⟩, feeLeft, fees⟩ := steady
          have appended := total_append ⟨call.id, day, pnl, call.now⟩ recordable.whole
            figure rfl added
          refine Triple.except_ok (Triple.modify_bind ?_)
          have recordable' : Recordable { s with realizedPnl := realized, ledgerDay := day } call :=
            ⟨recordable.time, recordable.fresh, recordable.written, recordable.whole⟩
          refine Triple.bind (recordOnce_recordable recordable' dated) fun _ => ?_
          rw [held, fees]
          refine Triple.except_ok (Triple.modify_bind (Triple.except_ok (Triple.modify_bind ?_)))
          exact Triple.ite (fun _ => Triple.modify_from ⟨rfl, appended⟩)
            fun _ => Triple.answer_from ⟨rfl, appended⟩

/-- A steady call of a dated time ends current, and untouched if it raises. -/
theorem recordFill_steady (synced : s.Synced) (positive : 0 < call.fill.filled)
    (steady : Steady utcDay s call) (dated : utcDay call.now = some day) :
    Triple (fun t => t = s) (call.recordFill utcDay) (fun _ => Current day)
      (Untouched day s) := by
  obtain ⟨total, figure, branch⟩ := steady day dated
  have current := refreshed_current figure
  unfold LedgerCall.recordFill
  rw [if_neg (not_le.mpr positive)]
  refine refreshDay_current synced dated figure (Triple.read_bind ?_)
  show Triple _ (match call.side, s.position call.ticker with
    | .buy, none => _ | .buy, some pos => _ | .sell, none => _ | .sell, some pos => _) _ _
  cases side : call.side <;> cases found : s.position call.ticker <;>
    simp only [side, found] at branch
  · exact Triple.modify_from ⟨rfl, figure⟩
  · exact fillIn_steady synced figure branch
  · exact Triple.answer_from current
  · exact fillOut_steady synced dated figure branch

/-- A call at a time without a day raises before it changes anything. -/
theorem recordFill_undated (positive : 0 < call.fill.filled) (undated : utcDay call.now = none) :
    runFrom (call.recordFill utcDay) s =
      (.error .outOfRange, s) := by
  unfold LedgerCall.recordFill refreshDay dayOf
  rw [if_neg (not_le.mpr positive), undated]
  rfl

theorem step_in_step (synced : s.Synced) (positive : 0 < call.fill.filled)
    (steady : Steady utcDay s call) :
    InStep utcDay s call ∧ (call.after utcDay s).Synced := by
  cases dated : utcDay call.now with
  | none =>
      have run := recordFill_undated (s := s) positive dated
      have same : call.after utcDay s = s := congrArg Prod.snd run
      refine ⟨⟨fun day found => absurd found (by simp [dated]), ?_, ?_⟩, same.symm ▸ synced⟩
      · intro s' constructed
        simp [construct, dayOf, dated, bind, Except.bind, throw, throwThe,
          MonadExceptOf.throw] at constructed
      · exact fun _ _ => ⟨congrArg _ same, congrArg _ same⟩
  | some day =>
      have triple := recordFill_steady synced positive steady dated
      have reached : Current day (call.after utcDay s) :=
        Triple.after (triple.weaken (fun _ same => same) (fun _ _ current => current)
          fun _ untouched => untouched.current) rfl
      refine ⟨⟨fun day' found => ?_, fun s' constructed => ?_, fun error raised => ?_⟩, ?_⟩
      · rw [dated, Option.some.injEq] at found
        exact found ▸ reached.total
      · rw [construct, dayOf, dated] at constructed
        change (do
          let total ← (call.after utcDay s).file.total day
          pure (DailyStrategy.mk [] total day (call.after utcDay s).file)) = _ at constructed
        rw [reached.total] at constructed
        exact (congrArg DailyStrategy.realizedPnl (Except.ok.inj constructed)).symm
      · have ended := triple s rfl
        unfold LedgerCall.after
        revert ended raised
        cases runFrom (call.recordFill utcDay) s with
        | mk result t =>
            rintro rfl untouched
            exact ⟨untouched.positions, untouched.realized⟩
      · rw [DailyStrategy.Synced, reached.dated]
        exact reached.total

omit [LinearOrder Time] [Zero Time] in
theorem construct_synced {file : PnlFile Time Day} {now : Time}
    (constructed : construct utcDay file now = .ok s) : s.Synced := by
  unfold construct dayOf at constructed
  cases dated : utcDay now with
  | none =>
      rw [dated] at constructed
      cases constructed
  | some day =>
      rw [dated] at constructed
      change (file.total day >>= fun total => pure (DailyStrategy.mk [] total day file)) = _
        at constructed
      cases figure : file.total day with
      | error error =>
          rw [figure] at constructed
          cases constructed
      | ok total =>
          rw [figure] at constructed
          cases constructed
          exact figure

/-- In every run of a constructed strategy whose calls are steady, the total in
memory is the file's after each call, a restart resumes with it, and a call that
raises has changed nothing. -/
theorem ledger_in_step {file : PnlFile Time Day} {now : Time}
    (constructed : construct utcDay file now = .ok s) (calls : List (LedgerCall Time))
    (positive : ∀ call ∈ calls, 0 < call.fill.filled)
    (steady : EachCall utcDay (Steady utcDay) s calls) :
    EachCall utcDay (InStep utcDay) s calls := by
  have synced := construct_synced constructed
  clear constructed
  induction calls generalizing s with
  | nil => trivial
  | cons call rest ih =>
      obtain ⟨first, later⟩ := steady
      obtain ⟨step, next⟩ := step_in_step synced (positive call (List.mem_cons_self ..)) first
      exact ⟨step, ih (fun call member => positive call (List.mem_cons_of_mem _ member)) later next⟩

/-! ## A record the file already has -/

/-- The total a duplicate leaves in memory, with the file as it was. -/
def Ahead (s : DailyStrategy Time Day) (realized : Decimal) (t : DailyStrategy Time Day) : Prop :=
  t.file = s.file ∧ t.realizedPnl = realized

/-- A closing whose record the file already has counts in memory once more. -/
theorem duplicate_ahead {total pnl part realized : Decimal} {pos : Position Time}
    {seen : PnlEntry Time Day} (synced : s.Synced) (positive : 0 < call.fill.filled)
    (dated : utcDay call.now = some day) (figure : s.file.total day = .ok total)
    (sell : call.side = .sell) (held : s.position call.ticker = some pos)
    (closed : closingPnl pos call.fill = .ok (pnl, part)) (added : add total pnl = .ok realized)
    (time : 0 ≤ call.now) (readable : s.file.read = .ok s.file.entries)
    (duplicate : (s.file.entries.find? fun entry => entry.eventId = call.id) = some seen)
    (same : (seen.day, seen.value, seen.ts) = (day, pnl, call.now)) :
    Triple (fun t => t = s) (call.recordFill utcDay) (fun _ => Ahead s realized)
      (Ahead s realized) := by
  unfold LedgerCall.recordFill
  rw [if_neg (not_le.mpr positive)]
  refine refreshDay_current synced dated figure (Triple.read_bind ?_)
  show Triple _ (match call.side, s.position call.ticker with
    | .buy, none => _ | .buy, some pos => _ | .sell, none => _ | .sell, some pos => _) _ _
  rw [sell, held]
  show Triple _ (fillOut utcDay call pos) _ _
  rw [fillOut, closed]
  refine Triple.except_ok (Triple.read_bind ?_)
  rw [added]
  refine Triple.except_ok (Triple.modify_bind ?_)
  have known : Triple
      (fun t => t = { s with realizedPnl := realized, ledgerDay := day })
      (recordOnce utcDay call.id pnl call.now call.outcome)
      (fun _ t => t = { s with realizedPnl := realized, ledgerDay := day }) (Ahead s realized) := by
    unfold recordOnce
    rw [if_neg (not_lt.mpr time), dayOf, dated]
    refine Triple.except_ok (Triple.read_bind ?_)
    rw [readable]
    refine Triple.except_ok ?_
    rw [duplicate]
    exact Triple.ite (fun _ => Triple.answer_from rfl) fun other => absurd same other
  refine Triple.bind known fun _ => ?_
  have ahead (positions : List (String × Position Time)) :
      Ahead s realized { s with positions, realizedPnl := realized, ledgerDay := day } := ⟨rfl, rfl⟩
  refine Triple.except_bind (fun left _ => ?_) (by rintro _ rfl; exact ahead _)
  refine Triple.modify_bind (Triple.except_bind (fun feeLeft _ => ?_) ?_)
  rotate_left
  · rintro _ rfl
    exact ahead _
  exact Triple.modify_bind (Triple.ite (fun _ => Triple.modify_from (ahead _))
    fun _ => Triple.answer_from (ahead _))

section Repeated

open Decimal

def dollars (n : ℤ) : Decimal := ofDigits n 0

theorem dollars_value (n : ℤ) : (dollars n).value = n := by simp [dollars]

/-- Days of 86400 seconds from the epoch on. -/
def epochDay (ts : ℤ) : Option ℕ := if 0 ≤ ts then some (ts.toNat / 86400) else none

/-- A file with one closing, that lost a dollar. -/
def recordedFile : PnlFile ℤ ℕ := ⟨[⟨"fill-1", 0, dollars (-1), 5⟩], .whole⟩

def restarted : DailyStrategy ℤ ℕ := ⟨[], dollars (-1), 0, recordedFile⟩

def openingCall : LedgerCall ℤ :=
  ⟨"A", .buy, ⟨dollars 1, dollars 1, dollars 0⟩, 5, none, "made-1", .written⟩

/-- A closing at the entry price that costs its fee of a dollar. -/
def closingCall (id : String) : LedgerCall ℤ :=
  ⟨"A", .sell, ⟨dollars 1, dollars 1, dollars 1⟩, 5, some id, "made-2", .written⟩

def opened : Position ℤ := ⟨dollars 1, dollars 1, 5, dollars 0, none⟩

def openedStrategy : DailyStrategy ℤ ℕ := { restarted with positions := [("A", opened)] }

theorem subtract_dollars {m n : ℤ} (small : |m - n| < 10 ^ 28) :
    subtract (dollars m) (dollars n) = .ok (dollars (m - n)) :=
  subtract_exact (by simp [dollars_value]) small (by decide)

theorem one_positive : (0 : Decimal) < dollars 1 := by
  rw [lt_def, zero_value, dollars_value]
  norm_num

theorem recorded_total : recordedFile.total 0 = .ok (dollars (-1)) := by
  have folded : add 0 (dollars (-1)) = .ok (dollars (-1)) := by
    exact add_exact (by norm_num [dollars_value]) (by decide) (by decide)
  show ((add 0 (dollars (-1)) >>= pure).mapError FillError.engine) = _
  rw [folded]
  rfl

theorem restarted_constructed : construct epochDay recordedFile 5 = .ok restarted := by
  show (recordedFile.total 0 >>= fun total => pure (DailyStrategy.mk [] total 0 recordedFile)) = _
  rw [recorded_total]
  rfl

theorem opened_after (positive : 0 < openingCall.fill.filled) :
    openingCall.after epochDay restarted = openedStrategy := by
  unfold LedgerCall.after LedgerCall.recordFill
  rw [if_neg (not_le.mpr positive)]
  rfl

theorem closing_result (id : String) :
    closingPnl opened (closingCall id).fill = .ok (dollars (-1), dollars 0) := by
  have frac : divide (dollars 1) (dollars 1) = .ok (dollars 1) :=
    divide_exact (by norm_num [dollars_value]) (by norm_num [dollars_value]) (by decide) (by decide)
  have part : multiply (dollars 0) (dollars 1) = .ok (dollars 0) :=
    multiply_exact (by norm_num [dollars_value]) (by decide) (by decide)
  have move : subtract (dollars 1) (dollars 1) = .ok (dollars 0) := subtract_dollars (by decide)
  have gross : divide (dollars 0) hundred = .ok (dollars 0) := by
    have value : hundred.value = 100 := by
      show ((100 : ℕ) : ℚ) = 100
      norm_num
    exact divide_exact (by norm_num [value]) (by norm_num [value, dollars_value]) (by decide)
      (by decide)
  have net : subtract (dollars 0) (dollars 1) = .ok (dollars (-1)) := subtract_dollars (by decide)
  have pnl : subtract (dollars (-1)) (dollars 0) = .ok (dollars (-1)) := subtract_dollars (by decide)
  unfold closingPnl
  simp only [opened, closingCall, min_self, frac, part, move, gross, net, pnl, bind, Except.bind,
    pure, Except.pure]

theorem closing_added : add (dollars (-1)) (dollars (-1)) = .ok (dollars (-2)) :=
  add_exact (by norm_num [dollars_value]) (by decide) (by decide)

theorem opened_synced : openedStrategy.Synced := recorded_total

/-- The fill of a recorded closing, given again after a restart, is taken as
recorded by the file and counted once more in memory. -/
theorem repeated_event_counts_twice :
    construct epochDay recordedFile 5 = .ok restarted ∧
      (∀ call ∈ [openingCall, closingCall "fill-1"], 0 < call.fill.filled) ∧
      ¬EachCall epochDay (InStep epochDay) restarted [openingCall, closingCall "fill-1"] := by
  refine ⟨restarted_constructed, fun call member => ?_, fun each => ?_⟩
  · rcases List.mem_cons.mp member with rfl | member
    · exact one_positive
    · rw [List.mem_singleton.mp member]
      exact one_positive
  · have step := each.2.1
    rw [opened_after one_positive] at step
    have run : Ahead openedStrategy (dollars (-2)) ((closingCall "fill-1").after epochDay
        openedStrategy) := by
      have dated : epochDay (closingCall "fill-1").now = some 0 := rfl
      have triple := duplicate_ahead opened_synced one_positive dated recorded_total rfl rfl
        (closing_result "fill-1") closing_added (by decide) rfl rfl rfl
      exact Triple.after triple rfl
    have total := step.total 0 rfl
    rw [run.1, run.2] at total
    have same := Except.ok.inj (recorded_total.symm.trans total)
    have value := congrArg Decimal.value same
    norm_num [dollars_value] at value

/-- Under an id of its own the same closing is recorded. -/
theorem fresh_event_in_step :
    EachCall epochDay (InStep epochDay) restarted [openingCall, closingCall "fill-2"] := by
  refine ledger_in_step restarted_constructed _ (fun call member => ?_) ⟨?_, ?_, trivial⟩
  · rcases List.mem_cons.mp member with rfl | member
    · exact one_positive
    · rw [List.mem_singleton.mp member]
      exact one_positive
  · rintro day ⟨⟩
    exact ⟨dollars (-1), recorded_total, trivial⟩
  · rw [opened_after one_positive]
    rintro day ⟨⟩
    refine ⟨dollars (-1), recorded_total, ?_⟩
    have left : subtract (dollars 1) (dollars 1) = .ok (dollars 0) := subtract_dollars (by decide)
    have feeLeft : subtract (dollars 0) (dollars 0) = .ok (dollars 0) := subtract_dollars (by decide)
    show match closingPnl opened (closingCall "fill-2").fill with
      | .error _ => _
      | .ok (pnl, part) => _
    rw [closing_result]
    show match add (dollars (-1)) (dollars (-1)) with
      | .error _ => _
      | .ok _ => _
    rw [closing_added]
    refine ⟨⟨by decide, ?_, rfl, rfl⟩, ⟨dollars 0, ?_⟩, dollars 0, feeLeft⟩
    · intro entry member
      rw [List.mem_singleton.mp member]
      decide
    · rw [show min (closingCall "fill-2").fill.filled opened.contracts = dollars 1 from min_self _]
      exact left

end Repeated

end

end Inci.Trading
