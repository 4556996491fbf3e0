/-
# Trading.PaperOrders -- the life of a paper order

The executor's pending list under any mix of submissions, upgrades, cancellations
and processing calls.  Orders are values: an upgrade replaces one in place and a
cancellation removes by equality.  `PaperBook` follows the same list with each
order's place among the submissions, and keeps what has left it.
`follow_perform` says the two agree; `paper_order_lifecycle` is what the followed
list shows of a whole run.
-/
import Inci.Trading.Attempts
import Mathlib.Data.List.Nodup
import Mathlib.Data.List.Perm.Basic
import Mathlib.Tactic.NormNum

namespace Inci.Trading

open Inci.Theory

set_option autoImplicit false

variable {Time Day : Type} [LinearOrder Time] [Zero Time] [Add Time] [Sub Time] [DecidableEq Day]

/-! ## The calls -/

/-- The arguments of `submit_paper`, with the time it takes for the submission. -/
structure Submission (Time : Type) where
  ticker : String
  side : OrderSide
  contracts : Decimal
  reason : String
  submittedAt : Time
  limitPrice : Option Decimal
  entryPrice : Option Decimal
  entryContracts : Option Decimal
  entryFeeUsd : Option Decimal

inductive PaperCall (Time : Type) where
  | submit (submission : Submission Time) (feed : Feed Time)
  | upgrade (ticker reason : String)
  | cancel (ticker : Option String) (side : Option OrderSide)
  | process (now : Time) (ticker : Option String) (feed : Feed Time)

/-- What a call returns, or that it raises. -/
inductive PaperAnswer (Time : Type) where
  | submitted (order : Option (PendingPaperOrder Time))
  | upgraded (order : Option (PendingPaperOrder Time))
  | canceled (orders : List (PendingPaperOrder Time))
  | processed (results : List (PendingPaperOrder Time × Option Fill))
  | raised (error : EngineError)

namespace PendingPaperOrder

omit [Zero Time] [Add Time] [Sub Time]

/-- Whether a filter on ticker and side takes the order. -/
def fits (order : PendingPaperOrder Time) (ticker : Option String) (side : Option OrderSide) :
    Bool :=
  ticker.all (order.ticker = ·) && side.all (order.side = ·)

/-- Whether a processing call consumes the order. -/
def comesDue (order : PendingPaperOrder Time) (now : Time) (ticker : Option String) : Bool :=
  decide (order.dueAt ≤ now) && ticker.all (order.ticker = ·)

end PendingPaperOrder

section Calls

variable (inst : Installation Time Day) (paperTrading : Bool)

omit [LinearOrder Time] [Zero Time] [Sub Time] [DecidableEq Day] in
/-- The order `submit_paper` makes: the touch bounds an order without a limit of
its own, and a stop or a time exit has no bound. -/
def Submission.order (submission : Submission Time) (feed : Feed Time) :
    PendingPaperOrder Time where
  ticker := submission.ticker
  side := submission.side
  contracts := submission.contracts
  dueAt := submission.submittedAt + inst.cfg.simLatencyS
  reason := submission.reason
  limitPrice :=
    if isStop submission.reason ∨ isTime submission.reason then none
    else match submission.limitPrice, submission.side with
      | some limit, _ => some limit
      | none, .buy => (feed.topOfBook submission.ticker).ask
      | none, .sell => (feed.topOfBook submission.ticker).bid
  entryPrice := submission.entryPrice
  entryContracts := submission.entryContracts
  entryFeeUsd := submission.entryFeeUsd

/-- One call on the pending list. -/
def perform (pending : List (PendingPaperOrder Time)) :
    PaperCall Time → PaperAnswer Time × List (PendingPaperOrder Time)
  | .submit submission feed =>
      if ¬paperTrading then (.raised (.value "submit_paper called outside paper mode"), pending)
      else if ∃ order ∈ pending, order.ticker = submission.ticker then (.submitted none, pending)
      else (.submitted (some (submission.order inst feed)),
        pending ++ [submission.order inst feed])
  | .upgrade ticker reason =>
      (.upgraded ((pending.find? fun order => order.isFor ticker .sell).map (·.retag reason)),
        upgradeFirst ticker reason pending)
  | .cancel ticker side =>
      let canceled := pending.filter fun order => order.fits ticker side
      (.canceled canceled, pending.filter fun order => order ∉ canceled)
  | .process now ticker feed =>
      match attemptAll inst feed now (pending.filter fun order => order.comesDue now ticker) with
      | .ok results =>
          (.processed results, pending.filter fun order => ¬order.comesDue now ticker)
      | .error error => (.raised error, pending)

end Calls

/-! ## Following each order -/

/-- A working order: its place among the submissions, and its present value. -/
structure Working (Time : Type) where
  serial : ℕ
  current : PendingPaperOrder Time

/-- How an order left the list: canceled, or processed with at most one fill. -/
inductive Exit (Time : Type) where
  | canceled
  | processed (now : Time) (feed : Feed Time) (fill : Option Fill)

structure Departure (Time : Type) where
  order : Working Time
  exit : Exit Time

def Departure.returned (departure : Departure Time) : PendingPaperOrder Time × Exit Time :=
  (departure.order.current, departure.exit)

structure PaperBook (Time : Type) where
  working : List (Working Time)
  submitted : List (PendingPaperOrder Time)
  departed : List (Departure Time)

def PaperBook.empty : PaperBook Time := ⟨[], [], []⟩

def PaperBook.pending (book : PaperBook Time) : List (PendingPaperOrder Time) :=
  book.working.map Working.current

/-- `upgradeFirst` on the followed list. -/
def upgradeWorking (ticker reason : String) : List (Working Time) → List (Working Time)
  | [] => []
  | order :: rest =>
      if order.current.isFor ticker .sell then
        { order with current := order.current.retag reason } :: rest
      else order :: upgradeWorking ticker reason rest

section Follow

variable (inst : Installation Time Day) (paperTrading : Bool)

/-- One call on the followed list. -/
def PaperBook.follow (book : PaperBook Time) : PaperCall Time → PaperAnswer Time × PaperBook Time
  | .submit submission feed =>
      if ¬paperTrading then (.raised (.value "submit_paper called outside paper mode"), book)
      else if ∃ order ∈ book.pending, order.ticker = submission.ticker then
        (.submitted none, book)
      else (.submitted (some (submission.order inst feed)),
        { book with
          working := book.working ++ [⟨book.submitted.length, submission.order inst feed⟩]
          submitted := book.submitted ++ [submission.order inst feed] })
  | .upgrade ticker reason =>
      (.upgraded ((book.pending.find? fun order => order.isFor ticker .sell).map (·.retag reason)),
        { book with working := upgradeWorking ticker reason book.working })
  | .cancel ticker side =>
      let gone := book.working.filter fun order => order.current.fits ticker side
      (.canceled (gone.map Working.current),
        { book with
          working := book.working.filter fun order => ¬order.current.fits ticker side
          departed := book.departed ++ gone.map (⟨·, .canceled⟩) })
  | .process now ticker feed =>
      let due := book.working.filter fun order => order.current.comesDue now ticker
      match attemptAll inst feed now (due.map Working.current) with
      | .ok results =>
          (.processed results,
            { book with
              working := book.working.filter fun order => ¬order.current.comesDue now ticker
              departed := book.departed ++
                List.zipWith (fun order result => ⟨order, .processed now feed result.2⟩) due results })
      | .error error => (.raised error, book)

/-- A whole run on the pending list: the answers, and what is left. -/
def performAll (pending : List (PendingPaperOrder Time)) :
    List (PaperCall Time) → List (PaperAnswer Time) × List (PendingPaperOrder Time)
  | [] => ([], pending)
  | call :: rest =>
      let (answer, next) := perform inst paperTrading pending call
      let (answers, left) := performAll next rest
      (answer :: answers, left)

/-- The same run, followed. -/
def PaperBook.followAll (book : PaperBook Time) (calls : List (PaperCall Time)) : PaperBook Time :=
  calls.foldl (fun book call => (book.follow inst paperTrading call).2) book

end Follow

/-- The order a call put in the list. -/
def PaperAnswer.accepted : PaperAnswer Time → List (PendingPaperOrder Time)
  | .submitted (some order) => [order]
  | _ => []

/-- The orders a call took from the list, each with how. -/
def PaperAnswer.returned : PaperCall Time → PaperAnswer Time →
    List (PendingPaperOrder Time × Exit Time)
  | _, .canceled orders => orders.map (·, .canceled)
  | .process now _ feed, .processed results =>
      results.map fun result => (result.1, .processed now feed result.2)
  | _, _ => []

/-! ### The two lists agree -/

section Agree

variable (inst : Installation Time Day) (paperTrading : Bool)

omit [LinearOrder Time] [Zero Time] [Add Time] [Sub Time] [DecidableEq Day] in
theorem upgradeWorking_current (ticker reason : String) (working : List (Working Time)) :
    (upgradeWorking ticker reason working).map Working.current =
      upgradeFirst ticker reason (working.map Working.current) := by
  induction working with
  | nil => rfl
  | cons order rest ih =>
      by_cases first : order.current.isFor ticker .sell
      · simp [upgradeWorking, upgradeFirst, first]
      · simp [upgradeWorking, upgradeFirst, first, ih]

omit [LinearOrder Time] [Zero Time] [Add Time] [Sub Time] [DecidableEq Day] in
theorem upgradeWorking_serial (ticker reason : String) (working : List (Working Time)) :
    (upgradeWorking ticker reason working).map Working.serial = working.map Working.serial := by
  induction working with
  | nil => rfl
  | cons order rest ih =>
      by_cases first : order.current.isFor ticker .sell
      · simp [upgradeWorking, first]
      · simp [upgradeWorking, first, ih]

omit [Zero Time] [Add Time] [Sub Time] [DecidableEq Day] in
/-- A cancellation by equality removes what the filter takes, and no other order. -/
theorem filter_notMem_canceled (pending : List (PendingPaperOrder Time)) (ticker : Option String)
    (side : Option OrderSide) :
    (pending.filter fun order => order ∉ pending.filter fun order => order.fits ticker side) =
      pending.filter fun order => ¬order.fits ticker side := by
  apply List.filter_congr
  intro order member
  simp [member]

omit [Zero Time] [Sub Time] [DecidableEq Day] in
theorem follow_perform (book : PaperBook Time) (call : PaperCall Time) :
    perform inst paperTrading book.pending call =
      ((book.follow inst paperTrading call).1,
        (book.follow inst paperTrading call).2.pending) := by
  have filtered (kept : PendingPaperOrder Time → Bool) :
      book.pending.filter kept =
        (book.working.filter fun order => kept order.current).map Working.current :=
    List.filter_map
  cases call with
  | submit submission feed =>
      cases paperTrading with
      | false => rfl
      | true =>
          simp only [perform, PaperBook.follow]
          by_cases busy : ∃ order ∈ book.pending, order.ticker = submission.ticker
          · simp only [if_pos busy]
            rfl
          · simp only [if_neg busy]
            simp [PaperBook.pending]
  | upgrade ticker reason =>
      simp only [perform, PaperBook.follow, PaperBook.pending, upgradeWorking_current]
  | cancel ticker side =>
      have remaining := filter_notMem_canceled book.pending ticker side
      simp only [perform, PaperBook.follow]
      rw [remaining, filtered, filtered]
      rfl
  | process now ticker feed =>
      simp only [perform, PaperBook.follow, filtered]
      cases attemptAll inst feed now ((book.working.filter fun order =>
          order.current.comesDue now ticker).map Working.current) with
      | ok results => rfl
      | error error => rfl

omit [LinearOrder Time] [Zero Time] [Add Time] [Sub Time] in
/-- The due orders beside their answers, which come in their order. -/
theorem zipWith_answers {δ : Type} (g : PendingPaperOrder Time → Option Fill → δ)
    {due : List (Working Time)} {results : List (PendingPaperOrder Time × Option Fill)}
    (inOrder : results.map Prod.fst = due.map Working.current) :
    List.zipWith (fun order result => g order.current result.2) due results =
      results.map fun result => g result.1 result.2 := by
  induction due generalizing results with
  | nil =>
      rw [List.map_nil, List.map_eq_nil_iff] at inOrder
      rw [inOrder]
      rfl
  | cons order rest ih =>
      cases results with
      | nil => cases inOrder
      | cons result later =>
          obtain ⟨same, others⟩ := List.cons.inj inOrder
          rw [List.zipWith_cons_cons, List.map_cons, ih others, ← same]

omit [Zero Time] [Sub Time] [DecidableEq Day] in
/-- The followed list records what the answers say was put in and taken out. -/
theorem follow_recorded (book : PaperBook Time) (call : PaperCall Time) :
    (book.follow inst paperTrading call).2.submitted =
        book.submitted ++ (book.follow inst paperTrading call).1.accepted ∧
      (book.follow inst paperTrading call).2.departed.map Departure.returned =
        book.departed.map Departure.returned ++
          PaperAnswer.returned call (book.follow inst paperTrading call).1 := by
  cases call with
  | submit submission feed =>
      cases paperTrading with
      | false => exact ⟨(List.append_nil _).symm, (List.append_nil _).symm⟩
      | true =>
          simp only [PaperBook.follow]
          by_cases busy : ∃ order ∈ book.pending, order.ticker = submission.ticker
          · simp only [if_pos busy]
            exact ⟨(List.append_nil _).symm, (List.append_nil _).symm⟩
          · simp only [if_neg busy]
            exact ⟨rfl, (List.append_nil _).symm⟩
  | upgrade ticker reason => exact ⟨(List.append_nil _).symm, (List.append_nil _).symm⟩
  | cancel ticker side =>
      refine ⟨(List.append_nil _).symm, ?_⟩
      simp [PaperBook.follow, PaperAnswer.returned, Departure.returned]
  | process now ticker feed =>
      simp only [PaperBook.follow]
      cases attempted : attemptAll inst feed now ((book.working.filter fun order =>
          order.current.comesDue now ticker).map Working.current) with
      | ok results =>
          refine ⟨(List.append_nil _).symm, ?_⟩
          have inOrder := (attemptAll_attempted attempted).1
          have paired := zipWith_answers (fun order fill => (order, Exit.processed now feed fill))
            inOrder
          simp only [List.map_append, List.map_zipWith, PaperAnswer.returned, Departure.returned]
          rw [paired]
      | error error => exact ⟨(List.append_nil _).symm, (List.append_nil _).symm⟩

end Agree

/-! ## What a run keeps -/

/-- The value an order has come to: its own, or under an exit reason it was upgraded to. -/
def Descends (original current : PendingPaperOrder Time) : Prop :=
  current = original ∨ original.side = .sell ∧ ∃ reason, current = original.retag reason

/-- What a fill shows of the order as submitted, and of the value it had come to. -/
structure FillAllowed (inst : Installation Time Day) (original current : PendingPaperOrder Time)
    (now : Time) (feed : Feed Time) (fill : Fill) : Prop where
  unexpired : now ≤ original.dueAt + inst.cfg.fillTimeoutS
  positive : 0 < fill.filled
  within : fill.filled ≤ original.contracts
  displayed : ∃ depth, (feed.topOfBook original.ticker).displayed original.side = some depth ∧
    fill.filled ≤ depth
  bought : original.side = .buy → ∀ limit, original.limitPrice = some limit → fill.price ≤ limit
  sold : original.side = .sell → ¬isStop current.reason → ¬isTime current.reason →
    (∀ limit, current.limitPrice = some limit → limit ≤ fill.price) ∧
      ∃ projected, basisPnl original fill.price fill.filled fill.fee = .ok (some projected) ∧
        0 < projected

/-- An order is canceled, or processed when due with a fill that is allowed or none. -/
def Exit.Allowed (inst : Installation Time Day) (original current : PendingPaperOrder Time) :
    Exit Time → Prop
  | .canceled => True
  | .processed now feed fill => original.dueAt ≤ now ∧
      ∀ f, fill = some f → FillAllowed inst original current now feed f

/-- Every submitted order is working or has left once, and each came from what
was submitted in its place. -/
structure PaperBook.Sound (inst : Installation Time Day) (book : PaperBook Time) : Prop where
  counted : (book.working.map Working.serial ++ book.departed.map (·.order.serial)).Perm
    (List.range book.submitted.length)
  working : ∀ order ∈ book.working, ∃ original,
    book.submitted[order.serial]? = some original ∧ Descends original order.current
  departed : ∀ departure ∈ book.departed, ∃ original,
    book.submitted[departure.order.serial]? = some original ∧
      Descends original departure.order.current ∧
      departure.exit.Allowed inst original departure.order.current

section Keeping

variable {inst : Installation Time Day} {paperTrading : Bool}
  {original current : PendingPaperOrder Time}

omit [LinearOrder Time] [Zero Time] [Add Time] [Sub Time] [DecidableEq Day] in
/-- An upgrade keeps all but the reason and the bound. -/
theorem Descends.same (descends : Descends original current) :
    current.ticker = original.ticker ∧ current.side = original.side ∧
      current.contracts = original.contracts ∧ current.dueAt = original.dueAt := by
  rcases descends with rfl | ⟨-, reason, rfl⟩
  · exact ⟨rfl, rfl, rfl, rfl⟩
  · exact ⟨rfl, rfl, rfl, rfl⟩

omit [LinearOrder Time] [Zero Time] [Add Time] [Sub Time] [DecidableEq Day] in
theorem Descends.retag (descends : Descends original current) (sell : current.side = .sell)
    (reason : String) : Descends original (current.retag reason) := by
  rcases descends with rfl | ⟨side, first, rfl⟩
  · exact .inr ⟨sell, reason, rfl⟩
  · exact .inr ⟨side, reason, rfl⟩

omit [Zero Time] [Sub Time] [DecidableEq Day] in
theorem Descends.allowed {now : Time} {feed : Feed Time} {fill : Fill}
    (descends : Descends original current) (attempted : Attempted inst feed now current fill) :
    FillAllowed inst original current now feed fill := by
  obtain ⟨unexpired, ⟨positive, within, displayed, bought, sold⟩⟩ := attempted
  rcases descends with rfl | ⟨side, reason, rfl⟩
  · exact ⟨unexpired, positive, within, displayed, bought, sold⟩
  · refine ⟨unexpired, positive, within, displayed, fun buy => ?_, sold⟩
    cases side.symm.trans buy

omit [LinearOrder Time] [Zero Time] [Add Time] [Sub Time] [DecidableEq Day] in
theorem mem_upgradeWorking {ticker reason : String} {working : List (Working Time)}
    {order : Working Time} (member : order ∈ upgradeWorking ticker reason working) :
    order ∈ working ∨ ∃ before ∈ working, before.current.side = .sell ∧
      order = { before with current := before.current.retag reason } := by
  induction working with
  | nil => cases member
  | cons head rest ih =>
      by_cases first : head.current.isFor ticker .sell
      · rw [upgradeWorking, if_pos first] at member
        rcases List.mem_cons.mp member with rfl | later
        · exact .inr ⟨head, List.mem_cons_self .., first.2, rfl⟩
        · exact .inl (List.mem_cons_of_mem _ later)
      · rw [upgradeWorking, if_neg first] at member
        rcases List.mem_cons.mp member with rfl | later
        · exact .inl (List.mem_cons_self ..)
        · rcases ih later with there | ⟨before, there, found⟩
          · exact .inl (List.mem_cons_of_mem _ there)
          · exact .inr ⟨before, List.mem_cons_of_mem _ there, found⟩

omit [LinearOrder Time] [Zero Time] [Add Time] [Sub Time] [DecidableEq Day] in
/-- Orders that leave the working list for the departed keep the count. -/
theorem counted_leave {working : List (Working Time)} {departed left : List (Departure Time)}
    {total : ℕ} {leaves : Working Time → Bool}
    (counted : (working.map Working.serial ++ departed.map (·.order.serial)).Perm (List.range total))
    (gone : left.map (·.order.serial) = (working.filter leaves).map Working.serial) :
    (((working.filter fun order => ¬leaves order).map Working.serial) ++
      (departed ++ left).map (·.order.serial)).Perm (List.range total) := by
  have split : (working.filter leaves ++ working.filter fun order => ¬leaves order).Perm working := by
    simpa using List.filter_append_perm leaves working
  have serials := (split.map Working.serial).append_right (departed.map (·.order.serial))
  refine List.Perm.trans ?_ (serials.trans counted)
  rw [List.map_append, gone, List.map_append, ← List.append_assoc]
  exact List.perm_append_comm.trans (by rw [← List.append_assoc])

omit [LinearOrder Time] [Zero Time] [Add Time] [Sub Time] [DecidableEq Day] in
/-- The departures of a processing call: the due orders, each with its answer. -/
theorem zipWith_departures (now : Time) (feed : Feed Time) {due : List (Working Time)}
    {results : List (PendingPaperOrder Time × Option Fill)}
    (inOrder : results.map Prod.fst = due.map Working.current) :
    (List.zipWith (fun order result => Departure.mk order (.processed now feed result.2)) due
        results).map (·.order) = due ∧
      ∀ departure ∈ List.zipWith
          (fun order result => Departure.mk order (.processed now feed result.2)) due results,
        ∃ fill, departure.exit = .processed now feed fill ∧
          (departure.order.current, fill) ∈ results := by
  induction due generalizing results with
  | nil => exact ⟨rfl, fun _ member => by cases member⟩
  | cons order rest ih =>
      cases results with
      | nil => cases inOrder
      | cons result later =>
          obtain ⟨same, others⟩ := List.cons.inj inOrder
          obtain ⟨orders, each⟩ := ih others
          refine ⟨by rw [List.zipWith_cons_cons, List.map_cons, orders], fun departure member => ?_⟩
          rcases List.mem_cons.mp member with rfl | member
          · refine ⟨result.2, rfl, List.mem_cons.mpr (.inl ?_)⟩
            rw [← same]
          · obtain ⟨fill, exited, found⟩ := each departure member
            exact ⟨fill, exited, List.mem_cons_of_mem _ found⟩

omit [Zero Time] [Sub Time] [DecidableEq Day] in
theorem sound_empty : PaperBook.Sound inst (PaperBook.empty : PaperBook Time) :=
  ⟨.refl _, fun _ member => absurd member List.not_mem_nil,
    fun _ member => absurd member List.not_mem_nil⟩

omit [Zero Time] [Sub Time] [DecidableEq Day] in
theorem submit_sound {book : PaperBook Time} (sound : book.Sound inst)
    (order : PendingPaperOrder Time) :
    PaperBook.Sound inst { book with
      working := book.working ++ [⟨book.submitted.length, order⟩]
      submitted := book.submitted ++ [order] } := by
  have kept {serial : ℕ} {original : PendingPaperOrder Time}
      (found : book.submitted[serial]? = some original) :
      (book.submitted ++ [order])[serial]? = some original := by
    obtain ⟨inside, -⟩ := List.getElem?_eq_some_iff.mp found
    rwa [List.getElem?_append_left inside]
  constructor
  · have counted := sound.counted.append_right [book.submitted.length]
    rw [List.length_append, List.length_singleton, List.range_succ]
    refine List.Perm.trans ?_ counted
    rw [List.map_append, List.append_assoc, List.append_assoc]
    exact List.Perm.append_left _ List.perm_append_comm
  · intro o member
    rcases List.mem_append.mp member with before | last
    · obtain ⟨original, found, descends⟩ := sound.working o before
      exact ⟨original, kept found, descends⟩
    · rw [List.mem_singleton.mp last]
      exact ⟨order, List.getElem?_concat_length, .inl rfl⟩
  · intro departure member
    obtain ⟨original, found, rest⟩ := sound.departed departure member
    exact ⟨original, kept found, rest⟩

omit [Zero Time] [Sub Time] [DecidableEq Day] in
/-- Orders that leave as they may keep the book sound. -/
theorem leave_sound {book : PaperBook Time} {left : List (Departure Time)}
    {leaves : Working Time → Bool} (sound : book.Sound inst)
    (gone : left.map (·.order) = book.working.filter leaves)
    (allowed : ∀ departure ∈ left, ∀ original,
      Descends original departure.order.current →
        departure.exit.Allowed inst original departure.order.current) :
    PaperBook.Sound inst { book with
      working := book.working.filter fun order => ¬leaves order
      departed := book.departed ++ left } := by
  constructor
  · refine counted_leave sound.counted ?_
    rw [← gone, List.map_map]
    rfl
  · exact fun order member => sound.working order (List.mem_of_mem_filter member)
  · intro departure member
    rcases List.mem_append.mp member with before | now
    · exact sound.departed departure before
    · have there : departure.order ∈ book.working.filter leaves :=
        gone ▸ List.mem_map_of_mem now
      obtain ⟨original, found, descends⟩ := sound.working _ (List.mem_of_mem_filter there)
      exact ⟨original, found, descends, allowed departure now original descends⟩

omit [Zero Time] [Sub Time] [DecidableEq Day] in
theorem follow_sound {book : PaperBook Time} (sound : book.Sound inst) (call : PaperCall Time) :
    (book.follow inst paperTrading call).2.Sound inst := by
  cases call with
  | submit submission feed =>
      cases paperTrading with
      | false => exact sound
      | true =>
          simp only [PaperBook.follow]
          by_cases busy : ∃ order ∈ book.pending, order.ticker = submission.ticker
          · simp only [if_pos busy]
            exact sound
          · simp only [if_neg busy]
            exact submit_sound sound _
  | upgrade ticker reason =>
      refine ⟨?_, fun order member => ?_, sound.departed⟩
      · show ((upgradeWorking ticker reason book.working).map Working.serial ++ _).Perm _
        rw [upgradeWorking_serial]
        exact sound.counted
      · rcases mem_upgradeWorking member with there | ⟨before, there, sell, rfl⟩
        · exact sound.working order there
        · obtain ⟨original, found, descends⟩ := sound.working before there
          exact ⟨original, found, descends.retag sell reason⟩
  | cancel ticker side =>
      refine leave_sound sound ?_ fun departure member original _ => ?_
      · rw [List.map_map]
        exact List.map_id _
      · obtain ⟨order, -, rfl⟩ := List.mem_map.mp member
        trivial
  | process now ticker feed =>
      simp only [PaperBook.follow]
      cases attempted : attemptAll inst feed now ((book.working.filter fun order =>
          order.current.comesDue now ticker).map Working.current) with
      | error error => exact sound
      | ok results =>
          obtain ⟨inOrder, each⟩ := attemptAll_attempted attempted
          obtain ⟨orders, answered⟩ := zipWith_departures now feed inOrder
          refine leave_sound sound orders fun departure member original descends => ?_
          obtain ⟨fill, exited, found⟩ := answered departure member
          have there := orders ▸ List.mem_map_of_mem (f := Departure.order) member
          have comes := (List.mem_filter.mp there).2
          simp only [PendingPaperOrder.comesDue, Bool.and_eq_true, decide_eq_true_eq] at comes
          rw [exited]
          refine ⟨descends.same.2.2.2 ▸ comes.1, ?_⟩
          rintro f rfl
          exact descends.allowed (each _ f found)

omit [Zero Time] [Sub Time] [DecidableEq Day] in
theorem followAll_sound {book : PaperBook Time} (sound : book.Sound inst)
    (calls : List (PaperCall Time)) : (book.followAll inst paperTrading calls).Sound inst := by
  induction calls generalizing book with
  | nil => exact sound
  | cons call rest ih => exact ih (follow_sound sound call)

omit [Zero Time] [Sub Time] [DecidableEq Day] in
/-- The pending list after a run is the followed one, and what the followed list
records is what the answers of the run put in and took out. -/
theorem followAll_perform (inst : Installation Time Day) (paperTrading : Bool)
    (book : PaperBook Time) (calls : List (PaperCall Time)) :
    (performAll inst paperTrading book.pending calls).2 =
        (book.followAll inst paperTrading calls).pending ∧
      (book.followAll inst paperTrading calls).submitted = book.submitted ++
        (performAll inst paperTrading book.pending calls).1.flatMap PaperAnswer.accepted ∧
      (book.followAll inst paperTrading calls).departed.map Departure.returned =
        book.departed.map Departure.returned ++
          (List.zipWith PaperAnswer.returned calls
            (performAll inst paperTrading book.pending calls).1).flatten := by
  induction calls generalizing book with
  | nil => exact ⟨rfl, (List.append_nil _).symm, (List.append_nil _).symm⟩
  | cons call rest ih =>
      have step := follow_perform inst paperTrading book call
      obtain ⟨put, taken⟩ := follow_recorded inst paperTrading book call
      obtain ⟨left, submitted, departed⟩ := ih (book.follow inst paperTrading call).2
      have run : performAll inst paperTrading book.pending (call :: rest) =
          ((book.follow inst paperTrading call).1 ::
            (performAll inst paperTrading (book.follow inst paperTrading call).2.pending rest).1,
            (performAll inst paperTrading (book.follow inst paperTrading call).2.pending rest).2) := by
        rw [performAll, step]
      have next : book.followAll inst paperTrading (call :: rest) =
          (book.follow inst paperTrading call).2.followAll inst paperTrading rest := rfl
      rw [run, next]
      refine ⟨left, ?_, ?_⟩
      · rw [submitted, put, List.flatMap_cons, List.append_assoc]
      · rw [departed, taken, List.zipWith_cons_cons, List.flatten_cons, List.append_assoc]

end Keeping

omit [Zero Time] [Sub Time] [DecidableEq Day] in
/-- A processing call that returns leaves no order it found due. -/
theorem process_consumes {inst : Installation Time Day} {paperTrading : Bool}
    {pending left : List (PendingPaperOrder Time)} {now : Time} {ticker : Option String}
    {feed : Feed Time} {results : List (PendingPaperOrder Time × Option Fill)}
    (processed : perform inst paperTrading pending (.process now ticker feed) =
      (.processed results, left)) :
    ∀ order ∈ left, order.comesDue now ticker = false := by
  intro order member
  simp only [perform] at processed
  cases attempted : attemptAll inst feed now
      (pending.filter fun order => order.comesDue now ticker) with
  | error error =>
      rw [attempted] at processed
      cases processed
  | ok answers =>
      rw [attempted] at processed
      cases processed
      simpa using (List.mem_filter.mp member).2

omit [Zero Time] [Sub Time] [DecidableEq Day] in
/-- The life of a paper order over any run: the list a run leaves and what its
answers put in and took out are those of the followed orders; each submitted order
is still working or left exactly once, canceled or processed with at most one
fill, and never later than the first processing call that returns after it is
due; and every fill is in the window of the submission, within the order and the
display, at no worse a price than the order's bound, and for a take-profit SELL
at a profit over fees and cost basis as the decimal arithmetic computes it. -/
theorem paper_order_lifecycle (inst : Installation Time Day) (paperTrading : Bool)
    (calls : List (PaperCall Time)) :
    (performAll inst paperTrading [] calls).2 =
        (PaperBook.empty.followAll inst paperTrading calls).pending ∧
      (PaperBook.empty.followAll inst paperTrading calls).submitted =
        (performAll inst paperTrading [] calls).1.flatMap PaperAnswer.accepted ∧
      (PaperBook.empty.followAll inst paperTrading calls).departed.map Departure.returned =
        (List.zipWith PaperAnswer.returned calls
          (performAll inst paperTrading [] calls).1).flatten ∧
      (PaperBook.empty.followAll inst paperTrading calls).Sound inst ∧
      ∀ now ticker feed results left,
        perform inst paperTrading (performAll inst paperTrading [] calls).2
            (.process now ticker feed) = (.processed results, left) →
          ∀ order ∈ left, order.comesDue now ticker = false := by
  obtain ⟨left, submitted, departed⟩ :=
    followAll_perform inst paperTrading PaperBook.empty calls
  exact ⟨left, submitted, departed, followAll_sound sound_empty calls,
    fun _ _ _ _ _ => process_consumes⟩

/-! ## Past the last digit -/

section Rounded

open Decimal

/-- What a fill earns over fees and cost basis, exactly. -/
def exactPnl (order : PendingPaperOrder ℤ) (fill : Fill) : Option ℚ :=
  match order.entryPrice, order.entryContracts, order.entryFeeUsd with
  | some entryPrice, some entryContracts, some entryFee =>
      some ((fill.price.value - entryPrice.value) * fill.filled.value / 100 - fill.fee.value -
        entryFee.value * fill.filled.value / entryContracts.value)
  | _, _, _ => none

def half : Decimal := ofDigits 5 1

/-- A take-profit SELL of half a contract against a cost basis of thirty digits. -/
def closeCall : Submission ℤ :=
  ⟨"A", .sell, half, "", 0, none, some (ofDigits (99 * 10 ^ 28 - 6) 28), some half,
    some (ofDigits (5 * 10 ^ 27 + 4) 30)⟩

def settledFeed : Feed ℤ :=
  ⟨fun _ => ⟨some hundred, some 1, none, none⟩, fun _ => none, fun _ => []⟩

def plainCfg : Config ℤ where
  dipThreshold := 0
  lookbackSeconds := 0
  takeProfit := 0
  tpTrailCents := 0
  stopLoss := 0
  maxHoldSeconds := 0
  closeBufferSeconds := 0
  contractsPerTrade := 0
  maxOpenPositions := 0
  maxDailyLossUsd := 0
  minPrice := 0
  maxPrice := 0
  maxSpread := 0
  simLatencyS := 1
  simSlippageCents := 0
  balancePrecisionUsd := cent
  fillTimeoutS := 1
  staleDataS := 0
  oneContractPerEvent := false
  siblingSpikeCents := 0
  siblingSpikeLookbackS := 0

def plainInstallation : Installation ℤ ℕ :=
  ⟨plainCfg, fun _ => none, fun _ => 0, fun _ _ => "", fun _ _ => ""⟩

theorem hundred_value : hundred.value = 100 := by
  show ((100 : ℕ) : ℚ) = 100
  norm_num

theorem settled_fee : feeUsd hundred half .sell cent = .ok (ofDigits 0 0) := by
  have price : divide hundred hundred = .ok (ofDigits 1 0) :=
    divide_exact (by norm_num [hundred_value]) (by norm_num [hundred_value]) (by decide) (by decide)
  have scaled : multiply 1 seven = .ok (ofDigits 7 2) :=
    multiply_exact (by norm_num [seven]) (by decide) (by decide)
  have sized : multiply (ofDigits 7 2) half = .ok (ofDigits 35 3) :=
    multiply_exact (by norm_num [half]) (by decide) (by decide)
  have weighted : multiply (ofDigits 35 3) (ofDigits 1 0) = .ok (ofDigits 35 3) :=
    multiply_exact (by norm_num) (by decide) (by decide)
  have rest : subtract 1 (ofDigits 1 0) = .ok (ofDigits 0 0) :=
    subtract_exact (by norm_num) (by decide) (by decide)
  have raw : multiply (ofDigits 35 3) (ofDigits 0 0) = .ok (ofDigits 0 0) :=
    multiply_exact (by norm_num) (by decide) (by decide)
  have tradeFee : money (pythonContext.quantizeCeiling (ofDigits 0 0) 4) = .ok (ofDigits 0 0) := by
    unfold DecimalContext.quantizeCeiling
    rw [if_neg (by simp [pythonContext])]
    exact congrArg Except.ok (Decimal.ext' (by simp))
  have gross : multiply (ofDigits 1 0) half = .ok half :=
    multiply_exact (by norm_num [half]) (by decide) (by decide)
  have revenue : multiply half 1 = .ok half :=
    multiply_exact (by norm_num [half]) (by decide) (by decide)
  have change : subtract half (ofDigits 0 0) = .ok half :=
    subtract_exact (by norm_num [half]) (by decide) (by decide)
  have units : divide half cent = .ok (ofDigits 50 0) :=
    divide_exact (by norm_num [cent]) (by norm_num [half, cent]) (by decide) (by decide)
  have floored : multiply (ofDigits 50 0).toIntegralFloor cent = .ok half :=
    multiply_exact (by norm_num [half, cent, toIntegralFloor]) (by decide) (by decide)
  have rounding : subtract half half = .ok (ofDigits 0 0) :=
    subtract_exact (by norm_num) (by decide) (by decide)
  have whole : add (ofDigits 0 0) (ofDigits 0 0) = .ok (ofDigits 0 0) :=
    add_exact (by norm_num) (by decide) (by decide)
  have paid : ¬(half < 0 ∨ ¬(0 ≤ ofDigits 1 0 ∧ ofDigits 1 0 ≤ 1) ∨
      (cent ≠ cent ∧ cent ≠ centicent)) := by
    have positive : ¬half < 0 := by rw [lt_def]; norm_num [half]
    have low : (0 : Decimal) ≤ ofDigits 1 0 := by rw [le_def]; norm_num
    have high : ofDigits 1 0 ≤ 1 := by rw [le_def]; norm_num
    simp [positive, low, high]
  unfold feeUsd tradeFeeUsd
  simp only [price, paid, scaled, sized, weighted, rest, raw, tradeFee, gross, revenue, change,
    units, floored, rounding, whole, bind, Except.bind, if_false]

/-- The move has one digit too many, and rounds up. -/
theorem move_rounded :
    subtract hundred (ofDigits (99 * 10 ^ 28 - 6) 28) = .ok (ofDigits (10 ^ 27 + 1) 27) := by
  have exact : hundred.value - (ofDigits (99 * 10 ^ 28 - 6) 28).value = 1 + 6 / 10 ^ 28 := by
    norm_num [hundred_value]
  have quantum : pythonContext.quantum (1 + 6 / 10 ^ 28) = -27 := by
    rw [DecimalContext.quantum, abs_of_pos (by norm_num),
      DecimalContext.log_of_unit (by norm_num) (by norm_num)]
    decide
  have rounded : pythonContext.roundValue (1 + 6 / 10 ^ 28) = (10 ^ 27 + 1) * 10 ^ (-27 : ℤ) := by
    rw [DecimalContext.roundValue, if_neg (by norm_num), quantum]
    have scaled : roundHalfEven ((1 + 6 / 10 ^ 28) / 10 ^ (-27 : ℤ)) = 10 ^ 27 + 1 := by
      have floor : ⌊((1 : ℚ) + 6 / 10 ^ 28) / 10 ^ (-27 : ℤ)⌋ = 10 ^ 27 := by
        rw [Int.floor_eq_iff]
        norm_num
      unfold roundHalfEven
      rw [floor]
      norm_num
    rw [scaled]
    norm_num
  unfold subtract DecimalContext.subtract
  rw [exact, pythonContext.round_total _ (by decide) (by rw [rounded]; norm_num)]
  refine congrArg Except.ok (Decimal.ext' ?_)
  show pythonContext.roundValue _ = _
  rw [rounded]
  norm_num

def closeOrder : PendingPaperOrder ℤ := closeCall.order plainInstallation settledFeed

theorem close_projected : basisPnl closeOrder hundred half (ofDigits 0 0) =
    .ok (some (ofDigits 1 30)) := by
  have weighted : multiply (ofDigits (5 * 10 ^ 27 + 4) 30) half =
      .ok (ofDigits (25 * 10 ^ 26 + 2) 30) :=
    multiply_exact (by norm_num [half]) (by decide) (by decide)
  have part : divide (ofDigits (25 * 10 ^ 26 + 2) 30) half = .ok (ofDigits (5 * 10 ^ 27 + 4) 30) :=
    divide_exact (by norm_num [half]) (by norm_num [half]) (by decide) (by decide)
  have sized : multiply (ofDigits (10 ^ 27 + 1) 27) half = .ok (ofDigits (5 * 10 ^ 27 + 5) 28) :=
    multiply_exact (by norm_num [half]) (by decide) (by decide)
  have gross : divide (ofDigits (5 * 10 ^ 27 + 5) 28) hundred =
      .ok (ofDigits (5 * 10 ^ 27 + 5) 30) :=
    divide_exact (by norm_num [hundred_value]) (by norm_num [hundred_value]) (by decide) (by decide)
  have net : subtract (ofDigits (5 * 10 ^ 27 + 5) 30) (ofDigits 0 0) =
      .ok (ofDigits (5 * 10 ^ 27 + 5) 30) :=
    subtract_exact (by norm_num) (by decide) (by decide)
  have projected : subtract (ofDigits (5 * 10 ^ 27 + 5) 30) (ofDigits (5 * 10 ^ 27 + 4) 30) =
      .ok (ofDigits 1 30) :=
    subtract_exact (by norm_num) (by decide) (by decide)
  have usable : ¬(half ≤ 0 ∨ ofDigits (5 * 10 ^ 27 + 4) 30 < 0 ∨ half < half) := by
    have positive : ¬half ≤ 0 := by rw [le_def]; norm_num [half]
    have paid : ¬ofDigits (5 * 10 ^ 27 + 4) 30 < 0 := by rw [lt_def]; norm_num
    rintro (low | low | low)
    · exact positive low
    · exact paid low
    · exact lt_irrefl _ low
  show (if half ≤ 0 ∨ ofDigits (5 * 10 ^ 27 + 4) 30 < 0 ∨ half < half then _ else _) = _
  rw [if_neg usable]
  simp only [weighted, part, move_rounded, sized, gross, net, projected, bind, Except.bind, pure,
    Except.pure]

theorem close_filled :
    paperFill plainInstallation closeOrder (settledFeed.topOfBook "A") =
      .ok (some ⟨hundred, half, ofDigits 0 0⟩) := by
  have arrival : arrivalPrice plainInstallation closeOrder (settledFeed.topOfBook "A") =
      .ok (some (hundred, some 1)) := by
    have within : ¬∃ limit, closeOrder.limitPrice = some limit ∧ hundred < limit := by
      rintro ⟨limit, bound, above⟩
      cases bound
      exact lt_irrefl _ above
    have calm : ¬isStop closeOrder.reason ∧ ¬isTime closeOrder.reason := by decide
    have side : closeOrder.side = .sell := rfl
    have bid : (settledFeed.topOfBook "A").bid = some hundred := rfl
    unfold arrivalPrice
    rw [side, bid]
    dsimp only
    rw [if_neg calm.1, if_neg calm.2, if_neg within]
    rfl
  have size : min half ((some (1 : Decimal)).getD 0) = half := by
    refine min_eq_left ?_
    rw [le_def]
    norm_num [half]
  have some' : ¬half ≤ 0 := by
    rw [le_def]
    norm_num [half]
  have earns : ¬ofDigits 1 30 ≤ 0 := by
    rw [le_def]
    norm_num
  have calm : closeOrder.side = .sell ∧ ¬isStop closeOrder.reason ∧ ¬isTime closeOrder.reason := by
    decide
  have contracts : closeOrder.contracts = half := rfl
  have precision : plainInstallation.cfg.balancePrecisionUsd = cent := rfl
  unfold paperFill
  rw [arrival]
  simp only [bind, Except.bind, pure, Except.pure, contracts, precision, size, some', if_false,
    calm.1, Bool.false_eq_true, settled_fee]
  rw [if_pos ⟨trivial, calm.2⟩, close_projected]
  simp only [earns, if_false]

/-- A take-profit SELL can fill at an exact loss, of less than the last digit of
what the decimal arithmetic computes. -/
theorem close_fills_at_exact_loss :
    (performAll plainInstallation true [] [.submit closeCall settledFeed,
        .process 1 none settledFeed]).1 =
      [.submitted (some closeOrder),
        .processed [(closeOrder, some ⟨hundred, half, ofDigits 0 0⟩)]] ∧
    closeOrder.side = .sell ∧ ¬isStop closeOrder.reason ∧ ¬isTime closeOrder.reason ∧
    ∃ pnl, exactPnl closeOrder ⟨hundred, half, ofDigits 0 0⟩ = some pnl ∧ pnl < 0 := by
  refine ⟨?_, rfl, by decide, by decide, _, rfl, ?_⟩
  · have attempted : attemptAll plainInstallation settledFeed 1 [closeOrder] =
        .ok [(closeOrder, some ⟨hundred, half, ofDigits 0 0⟩)] := by
      rw [attemptAll, if_neg (by decide), show closeOrder.ticker = "A" from rfl, close_filled]
      rfl
    have processed : perform plainInstallation true [closeOrder] (.process 1 none settledFeed) =
        (.processed [(closeOrder, some ⟨hundred, half, ofDigits 0 0⟩)], []) := by
      have due : ([closeOrder].filter fun order => order.comesDue 1 none) = [closeOrder] := rfl
      simp only [perform]
      rw [due, attempted]
      rfl
    have submitted : perform plainInstallation true [] (.submit closeCall settledFeed) =
        (.submitted (some closeOrder), [closeOrder]) := rfl
    rw [performAll, submitted]
    dsimp only
    rw [performAll, processed]
    rfl
  · norm_num [half, hundred_value]

end Rounded
end Inci.Trading
