/-
# Trading.OrderJournal -- the durable record of live orders

Every live order leaves a line before it is sent, one when the exchange has
acknowledged it, one with its outcome and one when the fill has been applied.
After a restart `unresolved` finds the orders without an outcome, by their client
order id, and `unappliedOutcomes` the filled outcomes without an applied line, by
the exchange's order id.

Both are characterized by the lines of the journal, in whatever order they
stand: `unresolved_of_submitted`, `done_of_resolved` and `unapplied_of_outcome`.
-/
import Inci.Theory.Dict
import Inci.Trading.Contracts

namespace Inci.Trading

open Inci.Theory

set_option autoImplicit false

/-- `KNOWN_ORDER_STATUSES` -/
inductive OrderStatus where
  | resting
  | executed
  | canceled
  deriving DecidableEq

/-- `TERMINAL_ORDER_STATUSES` -/
def OrderStatus.terminal : OrderStatus → Bool
  | .resting => false
  | .executed | .canceled => true

inductive JournalEvent where
  | submitted
  | acked
  | outcome
  | submitFailed
  | applied
  deriving DecidableEq

/-- A line of the journal.  A field it does not have is absent. -/
structure JournalEntry where
  event : JournalEvent
  clientOrderId : Option String := none
  orderId : Option String := none
  ticker : Option String := none
  side : Option OrderSide := none
  count : Option Decimal := none
  price : Option Decimal := none
  prePosition : Option Decimal := none
  ackFill : Option Decimal := none
  ackRemaining : Option Decimal := none
  ackClientOrderId : Option String := none
  status : Option OrderStatus := none
  filled : Option Decimal := none
  remaining : Option Decimal := none
  canceled : Option Decimal := none
  avgPrice : Option Decimal := none
  fee : Option Decimal := none
  apiPosition : Option Decimal := none
  recoveredOnStartup : Bool := false

namespace JournalEntry

/-- `dict.update` with an acknowledgement's fields, its event and its client order id apart. -/
def update (e acked : JournalEntry) : JournalEntry where
  event := e.event
  clientOrderId := e.clientOrderId
  orderId := acked.orderId <|> e.orderId
  ticker := acked.ticker <|> e.ticker
  side := acked.side <|> e.side
  count := acked.count <|> e.count
  price := acked.price <|> e.price
  prePosition := acked.prePosition <|> e.prePosition
  ackFill := acked.ackFill <|> e.ackFill
  ackRemaining := acked.ackRemaining <|> e.ackRemaining
  ackClientOrderId := acked.ackClientOrderId <|> e.ackClientOrderId
  status := acked.status <|> e.status
  filled := acked.filled <|> e.filled
  remaining := acked.remaining <|> e.remaining
  canceled := acked.canceled <|> e.canceled
  avgPrice := acked.avgPrice <|> e.avgPrice
  fee := acked.fee <|> e.fee
  apiPosition := acked.apiPosition <|> e.apiPosition
  recoveredOnStartup := acked.recoveredOnStartup || e.recoveredOnStartup

/-- The line ends its client order's resolution. -/
def Done (e : JournalEntry) : Prop := e.event = .outcome ∨ e.event = .submitFailed

instance (e : JournalEntry) : Decidable e.Done := inferInstanceAs (Decidable (_ ∨ _))

/-- `float(...) != 0`: up to half the smallest double a number becomes zero. -/
def floatNonzero (x : Decimal) : Prop := (2 : ℚ) ^ (-1075 : ℤ) < |x.value|

instance (x : Decimal) : Decidable (floatNonzero x) := inferInstanceAs (Decidable (_ < _))

/-- The line is an outcome with a fill. -/
def Filled (e : JournalEntry) : Prop := e.event = .outcome ∧ floatNonzero (e.filled.getD 0)

instance (e : JournalEntry) : Decidable e.Filled := inferInstanceAs (Decidable (_ ∧ _))

end JournalEntry

abbrev OrderEntries (κ : Type) := List (κ × JournalEntry)

/-! ## Unresolved orders -/

/-- The dictionaries and the set `unresolved` fills. -/
structure Submissions where
  submitted : OrderEntries (Option String) := []
  acked : OrderEntries (Option String) := []
  done : List (Option String) := []

def Submissions.note (x : Submissions) (e : JournalEntry) : Submissions :=
  match e.event with
  | .submitted => { x with submitted := Dict.put x.submitted e.clientOrderId e }
  | .acked => { x with acked := Dict.put x.acked e.clientOrderId e }
  | .outcome | .submitFailed => { x with done := e.clientOrderId :: x.done }
  | .applied => x

def submissions (journal : List JournalEntry) : Submissions := journal.foldl Submissions.note {}

def unresolved (journal : List JournalEntry) : List JournalEntry :=
  let x := submissions journal
  (x.submitted.filter fun entry => entry.1 ∉ x.done).map fun entry =>
    match Dict.get x.acked entry.1 with
    | some acked => entry.2.update acked
    | none => entry.2

section Unresolved

variable {journal : List JournalEntry} {cid : Option String}

theorem submissions_concat (e : JournalEntry) :
    submissions (journal ++ [e]) = (submissions journal).note e := by
  simp [submissions, List.foldl_append]

theorem mem_submitted :
    cid ∈ Dict.keys (submissions journal).submitted ↔
      ∃ e ∈ journal, e.event = .submitted ∧ e.clientOrderId = cid := by
  induction journal using List.reverseRecOn with
  | nil => simp [submissions, Dict.keys]
  | append_singleton before e ih =>
      rw [submissions_concat]
      cases event : e.event with
      | submitted =>
          simp only [Submissions.note, event, Dict.mem_keys_put, ih]
          grind
      | acked | outcome | submitFailed | applied =>
          simp only [Submissions.note, event, ih]
          grind

theorem mem_done :
    cid ∈ (submissions journal).done ↔ ∃ e ∈ journal, e.Done ∧ e.clientOrderId = cid := by
  induction journal using List.reverseRecOn with
  | nil => simp [submissions]
  | append_singleton before e ih =>
      rw [submissions_concat]
      cases event : e.event with
      | outcome | submitFailed =>
          simp only [Submissions.note, event, List.mem_cons, ih]
          grind [JournalEntry.Done]
      | submitted | acked | applied =>
          simp only [Submissions.note, event, ih]
          grind [JournalEntry.Done]

/-- A submitted order stands under its own client order id. -/
theorem submitted_keyed : ∀ entry ∈ (submissions journal).submitted,
    entry.2.clientOrderId = entry.1 := by
  induction journal using List.reverseRecOn with
  | nil => exact fun _ member => absurd member List.not_mem_nil
  | append_singleton before e ih =>
      rw [submissions_concat]
      cases event : e.event with
      | submitted =>
          simp only [Submissions.note, event]
          exact Dict.forall_put ih rfl
      | acked | outcome | submitFailed | applied => simpa only [Submissions.note, event] using ih

theorem mem_unresolved_id :
    (∃ e ∈ unresolved journal, e.clientOrderId = cid) ↔
      cid ∈ Dict.keys (submissions journal).submitted ∧ cid ∉ (submissions journal).done := by
  have sameId : ∀ entry ∈ (submissions journal).submitted,
      (match Dict.get (submissions journal).acked entry.1 with
        | some acked => entry.2.update acked
        | none => entry.2).clientOrderId = entry.1 := by
    intro entry member
    have keyed := submitted_keyed entry member
    cases Dict.get (submissions journal).acked entry.1 <;> exact keyed
  constructor
  · rintro ⟨e, member, rfl⟩
    obtain ⟨entry, kept, rfl⟩ := List.mem_map.mp member
    obtain ⟨there, open'⟩ := List.mem_filter.mp kept
    rw [sameId entry there]
    exact ⟨List.mem_map_of_mem there, of_decide_eq_true open'⟩
  · rintro ⟨there, notDone⟩
    obtain ⟨entry, member, rfl⟩ := List.mem_map.mp there
    exact ⟨_, List.mem_map_of_mem (List.mem_filter.mpr ⟨member, decide_eq_true notDone⟩),
      sameId entry member⟩

/-- A submitted order without an outcome is unresolved. -/
theorem unresolved_of_submitted {e : JournalEntry} (member : e ∈ journal)
    (submitted : e.event = .submitted) (pending : ∀ d ∈ journal, d.Done →
      d.clientOrderId ≠ e.clientOrderId) :
    ∃ u ∈ unresolved journal, u.clientOrderId = e.clientOrderId := by
  refine mem_unresolved_id.mpr ⟨mem_submitted.mpr ⟨e, member, submitted, rfl⟩, ?_⟩
  intro ended
  obtain ⟨d, there, done, same⟩ := mem_done.mp ended
  exact pending d there done same

/-- An unresolved order was submitted and no line ends it. -/
theorem unresolved_open {u : JournalEntry} (member : u ∈ unresolved journal) :
    (∃ e ∈ journal, e.event = .submitted ∧ e.clientOrderId = u.clientOrderId) ∧
      ∀ d ∈ journal, d.Done → d.clientOrderId ≠ u.clientOrderId := by
  obtain ⟨submitted, notDone⟩ := mem_unresolved_id.mp ⟨u, member, rfl⟩
  exact ⟨mem_submitted.mp submitted, fun d there done same =>
    notDone (mem_done.mpr ⟨d, there, done, same⟩)⟩

/-- Where no order is unresolved every submitted order has its ending. -/
theorem done_of_resolved (resolved : unresolved journal = []) {e : JournalEntry}
    (member : e ∈ journal) (submitted : e.event = .submitted) :
    ∃ d ∈ journal, d.Done ∧ d.clientOrderId = e.clientOrderId := by
  by_contra none
  push Not at none
  obtain ⟨u, there, _⟩ := unresolved_of_submitted member submitted
    fun d at' done => none d at' done
  rw [resolved] at there
  exact absurd there List.not_mem_nil

end Unresolved

/-! ## Unapplied outcomes -/

/-- The dictionary and the set `unapplied_outcomes` fills. -/
structure Outcomes where
  outcomes : OrderEntries String := []
  applied : List String := []

def Outcomes.note (x : Outcomes) (e : JournalEntry) : Outcomes :=
  match e.orderId with
  | some id =>
      if id = "" then x
      else if e.Filled then { x with outcomes := Dict.put x.outcomes id e }
      else if e.event = .applied then { x with applied := id :: x.applied }
      else x
  | none => x

def outcomes (journal : List JournalEntry) : Outcomes := journal.foldl Outcomes.note {}

def unappliedOutcomes (journal : List JournalEntry) : List JournalEntry :=
  let x := outcomes journal
  (x.outcomes.filter fun entry => entry.1 ∉ x.applied).map Prod.snd

section Unapplied

variable {journal : List JournalEntry} {id : String}

theorem outcomes_concat (e : JournalEntry) :
    outcomes (journal ++ [e]) = (outcomes journal).note e := by
  simp [outcomes, List.foldl_append]

theorem mem_outcomes :
    id ∈ Dict.keys (outcomes journal).outcomes ↔
      id ≠ "" ∧ ∃ e ∈ journal, e.Filled ∧ e.orderId = some id := by
  induction journal using List.reverseRecOn with
  | nil => simp [outcomes, Dict.keys]
  | append_singleton before e ih =>
      rw [outcomes_concat]
      unfold Outcomes.note
      cases known : e.orderId with
      | none =>
          simp only [ih]
          grind
      | some other =>
          simp only
          split_ifs <;> simp only [Dict.mem_keys_put, ih] <;> grind

theorem mem_applied :
    id ∈ (outcomes journal).applied ↔
      id ≠ "" ∧ ∃ e ∈ journal, e.event = .applied ∧ e.orderId = some id := by
  induction journal using List.reverseRecOn with
  | nil => simp [outcomes]
  | append_singleton before e ih =>
      rw [outcomes_concat]
      unfold Outcomes.note
      cases known : e.orderId with
      | none =>
          simp only [ih]
          grind
      | some other =>
          simp only
          split_ifs with empty filled applied
          · grind
          · have event : e.event = .outcome := filled.1
            simp only [ih]
            grind
          · simp only [List.mem_cons, ih]
            grind
          · grind

/-- A filled outcome stands under its own order id. -/
theorem outcomes_keyed : ∀ entry ∈ (outcomes journal).outcomes,
    entry.2.orderId = some entry.1 := by
  induction journal using List.reverseRecOn with
  | nil => exact fun _ member => absurd member List.not_mem_nil
  | append_singleton before e ih =>
      rw [outcomes_concat]
      unfold Outcomes.note
      cases known : e.orderId with
      | none => exact ih
      | some id =>
          simp only
          split_ifs
          · exact ih
          · exact Dict.forall_put ih known
          · exact ih
          · exact ih

theorem mem_unapplied_id :
    (∃ u ∈ unappliedOutcomes journal, u.orderId = some id) ↔
      id ∈ Dict.keys (outcomes journal).outcomes ∧ id ∉ (outcomes journal).applied := by
  constructor
  · rintro ⟨u, member, known⟩
    obtain ⟨entry, kept, rfl⟩ := List.mem_map.mp member
    obtain ⟨there, pending⟩ := List.mem_filter.mp kept
    have same : entry.1 = id := Option.some.inj ((outcomes_keyed entry there).symm.trans known)
    subst same
    exact ⟨List.mem_map_of_mem there, of_decide_eq_true pending⟩
  · rintro ⟨there, pending⟩
    obtain ⟨entry, member, rfl⟩ := List.mem_map.mp there
    exact ⟨entry.2, List.mem_map_of_mem (List.mem_filter.mpr ⟨member, decide_eq_true pending⟩),
      outcomes_keyed entry member⟩

/-- A filled outcome is unapplied until a line applies its order id. -/
theorem unapplied_of_outcome {e : JournalEntry} (member : e ∈ journal) (filled : e.Filled)
    (known : e.orderId = some id) (named : id ≠ "")
    (pending : ∀ d ∈ journal, d.event = .applied → d.orderId ≠ some id) :
    ∃ u ∈ unappliedOutcomes journal, u.orderId = some id := by
  refine mem_unapplied_id.mpr ⟨mem_outcomes.mpr ⟨named, e, member, filled, known⟩, fun applied => ?_⟩
  obtain ⟨_, d, there, event, same⟩ := mem_applied.mp applied
  exact pending d there event same

/-- Lines that apply nothing leave a filled outcome unapplied. -/
theorem unapplied_persists {later : List JournalEntry} (blocked : unappliedOutcomes journal ≠ [])
    (nothing : ∀ e ∈ later, e.event ≠ .applied) : unappliedOutcomes (journal ++ later) ≠ [] := by
  obtain ⟨u, member⟩ := List.exists_mem_of_ne_nil _ blocked
  obtain ⟨entry, kept, rfl⟩ := List.mem_map.mp member
  have known := outcomes_keyed entry (List.mem_filter.mp kept).1
  obtain ⟨found, pending⟩ := mem_unapplied_id.mp ⟨entry.2, member, known⟩
  obtain ⟨named, e, there, filled, same⟩ := mem_outcomes.mp found
  have still : ∃ v ∈ unappliedOutcomes (journal ++ later), v.orderId = some entry.1 := by
    refine unapplied_of_outcome (List.mem_append_left _ there) filled same named ?_
    intro d place event applied
    rcases List.mem_append.mp place with before | after
    · exact pending (mem_applied.mpr ⟨named, d, before, event, applied⟩)
    · exact nothing d after event
  obtain ⟨v, place, _⟩ := still
  exact List.ne_nil_of_mem place

end Unapplied

end Inci.Trading
