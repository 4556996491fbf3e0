/-
# Market.Standing -- a book's market and clocks go one way

A market status reaches a book inside a snapshot or a lifecycle event, and both
ask one table whether it may follow.  So over a run the status follows the table:
a finished market stays finished, a settled or cancelled one stays as it is, and
no market goes back to before its opening.  The place of the book in its feed and
both its clocks never go back either.
-/
import Mathlib.Data.Prod.Lex
import Mathlib.Logic.Relation
import Inci.Market.Reconstruction

namespace Inci.Market

open Inci.Theory Inci.Expert

set_option autoImplicit false

/-! ## The table -/

/-- The statuses a market ends in. -/
def finishedStatuses : List MarketStatus := [.closed, .settled, .cancelled]

/-- The table lets one status follow another. -/
def Follows (current incoming : MarketStatus) : Prop :=
  statusTransitionAllowed current incoming = true

abbrev Leads (first last : MarketStatus) : Prop := Relation.ReflTransGen Follows first last

/-- What each step of the table keeps, a chain of steps keeps. -/
theorem Leads.keeps (kept : MarketStatus → Prop)
    (keeps : ∀ current incoming, Follows current incoming → kept current → kept incoming)
    {first last : MarketStatus} (leads : Leads first last) (holds : kept first) : kept last := by
  induction leads with
  | refl => exact holds
  | tail _ step ih => exact keeps _ _ step ih

theorem Leads.finished {first last : MarketStatus} (leads : Leads first last)
    (done : first ∈ finishedStatuses) : last ∈ finishedStatuses := by
  refine Leads.keeps (· ∈ finishedStatuses) ?_ leads done
  intro current incoming step
  cases current <;> cases incoming <;> revert step <;> unfold Follows <;> decide

theorem Leads.final {first last : MarketStatus} (leads : Leads first last)
    (done : first = .settled ∨ first = .cancelled) : last = first := by
  refine Leads.keeps (· = first) ?_ leads rfl
  rintro current incoming step rfl
  rcases done with rfl | rfl <;> cases incoming <;> revert step <;> unfold Follows <;> decide

theorem Leads.opened {first last : MarketStatus} (leads : Leads first last)
    (opened : first ≠ .preopen) : last ≠ .preopen := by
  refine Leads.keeps (· ≠ .preopen) ?_ leads opened
  intro current incoming step
  cases current <;> cases incoming <;> revert step <;> unfold Follows <;> decide

/-! ## One operation -/

/-- A later state of a book. -/
structure Onward (s t : BookState) : Prop where
  status : Leads s.marketStatus t.marketStatus
  place : toLex (s.connectionEpoch, s.sequence) ≤ toLex (t.connectionEpoch, t.sequence)
  bookTime : s.bookObservedMonotonicNs ≤ t.bookObservedMonotonicNs
  lifecycleTime : s.lifecycleObservedMonotonicNs ≤ t.lifecycleObservedMonotonicNs

theorem Onward.refl (s : BookState) : Onward s s := ⟨.refl, le_rfl, le_rfl, le_rfl⟩

theorem Onward.trans {s t u : BookState} (first : Onward s t) (second : Onward t u) : Onward s u :=
  ⟨first.status.trans second.status, first.place.trans second.place,
    first.bookTime.trans second.bookTime, first.lifecycleTime.trans second.lifecycleTime⟩

theorem onward_gapped (s : BookState) : Onward s (gapped s) := ⟨.refl, le_rfl, le_rfl, le_rfl⟩

theorem onward_snapshot {s : BookState} {snapshot : BookSnapshot} {move : Decimal} {digest : String}
    (replaceable : Replaceable s snapshot)
    (allowed : statusTransitionAllowed s.marketStatus snapshot.marketStatus = true) :
    Onward s (snapshotState snapshot move digest) := by
  refine ⟨.single allowed, ?_, replaceable.bookTime, replaceable.lifecycleTime⟩
  rw [Prod.Lex.toLex_le_toLex]
  exact .inl replaceable.newer

theorem onward_delta {s : BookState} {delta : BookDelta} {yesBids noBids : List BookLevel}
    {move : Decimal} {digest : String} (inSequence : InSequence s delta) :
    Onward s (deltaState s delta yesBids noBids move digest) := by
  refine ⟨.refl, ?_, inSequence.time, le_rfl⟩
  have next := inSequence.sequence
  rw [Prod.Lex.toLex_le_toLex]
  refine .inr ⟨inSequence.epoch.symm, ?_⟩
  show s.sequence ≤ delta.sequence
  omega

/-- Whatever is called on a book, it goes onward. -/
theorem stepBook_onward (s : BookState) (call : BookCall) : Onward s (stepBook s call).1 := by
  unfold stepBook
  cases answer : callBook s call with
  | error _ => exact Onward.refl s
  | ok next =>
      cases call with
      | snapshot snapshot =>
          obtain ⟨r, returned, rfl⟩ := map_eq_ok.mp answer
          obtain ⟨replaceable, ⟨-, -, rfl⟩ | ⟨allowed, move, digest, -, -, -, rfl⟩⟩ :=
            applyBookSnapshot_cases returned
          · exact onward_gapped s
          · exact onward_snapshot replaceable allowed
      | delta delta =>
          obtain ⟨r, returned, rfl⟩ := map_eq_ok.mp answer
          obtain ⟨-, -, -, -, ⟨-, rfl⟩ | ⟨inSequence, yesBids, noBids, move, digest, -, -, -, rfl⟩⟩ :=
            applyBookDelta_cases returned
          · exact onward_gapped s
          · exact onward_delta inSequence
      | lifecycle lifecycle =>
          obtain ⟨r, returned, rfl⟩ := map_eq_ok.mp answer
          obtain ⟨-, -, ⟨-, rfl⟩ | rfl | ⟨-, later, allowed, digest, -, -, rfl⟩⟩ :=
            applyMarketLifecycle_cases returned
          · exact onward_gapped s
          · exact Onward.refl s
          · exact ⟨.single allowed, le_rfl, le_rfl, later.le⟩
      | resnapshot =>
          obtain ⟨t, returned, rfl⟩ := map_eq_ok.mp answer
          rcases requireBookResnapshot_cases returned with ⟨-, -, rfl⟩ | ⟨-, rfl⟩
          · exact Onward.refl _
          · exact onward_gapped s

theorem BookState.move_le_book {s : BookState} (good : s.postInit = .ok ()) :
    s.lastExecutableMoveMonotonicNs ≤ s.bookObservedMonotonicNs := by
  simp only [BookState.postInit, bind_eq_ok, exists_unit, refuse_eq_ok, not_lt] at good
  obtain ⟨-, -, -, -, -, -, -, -, -, -, -, -, -, -, ordered, -⟩ := good
  exact ordered

/-! ## Runs -/

theorem runBook_onward (calls : List BookCall) :
    ∀ s : BookState, Onward s (runBook s calls).1 := by
  induction calls with
  | nil => exact Onward.refl
  | cons call rest ih => exact fun s => (stepBook_onward s call).trans (ih _)

/-- Of any two states of a run the later one follows the earlier one's market
status by the table and is behind it neither in its feed nor in its clocks; and
no state is moved after it is observed. -/
theorem book_goes_onward (first : BookSnapshot) (opened : BookTransitionResult)
    (calls : List BookCall) (opens : bookFromSnapshot first = .ok opened) :
    (∀ before middle after, calls = before ++ middle ++ after →
      let earlier := (runBook opened.state before).1
      let later := (runBook opened.state (before ++ middle)).1
      (earlier.marketStatus ∈ finishedStatuses → later.marketStatus ∈ finishedStatuses) ∧
      (earlier.marketStatus = .settled ∨ earlier.marketStatus = .cancelled →
        later.marketStatus = earlier.marketStatus) ∧
      (earlier.marketStatus ≠ .preopen → later.marketStatus ≠ .preopen) ∧
      Onward earlier later) ∧
    ∀ before after, calls = before ++ after →
      (runBook opened.state before).1.lastExecutableMoveMonotonicNs ≤
        (runBook opened.state before).1.bookObservedMonotonicNs := by
  obtain ⟨digest, -, good, rfl⟩ := bookFromSnapshot_cases opens
  constructor
  · rintro before middle after rfl earlier later
    have onward : Onward earlier later := by
      show Onward _ (runBook _ (before ++ middle)).1
      rw [runBook_append]
      exact runBook_onward middle _
    exact ⟨onward.status.finished, onward.status.final, onward.status.opened, onward⟩
  · rintro before after rfl
    exact BookState.move_le_book (runBook_constructed before good)

/-- A first bid moves the book onward. -/
theorem book_goes_onward_opening : ∃ opened, bookFromSnapshot openingBook = .ok opened ∧
    Onward opened.state (runBook opened.state [.delta openingDelta]).1 := by
  obtain ⟨opened, opens⟩ := openingBook_opens
  obtain ⟨onward, -⟩ := book_goes_onward openingBook opened [.delta openingDelta] opens
  exact ⟨opened, opens, (onward [] [.delta openingDelta] [] rfl).2.2.2⟩

end Inci.Market
