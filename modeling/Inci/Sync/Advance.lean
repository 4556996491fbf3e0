/-
# Sync.Advance -- what an event does to the state a cursor holds

A provider event leaves a later state, in the same correction epoch unless it is
an applied correction; a book event leaves a later book, at strictly greater
coordinates when it is an accepted snapshot or delta.
-/
import Inci.Sync.Standing
import Inci.Tennis.Steps

namespace Inci.Sync

open Inci.Theory Inci.Expert Inci.Tennis Inci.Market Inci.Binding

set_option autoImplicit false

/-! ## Provider events -/

/-- What the machine's answer to a provider event guarantees. -/
structure ProviderAdvance (prior : TennisState) (event : ProviderEvent)
    (r : TennisTransitionResult) : Prop where
  later : Later prior r.state
  kept : appliedCorrection event r = false → r.state.correctionEpoch = prior.correctionEpoch
  newer : appliedCorrection event r = true → prior.correctionEpoch < r.state.correctionEpoch
  applied : r.disposition = .applied → r.state.lastEventSemanticSha256 = r.eventSemanticSha256

theorem later_of_advance {s : TennisState} {e : IncrementalEvent} {digest : String}
    {r : TennisTransitionResult} (advance : Advance s e digest r) :
    Later s r.state ∧ r.state.correctionEpoch = s.correctionEpoch ∧
      (r.disposition = .applied → r.state.lastEventSemanticSha256 = r.eventSemanticSha256) := by
  cases advance with
  | unchanged d reason kept =>
      refine ⟨Later.refl s, rfl, ?_⟩
      intro (applied : d = .applied)
      rcases kept with ⟨rfl, -⟩ | ⟨rfl, -⟩ <;> cases applied
  | installed reason expected observed unblocked constructed =>
      exact ⟨⟨le_rfl, le_rfl, fun _ => ⟨rfl, rfl⟩⟩, rfl, fun applied => nomatch applied⟩
  | applied score reason admitted constructed =>
      refine ⟨⟨?_, admitted.received, ?_⟩, rfl, fun _ => rfl⟩
      · simp [tennisCoordinates, appliedFields, admitted.revision]
      · intro same
        simp [tennisCoordinates, appliedFields, admitted.revision] at same

theorem later_of_corrected {s : TennisState} {e : ProviderSnapshot} {digest : String}
    {r : TennisTransitionResult} (corrected : Corrected s e digest r) :
    ProviderAdvance s (.snapshot e) r := by
  cases corrected with
  | unchanged d reason kept =>
      have notApplied : d ≠ .applied := by
        rcases kept with ⟨rfl, -⟩ | ⟨rfl, -⟩ <;> simp
      refine ⟨Later.refl s, fun _ => rfl, ?_, fun applied => absurd applied notApplied⟩
      intro applied
      simp [appliedCorrection, notApplied] at applied
  | installed reason unblocked constructed =>
      refine ⟨⟨le_rfl, le_rfl, fun _ => ⟨rfl, rfl⟩⟩, fun _ => rfl, ?_, fun applied => nomatch applied⟩
      intro applied
      simp [appliedCorrection] at applied
  | replaced lineage identity received newer complete legal constructed =>
      have time : s.lastReceivedMonotonicNs ≤ e.receivedMonotonicNs :=
        (Nat.le_max_left _ _).trans received
      refine ⟨⟨?_, time, ?_⟩, ?_, fun _ => newer, fun _ => rfl⟩
      · simp [tennisCoordinates, stateFromSnapshotFields, newer]
      · intro same
        simp [tennisCoordinates, stateFromSnapshotFields, newer.ne] at same
      · intro unapplied
        simp [appliedCorrection, ProviderEvent.isSnapshot] at unapplied

theorem applyProviderEvent_advance {prior : TennisState} {event : ProviderEvent}
    {r : TennisTransitionResult} (answer : applyProviderEvent prior event = .ok r) :
    ProviderAdvance prior event r := by
  cases event with
  | point p =>
      obtain ⟨_, _, -, advance⟩ := applyPoint_advance answer
      obtain ⟨later, epoch, applied⟩ := later_of_advance advance
      exact ⟨later, fun _ => epoch, (nomatch ·), applied⟩
  | lifecycle e =>
      obtain ⟨_, _, -, advance⟩ := applyLifecycle_advance answer
      obtain ⟨later, epoch, applied⟩ := later_of_advance advance
      exact ⟨later, fun _ => epoch, (nomatch ·), applied⟩
  | snapshot e =>
      obtain ⟨-, _, _, -, corrected⟩ := applyCorrection_corrected answer
      exact later_of_corrected corrected

/-! ## Book events -/

/-- The kinds of event that may move the market. -/
def movesMarket (r : BookTransitionResult) : Prop :=
  r.acceptedEventKind = some .snapshot ∨ r.acceptedEventKind = some .delta

/-- What the answer to a book event on a book guarantees. -/
structure BookAdvance (b : BookState) (r : BookTransitionResult) : Prop where
  later : LaterBook b r.state
  moved : movesMarket r → bookCoordinates b < bookCoordinates r.state
  reconnected : r.acceptedEventKind = some .snapshot → b.connectionEpoch < r.state.connectionEpoch

theorem later_gapped (b : BookState) : LaterBook b (gapped b) := ⟨rfl, le_rfl, le_rfl⟩

theorem not_movesMarket {r : BookTransitionResult} (other : r.acceptedEventKind ≠ some .snapshot)
    (another : r.acceptedEventKind ≠ some .delta) : ¬movesMarket r := by
  rintro (snapshot | delta)
  · exact other snapshot
  · exact another delta

theorem advance_unaccepted {b b' : BookState} (later : LaterBook b b') :
    BookAdvance b (unaccepted b') :=
  ⟨later, fun moved => absurd moved (not_movesMarket (by simp [unaccepted]) (by simp [unaccepted])),
    fun snapshot => nomatch snapshot⟩

theorem applyBookSnapshot_advance {b : BookState} {e : BookSnapshot} {r : BookTransitionResult}
    (answer : applyBookSnapshot b e = .ok r) : BookAdvance b r := by
  obtain ⟨replaceable, ⟨-, -, rfl⟩ | ⟨-, move, digest, -, -, -, rfl⟩⟩ :=
    applyBookSnapshot_cases answer
  · exact advance_unaccepted (later_gapped b)
  · have newer : b.connectionEpoch < (snapshotState e move digest).connectionEpoch :=
      replaceable.newer
    have further : bookCoordinates b < bookCoordinates (snapshotState e move digest) := by
      simp [bookCoordinates, newer]
    exact ⟨⟨replaceable.ticker, further.le, replaceable.bookTime⟩, fun _ => further, fun _ => newer⟩

theorem applyBookDelta_advance {b : BookState} {e : BookDelta} {r : BookTransitionResult}
    (answer : applyBookDelta b e = .ok r) : BookAdvance b r := by
  obtain ⟨-, -, -, -, ⟨-, rfl⟩ | ⟨next, yesBids, noBids, move, digest, -, -, -, rfl⟩⟩ :=
    applyBookDelta_cases answer
  · exact advance_unaccepted (later_gapped b)
  · have further :
        bookCoordinates b < bookCoordinates (deltaState b e yesBids noBids move digest) := by
      simp [bookCoordinates, deltaState, next.epoch, next.sequence]
    exact ⟨⟨rfl, further.le, next.time⟩, fun _ => further, fun snapshot => nomatch snapshot⟩

theorem applyMarketLifecycle_advance {b : BookState} {e : MarketLifecycle}
    {r : BookTransitionResult} (answer : applyMarketLifecycle b e = .ok r) : BookAdvance b r := by
  obtain ⟨-, -, ⟨-, rfl⟩ | rfl | ⟨-, -, -, digest, -, -, rfl⟩⟩ := applyMarketLifecycle_cases answer
  · exact advance_unaccepted (later_gapped b)
  · exact advance_unaccepted (LaterBook.refl b)
  · refine ⟨⟨rfl, le_rfl, le_rfl⟩, fun moved => absurd moved (not_movesMarket ?_ ?_),
      fun snapshot => nomatch snapshot⟩ <;> simp [acceptedLifecycle]

theorem applyBookEvent_advance {c : BookSyncCursor} {b : BookState} {previous : Option String}
    {event : BookEvent} {r : BookTransitionResult} (holds : c.book = some b)
    (answer : applyBookEvent c previous event = .ok r) : BookAdvance b r := by
  simp only [applyBookEvent, holds, bind_eq_ok, exists_unit] at answer
  obtain ⟨-, answer⟩ := answer
  cases event with
  | snapshot e => exact applyBookSnapshot_advance answer
  | delta e => exact applyBookDelta_advance answer
  | lifecycle e => exact applyMarketLifecycle_advance answer

/-- What the checks of a result say about an accepted snapshot or delta. -/
structure Accepted (r : BookTransitionResult) : Prop where
  epoch : r.connectionEpoch = r.state.connectionEpoch
  sequence : r.sequence = r.state.sequence
  trusted : r.state.trusted = true
  observed : r.moveObservedMonotonicNs = some r.state.bookObservedMonotonicNs
  digest : r.acceptedEventSha256 = some r.state.lastEventSha256
  move : 0 ≤ r.executableMove ∧ r.executableMove ≤ 1

theorem accepted_of_postInit {r : BookTransitionResult} (checked : r.postInit = .ok ())
    (moves : movesMarket r) : Accepted r := by
  simp only [BookTransitionResult.postInit, bind_eq_ok, exists_unit, probability_eq_ok,
    refuse_eq_ok, not_not] at checked
  obtain ⟨-, move, -, -, -, -, epoch, sequence, checked⟩ := checked
  rcases moves with kind | kind <;>
  · simp only [kind, bind_eq_ok, exists_unit, refuse_eq_ok, not_or, not_not,
      Bool.not_eq_false] at checked
    obtain ⟨trusted, ⟨-, observed, -⟩, digest, -⟩ := checked
    exact ⟨epoch, sequence, trusted.1, observed, digest, move⟩

end Inci.Sync
