/-
# Tennis.Delivery -- points and lifecycle events in any order

A provider's events of one correction epoch are numbered by revision.  They are
delivered in any order, any number of times, at any receive time, and some never.
Whatever the deliveries, the state holds the score of an in-order prefix of the
events, and that prefix is what was applied, each event once.
-/
import Inci.Tennis.Play

namespace Inci.Tennis

open Inci.Theory Inci.Expert

set_option autoImplicit false

inductive ProviderEvent where
  | point (point : ProviderPoint)
  | lifecycle (lifecycle : ProviderLifecycle)

namespace ProviderEvent

def header : ProviderEvent → IncrementalEvent
  | point p => p.toIncrementalEvent
  | lifecycle l => l.toIncrementalEvent

/-- The same event received at another time. -/
def receivedAt (time : Nat) : ProviderEvent → ProviderEvent
  | point p => point { p with receivedMonotonicNs := time }
  | lifecycle l => lifecycle { l with receivedMonotonicNs := time }

def semantic : ProviderEvent → Except ExpertError (List UInt8 × String)
  | point p => p.semantic
  | lifecycle l => l.semantic

/-- `apply_point` or `apply_lifecycle`, by the kind of the event. -/
def apply (s : TennisState) : ProviderEvent → Except ExpertError TennisTransitionResult
  | point p => applyPoint s p
  | lifecycle l => applyLifecycle s l

/-- The score an admitted event applies with, which depends on the score alone. -/
def scoreAfter (format : MatchFormat) (s : Score) : ProviderEvent → Option (Score × TennisTransitionReason)
  | point p =>
      if s.status = .live ∧ some p.serverBeforePoint = s.serverForNextPoint then
        (advanceScore format s p.pointWinner).toOption.map fun score => (score, .pointApplied)
      else none
  | lifecycle l => lifecycleScore s l

/-- The digest of an event does not depend on when it is received. -/
theorem semantic_receivedAt (time : Nat) (e : ProviderEvent) :
    (e.receivedAt time).semantic = e.semantic := by
  cases e <;> rfl

theorem scoreAfter_receivedAt (format : MatchFormat) (s : Score) (time : Nat) (e : ProviderEvent) :
    (e.receivedAt time).scoreAfter format s = e.scoreAfter format s := by
  cases e <;> rfl

theorem header_receivedAt (time : Nat) (e : ProviderEvent) :
    (e.receivedAt time).header = { e.header with receivedMonotonicNs := time } := by
  cases e <;> rfl

theorem apply_cases {s : TennisState} {e : ProviderEvent} {r : TennisTransitionResult}
    (answer : e.apply s = .ok r) :
    ∃ bytes digest, e.semantic = .ok (bytes, digest) ∧
      reachable s.matchFormat s.toScore = true ∧
      ((r.disposition ≠ .applied ∧ Advance s e.header digest r) ∨
        (Admitted s e.header ∧ ∃ score reason,
          e.scoreAfter s.matchFormat s.toScore = some (score, reason) ∧
          (appliedFields s e.header digest score).Constructed ∧
          r = ⟨appliedFields s e.header digest score, .applied, reason, digest⟩)) := by
  cases e with
  | point p =>
      obtain ⟨bytes, digest, semantic, legal, other | ⟨admitted, live, server, score, advanced,
        constructed, rfl⟩⟩ := applyPoint_cases answer
      · exact ⟨bytes, digest, semantic, legal, .inl other⟩
      · refine ⟨bytes, digest, semantic, legal, .inr ⟨admitted, score, _, ?_, constructed, rfl⟩⟩
        simp [scoreAfter, live, server, advanced, Except.toOption]
  | lifecycle l => exact applyLifecycle_cases answer

theorem apply_applied {s : TennisState} {e : ProviderEvent} {bytes : List UInt8} {digest : String}
    {score : Score} {reason : TennisTransitionReason}
    (legal : reachable s.matchFormat s.toScore = true) (semantic : e.semantic = .ok (bytes, digest))
    (admitted : Admitted s e.header)
    (applies : e.scoreAfter s.matchFormat s.toScore = some (score, reason))
    (constructed : (appliedFields s e.header digest score).Constructed) :
    e.apply s = .ok ⟨appliedFields s e.header digest score, .applied, reason, digest⟩ := by
  cases e with
  | point p =>
      simp only [scoreAfter, Option.ite_none_right_eq_some, Option.map_eq_some_iff,
        Prod.mk.injEq] at applies
      obtain ⟨⟨live, server⟩, score', advanced, rfl, rfl⟩ := applies
      have ok : advanceScore s.matchFormat s.toScore p.pointWinner = .ok score' := by
        cases h : advanceScore s.matchFormat s.toScore p.pointWinner <;>
          simp_all [Except.toOption]
      exact applyPoint_applied legal semantic admitted live server ok constructed
  | lifecycle l => exact applyLifecycle_applied legal semantic admitted applies constructed

end ProviderEvent

/-! ## Deliveries -/

/-- One delivery: which event arrives, and when it is received. -/
structure Delivery where
  index : Nat
  receivedMonotonicNs : Nat

/-- Deliver an event: a call that raises leaves the state as it was. -/
def deliver (s : TennisState) (e : ProviderEvent) : TennisState × Option TransitionDisposition :=
  match e.apply s with
  | .ok r => (r.state, some r.disposition)
  | .error _ => (s, none)

/-- Deliver in turn, keeping each delivered revision with its disposition. -/
def deliverAll (events : List ProviderEvent) (s : TennisState) :
    List Delivery → TennisState × List (Nat × Option TransitionDisposition)
  | [] => (s, [])
  | d :: rest =>
      match events[d.index]? with
      | none => deliverAll events s rest
      | some e =>
          let next := deliver s (e.receivedAt d.receivedMonotonicNs)
          let last := deliverAll events next.1 rest
          (last.1, (e.header.revision, next.2) :: last.2)

/-- The revisions of the log that were applied, in order. -/
def appliedRevisions (log : List (Nat × Option TransitionDisposition)) : List Nat :=
  (log.filter fun entry => entry.2 = some .applied).map Prod.fst

/-- The fold of events in order, each applied, all received at one time. -/
def foldApplied (time : Nat) (s : TennisState) : List ProviderEvent → Option TennisState
  | [] => some s
  | e :: rest =>
      match (e.receivedAt time).apply s with
      | .ok r => if r.disposition = .applied then foldApplied time r.state rest else none
      | .error _ => none

/-- Two states of one match at one point of its history, both unblocked or not. -/
structure SameStanding (f s : TennisState) : Prop where
  identity : f.toMatchIdentity = s.toMatchIdentity
  score : f.toScore = s.toScore
  epoch : f.correctionEpoch = s.correctionEpoch
  revision : f.revision = s.revision

/-- What applies in one state applies in another of the same standing. -/
theorem apply_sameStanding {f s : TennisState} {e : ProviderEvent} {time : Nat}
    {r : TennisTransitionResult} (same : SameStanding f s) (good : f.Constructed)
    (unblocked : f.blockReason = none) (earlier : f.lastReceivedMonotonicNs = time)
    (answer : e.apply s = .ok r) (applied : r.disposition = .applied) :
    ∃ r', (e.receivedAt time).apply f = .ok r' ∧ r'.disposition = .applied ∧
      SameStanding r'.state r.state ∧ r'.state.Constructed ∧ r'.state.blockReason = none ∧
      r'.state.lastReceivedMonotonicNs = time := by
  obtain ⟨bytes, digest, semantic, legal, ⟨notApplied, -⟩ | ⟨admitted, score, reason, applies,
    constructed, rfl⟩⟩ := ProviderEvent.apply_cases answer
  · exact absurd applied notApplied
  have format : f.matchFormat = s.matchFormat := congrArg MatchIdentity.matchFormat same.identity
  have header := ProviderEvent.header_receivedAt time e
  have admittedF : Admitted f (e.receivedAt time).header := by
    rw [header]
    exact ⟨unblocked, admitted.identity.trans same.identity.symm, earlier.le,
      admitted.epoch.trans same.epoch.symm, by rw [admitted.revision, same.revision]⟩
  have constructedF : (appliedFields f (e.receivedAt time).header digest score).Constructed := by
    rw [header]
    exact ⟨good.identity, good.supported, constructed.status, constructed.score,
      good.correctionEpoch, constructed.revision, good.complete, constructed.eventId,
      constructed.eventDigest, good.lineage, constructed.sourceWall, constructed.generatedWall,
      by simpa [appliedFields, earlier] using good.received, constructed.uncertainty,
      by simp [BlockMetadata.postInit, appliedFields, BlockMetadata.clear]⟩
  refine ⟨_, ProviderEvent.apply_applied (by rw [format, same.score]; exact legal)
    (by rw [ProviderEvent.semantic_receivedAt]; exact semantic) admittedF
    (by rw [ProviderEvent.scoreAfter_receivedAt, format, same.score]; exact applies)
    constructedF, rfl, ?_, constructedF, rfl, by rw [header]; rfl⟩
  exact ⟨same.identity, rfl, same.epoch, by rw [header]; rfl⟩

/-! ## One delivery -/

/-- A blocked state blocks whatever is delivered to it. -/
theorem deliver_blocked {s : TennisState} (e : ProviderEvent) (isBlocked : s.blockReason.isSome) :
    (deliver s e).1 = s ∧ (deliver s e).2 ≠ some .applied := by
  unfold deliver
  cases answer : e.apply s with
  | error _ => simp
  | ok r =>
      obtain ⟨_, _, -, -, ⟨notApplied, advance⟩ | ⟨admitted, -⟩⟩ := ProviderEvent.apply_cases answer
      · cases advance with
        | unchanged d reason kept => exact ⟨rfl, by simpa using notApplied⟩
        | installed _ _ _ unblocked _ => simp [unblocked] at isBlocked
        | applied _ _ admitted _ => simp [admitted.unblocked] at isBlocked
      · simp [admitted.unblocked] at isBlocked

/-- A delivery applies the next event, or it leaves the standing alone; and a
delivery that is answered by a block leaves the state blocked. -/
theorem deliver_cases (s : TennisState) (e : ProviderEvent) :
    ((deliver s e).2 = some .applied ∧ Admitted s e.header ∧
        ∃ r, e.apply s = .ok r ∧ r.disposition = .applied ∧ (deliver s e).1 = r.state) ∨
      ((deliver s e).2 ≠ some .applied ∧ SameStanding s (deliver s e).1 ∧
        ((deliver s e).2 = some .blocked → (deliver s e).1.blockReason.isSome)) := by
  unfold deliver
  cases answer : e.apply s with
  | error _ => exact .inr ⟨by simp, ⟨rfl, rfl, rfl, rfl⟩, by simp⟩
  | ok r =>
      obtain ⟨_, _, -, -, ⟨notApplied, advance⟩ | ⟨admitted, score, reason, -, -, rfl⟩⟩ :=
        ProviderEvent.apply_cases answer
      · refine .inr ⟨by simpa using notApplied, ?_⟩
        cases advance with
        | unchanged d reason kept =>
            refine ⟨⟨rfl, rfl, rfl, rfl⟩, fun answered => ?_⟩
            rcases kept with ⟨-, isBlocked⟩ | ⟨rfl, -⟩
            · exact isBlocked
            · simp at answered
        | installed reason expected observed unblocked constructed =>
            exact ⟨⟨rfl, rfl, rfl, rfl⟩, fun _ => rfl⟩
        | applied score reason admitted constructed => exact absurd rfl notApplied
      · exact .inl ⟨rfl, admitted, _, rfl, rfl, rfl⟩

/-! ## Runs of deliveries -/

theorem foldApplied_concat {time : Nat} {s f : TennisState} {before : List ProviderEvent}
    {e : ProviderEvent} {r : TennisTransitionResult} (folded : foldApplied time s before = some f)
    (answer : (e.receivedAt time).apply f = .ok r) (applied : r.disposition = .applied) :
    foldApplied time s (before ++ [e]) = some r.state := by
  induction before generalizing s with
  | nil =>
      obtain rfl : s = f := by simpa [foldApplied] using folded
      simp [foldApplied, answer, applied]
  | cons d rest ih =>
      simp only [foldApplied, List.cons_append] at folded ⊢
      split at folded
      · split_ifs at folded ⊢
        exact ih folded
      · simp at folded

/-- The state stands where the first `k` events leave it, folded in order. -/
structure AtPrefix (events : List ProviderEvent) (start : TennisState) (k : Nat)
    (s : TennisState) : Prop where
  within : k ≤ events.length
  revision : s.revision = start.revision + k
  folded : ∃ f, foldApplied start.lastReceivedMonotonicNs start (events.take k) = some f ∧
    SameStanding f s ∧ f.Constructed ∧ f.blockReason = none ∧
    f.lastReceivedMonotonicNs = start.lastReceivedMonotonicNs

variable {events : List ProviderEvent} {start : TennisState}

/-- One delivery of event `i` to a state at prefix `k`. -/
theorem deliver_atPrefix
    (numbered : ∀ i e, events[i]? = some e → e.header.revision = start.revision + i + 1)
    {k : Nat} {s : TennisState} (at_ : AtPrefix events start k s) {i : Nat} {e : ProviderEvent}
    (drawn : events[i]? = some e) (time : Nat) :
    ((deliver s (e.receivedAt time)).2 = some .applied ∧
        e.header.revision = start.revision + k + 1 ∧
        AtPrefix events start (k + 1) (deliver s (e.receivedAt time)).1) ∨
      ((deliver s (e.receivedAt time)).2 ≠ some .applied ∧
        AtPrefix events start k (deliver s (e.receivedAt time)).1) := by
  obtain ⟨f, folded, same, good, unblocked, earlier⟩ := at_.folded
  rcases deliver_cases s (e.receivedAt time) with
    ⟨disposition, admitted, r, answer, applied, state⟩ | ⟨disposition, kept, -⟩
  · have revision := admitted.revision
    rw [ProviderEvent.header_receivedAt] at revision
    have number := numbered i e drawn
    have here : i = k := by
      have stands := at_.revision
      simp only at revision
      omega
    subst here
    have short := (List.getElem?_eq_some_iff.mp drawn).1
    obtain ⟨r', answer', applied', same', good', unblocked', earlier'⟩ :=
      apply_sameStanding same good unblocked earlier answer applied
    rw [state]
    refine .inl ⟨disposition, number, by omega, ?_, r'.state, ?_, same', good', unblocked', earlier'⟩
    · rw [← same'.revision]
      have again : ((e.receivedAt time).receivedAt start.lastReceivedMonotonicNs) =
          e.receivedAt start.lastReceivedMonotonicNs := by cases e <;> rfl
      obtain ⟨_, _, -, -, ⟨notApplied, -⟩ | ⟨-, score, reason, -, -, rfl⟩⟩ :=
        ProviderEvent.apply_cases answer'
      · exact absurd applied' notApplied
      · rw [again, ProviderEvent.header_receivedAt]
        simp only [appliedFields]
        omega
    · have step : events.take (i + 1) = events.take i ++ [e] := by
        rw [List.take_add_one, drawn]; rfl
      rw [step]
      refine foldApplied_concat folded ?_ applied'
      rw [← answer']
      congr 1
      cases e <;> rfl
  · refine .inr ⟨disposition, at_.within, ?_, f, folded, ?_, good, unblocked, earlier⟩
    · rw [← kept.revision]
      exact at_.revision
    · exact ⟨same.identity.trans kept.identity, same.score.trans kept.score,
        same.epoch.trans kept.epoch, same.revision.trans kept.revision⟩

theorem deliverAll_atPrefix
    (numbered : ∀ i e, events[i]? = some e → e.header.revision = start.revision + i + 1)
    (deliveries : List Delivery) :
    ∀ {k : Nat} {s : TennisState}, AtPrefix events start k s →
      ∃ m, AtPrefix events start (k + m) (deliverAll events s deliveries).1 ∧
        appliedRevisions (deliverAll events s deliveries).2 =
          List.range' (start.revision + k + 1) m := by
  induction deliveries with
  | nil => exact fun at_ => ⟨0, at_, rfl⟩
  | cons d rest ih =>
      intro k s at_
      unfold deliverAll
      cases drawn : events[d.index]? with
      | none => exact ih at_
      | some e =>
          rcases deliver_atPrefix numbered at_ drawn d.receivedMonotonicNs with
            ⟨applied, revision, next⟩ | ⟨notApplied, next⟩
          · obtain ⟨m, last, revisions⟩ := ih next
            refine ⟨m + 1, by rw [show k + (m + 1) = k + 1 + m by omega]; exact last, ?_⟩
            simp only [appliedRevisions] at revisions ⊢
            rw [List.filter_cons_of_pos (by simpa using applied), List.map_cons, revisions,
              List.range'_succ, revision]
            congr 2
          · obtain ⟨m, last, revisions⟩ := ih next
            refine ⟨m, last, ?_⟩
            simp only [appliedRevisions] at revisions ⊢
            rw [List.filter_cons_of_neg (by simpa using notApplied)]
            exact revisions

/-- Once blocked, nothing that is delivered is applied. -/
theorem deliverAll_blocked (deliveries : List Delivery) :
    ∀ {s : TennisState}, s.blockReason.isSome →
      ∀ entry ∈ (deliverAll events s deliveries).2, entry.2 ≠ some .applied := by
  induction deliveries with
  | nil => simp [deliverAll]
  | cons d rest ih =>
      intro s isBlocked
      unfold deliverAll
      cases events[d.index]? with
      | none => exact ih isBlocked
      | some e =>
          obtain ⟨kept, notApplied⟩ := deliver_blocked (e.receivedAt d.receivedMonotonicNs) isBlocked
          intro entry member
          rcases List.mem_cons.mp member with rfl | later
          · exact notApplied
          · rw [kept] at later
            exact ih isBlocked entry later

/-- Nothing is applied after the first block. -/
theorem deliverAll_after_block (deliveries : List Delivery) :
    ∀ (s : TennisState) (before after : List (Nat × Option TransitionDisposition)) (revision : Nat),
      (deliverAll events s deliveries).2 = before ++ (revision, some .blocked) :: after →
      ∀ entry ∈ after, entry.2 ≠ some .applied := by
  induction deliveries with
  | nil => simp [deliverAll]
  | cons d rest ih =>
      intro s before after revision split
      unfold deliverAll at split
      cases drawn : events[d.index]? with
      | none => exact ih s before after revision (by simpa [drawn] using split)
      | some e =>
          simp only [drawn] at split
          cases before with
          | nil =>
              obtain ⟨first, others⟩ := List.cons.inj split
              rcases deliver_cases s (e.receivedAt d.receivedMonotonicNs) with
                ⟨applied, -⟩ | ⟨-, -, blocks⟩
              · rw [applied] at first
                simp at first
              · rw [← others]
                exact deliverAll_blocked rest (blocks (Prod.ext_iff.mp first).2)
          | cons entry before =>
              exact ih _ before after revision (List.cons.inj split).2

/-- Delivery safety: from a snapshot's state, whatever is delivered, the score
(with its status) and the revision are those of a prefix of the events folded in
order; the applied revisions are that prefix's, each once; and nothing is applied
after the first block. -/
theorem delivery_safe (snapshot : ProviderSnapshot) (start : TennisState)
    (events : List ProviderEvent) (deliveries : List Delivery)
    (origin : stateFromSnapshot snapshot = .ok start)
    (numbered : ∀ i e, events[i]? = some e → e.header.revision = snapshot.revision + i + 1) :
    ∃ k, k ≤ events.length ∧
      (∃ f, foldApplied snapshot.receivedMonotonicNs start (events.take k) = some f ∧
        (deliverAll events start deliveries).1.toScore = f.toScore ∧
        (deliverAll events start deliveries).1.revision = f.revision) ∧
      appliedRevisions (deliverAll events start deliveries).2 =
        List.range' (snapshot.revision + 1) k ∧
      ∀ before after revision, (deliverAll events start deliveries).2 =
          before ++ (revision, some .blocked) :: after →
        ∀ entry ∈ after, entry.2 ≠ some .applied := by
  have made := origin
  simp only [stateFromSnapshot, bind_eq_ok, exists_unit, Prod.exists,
    TennisState.construct_eq_ok] at made
  obtain ⟨_, _, -, -, -, good, rfl⟩ := made
  obtain ⟨k, last, revisions⟩ := deliverAll_atPrefix numbered deliveries (k := 0) ⟨Nat.zero_le _, rfl, _, rfl, ⟨rfl, rfl, rfl, rfl⟩, good, rfl, rfl⟩
  rw [Nat.zero_add] at last
  obtain ⟨f, folded, same, -⟩ := last.folded
  exact ⟨k, last.within, ⟨f, folded, same.score.symm, same.revision.symm⟩, revisions,
    deliverAll_after_block deliveries _⟩

def openingSnapshot : ProviderSnapshot :=
  { openingMatch, openingScore, openingTimes with
    providerEventId := "start"
    correctionEpoch := 0
    revision := 1
    snapshotComplete := true }

theorem openingSnapshot_accepted : openingSnapshot.postInit = .ok () := by decide

theorem openingSnapshot_starts : ∃ start, stateFromSnapshot openingSnapshot = .ok start :=
  stateFromSnapshot_total openingSnapshot_accepted (by simp [openingSnapshot, openingScore]) rfl
    (by decide)

/-- One point delivered twice, the second time earlier than the first. -/
theorem delivery_safe_opening : ∃ start, stateFromSnapshot openingSnapshot = .ok start ∧
    ∃ k, k ≤ 1 ∧
      (∃ f, foldApplied 0 start ([ProviderEvent.point openingPoint].take k) = some f ∧
        (deliverAll [.point openingPoint] start [⟨0, 5⟩, ⟨0, 3⟩]).1.toScore = f.toScore ∧
        (deliverAll [.point openingPoint] start [⟨0, 5⟩, ⟨0, 3⟩]).1.revision = f.revision) ∧
      appliedRevisions (deliverAll [.point openingPoint] start [⟨0, 5⟩, ⟨0, 3⟩]).2 =
        List.range' 2 k ∧
      ∀ before after revision, (deliverAll [.point openingPoint] start [⟨0, 5⟩, ⟨0, 3⟩]).2 =
          before ++ (revision, some .blocked) :: after →
        ∀ entry ∈ after, entry.2 ≠ some .applied := by
  obtain ⟨start, origin⟩ := openingSnapshot_starts
  refine ⟨start, origin, delivery_safe openingSnapshot start [.point openingPoint]
    [⟨0, 5⟩, ⟨0, 3⟩] origin ?_⟩
  intro i e drawn
  cases i with
  | zero => cases drawn; rfl
  | succ i => simp at drawn

end Inci.Tennis
