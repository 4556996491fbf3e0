/-
# Candidate.Decisions -- the one table behind the decider and the relation

`decision` is the pure table of the protocol: what an event changes in a state, or
nothing where it is rejected.  On valid values the decider builds exactly what the
table says (`transition_decision`), and the relation accepts exactly that
(`relation_decision`).
-/
import Inci.Candidate.Capacity

namespace Inci.Candidate

open Inci.Theory

set_option autoImplicit false

/-- The contents of the next state, with the action and its reason. -/
structure Outcome where
  physicalState : PhysicalState
  physicalConnectionGeneration : Nat
  activeReceive : Bool
  pendingBarrierIdentity : Option Barrier
  action : Action
  reason : Option Reason

/-- The state has the contents of the outcome. -/
def Outcome.Reached (o : Outcome) (s : ProtocolState) : Prop :=
  s.physicalState = o.physicalState ∧
    s.physicalConnectionGeneration = o.physicalConnectionGeneration ∧
    s.activeReceive = o.activeReceive ∧ s.pendingBarrierIdentity = o.pendingBarrierIdentity

instance (o : Outcome) (s : ProtocolState) : Decidable (o.Reached s) :=
  inferInstanceAs (Decidable (_ ∧ _))

/-- What an event does in a state; nothing where it is rejected. -/
def decision (s : ProtocolState) (e : ProtocolEvent) : Option Outcome :=
  let physical := s.physicalState
  let generation := s.physicalConnectionGeneration
  let pending := s.pendingBarrierIdentity
  let barrier := e.barrierIdentity
  if physical = .halted then none
  else if e.kind = .haltRequested then
    some ⟨.halted, generation, false, pending, .halted, some .haltRequested⟩
  else if physical ∈ [PhysicalState.absent, .closed] ∧ e.kind = .openRequested ∧
      s.activeReceive = false ∧ pending = none then
    some ⟨.connecting, generation, false, none, .none, none⟩
  else if physical = .connecting ∧ e.kind = .openSucceeded then
    if generation = maxSigned64 then
      some ⟨.halted, generation, false, none, .halted, some .generationOverflow⟩
    else some ⟨.connected, generation + 1, false, none, .connectionOpened, none⟩
  else if physical = .connecting ∧ e.kind = .openFailed then
    some ⟨.halted, generation, false, none, .halted, some .openFailed⟩
  else if physical = .connected ∧ e.kind = .receiveArmed ∧ s.activeReceive = false ∧
      pending = none then
    some ⟨physical, generation, true, none, .none, none⟩
  else if physical = .connected ∧ e.kind = .receiveCompleted ∧ s.activeReceive = true ∧
      pending = none then
    some ⟨physical, generation, false, none, .none, none⟩
  else if physical = .connected ∧ e.kind = .receiveFailed ∧ s.activeReceive = true ∧
      pending = none ∧ Current barrier generation then
    some ⟨.closing, generation, false, barrier, .barrierRequired, some .receiveFailed⟩
  else if physical = .connected ∧ e.kind = .barrierRequired ∧ s.activeReceive = false ∧
      pending = none ∧ Current barrier generation then
    some ⟨physical, generation, false, barrier, .barrierRequired, none⟩
  else if physical = .connected ∧ e.kind = .closeRequested ∧ s.activeReceive = false ∧
      Current barrier generation ∧ (pending = none ∨ pending = barrier) then
    some ⟨.closing, generation, false, barrier, .barrierRequired, none⟩
  else if physical ∈ [PhysicalState.connected, .closing, .closed] ∧ e.kind = .barrierWitnessed ∧
      s.activeReceive = false ∧ pending ≠ none ∧ pending = barrier then
    some ⟨physical, generation, false, none, .none, none⟩
  else if physical = .closing ∧ e.kind = .closeProven ∧ s.activeReceive = false then
    some ⟨.closed, generation, false, pending, .connectionClosed, none⟩
  else if physical = .closing ∧ e.kind ∈ [EventKind.closeTimeout, .closeFailed] then
    some ⟨.halted, generation, false, pending, .halted, some .closeUncertain⟩
  else none

/-- The transition is the one the table decides. -/
def judged (t : Transition) : Option Outcome → Prop
  | none => t.state = t.priorState ∧ t.action = .transitionRejected ∧
      t.reason = some .protocolTransitionInvalid
  | some o => o.Reached t.state ∧ t.action = o.action ∧ t.reason = o.reason

instance (t : Transition) (decided : Option Outcome) : Decidable (judged t decided) :=
  match decided with
  | none => inferInstanceAs (Decidable (_ ∧ _))
  | some _ => inferInstanceAs (Decidable (_ ∧ _))

/-! ## The rows of the table -/

/-- The rows of the table, with what each requires of the state and the event. -/
inductive Moves (s : ProtocolState) (e : ProtocolEvent) : Outcome → Prop where
  | halt (running : s.physicalState ≠ .halted) (kind : e.kind = .haltRequested) :
      Moves s e ⟨.halted, s.physicalConnectionGeneration, false, s.pendingBarrierIdentity, .halted,
        some .haltRequested⟩
  | opening (apart : s.physicalState = .absent ∨ s.physicalState = .closed)
      (kind : e.kind = .openRequested) (clear : s.pendingBarrierIdentity = none) :
      Moves s e ⟨.connecting, s.physicalConnectionGeneration, false, none, .none, none⟩
  | overflow (connecting : s.physicalState = .connecting) (kind : e.kind = .openSucceeded)
      (last : s.physicalConnectionGeneration = maxSigned64) :
      Moves s e ⟨.halted, s.physicalConnectionGeneration, false, none, .halted,
        some .generationOverflow⟩
  | opened (connecting : s.physicalState = .connecting) (kind : e.kind = .openSucceeded)
      (room : s.physicalConnectionGeneration ≠ maxSigned64) :
      Moves s e ⟨.connected, s.physicalConnectionGeneration + 1, false, none, .connectionOpened,
        none⟩
  | failed (connecting : s.physicalState = .connecting) (kind : e.kind = .openFailed) :
      Moves s e ⟨.halted, s.physicalConnectionGeneration, false, none, .halted, some .openFailed⟩
  | armed (connected : s.physicalState = .connected) (kind : e.kind = .receiveArmed)
      (clear : s.pendingBarrierIdentity = none) :
      Moves s e ⟨.connected, s.physicalConnectionGeneration, true, none, .none, none⟩
  | completed (connected : s.physicalState = .connected) (kind : e.kind = .receiveCompleted)
      (clear : s.pendingBarrierIdentity = none) :
      Moves s e ⟨.connected, s.physicalConnectionGeneration, false, none, .none, none⟩
  | receiveFailed (connected : s.physicalState = .connected) (kind : e.kind = .receiveFailed)
      (clear : s.pendingBarrierIdentity = none)
      (current : Current e.barrierIdentity s.physicalConnectionGeneration) :
      Moves s e ⟨.closing, s.physicalConnectionGeneration, false, e.barrierIdentity,
        .barrierRequired, some .receiveFailed⟩
  | required (connected : s.physicalState = .connected) (kind : e.kind = .barrierRequired)
      (clear : s.pendingBarrierIdentity = none)
      (current : Current e.barrierIdentity s.physicalConnectionGeneration) :
      Moves s e ⟨.connected, s.physicalConnectionGeneration, false, e.barrierIdentity,
        .barrierRequired, none⟩
  | closing (connected : s.physicalState = .connected) (kind : e.kind = .closeRequested)
      (current : Current e.barrierIdentity s.physicalConnectionGeneration)
      (clear : s.pendingBarrierIdentity = none ∨ s.pendingBarrierIdentity = e.barrierIdentity) :
      Moves s e ⟨.closing, s.physicalConnectionGeneration, false, e.barrierIdentity,
        .barrierRequired, none⟩
  | witnessed (held : s.physicalState = .connected ∨ s.physicalState = .closing ∨
        s.physicalState = .closed) (kind : e.kind = .barrierWitnessed)
      (waiting : s.pendingBarrierIdentity ≠ none)
      (same : s.pendingBarrierIdentity = e.barrierIdentity) :
      Moves s e ⟨s.physicalState, s.physicalConnectionGeneration, false, none, .none, none⟩
  | closed (closing : s.physicalState = .closing) (kind : e.kind = .closeProven) :
      Moves s e ⟨.closed, s.physicalConnectionGeneration, false, s.pendingBarrierIdentity,
        .connectionClosed, none⟩
  | uncertain (closing : s.physicalState = .closing)
      (kind : e.kind = .closeTimeout ∨ e.kind = .closeFailed) :
      Moves s e ⟨.halted, s.physicalConnectionGeneration, false, s.pendingBarrierIdentity, .halted,
        some .closeUncertain⟩

/-- A chain of conditions answers in its first branch or in the rest. -/
theorem branch {α : Type} {c : Prop} [Decidable c] {yes rest : Option α} {o : α}
    (answer : (if c then yes else rest) = some o) : c ∧ yes = some o ∨ ¬c ∧ rest = some o := by
  by_cases here : c
  · exact .inl ⟨here, by rwa [if_pos here] at answer⟩
  · exact .inr ⟨here, by rwa [if_neg here] at answer⟩

/-- Whatever the table decides is one of its rows. -/
theorem decision_moves {s : ProtocolState} {e : ProtocolEvent} {o : Outcome}
    (decided : decision s e = some o) : Moves s e o := by
  unfold decision at decided
  rcases branch decided with ⟨-, none⟩ | ⟨running, decided⟩
  · exact nomatch none
  rcases branch decided with ⟨kind, row⟩ | ⟨-, decided⟩
  · exact Option.some.inj row ▸ .halt running kind
  rcases branch decided with ⟨⟨apart, kind, -, clear⟩, row⟩ | ⟨-, decided⟩
  · exact Option.some.inj row ▸ .opening (by simpa using apart) kind clear
  rcases branch decided with ⟨⟨connecting, kind⟩, row⟩ | ⟨-, decided⟩
  · rcases branch row with ⟨last, row⟩ | ⟨room, row⟩
    · exact Option.some.inj row ▸ .overflow connecting kind last
    · exact Option.some.inj row ▸ .opened connecting kind room
  rcases branch decided with ⟨⟨connecting, kind⟩, row⟩ | ⟨-, decided⟩
  · exact Option.some.inj row ▸ .failed connecting kind
  rcases branch decided with ⟨⟨connected, kind, -, clear⟩, row⟩ | ⟨-, decided⟩
  · rw [connected] at row
    exact Option.some.inj row ▸ .armed connected kind clear
  rcases branch decided with ⟨⟨connected, kind, -, clear⟩, row⟩ | ⟨-, decided⟩
  · rw [connected] at row
    exact Option.some.inj row ▸ .completed connected kind clear
  rcases branch decided with ⟨⟨connected, kind, -, clear, current⟩, row⟩ | ⟨-, decided⟩
  · exact Option.some.inj row ▸ .receiveFailed connected kind clear current
  rcases branch decided with ⟨⟨connected, kind, -, clear, current⟩, row⟩ | ⟨-, decided⟩
  · rw [connected] at row
    exact Option.some.inj row ▸ .required connected kind clear current
  rcases branch decided with ⟨⟨connected, kind, -, current, clear⟩, row⟩ | ⟨-, decided⟩
  · exact Option.some.inj row ▸ .closing connected kind current clear
  rcases branch decided with ⟨⟨held, kind, -, waiting, same⟩, row⟩ | ⟨-, decided⟩
  · exact Option.some.inj row ▸ .witnessed (by simpa using held) kind waiting same
  rcases branch decided with ⟨⟨closing, kind, -⟩, row⟩ | ⟨-, decided⟩
  · exact Option.some.inj row ▸ .closed closing kind
  rcases branch decided with ⟨⟨closing, kind⟩, row⟩ | ⟨-, none⟩
  · exact Option.some.inj row ▸ .uncertain closing (by simpa using kind)
  · exact nomatch none

/-! ## Calls that do not raise -/

theorem sameBarrier_eq {left right : Option Barrier} (valid : validateOptional left = .ok ())
    (valid' : validateOptional right = .ok ()) :
    sameBarrier left right = .ok (decide (left ≠ none ∧ left = right)) := by
  cases left with
  | none => rfl
  | some l =>
      cases right with
      | none => rfl
      | some r =>
          obtain ⟨full, projected, -⟩ := barrierFull_total valid
          obtain ⟨full', projected', -⟩ := barrierFull_total valid'
          simp only [validateOptional] at valid valid'
          simp only [sameBarrier, valid, valid', projected, projected', ok_bind]
          simp [pure, Except.pure]

theorem barrierEqual_eq {left right : Option Barrier} (valid : validateOptional left = .ok ())
    (valid' : validateOptional right = .ok ()) :
    barrierEqual left right = .ok (decide (left = right)) := by
  cases left with
  | none => cases right <;> rfl
  | some l =>
      cases right with
      | none => rfl
      | some r =>
          obtain ⟨full, projected, -⟩ := barrierFull_total valid
          obtain ⟨full', projected', -⟩ := barrierFull_total valid'
          simp only [barrierEqual, projected, projected', ok_bind]
          simp [pure, Except.pure]

theorem andThen_ok (condition : Prop) [Decidable condition] (answer : Bool) :
    andThen condition (.ok answer) = .ok (decide condition && answer) := by
  unfold andThen
  split_ifs with here <;> simp [here]

theorem orElse_ok (condition : Prop) [Decidable condition] (answer : Bool) :
    orElse condition (.ok answer) = .ok (decide condition || answer) := by
  unfold orElse
  split_ifs with here <;> simp [here]

section Calls

variable {pending barrier : Option Barrier}

/-- The call that decides whether a close request is taken. -/
theorem closes_eq (valid : validateOptional pending = .ok ())
    (valid' : validateOptional barrier = .ok ()) (condition : Prop) [Decidable condition] :
    andThen condition (orElse (pending = none) (sameBarrier pending barrier)) =
      .ok (decide (condition ∧ (pending = none ∨ pending = barrier))) := by
  rw [sameBarrier_eq valid valid', orElse_ok, andThen_ok, ← Bool.decide_or, ← Bool.decide_and]
  congr 2
  by_cases none : pending = .none <;> simp [none]

/-- The call that decides whether a witness is taken. -/
theorem witnesses_eq (valid : validateOptional pending = .ok ())
    (valid' : validateOptional barrier = .ok ()) (condition : Prop) [Decidable condition] :
    andThen condition (sameBarrier pending barrier) =
      .ok (decide (condition ∧ pending ≠ none ∧ pending = barrier)) := by
  rw [sameBarrier_eq valid valid', andThen_ok, ← Bool.decide_and]

end Calls

theorem hasOutcome_eq {t : Transition} {o : Outcome}
    (valid : validateOptional t.state.pendingBarrierIdentity = .ok ())
    (valid' : validateOptional o.pendingBarrierIdentity = .ok ()) :
    t.hasOutcome o.physicalState o.physicalConnectionGeneration o.activeReceive
        o.pendingBarrierIdentity o.action o.reason =
      .ok (decide (o.Reached t.state ∧ t.action = o.action ∧ t.reason = o.reason)) := by
  unfold Transition.hasOutcome andThen
  split_ifs with same
  · rw [barrierEqual_eq valid valid', ok_bind]
    simp [pure, Except.pure, Outcome.Reached, same]
  · have differs : ¬(o.Reached t.state ∧ t.action = o.action ∧ t.reason = o.reason) := by
      rintro ⟨⟨physical, generation, active, -⟩, -⟩
      exact same ⟨physical, generation, active⟩
    rw [decide_eq_false differs]

/-! ## The relation -/

theorem validState_pending {s : ProtocolState} (valid : validateState s = .ok ()) :
    validateOptional s.pendingBarrierIdentity = .ok () :=
  (stateSemantics_optional (validateState_eq_ok.mp valid).1).2.1

/-- The answer of the relation where the table decides. -/
def answered (t : Transition) : Option Outcome → Except CandidateError Bool
  | none => pure (decide (t.state = t.priorState ∧ t.action = .transitionRejected ∧
      t.reason = some .protocolTransitionInvalid))
  | some o => t.hasOutcome o.physicalState o.physicalConnectionGeneration o.activeReceive
      o.pendingBarrierIdentity o.action o.reason

theorem relation_answered {t : Transition} (validPrior : validateState t.priorState = .ok ())
    (validEvent : validateEvent t.event = .ok ()) :
    transitionRelationMatches t = answered t (decision t.priorState t.event) := by
  have pending := validState_pending validPrior
  have barrier := (validateEvent_eq_ok.mp validEvent).1
  unfold transitionRelationMatches decision
  simp only [closes_eq pending barrier, witnesses_eq pending barrier, ok_bind, decide_eq_true_eq,
    and_assoc, ne_eq, and_self_left, apply_ite (answered t)]
  rfl

/-! ## The decider -/

/-- What the decider builds where the table decides. -/
def acted (s : ProtocolState) (e : ProtocolEvent) :
    Option Outcome → Except CandidateError Transition
  | none => rejectedTransition s e
  | some o => moved s e o.physicalState o.physicalConnectionGeneration o.activeReceive
      o.pendingBarrierIdentity o.action o.reason

/-- An answer that is handed on is the answer. -/
theorem some_map_bind {α : Type} (attempt : Except CandidateError α)
    (next : Option α → Except CandidateError α) (handed : ∀ a, next (some a) = pure a) :
    (some <$> attempt) >>= next = attempt := by
  cases attempt with
  | error e => rfl
  | ok a => exact handed a

theorem transition_acted {s : ProtocolState} {e : ProtocolEvent}
    (valid : validateState s = .ok ()) (validEvent : validateEvent e = .ok ()) :
    transitionKalshiCandidateProtocol s e = acted s e (decision s e) := by
  have pending := validState_pending valid
  have barrier := (validateEvent_eq_ok.mp validEvent).1
  unfold transitionKalshiCandidateProtocol decision
  simp only [valid, validEvent, closes_eq pending barrier, witnesses_eq pending barrier, ok_bind,
    decide_eq_true_eq, and_assoc, ne_eq, and_self_left, apply_ite (acted s e)]
  by_cases connected : s.physicalState = .connected
  · simp only [connected, true_and, if_true, reduceCtorEq, false_and, if_false,
      some_map_bind, implies_true]
    rfl
  · simp only [connected, false_and, if_false]
    rfl

/-! ## Built transitions -/

/-- What the semantics require of each physical state. -/
theorem stateSemantics_eq_ok {physical : PhysicalState} {generation : Nat} {active : Bool}
    {pending : Option Barrier} {allowAbsent : Bool} :
    stateSemantics physical generation active pending allowAbsent = .ok () ↔
      ValidGeneration generation ∧ validateOptional pending = .ok () ∧
      (∀ barrier ∈ pending, barrier.physicalConnectionGeneration = generation) ∧
      match physical with
      | .absent => allowAbsent = true ∧ generation = 0 ∧ active = false ∧ pending = none
      | .connecting => active = false ∧ pending = none
      | .connected => 1 ≤ generation ∧ (active = true → pending = none)
      | .closing | .closed => 1 ≤ generation ∧ active = false
      | .uncertain | .halted => active = false := by
  simp only [stateSemantics, bind_eq_ok, exists_unit, refuse_eq_ok, not_not, not_exists, not_and,
    ne_eq]
  refine and_congr_right fun _ => and_congr_right fun _ => and_congr_right fun _ => ?_
  cases physical <;> simp [Nat.one_le_iff_ne_zero]

/-- A row leads from a valid state and event to a state that can be built. -/
theorem Moves.semantics {s : ProtocolState} {e : ProtocolEvent} {o : Outcome} (moves : Moves s e o)
    (valid : validateState s = .ok ()) (validEvent : validateEvent e = .ok ()) :
    stateSemantics o.physicalState o.physicalConnectionGeneration o.activeReceive
      o.pendingBarrierIdentity false = .ok () := by
  obtain ⟨small, pending, belongs, place⟩ :=
    stateSemantics_eq_ok.mp (validateState_eq_ok.mp valid).1
  have barrier := (validateEvent_eq_ok.mp validEvent).1
  have own (current : Current e.barrierIdentity s.physicalConnectionGeneration) :
      ∀ b ∈ e.barrierIdentity, b.physicalConnectionGeneration = s.physicalConnectionGeneration := by
    intro b known
    rw [Option.mem_def] at known
    rw [Current, known, Option.map_some] at current
    exact Option.some.inj current
  have nothing : validateOptional none = .ok () := rfl
  refine stateSemantics_eq_ok.mpr ?_
  cases moves with
  | halt running kind => exact ⟨small, pending, belongs, rfl⟩
  | opening apart kind clear => exact ⟨small, nothing, nofun, rfl, rfl⟩
  | overflow connecting kind last => exact ⟨small, nothing, nofun, rfl⟩
  | opened connecting kind room =>
      have next : s.physicalConnectionGeneration + 1 ≤ maxSigned64 :=
        Nat.succ_le_of_lt (lt_of_le_of_ne small room)
      exact ⟨next, nothing, nofun, Nat.le_add_left 1 _, nofun⟩
  | failed connecting kind => exact ⟨small, nothing, nofun, rfl⟩
  | armed connected kind clear =>
      rw [connected] at place
      exact ⟨small, nothing, nofun, place.1, fun _ => rfl⟩
  | completed connected kind clear =>
      rw [connected] at place
      exact ⟨small, nothing, nofun, place.1, nofun⟩
  | receiveFailed connected kind clear current =>
      rw [connected] at place
      exact ⟨small, barrier, own current, place.1, rfl⟩
  | required connected kind clear current =>
      rw [connected] at place
      exact ⟨small, barrier, own current, place.1, nofun⟩
  | closing connected kind current clear =>
      rw [connected] at place
      exact ⟨small, barrier, own current, place.1, rfl⟩
  | witnessed held kind waiting same =>
      refine ⟨small, nothing, nofun, ?_⟩
      rcases held with here | here | here <;> rw [here] at place ⊢
      · exact ⟨place.1, nofun⟩
      · exact ⟨place.1, rfl⟩
      · exact ⟨place.1, rfl⟩
  | closed closing kind =>
      rw [closing] at place
      exact ⟨small, pending, belongs, place.1, rfl⟩
  | uncertain closing kind => exact ⟨small, pending, belongs, rfl⟩

theorem Moves.present {s : ProtocolState} {e : ProtocolEvent} {o : Outcome}
    (moves : Moves s e o) : o.physicalState ≠ .absent := by
  cases moves with
  | witnessed held kind waiting same =>
      rcases held with here | here | here <;> rw [here] <;> exact nofun
  | _ => exact nofun

theorem relation_decision {t : Transition} (validPrior : validateState t.priorState = .ok ())
    (validEvent : validateEvent t.event = .ok ()) (validNext : validateState t.state = .ok ()) :
    transitionRelationMatches t =
      .ok (decide (judged t (decision t.priorState t.event))) := by
  rw [relation_answered validPrior validEvent]
  cases decided : decision t.priorState t.event with
  | none => rfl
  | some o =>
      have semantics := (decision_moves decided).semantics validPrior validEvent
      exact hasOutcome_eq (validState_pending validNext) (stateSemantics_optional semantics).2.1

/-- The decider answers every valid state and event with what the table decides. -/
theorem transition_decision {s : ProtocolState} {e : ProtocolEvent}
    (valid : validateState s = .ok ()) (validEvent : validateEvent e = .ok ()) :
    ∃ t, transitionKalshiCandidateProtocol s e = .ok t ∧ t.priorState = s ∧ t.event = e ∧
      validateState t.state = .ok () ∧ judged t (decision s e) := by
  rw [transition_acted valid validEvent]
  cases decided : decision s e with
  | none =>
      obtain ⟨t, built, rfl, rfl, same, action, reason⟩ := transition_total
        .transitionRejected (some .protocolTransitionInvalid) valid validEvent valid fun schema sha => by
          rw [relation_decision valid validEvent valid, decided]
          simp [judged]
      exact ⟨t, built, rfl, rfl, same ▸ valid, same, action, reason⟩
  | some o =>
      have moves := decision_moves decided
      obtain ⟨next, created, validNext, reached⟩ :=
        createState_total (moves.semantics valid validEvent)
      obtain ⟨t, built, rfl, rfl, rfl, action, reason⟩ := transition_total o.action
        o.reason valid validEvent validNext fun schema sha => by
          rw [relation_decision valid validEvent validNext, decided]
          simp [judged, Outcome.Reached, reached]
      refine ⟨t, ?_, rfl, rfl, validNext, reached, action, reason⟩
      rw [acted, moved, ProtocolState.create, refuse_ok _ moves.present, ok_bind, created, ok_bind,
        built]

end Inci.Candidate
