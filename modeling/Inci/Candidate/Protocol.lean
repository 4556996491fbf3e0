/-
# Candidate.Protocol -- the decider and the relation that checks it

`transitionKalshiCandidateProtocol` decides what an event does in a state;
`transitionRelationMatches` is the second table of the source, which every built
transition has to satisfy.  Both are chains of conditions in the source's order.
A value here is its contents, so an object is itself where its contents agree.
-/
import Inci.Candidate.Contracts

namespace Inci.Candidate

open Inci.Theory
open Inci.Journal (matchesSha256)

set_option autoImplicit false

/-- Python's `and` before a call that may raise. -/
def andThen (condition : Prop) [Decidable condition] (next : Except CandidateError Bool) :
    Except CandidateError Bool :=
  if condition then next else .ok false

/-- Python's `or` before a call that may raise. -/
def orElse (condition : Prop) [Decidable condition] (next : Except CandidateError Bool) :
    Except CandidateError Bool :=
  if condition then .ok true else next

/-- `_same_barrier` -/
def sameBarrier : Option Barrier → Option Barrier → Except CandidateError Bool
  | some left, some right => do
      validateBarrier left
      validateBarrier right
      let _ ← barrierFull left
      let _ ← barrierFull right
      pure (decide (left = right))
  | _, _ => pure false

/-- `barrier_equal`, of the relation. -/
def barrierEqual : Option Barrier → Option Barrier → Except CandidateError Bool
  | some left, some right => do
      let _ ← barrierFull left
      let _ ← barrierFull right
      pure (decide (left = right))
  | none, none => pure true
  | _, _ => pure false

/-- The barrier of the event belongs to the generation. -/
def Current (barrier : Option Barrier) (generation : Nat) : Prop :=
  barrier.map Barrier.physicalConnectionGeneration = some generation

instance (barrier : Option Barrier) (generation : Nat) : Decidable (Current barrier generation) :=
  inferInstanceAs (Decidable (_ = _))

/-! ## The relation -/

/-- `matches`: the transition has the expected state, action and reason. -/
def Transition.hasOutcome (value : Transition) (physical : PhysicalState) (generation : Nat)
    (active : Bool) (pending : Option Barrier) (action : Action) (reason : Option Reason) :
    Except CandidateError Bool :=
  andThen (value.state.physicalState = physical ∧
      value.state.physicalConnectionGeneration = generation ∧ value.state.activeReceive = active) do
    let equal ← barrierEqual value.state.pendingBarrierIdentity pending
    pure (equal && decide (value.action = action ∧ value.reason = reason))

/-- `_transition_relation_matches` -/
def transitionRelationMatches (value : Transition) : Except CandidateError Bool :=
  let prior := value.priorState
  let event := value.event
  let physical := prior.physicalState
  let generation := prior.physicalConnectionGeneration
  let pending := prior.pendingBarrierIdentity
  let kind := event.kind
  let barrier := event.barrierIdentity
  let rejected : Bool := decide (value.state = prior ∧ value.action = .transitionRejected ∧
    value.reason = some .protocolTransitionInvalid)
  if physical = .halted then pure rejected
  else if kind = .haltRequested then
    value.hasOutcome .halted generation false pending .halted (some .haltRequested)
  else if physical ∈ [PhysicalState.absent, .closed] ∧ kind = .openRequested ∧
      prior.activeReceive = false ∧ pending = none then
    value.hasOutcome .connecting generation false none .none none
  else if physical = .connecting ∧ kind = .openSucceeded then
    if generation = maxSigned64 then
      value.hasOutcome .halted generation false none .halted (some .generationOverflow)
    else value.hasOutcome .connected (generation + 1) false none .connectionOpened none
  else if physical = .connecting ∧ kind = .openFailed then
    value.hasOutcome .halted generation false none .halted (some .openFailed)
  else if physical = .connected ∧ kind = .receiveArmed ∧ prior.activeReceive = false ∧
      pending = none then
    value.hasOutcome physical generation true none .none none
  else if physical = .connected ∧ kind = .receiveCompleted ∧ prior.activeReceive = true ∧
      pending = none then
    value.hasOutcome physical generation false none .none none
  else if physical = .connected ∧ kind = .receiveFailed ∧ prior.activeReceive = true ∧
      pending = none ∧ Current barrier generation then
    value.hasOutcome .closing generation false barrier .barrierRequired (some .receiveFailed)
  else if physical = .connected ∧ kind = .barrierRequired ∧ prior.activeReceive = false ∧
      pending = none ∧ Current barrier generation then
    value.hasOutcome physical generation false barrier .barrierRequired none
  else do
    let closes ← andThen (physical = .connected ∧ kind = .closeRequested ∧
        prior.activeReceive = false ∧ Current barrier generation)
      (orElse (pending = none) (sameBarrier pending barrier))
    if closes then value.hasOutcome .closing generation false barrier .barrierRequired none
    else do
      let witnesses ← andThen (physical ∈ [PhysicalState.connected, .closing, .closed] ∧
          kind = .barrierWitnessed ∧ prior.activeReceive = false ∧ pending ≠ none)
        (sameBarrier pending barrier)
      if witnesses then value.hasOutcome physical generation false none .none none
      else if physical = .closing ∧ kind = .closeProven ∧ prior.activeReceive = false then
        value.hasOutcome .closed generation false pending .connectionClosed none
      else if physical = .closing ∧ kind ∈ [EventKind.closeTimeout, .closeFailed] then
        value.hasOutcome .halted generation false pending .halted (some .closeUncertain)
      else pure rejected

/-! ## Building transitions -/

/-- `_validate_kalshi_candidate_protocol_transition` -/
def validateTransition (value : Transition) : Check := do
  validateState value.priorState
  validateEvent value.event
  validateState value.state
  refuse (value.schemaVersion ≠ 1) .contractInvalid
  refuse (matchesSha256 value.transitionSha256 = false) .contractInvalid
  let unsigned ← transitionUnsigned value.priorState value.event value.state value.action
    value.reason
  checkDigest transitionDomain unsigned value.transitionSha256
  let legal ← transitionRelationMatches value
  refuse (legal = false) .contractInvalid

/-- `_transition` -/
def transition (priorState : ProtocolState) (event : ProtocolEvent) (state : ProtocolState)
    (action : Action) (reason : Option Reason) : Except CandidateError Transition := do
  validateState priorState
  validateEvent event
  validateState state
  let unsigned ← transitionUnsigned priorState event state action reason
  let identity ← digest transitionDomain unsigned
  let value : Transition := ⟨1, priorState, event, state, action, reason, identity⟩
  validateTransition value
  pure value

/-- `_rejected_transition` -/
def rejectedTransition (state : ProtocolState) (event : ProtocolEvent) :
    Except CandidateError Transition :=
  transition state event state .transitionRejected (some .protocolTransitionInvalid)

/-- A new state and the transition to it. -/
def moved (state : ProtocolState) (event : ProtocolEvent) (physical : PhysicalState)
    (generation : Nat) (active : Bool) (pending : Option Barrier) (action : Action)
    (reason : Option Reason) : Except CandidateError Transition := do
  let next ← ProtocolState.create physical generation active pending
  transition state event next action reason

/-! ## The decider -/

/-- `transition_kalshi_candidate_protocol` -/
def transitionKalshiCandidateProtocol (state : ProtocolState) (event : ProtocolEvent) :
    Except CandidateError Transition := do
  validateState state
  validateEvent event
  let physical := state.physicalState
  let kind := event.kind
  let generation := state.physicalConnectionGeneration
  let pending := state.pendingBarrierIdentity
  if physical = .halted then rejectedTransition state event
  else if kind = .haltRequested then
    moved state event .halted generation false pending .halted (some .haltRequested)
  else if physical ∈ [PhysicalState.absent, .closed] ∧ kind = .openRequested ∧
      state.activeReceive = false ∧ pending = none then
    moved state event .connecting generation false none .none none
  else if physical = .connecting ∧ kind = .openSucceeded then
    if generation = maxSigned64 then
      moved state event .halted generation false none .halted (some .generationOverflow)
    else moved state event .connected (generation + 1) false none .connectionOpened none
  else if physical = .connecting ∧ kind = .openFailed then
    moved state event .halted generation false none .halted (some .openFailed)
  else do
    let decided ← if physical = .connected then
        if kind = .receiveArmed ∧ state.activeReceive = false ∧ pending = none then
          some <$> moved state event physical generation true none .none none
        else if kind = .receiveCompleted ∧ state.activeReceive = true ∧ pending = none then
          some <$> moved state event physical generation false none .none none
        else if kind = .receiveFailed ∧ state.activeReceive = true ∧ pending = none ∧
            Current event.barrierIdentity generation then
          some <$> moved state event .closing generation false event.barrierIdentity
            .barrierRequired (some .receiveFailed)
        else if kind = .barrierRequired ∧ state.activeReceive = false ∧ pending = none ∧
            Current event.barrierIdentity generation then
          some <$> moved state event physical generation false event.barrierIdentity
            .barrierRequired none
        else do
          let closes ← andThen (kind = .closeRequested ∧ state.activeReceive = false ∧
              Current event.barrierIdentity generation)
            (orElse (pending = none) (sameBarrier pending event.barrierIdentity))
          if closes then
            some <$> moved state event .closing generation false event.barrierIdentity
              .barrierRequired none
          else pure none
      else pure none
    match decided with
    | some answer => pure answer
    | none => do
      let witnesses ← andThen (physical ∈ [PhysicalState.connected, .closing, .closed] ∧
          kind = .barrierWitnessed ∧ state.activeReceive = false ∧ pending ≠ none)
        (sameBarrier pending event.barrierIdentity)
      if witnesses then moved state event physical generation false none .none none
      else if physical = .closing ∧ kind = .closeProven ∧ state.activeReceive = false then
        moved state event .closed generation false pending .connectionClosed none
      else if physical = .closing ∧ kind ∈ [EventKind.closeTimeout, .closeFailed] then
        moved state event .halted generation false pending .halted (some .closeUncertain)
      else rejectedTransition state event

end Inci.Candidate
