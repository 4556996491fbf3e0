/-
# Candidate.Contracts -- barriers, states, events and transitions

The values of the synthetic candidate protocol with the checks of their factories
and validators.  A value carries the digest of its other fields, and a validator
computes it again.  Values are immutable and built by the factories only, so the
provenance of an object is its validity here.
-/
import Inci.Journal.Codec

namespace Inci.Candidate

open Inci.Theory
open Inci.Theory.Json (Text text Value)
open Inci.Journal (Bytes Members canonicalJsonBytes hexdigest matchesSafeIdentifier matchesSha256)

set_option autoImplicit false

/-! ## Vocabulary -/

def maxSigned64 : Nat := 9223372036854775807

def maxCanonicalBytes : Nat := 131064

/-- `KalshiCandidatePhysicalStateV1` -/
inductive PhysicalState where
  | absent | connecting | connected | closing | uncertain | closed | halted
  deriving DecidableEq

def PhysicalState.value : PhysicalState → Text
  | .absent => text "ABSENT"
  | .connecting => text "CONNECTING"
  | .connected => text "CONNECTED"
  | .closing => text "CLOSING"
  | .uncertain => text "UNCERTAIN"
  | .closed => text "CLOSED"
  | .halted => text "HALTED"

/-- `KalshiCandidateProtocolEventKindV1` -/
inductive EventKind where
  | openRequested | openSucceeded | openFailed
  | receiveArmed | receiveCompleted | receiveFailed
  | closeRequested | closeProven | closeTimeout | closeFailed
  | barrierRequired | barrierWitnessed
  | haltRequested
  deriving DecidableEq

def EventKind.value : EventKind → Text
  | .openRequested => text "OPEN_REQUESTED"
  | .openSucceeded => text "OPEN_SUCCEEDED"
  | .openFailed => text "OPEN_FAILED"
  | .receiveArmed => text "RECEIVE_ARMED"
  | .receiveCompleted => text "RECEIVE_COMPLETED"
  | .receiveFailed => text "RECEIVE_FAILED"
  | .closeRequested => text "CLOSE_REQUESTED"
  | .closeProven => text "CLOSE_PROVEN"
  | .closeTimeout => text "CLOSE_TIMEOUT"
  | .closeFailed => text "CLOSE_FAILED"
  | .barrierRequired => text "BARRIER_REQUIRED"
  | .barrierWitnessed => text "BARRIER_WITNESSED"
  | .haltRequested => text "HALT_REQUESTED"

/-- `KalshiCandidateProtocolActionV1` -/
inductive Action where
  | none | connectionOpened | connectionClosed | barrierRequired | transitionRejected | halted
  deriving DecidableEq

def Action.value : Action → Text
  | .none => text "NONE"
  | .connectionOpened => text "CONNECTION_OPENED"
  | .connectionClosed => text "CONNECTION_CLOSED"
  | .barrierRequired => text "BARRIER_REQUIRED"
  | .transitionRejected => text "TRANSITION_REJECTED"
  | .halted => text "HALTED"

/-- `KalshiCandidateProtocolReasonV1` -/
inductive Reason where
  | protocolTransitionInvalid | generationOverflow | openFailed | receiveFailed | closeUncertain
  | haltRequested
  deriving DecidableEq

def Reason.value : Reason → Text
  | .protocolTransitionInvalid => text "PROTOCOL_TRANSITION_INVALID"
  | .generationOverflow => text "GENERATION_OVERFLOW"
  | .openFailed => text "OPEN_FAILED"
  | .receiveFailed => text "RECEIVE_FAILED"
  | .closeUncertain => text "CLOSE_UNCERTAIN"
  | .haltRequested => text "HALT_REQUESTED"

/-! ## Digests -/

/-- What the factories and validators raise. -/
inductive CandidateError where
  | contractInvalid
  | barrierInvalid
  /-- `_CanonicalCapacity` -/
  | canonicalCapacity
  /-- An integer past the conversion limit. -/
  | conversion
  deriving DecidableEq

abbrev Check := Except CandidateError Unit

/-- `_canonical` -/
def canonical (value : Members) : Except CandidateError Bytes :=
  match canonicalJsonBytes (.obj value) with
  | none => .error .conversion
  | some encoded =>
      if maxCanonicalBytes < encoded.length then .error .canonicalCapacity else .ok encoded

/-- A domain with its closing zero byte. -/
def domain (name : String) : Bytes := Utf8.ascii (text name) ++ [0]

/-- `_digest` -/
def digest (domain : Bytes) (value : Members) : Except CandidateError Text :=
  (canonical value).map fun encoded => hexdigest (domain ++ encoded)

/-- The value has the digest of its other fields. -/
def checkDigest (domain : Bytes) (unsigned : Members) (recorded : Text) : Check := do
  let computed ← digest domain unsigned
  refuse (recorded ≠ computed) .contractInvalid

/-- `_valid_generation` -/
def ValidGeneration (value : Nat) : Prop := value ≤ maxSigned64

instance (value : Nat) : Decidable (ValidGeneration value) :=
  inferInstanceAs (Decidable (value ≤ maxSigned64))

/-! ## Barriers -/

/-- `KalshiSyntheticBarrierIdentityV1` -/
structure Barrier where
  schemaVersion : Nat
  physicalConnectionGeneration : Nat
  barrierNonce : Text
  identitySha256 : Text
  deriving DecidableEq

def barrierDomain : Bytes := domain "INCI-KALSHI-SYNTHETIC-BARRIER-V1"

/-- `_barrier_unsigned` -/
def barrierUnsigned (value : Barrier) : Members :=
  [(text "schema_version", .int value.schemaVersion),
   (text "physical_connection_generation", .int value.physicalConnectionGeneration),
   (text "barrier_nonce", .str value.barrierNonce)]

/-- `_validate_barrier` -/
def validateBarrier (value : Barrier) : Check := do
  refuse (value.schemaVersion ≠ 1) .contractInvalid
  refuse (¬ValidGeneration value.physicalConnectionGeneration) .contractInvalid
  refuse (matchesSafeIdentifier value.barrierNonce = false) .contractInvalid
  refuse (matchesSha256 value.identitySha256 = false) .contractInvalid
  checkDigest barrierDomain (barrierUnsigned value) value.identitySha256

def Barrier.create (physicalConnectionGeneration : Nat) (barrierNonce : Text) :
    Except CandidateError Barrier := do
  refuse (¬ValidGeneration physicalConnectionGeneration) .barrierInvalid
  refuse (matchesSafeIdentifier barrierNonce = false) .barrierInvalid
  let unsigned : Barrier := ⟨1, physicalConnectionGeneration, barrierNonce, []⟩
  let identity ← digest barrierDomain (barrierUnsigned unsigned)
  let value := { unsigned with identitySha256 := identity }
  validateBarrier value
  pure value

/-- `_barrier_full` -/
def barrierFull (value : Barrier) : Except CandidateError Value := do
  validateBarrier value
  pure (.obj (barrierUnsigned value ++ [(text "identity_sha256", .str value.identitySha256)]))

/-- The full projection of a barrier where there is one. -/
def optionalBarrierFull : Option Barrier → Except CandidateError Value
  | none => pure .null
  | some value => barrierFull value

/-- `_validate_barrier` where there is a barrier. -/
def validateOptional : Option Barrier → Check
  | none => .ok ()
  | some value => validateBarrier value

/-! ## States -/

/-- `KalshiCandidateProtocolStateV1` -/
structure ProtocolState where
  schemaVersion : Nat
  physicalState : PhysicalState
  physicalConnectionGeneration : Nat
  activeReceive : Bool
  pendingBarrierIdentity : Option Barrier
  stateSha256 : Text
  deriving DecidableEq

def stateDomain : Bytes := domain "INCI-KALSHI-SYNTHETIC-PROTOCOL-STATE-V1"

/-- `_state_semantics` -/
def stateSemantics (physicalState : PhysicalState) (generation : Nat) (activeReceive : Bool)
    (pendingBarrierIdentity : Option Barrier) (allowAbsent : Bool) : Check := do
  refuse (¬ValidGeneration generation) .contractInvalid
  validateOptional pendingBarrierIdentity
  refuse (∃ barrier ∈ pendingBarrierIdentity, barrier.physicalConnectionGeneration ≠ generation)
    .contractInvalid
  match physicalState with
  | .absent =>
      refuse (allowAbsent = false ∨ generation ≠ 0 ∨ activeReceive = true ∨
        pendingBarrierIdentity.isSome) .contractInvalid
  | .connecting =>
      refuse (activeReceive = true ∨ pendingBarrierIdentity.isSome) .contractInvalid
  | .connected =>
      refuse (generation < 1 ∨ (activeReceive = true ∧ pendingBarrierIdentity.isSome))
        .contractInvalid
  | .closing => refuse (generation < 1 ∨ activeReceive = true) .contractInvalid
  | .closed => refuse (generation < 1 ∨ activeReceive = true) .contractInvalid
  | .uncertain => refuse (activeReceive = true) .contractInvalid
  | .halted => refuse (activeReceive = true) .contractInvalid

/-- `_state_unsigned_values` -/
def stateUnsigned (physicalState : PhysicalState) (generation : Nat) (activeReceive : Bool)
    (pendingBarrierIdentity : Option Barrier) : Except CandidateError Members := do
  let pending ← optionalBarrierFull pendingBarrierIdentity
  pure [(text "schema_version", .int 1),
    (text "physical_state", .str physicalState.value),
    (text "physical_connection_generation", .int generation),
    (text "active_receive", .bool activeReceive),
    (text "pending_barrier_identity", pending)]

/-- `_state_unsigned` -/
def ProtocolState.unsigned (value : ProtocolState) : Except CandidateError Members :=
  stateUnsigned value.physicalState value.physicalConnectionGeneration value.activeReceive
    value.pendingBarrierIdentity

/-- `_validate_state` -/
def validateState (value : ProtocolState) : Check := do
  stateSemantics value.physicalState value.physicalConnectionGeneration value.activeReceive
    value.pendingBarrierIdentity true
  refuse (value.schemaVersion ≠ 1) .contractInvalid
  refuse (matchesSha256 value.stateSha256 = false) .contractInvalid
  let unsigned ← value.unsigned
  checkDigest stateDomain unsigned value.stateSha256

/-- `_create_state` -/
def createState (physicalState : PhysicalState) (generation : Nat) (activeReceive : Bool)
    (pendingBarrierIdentity : Option Barrier) (allowAbsent : Bool) :
    Except CandidateError ProtocolState := do
  stateSemantics physicalState generation activeReceive pendingBarrierIdentity allowAbsent
  let unsigned ← stateUnsigned physicalState generation activeReceive pendingBarrierIdentity
  let identity ← digest stateDomain unsigned
  let value : ProtocolState :=
    ⟨1, physicalState, generation, activeReceive, pendingBarrierIdentity, identity⟩
  validateState value
  pure value

def ProtocolState.create (physicalState : PhysicalState) (generation : Nat) (activeReceive : Bool)
    (pendingBarrierIdentity : Option Barrier) : Except CandidateError ProtocolState := do
  refuse (physicalState = .absent) .contractInvalid
  createState physicalState generation activeReceive pendingBarrierIdentity false

/-- `initial_kalshi_candidate_protocol_state` -/
def initialProtocolState : Except CandidateError ProtocolState :=
  createState .absent 0 false none true

/-- `_state_full` -/
def stateFull (value : ProtocolState) : Except CandidateError Value := do
  validateState value
  let unsigned ← value.unsigned
  pure (.obj (unsigned ++ [(text "state_sha256", .str value.stateSha256)]))

/-! ## Events -/

/-- `_BARRIER_EVENT_KINDS` -/
def EventKind.carriesBarrier : EventKind → Bool
  | .receiveFailed | .barrierRequired | .barrierWitnessed | .closeRequested => true
  | _ => false

/-- `KalshiCandidateProtocolEventV1` -/
structure ProtocolEvent where
  schemaVersion : Nat
  kind : EventKind
  barrierIdentity : Option Barrier
  eventSha256 : Text
  deriving DecidableEq

def eventDomain : Bytes := domain "INCI-KALSHI-SYNTHETIC-PROTOCOL-EVENT-V1"

/-- `_event_unsigned_values` -/
def eventUnsigned (kind : EventKind) (barrierIdentity : Option Barrier) :
    Except CandidateError Members := do
  let barrier ← optionalBarrierFull barrierIdentity
  pure [(text "schema_version", .int 1), (text "kind", .str kind.value),
    (text "barrier_identity", barrier)]

/-- `_validate_event` -/
def validateEvent (value : ProtocolEvent) : Check := do
  validateOptional value.barrierIdentity
  refuse (value.schemaVersion ≠ 1) .contractInvalid
  refuse (value.kind.carriesBarrier ≠ value.barrierIdentity.isSome) .contractInvalid
  refuse (matchesSha256 value.eventSha256 = false) .contractInvalid
  let unsigned ← eventUnsigned value.kind value.barrierIdentity
  checkDigest eventDomain unsigned value.eventSha256

def ProtocolEvent.create (kind : EventKind) (barrierIdentity : Option Barrier) :
    Except CandidateError ProtocolEvent := do
  validateOptional barrierIdentity
  refuse (kind.carriesBarrier ≠ barrierIdentity.isSome) .contractInvalid
  let unsigned ← eventUnsigned kind barrierIdentity
  let identity ← digest eventDomain unsigned
  let value : ProtocolEvent := ⟨1, kind, barrierIdentity, identity⟩
  validateEvent value
  pure value

/-- `_event_full` -/
def eventFull (value : ProtocolEvent) : Except CandidateError Value := do
  validateEvent value
  let unsigned ← eventUnsigned value.kind value.barrierIdentity
  pure (.obj (unsigned ++ [(text "event_sha256", .str value.eventSha256)]))

/-! ## Transitions -/

/-- `KalshiCandidateProtocolTransitionV1` -/
structure Transition where
  schemaVersion : Nat
  priorState : ProtocolState
  event : ProtocolEvent
  state : ProtocolState
  action : Action
  reason : Option Reason
  transitionSha256 : Text
  deriving DecidableEq

def transitionDomain : Bytes := domain "INCI-KALSHI-SYNTHETIC-PROTOCOL-TRANSITION-V1"

def reasonValue : Option Reason → Value
  | none => .null
  | some reason => .str reason.value

/-- `_transition_unsigned_values` -/
def transitionUnsigned (priorState : ProtocolState) (event : ProtocolEvent) (state : ProtocolState)
    (action : Action) (reason : Option Reason) : Except CandidateError Members := do
  let prior ← stateFull priorState
  let happened ← eventFull event
  let next ← stateFull state
  pure [(text "schema_version", .int 1), (text "prior_state", prior), (text "event", happened),
    (text "state", next), (text "action", .str action.value),
    (text "reason", reasonValue reason)]

end Inci.Candidate
