/-
# Journal.Foundation -- the foundation state and its reducer

The foundation state counts the raw records of a session and keeps the latest
connection epoch of each source, as a tuple sorted by source.  `validateState` is
the check its constructor and `canonicalStateBytes` make; `reduceEvent` applies
one raw record, and its answer is checked again on the way out.

A source is its kind and its id, which the tuple of the source holds beside the
epoch.  The numbers are natural here, so what is left of the scalar checks is the
session id.
-/
import Mathlib.Data.Prod.Lex
import Inci.Journal.Codec
import Inci.Theory.Watermarks

namespace Inci.Journal

open Inci.Theory
open Inci.Theory.Json (Text text Value)

set_option autoImplicit false

/-- What the state, the reducer, a derived draft and the canonical writer raise. -/
inductive ReducerFailure where
  | stateValidation (reason : String)
  | reducerValidation (reason : String)
  | eventValidation (reason : String)
  | integerConversion
  deriving DecidableEq

/-! ## The state -/

abbrev SourceKey := SourceKind × Text

/-- What sources are sorted by. -/
def SourceKey.rank (key : SourceKey) : Text ×ₗ Text := toLex (key.1.value, key.2)

structure FoundationState where
  sessionId : Text
  lastAppliedRawSeq : Nat
  rawCount : Nat
  derivedCount : Nat
  sourceEpochs : List (SourceKey × Nat)
  deriving DecidableEq

/-- The entries have safe source ids and name no source twice. -/
def checkEntries (seen : List SourceKey) : List (SourceKey × Nat) → Except ReducerFailure Unit
  | [] => .ok ()
  | (key, _) :: rest => do
      refuse (safeIdentifier key.2 "source_id" ≠ .ok ())
        (.stateValidation "source_epochs_entry_invalid")
      refuse (key ∈ seen) (.stateValidation "source_epochs_duplicate_key")
      checkEntries (key :: seen) rest

/-- `_validate_state` -/
def validateState (s : FoundationState) : Except ReducerFailure Unit := do
  refuse (validateSessionId s.sessionId ≠ .ok ())
    (.stateValidation "foundation_state_scalar_invalid")
  checkEntries [] s.sourceEpochs
  refuse (s.sourceEpochs ≠ Watermarks.inOrder SourceKey.rank s.sourceEpochs)
    (.stateValidation "source_epochs_not_sorted")
  refuse (s.rawCount ≠ s.derivedCount) (.stateValidation "foundation_state_count_mismatch")
  if s.rawCount = 0 then
    refuse (s.lastAppliedRawSeq ≠ 0 ∨ s.sourceEpochs ≠ [])
      (.stateValidation "foundation_state_empty_invariant")
  else
    refuse (s.lastAppliedRawSeq = 0 ∨ s.lastAppliedRawSeq < s.rawCount ∨ s.sourceEpochs = [] ∨
      s.rawCount < s.sourceEpochs.length) (.stateValidation "foundation_state_sequence_invariant")

/-- `FoundationState(...)` -/
def foundationState (s : FoundationState) : Except ReducerFailure FoundationState := do
  validateState s
  return s

def initialState (sessionId : Text) : Except ReducerFailure FoundationState :=
  foundationState ⟨sessionId, 0, 0, 0, []⟩

def sourceEpochObject (entry : SourceKey × Nat) : Value :=
  .obj [(text "source_kind", .str entry.1.1.value), (text "source_id", .str entry.1.2),
    (text "connection_epoch", .int entry.2)]

def FoundationState.projection (s : FoundationState) : Members :=
  [(text "state_version", .int 1), (text "session_id", .str s.sessionId),
   (text "last_applied_raw_seq", .int s.lastAppliedRawSeq), (text "raw_count", .int s.rawCount),
   (text "derived_count", .int s.derivedCount),
   (text "source_epochs", .arr (s.sourceEpochs.map sourceEpochObject))]

/-- `canonical_json_bytes`, with what it raises past the conversion limit. -/
def writeCanonical (members : Members) : Except ReducerFailure Bytes :=
  match canonicalJsonBytes (.obj members) with
  | some content => .ok content
  | none => .error .integerConversion

def canonicalStateBytes (s : FoundationState) : Except ReducerFailure Bytes := do
  validateState s
  writeCanonical s.projection

/-! ## The reducer -/

structure Reduction where
  state : FoundationState
  outputs : List DerivedDraft

/-- `Reduction(...)` -/
def reductionOf (reduction : Reduction) : Except ReducerFailure Reduction := do
  let _ ← canonicalStateBytes reduction.state
  return reduction

/-- `_require_valid_event`: the codec writes the event and reads it back. -/
def requireValidEvent (e : PersistedEvent) : Except ReducerFailure Unit :=
  refuse (((encodeRecord e).bind fun (metadata, payload) => decodeRecord metadata payload) ≠ some e)
    (.reducerValidation "persisted_event_invalid")

def PersistedEvent.sourceKey (e : PersistedEvent) : SourceKey := (e.sourceKind, e.sourceId)

/-- The draft that says a raw record was accepted. -/
def rawAccepted (raw : PersistedEvent) : Except ReducerFailure DerivedDraft := do
  let payload ← writeCanonical
    [(text "input_event_type", .str raw.eventType),
     (text "input_payload_sha256", .str raw.payloadSha256),
     (text "parent_ingest_seq", .int raw.ingestSeq), (text "source_id", .str raw.sourceId)]
  let draft : DerivedDraft := ⟨text "raw_accepted", 1, text "canonical-json-v1", payload⟩
  match draft.validate with
  | .ok () => .ok draft
  | .error reason => .error (.eventValidation reason)

def reduceEvent (state : FoundationState) (raw : PersistedEvent) :
    Except ReducerFailure Reduction := do
  let _ ← canonicalStateBytes state
  requireValidEvent raw
  refuse (raw.recordKind ≠ .raw) (.reducerValidation "raw_record_required")
  refuse (raw.sessionId ≠ state.sessionId) (.reducerValidation "reducer_session_mismatch")
  refuse (raw.ingestSeq ≤ state.lastAppliedRawSeq) (.reducerValidation "raw_sequence_not_increasing")
  let epochs := Dict.ofEntries state.sourceEpochs
  checkSome (fun prior => refuse (raw.connectionEpoch < prior)
    (.reducerValidation "source_epoch_regression")) (Dict.get epochs raw.sourceKey)
  let output ← rawAccepted raw
  let newState ← foundationState
    { sessionId := state.sessionId
      lastAppliedRawSeq := raw.ingestSeq
      rawCount := state.rawCount + 1
      derivedCount := state.derivedCount + 1
      sourceEpochs := Watermarks.record SourceKey.rank epochs raw.sourceKey raw.connectionEpoch }
  reductionOf ⟨newState, [output]⟩

/-! ## Runs -/

/-- The state of a reducer and the records it has applied. -/
structure ReducerRun where
  state : FoundationState
  applied : List PersistedEvent

/-- A record is offered; when the reducer raises, its caller keeps the state it has. -/
def ReducerRun.offer (run : ReducerRun) (e : PersistedEvent) : ReducerRun :=
  match reduceEvent run.state e with
  | .ok reduction => ⟨reduction.state, run.applied ++ [e]⟩
  | .error _ => run

def reducerRun (start : FoundationState) (offered : List PersistedEvent) : ReducerRun :=
  offered.foldl ReducerRun.offer ⟨start, []⟩

end Inci.Journal
