/-
# Journal.Trace -- the trace chain of a session

The trace of a session is a chain of digests.  `initialTrace` seeds it with the session start;
`nextTrace` extends it by one raw record, the records derived from it and the state after it.
Both read their records back through the codec first, as the reducer does.

The digest of a record is held as its bytes here; the source passes it as hexadecimal text and
decodes it again where it hashes it.
-/
import Inci.Journal.Reducer

namespace Inci.Journal

open Inci.Theory
open Inci.Theory.Json (Text text Value)

set_option autoImplicit false

/-- The hexadecimal text of bytes. -/
def hexText (bytes : Bytes) : Text := text (Sha256.hex bytes)

def traceSeedDomain : Bytes := Utf8.ascii (text "INCI-TRACE-V1") ++ [0]
def traceStepDomain : Bytes := Utf8.ascii (text "INCI-TRACE-STEP-V1") ++ [0]

/-- `bytes.fromhex(canonical_record_sha256(...))`; a length of more than eight bytes is refused. -/
def recordDigest (e : PersistedEvent) : Except ReducerFailure Bytes :=
  match canonicalRecordBytes e with
  | some content => .ok (Sha256.digest content)
  | none => .error .integerConversion

/-- The manifest in a payload that is its canonical form. -/
def payloadManifest (payload : Bytes) : Except ReducerFailure SessionManifest :=
  match (strictObject payload sessionManifestKeys).bind manifestOf with
  | none => .error (.reducerValidation "session_start_manifest_invalid")
  | some m => do
      refuse (canonicalSessionManifestBytes m ≠ some payload)
        (.reducerValidation "session_start_manifest_invalid")
      pure m

def initialTrace (start : PersistedEvent) : Except ReducerFailure Bytes := do
  requireValidEvent start
  refuse (start.ingestSeq ≠ 1 ∨ start.recordKind ≠ .control ∨ start.eventType ≠ sessionStartType)
    (.reducerValidation "sequence_one_session_start_required")
  let m ← payloadManifest start.payload
  refuse (m.sessionId ≠ start.sessionId ∨ start.sourceEntityId ≠ m.sessionId ∨
    start.localWallNs ≠ m.createdWallNs ∨ start.localMonotonicNs ≠ 0)
    (.reducerValidation "session_start_manifest_binding_invalid")
  let digest ← recordDigest start
  pure (Sha256.digest (traceSeedDomain ++ digest))

/-- The state and the trace that a session starts with. -/
def openingOf (m : SessionManifest) (start : PersistedEvent) :
    Except ReducerFailure (FoundationState × Bytes) := do
  let state ← initialState m.sessionId
  let trace ← initialTrace start
  pure (state, trace)

/-! ## One step -/

/-- The digests of derived records of a parent, each at a sequence number of its own. -/
def outputDigests (parent : PersistedEvent) : List Nat → List PersistedEvent →
    Except ReducerFailure (List Bytes)
  | _, [] => .ok []
  | seen, item :: rest => do
      requireValidEvent item
      refuse (item.recordKind ≠ .derived ∨ item.sessionId ≠ parent.sessionId ∨
        item.parentIngestSeq ≠ some parent.ingestSeq)
        (.reducerValidation "trace_derived_binding_invalid")
      refuse (item.ingestSeq ∈ seen) (.reducerValidation "trace_derived_sequence_duplicate")
      let digest ← recordDigest item
      let digests ← outputDigests parent (item.ingestSeq :: seen) rest
      pure (digest :: digests)

def outputObject (digest : Bytes) : Value := .obj [(text "record_sha256", .str (hexText digest))]

/-- What a step adds to the chain. -/
def traceEntry (raw : Bytes) (outputs : List Bytes) (state : Bytes) : Members :=
  [(text "v", .int 1), (text "raw_record_sha256", .str (hexText raw)),
   (text "outputs", .arr (outputs.map outputObject)), (text "state_sha256", .str (hexText state))]

/-- The entry behind the trace before it and its own length. -/
def stepBytes (prior entry : Bytes) : Except ReducerFailure Bytes :=
  match lengthBytes entry.length with
  | some length => .ok (traceStepDomain ++ prior ++ length ++ entry)
  | none => .error .integerConversion

def nextTrace (prior : Bytes) (raw : PersistedEvent) (derived : List PersistedEvent)
    (state : FoundationState) : Except ReducerFailure Bytes := do
  refuse (prior.length ≠ 32) (.reducerValidation "prior_trace_length_invalid")
  requireValidEvent raw
  refuse (raw.recordKind ≠ .raw) (.reducerValidation "trace_raw_record_required")
  let _ ← canonicalStateBytes state
  refuse (state.sessionId ≠ raw.sessionId ∨ state.lastAppliedRawSeq ≠ raw.ingestSeq)
    (.reducerValidation "trace_state_binding_invalid")
  -- a source that the state does not have counts as the epoch before the first
  refuse (∀ epoch, Dict.get (Dict.ofEntries state.sourceEpochs) raw.sourceKey = some epoch →
      epoch < raw.connectionEpoch)
    (.reducerValidation "trace_state_epoch_invalid")
  let outputs ← outputDigests raw [] derived
  let record ← recordDigest raw
  let content ← canonicalStateBytes state
  let entry ← writeCanonical (traceEntry record outputs (Sha256.digest content))
  let bytes ← stepBytes prior entry
  pure (Sha256.digest bytes)

end Inci.Journal
