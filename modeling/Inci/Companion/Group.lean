/-
# Companion.Group -- the groups of a companion journal and their strict reading

`JournalGroup.postInit` is the constructor of a group, with those of its parent,
its records, their payload descriptors and its trace steps; each of the records,
the steps and the group carries the digest of its other fields.
`decodeGroup` is `_decode_contract_metadata` asked for a group: it builds every
object on the way and runs every constructor.
-/
import Inci.Companion.Terminals

namespace Inci.Companion

open Inci.Theory
open Inci.Theory.Json (Text text)
open Inci.Expert (integerBound)
open Inci.Journal (Bytes)
open Inci.Replay (Check schemaVersion)

set_option autoImplicit false

/-- `_integer(value, name, positive=True)` of any integer. -/
def positive (value : Int) (name : String) : Check := do
  refuse (integerBound ≤ value.natAbs) (.contract name)
  refuse (value ≤ 0) (.contract name)

/-- `_self_digest`: the digest is the last field of each contract that has one. -/
def selfDigest (fields : List (Text × Decoded)) (digest : Text) (label name : String) : Check :=
  refuse (domainSha256 label (.tuple (fields.dropLast.map Prod.snd)) ≠ some digest)
    (.contract name)

/-! ## Parents -/

/-- `ExpertParentEvidenceV1` -/
@[ext]
structure ParentEvidence where
  sessionId : Text
  ingestSeq : Int
  recordSha256 : Text
  eventType : Text
  eventVersion : Int
  localWallNs : Int
  localMonotonicNs : Int
  clockUncertaintyNs : Int
  deriving DecidableEq

def parentName : Text := text "ExpertParentEvidenceV1"

namespace ParentEvidence

def fields (p : ParentEvidence) : List (Text × Decoded) :=
  [(text "session_id", .str p.sessionId),
   (text "ingest_seq", .int p.ingestSeq),
   (text "record_sha256", .str p.recordSha256),
   (text "event_type", .str p.eventType),
   (text "event_version", .int p.eventVersion),
   (text "local_wall_ns", .int p.localWallNs),
   (text "local_monotonic_ns", .int p.localMonotonicNs),
   (text "clock_uncertainty_ns", .int p.clockUncertaintyNs)]

def fieldNames : List Text :=
  ["session_id", "ingest_seq", "record_sha256", "event_type", "event_version", "local_wall_ns",
    "local_monotonic_ns", "clock_uncertainty_ns"].map text

def contract (p : ParentEvidence) : Decoded := .contract parentName p.fields

/-- The values of the fields, when each has the type its check asks for. -/
def ofValues : List Decoded → Option ParentEvidence
  | [.str sessionId, .int ingestSeq, .str recordSha256, .str eventType, .int eventVersion,
      .int localWallNs, .int localMonotonicNs, .int clockUncertaintyNs] =>
      some ⟨sessionId, ingestSeq, recordSha256, eventType, eventVersion, localWallNs,
        localMonotonicNs, clockUncertaintyNs⟩
  | _ => none

/-- `_exact(value, ExpertParentEvidenceV1, name)` -/
def ofDecoded : Decoded → Option ParentEvidence
  | .contract className fields =>
      if className = parentName ∧ fields.map Prod.fst = fieldNames then
        ofValues (fields.map Prod.snd)
      else none
  | _ => none

/-- `__post_init__` of a parent whose fields have their types. -/
def postInit (p : ParentEvidence) : Check := do
  Companion.sessionId p.sessionId "session_id"
  positive p.ingestSeq "ingest_seq"
  sha256 p.recordSha256 "record_sha256"
  safeId p.eventType "event_type"
  positive p.eventVersion "event_version"
  Replay.integer p.localWallNs "local_wall_ns"
  Replay.integer p.localMonotonicNs "local_monotonic_ns"
  Replay.integer p.clockUncertaintyNs "clock_uncertainty_ns"

end ParentEvidence

/-! ## Event kinds -/

inductive ExpertEventKind where
  | synchronizationApplied
  | observationIgnored
  | observationRejected
  deriving DecidableEq

def eventKindName : Text := text "ExpertEventKindV1"

namespace ExpertEventKind

def value : ExpertEventKind → String
  | .synchronizationApplied => "synchronization_applied"
  | .observationIgnored => "observation_ignored"
  | .observationRejected => "observation_rejected"

/-- The payload contract of a kind in `_EVENT_SCHEMA_SPEC`. -/
def payloadContract : ExpertEventKind → String
  | .synchronizationApplied => "ExpertSynchronizationAppliedPayloadV1"
  | .observationIgnored => "ExpertObservationIgnoredPayloadV1"
  | .observationRejected => "ExpertObservationRejectedPayloadV1"

/-- `expert_event_schema_resource_sha256` -/
def schemaResourceSha256 : ExpertEventKind → String
  | .synchronizationApplied => "b8a8cdb82ada61385864b88897c58340062304fb4c47c37d5bc3d5481b17e361"
  | .observationIgnored => "033edd37c85bb05c8defcd5a2af649246572b8fd48682f80207854da7b2f1f8a"
  | .observationRejected => "8343568ac80eb5072404c2eac50bfe15412490a089c116bcc526ad23058a7137"

def all : List ExpertEventKind :=
  [.synchronizationApplied, .observationIgnored, .observationRejected]

end ExpertEventKind

/-- The member of the enumeration with a value. -/
def eventKind (value : Text) : Option ExpertEventKind :=
  ExpertEventKind.all.find? fun kind => text kind.value = value

/-- `_exact(value, ExpertEventKindV1, name)` -/
def eventKindMember (className value : Text) : Option ExpertEventKind :=
  if className = eventKindName then eventKind value else none

/-! ## Payload descriptors -/

def contentType : Text := text "application/vnd.inci.expert+json"

def payloadEncoding : Text := text "canonical-json-v1"

/-- `ExpertPayloadDescriptorV1` -/
structure PayloadDescriptor where
  schemaVersion : Int
  contentType : Text
  payloadEncoding : Text
  payloadContractName : Text
  payloadLength : Int
  payloadSha256 : Text
  deriving DecidableEq

def payloadName : Text := text "ExpertPayloadDescriptorV1"

namespace PayloadDescriptor

def fields (p : PayloadDescriptor) : List (Text × Decoded) :=
  [(text "schema_version", .int p.schemaVersion),
   (text "content_type", .str p.contentType),
   (text "payload_encoding", .str p.payloadEncoding),
   (text "payload_contract_name", .str p.payloadContractName),
   (text "payload_length", .int p.payloadLength),
   (text "payload_sha256", .str p.payloadSha256)]

def fieldNames : List Text :=
  ["schema_version", "content_type", "payload_encoding", "payload_contract_name",
    "payload_length", "payload_sha256"].map text

def contract (p : PayloadDescriptor) : Decoded := .contract payloadName p.fields

/-- The values of the fields, when each has the type its check asks for. -/
def ofValues : List Decoded → Option PayloadDescriptor
  | [.int schemaVersion, .str contentType, .str payloadEncoding, .str payloadContractName,
      .int payloadLength, .str payloadSha256] =>
      some ⟨schemaVersion, contentType, payloadEncoding, payloadContractName, payloadLength,
        payloadSha256⟩
  | _ => none

/-- `_exact(value, ExpertPayloadDescriptorV1, name)` -/
def ofDecoded : Decoded → Option PayloadDescriptor
  | .contract className fields =>
      if className = payloadName ∧ fields.map Prod.fst = fieldNames then
        ofValues (fields.map Prod.snd)
      else none
  | _ => none

/-- `__post_init__` of a descriptor whose fields have their types. -/
def postInit (p : PayloadDescriptor) : Check := do
  Replay.schemaVersion p.schemaVersion
  refuse (p.contentType ≠ Companion.contentType) (.contract "content_type")
  refuse (p.payloadEncoding ≠ Companion.payloadEncoding) (.contract "payload_encoding")
  refuse (p.payloadContractName ∉ ExpertEventKind.all.map fun kind => text kind.payloadContract)
    (.contract "payload_contract_name")
  Replay.integer p.payloadLength "payload_length"
  refuse (131064 < p.payloadLength) (.contract "payload_length")
  sha256 p.payloadSha256 "payload_sha256"

end PayloadDescriptor

/-! ## Records -/

/-- `ExpertJournalRecordV1` -/
structure JournalRecord where
  schemaVersion : Int
  sessionId : Text
  expertManifestSha256 : Text
  providerRequestBindingSha256 : Text
  matchBindingUniverseSha256 : Text
  retentionBindingSha256 : Text
  expertSeq : Int
  parent : ParentEvidence
  parentOutputIndex : Int
  parentOutputCount : Int
  eventKind : ExpertEventKind
  eventVersion : Int
  eventSchemaSha256 : Text
  priorExpertRecordSha256 : Text
  priorExpertStateSha256 : Text
  payload : PayloadDescriptor
  postExpertStateSha256 : Text
  recordSha256 : Text
  deriving DecidableEq

def recordName : Text := text "ExpertJournalRecordV1"

namespace JournalRecord

def fields (r : JournalRecord) : List (Text × Decoded) :=
  [(text "schema_version", .int r.schemaVersion),
   (text "session_id", .str r.sessionId),
   (text "expert_manifest_sha256", .str r.expertManifestSha256),
   (text "provider_request_binding_sha256", .str r.providerRequestBindingSha256),
   (text "match_binding_universe_sha256", .str r.matchBindingUniverseSha256),
   (text "retention_binding_sha256", .str r.retentionBindingSha256),
   (text "expert_seq", .int r.expertSeq),
   (text "parent", r.parent.contract),
   (text "parent_output_index", .int r.parentOutputIndex),
   (text "parent_output_count", .int r.parentOutputCount),
   (text "event_kind", .enum eventKindName (text r.eventKind.value)),
   (text "event_version", .int r.eventVersion),
   (text "event_schema_sha256", .str r.eventSchemaSha256),
   (text "prior_expert_record_sha256", .str r.priorExpertRecordSha256),
   (text "prior_expert_state_sha256", .str r.priorExpertStateSha256),
   (text "payload", r.payload.contract),
   (text "post_expert_state_sha256", .str r.postExpertStateSha256),
   (text "record_sha256", .str r.recordSha256)]

def fieldNames : List Text :=
  ["schema_version", "session_id", "expert_manifest_sha256", "provider_request_binding_sha256",
    "match_binding_universe_sha256", "retention_binding_sha256", "expert_seq", "parent",
    "parent_output_index", "parent_output_count", "event_kind", "event_version",
    "event_schema_sha256", "prior_expert_record_sha256", "prior_expert_state_sha256", "payload",
    "post_expert_state_sha256", "record_sha256"].map text

def contract (r : JournalRecord) : Decoded := .contract recordName r.fields

/-- The values of the fields, when each has the type its check asks for. -/
def ofValues : List Decoded → Option JournalRecord
  | [.int schemaVersion, .str sessionId, .str expertManifestSha256,
      .str providerRequestBindingSha256, .str matchBindingUniverseSha256,
      .str retentionBindingSha256, .int expertSeq, parent, .int parentOutputIndex,
      .int parentOutputCount, .enum className kind, .int eventVersion, .str eventSchemaSha256,
      .str priorExpertRecordSha256, .str priorExpertStateSha256, payload,
      .str postExpertStateSha256, .str recordSha256] => do
      let parent ← ParentEvidence.ofDecoded parent
      let eventKind ← eventKindMember className kind
      let payload ← PayloadDescriptor.ofDecoded payload
      some ⟨schemaVersion, sessionId, expertManifestSha256, providerRequestBindingSha256,
        matchBindingUniverseSha256, retentionBindingSha256, expertSeq, parent, parentOutputIndex,
        parentOutputCount, eventKind, eventVersion, eventSchemaSha256, priorExpertRecordSha256,
        priorExpertStateSha256, payload, postExpertStateSha256, recordSha256⟩
  | _ => none

/-- The type check of an item of `_exact_tuple(value, ExpertJournalRecordV1, name)`. -/
def ofDecoded : Decoded → Option JournalRecord
  | .contract className fields =>
      if className = recordName ∧ fields.map Prod.fst = fieldNames then
        ofValues (fields.map Prod.snd)
      else none
  | _ => none

/-- `_validate_observation_binding`, whose normalizer arguments are fixed here and accepted. -/
def observationBinding (r : JournalRecord) : Check := do
  r.parent.postInit
  Replay.integer r.parentOutputIndex "parent_output_index"
  positive r.parentOutputCount "parent_output_count"
  refuse (64 < r.parentOutputCount ∨ r.parentOutputCount ≤ r.parentOutputIndex)
    (.contract "parent_output")

/-- `__post_init__` of a record whose fields have their types. -/
def postInit (r : JournalRecord) : Check := do
  Replay.schemaVersion r.schemaVersion
  Companion.sessionId r.sessionId "session_id"
  sha256 r.expertManifestSha256 "expert_manifest_sha256"
  sha256 r.providerRequestBindingSha256 "provider_request_binding_sha256"
  sha256 r.matchBindingUniverseSha256 "match_binding_universe_sha256"
  sha256 r.retentionBindingSha256 "retention_binding_sha256"
  sha256 r.eventSchemaSha256 "event_schema_sha256"
  sha256 r.priorExpertRecordSha256 "prior_expert_record_sha256"
  sha256 r.priorExpertStateSha256 "prior_expert_state_sha256"
  sha256 r.postExpertStateSha256 "post_expert_state_sha256"
  positive r.expertSeq "expert_seq"
  r.parent.postInit
  r.observationBinding
  refuse (r.eventVersion ≠ 1) (.contract "event_version")
  refuse (r.eventSchemaSha256 ≠ text r.eventKind.schemaResourceSha256)
    (.contract "event_schema_sha256")
  r.payload.postInit
  refuse (r.payload.payloadContractName ≠ text r.eventKind.payloadContract)
    (.contract "record_payload_contract")
  sha256 r.recordSha256 "record_sha256"
  selfDigest r.fields r.recordSha256 "INCI-EXPERT-JOURNAL-RECORD-V1" "record_sha256"

end JournalRecord

/-! ## Trace steps -/

/-- `ExpertTraceStepV1` -/
structure TraceStep where
  schemaVersion : Int
  expertSeq : Int
  priorTraceSha256 : Text
  expertRecordSha256 : Text
  postExpertStateSha256 : Text
  postTraceSha256 : Text
  deriving DecidableEq

def traceName : Text := text "ExpertTraceStepV1"

namespace TraceStep

def fields (t : TraceStep) : List (Text × Decoded) :=
  [(text "schema_version", .int t.schemaVersion),
   (text "expert_seq", .int t.expertSeq),
   (text "prior_trace_sha256", .str t.priorTraceSha256),
   (text "expert_record_sha256", .str t.expertRecordSha256),
   (text "post_expert_state_sha256", .str t.postExpertStateSha256),
   (text "post_trace_sha256", .str t.postTraceSha256)]

def fieldNames : List Text :=
  ["schema_version", "expert_seq", "prior_trace_sha256", "expert_record_sha256",
    "post_expert_state_sha256", "post_trace_sha256"].map text

def contract (t : TraceStep) : Decoded := .contract traceName t.fields

/-- The values of the fields, when each has the type its check asks for. -/
def ofValues : List Decoded → Option TraceStep
  | [.int schemaVersion, .int expertSeq, .str priorTraceSha256, .str expertRecordSha256,
      .str postExpertStateSha256, .str postTraceSha256] =>
      some ⟨schemaVersion, expertSeq, priorTraceSha256, expertRecordSha256,
        postExpertStateSha256, postTraceSha256⟩
  | _ => none

/-- The type check of an item of `_exact_tuple(value, ExpertTraceStepV1, name)`. -/
def ofDecoded : Decoded → Option TraceStep
  | .contract className fields =>
      if className = traceName ∧ fields.map Prod.fst = fieldNames then
        ofValues (fields.map Prod.snd)
      else none
  | _ => none

/-- `__post_init__` of a trace step whose fields have their types. -/
def postInit (t : TraceStep) : Check := do
  Replay.schemaVersion t.schemaVersion
  positive t.expertSeq "expert_seq"
  sha256 t.priorTraceSha256 "prior_trace_sha256"
  sha256 t.expertRecordSha256 "expert_record_sha256"
  sha256 t.postExpertStateSha256 "post_expert_state_sha256"
  sha256 t.postTraceSha256 "post_trace_sha256"
  selfDigest t.fields t.postTraceSha256 "INCI-EXPERT-TRACE-STEP-V1" "post_trace_sha256"

end TraceStep

/-! ## Groups -/

/-- `ExpertJournalGroupV1` -/
structure JournalGroup where
  schemaVersion : Int
  sessionId : Text
  expertManifestSha256 : Text
  groupSequence : Int
  parent : ParentEvidence
  parentOutputCount : Int
  firstExpertSeq : Int
  priorExpertRecordSha256 : Text
  priorExpertStateSha256 : Text
  records : List JournalRecord
  traceSteps : List TraceStep
  finalExpertRecordSha256 : Text
  postExpertStateSha256 : Text
  postTraceSha256 : Text
  groupSha256 : Text
  deriving DecidableEq

def groupName : Text := text "ExpertJournalGroupV1"

/-- The heads a chain has reached: of the records, of the states and of the trace. -/
structure ChainHeads where
  expectedRecord : Text
  expectedState : Text
  expectedTrace : Text
  deriving DecidableEq

namespace JournalGroup

def fields (g : JournalGroup) : List (Text × Decoded) :=
  [(text "schema_version", .int g.schemaVersion),
   (text "session_id", .str g.sessionId),
   (text "expert_manifest_sha256", .str g.expertManifestSha256),
   (text "group_sequence", .int g.groupSequence),
   (text "parent", g.parent.contract),
   (text "parent_output_count", .int g.parentOutputCount),
   (text "first_expert_seq", .int g.firstExpertSeq),
   (text "prior_expert_record_sha256", .str g.priorExpertRecordSha256),
   (text "prior_expert_state_sha256", .str g.priorExpertStateSha256),
   (text "records", .tuple (g.records.map JournalRecord.contract)),
   (text "trace_steps", .tuple (g.traceSteps.map TraceStep.contract)),
   (text "final_expert_record_sha256", .str g.finalExpertRecordSha256),
   (text "post_expert_state_sha256", .str g.postExpertStateSha256),
   (text "post_trace_sha256", .str g.postTraceSha256),
   (text "group_sha256", .str g.groupSha256)]

def fieldNames : List Text :=
  ["schema_version", "session_id", "expert_manifest_sha256", "group_sequence", "parent",
    "parent_output_count", "first_expert_seq", "prior_expert_record_sha256",
    "prior_expert_state_sha256", "records", "trace_steps", "final_expert_record_sha256",
    "post_expert_state_sha256", "post_trace_sha256", "group_sha256"].map text

def contract (g : JournalGroup) : Decoded := .contract groupName g.fields

/-- The values of the fields, when each has the type its check asks for. -/
def ofValues : List Decoded → Option JournalGroup
  | [.int schemaVersion, .str sessionId, .str expertManifestSha256, .int groupSequence, parent,
      .int parentOutputCount, .int firstExpertSeq, .str priorExpertRecordSha256,
      .str priorExpertStateSha256, .tuple records, .tuple traceSteps,
      .str finalExpertRecordSha256, .str postExpertStateSha256, .str postTraceSha256,
      .str groupSha256] => do
      let parent ← ParentEvidence.ofDecoded parent
      let records ← records.mapM JournalRecord.ofDecoded
      let traceSteps ← traceSteps.mapM TraceStep.ofDecoded
      some ⟨schemaVersion, sessionId, expertManifestSha256, groupSequence, parent,
        parentOutputCount, firstExpertSeq, priorExpertRecordSha256, priorExpertStateSha256,
        records, traceSteps, finalExpertRecordSha256, postExpertStateSha256, postTraceSha256,
        groupSha256⟩
  | _ => none

/-- A record and its trace step extend the chain at an offset. -/
def Extends (g : JournalGroup) (offset : Int) (heads : ChainHeads) (record : JournalRecord)
    (trace : TraceStep) : Prop :=
  record.sessionId = g.sessionId ∧ record.expertManifestSha256 = g.expertManifestSha256 ∧
    record.parent = g.parent ∧ record.parentOutputCount = g.parentOutputCount ∧
    record.parentOutputIndex = offset ∧ record.expertSeq = g.firstExpertSeq + offset ∧
    record.priorExpertRecordSha256 = heads.expectedRecord ∧
    record.priorExpertStateSha256 = heads.expectedState ∧
    trace.expertSeq = record.expertSeq ∧ trace.priorTraceSha256 = heads.expectedTrace ∧
    trace.expertRecordSha256 = record.recordSha256 ∧
    trace.postExpertStateSha256 = record.postExpertStateSha256

instance (g : JournalGroup) (offset : Int) (heads : ChainHeads) (record : JournalRecord)
    (trace : TraceStep) : Decidable (g.Extends offset heads record trace) := by
  unfold Extends
  infer_instance

/-- The heads after the records of a chain. -/
def chain (g : JournalGroup) : Int → ChainHeads → List (JournalRecord × TraceStep) →
    Except Expert.ExpertError ChainHeads
  | _, heads, [] => .ok heads
  | offset, heads, (record, trace) :: rest => do
      record.postInit
      trace.postInit
      refuse (¬g.Extends offset heads record trace) (.contract "group_chain")
      chain g (offset + 1)
        ⟨record.recordSha256, record.postExpertStateSha256, trace.postTraceSha256⟩ rest

/-- `__post_init__` of a group whose fields have their types. -/
def postInit (g : JournalGroup) : Check := do
  Replay.schemaVersion g.schemaVersion
  Companion.sessionId g.sessionId "session_id"
  sha256 g.expertManifestSha256 "expert_manifest_sha256"
  positive g.groupSequence "group_sequence"
  g.parent.postInit
  positive g.parentOutputCount "parent_output_count"
  positive g.firstExpertSeq "first_expert_seq"
  refuse (g.records = [] ∨ 64 < g.records.length ∨
    (g.records.length : Int) ≠ g.parentOutputCount ∨ g.traceSteps.length ≠ g.records.length)
    (.contract "group_shape")
  sha256 g.priorExpertRecordSha256 "prior_expert_record_sha256"
  sha256 g.priorExpertStateSha256 "prior_expert_state_sha256"
  sha256 g.finalExpertRecordSha256 "final_expert_record_sha256"
  sha256 g.postExpertStateSha256 "post_expert_state_sha256"
  sha256 g.postTraceSha256 "post_trace_sha256"
  let first := (g.traceSteps.head?.map TraceStep.priorTraceSha256).getD []
  let heads ← g.chain 0 ⟨g.priorExpertRecordSha256, g.priorExpertStateSha256, first⟩
    (g.records.zip g.traceSteps)
  refuse (heads ≠ ⟨g.finalExpertRecordSha256, g.postExpertStateSha256, g.postTraceSha256⟩)
    (.contract "group_final")
  sha256 g.groupSha256 "group_sha256"
  selfDigest g.fields g.groupSha256 "INCI-EXPERT-JOURNAL-GROUP-V1" "group_sha256"

end JournalGroup

/-- The registry with a group and what it holds, over the other registered types. -/
def withGroup (others : Registry) : Registry where
  decimal := others.decimal
  enumeration className :=
    if className = eventKindName then some (ExpertEventKind.all.map fun kind => text kind.value)
    else others.enumeration className
  contract className :=
    if className = parentName then some ParentEvidence.fieldNames
    else if className = payloadName then some PayloadDescriptor.fieldNames
    else if className = recordName then some JournalRecord.fieldNames
    else if className = traceName then some TraceStep.fieldNames
    else if className = groupName then some JournalGroup.fieldNames
    else others.contract className
  postInit className values :=
    if className = parentName then
      (ParentEvidence.ofValues values).any fun p => decide (p.postInit = .ok ())
    else if className = payloadName then
      (PayloadDescriptor.ofValues values).any fun p => decide (p.postInit = .ok ())
    else if className = recordName then
      (JournalRecord.ofValues values).any fun r => decide (r.postInit = .ok ())
    else if className = traceName then
      (TraceStep.ofValues values).any fun t => decide (t.postInit = .ok ())
    else if className = groupName then
      (JournalGroup.ofValues values).any fun g => decide (g.postInit = .ok ())
    else others.postInit className values

/-- `_decode_contract_metadata(metadata, ExpertJournalGroupV1)` -/
def decodeGroup (others : Registry) (metadata : Bytes) : Option JournalGroup := do
  let fields ← decodeContractMetadata (withGroup others) metadata groupName
  JournalGroup.ofValues (fields.map Prod.snd)

end Inci.Companion
