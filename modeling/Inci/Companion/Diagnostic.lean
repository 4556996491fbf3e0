/-
# Companion.Diagnostic -- the validator of a group's metadata

`validateExpertGroupMetadataDiagnostic` checks the metadata of a group on the loaded
document, without building any object: the form of the projection, then the type
and grammar of every field, the digest of every record, trace step and group over
the raw values of its other fields, the chain from record to record, and at last
that the document is written as the metadata.
-/
import Inci.Companion.Group

namespace Inci.Companion

open Inci.Theory
open Inci.Theory.Json (Text text Value lookup)
open Inci.Expert (integerBound)
open Inci.Journal (Bytes Members SameKeys byteOrderMark canonicalJsonBytes member string
  isAlphanumeric isCanonicalUuid)

set_option autoImplicit false

/-! ## Field requirements -/

/-- `require_integer`, from the least value it allows. -/
def requireInteger (least : Int) (v : Value) : Option Int := do
  let candidate ← integer v
  if candidate < least ∨ integerBound ≤ candidate.natAbs then none else some candidate

def requireString (v : Value) : Option Text := do
  let candidate ← string v
  if candidate = [] then none else some candidate

def requireDigest (v : Value) : Option Text := do
  let candidate ← string v
  if isDigest candidate then some candidate else none

def requireSafeId (v : Value) : Option Text := do
  let candidate ← requireString v
  if 1 ≤ candidate.length ∧ candidate.length ≤ 128 ∧ candidate.head?.any isAlphanumeric ∧
      candidate.all (fun c => isAlphanumeric c || (text "._:-").contains c) ∧
      looksLikeLink candidate = false then
    some candidate
  else none

def requireSessionId (v : Value) : Option Text := do
  let candidate ← requireSafeId v
  if isCanonicalUuid candidate then some candidate else none

/-! ## Contracts -/

/-- The inner `contract_fields`: the raw fields of a contract of a class. -/
def contractFields (projection : Value) (contractName : Text) : Option Members := do
  let raw ← object projection
  let fieldValues ← member raw "fields" object
  if member raw "$contract" string = some contractName ∧
      (lookup (text "$version") raw).any equalsOne then some fieldValues
  else none

/-- The items of a raw tuple. -/
def tupleItems (v : Value) : Option (List Value) := do
  let raw ← object v
  if SameKeys [text "$tuple"] raw then member raw "$tuple" array else none

/-- `raw_self_digest`, over the raw values of the fields of some names. -/
def rawSelfDigest (fieldValues : Members) (names : List Text) (label : String) : Option Text := do
  let ordered ← names.mapM fun name => lookup name fieldValues
  let canonical ← canonicalJsonBytes (document (.int 1) (.obj [(text "$tuple", .arr ordered)]))
  some (Journal.hexdigest (Expert.domain label ++ canonical))

def validateParent (projection : Value) : Option Members := do
  let parentFields ← contractFields projection parentName
  let _ ← member parentFields "session_id" requireSessionId
  let _ ← member parentFields "ingest_seq" (requireInteger 1)
  let _ ← member parentFields "record_sha256" requireDigest
  let _ ← member parentFields "event_type" requireSafeId
  let _ ← member parentFields "event_version" (requireInteger 1)
  let _ ← member parentFields "local_wall_ns" (requireInteger 0)
  let _ ← member parentFields "local_monotonic_ns" (requireInteger 0)
  let _ ← member parentFields "clock_uncertainty_ns" (requireInteger 0)
  some parentFields

/-- The payload contract the validator expects of a kind. -/
def expectedPayloadContract : ExpertEventKind → String
  | .synchronizationApplied => "ExpertSynchronizationAppliedPayloadV1"
  | .observationIgnored => "ExpertObservationIgnoredPayloadV1"
  | .observationRejected => "ExpertObservationRejectedPayloadV1"

/-- The kind of an event, read from the object of an enumeration member. -/
def eventKindOf (v : Value) : Option ExpertEventKind := do
  let raw ← object v
  if member raw "$enum" string = some eventKindName then
    (member raw "value" string).bind eventKind
  else none

/-- Of a record's fields, those that the chain and the answer need. -/
structure RecordFields where
  sessionId : Text
  expertManifestSha256 : Text
  expertSeq : Int
  parent : Value
  parentOutputIndex : Int
  parentOutputCount : Int
  priorExpertRecordSha256 : Text
  priorExpertStateSha256 : Text
  payloadLength : Int
  payloadSha256 : Text
  postExpertStateSha256 : Text
  recordSha256 : Text

/-- The payload descriptor of a record of some kind: its length and digest. -/
def validatePayload (projection : Value) (kind : ExpertEventKind) : Option (Int × Text) := do
  let payloadFields ← contractFields projection payloadName
  let schemaVersion ← member payloadFields "schema_version" (requireInteger 1)
  let contentType ← member payloadFields "content_type" requireString
  let payloadEncoding ← member payloadFields "payload_encoding" requireString
  let contractName ← member payloadFields "payload_contract_name" requireString
  let payloadLength ← member payloadFields "payload_length" (requireInteger 0)
  let payloadSha256 ← member payloadFields "payload_sha256" requireDigest
  if schemaVersion = 1 ∧ contentType = Companion.contentType ∧
      payloadEncoding = Companion.payloadEncoding ∧
      contractName = text (expectedPayloadContract kind) ∧ payloadLength ≤ 131064 then
    some (payloadLength, payloadSha256)
  else none

/-- The pass over one record. -/
def validateRecord (projection : Value) : Option RecordFields := do
  let recordFields ← contractFields projection recordName
  let schemaVersion ← member recordFields "schema_version" (requireInteger 1)
  let sessionId ← member recordFields "session_id" requireSessionId
  let expertManifestSha256 ← member recordFields "expert_manifest_sha256" requireDigest
  let _ ← member recordFields "provider_request_binding_sha256" requireDigest
  let _ ← member recordFields "match_binding_universe_sha256" requireDigest
  let _ ← member recordFields "retention_binding_sha256" requireDigest
  let eventSchemaSha256 ← member recordFields "event_schema_sha256" requireDigest
  let priorExpertRecordSha256 ← member recordFields "prior_expert_record_sha256" requireDigest
  let priorExpertStateSha256 ← member recordFields "prior_expert_state_sha256" requireDigest
  let postExpertStateSha256 ← member recordFields "post_expert_state_sha256" requireDigest
  let recordSha256 ← member recordFields "record_sha256" requireDigest
  let expertSeq ← member recordFields "expert_seq" (requireInteger 1)
  let parent ← lookup (text "parent") recordFields
  let _ ← validateParent parent
  let parentOutputIndex ← member recordFields "parent_output_index" (requireInteger 0)
  let parentOutputCount ← member recordFields "parent_output_count" (requireInteger 1)
  let kind ← member recordFields "event_kind" eventKindOf
  let eventVersion ← member recordFields "event_version" (requireInteger 1)
  let payload ← lookup (text "payload") recordFields
  let (payloadLength, payloadSha256) ← validatePayload payload kind
  if schemaVersion = 1 ∧ eventVersion = 1 ∧ eventSchemaSha256 = text kind.schemaResourceSha256 ∧
      rawSelfDigest recordFields JournalRecord.fieldNames.dropLast
        "INCI-EXPERT-JOURNAL-RECORD-V1" = some recordSha256 then
    some ⟨sessionId, expertManifestSha256, expertSeq, parent, parentOutputIndex,
      parentOutputCount, priorExpertRecordSha256, priorExpertStateSha256, payloadLength,
      payloadSha256, postExpertStateSha256, recordSha256⟩
  else none

/-- The pass over one trace step. -/
def validateTrace (projection : Value) : Option TraceStep := do
  let traceFields ← contractFields projection traceName
  let schemaVersion ← member traceFields "schema_version" (requireInteger 1)
  let expertSeq ← member traceFields "expert_seq" (requireInteger 1)
  let priorTraceSha256 ← member traceFields "prior_trace_sha256" requireDigest
  let expertRecordSha256 ← member traceFields "expert_record_sha256" requireDigest
  let postExpertStateSha256 ← member traceFields "post_expert_state_sha256" requireDigest
  let postTraceSha256 ← member traceFields "post_trace_sha256" requireDigest
  if schemaVersion = 1 ∧ rawSelfDigest traceFields TraceStep.fieldNames.dropLast
      "INCI-EXPERT-TRACE-STEP-V1" = some postTraceSha256 then
    some ⟨schemaVersion, expertSeq, priorTraceSha256, expertRecordSha256, postExpertStateSha256,
      postTraceSha256⟩
  else none

/-! ## The chain -/

mutual
/-- `==` of loaded values: a flag equals its number, and the order of keys does not count. -/
def equal : Value → Value → Bool
  | .null, .null => true
  | .bool b, .bool c => b == c
  | .bool b, .int n => (if b then 1 else 0) == n
  | .int m, .bool c => m == (if c then 1 else 0)
  | .int m, .int n => m == n
  | .str s, .str t => s == t
  | .arr items, .arr others => equalItems items others
  | .obj members, .obj others =>
      members.length == others.length && equalMembers members others
  | _, _ => false
def equalItems : List Value → List Value → Bool
  | [], [] => true
  | v :: rest, w :: others => equal v w && equalItems rest others
  | _, _ => false
/-- Every member is among the others with an equal value. -/
def equalMembers : List (Text × Value) → List (Text × Value) → Bool
  | [], _ => true
  | (k, v) :: rest, others =>
      (match lookup k others with
      | some w => equal v w
      | none => false) && equalMembers rest others
end

/-- Of a group's fields, those that the chain is compared with. -/
structure GroupFields where
  sessionId : Text
  expertManifestSha256 : Text
  parent : Value
  parentOutputCount : Int
  firstExpertSeq : Int

/-- The records and the trace steps carry the chain on from its heads. -/
def diagnosticChain (g : GroupFields) : Int → ChainHeads → List (RecordFields × TraceStep) →
    Option ChainHeads
  | _, heads, [] => some heads
  | offset, heads, (record, trace) :: rest =>
      if record.sessionId = g.sessionId ∧ record.expertManifestSha256 = g.expertManifestSha256 ∧
          equal record.parent g.parent ∧ record.parentOutputCount = g.parentOutputCount ∧
          record.parentOutputIndex = offset ∧
          record.parentOutputIndex < record.parentOutputCount ∧
          record.parentOutputCount ≤ 64 ∧ record.expertSeq = g.firstExpertSeq + offset ∧
          record.priorExpertRecordSha256 = heads.expectedRecord ∧
          record.priorExpertStateSha256 = heads.expectedState ∧
          trace.expertSeq = record.expertSeq ∧ trace.priorTraceSha256 = heads.expectedTrace ∧
          trace.expertRecordSha256 = record.recordSha256 ∧
          trace.postExpertStateSha256 = record.postExpertStateSha256 then
        diagnosticChain g (offset + 1)
          ⟨record.recordSha256, record.postExpertStateSha256, trace.postTraceSha256⟩ rest
      else none

/-! ## The validator -/

/-- What the validator answers: the sequence of the group, the number of its records and the
length and digest of each payload. -/
structure GroupSummary where
  groupSequence : Int
  recordCount : Nat
  payloads : List (Int × Text)
  deriving DecidableEq

/-- The checks of the fields of a group whose form was checked. -/
def validateGroupFields (groupFields : Members) : Option GroupSummary := do
  let records ← member groupFields "records" tupleItems
  let traceSteps ← member groupFields "trace_steps" tupleItems
  let parentOutputCount ← member groupFields "parent_output_count" integer
  let groupSequence ← member groupFields "group_sequence" integer
  if ¬(1 ≤ records.length ∧ records.length ≤ 64) ∨ traceSteps.length ≠ records.length ∨
      parentOutputCount ≠ records.length ∨ groupSequence < 1 then none
  else do
    let schemaVersion ← member groupFields "schema_version" (requireInteger 1)
    let sessionId ← member groupFields "session_id" requireSessionId
    let expertManifestSha256 ← member groupFields "expert_manifest_sha256" requireDigest
    let _ ← member groupFields "group_sequence" (requireInteger 1)
    let parent ← lookup (text "parent") groupFields
    let _ ← validateParent parent
    let _ ← member groupFields "parent_output_count" (requireInteger 1)
    let firstExpertSeq ← member groupFields "first_expert_seq" (requireInteger 1)
    let priorExpertRecordSha256 ← member groupFields "prior_expert_record_sha256" requireDigest
    let priorExpertStateSha256 ← member groupFields "prior_expert_state_sha256" requireDigest
    let finalExpertRecordSha256 ← member groupFields "final_expert_record_sha256" requireDigest
    let postExpertStateSha256 ← member groupFields "post_expert_state_sha256" requireDigest
    let postTraceSha256 ← member groupFields "post_trace_sha256" requireDigest
    let groupSha256 ← member groupFields "group_sha256" requireDigest
    let recordFieldValues ← records.mapM validateRecord
    let traceFieldValues ← traceSteps.mapM validateTrace
    let first ← traceFieldValues.head?
    let heads ← diagnosticChain
      ⟨sessionId, expertManifestSha256, parent, parentOutputCount, firstExpertSeq⟩ 0
      ⟨priorExpertRecordSha256, priorExpertStateSha256, first.priorTraceSha256⟩
      (recordFieldValues.zip traceFieldValues)
    if schemaVersion = 1 ∧ parentOutputCount = recordFieldValues.length ∧ parentOutputCount ≤ 64 ∧
        heads = ⟨finalExpertRecordSha256, postExpertStateSha256, postTraceSha256⟩ ∧
        rawSelfDigest groupFields JournalGroup.fieldNames.dropLast
          "INCI-EXPERT-JOURNAL-GROUP-V1" = some groupSha256 then
      some ⟨groupSequence, records.length,
        recordFieldValues.map fun record => (record.payloadLength, record.payloadSha256)⟩
    else none

/-- `validate_expert_group_metadata_diagnostic` -/
def validateExpertGroupMetadataDiagnostic (others : Registry) (metadata : Bytes) :
    Option GroupSummary :=
  if byteOrderMark <+: metadata then none
  else do
    let raw ← loadDocument metadata
    if SameKeys documentKeys raw ∧ member raw "canonical_version" integer = some 1 ∧
        member raw "domain" string = some documentDomain then do
      let value ← lookup (text "value") raw
      if diagnosticShape (withGroup others) projectionLevels value then do
        let group ← object value
        let groupFields ← member group "fields" object
        if member group "$contract" string = some groupName then do
          let summary ← validateGroupFields groupFields
          if canonicalJsonBytes (.obj raw) = some metadata then some summary else none
        else none
      else none
    else none

end Inci.Companion
