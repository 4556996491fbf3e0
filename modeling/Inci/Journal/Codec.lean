/-
# Journal.Codec -- canonical metadata and durable payload encoding

An event is written as its canonical metadata, a JSON object of every field but
the payload, and its payload.  `strictObject` is the strict reading of such an
object: exactly the expected keys, and the canonical text byte for byte.

Both callers of the codec answer every failure of it alike, so a failure is
`none` here and carries no reason.
-/
import Inci.Journal.Events
import Inci.Theory.JsonOrder
import Inci.Theory.Layout
import Inci.Theory.Utf8

namespace Inci.Journal

open Inci.Theory
open Inci.Theory.Json (Text text Value lookup)

set_option autoImplicit false

abbrev Members := List (Text × Value)

/-- `canonical_json_bytes`; an integer past the conversion limit is refused. -/
def canonicalJsonBytes (v : Value) : Option Bytes := (Json.encode v).map Utf8.ascii

/-! ## Reading strictly -/

/-- The two texts name the same set of keys. -/
def SameKeys (expected : List Text) (members : Members) : Prop :=
  (∀ k ∈ members.map Prod.fst, k ∈ expected) ∧ ∀ k ∈ expected, k ∈ members.map Prod.fst

instance (expected : List Text) (members : Members) : Decidable (SameKeys expected members) :=
  inferInstanceAs (Decidable (_ ∧ _))

def byteOrderMark : Bytes := [0xEF, 0xBB, 0xBF]

/-- `json.loads` of the decoded bytes, when they hold an object. -/
def loadObject (content : Bytes) : Option Members := do
  let decoded ← Utf8.decode content
  match ← Json.loads decoded with
  | .obj members => some members
  | _ => none

/-- `_strict_object` -/
def strictObject (content : Bytes) (expected : List Text) : Option Members :=
  if byteOrderMark <+: content then none
  else (loadObject content).bind fun members =>
    if SameKeys expected members ∧ canonicalJsonBytes (.obj members) = some content then
      some members
    else none

/-! ## Field values -/

def natural : Value → Option Nat
  | .int (.ofNat n) => some n
  | _ => none

def string : Value → Option Text
  | .str s => some s
  | _ => none

def boolean : Value → Option Bool
  | .bool b => some b
  | _ => none

/-- `None`, or a value of the kind. -/
def optional {α : Type} (read : Value → Option α) : Value → Option (Option α)
  | .null => some none
  | v => (read v).map some

/-- `_decode_enum`: the member of an enumeration with a value. -/
def decodeEnum {α : Type} (all : List α) (value : α → Text) (v : Value) : Option α :=
  (string v).bind fun s => all.find? fun a => value a = s

def member {α : Type} (raw : Members) (name : String) (read : Value → Option α) : Option α :=
  (lookup (text name) raw).bind read

def optionalNumber : Option Nat → Value
  | none => .null
  | some n => .int n

def optionalString : Option Text → Value
  | none => .null
  | some s => .str s

/-! ## Session manifests -/

/-- `_projection` -/
def SessionManifest.projection (m : SessionManifest) : Members :=
  [(text "schema_version", .int m.schemaVersion),
   (text "session_id", .str m.sessionId),
   (text "created_wall_ns", .int m.createdWallNs),
   (text "config_file_sha256", .str m.configFileSha256),
   (text "config_canonical_sha256", .str m.configCanonicalSha256),
   (text "code_sha256", .str m.codeSha256),
   (text "research_request_sha256", .str m.researchRequestSha256),
   (text "provider_id", .str m.providerId),
   (text "product_tier", .str m.productTier),
   (text "source_lineage_id", .str m.sourceLineageId),
   (text "provider_manifest_file_sha256", .str m.providerManifestFileSha256),
   (text "provider_manifest_canonical_sha256", .str m.providerManifestCanonicalSha256),
   (text "entitlement_id_sha256", .str m.entitlementIdSha256),
   (text "terms_version", .str m.termsVersion),
   (text "permission_artifact_sha256", .str m.permissionArtifactSha256),
   (text "qualification_artifact_sha256", .str m.qualificationArtifactSha256),
   (text "qualification_trace_sha256", .str m.qualificationTraceSha256),
   (text "adapter_code_sha256", .str m.adapterCodeSha256),
   (text "auth_contract_sha256", .str m.authContractSha256),
   (text "quota_contract_sha256", .str m.quotaContractSha256),
   (text "session_end_ns", .int m.sessionEndNs),
   (text "required_retention_until_ns", .int m.requiredRetentionUntilNs),
   (text "access_expires_at_ns", .int m.accessExpiresAtNs),
   (text "analysis_expires_at_ns", .int m.analysisExpiresAtNs),
   (text "research_evaluable", .bool m.researchEvaluable)]

/-- `SESSION_MANIFEST_KEYS` -/
def sessionManifestKeys : List Text :=
  ["schema_version", "session_id", "created_wall_ns", "config_file_sha256",
    "config_canonical_sha256", "code_sha256", "research_request_sha256", "provider_id",
    "product_tier", "source_lineage_id", "provider_manifest_file_sha256",
    "provider_manifest_canonical_sha256", "entitlement_id_sha256", "terms_version",
    "permission_artifact_sha256", "qualification_artifact_sha256", "qualification_trace_sha256",
    "adapter_code_sha256", "auth_contract_sha256", "quota_contract_sha256", "session_end_ns",
    "required_retention_until_ns", "access_expires_at_ns", "analysis_expires_at_ns",
    "research_evaluable"].map text

/-- The fields of `SessionManifest(**raw)`, each of its type. -/
def manifestFields (raw : Members) : Option SessionManifest := do
  let schemaVersion ← member raw "schema_version" natural
  let sessionId ← member raw "session_id" string
  let createdWallNs ← member raw "created_wall_ns" natural
  let configFileSha256 ← member raw "config_file_sha256" string
  let configCanonicalSha256 ← member raw "config_canonical_sha256" string
  let codeSha256 ← member raw "code_sha256" string
  let researchRequestSha256 ← member raw "research_request_sha256" string
  let providerId ← member raw "provider_id" string
  let productTier ← member raw "product_tier" string
  let sourceLineageId ← member raw "source_lineage_id" string
  let providerManifestFileSha256 ← member raw "provider_manifest_file_sha256" string
  let providerManifestCanonicalSha256 ← member raw "provider_manifest_canonical_sha256" string
  let entitlementIdSha256 ← member raw "entitlement_id_sha256" string
  let termsVersion ← member raw "terms_version" string
  let permissionArtifactSha256 ← member raw "permission_artifact_sha256" string
  let qualificationArtifactSha256 ← member raw "qualification_artifact_sha256" string
  let qualificationTraceSha256 ← member raw "qualification_trace_sha256" string
  let adapterCodeSha256 ← member raw "adapter_code_sha256" string
  let authContractSha256 ← member raw "auth_contract_sha256" string
  let quotaContractSha256 ← member raw "quota_contract_sha256" string
  let sessionEndNs ← member raw "session_end_ns" natural
  let requiredRetentionUntilNs ← member raw "required_retention_until_ns" natural
  let accessExpiresAtNs ← member raw "access_expires_at_ns" natural
  let analysisExpiresAtNs ← member raw "analysis_expires_at_ns" natural
  let researchEvaluable ← member raw "research_evaluable" boolean
  some ⟨schemaVersion, sessionId, createdWallNs, configFileSha256, configCanonicalSha256,
    codeSha256, researchRequestSha256, providerId, productTier, sourceLineageId,
    providerManifestFileSha256, providerManifestCanonicalSha256, entitlementIdSha256, termsVersion,
    permissionArtifactSha256, qualificationArtifactSha256, qualificationTraceSha256,
    adapterCodeSha256, authContractSha256, quotaContractSha256, sessionEndNs,
    requiredRetentionUntilNs, accessExpiresAtNs, analysisExpiresAtNs, researchEvaluable⟩

/-- `SessionManifest(**raw)` -/
def manifestOf (raw : Members) : Option SessionManifest :=
  (manifestFields raw).bind fun m => if m.validate = .ok () then some m else none

def canonicalSessionManifestBytes (m : SessionManifest) : Option Bytes :=
  canonicalJsonBytes (.obj m.projection)

def sessionManifestSha256 (m : SessionManifest) : Option Text :=
  (canonicalSessionManifestBytes m).map hexdigest

/-! ## Records -/

/-- `_metadata_projection` -/
def PersistedEvent.metadataProjection (e : PersistedEvent) : Members :=
  [(text "journal_version", .int e.journalVersion),
   (text "record_kind", .str e.recordKind.value),
   (text "ingest_seq", .int e.ingestSeq),
   (text "session_id", .str e.sessionId),
   (text "event_type", .str e.eventType),
   (text "event_version", .int e.eventVersion),
   (text "source_kind", .str e.sourceKind.value),
   (text "source_id", .str e.sourceId),
   (text "source_entity_id", .str e.sourceEntityId),
   (text "endpoint_id", optionalString e.endpointId),
   (text "endpoint_state", .str e.endpointState.value),
   (text "channel_id", optionalString e.channelId),
   (text "channel_state", .str e.channelState.value),
   (text "request_id", optionalString e.requestId),
   (text "request_id_state", .str e.requestIdState.value),
   (text "source_wall_ns", optionalNumber e.sourceWallNs),
   (text "source_generated_ns", optionalNumber e.sourceGeneratedNs),
   (text "local_wall_ns", .int e.localWallNs),
   (text "local_monotonic_ns", .int e.localMonotonicNs),
   (text "clock_uncertainty_ns", .int e.clockUncertaintyNs),
   (text "connection_epoch", .int e.connectionEpoch),
   (text "provider_sequence", optionalString e.providerSequence),
   (text "parent_ingest_seq", optionalNumber e.parentIngestSeq),
   (text "content_type", .str e.contentType),
   (text "payload_encoding", .str e.payloadEncoding),
   (text "payload_transform", .str e.payloadTransform),
   (text "retention_delete_by_ns", optionalNumber e.retentionDeleteByNs),
   (text "payload_sha256", .str (hexdigest e.payload))]

/-- `METADATA_KEYS` -/
def metadataKeys : List Text :=
  ["journal_version", "record_kind", "ingest_seq", "session_id", "event_type", "event_version",
    "source_kind", "source_id", "source_entity_id", "endpoint_id", "endpoint_state", "channel_id",
    "channel_state", "request_id", "request_id_state", "source_wall_ns", "source_generated_ns",
    "local_wall_ns", "local_monotonic_ns", "clock_uncertainty_ns", "connection_epoch",
    "provider_sequence", "parent_ingest_seq", "content_type", "payload_encoding",
    "payload_transform", "retention_delete_by_ns", "payload_sha256"].map text

def canonicalMetadata (e : PersistedEvent) : Option Bytes :=
  canonicalJsonBytes (.obj e.metadataProjection)

def encodeRecord (e : PersistedEvent) : Option (Bytes × Bytes) :=
  if e.payloadSha256 ≠ hexdigest e.payload then none
  else (canonicalMetadata e).map fun metadata => (metadata, e.payload)

/-- The fields of `PersistedEvent(**raw)`, each of its type. -/
def eventFields (raw : Members) (payload : Bytes) : Option PersistedEvent := do
  let journalVersion ← member raw "journal_version" natural
  let recordKind ← member raw "record_kind" (decodeEnum RecordKind.all RecordKind.value)
  let ingestSeq ← member raw "ingest_seq" natural
  let sessionId ← member raw "session_id" string
  let eventType ← member raw "event_type" string
  let eventVersion ← member raw "event_version" natural
  let sourceKind ← member raw "source_kind" (decodeEnum SourceKind.all SourceKind.value)
  let sourceId ← member raw "source_id" string
  let sourceEntityId ← member raw "source_entity_id" string
  let endpointId ← member raw "endpoint_id" (optional string)
  let endpointState ← member raw "endpoint_state"
    (decodeEnum ProvenanceState.all ProvenanceState.value)
  let channelId ← member raw "channel_id" (optional string)
  let channelState ← member raw "channel_state"
    (decodeEnum ProvenanceState.all ProvenanceState.value)
  let requestId ← member raw "request_id" (optional string)
  let requestIdState ← member raw "request_id_state"
    (decodeEnum ProvenanceState.all ProvenanceState.value)
  let sourceWallNs ← member raw "source_wall_ns" (optional natural)
  let sourceGeneratedNs ← member raw "source_generated_ns" (optional natural)
  let localWallNs ← member raw "local_wall_ns" natural
  let localMonotonicNs ← member raw "local_monotonic_ns" natural
  let clockUncertaintyNs ← member raw "clock_uncertainty_ns" natural
  let connectionEpoch ← member raw "connection_epoch" natural
  let providerSequence ← member raw "provider_sequence" (optional string)
  let parentIngestSeq ← member raw "parent_ingest_seq" (optional natural)
  let contentType ← member raw "content_type" string
  let payloadEncoding ← member raw "payload_encoding" string
  let payloadTransform ← member raw "payload_transform" string
  let retentionDeleteByNs ← member raw "retention_delete_by_ns" (optional natural)
  let payloadSha256 ← member raw "payload_sha256" string
  some ⟨journalVersion, recordKind, ingestSeq, sessionId, eventType, eventVersion, sourceKind,
    sourceId, sourceEntityId, endpointId, endpointState, channelId, channelState, requestId,
    requestIdState, sourceWallNs, sourceGeneratedNs, localWallNs, localMonotonicNs,
    clockUncertaintyNs, connectionEpoch, providerSequence, parentIngestSeq, contentType,
    payloadEncoding, payloadTransform, retentionDeleteByNs, payloadSha256, payload⟩

/-- `_require_session_start_payload`: the payload of a session start is a manifest. -/
def SessionStartPayload (e : PersistedEvent) : Prop :=
  e.recordKind = .control → e.eventType = sessionStartType →
    ((strictObject e.payload sessionManifestKeys).bind manifestOf).isSome = true

instance (e : PersistedEvent) : Decidable (SessionStartPayload e) :=
  inferInstanceAs (Decidable (_ → _ → _))

def decodeRecord (metadata payload : Bytes) : Option PersistedEvent := do
  let raw ← strictObject metadata metadataKeys
  if member raw "payload_sha256" string ≠ some (hexdigest payload) then none
  else
    let event ← eventFields raw payload
    if event.validate = .ok () ∧ SessionStartPayload event then some event else none

def canonicalRecordDomain : Bytes := Utf8.ascii (text "INCI-CANONICAL-RECORD-V1") ++ [0]

/-- `n.to_bytes(8, "big")` -/
def lengthBytes (n : Nat) : Option Bytes := Layout.pack [.unsigned 8] (n, ())

/-- The bytes of a record whose digest identifies it. -/
def canonicalRecordBytes (e : PersistedEvent) : Option Bytes := do
  let (metadata, payload) ← encodeRecord e
  let metadataLength ← lengthBytes metadata.length
  let payloadLength ← lengthBytes payload.length
  some (canonicalRecordDomain ++ metadataLength ++ metadata ++ payloadLength ++ payload)

def canonicalRecordSha256 (e : PersistedEvent) : Option Text :=
  (canonicalRecordBytes e).map hexdigest

end Inci.Journal
