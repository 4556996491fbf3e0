/-
# Journal.Events -- immutable event, capture and session values

A Python `str` is its code points, as in `Theory.Json`.  An integer field of the
source that may not be negative is a natural number here; what is left of its
check is the bound, where it has one.  `PersistedEvent.validate` and
`SessionManifest.validate` are the constructors' checks in their order, with the
texts they raise.
-/
import Inci.Theory.Checks
import Inci.Theory.Json
import Inci.Theory.Sha256

namespace Inci.Journal

open Inci.Theory
open Inci.Theory.Json (Text text)

set_option autoImplicit false

abbrev Bytes := List UInt8

/-- What a constructor raises, or nothing. -/
abbrev Check := Except String Unit

/-- `hashlib.sha256(content).hexdigest()` -/
def hexdigest (content : Bytes) : Text := text (Sha256.hexdigest content)

/-! ## Enumerations -/

inductive SourceKind where
  | provider
  | kalshi
  | timer
  | system
  deriving DecidableEq

def SourceKind.value : SourceKind → Text
  | .provider => text "provider"
  | .kalshi => text "kalshi"
  | .timer => text "timer"
  | .system => text "system"

inductive RecordKind where
  | raw
  | derived
  | control
  deriving DecidableEq

def RecordKind.value : RecordKind → Text
  | .raw => text "raw"
  | .derived => text "derived"
  | .control => text "control"

inductive ProvenanceState where
  | absent
  | safeOriginal
  | redacted
  deriving DecidableEq

def ProvenanceState.value : ProvenanceState → Text
  | .absent => text "absent"
  | .safeOriginal => text "safe_original"
  | .redacted => text "redacted"

def SourceKind.all : List SourceKind := [.provider, .kalshi, .timer, .system]
def RecordKind.all : List RecordKind := [.raw, .derived, .control]
def ProvenanceState.all : List ProvenanceState := [.absent, .safeOriginal, .redacted]

/-! ## Grammars -/

def isLower (c : Nat) : Bool := decide (97 ≤ c ∧ c ≤ 122)

def isAlphanumeric (c : Nat) : Bool :=
  Json.isDigit c || decide (65 ≤ c ∧ c ≤ 90) || isLower c

/-- A code point of the class and at most `bound` more of the other class. -/
def matchesClass (first rest : Nat → Bool) (bound : Nat) : Text → Bool
  | [] => false
  | c :: cs => first c && decide (cs.length ≤ bound) && cs.all rest

/-- `[A-Za-z0-9][A-Za-z0-9._-]{0,63}` -/
def matchesSafeIdentifier : Text → Bool :=
  matchesClass isAlphanumeric (fun c => isAlphanumeric c || (text "._-").contains c) 63

/-- `[A-Za-z0-9][A-Za-z0-9._+-]{0,63}` -/
def matchesPayloadEncoding : Text → Bool :=
  matchesClass isAlphanumeric (fun c => isAlphanumeric c || (text "._+-").contains c) 63

def isMediaInitial (c : Nat) : Bool := Json.isDigit c || isLower c

def isMediaPoint (c : Nat) : Bool := isMediaInitial c || (text "!#$&^_.+-").contains c

/-- Two names of media points around the first slash, of at most 64 and 128 points. -/
def matchesContentType (value : Text) : Bool :=
  let before := value.takeWhile (· != 47)
  match value.dropWhile (· != 47) with
  | [] => false
  | _ :: after =>
      matchesClass isMediaInitial isMediaPoint 63 before &&
        matchesClass isMediaInitial isMediaPoint 127 after

def isLowerHex (c : Nat) : Bool := Json.isDigit c || decide (97 ≤ c ∧ c ≤ 102)

/-- `[0-9a-f]{64}` -/
def matchesSha256 (value : Text) : Bool := decide (value.length = 64) && value.all isLowerHex

/-- A text that `uuid.UUID` parses and prints back unchanged. -/
def isCanonicalUuid (value : Text) : Bool :=
  decide (value.length = 36) && value.zipIdx.all fun entry =>
    if entry.2 ∈ [8, 13, 18, 23] then entry.1 == 45 else isLowerHex entry.1

def safeIdentifier (value : Text) (fieldName : String) : Check :=
  refuse (matchesSafeIdentifier value = false) (fieldName ++ ": safe_identifier_required")

def sha256 (value : Text) (fieldName : String) : Check :=
  refuse (matchesSha256 value = false) (fieldName ++ ": sha256_required")

def positiveInteger (value : Nat) (fieldName : String) : Check :=
  refuse (value < 1) (fieldName ++ ": positive_integer_required")

def validateSessionId (value : Text) : Check := do
  safeIdentifier value "session_id"
  refuse (isCanonicalUuid value = false) "session_id: canonical_uuid_required"

def validateContentType (value : Text) : Check :=
  refuse (matchesContentType value = false) "content_type: normalized_media_type_required"

def validatePayloadEncoding (value : Text) : Check :=
  refuse (matchesPayloadEncoding value = false) "payload_encoding: safe_identifier_required"

def validateProvenance (value : Option Text) (state : ProvenanceState) (fieldName : String) :
    Check :=
  match state, value with
  | .absent, value => refuse (value ≠ none) (fieldName ++ ": absent_value_mismatch")
  | .redacted, value =>
      refuse (value ≠ some (text "<redacted>")) (fieldName ++ ": redacted_value_mismatch")
  | .safeOriginal, none => .error (fieldName ++ ": safe_identifier_required")
  | .safeOriginal, some value => safeIdentifier value fieldName

/-- `_optional_safe_identifier` -/
def optionalSafeIdentifier (value : Option Text) (fieldName : String) : Check :=
  match value with
  | none => .ok ()
  | some value => safeIdentifier value fieldName

/-! ## Session manifests -/

structure SessionManifest where
  schemaVersion : Nat
  sessionId : Text
  createdWallNs : Nat
  configFileSha256 : Text
  configCanonicalSha256 : Text
  codeSha256 : Text
  researchRequestSha256 : Text
  providerId : Text
  productTier : Text
  sourceLineageId : Text
  providerManifestFileSha256 : Text
  providerManifestCanonicalSha256 : Text
  entitlementIdSha256 : Text
  termsVersion : Text
  permissionArtifactSha256 : Text
  qualificationArtifactSha256 : Text
  qualificationTraceSha256 : Text
  adapterCodeSha256 : Text
  authContractSha256 : Text
  quotaContractSha256 : Text
  sessionEndNs : Nat
  requiredRetentionUntilNs : Nat
  accessExpiresAtNs : Nat
  analysisExpiresAtNs : Nat
  researchEvaluable : Bool
  deriving DecidableEq

def SessionManifest.validate (m : SessionManifest) : Check := do
  refuse (m.schemaVersion ≠ 1) "session_manifest: unsupported_schema_version"
  validateSessionId m.sessionId
  refuse (¬(m.createdWallNs < m.sessionEndNs ∧ m.sessionEndNs ≤ m.accessExpiresAtNs ∧
    m.accessExpiresAtNs ≤ m.analysisExpiresAtNs ∧ m.sessionEndNs < m.requiredRetentionUntilNs ∧
    m.requiredRetentionUntilNs ≤ m.analysisExpiresAtNs)) "session_manifest: invalid_time_window"
  sha256 m.configFileSha256 "config_file_sha256"
  sha256 m.configCanonicalSha256 "config_canonical_sha256"
  sha256 m.codeSha256 "code_sha256"
  sha256 m.researchRequestSha256 "research_request_sha256"
  sha256 m.providerManifestFileSha256 "provider_manifest_file_sha256"
  sha256 m.providerManifestCanonicalSha256 "provider_manifest_canonical_sha256"
  sha256 m.entitlementIdSha256 "entitlement_id_sha256"
  sha256 m.permissionArtifactSha256 "permission_artifact_sha256"
  sha256 m.qualificationArtifactSha256 "qualification_artifact_sha256"
  sha256 m.qualificationTraceSha256 "qualification_trace_sha256"
  sha256 m.adapterCodeSha256 "adapter_code_sha256"
  sha256 m.authContractSha256 "auth_contract_sha256"
  sha256 m.quotaContractSha256 "quota_contract_sha256"
  safeIdentifier m.providerId "provider_id"
  safeIdentifier m.productTier "product_tier"
  safeIdentifier m.sourceLineageId "source_lineage_id"
  safeIdentifier m.termsVersion "terms_version"
  refuse (m.researchEvaluable ≠ false) "session_manifest: research_evaluable_must_be_literal_false"

/-! ## Captured inputs and derived drafts -/

structure CapturedInput where
  sessionId : Text
  eventType : Text
  eventVersion : Nat
  sourceKind : SourceKind
  sourceId : Text
  sourceEntityId : Text
  endpointId : Option Text
  endpointState : ProvenanceState
  channelId : Option Text
  channelState : ProvenanceState
  requestId : Option Text
  requestIdState : ProvenanceState
  sourceWallNs : Option Nat
  sourceGeneratedNs : Option Nat
  localWallNs : Nat
  localMonotonicNs : Nat
  clockUncertaintyNs : Nat
  connectionEpoch : Nat
  providerSequence : Option Text
  contentType : Text
  payloadEncoding : Text
  payloadTransform : Text
  retentionDeleteByNs : Option Nat
  payload : Bytes
  deriving DecidableEq

structure DerivedDraft where
  eventType : Text
  eventVersion : Nat
  payloadEncoding : Text
  payload : Bytes
  deriving DecidableEq

def DerivedDraft.validate (draft : DerivedDraft) : Check := do
  safeIdentifier draft.eventType "event_type"
  positiveInteger draft.eventVersion "event_version"
  validatePayloadEncoding draft.payloadEncoding

/-! ## Persisted events -/

structure PersistedEvent where
  journalVersion : Nat
  recordKind : RecordKind
  ingestSeq : Nat
  sessionId : Text
  eventType : Text
  eventVersion : Nat
  sourceKind : SourceKind
  sourceId : Text
  sourceEntityId : Text
  endpointId : Option Text
  endpointState : ProvenanceState
  channelId : Option Text
  channelState : ProvenanceState
  requestId : Option Text
  requestIdState : ProvenanceState
  sourceWallNs : Option Nat
  sourceGeneratedNs : Option Nat
  localWallNs : Nat
  localMonotonicNs : Nat
  clockUncertaintyNs : Nat
  connectionEpoch : Nat
  providerSequence : Option Text
  parentIngestSeq : Option Nat
  contentType : Text
  payloadEncoding : Text
  payloadTransform : Text
  retentionDeleteByNs : Option Nat
  payloadSha256 : Text
  payload : Bytes
  deriving DecidableEq

def sessionStartType : Text := text "SESSION_START"
def sessionHaltType : Text := text "SESSION_HALT"

/-- The content type a control record of a type has; the rest of its contract is shared. -/
def controlContentType (eventType : Text) : Option Text :=
  if eventType = sessionStartType then some (text "application/vnd.inci.session-manifest+json")
  else if eventType = sessionHaltType then some (text "application/vnd.inci.session-terminal+json")
  else none

def capturePayloadTransforms : List Text :=
  [text "identity-public-market-v1", text "json-secret-redaction-v1",
    text "sanitized-transport-error-v1"]

def recordPayloadTransforms : List Text := capturePayloadTransforms ++ [text "derived-canonical-v1"]

def derivedContentType : Text := text "application/vnd.inci.derived+json"
def transportContentType : Text := text "application/vnd.inci.transport-error+json"

namespace PersistedEvent

/-- The contract every control record satisfies. -/
def ControlContract (e : PersistedEvent) : Prop :=
  controlContentType e.eventType = some e.contentType ∧ e.sourceKind = .system ∧
    e.sourceId = text "tennis-v1" ∧ e.sourceEntityId = e.sessionId ∧ e.endpointId = none ∧
    e.endpointState = .absent ∧ e.channelId = some (text "session-control") ∧
    e.channelState = .safeOriginal ∧ e.requestId = none ∧ e.requestIdState = .absent ∧
    e.sourceWallNs = none ∧ e.sourceGeneratedNs = none ∧ e.clockUncertaintyNs = 0 ∧
    e.connectionEpoch = 0 ∧ e.providerSequence = none ∧ e.retentionDeleteByNs = none ∧
    e.eventVersion = 1 ∧ e.payloadEncoding = text "canonical-json-v1" ∧
    e.payloadTransform = text "identity-public-market-v1"

instance (e : PersistedEvent) : Decidable e.ControlContract :=
  inferInstanceAs (Decidable (_ ∧ _))

/-- A derived record names a parent before it and has the derived content; no other has one. -/
def validateParent (e : PersistedEvent) : Check :=
  match e.recordKind, e.parentIngestSeq with
  | .derived, none => .error "parent_ingest_seq: derived_parent_must_precede"
  | .derived, some parent => do
      refuse (parent < 1 ∨ e.ingestSeq ≤ parent) "parent_ingest_seq: derived_parent_must_precede"
      refuse (e.contentType ≠ derivedContentType ∨
        e.payloadTransform ≠ text "derived-canonical-v1") "derived_record: contract_mismatch"
  | _, parent => refuse (parent ≠ none) "parent_ingest_seq: only_derived_records_have_parents"

/-- Provider bytes have a deadline after their receipt; nothing else has one. -/
def validateRetention (e : PersistedEvent) : Check :=
  if e.sourceKind = .provider ∧ e.recordKind ≠ .control then
    match e.retentionDeleteByNs with
    | none => .error "retention_delete_by_ns: provider_future_deadline_required"
    | some deadline =>
        refuse (deadline ≤ e.localWallNs) "retention_delete_by_ns: provider_future_deadline_required"
  else refuse (e.retentionDeleteByNs ≠ none) "retention_delete_by_ns: nonprovider_deadline_forbidden"

def validateKind (e : PersistedEvent) : Check :=
  match e.recordKind with
  | .control => refuse (¬e.ControlContract) "control_record: contract_mismatch"
  | .raw => do
      refuse (e.payloadTransform ∉ capturePayloadTransforms) "raw_record: transform_mismatch"
      refuse (e.payloadTransform = text "sanitized-transport-error-v1" ∧
        e.contentType ≠ transportContentType) "raw_record: transport_contract_mismatch"
  | .derived => .ok ()

def validate (e : PersistedEvent) : Check := do
  refuse (e.journalVersion ≠ 1) "journal_version: unsupported_version"
  positiveInteger e.ingestSeq "ingest_seq"
  validateSessionId e.sessionId
  safeIdentifier e.eventType "event_type"
  safeIdentifier e.sourceId "source_id"
  safeIdentifier e.sourceEntityId "source_entity_id"
  positiveInteger e.eventVersion "event_version"
  validateProvenance e.endpointId e.endpointState "endpoint_id"
  validateProvenance e.channelId e.channelState "channel_id"
  validateProvenance e.requestId e.requestIdState "request_id"
  optionalSafeIdentifier e.providerSequence "provider_sequence"
  validateContentType e.contentType
  validatePayloadEncoding e.payloadEncoding
  safeIdentifier e.payloadTransform "payload_transform"
  refuse (e.payloadTransform ∉ recordPayloadTransforms) "payload_transform: unknown_transform"
  sha256 e.payloadSha256 "payload_sha256"
  refuse (hexdigest e.payload ≠ e.payloadSha256) "payload_sha256: payload_digest_mismatch"
  e.validateParent
  e.validateRetention
  e.validateKind

end PersistedEvent

end Inci.Journal
