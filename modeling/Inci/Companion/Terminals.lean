/-
# Companion.Terminals -- the two readings of a terminal frame

`SessionTerminal.postInit` is the constructor of a terminal, and
`decodeExpertTerminalFrameStructural` the reading that runs it.
`decodeExpertTerminalFrameReplayMaterial` reads the same fields past the
constructor: it checks the frame, the form of the projection and the types of the
fields, and leaves their values to the replay.

The strings of a terminal are code points, since a JSON text may spell ones that no
grammar of the contract accepts.  The other registered types are the `Registry` the
readings are given.
-/
import Inci.Companion.Projection
import Inci.Expert.Frames
import Inci.Journal.Terminal
import Inci.Replay.Contracts

namespace Inci.Companion

open Inci.Theory
open Inci.Theory.Json (Text text Value lookup)
open Inci.Expert (decodeExpertCompleteFrame expertFrameKindTerminal)
open Inci.Journal (Bytes Members SameKeys canonicalJsonBytes member string boolean matchesSha256
  matchesClass isAlphanumeric isCanonicalUuid permittedReasons)
open Inci.Replay (Check ExpertTerminalReason schemaVersion)

set_option autoImplicit false

/-! ## Field checks on code points -/

/-- `[A-Za-z0-9][A-Za-z0-9._:-]{0,127}` -/
def matchesSafeId : Text → Bool :=
  matchesClass isAlphanumeric (fun c => isAlphanumeric c || (text "._:-").contains c) 127

/-- `value.lower()` of an ASCII text. -/
def lower (value : Text) : Text := value.map fun c => if 65 ≤ c ∧ c ≤ 90 then c + 32 else c

def looksLikeLink (value : Text) : Bool :=
  ["http:", "https:", "file:"].any fun scheme => (text scheme).isPrefixOf (lower value)

/-- `_safe_id` -/
def safeId (value : Text) (name : String) : Check := do
  refuse (matchesSafeId value = false) (.contract name)
  refuse (looksLikeLink value = true) (.contract name)

/-- `_session_id` -/
def sessionId (value : Text) (name : String) : Check := do
  safeId value name
  refuse (isCanonicalUuid value = false) (.contract name)

/-- `_sha256` -/
def sha256 (value : Text) (name : String) : Check :=
  refuse (matchesSha256 value = false) (.contract name)

/-- `_domain_sha256` -/
def domainSha256 (label : String) (projection : Decoded) : Option Text :=
  projection.canonicalBytes.map fun content => Journal.hexdigest (Expert.domain label ++ content)

/-! ## Terminals -/

def terminalName : Text := text "ExpertSessionTerminalV1"

def reasonName : Text := text "ExpertTerminalReasonV1"

def terminalReasons : List ExpertTerminalReason := [.operatorStop, .sessionEnd, .expertHalt]

/-- The member of the enumeration with a value. -/
def terminalReason (value : Text) : Option ExpertTerminalReason :=
  terminalReasons.find? fun reason => text reason.value = value

/-- `ExpertSessionTerminalV1` -/
structure SessionTerminal where
  schemaVersion : Int
  sessionId : Text
  expertManifestSha256 : Text
  providerRequestBindingSha256 : Text
  matchBindingUniverseSha256 : Text
  retentionBindingSha256 : Text
  evidenceTerminalIngestSeq : Int
  evidenceTerminalRecordSha256 : Text
  evidenceTerminalClean : Bool
  evidenceTerminalReason : Text
  evidenceRawCount : Int
  evidenceDerivedCount : Int
  expertGroupCount : Int
  expertRecordCount : Int
  lastParentIngestSeq : Int
  lastParentRecordSha256 : Text
  finalExpertSeq : Int
  finalExpertRecordSha256 : Text
  finalExpertStateSha256 : Text
  finalExpertTraceSha256 : Text
  clean : Bool
  reason : ExpertTerminalReason
  researchEvaluable : Bool
  terminalSha256 : Text
  deriving DecidableEq

namespace SessionTerminal

/-- The fields in the order of their declaration. -/
def fields (t : SessionTerminal) : List (Text × Decoded) :=
  [(text "schema_version", .int t.schemaVersion),
   (text "session_id", .str t.sessionId),
   (text "expert_manifest_sha256", .str t.expertManifestSha256),
   (text "provider_request_binding_sha256", .str t.providerRequestBindingSha256),
   (text "match_binding_universe_sha256", .str t.matchBindingUniverseSha256),
   (text "retention_binding_sha256", .str t.retentionBindingSha256),
   (text "evidence_terminal_ingest_seq", .int t.evidenceTerminalIngestSeq),
   (text "evidence_terminal_record_sha256", .str t.evidenceTerminalRecordSha256),
   (text "evidence_terminal_clean", .bool t.evidenceTerminalClean),
   (text "evidence_terminal_reason", .str t.evidenceTerminalReason),
   (text "evidence_raw_count", .int t.evidenceRawCount),
   (text "evidence_derived_count", .int t.evidenceDerivedCount),
   (text "expert_group_count", .int t.expertGroupCount),
   (text "expert_record_count", .int t.expertRecordCount),
   (text "last_parent_ingest_seq", .int t.lastParentIngestSeq),
   (text "last_parent_record_sha256", .str t.lastParentRecordSha256),
   (text "final_expert_seq", .int t.finalExpertSeq),
   (text "final_expert_record_sha256", .str t.finalExpertRecordSha256),
   (text "final_expert_state_sha256", .str t.finalExpertStateSha256),
   (text "final_expert_trace_sha256", .str t.finalExpertTraceSha256),
   (text "clean", .bool t.clean),
   (text "reason", .enum reasonName (text t.reason.value)),
   (text "research_evaluable", .bool t.researchEvaluable),
   (text "terminal_sha256", .str t.terminalSha256)]

def fieldNames : List Text :=
  ["schema_version", "session_id", "expert_manifest_sha256", "provider_request_binding_sha256",
    "match_binding_universe_sha256", "retention_binding_sha256", "evidence_terminal_ingest_seq",
    "evidence_terminal_record_sha256", "evidence_terminal_clean", "evidence_terminal_reason",
    "evidence_raw_count", "evidence_derived_count", "expert_group_count", "expert_record_count",
    "last_parent_ingest_seq", "last_parent_record_sha256", "final_expert_seq",
    "final_expert_record_sha256", "final_expert_state_sha256", "final_expert_trace_sha256", "clean",
    "reason", "research_evaluable", "terminal_sha256"].map text

def contract (t : SessionTerminal) : Decoded := .contract terminalName t.fields

/-- The values of the fields, when each has the type its check asks for. -/
def ofValues : List Decoded → Option SessionTerminal
  | [.int schemaVersion, .str sessionId, .str expertManifestSha256,
      .str providerRequestBindingSha256, .str matchBindingUniverseSha256,
      .str retentionBindingSha256, .int evidenceTerminalIngestSeq,
      .str evidenceTerminalRecordSha256, .bool evidenceTerminalClean, .str evidenceTerminalReason,
      .int evidenceRawCount, .int evidenceDerivedCount, .int expertGroupCount,
      .int expertRecordCount, .int lastParentIngestSeq, .str lastParentRecordSha256,
      .int finalExpertSeq, .str finalExpertRecordSha256, .str finalExpertStateSha256,
      .str finalExpertTraceSha256, .bool clean, .enum className value, .bool researchEvaluable,
      .str terminalSha256] =>
      (if className = reasonName then terminalReason value else none).map fun reason =>
        ⟨schemaVersion, sessionId, expertManifestSha256, providerRequestBindingSha256,
          matchBindingUniverseSha256, retentionBindingSha256, evidenceTerminalIngestSeq,
          evidenceTerminalRecordSha256, evidenceTerminalClean, evidenceTerminalReason,
          evidenceRawCount, evidenceDerivedCount, expertGroupCount, expertRecordCount,
          lastParentIngestSeq, lastParentRecordSha256, finalExpertSeq, finalExpertRecordSha256,
          finalExpertStateSha256, finalExpertTraceSha256, clean, reason, researchEvaluable,
          terminalSha256⟩
  | _ => none

/-- `__post_init__` of a terminal whose fields have their types. -/
def postInit (t : SessionTerminal) : Check := do
  Replay.schemaVersion t.schemaVersion
  Companion.sessionId t.sessionId "session_id"
  sha256 t.expertManifestSha256 "expert_manifest_sha256"
  sha256 t.providerRequestBindingSha256 "provider_request_binding_sha256"
  sha256 t.matchBindingUniverseSha256 "match_binding_universe_sha256"
  sha256 t.retentionBindingSha256 "retention_binding_sha256"
  sha256 t.evidenceTerminalRecordSha256 "evidence_terminal_record_sha256"
  sha256 t.lastParentRecordSha256 "last_parent_record_sha256"
  sha256 t.finalExpertRecordSha256 "final_expert_record_sha256"
  sha256 t.finalExpertStateSha256 "final_expert_state_sha256"
  sha256 t.finalExpertTraceSha256 "final_expert_trace_sha256"
  Replay.integer t.evidenceTerminalIngestSeq "evidence_terminal_ingest_seq"
  Replay.integer t.evidenceRawCount "evidence_raw_count"
  Replay.integer t.evidenceDerivedCount "evidence_derived_count"
  Replay.integer t.expertGroupCount "expert_group_count"
  Replay.integer t.expertRecordCount "expert_record_count"
  Replay.integer t.lastParentIngestSeq "last_parent_ingest_seq"
  Replay.integer t.finalExpertSeq "final_expert_seq"
  safeId t.evidenceTerminalReason "evidence_terminal_reason"
  refuse (t.researchEvaluable ≠ false) (.contract "research_evaluable")
  refuse (t.evidenceTerminalIngestSeq ≠ 2 + t.evidenceRawCount + t.evidenceDerivedCount ∨
    t.lastParentIngestSeq ≠ (if t.evidenceRawCount = 0 then 0 else 2 * t.evidenceRawCount) ∨
    t.evidenceTerminalReason ∉ permittedReasons t.evidenceTerminalClean ∨
    t.evidenceRawCount ≠ t.evidenceDerivedCount ∨ t.evidenceRawCount ≠ t.expertGroupCount ∨
    t.expertRecordCount < t.expertGroupCount ∨ t.finalExpertSeq ≠ t.expertRecordCount ∨
    (t.lastParentIngestSeq ≠ 0 ∧ t.evidenceTerminalIngestSeq ≤ t.lastParentIngestSeq) ∨
    ¬(t.expertGroupCount = 0 ↔ t.expertRecordCount = 0) ∨
    ¬(t.expertGroupCount = 0 ↔ t.lastParentIngestSeq = 0) ∨
    t.clean ≠ t.evidenceTerminalClean ∨
    (t.clean = true ∧ t.evidenceTerminalReason ≠ text t.reason.value) ∨
    (t.clean = true ∧ t.reason ∉ [.operatorStop, .sessionEnd]) ∨
    (t.clean = false ∧ t.reason ≠ .expertHalt)) (.contract "terminal_alignment")
  sha256 t.terminalSha256 "terminal_sha256"
  refuse (domainSha256 "INCI-EXPERT-SESSION-TERMINAL-V1"
    (.tuple (t.fields.dropLast.map Prod.snd)) ≠ some t.terminalSha256) (.contract "terminal_sha256")

end SessionTerminal

/-- The registry with the terminal and its reason, over the other registered types. -/
def withTerminal (others : Registry) : Registry where
  decimal := others.decimal
  enumeration className :=
    if className = reasonName then some (terminalReasons.map fun reason => text reason.value)
    else others.enumeration className
  contract className :=
    if className = terminalName then some SessionTerminal.fieldNames else others.contract className
  postInit className values :=
    if className = terminalName then
      (SessionTerminal.ofValues values).any fun t => decide (t.postInit = .ok ())
    else others.postInit className values

/-! ## The structural reading -/

/-- `decode_expert_terminal_frame_structural` -/
def decodeExpertTerminalFrameStructural (others : Registry) (frame : Bytes) :
    Option SessionTerminal := do
  let complete ← (decodeExpertCompleteFrame frame).toOption
  if complete.kind ≠ expertFrameKindTerminal ∨ complete.payloadArea ≠ [] then none
  else
    let fields ← decodeContractMetadata (withTerminal others) complete.metadata terminalName
    let t ← SessionTerminal.ofValues (fields.map Prod.snd)
    if t.evidenceRawCount ≠ t.expertGroupCount ∨ t.expertRecordCount < t.expertGroupCount ∨
        t.finalExpertSeq ≠ t.expertRecordCount ∨
        ¬(t.expertGroupCount = 0 ↔ t.expertRecordCount = 0) ∨
        ¬(t.expertGroupCount = 0 ↔ t.lastParentIngestSeq = 0) ∨
        ¬(t.expertGroupCount = 0 ↔ t.finalExpertSeq = 0) ∨
        (complete.frameSequence : Int) ≠ t.expertGroupCount + 1 then none
    else some t

/-! ## The reading for a replay -/

/-- An integer that is not negative; a flag is no integer. -/
def nonnegative : Value → Option Int
  | .int n => if n < 0 then none else some n
  | _ => none

/-- The reason of a terminal, read from the object of an enumeration member. -/
def reasonOf (v : Value) : Option ExpertTerminalReason := do
  let raw ← object v
  if member raw "$enum" string = some reasonName then
    (member raw "value" string).bind terminalReason
  else none

/-- The fields by the kind of their names, none of their values checked. -/
def looseFields (raw : Members) : Option SessionTerminal := do
  let schemaVersion ← member raw "schema_version" nonnegative
  let sessionId ← member raw "session_id" string
  let expertManifestSha256 ← member raw "expert_manifest_sha256" string
  let providerRequestBindingSha256 ← member raw "provider_request_binding_sha256" string
  let matchBindingUniverseSha256 ← member raw "match_binding_universe_sha256" string
  let retentionBindingSha256 ← member raw "retention_binding_sha256" string
  let evidenceTerminalIngestSeq ← member raw "evidence_terminal_ingest_seq" nonnegative
  let evidenceTerminalRecordSha256 ← member raw "evidence_terminal_record_sha256" string
  let evidenceTerminalClean ← member raw "evidence_terminal_clean" boolean
  let evidenceTerminalReason ← member raw "evidence_terminal_reason" string
  let evidenceRawCount ← member raw "evidence_raw_count" nonnegative
  let evidenceDerivedCount ← member raw "evidence_derived_count" nonnegative
  let expertGroupCount ← member raw "expert_group_count" nonnegative
  let expertRecordCount ← member raw "expert_record_count" nonnegative
  let lastParentIngestSeq ← member raw "last_parent_ingest_seq" nonnegative
  let lastParentRecordSha256 ← member raw "last_parent_record_sha256" string
  let finalExpertSeq ← member raw "final_expert_seq" nonnegative
  let finalExpertRecordSha256 ← member raw "final_expert_record_sha256" string
  let finalExpertStateSha256 ← member raw "final_expert_state_sha256" string
  let finalExpertTraceSha256 ← member raw "final_expert_trace_sha256" string
  let clean ← member raw "clean" boolean
  let reason ← member raw "reason" reasonOf
  let researchEvaluable ← member raw "research_evaluable" boolean
  let terminalSha256 ← member raw "terminal_sha256" string
  some ⟨schemaVersion, sessionId, expertManifestSha256, providerRequestBindingSha256,
    matchBindingUniverseSha256, retentionBindingSha256, evidenceTerminalIngestSeq,
    evidenceTerminalRecordSha256, evidenceTerminalClean, evidenceTerminalReason, evidenceRawCount,
    evidenceDerivedCount, expertGroupCount, expertRecordCount, lastParentIngestSeq,
    lastParentRecordSha256, finalExpertSeq, finalExpertRecordSha256, finalExpertStateSha256,
    finalExpertTraceSha256, clean, reason, researchEvaluable, terminalSha256⟩

/-- What the reading for a replay makes of the metadata. -/
def decodeTerminalMaterial (others : Registry) (metadata : Bytes) : Option SessionTerminal := do
  let raw ← loadDocument metadata
  let version ← lookup (text "canonical_version") raw
  if SameKeys documentKeys raw ∧ equalsOne version = true ∧
      member raw "domain" string = some documentDomain then do
    let value ← lookup (text "value") raw
    if diagnosticShape (withTerminal others) projectionLevels value then do
      let contract ← object value
      let fieldValues ← member contract "fields" object
      if member contract "$contract" string = some terminalName ∧
          SameKeys SessionTerminal.fieldNames fieldValues ∧
          canonicalJsonBytes (.obj raw) = some metadata then do
        let t ← looseFields fieldValues
        if t.schemaVersion = 1 then some t else none
      else none
    else none
  else none

/-- `decode_expert_terminal_frame_replay_material` -/
def decodeExpertTerminalFrameReplayMaterial (others : Registry) (frame : Bytes) :
    Option SessionTerminal := do
  let complete ← (decodeExpertCompleteFrame frame).toOption
  if complete.kind ≠ expertFrameKindTerminal ∨ complete.payloadArea ≠ [] then none
  else decodeTerminalMaterial others complete.metadata

end Inci.Companion
