/-
# Replay.Contracts -- the values of the expert replay

The authorization, evidence, cursor, terminal and scan a replay works with, the
verdicts it may reach and the result it reports.  An integer member may be any
integer: the replay checks the members' types, and what it then checks of their
values is part of the model.  The phase-1 manifest and records are the journal's,
whose strings are code points.

The expert state is a type `State` with the check of its constructor.  Of the
session manifest only the members that the replay reads are here.
-/
import Inci.Binding.Contracts
import Inci.Journal.Reader

namespace Inci.Replay

open Inci.Theory
open Inci.Expert (ExpertError PyValue IsSha256 domainSha256 integerBound sha256)
open Inci.Binding (oneOf)

set_option autoImplicit false

/-- What a constructor raises, or nothing. -/
abbrev Check := Except ExpertError Unit

/-- `_integer(value, name)` of any integer. -/
def integer (value : Int) (name : String) : Check := do
  refuse (integerBound ≤ value.natAbs) (.contract name)
  refuse (value < 0) (.contract name)

/-- `_schema_version` -/
def schemaVersion (value : Int) : Check := do
  integer value "schema_version"
  refuse (value ≠ 1) (.contract "schema_version")

/-! ## Verdicts -/

inductive ExpertReplayMismatch where
  | evidenceContextMismatch
  | evidenceReplayNotExact
  | evidenceTerminalNotClean
  | evidenceSessionMismatch
  | evidenceManifestMismatch
  | retentionAuthorizationMismatch
  | retentionDeadlineReached
  | evidenceIdentityMismatch
  | currentEnvironmentMismatch
  | retentionBindingMismatch
  | companionScanInvalid
  | companionManifestMismatch
  | expertSequenceMismatch
  | parentMissing
  | parentExtra
  | parentOrderMismatch
  | parentKindMismatch
  | parentDigestMismatch
  | parentGroupShapeMismatch
  | priorRecordChainMismatch
  | priorStateMismatch
  | eventSchemaUnpinned
  | recordDigestMismatch
  | payloadDescriptorMismatch
  | payloadBytesMismatch
  | normalizedObservationMismatch
  | reductionMismatch
  | postStateMismatch
  | traceMismatch
  | terminalMissing
  | terminalReasonMismatch
  | terminalCountMismatch
  | terminalProvenanceMismatch
  | terminalStateMismatch
  | terminalTraceMismatch
  deriving DecidableEq

open ExpertReplayMismatch in
/-- `_MISMATCH_PRECEDENCE` -/
def mismatchPrecedence : List ExpertReplayMismatch :=
  [evidenceContextMismatch, evidenceReplayNotExact, evidenceTerminalNotClean,
    evidenceSessionMismatch, evidenceManifestMismatch, retentionAuthorizationMismatch,
    retentionDeadlineReached, evidenceIdentityMismatch, currentEnvironmentMismatch,
    retentionBindingMismatch, companionScanInvalid, companionManifestMismatch,
    expertSequenceMismatch, parentMissing, parentExtra, parentOrderMismatch, parentKindMismatch,
    parentDigestMismatch, parentGroupShapeMismatch, priorRecordChainMismatch, priorStateMismatch,
    eventSchemaUnpinned, recordDigestMismatch, payloadDescriptorMismatch, payloadBytesMismatch,
    normalizedObservationMismatch, reductionMismatch, postStateMismatch, traceMismatch,
    terminalMissing, terminalReasonMismatch, terminalCountMismatch, terminalProvenanceMismatch,
    terminalStateMismatch, terminalTraceMismatch]

/-- The place of a verdict in the precedence. -/
def rank (mismatch : ExpertReplayMismatch) : Nat := mismatchPrecedence.idxOf mismatch

/-- `mismatch in _MISMATCH_PRECEDENCE[first:last]` -/
def inBand (mismatch : Option ExpertReplayMismatch) (first last : Nat) : Bool :=
  mismatch.any fun m => ((mismatchPrecedence.take last).drop first).contains m

inductive ExpertTerminalReason where
  | operatorStop
  | sessionEnd
  | expertHalt
  deriving DecidableEq

def ExpertTerminalReason.value : ExpertTerminalReason → String
  | .operatorStop => "operator_stop"
  | .sessionEnd => "session_end"
  | .expertHalt => "expert_halt"

inductive ExpertJournalScanIssue where
  | missingTerminal
  | haltedTerminal
  | tornTail
  | corruptTail
  | durableUnacknowledged
  | evidenceIdentityLost
  deriving DecidableEq

/-- The verdicts of the phase-1 replay. -/
inductive EvidenceMismatch where
  | sessionManifest
  | derivedMissing
  | derivedExtra
  | derivedOrder
  | derivedRecord
  | rawReduction
  | state
  | trace
  | terminalCounts
  | terminalProvenance
  | terminalReason
  deriving DecidableEq

/-! ## Files and authorizations -/

structure PhysicalFileIdentity where
  schemaVersion : Int
  role : String
  device : Int
  inode : Int
  uid : Int
  mode : Int
  linkCount : Int
  size : Int
  mtimeNs : Int
  ctimeNs : Int
  canonicalMarkerSha256 : Option String
  fileHeaderSha256 : Option String
  sessionAnchorSha256 : String
  identitySha256 : String
  deriving DecidableEq

namespace PhysicalFileIdentity

/-- The fields before the digest, in their order. -/
def fields (i : PhysicalFileIdentity) : List (String × PyValue) :=
  [("schema_version", .int i.schemaVersion), ("role", .text i.role), ("device", .int i.device),
    ("inode", .int i.inode), ("uid", .int i.uid), ("mode", .int i.mode),
    ("link_count", .int i.linkCount), ("size", .int i.size), ("mtime_ns", .int i.mtimeNs),
    ("ctime_ns", .int i.ctimeNs),
    ("canonical_marker_sha256", .option .text i.canonicalMarkerSha256),
    ("file_header_sha256", .option .text i.fileHeaderSha256),
    ("session_anchor_sha256", .text i.sessionAnchorSha256)]

def py (i : PhysicalFileIdentity) : PyValue :=
  .contract "ExpertPhysicalFileIdentityV1"
    (i.fields ++ [("identity_sha256", .text i.identitySha256)])

def validate (i : PhysicalFileIdentity) : Check := do
  Replay.schemaVersion i.schemaVersion
  oneOf ["phase1_marker", "phase1_wal", "expert_marker", "expert_journal"] i.role "role"
  integer i.device "device"
  integer i.inode "inode"
  integer i.uid "uid"
  integer i.mode "mode"
  integer i.linkCount "link_count"
  integer i.size "size"
  integer i.mtimeNs "mtime_ns"
  integer i.ctimeNs "ctime_ns"
  refuse (i.linkCount ≠ 1) (.contract "link_count")
  checkSome (sha256 · "canonical_marker_sha256") i.canonicalMarkerSha256
  checkSome (sha256 · "file_header_sha256") i.fileHeaderSha256
  let markerRole := i.role ∈ ["phase1_marker", "expert_marker"]
  refuse (¬(markerRole ↔ i.canonicalMarkerSha256.isSome = true ∧ i.fileHeaderSha256 = none))
    (.contract "physical_identity_role")
  refuse (¬markerRole ∧ (i.fileHeaderSha256 = none ∨ i.canonicalMarkerSha256.isSome = true))
    (.contract "physical_identity_role")
  sha256 i.sessionAnchorSha256 "session_anchor_sha256"
  sha256 i.identitySha256 "identity_sha256"
  let computed ← domainSha256 "INCI-EXPERT-PHYSICAL-FILE-IDENTITY-V1"
    (.tuple (i.fields.map Prod.snd))
  refuse (i.identitySha256 ≠ computed) (.contract "identity_sha256")

end PhysicalFileIdentity

structure RetentionReplayAuthorization where
  schemaVersion : Int
  sessionId : String
  authorizationSequence : Int
  authorizedOperation : String
  expectedParentIngestSeq : Option Int
  evidenceSessionManifestSha256 : String
  evidenceSessionStartRecordSha256 : String
  evidenceTerminalRecordSha256 : Option String
  expertManifestSha256 : String
  retentionBindingSha256 : String
  providerRequestBindingSha256 : String
  permissionArtifactSha256 : String
  qualificationArtifactSha256 : String
  qualificationTraceSha256 : String
  evidenceMarkerIdentity : PhysicalFileIdentity
  evidenceWalIdentity : PhysicalFileIdentity
  companionMarkerIdentity : PhysicalFileIdentity
  companionJournalIdentity : PhysicalFileIdentity
  commonDeadlineNs : Int
  finalSampledWallNs : Int
  authorizationSha256 : String

/-- `compute_retention_replay_authorization_sha256` -/
def computeRetentionReplayAuthorizationSha256 (a : RetentionReplayAuthorization) :
    Except ExpertError String :=
  domainSha256 "INCI-EXPERT-REPLAY-AUTHORIZATION-V1" (.tuple [.int a.schemaVersion,
    .text a.sessionId, .int a.authorizationSequence, .text a.authorizedOperation,
    .option .int a.expectedParentIngestSeq, .text a.evidenceSessionManifestSha256,
    .text a.evidenceSessionStartRecordSha256, .option .text a.evidenceTerminalRecordSha256,
    .text a.expertManifestSha256, .text a.retentionBindingSha256,
    .text a.providerRequestBindingSha256, .text a.permissionArtifactSha256,
    .text a.qualificationArtifactSha256, .text a.qualificationTraceSha256,
    a.evidenceMarkerIdentity.py, a.evidenceWalIdentity.py, a.companionMarkerIdentity.py,
    a.companionJournalIdentity.py, .int a.commonDeadlineNs, .int a.finalSampledWallNs])

/-! ## The session -/

structure CurrentEnvironment where
  schemaVersion : Int
  phase1CodeSha256 : String
  phase1AdapterCodeSha256 : String
  expertCodeSha256 : String
  ioCodeSha256 : String
  expertAdapterCodeSha256 : String
  runtimeCodeSha256 : String
  dependencyLockSha256 : String
  pythonRuntimeSha256 : String
  normalizerRegistrySha256 : String
  structuralSchemaBundleSha256 : String
  eventSchemaBundleSha256 : String
  deriving DecidableEq

structure RetentionBinding where
  sessionId : String
  evidenceSessionManifestSha256 : String
  providerRequestBindingSha256 : String
  permissionArtifactSha256 : String
  qualificationArtifactSha256 : String
  qualificationTraceSha256 : String
  retentionDeleteByNs : Int
  accessExpiresAtNs : Int
  analysisExpiresAtNs : Int
  retentionBindingSha256 : String

structure ExpertSessionManifest where
  sessionId : String
  evidenceSessionManifestSha256 : String
  evidenceSessionStartRecordSha256 : String
  providerId : String
  productTier : String
  sourceLineageId : String
  providerManifestFileSha256 : String
  providerManifestCanonicalSha256 : String
  entitlementIdSha256 : String
  providerRequestBindingSha256 : String
  permissionArtifactSha256 : String
  qualificationArtifactSha256 : String
  qualificationTraceSha256 : String
  environment : CurrentEnvironment
  retention : RetentionBinding
  matchBindingUniverseSha256 : String
  manifestSha256 : String

/-- What the phase-1 replay reported. -/
structure EvidenceReplayResult where
  rawCount : Int
  derivedCount : Int
  terminalClean : Bool
  walValid : Bool
  exactReplay : Bool
  scanIssue : Option Journal.ScanIssue
  replayMismatch : Option EvidenceMismatch

structure EvidenceReplayContext where
  sessionManifest : Journal.SessionManifest
  sessionManifestSha256 : String
  sessionStartRecordSha256 : String
  replayResult : EvidenceReplayResult
  evidenceTerminal : Option Journal.PersistedEvent
  evidenceTerminalRecordSha256 : Option String
  evidenceMarkerIdentity : PhysicalFileIdentity
  evidenceWalIdentity : PhysicalFileIdentity

structure ExpertJournalCursor where
  groupCount : Int
  recordCount : Int
  lastParentIngestSeq : Int
  lastParentRecordSha256 : String
  expertSeq : Int
  expertRecordSha256 : String
  expertStateSha256 : String
  expertTraceSha256 : String

structure ExpertReplayAccumulator (State : Type) where
  manifest : ExpertSessionManifest
  currentEnvironment : CurrentEnvironment
  evidence : EvidenceReplayContext
  state : State
  cursor : ExpertJournalCursor
  evidenceRawCount : Int
  evidenceDerivedCount : Int
  processedParentCount : Int
  lastAuthorizationSequence : Int
  lastAuthorizationSha256 : String
  mismatch : Option ExpertReplayMismatch

/-! ## The companion journal's end -/

structure ExpertSessionTerminal where
  schemaVersion : Int
  sessionId : String
  expertManifestSha256 : String
  providerRequestBindingSha256 : String
  matchBindingUniverseSha256 : String
  retentionBindingSha256 : String
  evidenceTerminalIngestSeq : Int
  evidenceTerminalRecordSha256 : String
  evidenceTerminalClean : Bool
  evidenceTerminalReason : String
  evidenceRawCount : Int
  evidenceDerivedCount : Int
  expertGroupCount : Int
  expertRecordCount : Int
  lastParentIngestSeq : Int
  lastParentRecordSha256 : String
  finalExpertSeq : Int
  finalExpertRecordSha256 : String
  finalExpertStateSha256 : String
  finalExpertTraceSha256 : String
  clean : Bool
  reason : ExpertTerminalReason
  researchEvaluable : Bool
  terminalSha256 : String
  deriving DecidableEq

/-- `compute_expert_session_terminal_sha256` -/
def computeExpertSessionTerminalSha256 (t : ExpertSessionTerminal) : Except ExpertError String :=
  domainSha256 "INCI-EXPERT-SESSION-TERMINAL-V1" (.tuple [.int t.schemaVersion, .text t.sessionId,
    .text t.expertManifestSha256, .text t.providerRequestBindingSha256,
    .text t.matchBindingUniverseSha256, .text t.retentionBindingSha256,
    .int t.evidenceTerminalIngestSeq, .text t.evidenceTerminalRecordSha256,
    .bool t.evidenceTerminalClean, .text t.evidenceTerminalReason, .int t.evidenceRawCount,
    .int t.evidenceDerivedCount, .int t.expertGroupCount, .int t.expertRecordCount,
    .int t.lastParentIngestSeq, .text t.lastParentRecordSha256, .int t.finalExpertSeq,
    .text t.finalExpertRecordSha256, .text t.finalExpertStateSha256,
    .text t.finalExpertTraceSha256, .bool t.clean,
    .enum "ExpertTerminalReasonV1" t.reason.value, .bool t.researchEvaluable])

structure ExpertJournalScanSummary where
  schemaVersion : Int
  fileSize : Int
  lastGoodOffset : Int
  lastFrameSequence : Int
  groupCount : Int
  recordCount : Int
  terminalClean : Bool
  issue : Option ExpertJournalScanIssue
  journalValid : Bool

def ExpertJournalScanSummary.postInit (scan : ExpertJournalScanSummary) : Check := do
  Replay.schemaVersion scan.schemaVersion
  integer scan.fileSize "file_size"
  integer scan.lastGoodOffset "last_good_offset"
  integer scan.lastFrameSequence "last_frame_sequence"
  integer scan.groupCount "group_count"
  integer scan.recordCount "record_count"
  refuse (scan.fileSize < scan.lastGoodOffset ∨ scan.recordCount < scan.groupCount ∨
    scan.terminalClean ≠ scan.journalValid ∨ scan.journalValid ≠ scan.issue.isNone ∨
    (scan.journalValid = true ∧ scan.lastGoodOffset ≠ scan.fileSize))
    (.contract "journal_scan_summary")

/-! ## The result -/

structure ExpertReplayResult (State : Type) where
  state : Option State
  traceSha256 : Option String
  evidenceRawCount : Int
  evidenceDerivedCount : Int
  expertGroupCount : Int
  expertRecordCount : Int
  evidenceExact : Bool
  companionValid : Bool
  terminalsAligned : Bool
  exactReplay : Bool
  mismatch : Option ExpertReplayMismatch
  finalAuthorizationSha256 : Option String
  evaluationInputEligible : Bool
  researchEvaluable : Bool

/-- The constructor's checks; `stateCheck` is the state's own. -/
def ExpertReplayResult.postInit {State : Type} (stateCheck : State → Check)
    (result : ExpertReplayResult State) : Check := do
  checkSome stateCheck result.state
  checkSome (sha256 · "trace_sha256") result.traceSha256
  integer result.evidenceRawCount "evidence_raw_count"
  integer result.evidenceDerivedCount "evidence_derived_count"
  integer result.expertGroupCount "expert_group_count"
  integer result.expertRecordCount "expert_record_count"
  checkSome (sha256 · "final_authorization_sha256") result.finalAuthorizationSha256
  refuse (result.researchEvaluable ≠ false) (.contract "research_evaluable")
  refuse (result.expertRecordCount < result.expertGroupCount) (.contract "replay_counts")
  let exactShape := result.state.isSome && result.traceSha256.isSome && result.evidenceExact &&
    result.companionValid && result.terminalsAligned && result.mismatch.isNone &&
    result.finalAuthorizationSha256.isSome
  refuse (result.exactReplay ≠ exactShape ∨ result.evaluationInputEligible ≠ result.exactReplay)
    (.contract "replay_result")

end Inci.Replay
