/-
# Replay.Verdict -- the verdicts of the expert replay's first and last step

`beginExpertReplay` notes the first of its findings in the precedence, item by item;
what it asks of artifacts outside this model is a `BeginLibrary`.
`finishExpertReplay` reads the accumulator, the final authorization, the companion
terminal and the scan, and answers one result, or raises what a digest or the
result's constructor raises.
-/
import Inci.Replay.Contracts

namespace Inci.Replay

open Inci.Theory
open Inci.Theory.Json (text)
open Inci.Expert (ExpertError)

set_option autoImplicit false

/-! ## Relations of an authorization -/

/-- `_authorization_digest_is_exact` -/
def authorizationDigestIsExact (authorization : RetentionReplayAuthorization) :
    Except ExpertError Bool := do
  let computed ← computeRetentionReplayAuthorizationSha256 authorization
  pure (authorization.authorizationSha256 == computed)

/-- `_manifest_evidence_relation_is_exact` -/
def ManifestEvidenceRelation (manifest : ExpertSessionManifest) (evidence : EvidenceReplayContext) :
    Prop :=
  let phase1 := evidence.sessionManifest
  manifest.evidenceSessionManifestSha256 = evidence.sessionManifestSha256 ∧
    manifest.evidenceSessionStartRecordSha256 = evidence.sessionStartRecordSha256 ∧
    text manifest.providerId = phase1.providerId ∧ text manifest.productTier = phase1.productTier ∧
    text manifest.sourceLineageId = phase1.sourceLineageId ∧
    text manifest.providerManifestFileSha256 = phase1.providerManifestFileSha256 ∧
    text manifest.providerManifestCanonicalSha256 = phase1.providerManifestCanonicalSha256 ∧
    text manifest.entitlementIdSha256 = phase1.entitlementIdSha256 ∧
    text manifest.permissionArtifactSha256 = phase1.permissionArtifactSha256 ∧
    text manifest.qualificationArtifactSha256 = phase1.qualificationArtifactSha256 ∧
    text manifest.qualificationTraceSha256 = phase1.qualificationTraceSha256

instance (manifest : ExpertSessionManifest) (evidence : EvidenceReplayContext) :
    Decidable (ManifestEvidenceRelation manifest evidence) := inferInstanceAs (Decidable (_ ∧ _))

/-- `_authorization_static_relation_is_exact` -/
def AuthorizationStaticRelation (authorization : RetentionReplayAuthorization)
    (manifest : ExpertSessionManifest) (evidence : EvidenceReplayContext) (operation : String)
    (sequence : Int) (expectedParentIngestSeq : Option Int) : Prop :=
  authorization.schemaVersion = 1 ∧ authorization.authorizedOperation = operation ∧
    authorization.authorizationSequence = sequence ∧
    authorization.expectedParentIngestSeq = expectedParentIngestSeq ∧
    authorization.evidenceSessionManifestSha256 = evidence.sessionManifestSha256 ∧
    authorization.evidenceSessionStartRecordSha256 = evidence.sessionStartRecordSha256 ∧
    authorization.evidenceTerminalRecordSha256 = evidence.evidenceTerminalRecordSha256 ∧
    authorization.expertManifestSha256 = manifest.manifestSha256 ∧
    authorization.retentionBindingSha256 = manifest.retention.retentionBindingSha256 ∧
    authorization.providerRequestBindingSha256 = manifest.providerRequestBindingSha256 ∧
    authorization.permissionArtifactSha256 = manifest.permissionArtifactSha256 ∧
    authorization.qualificationArtifactSha256 = manifest.qualificationArtifactSha256 ∧
    authorization.qualificationTraceSha256 = manifest.qualificationTraceSha256

instance (authorization : RetentionReplayAuthorization) (manifest : ExpertSessionManifest)
    (evidence : EvidenceReplayContext) (operation : String) (sequence : Int)
    (expectedParentIngestSeq : Option Int) :
    Decidable (AuthorizationStaticRelation authorization manifest evidence operation sequence
      expectedParentIngestSeq) := inferInstanceAs (Decidable (_ ∧ _))

/-- Nothing is raised. -/
def Accepts (check : Check) : Prop := check = .ok ()

instance (check : Check) : Decidable (Accepts check) := inferInstanceAs (Decidable (_ = _))

/-- `_authorization_identities_are_exact` -/
def AuthorizationIdentities (authorization : RetentionReplayAuthorization)
    (evidence : EvidenceReplayContext) : Prop :=
  (∀ identity ∈ [authorization.evidenceMarkerIdentity, authorization.evidenceWalIdentity,
      authorization.companionMarkerIdentity, authorization.companionJournalIdentity],
    Accepts identity.validate) ∧
    authorization.evidenceMarkerIdentity = evidence.evidenceMarkerIdentity ∧
    authorization.evidenceWalIdentity = evidence.evidenceWalIdentity ∧
    authorization.companionMarkerIdentity.sessionAnchorSha256 =
      authorization.companionJournalIdentity.sessionAnchorSha256

instance (authorization : RetentionReplayAuthorization) (evidence : EvidenceReplayContext) :
    Decidable (AuthorizationIdentities authorization evidence) :=
  inferInstanceAs (Decidable (_ ∧ _))

/-- `_retention_relation_is_exact` -/
def RetentionRelation (authorization : RetentionReplayAuthorization)
    (manifest : ExpertSessionManifest) (evidence : EvidenceReplayContext) : Prop :=
  let phase1 := evidence.sessionManifest
  let retention := manifest.retention
  retention.sessionId = manifest.sessionId ∧
    retention.evidenceSessionManifestSha256 = evidence.sessionManifestSha256 ∧
    retention.providerRequestBindingSha256 = manifest.providerRequestBindingSha256 ∧
    text retention.permissionArtifactSha256 = phase1.permissionArtifactSha256 ∧
    text retention.qualificationArtifactSha256 = phase1.qualificationArtifactSha256 ∧
    text retention.qualificationTraceSha256 = phase1.qualificationTraceSha256 ∧
    retention.retentionDeleteByNs = phase1.requiredRetentionUntilNs ∧
    retention.accessExpiresAtNs = phase1.accessExpiresAtNs ∧
    retention.analysisExpiresAtNs = phase1.analysisExpiresAtNs ∧
    authorization.commonDeadlineNs = retention.retentionDeleteByNs

instance (authorization : RetentionReplayAuthorization) (manifest : ExpertSessionManifest)
    (evidence : EvidenceReplayContext) :
    Decidable (RetentionRelation authorization manifest evidence) :=
  inferInstanceAs (Decidable (_ ∧ _))

/-- The sampled time has reached the deadline. -/
def DeadlineReached (authorization : RetentionReplayAuthorization) : Prop :=
  authorization.commonDeadlineNs ≤ authorization.finalSampledWallNs

instance (authorization : RetentionReplayAuthorization) :
    Decidable (DeadlineReached authorization) := inferInstanceAs (Decidable (_ ≤ _))

/-! ## The first step -/

/-- What the first step asks of the artifacts. -/
structure BeginLibrary (State Universe Policy : Type) where
  /-- `evidence._validate()` -/
  validateEvidence : EvidenceReplayContext → Check
  /-- `_static_companion_manifest_is_decodable` -/
  manifestDecodable : ExpertSessionManifest → Bool
  /-- `_companion_manifest_relations_are_exact` -/
  relationsExact : ExpertSessionManifest → Universe → Policy → EvidenceReplayContext → Bool
  initialExpertState : ExpertSessionManifest → Universe → Policy → Except ExpertError State
  fallbackInitialState : ExpertSessionManifest → Universe → Policy → Except ExpertError State
  genesisCursor : ExpertSessionManifest → State → Except ExpertError ExpertJournalCursor

/-- A finding, unless an earlier one was noted. -/
def note (failed : Bool) (finding : ExpertReplayMismatch) (mismatch : Option ExpertReplayMismatch) :
    Option ExpertReplayMismatch :=
  if mismatch = none ∧ failed = true then some finding else mismatch

/-- A missing or halted terminal is all that keeps the evidence from being exact. -/
def terminalIsSoleNonexactness (result : EvidenceReplayResult) : Bool :=
  !result.exactReplay && result.walValid &&
    match result.scanIssue with
    | some .missingTerminal => result.replayMismatch.isNone
    | some .haltedTerminal =>
        result.replayMismatch.isNone || decide (result.replayMismatch = some .terminalReason)
    | _ => false

section Begin

variable {State Universe Policy : Type} (library : BeginLibrary State Universe Policy)

/-- The verdict of the first step. -/
def beginMismatch (manifest : ExpertSessionManifest) (currentEnvironment : CurrentEnvironment)
    (universe_ : Universe) (policy : Policy) (evidence : EvidenceReplayContext)
    (authorization : RetentionReplayAuthorization) :
    Except ExpertError (Option ExpertReplayMismatch) := do
  let mismatch := note (decide (¬Accepts (library.validateEvidence evidence)))
    .evidenceContextMismatch none
  let mismatch := note (evidence.replayResult.replayMismatch.isSome &&
    !terminalIsSoleNonexactness evidence.replayResult) .evidenceReplayNotExact mismatch
  let mismatch := note (!evidence.replayResult.exactReplay) .evidenceTerminalNotClean mismatch
  let mismatch := note
    (decide (text manifest.sessionId ≠ evidence.sessionManifest.sessionId ∨
      text authorization.sessionId ≠ evidence.sessionManifest.sessionId))
    .evidenceSessionMismatch mismatch
  let mismatch := note (decide (¬ManifestEvidenceRelation manifest evidence))
    .evidenceManifestMismatch mismatch
  -- the digest is computed only while nothing was noted
  let mismatch ←
    if mismatch = none then do
      let digestExact ← authorizationDigestIsExact authorization
      pure (note (decide (¬AuthorizationStaticRelation authorization manifest evidence "begin" 0 none)
        || !digestExact) .retentionAuthorizationMismatch mismatch)
    else pure mismatch
  let mismatch := note (decide (DeadlineReached authorization)) .retentionDeadlineReached mismatch
  let mismatch := note (decide (¬AuthorizationIdentities authorization evidence))
    .evidenceIdentityMismatch mismatch
  let mismatch := note (decide (currentEnvironment ≠ manifest.environment))
    .currentEnvironmentMismatch mismatch
  let mismatch := note (decide (¬RetentionRelation authorization manifest evidence))
    .retentionBindingMismatch mismatch
  let mismatch := note (!library.manifestDecodable manifest) .companionScanInvalid mismatch
  pure (note (!library.relationsExact manifest universe_ policy evidence)
    .companionManifestMismatch mismatch)

/-- `begin_expert_replay` -/
def beginExpertReplay (manifest : ExpertSessionManifest) (currentEnvironment : CurrentEnvironment)
    (universe_ : Universe) (policy : Policy) (evidence : EvidenceReplayContext)
    (authorization : RetentionReplayAuthorization) :
    Except ExpertError (ExpertReplayAccumulator State) := do
  let mismatch ←
    beginMismatch library manifest currentEnvironment universe_ policy evidence authorization
  let state ←
    match library.initialExpertState manifest universe_ policy with
    | .ok state => pure state
    | .error _ => library.fallbackInitialState manifest universe_ policy
  let cursor ← library.genesisCursor manifest state
  pure {
    manifest := manifest
    currentEnvironment := currentEnvironment
    evidence := evidence
    state := state
    cursor := cursor
    evidenceRawCount := evidence.replayResult.rawCount
    evidenceDerivedCount := evidence.replayResult.derivedCount
    processedParentCount := 0
    lastAuthorizationSequence := 0
    lastAuthorizationSha256 := authorization.authorizationSha256
    mismatch := mismatch }

end Begin

/-! ## The last step -/

/-- `_terminal_digest_is_exact` -/
def terminalDigestIsExact (terminal : ExpertSessionTerminal) : Bool :=
  decide (computeExpertSessionTerminalSha256 terminal = .ok terminal.terminalSha256)

section Finish

variable {State : Type} (stateCheck : State → Check) (accumulator : ExpertReplayAccumulator State)

/-- `_finish_result` -/
def finishResult (mismatch : Option ExpertReplayMismatch)
    (finalAuthorizationSha256 : Option String) : Except ExpertError (ExpertReplayResult State) := do
  let exact := mismatch.isNone
  let result : ExpertReplayResult State :=
    { state := if exact then some accumulator.state else none
      traceSha256 := if exact then some accumulator.cursor.expertTraceSha256 else none
      evidenceRawCount := accumulator.evidenceRawCount
      evidenceDerivedCount := accumulator.evidenceDerivedCount
      expertGroupCount := accumulator.cursor.groupCount
      expertRecordCount := accumulator.cursor.recordCount
      evidenceExact := accumulator.evidence.replayResult.exactReplay
      companionValid := exact
      terminalsAligned := exact
      exactReplay := exact
      mismatch := mismatch
      finalAuthorizationSha256 := finalAuthorizationSha256
      evaluationInputEligible := exact
      researchEvaluable := false }
  result.postInit stateCheck
  pure result

/-- `_evidence_terminal_reason`: the first clean reason whose text the payload holds. -/
def evidenceTerminalReason : Option ExpertTerminalReason :=
  accumulator.evidence.evidenceTerminal.bind fun terminal =>
    [ExpertTerminalReason.operatorStop, .sessionEnd].find? fun reason =>
      decide (Utf8.ascii (text ("\"reason\":\"" ++ reason.value ++ "\"")) <:+: terminal.payload)

/-- The finding of the final authorization's own checks, in their order. -/
def authorizationFinding (final : RetentionReplayAuthorization) (digestExact : Bool) :
    Option ExpertReplayMismatch :=
  if ¬(final.sessionId = accumulator.manifest.sessionId ∧
      AuthorizationStaticRelation final accumulator.manifest accumulator.evidence "finish"
        (accumulator.lastAuthorizationSequence + 1) none) ∨ digestExact = false then
    some .retentionAuthorizationMismatch
  else if DeadlineReached final then some .retentionDeadlineReached
  else if ¬AuthorizationIdentities final accumulator.evidence then some .evidenceIdentityMismatch
  else if accumulator.currentEnvironment ≠ accumulator.manifest.environment then
    some .currentEnvironmentMismatch
  else if ¬RetentionRelation final accumulator.manifest accumulator.evidence then
    some .retentionBindingMismatch
  else none

/-- The scan was refused, or stopped at a frame it could not read. -/
def ScanInvalid (scan : ExpertJournalScanSummary) : Prop :=
  ¬Accepts scan.postInit ∨ scan.issue ∉ [none, some .missingTerminal, some .haltedTerminal]

instance (scan : ExpertJournalScanSummary) : Decidable (ScanInvalid scan) :=
  inferInstanceAs (Decidable (_ ∨ _))

def TerminalReasonMismatch (terminal : ExpertSessionTerminal) (scan : ExpertJournalScanSummary) :
    Prop :=
  terminal.schemaVersion ≠ 1 ∨ scan.terminalClean = false ∨
    terminal.evidenceTerminalClean ≠ accumulator.evidence.replayResult.terminalClean ∨
    some terminal.evidenceTerminalReason ≠
      (evidenceTerminalReason accumulator).map ExpertTerminalReason.value ∨
    terminal.clean ≠ accumulator.evidence.replayResult.terminalClean ∨
    some terminal.reason ≠ evidenceTerminalReason accumulator ∨ terminal.researchEvaluable ≠ false

instance (terminal : ExpertSessionTerminal) (scan : ExpertJournalScanSummary) :
    Decidable (TerminalReasonMismatch accumulator terminal scan) :=
  inferInstanceAs (Decidable (_ ∨ _))

def TerminalCountMismatch (terminal : ExpertSessionTerminal) (scan : ExpertJournalScanSummary) :
    Prop :=
  accumulator.evidence.evidenceTerminal.map (fun event => (event.ingestSeq : Int)) ≠
      some terminal.evidenceTerminalIngestSeq ∨
    terminal.evidenceRawCount ≠ accumulator.evidenceRawCount ∨
    terminal.evidenceDerivedCount ≠ accumulator.evidenceDerivedCount ∨
    terminal.expertGroupCount ≠ accumulator.cursor.groupCount ∨
    terminal.expertRecordCount ≠ accumulator.cursor.recordCount ∨
    terminal.lastParentIngestSeq ≠ accumulator.cursor.lastParentIngestSeq ∨
    terminal.finalExpertSeq ≠ accumulator.cursor.expertSeq ∨
    scan.groupCount ≠ accumulator.cursor.groupCount ∨
    scan.recordCount ≠ accumulator.cursor.recordCount ∨
    scan.lastFrameSequence ≠ scan.groupCount + 1

instance (terminal : ExpertSessionTerminal) (scan : ExpertJournalScanSummary) :
    Decidable (TerminalCountMismatch accumulator terminal scan) :=
  inferInstanceAs (Decidable (_ ∨ _))

def TerminalProvenanceMismatch (terminal : ExpertSessionTerminal) : Prop :=
  terminal.sessionId ≠ accumulator.manifest.sessionId ∨
    terminal.expertManifestSha256 ≠ accumulator.manifest.manifestSha256 ∨
    terminal.providerRequestBindingSha256 ≠ accumulator.manifest.providerRequestBindingSha256 ∨
    terminal.matchBindingUniverseSha256 ≠ accumulator.manifest.matchBindingUniverseSha256 ∨
    terminal.retentionBindingSha256 ≠ accumulator.manifest.retention.retentionBindingSha256 ∨
    some terminal.evidenceTerminalRecordSha256 ≠ accumulator.evidence.evidenceTerminalRecordSha256

instance (terminal : ExpertSessionTerminal) :
    Decidable (TerminalProvenanceMismatch accumulator terminal) :=
  inferInstanceAs (Decidable (_ ∨ _))

def TerminalStateMismatch (terminal : ExpertSessionTerminal) : Prop :=
  terminal.lastParentRecordSha256 ≠ accumulator.cursor.lastParentRecordSha256 ∨
    terminal.finalExpertRecordSha256 ≠ accumulator.cursor.expertRecordSha256 ∨
    terminal.finalExpertStateSha256 ≠ accumulator.cursor.expertStateSha256

instance (terminal : ExpertSessionTerminal) :
    Decidable (TerminalStateMismatch accumulator terminal) :=
  inferInstanceAs (Decidable (_ ∨ _))

/-- The finding of the terminal's checks, in their order. -/
def terminalFinding (terminal : ExpertSessionTerminal) (scan : ExpertJournalScanSummary) :
    Option ExpertReplayMismatch :=
  if TerminalReasonMismatch accumulator terminal scan then some .terminalReasonMismatch
  else if TerminalCountMismatch accumulator terminal scan then some .terminalCountMismatch
  else if TerminalProvenanceMismatch accumulator terminal then some .terminalProvenanceMismatch
  else if TerminalStateMismatch accumulator terminal then some .terminalStateMismatch
  else if terminal.finalExpertTraceSha256 ≠ accumulator.cursor.expertTraceSha256 ∨
      terminalDigestIsExact terminal = false then some .terminalTraceMismatch
  else none

/-- `finish_expert_replay` -/
def finishExpertReplay (final : RetentionReplayAuthorization)
    (companionTerminal : Option ExpertSessionTerminal) (scan : ExpertJournalScanSummary) :
    Except ExpertError (ExpertReplayResult State) :=
  -- later authorization sampling cannot rewrite evidence and manifest findings
  if inBand accumulator.mismatch 0 5 = true then
    finishResult stateCheck accumulator accumulator.mismatch (some final.authorizationSha256)
  else do
    let digestExact ← authorizationDigestIsExact final
    match authorizationFinding accumulator final digestExact with
    | some finding => finishResult stateCheck accumulator (some finding) none
    | none =>
      let answer (mismatch : Option ExpertReplayMismatch) :=
        finishResult stateCheck accumulator mismatch (some final.authorizationSha256)
      if inBand accumulator.mismatch 0 10 = true then answer accumulator.mismatch
      else if ScanInvalid scan then answer (some .companionScanInvalid)
      else if inBand accumulator.mismatch 10 13 = true then answer accumulator.mismatch
      else if scan.groupCount < accumulator.evidenceRawCount then answer (some .parentMissing)
      else if accumulator.evidenceRawCount < scan.groupCount then answer (some .parentExtra)
      else if accumulator.mismatch ≠ none then answer accumulator.mismatch
      else
        match companionTerminal with
        | none => answer (some .terminalMissing)
        | some terminal => answer (terminalFinding accumulator terminal scan)

end Finish

end Inci.Replay
