/-
# Replay.Precedence -- what the last step may report

A recorded mismatch is never lost (`finish_keeps`), and the reported one stands no
later in the precedence, with two exceptions (`finish_precedence`).  Only evidence
and manifest findings are out of reach of the final authorization: its own first
finding is reported over a recorded authorization finding, an earlier one included.
And a recorded missing parent gives way to a scan with more groups than evidence.

An exact result needs everything at once (`finish_exact`): no recorded mismatch, an
exact and unexpired authorization, a scan with the cursor's counts, and the one
terminal that the cursor, the manifest and the evidence determine.
-/
import Inci.Journal.WriteRead
import Inci.Replay.Verdict

namespace Inci.Replay

open Inci.Theory
open Inci.Theory.Json (text)
open Inci.Expert (ExpertError IsSha256 integerBound sha256)

set_option autoImplicit false

/-! ## Bands of the precedence -/

theorem inBand_none (first last : Nat) : inBand none first last = false := rfl

theorem inBand_evidence (m : ExpertReplayMismatch) :
    inBand (some m) 0 5 = true ↔ rank m < 5 := by
  cases m <;> decide

theorem inBand_authorization (m : ExpertReplayMismatch) :
    inBand (some m) 0 10 = true ↔ rank m < 10 := by
  cases m <;> decide

theorem inBand_companion (m : ExpertReplayMismatch) :
    inBand (some m) 10 13 = true ↔ 10 ≤ rank m ∧ rank m < 13 := by
  cases m <;> decide

/-- The precedence lists every verdict once. -/
theorem rank_injective {m n : ExpertReplayMismatch} (same : rank m = rank n) : m = n := by
  have listed : ∀ k : ExpertReplayMismatch, mismatchPrecedence[rank k]? = some k := by
    intro k
    cases k <;> rfl
  exact Option.some.inj ((listed m).symm.trans (same ▸ listed n))

/-! ## The first step notes the first finding -/

theorem note_some (failed : Bool) (finding m : ExpertReplayMismatch) :
    note failed finding (some m) = some m :=
  if_neg fun both => nomatch both.1

/-- The finding of the first check that failed. -/
def firstFinding (checks : List (Bool × ExpertReplayMismatch)) : Option ExpertReplayMismatch :=
  (checks.find? Prod.fst).map Prod.snd

/-- Notes in a row keep the first finding. -/
theorem notes_first (checks : List (Bool × ExpertReplayMismatch))
    (mismatch : Option ExpertReplayMismatch) :
    checks.foldl (fun m check => note check.1 check.2 m) mismatch =
      mismatch.or (firstFinding checks) := by
  induction checks generalizing mismatch with
  | nil => cases mismatch <;> rfl
  | cons check rest ih =>
      obtain ⟨failed, finding⟩ := check
      rw [List.foldl_cons, ih]
      cases mismatch with
      | some m => rw [note_some, Option.some_or, Option.some_or]
      | none => cases failed <;> rfl

section Begin

variable {State Universe Policy : Type} {library : BeginLibrary State Universe Policy}
  {manifest : ExpertSessionManifest} {currentEnvironment : CurrentEnvironment}
  {universe_ : Universe} {policy : Policy} {evidence : EvidenceReplayContext}
  {authorization : RetentionReplayAuthorization}

/-- The checks before the authorization's digest. -/
def evidenceChecks (library : BeginLibrary State Universe Policy) (manifest : ExpertSessionManifest)
    (evidence : EvidenceReplayContext) (authorization : RetentionReplayAuthorization) :
    List (Bool × ExpertReplayMismatch) :=
  [(decide (¬Accepts (library.validateEvidence evidence)), .evidenceContextMismatch),
    (evidence.replayResult.replayMismatch.isSome &&
      !terminalIsSoleNonexactness evidence.replayResult, .evidenceReplayNotExact),
    (!evidence.replayResult.exactReplay, .evidenceTerminalNotClean),
    (decide (text manifest.sessionId ≠ evidence.sessionManifest.sessionId ∨
      text authorization.sessionId ≠ evidence.sessionManifest.sessionId), .evidenceSessionMismatch),
    (decide (¬ManifestEvidenceRelation manifest evidence), .evidenceManifestMismatch)]

/-- The checks from the authorization's digest on. -/
def laterChecks (library : BeginLibrary State Universe Policy) (manifest : ExpertSessionManifest)
    (currentEnvironment : CurrentEnvironment) (universe_ : Universe) (policy : Policy)
    (evidence : EvidenceReplayContext) (authorization : RetentionReplayAuthorization)
    (digestExact : Bool) : List (Bool × ExpertReplayMismatch) :=
  [(decide (¬AuthorizationStaticRelation authorization manifest evidence "begin" 0 none) ||
      !digestExact, .retentionAuthorizationMismatch),
    (decide (DeadlineReached authorization), .retentionDeadlineReached),
    (decide (¬AuthorizationIdentities authorization evidence), .evidenceIdentityMismatch),
    (decide (currentEnvironment ≠ manifest.environment), .currentEnvironmentMismatch),
    (decide (¬RetentionRelation authorization manifest evidence), .retentionBindingMismatch),
    (!library.manifestDecodable manifest, .companionScanInvalid),
    (!library.relationsExact manifest universe_ policy evidence, .companionManifestMismatch)]

/-- The first step's checks follow the precedence. -/
theorem beginChecks_order (digestExact : Bool) :
    (evidenceChecks library manifest evidence authorization ++ laterChecks library manifest
      currentEnvironment universe_ policy evidence authorization digestExact).map Prod.snd =
        mismatchPrecedence.take 12 := rfl

/-- The first step notes the first finding in the precedence. -/
theorem begin_first {mismatch : Option ExpertReplayMismatch}
    (noted : beginMismatch library manifest currentEnvironment universe_ policy evidence
      authorization = .ok mismatch) :
    mismatch = firstFinding (evidenceChecks library manifest evidence authorization) ∧
        mismatch ≠ none ∨
      firstFinding (evidenceChecks library manifest evidence authorization) = none ∧
        ∃ digestExact, authorizationDigestIsExact authorization = .ok digestExact ∧
          mismatch = firstFinding (laterChecks library manifest currentEnvironment universe_ policy
            evidence authorization digestExact) := by
  let notes (checks : List (Bool × ExpertReplayMismatch)) (mismatch : Option ExpertReplayMismatch) :=
    checks.foldl (fun m check => note check.1 check.2 m) mismatch
  let seen := notes (evidenceChecks library manifest evidence authorization) none
  let later := laterChecks library manifest currentEnvironment universe_ policy evidence authorization
  have noted : (if seen = none then do
        let digestExact ← authorizationDigestIsExact authorization
        pure (notes (later digestExact) seen)
      else pure (notes (later true).tail seen)) = .ok mismatch := noted
  have first : seen = firstFinding (evidenceChecks library manifest evidence authorization) :=
    (notes_first _ none).trans Option.none_or
  rw [first] at noted
  cases found : firstFinding (evidenceChecks library manifest evidence authorization) with
  | some m =>
      rw [found, if_neg (Option.some_ne_none m)] at noted
      obtain rfl := Except.ok.inj noted
      have kept : notes (later true).tail (some m) = some m := notes_first _ (some m)
      exact .inl ⟨kept, kept ▸ Option.some_ne_none m⟩
  | none =>
      rw [found, if_pos rfl] at noted
      obtain ⟨digestExact, computed, same⟩ := bind_eq_ok.mp noted
      obtain rfl := Except.ok.inj same
      exact .inr ⟨rfl, digestExact, computed, (notes_first _ none).trans Option.none_or⟩

end Begin

section Finish

variable {State : Type} {stateCheck : State → Check} {accumulator : ExpertReplayAccumulator State}
  {final : RetentionReplayAuthorization} {companionTerminal : Option ExpertSessionTerminal}
  {scan : ExpertJournalScanSummary} {result : ExpertReplayResult State}

/-! ## One result for each verdict -/

theorem finishResult_spec {mismatch : Option ExpertReplayMismatch} {digest : Option String}
    (returned : finishResult stateCheck accumulator mismatch digest = .ok result) :
    result.mismatch = mismatch ∧ result.exactReplay = mismatch.isNone := by
  obtain ⟨-, -, same⟩ := bind_eq_ok.mp returned
  cases same
  exact ⟨rfl, rfl⟩

/-- The verdict behind a final authorization without a finding. -/
def companionVerdict (accumulator : ExpertReplayAccumulator State)
    (companionTerminal : Option ExpertSessionTerminal) (scan : ExpertJournalScanSummary) :
    Option ExpertReplayMismatch :=
  if inBand accumulator.mismatch 0 10 = true then accumulator.mismatch
  else if ScanInvalid scan then some .companionScanInvalid
  else if inBand accumulator.mismatch 10 13 = true then accumulator.mismatch
  else if scan.groupCount < accumulator.evidenceRawCount then some .parentMissing
  else if accumulator.evidenceRawCount < scan.groupCount then some .parentExtra
  else if accumulator.mismatch ≠ none then accumulator.mismatch
  else
    match companionTerminal with
    | none => some .terminalMissing
    | some terminal => terminalFinding accumulator terminal scan

/-- Where a result's verdict comes from: the accumulator's evidence findings, the
final authorization, or what is behind it. -/
theorem finish_cases
    (returned : finishExpertReplay stateCheck accumulator final companionTerminal scan = .ok result) :
    result.exactReplay = result.mismatch.isNone ∧
      ((inBand accumulator.mismatch 0 5 = true ∧ result.mismatch = accumulator.mismatch) ∨
        (inBand accumulator.mismatch 0 5 = false ∧
          ∃ digestExact, authorizationDigestIsExact final = .ok digestExact ∧
            ((∃ finding, authorizationFinding accumulator final digestExact = some finding ∧
                result.mismatch = some finding) ∨
              (authorizationFinding accumulator final digestExact = none ∧
                result.mismatch = companionVerdict accumulator companionTerminal scan)))) := by
  unfold finishExpertReplay at returned
  by_cases evidence : inBand accumulator.mismatch 0 5 = true
  · rw [if_pos evidence] at returned
    obtain ⟨reported, exact⟩ := finishResult_spec returned
    exact ⟨by rw [exact, reported], .inl ⟨evidence, reported⟩⟩
  rw [if_neg evidence] at returned
  obtain ⟨digestExact, computed, returned⟩ := bind_eq_ok.mp returned
  cases found : authorizationFinding accumulator final digestExact with
  | some finding =>
      rw [found] at returned
      obtain ⟨reported, exact⟩ := finishResult_spec returned
      exact ⟨by rw [exact, reported], .inr ⟨Bool.eq_false_iff.mpr evidence, digestExact, computed,
        .inl ⟨finding, found, reported⟩⟩⟩
  | none =>
      rw [found] at returned
      have answered : finishResult stateCheck accumulator
          (companionVerdict accumulator companionTerminal scan) (some final.authorizationSha256) =
            .ok result := by
        rw [← returned]
        unfold companionVerdict
        simp only [apply_ite (finishResult stateCheck accumulator · (some final.authorizationSha256))]
        cases companionTerminal <;> rfl
      obtain ⟨reported, exact⟩ := finishResult_spec answered
      exact ⟨by rw [exact, reported], .inr ⟨Bool.eq_false_iff.mpr evidence, digestExact, computed,
        .inr ⟨found, reported⟩⟩⟩

/-! ## No finding is lost -/

theorem companionVerdict_isSome (recorded : accumulator.mismatch ≠ none) :
    (companionVerdict accumulator companionTerminal scan).isSome = true := by
  have kept : accumulator.mismatch.isSome = true := Option.isSome_iff_ne_none.mpr recorded
  unfold companionVerdict
  split
  · exact kept
  split
  · rfl
  split
  · exact kept
  split
  · rfl
  split
  · rfl
  exact kept

/-- A recorded mismatch leaves a mismatch in the result. -/
theorem finish_keeps
    (returned : finishExpertReplay stateCheck accumulator final companionTerminal scan = .ok result)
    (recorded : accumulator.mismatch ≠ none) : result.mismatch ≠ none := by
  obtain ⟨-, ⟨-, reported⟩ | ⟨-, digestExact, -, ⟨finding, -, reported⟩ | ⟨-, reported⟩⟩⟩ :=
    finish_cases returned
  · rw [reported]
    exact recorded
  · rw [reported]
    exact Option.some_ne_none finding
  · rw [reported]
    exact Option.isSome_iff_ne_none.mp (companionVerdict_isSome recorded)

/-! ## The reported verdict -/

theorem authorizationFinding_rank {digestExact : Bool} {finding : ExpertReplayMismatch}
    (found : authorizationFinding accumulator final digestExact = some finding) :
    5 ≤ rank finding ∧ rank finding < 10 := by
  unfold authorizationFinding at found
  iterate 5
    split at found
    · cases found
      decide
  exact nomatch found

/-- Behind an exact authorization only a missing parent gives way. -/
theorem companionVerdict_rank {recorded reported : ExpertReplayMismatch}
    (held : accumulator.mismatch = some recorded)
    (verdict : companionVerdict accumulator companionTerminal scan = some reported) :
    rank reported ≤ rank recorded ∨ (recorded = .parentMissing ∧ reported = .parentExtra ∧
      accumulator.evidenceRawCount < scan.groupCount) := by
  unfold companionVerdict at verdict
  rw [held] at verdict
  by_cases authorization : inBand (some recorded) 0 10 = true
  · rw [if_pos authorization] at verdict
    cases verdict
    exact .inl le_rfl
  rw [if_neg authorization] at verdict
  rw [inBand_authorization, not_lt] at authorization
  split at verdict
  · cases verdict
    exact .inl authorization
  by_cases companion : inBand (some recorded) 10 13 = true
  · rw [if_pos companion] at verdict
    cases verdict
    exact .inl le_rfl
  rw [if_neg companion] at verdict
  rw [inBand_companion] at companion
  have parents : 13 ≤ rank recorded := by omega
  split at verdict
  · cases verdict
    exact .inl parents
  split at verdict
  · rename_i extra
    cases verdict
    by_cases missing : rank recorded = 13
    · exact .inr ⟨rank_injective missing, rfl, extra⟩
    · have later : rank .parentExtra ≤ rank recorded := by
        have place : rank .parentExtra = 14 := by decide
        omega
      exact .inl later
  · rw [if_pos (Option.some_ne_none recorded)] at verdict
    cases verdict
    exact .inl le_rfl

/-- The authorization findings that a later one of the final authorization replaces. -/
def Resampled (recorded reported : ExpertReplayMismatch) : Prop :=
  recorded ∈ [.retentionAuthorizationMismatch, .retentionDeadlineReached,
      .evidenceIdentityMismatch, .currentEnvironmentMismatch] ∧
    reported ∈ [.retentionDeadlineReached, .evidenceIdentityMismatch, .currentEnvironmentMismatch,
      .retentionBindingMismatch]

theorem resampled_of_rank {recorded reported : ExpertReplayMismatch} (first : 5 ≤ rank recorded)
    (later : rank recorded < rank reported) (last : rank reported < 10) :
    Resampled recorded reported := by
  have low : ∀ m : ExpertReplayMismatch, 5 ≤ rank m → rank m < 9 →
      m ∈ [ExpertReplayMismatch.retentionAuthorizationMismatch, .retentionDeadlineReached,
        .evidenceIdentityMismatch, .currentEnvironmentMismatch] := by
    intro m
    cases m <;> decide
  have high : ∀ m : ExpertReplayMismatch, 5 < rank m → rank m < 10 →
      m ∈ [ExpertReplayMismatch.retentionDeadlineReached, .evidenceIdentityMismatch,
        .currentEnvironmentMismatch, .retentionBindingMismatch] := by
    intro m
    cases m <;> decide
  exact ⟨low recorded first (by omega), high reported (by omega) last⟩

/-- The reported mismatch is no later than the recorded one, but for a fresh finding
of the final authorization and for a scan with more groups than evidence. -/
theorem finish_precedence {recorded reported : ExpertReplayMismatch}
    (returned : finishExpertReplay stateCheck accumulator final companionTerminal scan = .ok result)
    (held : accumulator.mismatch = some recorded) (told : result.mismatch = some reported) :
    rank reported ≤ rank recorded ∨
      (Resampled recorded reported ∧ ∃ digestExact, authorizationDigestIsExact final = .ok digestExact ∧
        authorizationFinding accumulator final digestExact = some reported) ∨
      (recorded = .parentMissing ∧ reported = .parentExtra ∧
        accumulator.evidenceRawCount < scan.groupCount) := by
  obtain ⟨-, ⟨-, same⟩ | ⟨evidence, digestExact, computed, ⟨finding, found, same⟩ | ⟨-, same⟩⟩⟩ :=
    finish_cases returned
  · rw [same, held] at told
    cases told
    exact .inl le_rfl
  · rw [same] at told
    cases told
    obtain ⟨-, last⟩ := authorizationFinding_rank found
    by_cases order : rank reported ≤ rank recorded
    · exact .inl order
    · rw [held, ← Bool.not_eq_true, inBand_evidence, not_lt] at evidence
      exact .inr (.inl ⟨resampled_of_rank evidence (not_le.mp order) last, digestExact, computed,
        found⟩)
  · rw [same] at told
    exact (companionVerdict_rank held told).imp_right .inr

/-! ## An exact result -/

/-- The final authorization has no finding. -/
structure AuthorizationExact (accumulator : ExpertReplayAccumulator State)
    (final : RetentionReplayAuthorization) : Prop where
  session : final.sessionId = accumulator.manifest.sessionId
  static : AuthorizationStaticRelation final accumulator.manifest accumulator.evidence "finish"
    (accumulator.lastAuthorizationSequence + 1) none
  digest : computeRetentionReplayAuthorizationSha256 final = .ok final.authorizationSha256
  unexpired : final.finalSampledWallNs < final.commonDeadlineNs
  identities : AuthorizationIdentities final accumulator.evidence
  environment : accumulator.currentEnvironment = accumulator.manifest.environment
  retention : RetentionRelation final accumulator.manifest accumulator.evidence

theorem authorizationFinding_none {digestExact : Bool}
    (computed : authorizationDigestIsExact final = .ok digestExact)
    (clean : authorizationFinding accumulator final digestExact = none) :
    AuthorizationExact accumulator final := by
  unfold authorizationFinding at clean
  split at clean
  · exact nomatch clean
  rename_i exact_
  split at clean
  · exact nomatch clean
  rename_i early
  split at clean
  · exact nomatch clean
  rename_i identities
  split at clean
  · exact nomatch clean
  rename_i environment
  split at clean
  · exact nomatch clean
  rename_i retention
  rw [not_or, Decidable.not_not, Bool.not_eq_false] at exact_
  obtain ⟨⟨session, static⟩, rfl⟩ := exact_
  obtain ⟨digest, written, same⟩ := bind_eq_ok.mp computed
  have equal : final.authorizationSha256 = digest := beq_iff_eq.mp (Except.ok.inj same)
  exact ⟨session, static, equal ▸ written, not_le.mp early, Decidable.not_not.mp identities,
    Decidable.not_not.mp environment, Decidable.not_not.mp retention⟩

/-- The terminal that the cursor, the manifest and the evidence determine, with a digest. -/
def expectedTerminal (accumulator : ExpertReplayAccumulator State) (digest : String) :
    Option ExpertSessionTerminal := do
  let event ← accumulator.evidence.evidenceTerminal
  let record ← accumulator.evidence.evidenceTerminalRecordSha256
  let reason ← evidenceTerminalReason accumulator
  some {
    schemaVersion := 1
    sessionId := accumulator.manifest.sessionId
    expertManifestSha256 := accumulator.manifest.manifestSha256
    providerRequestBindingSha256 := accumulator.manifest.providerRequestBindingSha256
    matchBindingUniverseSha256 := accumulator.manifest.matchBindingUniverseSha256
    retentionBindingSha256 := accumulator.manifest.retention.retentionBindingSha256
    evidenceTerminalIngestSeq := event.ingestSeq
    evidenceTerminalRecordSha256 := record
    evidenceTerminalClean := accumulator.evidence.replayResult.terminalClean
    evidenceTerminalReason := reason.value
    evidenceRawCount := accumulator.evidenceRawCount
    evidenceDerivedCount := accumulator.evidenceDerivedCount
    expertGroupCount := accumulator.cursor.groupCount
    expertRecordCount := accumulator.cursor.recordCount
    lastParentIngestSeq := accumulator.cursor.lastParentIngestSeq
    lastParentRecordSha256 := accumulator.cursor.lastParentRecordSha256
    finalExpertSeq := accumulator.cursor.expertSeq
    finalExpertRecordSha256 := accumulator.cursor.expertRecordSha256
    finalExpertStateSha256 := accumulator.cursor.expertStateSha256
    finalExpertTraceSha256 := accumulator.cursor.expertTraceSha256
    clean := accumulator.evidence.replayResult.terminalClean
    reason := reason
    researchEvaluable := false
    terminalSha256 := digest }

/-- A terminal without a finding is the expected one, and the scan has the cursor's counts. -/
theorem terminalFinding_none {terminal : ExpertSessionTerminal}
    (clean : terminalFinding accumulator terminal scan = none) :
    expectedTerminal accumulator terminal.terminalSha256 = some terminal ∧
      computeExpertSessionTerminalSha256 terminal = .ok terminal.terminalSha256 ∧
      scan.terminalClean = true ∧ scan.groupCount = accumulator.cursor.groupCount ∧
      scan.recordCount = accumulator.cursor.recordCount := by
  unfold terminalFinding at clean
  split at clean
  · exact nomatch clean
  rename_i reason
  split at clean
  · exact nomatch clean
  rename_i counts
  split at clean
  · exact nomatch clean
  rename_i provenance
  split at clean
  · exact nomatch clean
  rename_i state
  split at clean
  · exact nomatch clean
  rename_i trace
  simp only [TerminalReasonMismatch, TerminalCountMismatch, TerminalProvenanceMismatch,
    TerminalStateMismatch, not_or, not_not, Bool.not_eq_false] at reason counts provenance state trace
  obtain ⟨schema, scanClean, evidenceClean, told, cleanly, named, unevaluable⟩ := reason
  obtain ⟨ingest, raw, derived, groups, records, parent, seq, scanGroups, scanRecords, -⟩ := counts
  obtain ⟨session, manifest, provider, match_, retention, record⟩ := provenance
  obtain ⟨parentRecord, lastRecord, lastState⟩ := state
  obtain ⟨lastTrace, digest⟩ := trace
  obtain ⟨event, present, position⟩ := Option.map_eq_some_iff.mp ingest
  refine ⟨?_, of_decide_eq_true digest, scanClean, scanGroups, scanRecords⟩
  rw [← named, Option.map_some, Option.some.injEq] at told
  rw [expectedTerminal, present, ← record, ← named]
  simp only [Option.bind_eq_bind, Option.bind_some, position, ← told, ← evidenceClean, ← raw,
    ← derived, ← groups, ← records, ← parent, ← seq, ← session, ← manifest, ← provider, ← match_,
    ← retention, ← parentRecord, ← lastRecord, ← lastState, ← lastTrace]
  rw [← Bool.eq_false_iff.mpr unevaluable, ← schema]
  have same : terminal.clean = terminal.evidenceTerminalClean := cleanly.trans evidenceClean.symm
  clear * - same
  cases terminal
  cases same
  rfl

/-- What stands behind an exact result. -/
structure ExactReplay (accumulator : ExpertReplayAccumulator State)
    (final : RetentionReplayAuthorization) (companionTerminal : Option ExpertSessionTerminal)
    (scan : ExpertJournalScanSummary) : Prop where
  unmatched : accumulator.mismatch = none
  authorization : AuthorizationExact accumulator final
  scanValid : ¬ScanInvalid scan
  groups : scan.groupCount = accumulator.cursor.groupCount
  evidence : scan.groupCount = accumulator.evidenceRawCount
  records : scan.recordCount = accumulator.cursor.recordCount
  terminal : ∃ terminal, companionTerminal = some terminal ∧
    expectedTerminal accumulator terminal.terminalSha256 = some terminal ∧
    computeExpertSessionTerminalSha256 terminal = .ok terminal.terminalSha256

theorem companionVerdict_none
    (clean : companionVerdict accumulator companionTerminal scan = none) :
    accumulator.mismatch = none ∧ ¬ScanInvalid scan ∧
      scan.groupCount = accumulator.evidenceRawCount ∧
      ∃ terminal, companionTerminal = some terminal ∧
        terminalFinding accumulator terminal scan = none := by
  have unmatched : accumulator.mismatch = none := by
    by_contra recorded
    have some_ : (companionVerdict accumulator companionTerminal scan).isSome = true :=
      companionVerdict_isSome recorded
    rw [clean] at some_
    exact Bool.false_ne_true some_
  unfold companionVerdict at clean
  rw [unmatched] at clean
  simp only [inBand_none, Bool.false_eq_true, if_false, ne_eq, not_true_eq_false] at clean
  split at clean
  · exact nomatch clean
  rename_i valid
  split at clean
  · exact nomatch clean
  rename_i few
  split at clean
  · exact nomatch clean
  rename_i many
  cases companionTerminal with
  | none => exact nomatch clean
  | some terminal => exact ⟨unmatched, valid, by omega, terminal, rfl, clean⟩

theorem finish_exact
    (returned : finishExpertReplay stateCheck accumulator final companionTerminal scan = .ok result)
    (exact_ : result.exactReplay = true) :
    ExactReplay accumulator final companionTerminal scan := by
  obtain ⟨shape, origin⟩ := finish_cases returned
  have clean : result.mismatch = none := by
    rw [exact_] at shape
    exact Option.isNone_iff_eq_none.mp shape.symm
  rcases origin with ⟨evidence, same⟩ | ⟨-, digestExact, computed, ⟨finding, -, same⟩ | ⟨found, same⟩⟩
  · rw [← same, clean] at evidence
    exact nomatch evidence
  · exact nomatch clean.symm.trans same
  · obtain ⟨unmatched, valid, groups, terminal, present, fine⟩ :=
      companionVerdict_none (same.symm.trans clean)
    obtain ⟨expected, digest, -, scanGroups, scanRecords⟩ := terminalFinding_none fine
    exact ⟨unmatched, authorizationFinding_none computed found, valid, scanGroups, groups,
      scanRecords, terminal, present, expected, digest⟩

/-- The verdict of the last step: no recorded mismatch is lost, what is reported stands
no later but for the two exceptions, and an exact result needs everything. -/
theorem finish_verdict
    (returned : finishExpertReplay stateCheck accumulator final companionTerminal scan = .ok result) :
    (accumulator.mismatch ≠ none → result.mismatch ≠ none) ∧
    (∀ recorded reported, accumulator.mismatch = some recorded → result.mismatch = some reported →
      rank reported ≤ rank recorded ∨
        (Resampled recorded reported ∧
          ∃ digestExact, authorizationDigestIsExact final = .ok digestExact ∧
            authorizationFinding accumulator final digestExact = some reported) ∨
        (recorded = .parentMissing ∧ reported = .parentExtra ∧
          accumulator.evidenceRawCount < scan.groupCount)) ∧
    (result.exactReplay = true → ExactReplay accumulator final companionTerminal scan) :=
  ⟨finish_keeps returned, fun _ _ held told => finish_precedence returned held told,
    finish_exact returned⟩

end Finish

/-! ## A session that is replayed exactly, and one whose deadline passes -/

def blank : String := "0000000000000000000000000000000000000000000000000000000000000000"

def sampleIdentity (role : String) (marker header : Option String) (digest : String) :
    PhysicalFileIdentity :=
  ⟨1, role, 1, 2, 3, 4, 1, 5, 6, 7, marker, header, blank, digest⟩

theorem blank_isSha256 : IsSha256 blank := by decide

theorem integer_small {n : Int} (name : String) (least : 0 ≤ n) (small : n < 1000) :
    integer n name = .ok () := by
  have bound : 1000 < integerBound := by
    unfold integerBound
    norm_num
  rw [integer, refuse_ok _ (by omega), ok_bind, refuse_ok _ (by omega)]

theorem encodes_small {n : Int} (least : 0 ≤ n) (small : n < 1000) : Expert.Encodes (.int n) := by
  have bound : 1000 < integerBound := by
    unfold integerBound
    norm_num
  show n.natAbs < integerBound
  omega

/-- An identity with its own digest. -/
theorem sampleIdentity_valid {role : String} {marker header : Option String}
    (shape : (role, marker, header) ∈ [("phase1_marker", some blank, none),
      ("phase1_wal", none, some blank), ("expert_marker", some blank, none),
      ("expert_journal", none, some blank)]) :
    ∃ digest, (sampleIdentity role marker header digest).validate = .ok () := by
  have encodes : Expert.Encodes (.tuple ((sampleIdentity role marker header "").fields.map Prod.snd)) := by
    simp [PhysicalFileIdentity.fields, sampleIdentity, Expert.Encodes, Expert.EncodesAll,
      integerBound]
  obtain ⟨digest, computed⟩ :=
    (Expert.domainSha256_total "INCI-EXPERT-PHYSICAL-FILE-IDENTITY-V1" _).mpr encodes
  have shaped := Expert.domainSha256_isSha256 computed
  refine ⟨digest, ?_⟩
  have small : ∀ {n : Int} {name : String}, 0 ≤ n → n < 1000 → integer n name = .ok () :=
    fun least below => integer_small _ least below
  have schema : schemaVersion 1 = .ok () := by decide
  simp only [List.mem_cons, Prod.mk.injEq, List.not_mem_nil, or_false] at shape
  simp only [PhysicalFileIdentity.validate, sampleIdentity, bind_eq_ok, exists_unit]
  rcases shape with ⟨rfl, rfl, rfl⟩ | ⟨rfl, rfl, rfl⟩ | ⟨rfl, rfl, rfl⟩ | ⟨rfl, rfl, rfl⟩
  all_goals
    exact ⟨schema, refuse_ok _ (by decide), small (by decide) (by decide), small (by decide) (by decide),
      small (by decide) (by decide), small (by decide) (by decide), small (by decide) (by decide),
      small (by decide) (by decide), small (by decide) (by decide), small (by decide) (by decide),
      refuse_ok _ (by decide), by decide, by decide, refuse_ok _ (by decide),
      refuse_ok _ (by decide), (Expert.sha256_eq_ok _ _ _).mpr blank_isSha256,
      (Expert.sha256_eq_ok _ _ _).mpr shaped, digest, computed, refuse_ok _ (not_not.mpr rfl)⟩

def samplePhase1 : Journal.SessionManifest :=
  { Journal.sampleManifest with
    permissionArtifactSha256 := text blank
    qualificationArtifactSha256 := text blank
    qualificationTraceSha256 := text blank }

def sampleEnvironment : CurrentEnvironment :=
  ⟨1, blank, blank, blank, blank, blank, blank, blank, blank, blank, blank, blank⟩

def sampleRetention : RetentionBinding :=
  ⟨"session", blank, blank, blank, blank, blank, 30, 40, 50, blank⟩

def sampleExpertManifest : ExpertSessionManifest :=
  ⟨"session", blank, blank, "provider", "tier", "lineage", blank, blank, blank, blank, blank, blank,
    blank, sampleEnvironment, sampleRetention, blank, blank⟩

/-- The clean end of the phase-1 session. -/
def sampleEnd : Journal.PersistedEvent :=
  { Journal.sampleCapture.rawRecord 2 with
    payload := Utf8.ascii (text "\x7b\"reason\":\"operator_stop\"\x7d") }

def sampleEvidence (marker wal : PhysicalFileIdentity) : EvidenceReplayContext where
  sessionManifest := samplePhase1
  sessionManifestSha256 := blank
  sessionStartRecordSha256 := blank
  replayResult := ⟨0, 0, true, true, true, none, none⟩
  evidenceTerminal := some sampleEnd
  evidenceTerminalRecordSha256 := some blank
  evidenceMarkerIdentity := marker
  evidenceWalIdentity := wal

/-- The accumulator of a session without parents. -/
def sampleAccumulator (marker wal : PhysicalFileIdentity)
    (mismatch : Option ExpertReplayMismatch) : ExpertReplayAccumulator Unit where
  manifest := sampleExpertManifest
  currentEnvironment := sampleEnvironment
  evidence := sampleEvidence marker wal
  state := ()
  cursor := ⟨0, 0, 0, blank, 0, blank, blank, blank⟩
  evidenceRawCount := 0
  evidenceDerivedCount := 0
  processedParentCount := 0
  lastAuthorizationSequence := 0
  lastAuthorizationSha256 := blank
  mismatch := mismatch

/-- The final authorization of that session, sampled at a time. -/
def sampleAuthorization (marker wal companionMarker journal : PhysicalFileIdentity)
    (sampledWallNs : Int) (digest : String) : RetentionReplayAuthorization :=
  ⟨1, "session", 1, "finish", none, blank, blank, some blank, blank, blank, blank, blank, blank, blank,
    marker, wal, companionMarker, journal, 30, sampledWallNs, digest⟩

def sampleScan : ExpertJournalScanSummary := ⟨1, 10, 10, 1, 0, 0, true, none, true⟩

theorem sampleScan_valid : ¬ScanInvalid sampleScan := by
  have accepted : Accepts sampleScan.postInit := by
    show sampleScan.postInit = .ok ()
    have small : ∀ {n : Int} {name : String}, 0 ≤ n → n < 1000 → integer n name = .ok () :=
      fun least below => integer_small _ least below
    simp only [ExpertJournalScanSummary.postInit, sampleScan, bind_eq_ok, exists_unit]
    exact ⟨by decide, small (by decide) (by decide), small (by decide) (by decide),
      small (by decide) (by decide), small (by decide) (by decide), small (by decide) (by decide),
      refuse_ok _ (by decide)⟩
  exact not_or.mpr ⟨not_not.mpr accepted, not_not.mpr (by decide)⟩

theorem sampleIdentity_encodes {role digest : String} {marker header : Option String} :
    Expert.Encodes (sampleIdentity role marker header digest).py := by
  have bound : 1000 < integerBound := by
    unfold integerBound
    norm_num
  simp only [PhysicalFileIdentity.py, PhysicalFileIdentity.fields, sampleIdentity, Expert.Encodes,
    List.cons_append, List.nil_append, Expert.EncodesFields, Expert.encodes_text,
    Expert.encodes_option, implies_true, true_and, and_true]
  omega

section Sample

variable {marker wal companionMarker journal : PhysicalFileIdentity}

/-- The sample authorization with its own digest. -/
theorem sampleAuthorization_digest {sampledWallNs : Int}
    (encodes : ∀ i ∈ [marker, wal, companionMarker, journal], Expert.Encodes i.py)
    (least : 0 ≤ sampledWallNs) (small : sampledWallNs < 1000) :
    ∃ digest, IsSha256 digest ∧ authorizationDigestIsExact (sampleAuthorization marker wal
      companionMarker journal sampledWallNs digest) = .ok true := by
  simp only [List.forall_mem_cons] at encodes
  obtain ⟨first, second, third, fourth, -⟩ := encodes
  have whole := (Expert.domainSha256_total "INCI-EXPERT-REPLAY-AUTHORIZATION-V1" (.tuple [.int 1,
    .text "session", .int 1, .text "finish", .option .int none, .text blank, .text blank,
    .option .text (some blank), .text blank, .text blank, .text blank, .text blank, .text blank,
    .text blank, marker.py, wal.py, companionMarker.py, journal.py, .int 30,
    .int sampledWallNs])).mpr
  obtain ⟨digest, computed⟩ := whole ⟨encodes_small (by decide) (by decide), trivial,
    encodes_small (by decide) (by decide), trivial, trivial, trivial, trivial, trivial, trivial,
    trivial, trivial, trivial, trivial, trivial, first, second, third, fourth,
    encodes_small (by decide) (by decide), encodes_small least small, trivial⟩
  refine ⟨digest, Expert.domainSha256_isSha256 computed, ?_⟩
  have written : computeRetentionReplayAuthorizationSha256 (sampleAuthorization marker wal
      companionMarker journal sampledWallNs digest) = .ok digest := computed
  rw [authorizationDigestIsExact, written, ok_bind]
  exact congrArg Except.ok (beq_iff_eq.mpr rfl)

theorem sampleAuthorization_static {sampledWallNs : Int} {digest : String}
    {mismatch : Option ExpertReplayMismatch} :
    ¬(¬((sampleAuthorization marker wal companionMarker journal sampledWallNs digest).sessionId =
        (sampleAccumulator marker wal mismatch).manifest.sessionId ∧
      AuthorizationStaticRelation
        (sampleAuthorization marker wal companionMarker journal sampledWallNs digest)
        (sampleAccumulator marker wal mismatch).manifest (sampleAccumulator marker wal mismatch).evidence
        "finish" ((sampleAccumulator marker wal mismatch).lastAuthorizationSequence + 1) none) ∨
      true = false) :=
  not_or.mpr ⟨not_not.mpr ⟨rfl, rfl, rfl, rfl, rfl, rfl, rfl, rfl, rfl, rfl, rfl, rfl, rfl, rfl⟩,
    nofun⟩

/-- The sample session's result is built. -/
theorem sampleResult {recorded mismatch : Option ExpertReplayMismatch} {digest : Option String}
    (shaped : ∀ d, digest = some d → IsSha256 d) (present : mismatch = none → digest.isSome = true) :
    ∃ result, finishResult (fun _ => .ok ()) (sampleAccumulator marker wal recorded) mismatch digest =
      .ok result := by
  refine ⟨_, bind_eq_ok.mpr ⟨(), ?_, rfl⟩⟩
  have zero : ∀ {name : String}, integer 0 name = .ok () :=
    integer_small _ (by decide) (by decide)
  have named : checkSome (sha256 · "final_authorization_sha256") digest = .ok () := by
    cases digest with
    | none => rfl
    | some d => exact (Expert.sha256_eq_ok _ _ _).mpr (shaped d rfl)
  simp only [ExpertReplayResult.postInit, bind_eq_ok, exists_unit]
  refine ⟨?_, ?_, zero, zero, zero, zero, named, refuse_ok _ (by simp),
    refuse_ok _ (show ¬(0 : Int) < 0 by decide), ?_⟩
  · cases mismatch <;> rfl
  · cases mismatch with
    | none => exact (Expert.sha256_eq_ok _ _ _).mpr blank_isSha256
    | some _ => rfl
  · cases mismatch with
    | none => exact refuse_ok _ (by simp [sampleAccumulator, sampleEvidence, present rfl])
    | some _ => exact refuse_ok _ (by simp)

end Sample

/-- A recorded authorization mismatch is reported as a deadline that passed. -/
theorem deadline_replaces : ∃ (accumulator : ExpertReplayAccumulator Unit)
    (final : RetentionReplayAuthorization) (result : ExpertReplayResult Unit),
    finishExpertReplay (fun _ => .ok ()) accumulator final none sampleScan = .ok result ∧
      accumulator.mismatch = some .retentionAuthorizationMismatch ∧
      result.mismatch = some .retentionDeadlineReached ∧
      rank .retentionAuthorizationMismatch < rank .retentionDeadlineReached := by
  let identity := sampleIdentity "phase1_marker" (some blank) none blank
  have encodes : ∀ i ∈ [identity, identity, identity, identity], Expert.Encodes i.py := by
    intro i inside
    simp only [List.mem_cons, List.not_mem_nil, or_false, or_self] at inside
    rw [inside]
    exact sampleIdentity_encodes
  obtain ⟨digest, -, exact_⟩ := sampleAuthorization_digest encodes (by decide : (0 : Int) ≤ 30)
    (by decide)
  let accumulator := sampleAccumulator identity identity (some .retentionAuthorizationMismatch)
  have found : authorizationFinding accumulator
      (sampleAuthorization identity identity identity identity 30 digest) true =
        some .retentionDeadlineReached := by
    rw [authorizationFinding, if_neg sampleAuthorization_static,
      if_pos (show DeadlineReached (sampleAuthorization identity identity identity identity 30 digest)
        from le_rfl)]
  obtain ⟨result, answered⟩ : ∃ result, finishResult (fun _ => .ok ()) accumulator
      (some .retentionDeadlineReached) none = .ok result :=
    sampleResult (fun _ none => nomatch none) fun none => nomatch none
  refine ⟨accumulator, sampleAuthorization identity identity identity identity 30 digest, result, ?_,
    rfl, (finishResult_spec answered).1, by decide⟩
  have later : ¬inBand accumulator.mismatch 0 5 = true := by decide
  rw [finishExpertReplay, if_neg later, exact_, ok_bind, found]
  exact answered

/-- The clean terminal of the sample session. -/
def sampleTerminal (digest : String) : ExpertSessionTerminal :=
  ⟨1, "session", blank, blank, blank, blank, 2, blank, true, "operator_stop", 0, 0, 0, 0, 0, blank, 0,
    blank, blank, blank, true, .operatorStop, false, digest⟩

theorem sampleTerminal_digest : ∃ digest,
    computeExpertSessionTerminalSha256 (sampleTerminal digest) = .ok digest := by
  have whole := (Expert.domainSha256_total "INCI-EXPERT-SESSION-TERMINAL-V1" (.tuple [.int 1,
    .text "session", .text blank, .text blank, .text blank, .text blank, .int 2, .text blank,
    .bool true, .text "operator_stop", .int 0, .int 0, .int 0, .int 0, .int 0, .text blank, .int 0,
    .text blank, .text blank, .text blank, .bool true,
    .enum "ExpertTerminalReasonV1" ExpertTerminalReason.operatorStop.value, .bool false])).mpr
  have zero : Expert.Encodes (.int 0) := encodes_small (by decide) (by decide)
  exact whole ⟨encodes_small (by decide) (by decide), trivial, trivial, trivial, trivial, trivial,
    encodes_small (by decide) (by decide), trivial, trivial, trivial, zero, zero, zero, zero, zero,
    trivial, zero, trivial, trivial, trivial, trivial, trivial, trivial, trivial⟩

section Sample

variable {marker wal companionMarker journal : PhysicalFileIdentity}

/-- The sample authorization, before its deadline. -/
theorem sampleAuthorization_clean {digest : String}
    (valid : ∀ i ∈ [marker, wal, companionMarker, journal], Accepts i.validate)
    (anchor : companionMarker.sessionAnchorSha256 = journal.sessionAnchorSha256) :
    authorizationFinding (sampleAccumulator marker wal none)
      (sampleAuthorization marker wal companionMarker journal 20 digest) true = none := by
  have early : ¬DeadlineReached (sampleAuthorization marker wal companionMarker journal 20 digest) :=
    show ¬(30 : Int) ≤ 20 by decide
  have identities : AuthorizationIdentities
      (sampleAuthorization marker wal companionMarker journal 20 digest)
      (sampleAccumulator marker wal none).evidence := ⟨valid, rfl, rfl, anchor⟩
  have retention : RetentionRelation
      (sampleAuthorization marker wal companionMarker journal 20 digest)
      (sampleAccumulator marker wal none).manifest (sampleAccumulator marker wal none).evidence :=
    ⟨rfl, rfl, rfl, rfl, rfl, rfl, rfl, rfl, rfl, rfl⟩
  have environment : (sampleAccumulator marker wal none).currentEnvironment =
      (sampleAccumulator marker wal none).manifest.environment := rfl
  rw [authorizationFinding, if_neg sampleAuthorization_static, if_neg early,
    if_neg (not_not.mpr identities), if_neg (not_not.mpr environment), if_neg (not_not.mpr retention)]

/-- The sample terminal agrees with the sample session. -/
theorem sampleTerminal_clean {digest : String}
    (written : computeExpertSessionTerminalSha256 (sampleTerminal digest) = .ok digest) :
    terminalFinding (sampleAccumulator marker wal none) (sampleTerminal digest) sampleScan = none := by
  have reason : evidenceTerminalReason (sampleAccumulator marker wal none) = some .operatorStop := by
    show (some sampleEnd).bind _ = _
    decide
  have exact_ : terminalDigestIsExact (sampleTerminal digest) = true := decide_eq_true written
  have told : ¬TerminalReasonMismatch (sampleAccumulator marker wal none) (sampleTerminal digest)
      sampleScan := by
    rw [TerminalReasonMismatch, reason]
    simp [sampleTerminal, sampleScan, sampleAccumulator, sampleEvidence, ExpertTerminalReason.value]
  have counted : ¬TerminalCountMismatch (sampleAccumulator marker wal none) (sampleTerminal digest)
      sampleScan := by
    have placed : (Journal.sampleCapture.rawRecord 2).ingestSeq = 2 := rfl
    simp [TerminalCountMismatch, sampleTerminal, sampleScan, sampleAccumulator, sampleEvidence,
      sampleEnd, placed]
  have proven : ¬TerminalProvenanceMismatch (sampleAccumulator marker wal none)
      (sampleTerminal digest) := by
    simp [TerminalProvenanceMismatch, sampleTerminal, sampleAccumulator, sampleExpertManifest,
      sampleEvidence, sampleRetention]
  have reached : ¬TerminalStateMismatch (sampleAccumulator marker wal none) (sampleTerminal digest) := by
    simp [TerminalStateMismatch, sampleTerminal, sampleAccumulator]
  rw [terminalFinding, if_neg told, if_neg counted, if_neg proven, if_neg reached, if_neg]
  rw [exact_]
  simp [sampleTerminal, sampleAccumulator]

end Sample

/-- A session without parents, with an exact authorization and its own terminal, is
replayed exactly. -/
theorem finish_verdict_exact : ∃ (accumulator : ExpertReplayAccumulator Unit)
    (final : RetentionReplayAuthorization) (terminal : ExpertSessionTerminal)
    (result : ExpertReplayResult Unit),
    finishExpertReplay (fun _ => .ok ()) accumulator final (some terminal) sampleScan = .ok result ∧
      result.exactReplay = true ∧ ExactReplay accumulator final (some terminal) sampleScan := by
  obtain ⟨first, marker⟩ : ∃ digest,
      (sampleIdentity "phase1_marker" (some blank) none digest).validate = .ok () :=
    sampleIdentity_valid (by simp)
  obtain ⟨second, wal⟩ : ∃ digest,
      (sampleIdentity "phase1_wal" none (some blank) digest).validate = .ok () :=
    sampleIdentity_valid (by simp)
  obtain ⟨third, companion⟩ : ∃ digest,
      (sampleIdentity "expert_marker" (some blank) none digest).validate = .ok () :=
    sampleIdentity_valid (by simp)
  obtain ⟨fourth, journal⟩ : ∃ digest,
      (sampleIdentity "expert_journal" none (some blank) digest).validate = .ok () :=
    sampleIdentity_valid (by simp)
  have valid : ∀ identity ∈ [sampleIdentity "phase1_marker" (some blank) none first,
      sampleIdentity "phase1_wal" none (some blank) second,
      sampleIdentity "expert_marker" (some blank) none third,
      sampleIdentity "expert_journal" none (some blank) fourth], Accepts identity.validate := by
    simp only [List.forall_mem_cons]
    exact ⟨marker, wal, companion, journal, fun _ none => absurd none List.not_mem_nil⟩
  have encodes : ∀ identity ∈ [sampleIdentity "phase1_marker" (some blank) none first,
      sampleIdentity "phase1_wal" none (some blank) second,
      sampleIdentity "expert_marker" (some blank) none third,
      sampleIdentity "expert_journal" none (some blank) fourth], Expert.Encodes identity.py := by
    simp only [List.forall_mem_cons]
    exact ⟨sampleIdentity_encodes, sampleIdentity_encodes, sampleIdentity_encodes,
      sampleIdentity_encodes, fun _ none => absurd none List.not_mem_nil⟩
  obtain ⟨digest, shaped, exact_⟩ := sampleAuthorization_digest encodes (by decide : (0 : Int) ≤ 20)
    (by decide)
  obtain ⟨ending, written⟩ := sampleTerminal_digest
  let accumulator := sampleAccumulator (sampleIdentity "phase1_marker" (some blank) none first)
    (sampleIdentity "phase1_wal" none (some blank) second) none
  let final := sampleAuthorization (sampleIdentity "phase1_marker" (some blank) none first)
    (sampleIdentity "phase1_wal" none (some blank) second)
    (sampleIdentity "expert_marker" (some blank) none third)
    (sampleIdentity "expert_journal" none (some blank) fourth) 20 digest
  have unfound : authorizationFinding accumulator final true = none :=
    sampleAuthorization_clean valid rfl
  have matched : terminalFinding accumulator (sampleTerminal ending) sampleScan = none :=
    sampleTerminal_clean written
  obtain ⟨result, answered⟩ : ∃ result, finishResult (fun _ => .ok ()) accumulator none
      (some digest) = .ok result :=
    sampleResult (fun _ same => Option.some.inj same ▸ shaped) fun _ => rfl
  have replayed : finishExpertReplay (fun _ => .ok ()) accumulator final
      (some (sampleTerminal ending)) sampleScan = .ok result := by
    have few : ¬sampleScan.groupCount < accumulator.evidenceRawCount := show ¬(0 : Int) < 0 by decide
    have many : ¬accumulator.evidenceRawCount < sampleScan.groupCount := show ¬(0 : Int) < 0 by decide
    have clean : accumulator.mismatch = none := rfl
    rw [finishExpertReplay, clean, if_neg (by decide), exact_, ok_bind, unfound]
    show (if _ then _ else _) = _
    rw [if_neg (by decide), if_neg sampleScan_valid, if_neg (by decide), if_neg few, if_neg many,
      if_neg (not_not.mpr rfl)]
    show finishResult _ accumulator (terminalFinding accumulator _ _) _ = _
    rw [matched]
    exact answered
  have exactly : result.exactReplay = true := (finishResult_spec answered).2
  exact ⟨accumulator, final, sampleTerminal ending, result, replayed, exactly,
    (finish_verdict replayed).2.2 exactly⟩

end Inci.Replay
