/-
# Tennis.Machine -- the tennis state machine

The functions of `tennis_score`: reachability of a score, the point counter, and
the four ways a provider event meets a state.  A branch that builds a record runs
the record's constructor, and an `assert` is a branch that raises.
-/
import Inci.Tennis.Contracts

namespace Inci.Tennis

open Inci.Theory Inci.Expert

set_option autoImplicit false

def opposite : PlayerSide → PlayerSide
  | .home => .away
  | .away => .home

def setsRequired : MatchFormat → Nat
  | .standardAdvantageBo3Tb7AllSets => 2
  | _ => 3

/-- The semantic bytes of an event, which leave out when it was received, and their digest. -/
def eventSemantic (eventKind : String) (event : List (String × PyValue)) :
    Except ExpertError (List UInt8 × String) := do
  let bytes ← canonicalExpertBytes (.dict [
    ("schema", .text "provider_event_semantic_v1"), ("event_kind", .text eventKind),
    ("event", .dict event)])
  pure (bytes, Sha256.hexdigest (domain "inci-tennis-provider-event-semantic-v1" ++ bytes))

def ProviderSnapshot.semantic (e : ProviderSnapshot) : Except ExpertError (List UInt8 × String) :=
  eventSemantic "snapshot" (e.fields e.toEventTimes.semanticPy)

def ProviderPoint.semantic (e : ProviderPoint) : Except ExpertError (List UInt8 × String) :=
  eventSemantic "point" (e.fields e.toEventTimes.semanticPy)

def ProviderLifecycle.semantic (e : ProviderLifecycle) :
    Except ExpertError (List UInt8 × String) :=
  eventSemantic "lifecycle" (e.fields e.toEventTimes.semanticPy)

/-! ## Reachable scores -/

def completedSetWinner (s : SetScore) : Option PlayerSide :=
  match s.tiebreakPointsHome, s.tiebreakPointsAway with
  | none, _ =>
      if (s.gamesHome = 6 ∧ s.gamesAway ≤ 4) ∨ (s.gamesHome = 7 ∧ s.gamesAway = 5) then some .home
      else if (s.gamesAway = 6 ∧ s.gamesHome ≤ 4) ∨ (s.gamesAway = 7 ∧ s.gamesHome = 5) then
        some .away
      else none
  | some _, none => none
  | some home, some away =>
      if s.gamesHome = 7 ∧ s.gamesAway = 6 then
        if 7 ≤ home ∧ away + 2 ≤ home then some .home else none
      else if s.gamesHome = 6 ∧ s.gamesAway = 7 then
        if 7 ≤ away ∧ home + 2 ≤ away then some .away else none
      else none

def tiebreakWon (home away : Nat) : Bool :=
  decide ((7 ≤ home ∧ away + 2 ≤ home) ∨ (7 ≤ away ∧ home + 2 ≤ away))

def normalSetWon (home away : Nat) : Bool :=
  decide ((6 ≤ home ∧ away + 2 ≤ home) ∨ (6 ≤ away ∧ home + 2 ≤ away))

def tiebreakServer (first : PlayerSide) (completedPoints : Nat) : PlayerSide :=
  if completedPoints = 0 then first
  else if (completedPoints - 1) / 2 % 2 = 0 then opposite first
  else first

def scoreIsZero (v : Score) : Bool :=
  decide (v.completedSets = [] ∧ v.gamesHome = 0 ∧ v.gamesAway = 0 ∧ v.pointsHome = .love ∧
    v.pointsAway = .love ∧ v.inTiebreak = false ∧ v.tiebreakPointsHome = 0 ∧
    v.tiebreakPointsAway = 0 ∧ v.tiebreakFirstServer = none)

/-- The loop of `_completed_prefix`: `none` when a set is unfinished or follows a
clinching one, else the side that clinched. -/
def completedPrefixFrom (required homeWins awayWins : Nat) :
    List SetScore → Option (Option PlayerSide)
  | [] => some none
  | s :: rest =>
      match completedSetWinner s with
      | none => none
      | some .home =>
          if homeWins + 1 = required then (if rest = [] then some (some .home) else none)
          else completedPrefixFrom required (homeWins + 1) awayWins rest
      | some .away =>
          if awayWins + 1 = required then (if rest = [] then some (some .away) else none)
          else completedPrefixFrom required homeWins (awayWins + 1) rest

def completedPrefix (format : MatchFormat) (v : Score) : Option (Option PlayerSide) :=
  completedPrefixFrom (setsRequired format) 0 0 v.completedSets

def incompleteScoreIsReachable (format : MatchFormat) (v : Score) (active : Bool) : Bool :=
  if completedPrefix format v ≠ some none then false
  else if v.inTiebreak then
    match v.tiebreakFirstServer with
    | none => false
    | some first =>
        if v.gamesHome ≠ 6 ∨ v.gamesAway ≠ 6 ∨ v.pointsHome ≠ .love ∨ v.pointsAway ≠ .love ∨
            tiebreakWon v.tiebreakPointsHome v.tiebreakPointsAway then false
        else if active then
          decide (v.serverForNextPoint =
            some (tiebreakServer first (v.tiebreakPointsHome + v.tiebreakPointsAway)))
        else v.serverForNextPoint.isNone
  else if 6 < v.gamesHome ∨ 6 < v.gamesAway ∨ (v.gamesHome = 6 ∧ v.gamesAway = 6) ∨
      normalSetWon v.gamesHome v.gamesAway then false
  else if active then v.serverForNextPoint.isSome
  else v.serverForNextPoint.isNone

/-- `_reachable` -/
def reachable (format : MatchFormat) (v : Score) : Bool :=
  if format ∉ supportedFormats then false
  else match v.status with
  | .scheduled =>
      decide (v.terminationKind = .none ∧ v.winner = none ∧ v.retiredSide = none ∧
        v.serverForNextPoint = none) && scoreIsZero v
  | .live | .suspended =>
      decide (v.terminationKind = .none ∧ v.winner = none ∧ v.retiredSide = none) &&
        incompleteScoreIsReachable format v true
  | .cancelled =>
      decide (v.terminationKind = .cancellation ∧ v.winner = none ∧ v.retiredSide = none) &&
        incompleteScoreIsReachable format v false
  | .ended =>
      match v.terminationKind with
      | .walkover =>
          v.winner.isSome && v.retiredSide.isNone && v.serverForNextPoint.isNone && scoreIsZero v
      | .retirement =>
          v.winner.isSome && v.retiredSide.isSome && decide (v.winner ≠ v.retiredSide) &&
            incompleteScoreIsReachable format v false
      | .natural =>
          match completedPrefix format v with
          | some (some side) =>
              decide (v.winner = some side ∧ v.retiredSide = none ∧ v.serverForNextPoint = none ∧
                v.gamesHome = 0 ∧ v.gamesAway = 0 ∧ v.pointsHome = .love ∧ v.pointsAway = .love ∧
                v.inTiebreak = false ∧ v.tiebreakPointsHome = 0 ∧ v.tiebreakPointsAway = 0 ∧
                v.tiebreakFirstServer = none)
          | _ => false
      | _ => false

def validateTennisState (state : TennisState) : Check :=
  refuse (reachable state.matchFormat state.toScore = false) .tennisInvariant

/-! ## Building states and results -/

def TennisState.construct (state : TennisState) : Except ExpertError TennisState := do
  state.postInit
  pure state

def stateFromSnapshotFields (snapshot : ProviderSnapshot) (eventDigest lineageDigest : String) :
    TennisState :=
  { snapshot.toMatchIdentity, snapshot.toScore, BlockMetadata.clear with
    correctionEpoch := snapshot.correctionEpoch
    revision := snapshot.revision
    snapshotComplete := true
    lastProviderEventId := snapshot.providerEventId
    lastEventSemanticSha256 := eventDigest
    correctionLineageSha256 := lineageDigest
    lastSourceWallNs := snapshot.sourceWallNs
    lastSourceGeneratedWallNs := snapshot.sourceGeneratedWallNs
    lastReceivedMonotonicNs := snapshot.receivedMonotonicNs
    lastClockUncertaintyNs := snapshot.clockUncertaintyNs }

/-- `state_from_snapshot` -/
def stateFromSnapshot (snapshot : ProviderSnapshot) : Except ExpertError TennisState := do
  let (bytes, eventDigest) ← snapshot.semantic
  refuse (snapshot.matchFormat = .unsupported) (.transition .unsupportedFormat)
  refuse (snapshot.snapshotComplete = false ∨
    reachable snapshot.matchFormat snapshot.toScore = false) (.transition .snapshotInvalid)
  (stateFromSnapshotFields snapshot eventDigest
    (Sha256.hexdigest (domain "inci-tennis-initial-lineage-v1" ++ bytes))).construct

/-- `_result` -/
def result (state : TennisState) (disposition : TransitionDisposition)
    (reason : TennisTransitionReason) (eventDigest : String) :
    Except ExpertError TennisTransitionResult := do
  TennisTransitionResult.postInit ⟨state, disposition, reason, eventDigest⟩
  pure ⟨state, disposition, reason, eventDigest⟩

/-- `_block_state`, before the state is constructed. -/
def blockState (state : TennisState) (reason : TennisTransitionReason) (eventDigest : String)
    (receivedMonotonicNs : Nat) (expected observed : Option Nat) : TennisState :=
  { state with
    blockReason := some reason
    expectedRevision := expected
    observedRevision := observed
    blockedEventSemanticSha256 := some eventDigest
    blockedReceivedMonotonicNs := some receivedMonotonicNs }

/-- `_blocked`; only a gap says which revision was expected and which one came. -/
def blocked (state : TennisState) (event : IncrementalEvent) (eventDigest : String)
    (reason : TennisTransitionReason) (expected observed : Option Nat := none) :
    Except ExpertError TennisTransitionResult := do
  let blockedState ←
    (blockState state reason eventDigest event.receivedMonotonicNs expected observed).construct
  result blockedState .blocked reason eventDigest

/-- `_incremental_precheck`: `none` lets the event through. -/
def incrementalPrecheck (state : TennisState) (event : IncrementalEvent) (eventDigest : String) :
    Except ExpertError (Option TennisTransitionResult) :=
  if state.blockReason.isSome then
    some <$> result state .blocked .correctionRequired eventDigest
  else if event.providerMatchId ≠ state.providerMatchId ∨
      event.homePlayerId ≠ state.homePlayerId ∨ event.awayPlayerId ≠ state.awayPlayerId ∨
      event.scheduledStartWallNs ≠ state.scheduledStartWallNs then
    some <$> blocked state event eventDigest .identityMismatch
  else if event.providerSourceId ≠ state.providerSourceId ∨
      event.sourceLineageSha256 ≠ state.sourceLineageSha256 then
    some <$> blocked state event eventDigest .sourceLineageMismatch
  else if event.revisionDomainId ≠ state.revisionDomainId then
    some <$> blocked state event eventDigest .revisionDomainMismatch
  else if event.matchFormat ≠ state.matchFormat then
    some <$> blocked state event eventDigest .formatMismatch
  else if event.receivedMonotonicNs < state.lastReceivedMonotonicNs then
    some <$> blocked state event eventDigest .receiveTimeRegression
  else if event.correctionEpoch < state.correctionEpoch then
    some <$> blocked state event eventDigest .correctionEpochStale
  else if state.correctionEpoch < event.correctionEpoch then
    some <$> blocked state event eventDigest .correctionEpochAhead
  else if event.revision = state.revision then
    if eventDigest = state.lastEventSemanticSha256 then
      some <$> result state .duplicate .exactDuplicate eventDigest
    else some <$> blocked state event eventDigest .providerEventConflict
  else if event.revision < state.revision then
    some <$> blocked state event eventDigest .providerEventStale
  else if state.revision + 1 < event.revision then
    some <$> blocked state event eventDigest .providerEventGap
      (some (state.revision + 1)) (some event.revision)
  else pure none

/-- `_applied_state`, with the changes of the score already made. -/
def appliedState (state : TennisState) (event : IncrementalEvent) (eventDigest : String)
    (score : Score) : Except ExpertError TennisState :=
  TennisState.construct
    { state.toMatchIdentity, score, BlockMetadata.clear with
      correctionEpoch := state.correctionEpoch
      revision := event.revision
      snapshotComplete := state.snapshotComplete
      lastProviderEventId := event.providerEventId
      lastEventSemanticSha256 := eventDigest
      correctionLineageSha256 := state.correctionLineageSha256
      lastSourceWallNs := event.sourceWallNs
      lastSourceGeneratedWallNs := event.sourceGeneratedWallNs
      lastReceivedMonotonicNs := event.receivedMonotonicNs
      lastClockUncertaintyNs := event.clockUncertaintyNs }

/-! ## Points -/

def setWins (completedSets : List SetScore) : Nat × Nat :=
  (completedSets.countP fun s => decide (s.gamesAway < s.gamesHome),
    completedSets.countP fun s => decide (s.gamesHome ≤ s.gamesAway))

def completedSetChanges (format : MatchFormat) (state : Score) (setScore : SetScore)
    (nextServer : PlayerSide) : Score :=
  let completedSets := state.completedSets ++ [setScore]
  let wins := setWins completedSets
  let winner : Option PlayerSide :=
    if wins.1 = setsRequired format then some .home
    else if wins.2 = setsRequired format then some .away
    else none
  { status := if winner.isSome then .ended else .live
    terminationKind := if winner.isSome then .natural else .none
    winner := winner
    retiredSide := none
    completedSets := completedSets
    gamesHome := 0
    gamesAway := 0
    pointsHome := .love
    pointsAway := .love
    inTiebreak := false
    tiebreakPointsHome := 0
    tiebreakPointsAway := 0
    tiebreakFirstServer := none
    serverForNextPoint := if winner.isSome then none else some nextServer }

def SetScore.construct (s : SetScore) : Except ExpertError SetScore := do
  s.postInit
  pure s

/-- The tiebreak branch of `_advance_score`. -/
def advanceTiebreak (format : MatchFormat) (state : Score) (winner : PlayerSide) :
    Except ExpertError Score :=
  let home := if winner = .home then state.tiebreakPointsHome + 1 else state.tiebreakPointsHome
  let away := if winner = .home then state.tiebreakPointsAway else state.tiebreakPointsAway + 1
  match state.tiebreakFirstServer with
  | none => .error .assertion
  | some first =>
      if tiebreakWon home away then do
        let setScore ← SetScore.construct
          ⟨if winner = .home then 7 else 6, if winner = .home then 6 else 7, some home, some away⟩
        pure (completedSetChanges format state setScore (opposite first))
      else pure { state with
        tiebreakPointsHome := home
        tiebreakPointsAway := away
        serverForNextPoint := some (tiebreakServer first (home + away)) }

/-- The game score after the winner of a point had `own`: `none` when that wins the game. -/
def gamePoint (own opponent : ScoreValue) : Option (ScoreValue × ScoreValue) :=
  match own, opponent with
  | .advantage, _ => none
  | _, .advantage => some (.forty, .forty)
  | .forty, .forty => some (.advantage, opponent)
  | .forty, _ => none
  | .love, _ => some (.fifteen, opponent)
  | .fifteen, _ => some (.thirty, opponent)
  | .thirty, _ => some (.forty, opponent)

/-- The branch of `_advance_score` after a game is won. -/
def advanceGame (format : MatchFormat) (state : Score) (winner : PlayerSide) :
    Except ExpertError Score :=
  let gamesHome := if winner = .home then state.gamesHome + 1 else state.gamesHome
  let gamesAway := if winner = .home then state.gamesAway else state.gamesAway + 1
  match state.serverForNextPoint with
  | none => .error .assertion
  | some server =>
      let nextServer := opposite server
      if normalSetWon gamesHome gamesAway then do
        let setScore ← SetScore.construct ⟨gamesHome, gamesAway, none, none⟩
        pure (completedSetChanges format state setScore nextServer)
      else if gamesHome = 6 ∧ gamesAway = 6 then
        pure { state with
          gamesHome, gamesAway
          pointsHome := .love
          pointsAway := .love
          inTiebreak := true
          tiebreakPointsHome := 0
          tiebreakPointsAway := 0
          tiebreakFirstServer := some nextServer
          serverForNextPoint := some nextServer }
      else
        pure { state with
          gamesHome, gamesAway
          pointsHome := .love
          pointsAway := .love
          serverForNextPoint := some nextServer }

/-- `_advance_score`, with its changes made to the score. -/
def advanceScore (format : MatchFormat) (state : Score) (winner : PlayerSide) :
    Except ExpertError Score :=
  if state.inTiebreak then advanceTiebreak format state winner
  else
    match winner with
    | .home =>
        match gamePoint state.pointsHome state.pointsAway with
        | some (own, opponent) => pure { state with pointsHome := own, pointsAway := opponent }
        | none => advanceGame format state winner
    | .away =>
        match gamePoint state.pointsAway state.pointsHome with
        | some (own, opponent) => pure { state with pointsHome := opponent, pointsAway := own }
        | none => advanceGame format state winner

def terminal (status : MatchStatus) : Bool := decide (status = .ended ∨ status = .cancelled)

/-- `apply_point` -/
def applyPoint (state : TennisState) (point : ProviderPoint) :
    Except ExpertError TennisTransitionResult := do
  validateTennisState state
  let (_, eventDigest) ← point.semantic
  match ← incrementalPrecheck state point.toIncrementalEvent eventDigest with
  | some prechecked => pure prechecked
  | none =>
      let event := point.toIncrementalEvent
      if terminal state.status then blocked state event eventDigest .terminalAbsorbing
      else if state.status ≠ .live then blocked state event eventDigest .pointWhileNotLive
      else if some point.serverBeforePoint ≠ state.serverForNextPoint then
        blocked state event eventDigest .serverMismatch
      else do
        let score ← advanceScore state.matchFormat state.toScore point.pointWinner
        let applied ← appliedState state event eventDigest score
        result applied .applied .pointApplied eventDigest

/-! ## Lifecycle events -/

/-- `_lifecycle_payload_valid` -/
def lifecyclePayloadValid (event : ProviderLifecycle) (winnerRequired retiredRequired
    serverRequired : Bool) : Bool :=
  decide (winnerRequired = event.winner.isSome ∧ retiredRequired = event.retiredSide.isSome ∧
    serverRequired = event.serverForNextPoint.isSome ∧
    ¬(winnerRequired ∧ retiredRequired ∧ event.winner = event.retiredSide))

/-- The score a lifecycle event leads to, and whether its server must be the state's. -/
def lifecycleChanges (state : Score) (event : ProviderLifecycle) : Option (Score × Bool) :=
  match state.status, event.kind with
  | .scheduled, .start =>
      if lifecyclePayloadValid event false false true then
        some ({ state with status := .live, serverForNextPoint := event.serverForNextPoint }, false)
      else none
  | .live, .suspend =>
      if lifecyclePayloadValid event false false true then
        some ({ state with status := .suspended }, true)
      else none
  | .suspended, .resume =>
      if lifecyclePayloadValid event false false true then
        some ({ state with status := .live }, true)
      else none
  | .scheduled, .walkover =>
      if lifecyclePayloadValid event true false false then
        some ({ state with
          status := .ended
          terminationKind := .walkover
          winner := event.winner
          retiredSide := none
          serverForNextPoint := none }, false)
      else none
  | .live, .retirement | .suspended, .retirement =>
      if lifecyclePayloadValid event true true false then
        some ({ state with
          status := .ended
          terminationKind := .retirement
          winner := event.winner
          retiredSide := event.retiredSide
          serverForNextPoint := none }, false)
      else none
  | .scheduled, .cancel | .live, .cancel | .suspended, .cancel =>
      if lifecyclePayloadValid event false false false then
        some ({ state with
          status := .cancelled
          terminationKind := .cancellation
          winner := none
          retiredSide := none
          serverForNextPoint := none }, false)
      else none
  | _, _ => none

/-- `apply_lifecycle` -/
def applyLifecycle (state : TennisState) (lifecycle : ProviderLifecycle) :
    Except ExpertError TennisTransitionResult := do
  validateTennisState state
  let (_, eventDigest) ← lifecycle.semantic
  match ← incrementalPrecheck state lifecycle.toIncrementalEvent eventDigest with
  | some prechecked => pure prechecked
  | none =>
      let event := lifecycle.toIncrementalEvent
      if state.status = .ended ∧ state.terminationKind = .natural ∧
          lifecycle.kind = .naturalEndConfirmation then
        if lifecycle.winner = state.winner ∧ lifecycle.retiredSide = none ∧
            lifecycle.serverForNextPoint = none then do
          let applied ← appliedState state event eventDigest state.toScore
          result applied .applied .naturalEndConfirmed eventDigest
        else blocked state event eventDigest .illegalLifecycleTransition
      else if terminal state.status then blocked state event eventDigest .terminalAbsorbing
      else
        match lifecycleChanges state.toScore lifecycle with
        | none => blocked state event eventDigest .illegalLifecycleTransition
        | some (score, compareServer) =>
            if compareServer ∧ lifecycle.serverForNextPoint ≠ state.serverForNextPoint then
              blocked state event eventDigest .serverMismatch
            else do
              let applied ← appliedState state event eventDigest score
              result applied .applied .lifecycleApplied eventDigest

/-! ## Corrections -/

/-- `_correction_rejected` -/
def correctionRejected (state : TennisState) (replacement : ProviderSnapshot)
    (eventDigest : String) (reason : TennisTransitionReason) :
    Except ExpertError TennisTransitionResult := do
  let rejectedState ←
    if state.blockReason.isSome then pure state
    else (blockState state reason eventDigest replacement.receivedMonotonicNs none none).construct
  result rejectedState .blocked reason eventDigest

/-- The earliest time a correction may be received at. -/
def minimumReceipt (state : TennisState) : Nat :=
  max state.lastReceivedMonotonicNs (state.blockedReceivedMonotonicNs.getD 0)

/-- `bytes.fromhex` of a digest text. -/
def fromHex : List Char → List UInt8
  | high :: low :: rest =>
      UInt8.ofNat (16 * Sha256.hexDigits.idxOf high + Sha256.hexDigits.idxOf low) :: fromHex rest
  | _ => []

/-- `apply_correction` -/
def applyCorrection (state : TennisState) (replacement : ProviderSnapshot) :
    Except ExpertError TennisTransitionResult := do
  validateTennisState state
  let (bytes, eventDigest) ← replacement.semantic
  let rejected := correctionRejected state replacement eventDigest
  if replacement.providerMatchId ≠ state.providerMatchId ∨
      replacement.homePlayerId ≠ state.homePlayerId ∨
      replacement.awayPlayerId ≠ state.awayPlayerId ∨
      replacement.scheduledStartWallNs ≠ state.scheduledStartWallNs then
    rejected .identityMismatch
  else if replacement.providerSourceId ≠ state.providerSourceId ∨
      replacement.sourceLineageSha256 ≠ state.sourceLineageSha256 then
    rejected .sourceLineageMismatch
  else if replacement.revisionDomainId ≠ state.revisionDomainId then
    rejected .revisionDomainMismatch
  else if replacement.matchFormat = .unsupported then rejected .unsupportedFormat
  else if replacement.matchFormat ≠ state.matchFormat then rejected .formatMismatch
  else if replacement.receivedMonotonicNs < minimumReceipt state then
    rejected .receiveTimeRegression
  else if replacement.correctionEpoch = state.correctionEpoch ∧
      replacement.revision = state.revision ∧ eventDigest = state.lastEventSemanticSha256 then
    result state .duplicate .exactDuplicate eventDigest
  else if replacement.correctionEpoch ≤ state.correctionEpoch then
    rejected .correctionEpochNotNewer
  else if replacement.snapshotComplete = false ∨
      reachable replacement.matchFormat replacement.toScore = false then
    rejected .correctionSnapshotInvalid
  else do
    let lineage := Sha256.hexdigest (domain "inci-tennis-correction-lineage-v1" ++
      fromHex state.correctionLineageSha256.toList ++ bytes)
    let applied ← (stateFromSnapshotFields replacement eventDigest lineage).construct
    result applied .applied .correctionApplied eventDigest

end Inci.Tennis
