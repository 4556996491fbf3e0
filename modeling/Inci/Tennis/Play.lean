/-
# Tennis.Play -- whole matches of points

A run of `applyPoint` from a freshly started match, fed events that carry the
next revision and the state's own server, ends in the score the rules declare
for the list of point winners.  The points after the end are blocked.
-/
import Inci.Tennis.Refinement

namespace Inci.Tennis

open Inci.Theory Inci.Expert

set_option autoImplicit false

/-- The state of a match that has just started, `first` to serve. -/
structure FreshlyStarted (s : TennisState) (first : PlayerSide) : Prop where
  constructed : s.postInit = .ok ()
  unblocked : s.toBlockMetadata = BlockMetadata.clear
  score : s.toScore =
    { status := .live
      terminationKind := .none
      winner := none
      retiredSide := none
      completedSets := []
      gamesHome := 0
      gamesAway := 0
      pointsHome := .love
      pointsAway := .love
      inTiebreak := false
      tiebreakPointsHome := 0
      tiebreakPointsAway := 0
      tiebreakFirstServer := none
      serverForNextPoint := some first }

/-- A well-formed point of the state's match: the next revision, the state's own
server when it names one, and received no earlier than the last event. -/
structure Continues (s : TennisState) (p : ProviderPoint) : Prop where
  constructed : p.postInit = .ok ()
  identity : p.toMatchIdentity = s.toMatchIdentity
  epoch : p.correctionEpoch = s.correctionEpoch
  revision : p.revision = s.revision + 1
  received : s.lastReceivedMonotonicNs ≤ p.receivedMonotonicNs
  server : ∀ side, s.serverForNextPoint = some side → p.serverBeforePoint = side

/-- Apply the points in order, each to the state the last one left. -/
def foldPoints (s : TennisState) :
    List ProviderPoint → Except ExpertError (List TennisTransitionResult)
  | [] => .ok []
  | p :: rest => do
      let r ← applyPoint s p
      let others ← foldPoints r.state rest
      pure (r :: others)

/-- Every point continues the state it meets. -/
def AllContinue (s : TennisState) : List ProviderPoint → Prop
  | [] => True
  | p :: rest => Continues s p ∧ ∀ r, applyPoint s p = .ok r → AllContinue r.state rest

def finalState (s : TennisState) (results : List TennisTransitionResult) : TennisState :=
  (results.getLast?.map (·.state)).getD s

theorem finalState_cons (s : TennisState) (r : TennisTransitionResult)
    (results : List TennisTransitionResult) :
    finalState s (r :: results) = finalState r.state results := by
  rw [finalState, finalState, List.getLast?_cons]
  cases results.getLast? <;> rfl

/-! ## One point -/

theorem Continues.admitted {s : TennisState} {p : ProviderPoint} (continues : Continues s p)
    (unblocked : s.blockReason = none) : Admitted s p.toIncrementalEvent :=
  ⟨unblocked, continues.identity, continues.received, continues.epoch, continues.revision⟩

/-- The state tracks a record: same score, unblocked, and no more points than revisions. -/
structure Tracks (s : TennisState) (required : Nat) (first : PlayerSide) (record : MatchRecord) :
    Prop where
  constructed : s.Constructed
  unblocked : s.blockReason = none
  follows : record.Follows required
  score : s.toScore = record.score required first
  counted : record.played.length ≤ s.revision

theorem applyPoint_tracks {s : TennisState} {first : PlayerSide} {record : MatchRecord}
    {p : ProviderPoint} (tracks : Tracks s (setsRequired s.matchFormat) first record)
    (going : ¬MatchOver (setsRequired s.matchFormat) record.sets) (continues : Continues s p) :
    ∃ digest next, next = appliedFields s p.toIncrementalEvent digest
        ((record.extend p.pointWinner).score (setsRequired s.matchFormat) first) ∧
      applyPoint s p = .ok ⟨next, .applied, .pointApplied, digest⟩ ∧
      Tracks next (setsRequired s.matchFormat) first (record.extend p.pointWinner) := by
  obtain ⟨bytes, digest, semantic⟩ := ProviderPoint.semantic_total continues.constructed
  have event := IncrementalEvent.postInit_eq_ok.mp continues.constructed
  have digests : IsSha256 digest := eventSemantic_isSha256 semantic
  have legal : reachable s.matchFormat s.toScore = true := by
    rw [tracks.score]
    exact score_reachable tracks.constructed.supported tracks.follows
  have winner := matchWinner_going going
  have live : s.status = .live := by
    simpa [MatchRecord.score, winner] using congrArg Score.status tracks.score
  have server : some p.serverBeforePoint = s.serverForNextPoint := by
    have named := congrArg Score.serverForNextPoint tracks.score
    obtain ⟨side, known⟩ : ∃ side, s.serverForNextPoint = some side := by
      rw [named]
      simp only [MatchRecord.score, winner]
      split_ifs <;> simp at *
    rw [known, continues.server side known]
  have played := tracks.counted
  have next := continues.revision
  have bound := event.revision
  have small : record.points.length ≤ record.played.length := by
    simp only [MatchRecord.played, List.length_append]
    omega
  have advanced := advanceScore_extend first p.pointWinner tracks.follows going
    (by omega)
  rw [← tracks.score] at advanced
  have follows := MatchRecord.follows_extend p.pointWinner tracks.follows going
  have extended : (record.extend p.pointWinner).played.length = record.played.length + 1 := by
    simp [MatchRecord.played_extend]
  have fewPoints : (record.extend p.pointWinner).points.length < integerBound := by
    have within : (record.extend p.pointWinner).points.length ≤
        (record.extend p.pointWinner).played.length := by
      simp only [MatchRecord.played, List.length_append]
      omega
    omega
  have constructed : (appliedFields s p.toIncrementalEvent digest
      ((record.extend p.pointWinner).score (setsRequired s.matchFormat) first)).Constructed := by
    have good := tracks.constructed
    exact ⟨good.identity, good.supported, score_validateStatus _,
      score_validateScore follows fewPoints, good.correctionEpoch, event.revision, good.complete,
      event.eventId, digests, good.lineage, event.sourceWall, event.generatedWall, event.received,
      event.uncertainty, by simp [BlockMetadata.postInit, appliedFields, BlockMetadata.clear]⟩
  refine ⟨digest, _, rfl, ?_, constructed, rfl, follows, rfl, ?_⟩
  · exact applyPoint_applied legal semantic (continues.admitted tracks.unblocked) live server
      advanced constructed
  · show (record.extend p.pointWinner).played.length ≤ p.revision
    omega

/-- The state of a finished match: its score no longer changes. -/
structure Finished (s : TennisState) (required : Nat) (first : PlayerSide) (record : MatchRecord) :
    Prop where
  constructed : s.Constructed
  follows : record.Follows required
  ended : MatchOver required record.sets
  score : s.toScore = record.score required first

theorem applyPoint_finished {s : TennisState} {first : PlayerSide} {record : MatchRecord}
    {p : ProviderPoint} (finished : Finished s (setsRequired s.matchFormat) first record)
    (continues : Continues s p) :
    ∃ r, applyPoint s p = .ok r ∧ r.disposition = .blocked ∧
      r.state.matchFormat = s.matchFormat ∧
      Finished r.state (setsRequired s.matchFormat) first record := by
  obtain ⟨bytes, digest, semantic⟩ := ProviderPoint.semantic_total continues.constructed
  have event := IncrementalEvent.postInit_eq_ok.mp continues.constructed
  have digests : IsSha256 digest := eventSemantic_isSha256 semantic
  have legal : reachable s.matchFormat s.toScore = true := by
    rw [finished.score]
    exact score_reachable finished.constructed.supported finished.follows
  by_cases blocks : s.blockReason = none
  · have ended : s.status = .ended := by
      have winner : (matchWinner (setsRequired s.matchFormat) record.sets).isSome := by
        rcases finished.ended with home | away
        · simp [matchWinner, home]
        · unfold matchWinner
          split_ifs <;> simp
      simpa [MatchRecord.score, winner] using congrArg Score.status finished.score
    have install := blocked_total .terminalAbsorbing finished.constructed event digests
      (by decide) (by decide)
    have constructed : (blockState s .terminalAbsorbing digest p.receivedMonotonicNs none
        none).Constructed := by
      simp only [blocked, bind_eq_ok, TennisState.construct_eq_ok] at install
      obtain ⟨_, ⟨constructed, -⟩, -⟩ := install
      exact constructed
    refine ⟨⟨blockState s .terminalAbsorbing digest p.receivedMonotonicNs none none, .blocked,
      .terminalAbsorbing, digest⟩, ?_, rfl, rfl, constructed, finished.follows, finished.ended,
      finished.score⟩
    simp only [applyPoint, validateTennisState, refuse, legal, Bool.true_eq_false, if_false,
      semantic, ok_bind, incrementalPrecheck_admitted (continues.admitted blocks), terminal, ended,
      true_or, decide_true, if_true]
    exact install
  · have isBlocked : s.blockReason.isSome = true := by
      cases h : s.blockReason <;> simp_all
    refine ⟨⟨s, .blocked, .correctionRequired, digest⟩, ?_, rfl, rfl, finished⟩
    have kept : result s .blocked .correctionRequired digest =
        .ok ⟨s, .blocked, .correctionRequired, digest⟩ := result_eq_ok.mpr ⟨digests, rfl⟩
    simp only [applyPoint, validateTennisState, refuse, legal, Bool.true_eq_false, if_false,
      semantic, ok_bind, incrementalPrecheck, isBlocked, if_true, kept]
    rfl

/-! ## Runs -/

theorem foldPoints_finished (first : PlayerSide) {record : MatchRecord}
    (points : List ProviderPoint) :
    ∀ s : TennisState, Finished s (setsRequired s.matchFormat) first record →
      AllContinue s points →
      ∃ results, foldPoints s points = .ok results ∧ results.length = points.length ∧
        ∀ r ∈ results, r.disposition = .blocked ∧
          r.state.toScore = record.score (setsRequired s.matchFormat) first := by
  induction points with
  | nil => exact fun s _ _ => ⟨[], rfl, rfl, by simp⟩
  | cons p rest ih =>
      intro s finished own
      obtain ⟨r, applies, blocks, format, after⟩ := applyPoint_finished finished own.1
      rw [← format] at after
      obtain ⟨results, folds, length, each⟩ := ih r.state after (own.2 r applies)
      refine ⟨r :: results, by simp [foldPoints, applies, folds, pure, Except.pure], by simp [length], ?_⟩
      rw [format] at each after
      rintro q (_ | ⟨_, member⟩)
      · exact ⟨blocks, after.score⟩
      · exact each q member

/-- A run from a tracked state: the record grows by the points played before the
end, each applied, and the points after it are blocked. -/
theorem foldPoints_tracks {first : PlayerSide} (points : List ProviderPoint) :
    ∀ (s : TennisState) (record : MatchRecord),
      Tracks s (setsRequired s.matchFormat) first record → AllContinue s points →
      ∃ applied blocked, ∃ last : MatchRecord, foldPoints s points = .ok (applied ++ blocked) ∧
        last.Follows (setsRequired s.matchFormat) ∧
        last.played = record.played ++ (points.map (·.pointWinner)).take applied.length ∧
        (applied ++ blocked).length = points.length ∧
        (blocked ≠ [] → MatchOver (setsRequired s.matchFormat) last.sets) ∧
        (finalState s (applied ++ blocked)).toScore =
          last.score (setsRequired s.matchFormat) first ∧
        (∀ r ∈ applied, r.disposition = .applied) ∧
        ∀ r ∈ blocked, r.disposition = .blocked ∧
          r.state.toScore = last.score (setsRequired s.matchFormat) first := by
  induction points with
  | nil =>
      intro s record tracks _
      exact ⟨[], [], record, rfl, tracks.follows, by simp, rfl, by simp, tracks.score, by simp,
        by simp⟩
  | cons p rest ih =>
      intro s record tracks own
      by_cases ended : MatchOver (setsRequired s.matchFormat) record.sets
      · obtain ⟨results, folds, length, each⟩ := foldPoints_finished first (p :: rest) s
          ⟨tracks.constructed, tracks.follows, ended, tracks.score⟩ own
        refine ⟨[], results, record, folds, tracks.follows, by simp, length, fun _ => ended, ?_,
          by simp, each⟩
        have nonempty : results ≠ [] := by
          intro none
          simp [none] at length
        rw [List.nil_append, finalState, List.getLast?_eq_some_getLast nonempty]
        exact (each _ (List.getLast_mem nonempty)).2
      · obtain ⟨digest, next, is, applies, after⟩ := applyPoint_tracks tracks ended own.1
        have format : next.matchFormat = s.matchFormat := by rw [is]; rfl
        rw [← format] at after
        obtain ⟨applied, blocked, last, folds, follows, played, length, ends, score, applieds,
          blockeds⟩ := ih next _ after (own.2 _ applies)
        rw [format] at follows ends score blockeds
        refine ⟨⟨next, .applied, .pointApplied, digest⟩ :: applied, blocked, last, ?_, follows, ?_, by simpa using length, ends, ?_, ?_,
          blockeds⟩
        · simp [foldPoints, applies, folds, pure, Except.pure]
        · simp [played, MatchRecord.played_extend]
        · rw [← score, List.cons_append, finalState_cons]
        · rintro q (_ | ⟨_, member⟩)
          · rfl
          · exact applieds q member

theorem freshlyStarted_tracks {s : TennisState} {first : PlayerSide}
    (fresh : FreshlyStarted s first) :
    Tracks s (setsRequired s.matchFormat) first ⟨[], [], []⟩ := by
  have going : ¬MatchOver (setsRequired s.matchFormat) [] := by
    cases s.matchFormat <;> simp [MatchOver, setsWon, setsRequired]
  refine ⟨TennisState.postInit_eq_ok.mp fresh.constructed, ?_, ⟨trivial, ?_⟩, ?_, by
    simp [MatchRecord.played]⟩
  · have unblocked := congrArg BlockMetadata.blockReason fresh.unblocked
    simpa [BlockMetadata.clear] using unblocked
  · rw [if_neg going]
    exact setRunning_nil
  · rw [fresh.score]
    simp [MatchRecord.score, matchWinner_going going, not_tied_nil, gamesWon,
      MatchRecord.call, MatchRecord.gameServer, MatchRecord.serverOfGame]

/-- A match of points ends in the score of the one record the rules declare for
its winners.  The points of the record are applied, the later ones blocked. -/
theorem points_follow_rules (s : TennisState) (first : PlayerSide) (points : List ProviderPoint)
    (fresh : FreshlyStarted s first) (own : AllContinue s points) :
    ∃ applied blocked, ∃ record : MatchRecord,
      foldPoints s points = .ok (applied ++ blocked) ∧
      record.Declares (setsRequired s.matchFormat) (points.map (·.pointWinner)) ∧
      (∀ other : MatchRecord, other.Declares (setsRequired s.matchFormat)
        (points.map (·.pointWinner)) → other = record) ∧
      (finalState s (applied ++ blocked)).toScore =
        record.score (setsRequired s.matchFormat) first ∧
      applied.length = record.played.length ∧
      (∀ r ∈ applied, r.disposition = .applied) ∧
      ∀ r ∈ blocked, r.disposition = .blocked ∧
        r.state.toScore = record.score (setsRequired s.matchFormat) first := by
  obtain ⟨applied, blocked, record, folds, follows, played, length, ends, score, applieds,
    blockeds⟩ := foldPoints_tracks points s _ (freshlyStarted_tracks fresh) own
  simp only [MatchRecord.played, List.flatten_nil, List.nil_append] at played
  simp only [List.length_append] at length
  have declares : record.Declares (setsRequired s.matchFormat) (points.map (·.pointWinner)) := by
    refine ⟨follows, (points.map (·.pointWinner)).drop applied.length, ?_, fun more => ends ?_⟩
    · rw [MatchRecord.played, played, List.take_append_drop]
    · rintro rfl
      apply more
      simp only [List.length_nil, Nat.add_zero] at length
      simp [length]
  refine ⟨applied, blocked, record, folds, declares, fun other declared =>
    declares_unique declared declares, score, ?_, applieds, blockeds⟩
  rw [MatchRecord.played, played]
  simp
  omega

/-! ## The opening match -/

def openingMatch : MatchIdentity :=
  { providerSourceId := "feed"
    revisionDomainId := "feed:main"
    sourceLineageSha256 := "0000000000000000000000000000000000000000000000000000000000000000"
    providerMatchId := "match-1"
    homePlayerId := "home-1"
    awayPlayerId := "away-1"
    scheduledStartWallNs := 0
    matchFormat := .standardAdvantageBo3Tb7AllSets }

def openingTimes : EventTimes := ⟨0, 0, 0, 0⟩

def openingScore : Score :=
  { status := .live
    terminationKind := .none
    winner := none
    retiredSide := none
    completedSets := []
    gamesHome := 0
    gamesAway := 0
    pointsHome := .love
    pointsAway := .love
    inTiebreak := false
    tiebreakPointsHome := 0
    tiebreakPointsAway := 0
    tiebreakFirstServer := none
    serverForNextPoint := some .home }

def openingState : TennisState :=
  { openingMatch, openingScore, BlockMetadata.clear with
    correctionEpoch := 0
    revision := 1
    snapshotComplete := true
    lastProviderEventId := "start"
    lastEventSemanticSha256 := "0000000000000000000000000000000000000000000000000000000000000000"
    correctionLineageSha256 := "0000000000000000000000000000000000000000000000000000000000000000"
    lastSourceWallNs := 0
    lastSourceGeneratedWallNs := 0
    lastReceivedMonotonicNs := 0
    lastClockUncertaintyNs := 0 }

def openingPoint : ProviderPoint :=
  { openingMatch, openingTimes with
    providerEventId := "point-1"
    correctionEpoch := 0
    revision := 2
    pointWinner := .away
    serverBeforePoint := .home }

theorem openingState_accepted : openingState.postInit = .ok () := by decide +kernel

theorem openingPoint_accepted : openingPoint.postInit = .ok () := by decide +kernel

/-- A point of the opening match. -/
def rallyPoint (revision : Nat) (winner server : PlayerSide) : ProviderPoint :=
  { openingPoint with revision := revision, pointWinner := winner, serverBeforePoint := server }

/-- Points of the opening match from a record on, until the match is over. -/
def rally (record : MatchRecord) (revision : Nat) : List PlayerSide → List ProviderPoint
  | [] => []
  | w :: rest =>
      if MatchOver 2 record.sets then []
      else
        rallyPoint (revision + 1) w ((record.score 2 .home).serverForNextPoint.getD .home) ::
          rally (record.extend w) (revision + 1) rest

theorem rallyPoint_accepted {revision : Nat} (winner server : PlayerSide) (positive : 0 < revision)
    (small : revision < integerBound) : (rallyPoint revision winner server).postInit = .ok () := by
  have event := IncrementalEvent.postInit_eq_ok.mp openingPoint_accepted
  exact IncrementalEvent.postInit_eq_ok.mpr { event with revision := small, positive := positive }

/-- A state of the opening match at a record. -/
structure InRally (s : TennisState) (record : MatchRecord) : Prop where
  identity : s.toMatchIdentity = openingMatch
  epoch : s.correctionEpoch = 0
  received : s.lastReceivedMonotonicNs = 0
  tracks : Tracks s 2 .home record

theorem rally_step {s : TennisState} {record : MatchRecord} (w : PlayerSide)
    (inRally : InRally s record) (going : ¬MatchOver 2 record.sets)
    (small : s.revision + 1 < integerBound) {p : ProviderPoint}
    (is : p = rallyPoint (s.revision + 1) w
      ((record.score 2 .home).serverForNextPoint.getD .home)) :
    Continues s p ∧ ∃ r, applyPoint s p = .ok r ∧ r.state.revision = s.revision + 1 ∧
      InRally r.state (record.extend w) := by
  have format : setsRequired s.matchFormat = 2 := by
    rw [inRally.identity]
    rfl
  have continues : Continues s p := by
    subst is
    refine ⟨rallyPoint_accepted _ _ (Nat.succ_pos _) small, inRally.identity.symm,
      inRally.epoch.symm, rfl, inRally.received.le, fun side known => ?_⟩
    show (record.score 2 .home).serverForNextPoint.getD .home = side
    rw [← inRally.tracks.score]
    exact congrArg (Option.getD · PlayerSide.home) known
  have tracks := inRally.tracks
  rw [← format] at tracks going
  obtain ⟨digest, next, after, applies, onward⟩ := applyPoint_tracks tracks going continues
  rw [format] at onward
  subst is
  refine ⟨continues, _, applies, ?_, ?_, ?_, ?_, onward⟩ <;> rw [after]
  · rfl
  · exact inRally.identity
  · exact inRally.epoch
  · rfl

theorem rally_continues (winners : List PlayerSide) : ∀ {s : TennisState} {record : MatchRecord},
    InRally s record → s.revision + winners.length < integerBound →
      AllContinue s (rally record s.revision winners) := by
  induction winners with
  | nil => exact fun _ _ => trivial
  | cons w rest ih =>
      intro s record inRally small
      rw [List.length_cons] at small
      rw [rally]
      split_ifs with ended
      · trivial
      obtain ⟨continues, r, applies, revision, next⟩ :=
        rally_step w inRally ended (by omega) rfl
      refine ⟨continues, fun r' applies' => ?_⟩
      obtain rfl := Except.ok.inj (applies.symm.trans applies')
      rw [← revision]
      exact ih next (by omega)

/-- A game to fifteen each way, and two points of the next. -/
def openingWinners : List PlayerSide :=
  [.away, .home, .home, .home, .home, .home, .away, .away, .away, .away, .home, .home]

/-- Two games of the opening match and the points after them. -/
theorem points_follow_rules_opening :
    ∃ applied blocked, ∃ record : MatchRecord,
      foldPoints openingState (rally ⟨[], [], []⟩ 1 openingWinners) = .ok (applied ++ blocked) ∧
      record.Declares 2 openingWinners ∧
      (∀ other : MatchRecord, other.Declares 2 openingWinners → other = record) ∧
      (finalState openingState (applied ++ blocked)).toScore = record.score 2 .home ∧
      applied.length = record.played.length ∧
      (∀ r ∈ applied, r.disposition = .applied) ∧
      ∀ r ∈ blocked, r.disposition = .blocked ∧ r.state.toScore = record.score 2 .home := by
  have fresh : FreshlyStarted openingState .home := ⟨openingState_accepted, rfl, rfl⟩
  have large : 13 < integerBound := by norm_num [integerBound]
  have winners : (rally ⟨[], [], []⟩ 1 openingWinners).map (·.pointWinner) = openingWinners := by
    decide +kernel
  have follows := points_follow_rules openingState .home (rally ⟨[], [], []⟩ 1 openingWinners) fresh
    (rally_continues openingWinners ⟨rfl, rfl, rfl, freshlyStarted_tracks fresh⟩ large)
  rw [winners] at follows
  exact follows

end Inci.Tennis
