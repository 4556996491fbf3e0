/-
# Tennis.Steps -- what one event can do to a tennis state

`Advance` says once what an incremental event can do: leave the state alone,
install a block over an unblocked state, or apply at the next revision.  The
machine's functions are inverted into it here (`applyPoint_advance`,
`applyLifecycle_advance`), a correction into `Corrected`, and the rest of the
development reads those instead of the branches.  The totality lemmas say when
the constructors inside a step accept.
-/
import Inci.Tennis.Machine

namespace Inci.Tennis

open Inci.Theory Inci.Expert

set_option autoImplicit false

/-! ## Constructed records -/

/-- The conditions of `TennisState.postInit`, group by group. -/
structure TennisState.Constructed (s : TennisState) : Prop where
  identity : validateIdentity s.toMatchIdentity none = .ok ()
  supported : s.matchFormat ∈ supportedFormats
  status : validateStatus s.toScore = .ok ()
  score : validateScore s.toScore = .ok ()
  correctionEpoch : s.correctionEpoch < integerBound
  revision : s.revision < integerBound
  complete : s.snapshotComplete = true
  eventId : SafeId s.lastProviderEventId
  eventDigest : IsSha256 s.lastEventSemanticSha256
  lineage : IsSha256 s.correctionLineageSha256
  sourceWall : s.lastSourceWallNs < integerBound
  generatedWall : s.lastSourceGeneratedWallNs < integerBound
  received : s.lastReceivedMonotonicNs < integerBound
  uncertainty : s.lastClockUncertaintyNs < integerBound
  block : s.toBlockMetadata.postInit = .ok ()

theorem TennisState.postInit_eq_ok {s : TennisState} : s.postInit = .ok () ↔ s.Constructed := by
  constructor
  · intro accepted
    simp only [TennisState.postInit, bind_eq_ok, exists_unit, refuse_eq_ok, integer_eq_ok, safeId_eq_ok,
      sha256_eq_ok, not_not, Bool.not_eq_false] at accepted
    obtain ⟨h1, h2, h3, h4, h5, h6, h7, h8, h9, h10, h11, h12, h13, h14, h15⟩ := accepted
    exact ⟨h1, h2, h3, h4, h5, h6, h7, h8, h9, h10, h11, h12, h13, h14, h15⟩
  · intro good
    simp only [TennisState.postInit, bind_eq_ok, exists_unit, refuse_eq_ok, integer_eq_ok, safeId_eq_ok,
      sha256_eq_ok, not_not, Bool.not_eq_false]
    exact ⟨good.identity, good.supported, good.status, good.score, good.correctionEpoch,
      good.revision, good.complete, good.eventId, good.eventDigest, good.lineage,
      good.sourceWall, good.generatedWall, good.received, good.uncertainty, good.block⟩

theorem TennisState.construct_eq_ok {s t : TennisState} :
    s.construct = .ok t ↔ s.Constructed ∧ s = t := by
  simp [TennisState.construct, ← TennisState.postInit_eq_ok]

structure IncrementalEvent.Constructed (e : IncrementalEvent) : Prop where
  eventId : SafeId e.providerEventId
  identity : validateIdentity e.toMatchIdentity (some e.providerEventId) = .ok ()
  correctionEpoch : e.correctionEpoch < integerBound
  revision : e.revision < integerBound
  positive : 0 < e.revision
  sourceWall : e.sourceWallNs < integerBound
  generatedWall : e.sourceGeneratedWallNs < integerBound
  received : e.receivedMonotonicNs < integerBound
  uncertainty : e.clockUncertaintyNs < integerBound

theorem IncrementalEvent.postInit_eq_ok {e : IncrementalEvent} :
    e.postInit = .ok () ↔ e.Constructed := by
  simp only [IncrementalEvent.postInit, validateEventTimes, bind_eq_ok, exists_unit, integer_eq_ok,
    safeId_eq_ok, positiveInteger_eq_ok]
  constructor
  · rintro ⟨h1, h2, h3, ⟨h4, h5⟩, h6, h7, h8, h9⟩
    exact ⟨h1, h2, h3, h4, h5, h6, h7, h8, h9⟩
  · intro h
    exact ⟨h.eventId, h.identity, h.correctionEpoch, ⟨h.revision, h.positive⟩, h.sourceWall,
      h.generatedWall, h.received, h.uncertainty⟩

theorem result_eq_ok {s : TennisState} {d : TransitionDisposition} {reason : TennisTransitionReason}
    {digest : String} {r : TennisTransitionResult} :
    result s d reason digest = .ok r ↔ IsSha256 digest ∧ r = ⟨s, d, reason, digest⟩ := by
  simp only [result, TennisTransitionResult.postInit, bind_eq_ok, exists_unit, sha256_eq_ok,
    pure_eq_ok, eq_comm (a := r)]

theorem eventSemantic_isSha256 {kind : String} {event : List (String × PyValue)}
    {bytes : List UInt8} {digest : String}
    (computed : eventSemantic kind event = .ok (bytes, digest)) : IsSha256 digest := by
  simp only [eventSemantic, bind_eq_ok, pure_eq_ok, Prod.mk.injEq] at computed
  obtain ⟨_, -, rfl, rfl⟩ := computed
  exact hexdigest_isSha256 _

/-! ## Totality -/

theorem eventSemantic_total (kind : String) {event : List (String × PyValue)}
    (encodable : EncodesFields event) :
    ∃ bytes digest, eventSemantic kind event = .ok (bytes, digest) := by
  have whole : Encodes (.dict [("schema", .text "provider_event_semantic_v1"),
      ("event_kind", .text kind), ("event", .dict event)]) := by
    simp [Encodes, EncodesFields, encodable]
  obtain ⟨projected, projects⟩ := (project_total _).mpr whole
  simp [eventSemantic, canonicalExpertBytes, projects]

theorem identity_encodable {m : MatchIdentity} {id : Option String}
    (event : List (String × PyValue)) (accepted : validateIdentity m id = .ok ())
    (encodable : EncodesFields event) : EncodesFields (m.py event) := by
  simp only [validateIdentity, bind_eq_ok, exists_unit, integer_eq_ok] at accepted
  simp [MatchIdentity.py, encodesFields_append, EncodesFields, encodable, accepted,
    MatchFormat.py]

theorem IncrementalEvent.times_encodable {e : IncrementalEvent} (good : e.Constructed) :
    EncodesFields e.toEventTimes.semanticPy := by
  simp [EventTimes.semanticPy, EncodesFields, good.sourceWall, good.generatedWall,
    good.uncertainty]

theorem ProviderPoint.semantic_total {p : ProviderPoint} (accepted : p.postInit = .ok ()) :
    ∃ bytes digest, p.semantic = .ok (bytes, digest) := by
  have good := IncrementalEvent.postInit_eq_ok.mp accepted
  refine eventSemantic_total _ ?_
  have identity := identity_encodable [("provider_event_id", .text p.providerEventId)]
    good.identity (by simp [EncodesFields])
  simp [ProviderPoint.fields, encodesFields_append, identity, IncrementalEvent.times_encodable good,
    EncodesFields, good.correctionEpoch, good.revision, PlayerSide.py]

theorem SetScore.encodes {s : SetScore} (accepted : s.postInit = .ok ()) : Encodes s.py := by
  simp only [SetScore.postInit, bind_eq_ok, exists_unit, integer_eq_ok, checkSome_eq_ok] at accepted
  obtain ⟨home, away, tiebreakHome, tiebreakAway, -⟩ := accepted
  simp [SetScore.py, Encodes, EncodesFields, home, away]
  exact ⟨tiebreakHome, tiebreakAway⟩

theorem score_encodes {s : Score} (accepted : validateScore s = .ok ())
    (sets : ∀ set ∈ s.completedSets, set.postInit = .ok ()) : EncodesFields s.py := by
  simp only [validateScore, bind_eq_ok, exists_unit, integer_eq_ok] at accepted
  obtain ⟨home, away, tiebreakHome, tiebreakAway, -⟩ := accepted
  have built : EncodesAll (s.completedSets.map SetScore.py) := by
    rw [encodesAll_iff]
    intro v member
    obtain ⟨set, inside, rfl⟩ := List.mem_map.mp member
    exact SetScore.encodes (sets set inside)
  simp [Score.py, EncodesFields, home, away, tiebreakHome, tiebreakAway, MatchStatus.py,
    TerminationKind.py, ScoreValue.py, PlayerSide.py, Encodes, built]

theorem ProviderSnapshot.semantic_total {e : ProviderSnapshot} (accepted : e.postInit = .ok ())
    (sets : ∀ set ∈ e.completedSets, set.postInit = .ok ()) :
    ∃ bytes digest, e.semantic = .ok (bytes, digest) := by
  simp only [ProviderSnapshot.postInit, validateEventTimes, bind_eq_ok, exists_unit,
    integer_eq_ok, safeId_eq_ok] at accepted
  obtain ⟨-, identity, -, score, epoch, revision, source, generated, -, uncertainty⟩ := accepted
  refine eventSemantic_total "snapshot" ?_
  have who := identity_encodable [("provider_event_id", .text e.providerEventId)]
    identity (by simp [EncodesFields])
  simp [ProviderSnapshot.fields, encodesFields_append, who, score_encodes score sets,
    EventTimes.semanticPy, EncodesFields, epoch, revision, source, generated, uncertainty]

/-- A well-formed snapshot in a supported format has the fields of a state. -/
theorem stateFromSnapshotFields_constructed {e : ProviderSnapshot} {digest lineage : String}
    (accepted : e.postInit = .ok ()) (supported : e.matchFormat ∈ supportedFormats)
    (digests : IsSha256 digest) (descends : IsSha256 lineage) :
    (stateFromSnapshotFields e digest lineage).Constructed := by
  simp only [ProviderSnapshot.postInit, validateEventTimes, bind_eq_ok, exists_unit,
    integer_eq_ok, safeId_eq_ok] at accepted
  obtain ⟨eventId, identity, status, score, epoch, revision, source, generated, received,
    uncertainty⟩ := accepted
  refine ⟨?_, supported, status, score, epoch, revision, rfl, eventId, digests, descends, source,
    generated, received, uncertainty,
    by simp [BlockMetadata.postInit, stateFromSnapshotFields, BlockMetadata.clear]⟩
  simp only [validateIdentity, bind_eq_ok, exists_unit] at identity ⊢
  obtain ⟨h1, h2, h3, -, rest⟩ := identity
  exact ⟨h1, h2, h3, rfl, rest⟩

theorem reachable_supported {format : MatchFormat} {v : Score} (legal : reachable format v = true) :
    format ∈ supportedFormats := by
  by_contra unsupported
  rw [reachable, if_pos unsupported] at legal
  exact Bool.false_ne_true legal

/-- A complete and reachable snapshot in a supported format starts a match. -/
theorem stateFromSnapshot_total {e : ProviderSnapshot} (accepted : e.postInit = .ok ())
    (sets : ∀ set ∈ e.completedSets, set.postInit = .ok ()) (complete : e.snapshotComplete = true)
    (legal : reachable e.matchFormat e.toScore = true) :
    ∃ start, stateFromSnapshot e = .ok start := by
  obtain ⟨bytes, digest, semantic⟩ := ProviderSnapshot.semantic_total accepted sets
  have supported := reachable_supported legal
  have named : ¬e.matchFormat = .unsupported := by
    intro unsupported
    rw [unsupported] at supported
    exact absurd supported (by decide)
  have constructed := stateFromSnapshotFields_constructed accepted supported
    (eventSemantic_isSha256 semantic)
    (hexdigest_isSha256 (domain "inci-tennis-initial-lineage-v1" ++ bytes))
  refine ⟨stateFromSnapshotFields e digest (Sha256.hexdigest
    (domain "inci-tennis-initial-lineage-v1" ++ bytes)), ?_⟩
  simp only [stateFromSnapshot, semantic, ok_bind, refuse, named,
    complete, legal, Bool.true_eq_false, or_self, if_false]
  exact TennisState.construct_eq_ok.mpr ⟨constructed, rfl⟩

theorem blocked_total {s : TennisState} {e : IncrementalEvent} {digest : String}
    (reason : TennisTransitionReason) (good : s.Constructed) (event : e.Constructed)
    (digests : IsSha256 digest) (installable : reason ∈ installedBlockReasons)
    (noGap : reason ≠ .providerEventGap) :
    blocked s e digest reason =
      .ok ⟨blockState s reason digest e.receivedMonotonicNs none none, .blocked, reason, digest⟩ := by
  have constructed : (blockState s reason digest e.receivedMonotonicNs none none).Constructed := by
    refine ⟨good.identity, good.supported, good.status, good.score, good.correctionEpoch,
      good.revision, good.complete, good.eventId, good.eventDigest, good.lineage, good.sourceWall,
      good.generatedWall, good.received, good.uncertainty, ?_⟩
    simp [BlockMetadata.postInit, blockState, digests, event.received, installable, noGap]
  simp only [blocked, TennisState.construct_eq_ok.mpr ⟨constructed, rfl⟩, ok_bind]
  exact result_eq_ok.mpr ⟨digests, rfl⟩

/-! ## Inversion of the incremental events -/

/-- The state an event applies to with a score, before it is constructed. -/
def appliedFields (s : TennisState) (e : IncrementalEvent) (digest : String) (score : Score) :
    TennisState :=
  { s.toMatchIdentity, score, BlockMetadata.clear with
    correctionEpoch := s.correctionEpoch
    revision := e.revision
    snapshotComplete := s.snapshotComplete
    lastProviderEventId := e.providerEventId
    lastEventSemanticSha256 := digest
    correctionLineageSha256 := s.correctionLineageSha256
    lastSourceWallNs := e.sourceWallNs
    lastSourceGeneratedWallNs := e.sourceGeneratedWallNs
    lastReceivedMonotonicNs := e.receivedMonotonicNs
    lastClockUncertaintyNs := e.clockUncertaintyNs }

theorem appliedState_eq (s : TennisState) (e : IncrementalEvent) (digest : String)
    (score : Score) : appliedState s e digest score = (appliedFields s e digest score).construct :=
  rfl

/-- The conditions under which the precheck lets an event through. -/
structure Admitted (s : TennisState) (e : IncrementalEvent) : Prop where
  unblocked : s.blockReason = none
  identity : e.toMatchIdentity = s.toMatchIdentity
  received : s.lastReceivedMonotonicNs ≤ e.receivedMonotonicNs
  epoch : e.correctionEpoch = s.correctionEpoch
  revision : e.revision = s.revision + 1

/-- What an incremental event with this digest can do to a state. -/
inductive Advance (s : TennisState) (e : IncrementalEvent) (digest : String) :
    TennisTransitionResult → Prop where
  /-- Already blocked, or an exact duplicate. -/
  | unchanged (d : TransitionDisposition) (reason : TennisTransitionReason)
      (kept : (d = .blocked ∧ s.blockReason.isSome) ∨
        (d = .duplicate ∧ s.blockReason = none ∧ e.correctionEpoch = s.correctionEpoch ∧
          e.revision = s.revision ∧ digest = s.lastEventSemanticSha256)) :
      Advance s e digest ⟨s, d, reason, digest⟩
  | installed (reason : TennisTransitionReason) (expected observed : Option Nat)
      (unblocked : s.blockReason = none)
      (constructed : (blockState s reason digest e.receivedMonotonicNs expected observed).Constructed) :
      Advance s e digest
        ⟨blockState s reason digest e.receivedMonotonicNs expected observed, .blocked, reason, digest⟩
  | applied (score : Score) (reason : TennisTransitionReason) (admitted : Admitted s e)
      (constructed : (appliedFields s e digest score).Constructed) :
      Advance s e digest ⟨appliedFields s e digest score, .applied, reason, digest⟩

theorem blocked_advance {s : TennisState} {e : IncrementalEvent} {digest : String}
    {reason : TennisTransitionReason} {expected observed : Option Nat}
    {r : TennisTransitionResult} (unblocked : s.blockReason = none)
    (answer : blocked s e digest reason expected observed = .ok r) : Advance s e digest r := by
  simp only [blocked, bind_eq_ok, TennisState.construct_eq_ok, result_eq_ok] at answer
  obtain ⟨_, ⟨constructed, rfl⟩, -, rfl⟩ := answer
  exact .installed reason expected observed unblocked constructed

/-- The precheck answers with an `Advance` of its own, or admits the event. -/
theorem incrementalPrecheck_cases {s : TennisState} {e : IncrementalEvent} {digest : String}
    {o : Option TennisTransitionResult} (answer : incrementalPrecheck s e digest = .ok o) :
    (∃ r, o = some r ∧ r.disposition ≠ .applied ∧ Advance s e digest r) ∨
      (o = none ∧ Admitted s e) := by
  unfold incrementalPrecheck at answer
  have install : ∀ {reason expected observed}, s.blockReason = none →
      some <$> blocked s e digest reason expected observed = .ok o →
      ∃ r, o = some r ∧ r.disposition ≠ .applied ∧ Advance s e digest r := by
    intro reason expected observed unblocked answer
    obtain ⟨r, built, rfl⟩ := map_eq_ok.mp answer
    refine ⟨r, rfl, ?_, blocked_advance unblocked built⟩
    simp only [blocked, bind_eq_ok, TennisState.construct_eq_ok, result_eq_ok] at built
    obtain ⟨_, -, -, rfl⟩ := built
    simp
  rw [ite_eq_iff] at answer
  rcases answer with ⟨isBlocked, answer⟩ | ⟨notBlocked, answer⟩
  · obtain ⟨r, built, rfl⟩ := map_eq_ok.mp answer
    obtain ⟨-, rfl⟩ := result_eq_ok.mp built
    exact .inl ⟨_, rfl, by simp, .unchanged _ _ (.inl ⟨rfl, isBlocked⟩)⟩
  have unblocked : s.blockReason = none := by simpa using notBlocked
  iterate 7
    rw [ite_eq_iff] at answer
    rcases answer with ⟨-, answer⟩ | ⟨_, answer⟩
    · exact .inl (install unblocked answer)
  rename_i identity source revisionDomain format received older newer
  rw [ite_eq_iff] at answer
  rcases answer with ⟨same, answer⟩ | ⟨different, answer⟩
  · rw [ite_eq_iff] at answer
    rcases answer with ⟨digests, answer⟩ | ⟨-, answer⟩
    · obtain ⟨r, built, rfl⟩ := map_eq_ok.mp answer
      obtain ⟨-, rfl⟩ := result_eq_ok.mp built
      exact .inl ⟨_, rfl, by simp, .unchanged _ _ (.inr ⟨rfl, unblocked, by omega, same, digests⟩)⟩
    · exact .inl (install unblocked answer)
  rw [ite_eq_iff] at answer
  rcases answer with ⟨-, answer⟩ | ⟨stale, answer⟩
  · exact .inl (install unblocked answer)
  rw [ite_eq_iff] at answer
  rcases answer with ⟨-, answer⟩ | ⟨gap, answer⟩
  · exact .inl (install unblocked answer)
  refine .inr ⟨by simpa [pure, Except.pure, eq_comm] using answer, unblocked, ?_, by omega,
    by omega, by omega⟩
  obtain ⟨⟨_, _, _, _, _, _, _, _⟩, _, _, _, _⟩ := e
  simp only [not_or, not_not, ne_eq] at identity source revisionDomain format
  obtain ⟨rfl, rfl, rfl, rfl⟩ := identity
  obtain ⟨rfl, rfl⟩ := source
  subst revisionDomain format
  rfl

theorem incrementalPrecheck_admitted {s : TennisState} {e : IncrementalEvent} {digest : String}
    (admitted : Admitted s e) : incrementalPrecheck s e digest = .ok none := by
  have unblocked : ¬s.blockReason.isSome = true := by simp [admitted.unblocked]
  have identity := admitted.identity
  have received := admitted.received
  have epoch := admitted.epoch
  have revision := admitted.revision
  have same := congrArg MatchIdentity.matchFormat identity
  rw [incrementalPrecheck, if_neg unblocked]
  rw [if_neg (by simp [identity]), if_neg (by simp [identity]), if_neg (by simp [identity]),
    if_neg (by simp [identity]), if_neg (by omega), if_neg (by omega), if_neg (by omega),
    if_neg (by omega), if_neg (by omega), if_neg (by omega)]
  rfl

/-- A point's step, with the score it leads to when it applies. -/
theorem applyPoint_cases {s : TennisState} {p : ProviderPoint} {r : TennisTransitionResult}
    (answer : applyPoint s p = .ok r) :
    ∃ bytes digest, p.semantic = .ok (bytes, digest) ∧
      reachable s.matchFormat s.toScore = true ∧
      ((r.disposition ≠ .applied ∧ Advance s p.toIncrementalEvent digest r) ∨
        (Admitted s p.toIncrementalEvent ∧ s.status = .live ∧
          some p.serverBeforePoint = s.serverForNextPoint ∧
          ∃ score, advanceScore s.matchFormat s.toScore p.pointWinner = .ok score ∧
            (appliedFields s p.toIncrementalEvent digest score).Constructed ∧
            r = ⟨appliedFields s p.toIncrementalEvent digest score, .applied, .pointApplied,
              digest⟩)) := by
  simp only [applyPoint, validateTennisState, bind_eq_ok, exists_unit, refuse_eq_ok,
    Prod.exists, Bool.not_eq_false] at answer
  obtain ⟨legal, bytes, digest, semantic, o, prechecked, answer⟩ := answer
  refine ⟨bytes, digest, semantic, legal, ?_⟩
  rcases incrementalPrecheck_cases prechecked with ⟨r', rfl, notApplied, advance⟩ | ⟨rfl, admitted⟩
  · simp only [pure_eq_ok] at answer
    subst answer
    exact .inl ⟨notApplied, advance⟩
  have install : ∀ {reason}, blocked s p.toIncrementalEvent digest reason = .ok r →
      r.disposition ≠ .applied ∧ Advance s p.toIncrementalEvent digest r := by
    intro reason answer
    refine ⟨?_, blocked_advance admitted.unblocked answer⟩
    simp only [blocked, bind_eq_ok, result_eq_ok] at answer
    obtain ⟨_, -, -, rfl⟩ := answer
    simp
  simp only at answer
  iterate 3
    split at answer
    · exact .inl (install answer)
  rename_i notTerminal live server
  simp only [bind_eq_ok, appliedState_eq, TennisState.construct_eq_ok, result_eq_ok] at answer
  obtain ⟨score, advanced, _, ⟨constructed, rfl⟩, -, rfl⟩ := answer
  exact .inr ⟨admitted, not_not.mp live, not_not.mp server, score, advanced, constructed, rfl⟩

theorem applyPoint_advance {s : TennisState} {p : ProviderPoint} {r : TennisTransitionResult}
    (answer : applyPoint s p = .ok r) :
    ∃ bytes digest, p.semantic = .ok (bytes, digest) ∧
      Advance s p.toIncrementalEvent digest r := by
  obtain ⟨bytes, digest, semantic, -, ⟨-, advance⟩ | ⟨admitted, -, -, score, -, constructed, rfl⟩⟩ :=
    applyPoint_cases answer
  · exact ⟨bytes, digest, semantic, advance⟩
  · exact ⟨bytes, digest, semantic, .applied score _ admitted constructed⟩

/-- An admitted point with a score to go to applies. -/
theorem applyPoint_applied {s : TennisState} {p : ProviderPoint} {bytes : List UInt8}
    {digest : String} {score : Score} (legal : reachable s.matchFormat s.toScore = true)
    (semantic : p.semantic = .ok (bytes, digest)) (admitted : Admitted s p.toIncrementalEvent)
    (live : s.status = .live) (server : some p.serverBeforePoint = s.serverForNextPoint)
    (advanced : advanceScore s.matchFormat s.toScore p.pointWinner = .ok score)
    (constructed : (appliedFields s p.toIncrementalEvent digest score).Constructed) :
    applyPoint s p = .ok
      ⟨appliedFields s p.toIncrementalEvent digest score, .applied, .pointApplied, digest⟩ := by
  simp only [applyPoint, validateTennisState, refuse, legal, Bool.true_eq_false, if_false,
    semantic, ok_bind, incrementalPrecheck_admitted admitted, terminal, live, reduceCtorEq,
    or_self, decide_false, Bool.false_eq_true, ne_eq, not_true_eq_false, server, advanced,
    appliedState_eq, TennisState.construct_eq_ok.mpr ⟨constructed, rfl⟩]
  exact result_eq_ok.mpr ⟨eventSemantic_isSha256 semantic, rfl⟩

/-- The score an admitted lifecycle event applies with: the same score when it
confirms the end, else the change it makes. -/
def lifecycleScore (s : Score) (e : ProviderLifecycle) :
    Option (Score × TennisTransitionReason) :=
  if s.status = .ended ∧ s.terminationKind = .natural ∧ e.kind = .naturalEndConfirmation then
    if e.winner = s.winner ∧ e.retiredSide = none ∧ e.serverForNextPoint = none then
      some (s, .naturalEndConfirmed)
    else none
  else if terminal s.status then none
  else match lifecycleChanges s e with
  | none => none
  | some (score, compareServer) =>
      if compareServer ∧ e.serverForNextPoint ≠ s.serverForNextPoint then none
      else some (score, .lifecycleApplied)

theorem applyLifecycle_cases {s : TennisState} {e : ProviderLifecycle} {r : TennisTransitionResult}
    (answer : applyLifecycle s e = .ok r) :
    ∃ bytes digest, e.semantic = .ok (bytes, digest) ∧
      reachable s.matchFormat s.toScore = true ∧
      ((r.disposition ≠ .applied ∧ Advance s e.toIncrementalEvent digest r) ∨
        (Admitted s e.toIncrementalEvent ∧ ∃ score reason,
          lifecycleScore s.toScore e = some (score, reason) ∧
          (appliedFields s e.toIncrementalEvent digest score).Constructed ∧
          r = ⟨appliedFields s e.toIncrementalEvent digest score, .applied, reason, digest⟩)) := by
  simp only [applyLifecycle, validateTennisState, bind_eq_ok, exists_unit, refuse_eq_ok,
    Prod.exists, Bool.not_eq_false] at answer
  obtain ⟨legal, bytes, digest, semantic, o, prechecked, answer⟩ := answer
  refine ⟨bytes, digest, semantic, legal, ?_⟩
  rcases incrementalPrecheck_cases prechecked with ⟨r', rfl, notApplied, advance⟩ | ⟨rfl, admitted⟩
  · simp only [pure_eq_ok] at answer
    subst answer
    exact .inl ⟨notApplied, advance⟩
  have install : ∀ {reason}, blocked s e.toIncrementalEvent digest reason = .ok r →
      r.disposition ≠ .applied ∧ Advance s e.toIncrementalEvent digest r := by
    intro reason answer
    refine ⟨?_, blocked_advance admitted.unblocked answer⟩
    simp only [blocked, bind_eq_ok, result_eq_ok] at answer
    obtain ⟨_, -, -, rfl⟩ := answer
    simp
  simp only at answer
  split at answer
  · rename_i confirmation
    split at answer
    · rename_i agrees
      simp only [bind_eq_ok, appliedState_eq, TennisState.construct_eq_ok, result_eq_ok] at answer
      obtain ⟨_, ⟨constructed, rfl⟩, -, rfl⟩ := answer
      exact .inr ⟨admitted, _, _, by rw [lifecycleScore, if_pos confirmation, if_pos agrees],
        constructed, rfl⟩
    · exact .inl (install answer)
  rename_i unconfirmed
  split at answer
  · exact .inl (install answer)
  rename_i running
  split at answer
  · exact .inl (install answer)
  rename_i score compareServer changes
  split at answer
  · exact .inl (install answer)
  rename_i agreed
  simp only [bind_eq_ok, appliedState_eq, TennisState.construct_eq_ok, result_eq_ok] at answer
  obtain ⟨_, ⟨constructed, rfl⟩, -, rfl⟩ := answer
  refine .inr ⟨admitted, score, .lifecycleApplied, ?_, constructed, rfl⟩
  rw [lifecycleScore, if_neg unconfirmed, if_neg running, changes]
  exact if_neg agreed

theorem applyLifecycle_applied {s : TennisState} {e : ProviderLifecycle} {bytes : List UInt8}
    {digest : String} {score : Score} {reason : TennisTransitionReason}
    (legal : reachable s.matchFormat s.toScore = true)
    (semantic : e.semantic = .ok (bytes, digest)) (admitted : Admitted s e.toIncrementalEvent)
    (applies : lifecycleScore s.toScore e = some (score, reason))
    (constructed : (appliedFields s e.toIncrementalEvent digest score).Constructed) :
    applyLifecycle s e = .ok
      ⟨appliedFields s e.toIncrementalEvent digest score, .applied, reason, digest⟩ := by
  have digests : IsSha256 digest := eventSemantic_isSha256 semantic
  simp only [applyLifecycle, validateTennisState, refuse, legal, Bool.true_eq_false, if_false,
    semantic, ok_bind, incrementalPrecheck_admitted admitted]
  unfold lifecycleScore at applies
  split_ifs at applies ⊢ with confirmation agrees running
  · obtain ⟨rfl, rfl⟩ : s.toScore = score ∧ _ = reason := by simpa using applies
    rw [appliedState_eq, TennisState.construct_eq_ok.mpr ⟨constructed, rfl⟩]
    exact result_eq_ok.mpr ⟨digests, rfl⟩
  · cases changes : lifecycleChanges s.toScore e with
    | none => simp [changes] at applies
    | some change =>
        obtain ⟨changed, compareServer⟩ := change
        simp only [changes] at applies ⊢
        split_ifs at applies ⊢
        obtain ⟨rfl, rfl⟩ : changed = score ∧ _ = reason := by simpa using applies
        rw [appliedState_eq, TennisState.construct_eq_ok.mpr ⟨constructed, rfl⟩]
        exact result_eq_ok.mpr ⟨digests, rfl⟩

theorem applyLifecycle_advance {s : TennisState} {e : ProviderLifecycle}
    {r : TennisTransitionResult} (answer : applyLifecycle s e = .ok r) :
    ∃ bytes digest, e.semantic = .ok (bytes, digest) ∧
      Advance s e.toIncrementalEvent digest r := by
  obtain ⟨bytes, digest, semantic, -, ⟨-, advance⟩ | ⟨admitted, score, reason, -, constructed,
    rfl⟩⟩ := applyLifecycle_cases answer
  · exact ⟨bytes, digest, semantic, advance⟩
  · exact ⟨bytes, digest, semantic, .applied score _ admitted constructed⟩

/-! ## Inversion of a correction -/

/-- What a replacement snapshot with this digest can do to a state. -/
inductive Corrected (s : TennisState) (e : ProviderSnapshot) (digest : String) :
    TennisTransitionResult → Prop where
  /-- Rejected by a blocked state, or an exact duplicate. -/
  | unchanged (d : TransitionDisposition) (reason : TennisTransitionReason)
      (kept : (d = .blocked ∧ s.blockReason.isSome) ∨
        (d = .duplicate ∧ e.correctionEpoch = s.correctionEpoch ∧ e.revision = s.revision ∧
          digest = s.lastEventSemanticSha256)) :
      Corrected s e digest ⟨s, d, reason, digest⟩
  | installed (reason : TennisTransitionReason) (unblocked : s.blockReason = none)
      (constructed : (blockState s reason digest e.receivedMonotonicNs none none).Constructed) :
      Corrected s e digest
        ⟨blockState s reason digest e.receivedMonotonicNs none none, .blocked, reason, digest⟩
  | replaced (lineage : String) (identity : e.toMatchIdentity = s.toMatchIdentity)
      (received : minimumReceipt s ≤ e.receivedMonotonicNs)
      (newer : s.correctionEpoch < e.correctionEpoch) (complete : e.snapshotComplete = true)
      (legal : reachable e.matchFormat e.toScore = true)
      (constructed : (stateFromSnapshotFields e digest lineage).Constructed) :
      Corrected s e digest
        ⟨stateFromSnapshotFields e digest lineage, .applied, .correctionApplied, digest⟩

theorem correctionRejected_corrected {s : TennisState} {e : ProviderSnapshot} {digest : String}
    {reason : TennisTransitionReason} {r : TennisTransitionResult}
    (answer : correctionRejected s e digest reason = .ok r) : Corrected s e digest r := by
  unfold correctionRejected at answer
  simp only [ite_eq_iff, pure_bind, bind_eq_ok, TennisState.construct_eq_ok, result_eq_ok]
    at answer
  rcases answer with ⟨isBlocked, -, rfl⟩ | ⟨notBlocked, _, ⟨constructed, rfl⟩, -, rfl⟩
  · exact .unchanged _ _ (.inl ⟨rfl, isBlocked⟩)
  · exact .installed reason (by simpa using notBlocked) constructed

theorem applyCorrection_corrected {s : TennisState} {e : ProviderSnapshot}
    {r : TennisTransitionResult} (answer : applyCorrection s e = .ok r) :
    reachable s.matchFormat s.toScore = true ∧
      ∃ bytes digest, e.semantic = .ok (bytes, digest) ∧ Corrected s e digest r := by
  simp only [applyCorrection, validateTennisState, bind_eq_ok, exists_unit, refuse_eq_ok,
    Prod.exists, Bool.not_eq_false] at answer
  obtain ⟨legal, bytes, digest, semantic, answer⟩ := answer
  refine ⟨legal, bytes, digest, semantic, ?_⟩
  iterate 6
    rw [ite_eq_iff] at answer
    rcases answer with ⟨-, answer⟩ | ⟨_, answer⟩
    · exact correctionRejected_corrected answer
  rename_i identity source revisionDomain supported format received
  rw [ite_eq_iff] at answer
  rcases answer with ⟨⟨epoch, revision, digests⟩, answer⟩ | ⟨_, answer⟩
  · obtain ⟨-, rfl⟩ := result_eq_ok.mp answer
    exact .unchanged _ _ (.inr ⟨rfl, epoch, revision, digests⟩)
  iterate 2
    rw [ite_eq_iff] at answer
    rcases answer with ⟨-, answer⟩ | ⟨_, answer⟩
    · exact correctionRejected_corrected answer
  rename_i newer valid
  simp only [bind_eq_ok, TennisState.construct_eq_ok, result_eq_ok] at answer
  obtain ⟨_, ⟨constructed, rfl⟩, -, rfl⟩ := answer
  simp only [not_or, Bool.not_eq_false] at valid
  refine .replaced _ ?_ (by omega) (by omega) valid.1 valid.2 constructed
  obtain ⟨⟨_, _, _, _, _, _, _, _⟩, _, _, _, _, _, _⟩ := e
  simp only [not_or, not_not, ne_eq] at identity source revisionDomain format
  obtain ⟨rfl, rfl, rfl, rfl⟩ := identity
  obtain ⟨rfl, rfl⟩ := source
  subst revisionDomain format
  rfl

end Inci.Tennis
