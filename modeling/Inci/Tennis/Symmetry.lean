/-
# Tennis.Symmetry -- exchanging the sides commutes with every transition

`Mirrored` relates a state to one with the sides exchanged and digests of its
own.  Each operation keeps it: the mirrored operation answers the mirrored state
with the same disposition and reason, or raises where the operation raises
(`TennisOperation.apply_mirror`).  The digests meet in one place, the test for a
duplicate, which agrees on both sides as long as SHA-256 tells the messages of
the run apart (`Distinguished`).
-/
import Inci.Tennis.Lineage
import Inci.Tennis.Mirror

namespace Inci.Tennis

open Inci.Theory Inci.Expert

set_option autoImplicit false

/-! ## Mirrored messages -/

def MatchIdentity.mirror (m : MatchIdentity) : MatchIdentity :=
  { m with homePlayerId := m.awayPlayerId, awayPlayerId := m.homePlayerId }

def IncrementalEvent.mirror (e : IncrementalEvent) : IncrementalEvent :=
  { e with toMatchIdentity := e.toMatchIdentity.mirror }

def ProviderPoint.mirror (p : ProviderPoint) : ProviderPoint where
  toIncrementalEvent := p.toIncrementalEvent.mirror
  pointWinner := opposite p.pointWinner
  serverBeforePoint := opposite p.serverBeforePoint

def ProviderLifecycle.mirror (l : ProviderLifecycle) : ProviderLifecycle where
  toIncrementalEvent := l.toIncrementalEvent.mirror
  kind := l.kind
  winner := l.winner.map opposite
  retiredSide := l.retiredSide.map opposite
  serverForNextPoint := l.serverForNextPoint.map opposite

def ProviderSnapshot.mirror (e : ProviderSnapshot) : ProviderSnapshot :=
  { e with toMatchIdentity := e.toMatchIdentity.mirror, toScore := e.toScore.mirror }

def ProviderEvent.mirror : ProviderEvent → ProviderEvent
  | .point p => .point p.mirror
  | .lifecycle l => .lifecycle l.mirror

def TennisOperation.mirror : TennisOperation → TennisOperation
  | .event e => .event e.mirror
  | .correction e => .correction e.mirror

@[simp] theorem MatchIdentity.mirror_mirror (m : MatchIdentity) : m.mirror.mirror = m := rfl

@[simp] theorem ProviderPoint.mirror_mirror (p : ProviderPoint) : p.mirror.mirror = p := by
  cases p
  simp [ProviderPoint.mirror, IncrementalEvent.mirror]

@[simp] theorem ProviderLifecycle.mirror_mirror (l : ProviderLifecycle) : l.mirror.mirror = l := by
  cases l
  simp only [ProviderLifecycle.mirror, IncrementalEvent.mirror, MatchIdentity.mirror_mirror,
    map_opposite_opposite]

@[simp] theorem ProviderSnapshot.mirror_mirror (e : ProviderSnapshot) : e.mirror.mirror = e := by
  cases e
  simp [ProviderSnapshot.mirror]

@[simp] theorem TennisOperation.mirror_mirror (op : TennisOperation) : op.mirror.mirror = op := by
  cases op with
  | event e => cases e <;> simp [TennisOperation.mirror, ProviderEvent.mirror]
  | correction e => simp [TennisOperation.mirror]

theorem validateIdentity_mirror (m : MatchIdentity) (id : Option String) :
    validateIdentity m.mirror id = .ok () ↔ validateIdentity m id = .ok () := by
  have half : ∀ m : MatchIdentity, validateIdentity m id = .ok () →
      validateIdentity m.mirror id = .ok () := by
    intro m checked
    simp only [validateIdentity, bind_eq_ok, exists_unit] at checked ⊢
    obtain ⟨source, domain, lineage, event, providerMatch, home, away, other, start⟩ := checked
    refine ⟨source, domain, lineage, event, providerMatch, ?_, ?_, ?_, start⟩
    · exact (safeId_eq_ok _ _ _).mpr ((safeId_eq_ok _ _ _).mp away)
    · exact (safeId_eq_ok _ _ _).mpr ((safeId_eq_ok _ _ _).mp home)
    · exact refuse_ok _ fun same => (refuse_eq_ok _ _ _).mp other same.symm
  exact ⟨half m.mirror, half m⟩

theorem IncrementalEvent.postInit_mirror {e : IncrementalEvent} (built : e.postInit = .ok ()) :
    e.mirror.postInit = .ok () := by
  have good := IncrementalEvent.postInit_eq_ok.mp built
  exact IncrementalEvent.postInit_eq_ok.mpr
    { good with identity := (validateIdentity_mirror _ _).mpr good.identity }

theorem ProviderSnapshot.valid_mirror {e : ProviderSnapshot} (valid : e.Valid) :
    e.mirror.Valid := by
  obtain ⟨built, sets⟩ := valid
  refine ⟨?_, fun set member => ?_⟩
  · simp only [ProviderSnapshot.postInit, bind_eq_ok, exists_unit] at built ⊢
    obtain ⟨event, identity, status, score, rest⟩ := built
    exact ⟨event, (validateIdentity_mirror _ _).mpr identity,
      (validateStatus_mirror e.toScore).trans status, (validateScore_mirror e.toScore).mpr score, rest⟩
  · obtain ⟨s, inside, rfl⟩ := List.mem_map.mp member
    exact s.postInit_mirror.mpr (sets s inside)

theorem TennisOperation.valid_mirror {op : TennisOperation} (valid : op.Valid) :
    op.mirror.Valid := by
  cases op with
  | event e =>
      cases e with
      | point p => exact IncrementalEvent.postInit_mirror valid
      | lifecycle l => exact IncrementalEvent.postInit_mirror valid
  | correction e => exact ProviderSnapshot.valid_mirror valid

/-! ## Mirrored states -/

/-- The digests of a state are digests. -/
structure TennisState.Digested (s : TennisState) : Prop where
  last : IsSha256 s.lastEventSemanticSha256
  lineage : IsSha256 s.correctionLineageSha256
  blocked : ∀ digest, s.blockedEventSemanticSha256 = some digest → IsSha256 digest

/-- The second state is the first with the sides exchanged; its digests are its own. -/
structure Mirrored (s t : TennisState) : Prop where
  identity : t.toMatchIdentity = s.toMatchIdentity.mirror
  score : t.toScore = s.toScore.mirror
  correctionEpoch : t.correctionEpoch = s.correctionEpoch
  revision : t.revision = s.revision
  complete : t.snapshotComplete = s.snapshotComplete
  eventId : t.lastProviderEventId = s.lastProviderEventId
  sourceWall : t.lastSourceWallNs = s.lastSourceWallNs
  generatedWall : t.lastSourceGeneratedWallNs = s.lastSourceGeneratedWallNs
  received : t.lastReceivedMonotonicNs = s.lastReceivedMonotonicNs
  uncertainty : t.lastClockUncertaintyNs = s.lastClockUncertaintyNs
  block : t.toBlockMetadata =
    { s.toBlockMetadata with blockedEventSemanticSha256 := t.blockedEventSemanticSha256 }
  blockDigest : t.blockedEventSemanticSha256.isSome = s.blockedEventSemanticSha256.isSome
  digested : s.Digested
  digestedMirror : t.Digested

namespace Mirrored

variable {s t : TennisState}

theorem symm (m : Mirrored s t) : Mirrored t s where
  identity := by rw [m.identity, MatchIdentity.mirror_mirror]
  score := by rw [m.score, Score.mirror_mirror]
  correctionEpoch := m.correctionEpoch.symm
  revision := m.revision.symm
  complete := m.complete.symm
  eventId := m.eventId.symm
  sourceWall := m.sourceWall.symm
  generatedWall := m.generatedWall.symm
  received := m.received.symm
  uncertainty := m.uncertainty.symm
  block := by rw [m.block]
  blockDigest := m.blockDigest.symm
  digested := m.digestedMirror
  digestedMirror := m.digested

theorem blockReason (m : Mirrored s t) : t.blockReason = s.blockReason :=
  (congrArg BlockMetadata.blockReason m.block).trans rfl

theorem blockedReceived (m : Mirrored s t) :
    t.blockedReceivedMonotonicNs = s.blockedReceivedMonotonicNs :=
  (congrArg BlockMetadata.blockedReceivedMonotonicNs m.block).trans rfl

theorem matchFormat (m : Mirrored s t) : t.matchFormat = s.matchFormat :=
  (congrArg MatchIdentity.matchFormat m.identity).trans rfl

/-- What a constructor asks of the block does not depend on which digest is in it. -/
theorem postInit_digest {b : BlockMetadata} {digest : Option String}
    (present : digest.isSome = b.blockedEventSemanticSha256.isSome)
    (isDigest : ∀ d, digest = some d → IsSha256 d) (accepted : b.postInit = .ok ()) :
    BlockMetadata.postInit { b with blockedEventSemanticSha256 := digest } = .ok () := by
  have absent : digest.isNone = b.blockedEventSemanticSha256.isNone := by
    rw [← Option.not_isSome, ← Option.not_isSome, present]
  obtain ⟨reason, expected, observed, old, received⟩ := b
  simp only [BlockMetadata.postInit, bind_eq_ok, exists_unit, checkSome_eq_ok, sha256_eq_ok]
    at accepted ⊢
  obtain ⟨small, small', small'', -, rest⟩ := accepted
  refine ⟨small, small', small'', isDigest, ?_⟩
  cases reason with
  | none =>
      simp only [refuse_eq_ok] at rest ⊢
      rw [present]
      exact rest
  | some reason =>
      simp only [bind_eq_ok, exists_unit, refuse_eq_ok] at rest ⊢
      rw [absent]
      exact rest

theorem constructed (m : Mirrored s t) (good : s.Constructed) : t.Constructed where
  identity := by
    rw [m.identity]
    exact (validateIdentity_mirror _ _).mpr good.identity
  supported := m.matchFormat ▸ good.supported
  status := by rw [m.score, validateStatus_mirror, good.status]
  score := by
    rw [m.score]
    exact (validateScore_mirror _).mpr good.score
  correctionEpoch := m.correctionEpoch ▸ good.correctionEpoch
  revision := m.revision ▸ good.revision
  complete := m.complete.trans good.complete
  eventId := m.eventId ▸ good.eventId
  eventDigest := m.digestedMirror.last
  lineage := m.digestedMirror.lineage
  sourceWall := m.sourceWall ▸ good.sourceWall
  generatedWall := m.generatedWall ▸ good.generatedWall
  received := m.received ▸ good.received
  uncertainty := m.uncertainty ▸ good.uncertainty
  block := by
    rw [m.block]
    exact postInit_digest m.blockDigest m.digestedMirror.blocked good.block

theorem construct (m : Mirrored s t) :
    Lockstep (fun a b => a = s ∧ b = t) s.construct t.construct := by
  refine Lockstep.bind (Lockstep.check ?_) fun _ _ _ => Lockstep.pure ⟨rfl, rfl⟩
  rw [TennisState.postInit_eq_ok, TennisState.postInit_eq_ok]
  exact ⟨m.constructed, m.symm.constructed⟩

theorem validate (m : Mirrored s t) (valid : s.Valid) :
    Lockstep (fun _ _ => True) (validateTennisState s) (validateTennisState t) := by
  refine (Lockstep.refuse ?_).imp fun _ _ _ => trivial
  rw [m.matchFormat, m.score, reachable_mirror _ valid.sets]

end Mirrored

/-! ## Mirrored answers -/

/-- The answers to an operation and to its mirror, whose digests are `d` and `d'`. -/
structure MirroredAnswer (s t : TennisState) (d d' : String) (r r' : TennisTransitionResult) :
    Prop where
  state : Mirrored r.state r'.state
  disposition : r'.disposition = r.disposition
  reason : r'.reason = r.reason
  digest : r.eventSemanticSha256 = d
  digestMirror : r'.eventSemanticSha256 = d'
  /-- The last digests are those before, or those of the operation and its mirror. -/
  last : (r.state.lastEventSemanticSha256 = s.lastEventSemanticSha256 ∧
      r'.state.lastEventSemanticSha256 = t.lastEventSemanticSha256) ∨
    (r.state.lastEventSemanticSha256 = d ∧ r'.state.lastEventSemanticSha256 = d')

section Answers

variable {s t : TennisState} {d d' : String}

theorem result_mirror {a b : TennisState} {disposition : TransitionDisposition}
    {reason : TennisTransitionReason} (m : Mirrored a b) (digests : IsSha256 d ∧ IsSha256 d')
    (last : (a.lastEventSemanticSha256 = s.lastEventSemanticSha256 ∧
        b.lastEventSemanticSha256 = t.lastEventSemanticSha256) ∨
      (a.lastEventSemanticSha256 = d ∧ b.lastEventSemanticSha256 = d')) :
    Lockstep (MirroredAnswer s t d d') (result a disposition reason d)
      (result b disposition reason d') := by
  have answer : result a disposition reason d = .ok ⟨a, disposition, reason, d⟩ :=
    result_eq_ok.mpr ⟨digests.1, rfl⟩
  have answer' : result b disposition reason d' = .ok ⟨b, disposition, reason, d'⟩ :=
    result_eq_ok.mpr ⟨digests.2, rfl⟩
  rw [answer, answer']
  exact ⟨m, rfl, rfl, rfl, rfl, last⟩

theorem Mirrored.blockState (m : Mirrored s t) (digests : IsSha256 d ∧ IsSha256 d')
    (reason : TennisTransitionReason) (received : Nat) (expected observed : Option Nat) :
    Mirrored (blockState s reason d received expected observed)
      (blockState t reason d' received expected observed) :=
  { m with
    block := rfl
    blockDigest := rfl
    digested := ⟨m.digested.last, m.digested.lineage, fun _ is => Option.some.inj is ▸ digests.1⟩
    digestedMirror := ⟨m.digestedMirror.last, m.digestedMirror.lineage,
      fun _ is => Option.some.inj is ▸ digests.2⟩ }

theorem blocked_mirror (m : Mirrored s t) (digests : IsSha256 d ∧ IsSha256 d')
    (e : IncrementalEvent) (reason : TennisTransitionReason)
    (expected observed : Option Nat := none) :
    Lockstep (MirroredAnswer s t d d') (blocked s e d reason expected observed)
      (blocked t e.mirror d' reason expected observed) := by
  have kept := m.blockState digests reason e.receivedMonotonicNs expected observed
  refine Lockstep.bind kept.construct fun a b both => ?_
  rw [both.1, both.2]
  exact result_mirror kept digests (.inl ⟨rfl, rfl⟩)

/-- The answer of a precheck, wrapped or let through. -/
theorem some_mirror {x y : Except ExpertError TennisTransitionResult}
    (both : Lockstep (MirroredAnswer s t d d') x y) :
    Lockstep (Option.Rel (MirroredAnswer s t d d')) (some <$> x) (some <$> y) :=
  both.map fun _ _ => .some

theorem incrementalPrecheck_mirror (m : Mirrored s t) (digests : IsSha256 d ∧ IsSha256 d')
    (repeats : d = s.lastEventSemanticSha256 ↔ d' = t.lastEventSemanticSha256)
    (e : IncrementalEvent) :
    Lockstep (Option.Rel (MirroredAnswer s t d d')) (incrementalPrecheck s e d)
      (incrementalPrecheck t e.mirror d') := by
  have identity : t.toMatchIdentity = s.toMatchIdentity.mirror := m.identity
  have install : ∀ reason expected observed, Lockstep (Option.Rel (MirroredAnswer s t d d'))
      (some <$> blocked s e d reason expected observed)
      (some <$> blocked t e.mirror d' reason expected observed) :=
    fun reason expected observed => some_mirror (blocked_mirror m digests e reason expected observed)
  unfold incrementalPrecheck
  refine Lockstep.ite (by rw [m.blockReason]) (fun _ => some_mirror
    (result_mirror m digests (.inl ⟨rfl, rfl⟩))) fun _ => ?_
  refine Lockstep.ite ?_ (fun _ => install _ _ _) fun _ => ?_
  · rw [identity]
    exact or_congr Iff.rfl or_left_comm
  refine Lockstep.ite (by rw [identity]; exact Iff.rfl) (fun _ => install _ _ _) fun _ => ?_
  refine Lockstep.ite (by rw [identity]; exact Iff.rfl) (fun _ => install _ _ _) fun _ => ?_
  refine Lockstep.ite (by rw [identity]; exact Iff.rfl) (fun _ => install _ _ _) fun _ => ?_
  refine Lockstep.ite (by rw [m.received]; exact Iff.rfl) (fun _ => install _ _ _) fun _ => ?_
  refine Lockstep.ite (by rw [m.correctionEpoch]; exact Iff.rfl) (fun _ => install _ _ _)
    fun _ => ?_
  refine Lockstep.ite (by rw [m.correctionEpoch]; exact Iff.rfl) (fun _ => install _ _ _)
    fun _ => ?_
  refine Lockstep.ite (by rw [m.revision]; exact Iff.rfl) (fun _ => ?_) fun _ => ?_
  · exact Lockstep.ite repeats (fun _ => some_mirror (result_mirror m digests (.inl ⟨rfl, rfl⟩)))
      fun _ => install _ _ _
  refine Lockstep.ite (by rw [m.revision]; exact Iff.rfl) (fun _ => install _ _ _) fun _ => ?_
  refine Lockstep.ite (by rw [m.revision]; exact Iff.rfl) (fun _ => ?_)
    fun _ => Lockstep.pure .none
  rw [m.revision]
  exact install _ _ _

theorem Mirrored.appliedFields (m : Mirrored s t) (digests : IsSha256 d ∧ IsSha256 d')
    (e : IncrementalEvent) (score : Score) :
    Mirrored (appliedFields s e d score) (appliedFields t e.mirror d' score.mirror) :=
  { m with
    score := rfl
    revision := rfl
    eventId := rfl
    sourceWall := rfl
    generatedWall := rfl
    received := rfl
    uncertainty := rfl
    block := rfl
    blockDigest := rfl
    digested := ⟨digests.1, m.digested.lineage, fun _ none => nomatch none⟩
    digestedMirror := ⟨digests.2, m.digestedMirror.lineage, fun _ none => nomatch none⟩ }

theorem applied_mirror (m : Mirrored s t) (digests : IsSha256 d ∧ IsSha256 d')
    (e : IncrementalEvent) (reason : TennisTransitionReason) (score : Score) :
    Lockstep (MirroredAnswer s t d d')
      (appliedState s e d score >>= fun applied => result applied .applied reason d)
      (appliedState t e.mirror d' score.mirror >>= fun applied =>
        result applied .applied reason d') := by
  have kept := m.appliedFields digests e score
  refine Lockstep.bind kept.construct fun a b both => ?_
  rw [both.1, both.2]
  exact result_mirror kept digests (.inr ⟨rfl, rfl⟩)

end Answers

/-! ## Points -/

section Point

variable {s t : TennisState} {d d' : String}

/-- The score of a point that overflows the integers is not accepted. -/
theorem advanceScore_overflows {v : Score} {format : MatchFormat} {w : PlayerSide}
    (checked : validateScore v = .ok ()) (large : ¬v.tiebreakPoints w + 1 < integerBound)
    (state : TennisState) (e : IncrementalEvent) (digest : String)
    (next : Score → TennisState → Except ExpertError TennisTransitionResult)
    (r : TennisTransitionResult) :
    (do
      let score ← advanceScore format v w
      let applied ← appliedState state e digest score
      next score applied) ≠ .ok r := by
  intro answer
  obtain ⟨score, advanced, answer⟩ := bind_eq_ok.mp answer
  obtain ⟨applied, constructed, -⟩ := bind_eq_ok.mp answer
  rw [appliedState_eq] at constructed
  exact large (advanceScore_bounded checked advanced
    (TennisState.construct_eq_ok.mp constructed).1.score)

theorem applyPoint_mirror {p : ProviderPoint} {bytes bytes' : List UInt8} (m : Mirrored s t)
    (valid : s.Valid) (semantic : p.semantic = .ok (bytes, d))
    (semantic' : p.mirror.semantic = .ok (bytes', d')) (digests : IsSha256 d ∧ IsSha256 d')
    (repeats : d = s.lastEventSemanticSha256 ↔ d' = t.lastEventSemanticSha256) :
    Lockstep (MirroredAnswer s t d d') (applyPoint s p) (applyPoint t p.mirror) := by
  obtain ⟨-, legal⟩ := TennisState.valid_iff.mp valid
  unfold applyPoint
  refine Lockstep.bind (m.validate valid) fun _ _ _ => ?_
  rw [semantic, semantic', ok_bind, ok_bind]
  refine Lockstep.bind (incrementalPrecheck_mirror m digests repeats p.toIncrementalEvent)
    fun o o' both => ?_
  cases both with
  | some answer => exact answer
  | none =>
      have status : t.status = s.status := (congrArg Score.status m.score).trans rfl
      have server : t.serverForNextPoint = s.serverForNextPoint.map opposite :=
        (congrArg Score.serverForNextPoint m.score).trans rfl
      have install : ∀ reason, Lockstep (MirroredAnswer s t d d')
          (blocked s p.toIncrementalEvent d reason)
          (blocked t p.mirror.toIncrementalEvent d' reason) :=
        fun reason => blocked_mirror m digests p.toIncrementalEvent reason
      refine Lockstep.ite (by rw [status]) (fun _ => install _) fun _ => ?_
      refine Lockstep.ite (by rw [status]) (fun _ => install _) fun live => ?_
      refine Lockstep.ite ?_ (fun _ => install _) fun _ => ?_
      · rw [server]
        exact not_congr (eq_comm.trans (map_opposite_eq_some.symm.trans eq_comm))
      have playing : s.status = .live := not_not.mp live
      rw [m.matchFormat, m.score]
      by_cases small : s.tiebreakPoints p.pointWinner + 1 < integerBound
      · obtain ⟨score, advanced, -⟩ := advanceScore_legal p.pointWinner legal playing small
        rw [advanced, show advanceScore s.matchFormat s.toScore.mirror p.mirror.pointWinner = _ from
          advanceScore_mirror p.pointWinner legal playing small advanced]
        exact applied_mirror m digests p.toIncrementalEvent .pointApplied score
      · exact Lockstep.failing (advanceScore_overflows legal.checked small s _ _ _)
          (advanceScore_overflows legal.mirror.checked
            (fun few => small ((tiebreakPoints_mirror p.pointWinner) ▸ few)) t _ _ _)

end Point

/-! ## Lifecycle events -/

section Lifecycle

variable {s t : TennisState} {d d' : String}

theorem applyLifecycle_mirror {l : ProviderLifecycle} {bytes bytes' : List UInt8}
    (m : Mirrored s t) (valid : s.Valid) (semantic : l.semantic = .ok (bytes, d))
    (semantic' : l.mirror.semantic = .ok (bytes', d')) (digests : IsSha256 d ∧ IsSha256 d')
    (repeats : d = s.lastEventSemanticSha256 ↔ d' = t.lastEventSemanticSha256) :
    Lockstep (MirroredAnswer s t d d') (applyLifecycle s l) (applyLifecycle t l.mirror) := by
  unfold applyLifecycle
  refine Lockstep.bind (m.validate valid) fun _ _ _ => ?_
  rw [semantic, semantic', ok_bind, ok_bind]
  refine Lockstep.bind (incrementalPrecheck_mirror m digests repeats l.toIncrementalEvent)
    fun o o' both => ?_
  cases both with
  | some answer => exact answer
  | none =>
      have status : t.status = s.status := (congrArg Score.status m.score).trans rfl
      have kind : t.terminationKind = s.terminationKind :=
        (congrArg Score.terminationKind m.score).trans rfl
      have winner : t.winner = s.winner.map opposite := (congrArg Score.winner m.score).trans rfl
      have install : ∀ reason, Lockstep (MirroredAnswer s t d d')
          (blocked s l.toIncrementalEvent d reason)
          (blocked t l.mirror.toIncrementalEvent d' reason) :=
        fun reason => blocked_mirror m digests l.toIncrementalEvent reason
      refine Lockstep.ite (by rw [status, kind]; exact Iff.rfl) (fun _ => ?_) fun _ => ?_
      · refine Lockstep.ite ?_ (fun _ => ?_) fun _ => install _
        · rw [winner]
          exact and_congr map_opposite_inj.symm (and_congr Option.map_eq_none_iff.symm
            Option.map_eq_none_iff.symm)
        · rw [m.score]
          exact applied_mirror m digests l.toIncrementalEvent .naturalEndConfirmed s.toScore
      refine Lockstep.ite (by rw [status]) (fun _ => install _) fun _ => ?_
      rw [m.score, lifecycleChanges_mirror (e := l) (f := l.mirror) rfl rfl rfl rfl]
      cases lifecycleChanges s.toScore l with
      | none => exact install _
      | some changed =>
          refine Lockstep.ite (and_congr Iff.rfl (not_congr map_opposite_inj.symm))
            (fun _ => install _) fun _ => ?_
          exact applied_mirror m digests l.toIncrementalEvent .lifecycleApplied changed.1

end Lifecycle

/-! ## Corrections -/

section Correction

variable {s t : TennisState} {d d' : String}

theorem correctionRejected_mirror (m : Mirrored s t) (digests : IsSha256 d ∧ IsSha256 d')
    (e : ProviderSnapshot) (reason : TennisTransitionReason) :
    Lockstep (MirroredAnswer s t d d') (correctionRejected s e d reason)
      (correctionRejected t e.mirror d' reason) := by
  have kept := m.blockState digests reason e.receivedMonotonicNs none none
  unfold correctionRejected
  refine Lockstep.ite (by rw [m.blockReason])
    (fun _ => result_mirror m digests (.inl ⟨rfl, rfl⟩)) fun _ => ?_
  refine Lockstep.bind kept.construct fun a b both => ?_
  rw [both.1, both.2]
  exact result_mirror kept digests (.inl ⟨rfl, rfl⟩)

theorem stateFromSnapshotFields_mirror (e : ProviderSnapshot) {lineage lineage' : String}
    (digests : IsSha256 d ∧ IsSha256 d') (lineages : IsSha256 lineage ∧ IsSha256 lineage') :
    Mirrored (stateFromSnapshotFields e d lineage) (stateFromSnapshotFields e.mirror d' lineage') where
  identity := rfl
  score := rfl
  correctionEpoch := rfl
  revision := rfl
  complete := rfl
  eventId := rfl
  sourceWall := rfl
  generatedWall := rfl
  received := rfl
  uncertainty := rfl
  block := rfl
  blockDigest := rfl
  digested := ⟨digests.1, lineages.1, fun _ none => nomatch none⟩
  digestedMirror := ⟨digests.2, lineages.2, fun _ none => nomatch none⟩

theorem applyCorrection_mirror {e : ProviderSnapshot} {bytes bytes' : List UInt8}
    (m : Mirrored s t) (valid : s.Valid) (argument : e.Valid)
    (semantic : e.semantic = .ok (bytes, d)) (semantic' : e.mirror.semantic = .ok (bytes', d'))
    (digests : IsSha256 d ∧ IsSha256 d')
    (repeats : d = s.lastEventSemanticSha256 ↔ d' = t.lastEventSemanticSha256) :
    Lockstep (MirroredAnswer s t d d') (applyCorrection s e) (applyCorrection t e.mirror) := by
  have identity : t.toMatchIdentity = s.toMatchIdentity.mirror := m.identity
  have reject := correctionRejected_mirror m digests e
  have receipt : minimumReceipt t = minimumReceipt s := by
    rw [minimumReceipt, minimumReceipt, m.received, m.blockedReceived]
  unfold applyCorrection
  refine Lockstep.bind (m.validate valid) fun _ _ _ => ?_
  rw [semantic, semantic', ok_bind, ok_bind]
  refine Lockstep.ite ?_ (fun _ => reject _) fun _ => ?_
  · rw [identity]
    exact or_congr Iff.rfl or_left_comm
  refine Lockstep.ite (by rw [identity]; exact Iff.rfl) (fun _ => reject _) fun _ => ?_
  refine Lockstep.ite (by rw [identity]; exact Iff.rfl) (fun _ => reject _) fun _ => ?_
  refine Lockstep.ite Iff.rfl (fun _ => reject _) fun _ => ?_
  refine Lockstep.ite (by rw [identity]; exact Iff.rfl) (fun _ => reject _) fun _ => ?_
  refine Lockstep.ite (by rw [receipt]; exact Iff.rfl) (fun _ => reject _) fun _ => ?_
  refine Lockstep.ite ?_ (fun _ => result_mirror m digests (.inl ⟨rfl, rfl⟩)) fun _ => ?_
  · rw [m.correctionEpoch, m.revision]
    exact and_congr Iff.rfl (and_congr Iff.rfl repeats)
  refine Lockstep.ite (by rw [m.correctionEpoch]; exact Iff.rfl) (fun _ => reject _) fun _ => ?_
  refine Lockstep.ite ?_ (fun _ => reject _) fun _ => ?_
  · exact or_congr Iff.rfl (by rw [← reachable_mirror e.matchFormat argument.sets]; exact Iff.rfl)
  have kept := stateFromSnapshotFields_mirror e digests
    ⟨hexdigest_isSha256 (domain "inci-tennis-correction-lineage-v1" ++
        fromHex s.correctionLineageSha256.toList ++ bytes),
      hexdigest_isSha256 (domain "inci-tennis-correction-lineage-v1" ++
        fromHex t.correctionLineageSha256.toList ++ bytes')⟩
  refine Lockstep.bind kept.construct fun a b both => ?_
  rw [both.1, both.2]
  exact result_mirror kept digests (.inr ⟨rfl, rfl⟩)

end Correction

/-! ## Messages and their digests -/

def TennisOperation.semantic : TennisOperation → Except ExpertError (List UInt8 × String)
  | .event e => e.semantic
  | .correction e => e.semantic

/-- A message with its receive time forgotten. -/
def TennisOperation.unreceived : TennisOperation → TennisOperation
  | .event e => .event (e.receivedAt 0)
  | .correction e => .correction e.unreceived

theorem semantic_mirror_unreceived (op : TennisOperation) :
    op.unreceived.mirror.semantic = op.mirror.semantic := by
  cases op with
  | event e => cases e <;> rfl
  | correction e => rfl

theorem same_kind {a b : ProviderLifecycleKind} (same : Same a.py b.py) : a = b := by
  have values := (same_enum same).2
  revert values
  cases a <;> cases b <;> decide

theorem point_spelled (p : ProviderPoint) :
    SpelledFields (p.fields p.toEventTimes.semanticPy) := by
  simp [ProviderPoint.fields, MatchIdentity.py, EventTimes.semanticPy, SpelledFields,
    PlayerSide.py, MatchFormat.py]

theorem lifecycle_spelled (l : ProviderLifecycle) :
    SpelledFields (l.fields l.toEventTimes.semanticPy) := by
  simp [ProviderLifecycle.fields, MatchIdentity.py, EventTimes.semanticPy, SpelledFields,
    PlayerSide.py, MatchFormat.py, ProviderLifecycleKind.py]

theorem point_fixed {p q : ProviderPoint}
    (same : Same (.dict (p.fields p.toEventTimes.semanticPy))
      (.dict (q.fields q.toEventTimes.semanticPy))) :
    ({ p with receivedMonotonicNs := 0 } : ProviderPoint) = { q with receivedMonotonicNs := 0 } := by
  have fields := same_dict same rfl
    (by simp [ProviderPoint.fields, MatchIdentity.py, EventTimes.semanticPy])
  simp only [ProviderPoint.fields, MatchIdentity.py, EventTimes.semanticPy, List.cons_append,
    List.nil_append, List.forall₂_cons, List.forall₂_nil_left_iff, and_true] at fields
  obtain ⟨⟨⟨_, _, _, _, _, _, _, _⟩, ⟨_, _, _, _⟩, _, _, _⟩, _, _⟩ := p
  obtain ⟨⟨⟨_, _, _, _, _, _, _, _⟩, ⟨_, _, _, _⟩, _, _, _⟩, _, _⟩ := q
  obtain ⟨source, domain, lineage, event, providerMatch, home, away, start, format, epoch,
    revision, winner, server, wall, generated, uncertainty⟩ := fields
  simp only [ProviderPoint.mk.injEq, IncrementalEvent.mk.injEq, MatchIdentity.mk.injEq,
    EventTimes.mk.injEq, true_and]
  exact ⟨⟨⟨same_text source, same_text domain, same_text lineage, same_text providerMatch,
      same_text home, same_text away, same_nat start, same_format format⟩,
    ⟨same_nat wall, same_nat generated, same_nat uncertainty⟩, same_text event, same_nat epoch,
    same_nat revision⟩, same_side winner, same_side server⟩

theorem lifecycle_fixed {l k : ProviderLifecycle}
    (same : Same (.dict (l.fields l.toEventTimes.semanticPy))
      (.dict (k.fields k.toEventTimes.semanticPy))) :
    ({ l with receivedMonotonicNs := 0 } : ProviderLifecycle) =
      { k with receivedMonotonicNs := 0 } := by
  have fields := same_dict same rfl
    (by simp [ProviderLifecycle.fields, MatchIdentity.py, EventTimes.semanticPy])
  simp only [ProviderLifecycle.fields, MatchIdentity.py, EventTimes.semanticPy, List.cons_append,
    List.nil_append, List.forall₂_cons, List.forall₂_nil_left_iff, and_true] at fields
  obtain ⟨⟨⟨_, _, _, _, _, _, _, _⟩, ⟨_, _, _, _⟩, _, _, _⟩, _, _, _, _⟩ := l
  obtain ⟨⟨⟨_, _, _, _, _, _, _, _⟩, ⟨_, _, _, _⟩, _, _, _⟩, _, _, _, _⟩ := k
  obtain ⟨source, domain, lineage, event, providerMatch, home, away, start, format, epoch,
    revision, kind, winner, retired, server, wall, generated, uncertainty⟩ := fields
  simp only [ProviderLifecycle.mk.injEq, IncrementalEvent.mk.injEq, MatchIdentity.mk.injEq,
    EventTimes.mk.injEq, true_and]
  exact ⟨⟨⟨same_text source, same_text domain, same_text lineage, same_text providerMatch,
      same_text home, same_text away, same_nat start, same_format format⟩,
    ⟨same_nat wall, same_nat generated, same_nat uncertainty⟩, same_text event, same_nat epoch,
    same_nat revision⟩, same_kind kind, same_optionSide winner, same_optionSide retired,
    same_optionSide server⟩

/-- The semantic bytes of a message fix all of it but its receive time. -/
theorem TennisOperation.semantic_fixed {x y : TennisOperation} {bytes : List UInt8} {d d' : String}
    (first : x.semantic = .ok (bytes, d)) (second : y.semantic = .ok (bytes, d')) :
    x.unreceived = y.unreceived := by
  have point := @point_spelled
  have lifecycle := @lifecycle_spelled
  have snapshot := @snapshot_spelled
  rcases x with (p | l) | e <;> rcases y with (q | k) | f
  · exact congrArg (fun p => TennisOperation.event (.point p))
      (point_fixed (eventSemantic_same (point p) (point q) first second).2)
  · exact absurd (eventSemantic_same (point p) (lifecycle k) first second).1 (by decide)
  · exact absurd (eventSemantic_same (point p) (snapshot f) first second).1 (by decide)
  · exact absurd (eventSemantic_same (lifecycle l) (point q) first second).1 (by decide)
  · exact congrArg (fun l => TennisOperation.event (.lifecycle l))
      (lifecycle_fixed (eventSemantic_same (lifecycle l) (lifecycle k) first second).2)
  · exact absurd (eventSemantic_same (lifecycle l) (snapshot f) first second).1 (by decide)
  · exact absurd (eventSemantic_same (snapshot e) (point q) first second).1 (by decide)
  · exact absurd (eventSemantic_same (snapshot e) (lifecycle k) first second).1 (by decide)
  · exact congrArg TennisOperation.correction (Tennis.semantic_fixed first second)

theorem TennisOperation.semantic_total {op : TennisOperation} (valid : op.Valid) :
    ∃ bytes digest, op.semantic = .ok (bytes, digest) := by
  cases op with
  | event e =>
      cases e with
      | point p => exact ProviderPoint.semantic_total valid
      | lifecycle l => exact ProviderLifecycle.semantic_total valid
  | correction e => exact ProviderSnapshot.semantic_total valid.constructed valid.sets

theorem TennisOperation.semantic_isSha256 {op : TennisOperation} {bytes : List UInt8}
    {digest : String} (semantic : op.semantic = .ok (bytes, digest)) : IsSha256 digest := by
  rcases op with (p | l) | e
  · exact eventSemantic_isSha256 semantic
  · exact eventSemantic_isSha256 semantic
  · exact eventSemantic_isSha256 semantic

/-- SHA-256 tells the messages apart: those of one digest have one text. -/
def Distinguished (messages : List TennisOperation) : Prop :=
  ∀ x ∈ messages, ∀ y ∈ messages, ∀ bytes bytes' digest,
    x.semantic = .ok (bytes, digest) → y.semantic = .ok (bytes', digest) → bytes = bytes'

theorem Distinguished.subset {messages others : List TennisOperation}
    (apart : Distinguished messages) (inside : others ⊆ messages) : Distinguished others :=
  fun x first y second => apart x (inside first) y (inside second)

/-- Messages of one digest have mirrors of one digest. -/
theorem Distinguished.mirror {x y : TennisOperation} (apart : Distinguished [x, y])
    {bytes bytes' mirrored mirrored' : List UInt8} {digest d d' : String}
    (first : x.semantic = .ok (bytes, digest)) (second : y.semantic = .ok (bytes', digest))
    (mirrors : x.mirror.semantic = .ok (mirrored, d))
    (mirrors' : y.mirror.semantic = .ok (mirrored', d')) : d' = d := by
  obtain rfl := apart x (by simp) y (by simp) _ _ _ first second
  rw [← semantic_mirror_unreceived, TennisOperation.semantic_fixed first second,
    semantic_mirror_unreceived, mirrors'] at mirrors
  exact (Prod.mk.inj (Except.ok.inj mirrors)).2

/-- The last message of a state and of its mirror. -/
structure LastMessage (x : TennisOperation) (s t : TennisState) : Prop where
  semantic : ∃ bytes, x.semantic = .ok (bytes, s.lastEventSemanticSha256)
  mirror : ∃ bytes, x.mirror.semantic = .ok (bytes, t.lastEventSemanticSha256)

theorem LastMessage.repeats {x op : TennisOperation} {s t : TennisState} {d d' : String}
    {bytes bytes' : List UInt8} (last : LastMessage x s t) (apart : Distinguished [x, op])
    (apart' : Distinguished [x.mirror, op.mirror]) (semantic : op.semantic = .ok (bytes, d))
    (semantic' : op.mirror.semantic = .ok (bytes', d')) :
    d = s.lastEventSemanticSha256 ↔ d' = t.lastEventSemanticSha256 := by
  obtain ⟨⟨_, first⟩, ⟨_, mirrors⟩⟩ := last
  constructor
  · intro same
    subst same
    exact apart.mirror first semantic mirrors semantic'
  · intro same
    subst same
    exact apart'.mirror mirrors semantic' (x.mirror_mirror.symm ▸ first)
      (op.mirror_mirror.symm ▸ semantic)

/-! ## Transitions and runs -/

/-- What an operation does to a valid state, its mirror does to the mirrored state. -/
theorem TennisOperation.apply_mirror {s t : TennisState} {x op : TennisOperation}
    (m : Mirrored s t) (valid : s.Valid) (argument : op.Valid) (last : LastMessage x s t)
    (apart : Distinguished [x, op]) (apart' : Distinguished [x.mirror, op.mirror]) :
    ∃ bytes d bytes' d', op.semantic = .ok (bytes, d) ∧ op.mirror.semantic = .ok (bytes', d') ∧
      Lockstep (MirroredAnswer s t d d') (op.apply s) (op.mirror.apply t) := by
  obtain ⟨bytes, d, semantic⟩ := TennisOperation.semantic_total argument
  obtain ⟨bytes', d', semantic'⟩ := TennisOperation.semantic_total (TennisOperation.valid_mirror argument)
  have digests := And.intro (TennisOperation.semantic_isSha256 semantic)
    (TennisOperation.semantic_isSha256 semantic')
  have repeats := last.repeats apart apart' semantic semantic'
  refine ⟨bytes, d, bytes', d', semantic, semantic', ?_⟩
  rcases op with (p | l) | e
  · exact applyPoint_mirror m valid semantic semantic' digests repeats
  · exact applyLifecycle_mirror m valid semantic semantic' digests repeats
  · exact applyCorrection_mirror m valid argument semantic semantic' digests repeats

/-- What a run keeps: mirrored states, and a last message of theirs among those seen. -/
structure RunMirrored (messages : List TennisOperation) (s t : TennisState) : Prop where
  mirrored : Mirrored s t
  valid : s.Valid
  last : ∃ x ∈ messages, LastMessage x s t

section Runs

variable {s t : TennisState} {messages : List TennisOperation}

theorem RunMirrored.standing {op : TennisOperation} (run : RunMirrored messages s t)
    (argument : op.Valid) (member : op ∈ messages) (apart : Distinguished messages)
    (apart' : Distinguished (messages.map TennisOperation.mirror)) :
    RunMirrored messages (op.standing s) (op.mirror.standing t) := by
  obtain ⟨m, valid, x, known, last⟩ := run
  obtain ⟨bytes, d, bytes', d', semantic, semantic', both⟩ := TennisOperation.apply_mirror m valid
    argument last (apart.subset (by simp [known, member]))
    (apart'.subset (by simp [List.mem_map_of_mem known, List.mem_map_of_mem member]))
  unfold TennisOperation.standing
  cases answer : op.apply s with
  | error failure =>
      cases answer' : op.mirror.apply t with
      | error failure' => exact ⟨m, valid, x, known, last⟩
      | ok r' =>
          rw [answer, answer'] at both
          exact both.elim
  | ok r =>
      obtain ⟨r', answer', mirrored⟩ := both.answer answer
      rw [answer']
      refine ⟨mirrored.state, TennisOperation.apply_valid valid argument answer, ?_⟩
      rcases mirrored.last with ⟨kept, kept'⟩ | ⟨new, new'⟩
      · refine ⟨x, known, ?_, ?_⟩
        · rw [kept]
          exact last.semantic
        · rw [kept']
          exact last.mirror
      · refine ⟨op, member, ⟨bytes, ?_⟩, ⟨bytes', ?_⟩⟩
        · rw [new]
          exact semantic
        · rw [new']
          exact semantic'

theorem RunMirrored.operations (apart : Distinguished messages)
    (apart' : Distinguished (messages.map TennisOperation.mirror)) (ops : List TennisOperation) :
    ∀ {s t : TennisState}, RunMirrored messages s t → (∀ op ∈ ops, op.Valid) → ops ⊆ messages →
      RunMirrored messages (runOperations s ops)
        (runOperations t (ops.map TennisOperation.mirror)) := by
  induction ops with
  | nil => exact fun run _ _ => run
  | cons op rest ih =>
      intro s t run arguments inside
      exact ih (run.standing (arguments op List.mem_cons_self) (inside List.mem_cons_self) apart apart')
        (fun later member => arguments later (List.mem_cons_of_mem _ member))
        fun later member => inside (List.mem_cons_of_mem _ member)

/-- A snapshot starts the mirrored match when its mirror is given. -/
theorem stateFromSnapshot_mirror {e : ProviderSnapshot} (valid : e.Valid)
    (started : stateFromSnapshot e = .ok s) : ∃ t, stateFromSnapshot e.mirror = .ok t ∧
      Mirrored s t ∧ LastMessage (.correction e) s t := by
  have mirrored := ProviderSnapshot.valid_mirror valid
  obtain ⟨bytes', digest', semantic'⟩ :=
    ProviderSnapshot.semantic_total mirrored.constructed mirrored.sets
  simp only [stateFromSnapshot, bind_eq_ok, exists_unit, refuse_eq_ok, Prod.exists,
    TennisState.construct_eq_ok] at started
  obtain ⟨bytes, digest, semantic, supported, complete, constructed, rfl⟩ := started
  have m := stateFromSnapshotFields_mirror e
    ⟨eventSemantic_isSha256 semantic, eventSemantic_isSha256 semantic'⟩
    ⟨hexdigest_isSha256 (domain "inci-tennis-initial-lineage-v1" ++ bytes),
      hexdigest_isSha256 (domain "inci-tennis-initial-lineage-v1" ++ bytes')⟩
  rw [← reachable_mirror e.matchFormat valid.sets] at complete
  exact ⟨_, bind_eq_ok.mpr ⟨_, semantic', bind_eq_ok.mpr ⟨(), refuse_ok _ supported,
      bind_eq_ok.mpr ⟨(), refuse_ok _ complete,
        TennisState.construct_eq_ok.mpr ⟨m.constructed constructed, rfl⟩⟩⟩⟩,
    m, ⟨bytes, semantic⟩, ⟨bytes', semantic'⟩⟩

end Runs

/-- Exchanging the sides commutes with the program: a score is reachable exactly when its
mirror is, each operation answers the mirrored state as it answers the state, and so does
every operation of a run from a snapshot. -/
theorem side_symmetry :
    (∀ (format : MatchFormat) (v : Score), (∀ set ∈ v.completedSets, set.postInit = .ok ()) →
      reachable format v.mirror = reachable format v) ∧
    (∀ (s t : TennisState) (x op : TennisOperation), s.Valid → Mirrored s t → op.Valid →
      LastMessage x s t → Distinguished [x, op] → Distinguished [x.mirror, op.mirror] →
      ∃ bytes d bytes' d', op.semantic = .ok (bytes, d) ∧ op.mirror.semantic = .ok (bytes', d') ∧
        Lockstep (MirroredAnswer s t d d') (op.apply s) (op.mirror.apply t)) ∧
    (∀ (e : ProviderSnapshot) (s : TennisState) (ops : List TennisOperation), e.Valid →
      (∀ op ∈ ops, op.Valid) → stateFromSnapshot e = .ok s →
      Distinguished (.correction e :: ops) →
      Distinguished ((.correction e :: ops).map TennisOperation.mirror) →
      ∃ t, stateFromSnapshot e.mirror = .ok t ∧ ∀ before op after, ops = before ++ op :: after →
        ∃ bytes d bytes' d', op.semantic = .ok (bytes, d) ∧ op.mirror.semantic = .ok (bytes', d') ∧
          Lockstep (MirroredAnswer (runOperations s before)
              (runOperations t (before.map TennisOperation.mirror)) d d')
            (op.apply (runOperations s before))
            (op.mirror.apply (runOperations t (before.map TennisOperation.mirror)))) := by
  refine ⟨fun format v sets => reachable_mirror format sets,
    fun s t x op valid m argument last apart apart' =>
      TennisOperation.apply_mirror m valid argument last apart apart', ?_⟩
  intro e s ops valid arguments started apart apart'
  obtain ⟨t, started', m, last⟩ := stateFromSnapshot_mirror valid started
  refine ⟨t, started', fun before op after split => ?_⟩
  subst split
  have run : RunMirrored (.correction e :: (before ++ op :: after)) s t :=
    ⟨m, stateFromSnapshot_valid valid started, _, List.mem_cons_self, last⟩
  obtain ⟨m', valid', x, known, last'⟩ := run.operations apart apart' before
    (fun earlier member => arguments earlier (by simp [member]))
    (List.subset_cons_of_subset _ (List.subset_append_left _ _))
  have member : op ∈ TennisOperation.correction e :: (before ++ op :: after) := by simp
  exact TennisOperation.apply_mirror m' valid' (arguments op (by simp)) last'
    (apart.subset (by simp only [List.cons_subset, List.nil_subset, known, member, and_self]))
    (apart'.subset (by simp only [List.cons_subset, List.nil_subset, List.mem_map_of_mem known,
      List.mem_map_of_mem member, and_self]))

/-- The opening snapshot and its redelivery, with the sides exchanged. -/
theorem side_symmetry_opening :
    ∃ s t bytes d bytes' d', stateFromSnapshot openingSnapshot = .ok s ∧
      stateFromSnapshot openingSnapshot.mirror = .ok t ∧
      openingSnapshot.semantic = .ok (bytes, d) ∧
      openingSnapshot.mirror.semantic = .ok (bytes', d') ∧
      Lockstep (MirroredAnswer s t d d') (applyCorrection s openingSnapshot)
        (applyCorrection t openingSnapshot.mirror) := by
  obtain ⟨-, -, runs⟩ := side_symmetry
  have valid := openingSnapshot_valid
  obtain ⟨s, started⟩ := openingSnapshot_starts
  have apart : ∀ x : TennisOperation, Distinguished [x, x] := by
    intro x y first z second bytes bytes' digest one other
    simp only [List.mem_cons, List.not_mem_nil, or_false, or_self] at first second
    subst first second
    exact (Prod.mk.inj (Except.ok.inj (one.symm.trans other))).1
  obtain ⟨t, started', answers⟩ := runs openingSnapshot s [.correction openingSnapshot] valid
    (fun op is => List.mem_singleton.mp is ▸ valid) started (apart _) (apart _)
  obtain ⟨bytes, d, bytes', d', semantic, semantic', both⟩ := answers [] _ [] rfl
  exact ⟨s, t, bytes, d, bytes', d', started, started', semantic, semantic', both⟩

end Inci.Tennis
