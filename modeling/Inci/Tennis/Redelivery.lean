/-
# Tennis.Redelivery -- an event delivered twice changes a state once

Whatever the first delivery of an event did, the second finds it done.  An event
that was applied is the last event of its state, so its digest repeats; a state
that blocked keeps the block, also against the correction it has just rejected.
-/
import Inci.Tennis.Admission
import Inci.Tennis.Blocked

namespace Inci.Tennis

open Inci.Theory Inci.Expert

set_option autoImplicit false

/-! ## Exact duplicates -/

/-- An event the state has applied last. -/
structure Repeats (s : TennisState) (e : IncrementalEvent) (digest : String) : Prop where
  unblocked : s.blockReason = none
  identity : e.toMatchIdentity = s.toMatchIdentity
  received : s.lastReceivedMonotonicNs ≤ e.receivedMonotonicNs
  epoch : e.correctionEpoch = s.correctionEpoch
  revision : e.revision = s.revision
  digests : digest = s.lastEventSemanticSha256

theorem incrementalPrecheck_repeats {s : TennisState} {e : IncrementalEvent} {digest : String}
    (repeats : Repeats s e digest) (isDigest : IsSha256 digest) :
    incrementalPrecheck s e digest = .ok (some ⟨s, .duplicate, .exactDuplicate, digest⟩) := by
  have unblocked : ¬s.blockReason.isSome = true := by simp [repeats.unblocked]
  have same := repeats.identity
  have received := repeats.received
  have epoch := repeats.epoch
  rw [incrementalPrecheck, if_neg unblocked]
  rw [if_neg (by simp [same]), if_neg (by simp [same]), if_neg (by simp [same]),
    if_neg (by simp [same]), if_neg (by omega), if_neg (by omega), if_neg (by omega),
    if_pos repeats.revision, if_pos repeats.digests]
  exact map_eq_ok.mpr ⟨_, result_eq_ok.mpr ⟨isDigest, rfl⟩, rfl⟩

/-- A state answers the event it has applied last as a duplicate. -/
theorem ProviderEvent.apply_repeats {s : TennisState} {e : ProviderEvent} {bytes : List UInt8}
    {digest : String} (validated : validateTennisState s = .ok ())
    (semantic : e.semantic = .ok (bytes, digest)) (repeats : Repeats s e.header digest) :
    e.apply s = .ok ⟨s, .duplicate, .exactDuplicate, digest⟩ := by
  cases e with
  | point p =>
      have isDigest : IsSha256 digest := eventSemantic_isSha256 semantic
      have known : p.semantic = .ok (bytes, digest) := semantic
      have prechecked : incrementalPrecheck s p.toIncrementalEvent digest = _ :=
        incrementalPrecheck_repeats repeats isDigest
      show applyPoint s p = _
      simp only [applyPoint, validated, known, ok_bind, prechecked]
      rfl
  | lifecycle l =>
      have isDigest : IsSha256 digest := eventSemantic_isSha256 semantic
      have known : l.semantic = .ok (bytes, digest) := semantic
      have prechecked : incrementalPrecheck s l.toIncrementalEvent digest = _ :=
        incrementalPrecheck_repeats repeats isDigest
      show applyLifecycle s l = _
      simp only [applyLifecycle, validated, known, ok_bind, prechecked]
      rfl

/-- An applied event is the one its state repeats. -/
theorem appliedFields_repeats {s : TennisState} {e : IncrementalEvent} (digest : String)
    (score : Score) (admitted : Admitted s e) :
    Repeats (appliedFields s e digest score) e digest :=
  ⟨rfl, admitted.identity, le_rfl, admitted.epoch, rfl, rfl⟩

/-- A state answers the snapshot it was last replaced by as a duplicate. -/
theorem applyCorrection_repeats {s : TennisState} {e : ProviderSnapshot} {bytes : List UInt8}
    {digest lineage : String} (semantic : e.semantic = .ok (bytes, digest))
    (legal : reachable e.matchFormat e.toScore = true)
    (is : s = stateFromSnapshotFields e digest lineage) :
    applyCorrection s e = .ok ⟨s, .duplicate, .exactDuplicate, digest⟩ := by
  have supported := reachable_supported legal
  have named : ¬e.matchFormat = .unsupported := by
    intro unsupported
    rw [unsupported] at supported
    exact absurd supported (by decide)
  have same : e.toMatchIdentity = s.toMatchIdentity := by rw [is]; rfl
  have floor : minimumReceipt s = e.receivedMonotonicNs := by
    rw [is]
    exact max_eq_left (Nat.zero_le _)
  have validated : validateTennisState s = .ok () := by
    have same : reachable s.matchFormat s.toScore = true := by
      rw [is]
      exact legal
    rw [validateTennisState, refuse_eq_ok, same]
    decide
  have last : e.correctionEpoch = s.correctionEpoch ∧ e.revision = s.revision ∧
      digest = s.lastEventSemanticSha256 := by
    rw [is]
    exact ⟨rfl, rfl, rfl⟩
  simp only [applyCorrection, validated, semantic, ok_bind]
  rw [if_neg (by simp [same]), if_neg (by simp [same]), if_neg (by simp [same]), if_neg named,
    if_neg (by simp [same]), if_neg (by omega), if_pos last]
  exact result_eq_ok.mpr ⟨eventSemantic_isSha256 semantic, rfl⟩

/-! ## Blocks -/

/-- A state that has just blocked a correction does not apply it. -/
theorem not_unblocks_blockState {s : TennisState} {e : ProviderSnapshot}
    {r : TennisTransitionResult} (valid : s.Valid) (argument : e.Valid)
    (answer : applyCorrection s e = .ok r) (blocked : r.disposition = .blocked)
    (unblocked : s.blockReason = none) {reason : TennisTransitionReason} {digest : String} :
    ¬Unblocks (blockState s reason digest e.receivedMonotonicNs none none) e := by
  intro unblocks
  have clear : s.blockedReceivedMonotonicNs = none := by
    obtain ⟨good, -⟩ := TennisState.valid_iff.mp valid
    have checked := good.block
    simp only [BlockMetadata.postInit, bind_eq_ok, exists_unit, unblocked, refuse_eq_ok,
      not_or] at checked
    simpa using checked.2.2.2.2.2.2.2
  have received : minimumReceipt s ≤ e.receivedMonotonicNs := by
    have applied : s.lastReceivedMonotonicNs ≤ e.receivedMonotonicNs := unblocks.afterApplied
    rw [minimumReceipt, clear]
    exact max_le applied (Nat.zero_le _)
  have eligible : Eligible s e := ⟨unblocks.identity, received, unblocks.newer⟩
  obtain ⟨r', answer', applied⟩ :=
    (applyCorrection_admits valid argument unblocks.complete eligible).mpr unblocks.reached
  obtain rfl : r' = r := Except.ok.inj (answer'.symm.trans answer)
  exact absurd (applied.symm.trans blocked) (by decide)

/-! ## Deliveries -/

/-- The second answer to an operation: the state it met, and nothing applied. -/
def Settled (s : TennisState) (op : TennisOperation) : Prop :=
  ∃ again, op.apply s = .ok again ∧ again.state = s ∧ again.disposition ≠ .applied

theorem Settled.of_unchanged {s : TennisState} {op : TennisOperation} {d : TransitionDisposition}
    {reason : TennisTransitionReason} {digest : String}
    (answer : op.apply s = .ok ⟨s, d, reason, digest⟩) (notApplied : d ≠ .applied) :
    Settled s op :=
  ⟨_, answer, rfl, notApplied⟩

theorem ProviderEvent.settled {s : TennisState} {e : ProviderEvent} {r : TennisTransitionResult}
    (valid : s.Valid) (argument : e.header.postInit = .ok ()) (answer : e.apply s = .ok r) :
    Settled r.state (.event e) := by
  have after : r.state.Valid :=
    @TennisOperation.apply_valid _ (.event e) _ valid argument answer
  obtain ⟨bytes, digest, semantic, legal, ⟨notApplied, advance⟩ | ⟨admitted, score, reason, applies,
    constructed, rfl⟩⟩ := ProviderEvent.apply_cases answer
  · cases advance with
    | unchanged d reason kept => exact .of_unchanged answer notApplied
    | installed reason expected observed unblocked constructed =>
        obtain ⟨digest', again⟩ := ProviderEvent.apply_blocked after argument rfl
        exact .of_unchanged again (by decide)
    | applied score reason admitted constructed => exact absurd rfl notApplied
  · have repeats := appliedFields_repeats digest score admitted
    exact .of_unchanged (ProviderEvent.apply_repeats after.reached semantic repeats) (by decide)

theorem correction_settled {s : TennisState} {e : ProviderSnapshot} {r : TennisTransitionResult}
    (valid : s.Valid) (argument : e.Valid) (answer : applyCorrection s e = .ok r) :
    Settled r.state (.correction e) := by
  have after : r.state.Valid :=
    @TennisOperation.apply_valid _ (.correction e) _ valid argument answer
  obtain ⟨-, bytes, digest, semantic, corrected⟩ := applyCorrection_corrected answer
  cases corrected with
  | unchanged d reason kept =>
      refine .of_unchanged answer ?_
      rcases kept with ⟨rfl, -⟩ | ⟨rfl, -⟩ <;> decide
  | installed reason unblocked constructed =>
      obtain ⟨again, answered, ⟨kept, notApplied⟩ | ⟨replacement, is, -, unblocks⟩⟩ :=
        @TennisOperation.apply_blocked _ (.correction e) after argument rfl
      · exact ⟨again, answered, kept, notApplied⟩
      · obtain rfl : e = replacement := TennisOperation.correction.inj is
        exact absurd unblocks (not_unblocks_blockState valid argument answer rfl unblocked)
  | replaced lineage identity received newer complete legal constructed =>
      exact .of_unchanged (applyCorrection_repeats semantic legal rfl) (by decide)

/-- Redelivery is idempotent: whatever an operation did to a valid state, applying
it again to the state it returned returns that state, and applies nothing. -/
theorem redelivery_settled (s : TennisState) (op : TennisOperation) (r : TennisTransitionResult)
    (valid : s.Valid) (argument : op.Valid) (answer : op.apply s = .ok r) :
    ∃ again, op.apply r.state = .ok again ∧ again.state = r.state ∧
      again.disposition ≠ .applied := by
  cases op with
  | event e => exact ProviderEvent.settled valid argument answer
  | correction e => exact correction_settled valid argument answer

/-- The opening state's first point, delivered twice. -/
theorem redelivery_settled_opening :
    ∃ r again, applyPoint openingState openingPoint = .ok r ∧
      applyPoint r.state openingPoint = .ok again ∧ again.state = r.state ∧
      again.disposition ≠ .applied := by
  obtain ⟨r, answer⟩ := applyPoint_total openingState_valid openingPoint_accepted (by decide)
  obtain ⟨again, answered, kept, notApplied⟩ :=
    redelivery_settled openingState (.event (.point openingPoint)) r openingState_valid
      openingPoint_accepted answer
  exact ⟨r, again, answer, answered, kept, notApplied⟩

end Inci.Tennis
