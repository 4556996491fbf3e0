/-
# Tennis.Blocked -- a block lasts until a newer correction

A blocked state answers every point and every lifecycle event with itself, and
every correction it does not apply.  The correction it does apply is newer than
the state and received after both what was applied and what was blocked.  So a
run never goes back in its order of corrections and revisions or in time.
-/
import Mathlib.Data.Prod.Lex
import Inci.Tennis.Validity

namespace Inci.Tennis

open Inci.Theory Inci.Expert

set_option autoImplicit false

/-! ## One operation -/

/-- A replacement that lifts the block of a state. -/
structure Unblocks (s : TennisState) (e : ProviderSnapshot) : Prop where
  identity : e.toMatchIdentity = s.toMatchIdentity
  newer : s.correctionEpoch < e.correctionEpoch
  afterApplied : s.lastReceivedMonotonicNs ≤ e.receivedMonotonicNs
  afterBlocked : ∀ time, s.blockedReceivedMonotonicNs = some time → time ≤ e.receivedMonotonicNs
  complete : e.snapshotComplete = true
  reached : reachable e.matchFormat e.toScore = true

theorem le_minimumReceipt (s : TennisState) :
    s.lastReceivedMonotonicNs ≤ minimumReceipt s ∧
      ∀ time, s.blockedReceivedMonotonicNs = some time → time ≤ minimumReceipt s := by
  refine ⟨le_max_left _ _, fun time blocked => ?_⟩
  rw [minimumReceipt, blocked]
  exact le_max_right _ _

theorem ProviderEvent.apply_blocked {s : TennisState} {e : ProviderEvent} (valid : s.Valid)
    (argument : e.header.postInit = .ok ()) (isBlocked : s.blockReason.isSome = true) :
    ∃ digest, e.apply s = .ok ⟨s, .blocked, .correctionRequired, digest⟩ := by
  have kept : ∀ event digest, IsSha256 digest → incrementalPrecheck s event digest =
      .ok (some ⟨s, .blocked, .correctionRequired, digest⟩) := by
    intro event digest digests
    rw [incrementalPrecheck, if_pos isBlocked]
    exact map_eq_ok.mpr ⟨_, result_eq_ok.mpr ⟨digests, rfl⟩, rfl⟩
  cases e with
  | point p =>
      obtain ⟨bytes, digest, semantic⟩ := ProviderPoint.semantic_total argument
      refine ⟨digest, ?_⟩
      show applyPoint s p = _
      simp only [applyPoint, valid.reached, semantic, ok_bind,
        kept _ _ (eventSemantic_isSha256 semantic)]
      rfl
  | lifecycle l =>
      obtain ⟨bytes, digest, semantic⟩ := ProviderLifecycle.semantic_total argument
      refine ⟨digest, ?_⟩
      show applyLifecycle s l = _
      simp only [applyLifecycle, valid.reached, semantic, ok_bind,
        kept _ _ (eventSemantic_isSha256 semantic)]
      rfl

/-- A correction leaves a blocked state as it is, or it is one that lifts the block. -/
theorem applyCorrection_blocked {s : TennisState} {e : ProviderSnapshot}
    {r : TennisTransitionResult} (isBlocked : s.blockReason.isSome = true)
    (answer : applyCorrection s e = .ok r) :
    (r.state = s ∧ r.disposition ≠ .applied) ∨ (r.disposition = .applied ∧ Unblocks s e) := by
  obtain ⟨-, bytes, digest, -, corrected⟩ := applyCorrection_corrected answer
  cases corrected with
  | unchanged d reason kept =>
      refine .inl ⟨rfl, ?_⟩
      rcases kept with ⟨rfl, -⟩ | ⟨rfl, -⟩ <;> simp
  | installed reason unblocked constructed => simp [unblocked] at isBlocked
  | replaced lineage identity received newer complete reached constructed =>
      obtain ⟨applied, blocked⟩ := le_minimumReceipt s
      exact .inr ⟨rfl, identity, newer, applied.trans received,
        fun time is => (blocked time is).trans received, complete, reached⟩

/-- What a blocked state answers. -/
theorem TennisOperation.apply_blocked {s : TennisState} {op : TennisOperation} (valid : s.Valid)
    (argument : op.Valid) (isBlocked : s.blockReason.isSome = true) :
    ∃ r, op.apply s = .ok r ∧ ((r.state = s ∧ r.disposition ≠ .applied) ∨
      ∃ replacement, op = .correction replacement ∧ r.disposition = .applied ∧
        Unblocks s replacement) := by
  cases op with
  | event e =>
      obtain ⟨digest, answer⟩ := ProviderEvent.apply_blocked valid argument isBlocked
      exact ⟨_, answer, .inl ⟨rfl, by simp⟩⟩
  | correction e =>
      obtain ⟨r, answer⟩ := applyCorrection_total valid argument
      refine ⟨r, answer, ?_⟩
      rcases applyCorrection_blocked isBlocked answer with kept | ⟨applied, unblocks⟩
      · exact .inl kept
      · exact .inr ⟨e, rfl, applied, unblocks⟩

/-- One state comes no earlier than another, in corrections and revisions and in time. -/
structure Succeeds (s t : TennisState) : Prop where
  order : toLex (s.correctionEpoch, s.revision) ≤ toLex (t.correctionEpoch, t.revision)
  received : s.lastReceivedMonotonicNs ≤ t.lastReceivedMonotonicNs

theorem Succeeds.refl (s : TennisState) : Succeeds s s := ⟨le_rfl, le_rfl⟩

theorem Succeeds.trans {s t u : TennisState} (first : Succeeds s t) (second : Succeeds t u) :
    Succeeds s u := ⟨first.order.trans second.order, first.received.trans second.received⟩

theorem Advance.succeeds {s : TennisState} {e : IncrementalEvent} {digest : String}
    {r : TennisTransitionResult} (advance : Advance s e digest r) : Succeeds s r.state := by
  cases advance with
  | unchanged d reason kept => exact Succeeds.refl s
  | installed reason expected observed unblocked constructed => exact ⟨le_rfl, le_rfl⟩
  | applied score reason admitted constructed =>
      refine ⟨?_, admitted.received⟩
      have next := admitted.revision
      rw [Prod.Lex.toLex_le_toLex]
      refine .inr ⟨rfl, ?_⟩
      show s.revision ≤ e.revision
      omega

theorem Corrected.succeeds {s : TennisState} {e : ProviderSnapshot} {digest : String}
    {r : TennisTransitionResult} (corrected : Corrected s e digest r) : Succeeds s r.state := by
  cases corrected with
  | unchanged d reason kept => exact Succeeds.refl s
  | installed reason unblocked constructed => exact ⟨le_rfl, le_rfl⟩
  | replaced lineage identity received newer complete reached constructed =>
      refine ⟨?_, (le_minimumReceipt s).1.trans received⟩
      rw [Prod.Lex.toLex_le_toLex]
      exact .inl newer

theorem TennisOperation.standing_succeeds (s : TennisState) (op : TennisOperation) :
    Succeeds s (op.standing s) := by
  unfold TennisOperation.standing
  cases answer : op.apply s with
  | error _ => exact Succeeds.refl s
  | ok r =>
      cases op with
      | event e =>
          cases e with
          | point p =>
              obtain ⟨_, _, -, advance⟩ := applyPoint_advance answer
              exact advance.succeeds
          | lifecycle l =>
              obtain ⟨_, _, -, advance⟩ := applyLifecycle_advance answer
              exact advance.succeeds
      | correction e =>
          obtain ⟨-, _, _, -, corrected⟩ := applyCorrection_corrected answer
          exact corrected.succeeds

/-! ## Runs -/

theorem runOperations_succeeds (s : TennisState) (ops : List TennisOperation) :
    Succeeds s (runOperations s ops) :=
  List.foldlRecOn ops _ (Succeeds.refl s)
    fun t before op _ => before.trans (TennisOperation.standing_succeeds t op)

/-- A run from a blocked state ends in it, or a correction lifted the block. -/
theorem runOperations_blocked {s : TennisState} (valid : s.Valid)
    (isBlocked : s.blockReason.isSome = true) (ops : List TennisOperation)
    (arguments : ∀ op ∈ ops, op.Valid) :
    runOperations s ops = s ∨
      ∃ before replacement after, ops = before ++ .correction replacement :: after ∧
        runOperations s before = s ∧ Unblocks s replacement := by
  induction ops with
  | nil => exact .inl rfl
  | cons op rest ih =>
      have argument := arguments op List.mem_cons_self
      obtain ⟨r, answer, ⟨kept, -⟩ | ⟨replacement, rfl, -, unblocks⟩⟩ :=
        TennisOperation.apply_blocked valid argument isBlocked
      · have stays : op.standing s = s := by
          rw [TennisOperation.standing, answer]
          exact kept
        have onward : ∀ ops, runOperations s (op :: ops) = runOperations s ops := by
          intro ops
          rw [runOperations, List.foldl_cons, stays]
          rfl
        rcases ih fun later member => arguments later (List.mem_cons_of_mem _ member) with
          ended | ⟨before, replacement, after, rfl, same, unblocks⟩
        · exact .inl ((onward rest).trans ended)
        · exact .inr ⟨op :: before, replacement, after, rfl, (onward before).trans same, unblocks⟩
      · exact .inr ⟨[], replacement, rest, rfl, rfl, unblocks⟩

/-- Blocked is absorbing: in every run from a valid state, an operation on a
blocked state returns that very state, unless it is a correction of the same
match that is newer, valid and received after what was applied and blocked; and
the run goes back neither in its corrections and revisions nor in time. -/
theorem blocked_until_newer_correction (start : TennisState) (ops : List TennisOperation)
    (valid : start.Valid) (arguments : ∀ op ∈ ops, op.Valid) :
    (∀ before op after, ops = before ++ op :: after →
      (runOperations start before).blockReason.isSome = true →
        ∃ r, op.apply (runOperations start before) = .ok r ∧
          ((r.state = runOperations start before ∧ r.disposition ≠ .applied) ∨
            ∃ replacement, op = .correction replacement ∧ r.disposition = .applied ∧
              Unblocks (runOperations start before) replacement)) ∧
    (∀ before middle after, ops = before ++ middle ++ after →
      (runOperations start before).blockReason.isSome = true →
        runOperations start (before ++ middle) = runOperations start before ∨
          ∃ blocked replacement later, middle = blocked ++ .correction replacement :: later ∧
            runOperations start (before ++ blocked) = runOperations start before ∧
            Unblocks (runOperations start before) replacement) ∧
    (∀ before middle after, ops = before ++ middle ++ after →
      Succeeds (runOperations start before) (runOperations start (before ++ middle))) := by
  have prefixValid : ∀ before after, ops = before ++ after →
      (runOperations start before).Valid := by
    rintro before after rfl
    exact runOperations_valid valid before
      fun op member => arguments op (List.mem_append_left _ member)
  have append : ∀ before middle, runOperations start (before ++ middle) =
      runOperations (runOperations start before) middle := fun _ _ => List.foldl_append
  refine ⟨?_, ?_, ?_⟩
  · rintro before op after rfl isBlocked
    exact TennisOperation.apply_blocked (prefixValid before (op :: after) rfl)
      (arguments op (by simp)) isBlocked
  · rintro before middle after rfl isBlocked
    simp only [append]
    exact runOperations_blocked (prefixValid before (middle ++ after) (by simp)) isBlocked middle
      fun op member => arguments op (by simp [member])
  · rintro before middle after rfl
    rw [append]
    exact runOperations_succeeds _ middle

def blockedOpening : TennisState :=
  { openingState with
    blockReason := some .providerEventStale
    blockedEventSemanticSha256 :=
      some "0000000000000000000000000000000000000000000000000000000000000000"
    blockedReceivedMonotonicNs := some 7 }

/-- The next point of a blocked match is answered with the blocked state. -/
theorem blocked_until_newer_correction_opening :
    ∃ r, applyPoint blockedOpening openingPoint = .ok r ∧ r.state = blockedOpening := by
  have valid : blockedOpening.Valid :=
    ⟨by decide +kernel, by simp [blockedOpening, openingState, openingScore], by decide +kernel⟩
  have argument : ∀ op ∈ [TennisOperation.event (.point openingPoint)], op.Valid := by
    intro op member
    rw [List.mem_singleton.mp member]
    exact openingPoint_accepted
  obtain ⟨r, answer, ⟨kept, -⟩ | ⟨_, other, -⟩⟩ :=
    (blocked_until_newer_correction blockedOpening [.event (.point openingPoint)] valid argument).1
      [] (.event (.point openingPoint)) [] rfl rfl
  · exact ⟨r, answer, kept⟩
  · exact absurd other (by simp)

end Inci.Tennis
