/-
# Tennis.Failures -- the machine never asserts

The assertions of the machine guard what a legal score already has: a tiebreak
has its first server and a point in play has its server.  Every failure of a
provider event on a state is therefore a contract error or an invariant error,
which the synchronizer catches.
-/
import Inci.Expert.Failures
import Inci.Tennis.Steps

namespace Inci.Tennis

open Inci.Theory Inci.Expert

set_option autoImplicit false

/-! ## Constructors -/

theorem caught_eventSemantic (kind : String) (event : List (String × PyValue)) :
    Caught (eventSemantic kind event) :=
  FailsOnly.bind (caught_canonicalExpertBytes _) fun _ _ => failsOnly_pure _

theorem caught_validateIdentity (m : MatchIdentity) (id : Option String) :
    Caught (validateIdentity m id) := by
  unfold validateIdentity
  refine FailsOnly.bind (caught_safeId ..) fun _ _ => ?_
  refine FailsOnly.bind (caught_safeId ..) fun _ _ => ?_
  refine FailsOnly.bind (caught_sha256 ..) fun _ _ => ?_
  refine FailsOnly.bind (FailsOnly.checkSome fun _ _ => caught_safeId ..) fun _ _ => ?_
  refine FailsOnly.bind (caught_safeId ..) fun _ _ => ?_
  refine FailsOnly.bind (caught_safeId ..) fun _ _ => ?_
  refine FailsOnly.bind (caught_safeId ..) fun _ _ => ?_
  exact FailsOnly.bind caught_refuse_contract fun _ _ => caught_integer ..

theorem caught_validateStatus (s : Score) : Caught (validateStatus s) := by
  unfold validateStatus
  cases s.status with
  | scheduled => exact caught_refuse_contract
  | live => exact caught_refuse_contract
  | suspended => exact caught_refuse_contract
  | ended =>
      cases s.terminationKind with
      | natural => exact caught_refuse_contract
      | walkover => exact caught_refuse_contract
      | retirement => exact caught_refuse_contract
      | none => exact failsOnly_error.mpr rfl
      | cancellation => exact failsOnly_error.mpr rfl
  | cancelled => exact caught_refuse_contract

theorem caught_validateScore (s : Score) : Caught (validateScore s) := by
  unfold validateScore
  refine FailsOnly.bind (caught_integer ..) fun _ _ => ?_
  refine FailsOnly.bind (caught_integer ..) fun _ _ => ?_
  refine FailsOnly.bind (caught_integer ..) fun _ _ => ?_
  refine FailsOnly.bind (caught_integer ..) fun _ _ => ?_
  refine FailsOnly.bind caught_refuse_contract fun _ _ => ?_
  refine FailsOnly.bind caught_refuse_contract fun _ _ => ?_
  exact FailsOnly.ite (fun _ => caught_refuse_contract) fun _ => caught_refuse_contract

theorem caught_block (b : BlockMetadata) : Caught b.postInit := by
  unfold BlockMetadata.postInit
  refine FailsOnly.bind (FailsOnly.checkSome fun _ _ => caught_integer ..) fun _ _ => ?_
  refine FailsOnly.bind (FailsOnly.checkSome fun _ _ => caught_integer ..) fun _ _ => ?_
  refine FailsOnly.bind (FailsOnly.checkSome fun _ _ => caught_integer ..) fun _ _ => ?_
  refine FailsOnly.bind (FailsOnly.checkSome fun _ _ => caught_sha256 ..) fun _ _ => ?_
  cases b.blockReason with
  | none => exact caught_refuse_contract
  | some reason =>
      refine FailsOnly.bind caught_refuse_contract fun _ _ => ?_
      refine FailsOnly.bind caught_refuse_contract fun _ _ => ?_
      exact FailsOnly.ite (fun _ => caught_refuse_contract) fun _ => caught_refuse_contract

theorem caught_state (s : TennisState) : Caught s.construct := by
  unfold TennisState.construct TennisState.postInit
  refine FailsOnly.bind ?_ fun _ _ => failsOnly_pure _
  refine FailsOnly.bind (caught_validateIdentity ..) fun _ _ => ?_
  refine FailsOnly.bind caught_refuse_contract fun _ _ => ?_
  refine FailsOnly.bind (caught_validateStatus ..) fun _ _ => ?_
  refine FailsOnly.bind (caught_validateScore ..) fun _ _ => ?_
  refine FailsOnly.bind (caught_integer ..) fun _ _ => ?_
  refine FailsOnly.bind (caught_integer ..) fun _ _ => ?_
  refine FailsOnly.bind caught_refuse_contract fun _ _ => ?_
  refine FailsOnly.bind (caught_safeId ..) fun _ _ => ?_
  refine FailsOnly.bind (caught_sha256 ..) fun _ _ => ?_
  refine FailsOnly.bind (caught_sha256 ..) fun _ _ => ?_
  refine FailsOnly.bind (caught_integer ..) fun _ _ => ?_
  refine FailsOnly.bind (caught_integer ..) fun _ _ => ?_
  refine FailsOnly.bind (caught_integer ..) fun _ _ => ?_
  exact FailsOnly.bind (caught_integer ..) fun _ _ => caught_block _

theorem caught_validateTennisState (s : TennisState) : Caught (validateTennisState s) :=
  failsOnly_refuse rfl

theorem caught_result (s : TennisState) (d : TransitionDisposition)
    (reason : TennisTransitionReason) (digest : String) : Caught (result s d reason digest) :=
  FailsOnly.bind (caught_sha256 ..) fun _ _ => failsOnly_pure _

/-- `state_from_snapshot` followed by the validation of its state. -/
theorem caught_stateFromSnapshot (e : ProviderSnapshot) : Caught (stateFromSnapshot e) := by
  unfold stateFromSnapshot
  refine FailsOnly.bind (caught_eventSemantic ..) fun _ _ => ?_
  refine FailsOnly.bind (failsOnly_refuse rfl) fun _ _ => ?_
  exact FailsOnly.bind (failsOnly_refuse rfl) fun _ _ => caught_state _

/-! ## Incremental events -/

theorem caught_blocked (s : TennisState) (e : IncrementalEvent) (digest : String)
    (reason : TennisTransitionReason) (expected observed : Option Nat) :
    Caught (blocked s e digest reason expected observed) :=
  FailsOnly.bind (caught_state _) fun _ _ => caught_result ..

theorem caught_incrementalPrecheck (s : TennisState) (e : IncrementalEvent) (digest : String) :
    Caught (incrementalPrecheck s e digest) := by
  unfold incrementalPrecheck
  refine FailsOnly.ite (fun _ => (caught_result ..).map) fun _ => ?_
  iterate 7 refine FailsOnly.ite (fun _ => (caught_blocked ..).map) fun _ => ?_
  refine FailsOnly.ite (fun _ => ?_) fun _ => ?_
  · exact FailsOnly.ite (fun _ => (caught_result ..).map) fun _ => (caught_blocked ..).map
  iterate 2 refine FailsOnly.ite (fun _ => (caught_blocked ..).map) fun _ => ?_
  exact failsOnly_pure _

theorem caught_setScore (s : SetScore) : Caught s.construct := by
  unfold SetScore.construct SetScore.postInit
  refine FailsOnly.bind ?_ fun _ _ => failsOnly_pure _
  refine FailsOnly.bind (caught_integer ..) fun _ _ => ?_
  refine FailsOnly.bind (caught_integer ..) fun _ _ => ?_
  refine FailsOnly.bind (FailsOnly.checkSome fun _ _ => caught_integer ..) fun _ _ => ?_
  refine FailsOnly.bind (FailsOnly.checkSome fun _ _ => caught_integer ..) fun _ _ => ?_
  exact caught_refuse_contract

/-- A score in play that is legal: its server is known, and so is the first server of
its tiebreak. -/
theorem legal_in_play {format : MatchFormat} {v : Score} (legal : reachable format v = true)
    (live : v.status = .live) (tiebreak : v.inTiebreak = true) :
    v.tiebreakFirstServer.isSome = true := by
  unfold reachable at legal
  split_ifs at legal
  simp only [live, Bool.and_eq_true] at legal
  have incomplete := legal.2
  unfold incompleteScoreIsReachable at incomplete
  cases first : v.tiebreakFirstServer with
  | none => simp [first, tiebreak] at incomplete
  | some _ => rfl

theorem caught_advanceScore {format : MatchFormat} {v : Score} {w : PlayerSide}
    (legal : reachable format v = true) (live : v.status = .live)
    (server : v.serverForNextPoint.isSome = true) : Caught (advanceScore format v w) := by
  have game : ∀ w, Caught (advanceGame format v w) := by
    intro w
    unfold advanceGame
    obtain ⟨side, present⟩ := Option.isSome_iff_exists.mp server
    simp only [present]
    refine FailsOnly.ite (fun _ => ?_) fun _ => ?_
    · exact FailsOnly.bind (caught_setScore _) fun _ _ => failsOnly_pure _
    · exact FailsOnly.ite (fun _ => failsOnly_pure _) fun _ => failsOnly_pure _
  unfold advanceScore
  refine FailsOnly.ite (fun tiebreak => ?_) fun _ => ?_
  · obtain ⟨first, present⟩ := Option.isSome_iff_exists.mp (legal_in_play legal live tiebreak)
    unfold advanceTiebreak
    simp only [present]
    refine FailsOnly.ite (fun _ => ?_) fun _ => failsOnly_pure _
    exact FailsOnly.bind (caught_setScore _) fun _ _ => failsOnly_pure _
  · cases w with
    | home =>
        cases gamePoint v.pointsHome v.pointsAway with
        | some _ => exact failsOnly_pure _
        | none => exact game _
    | away =>
        cases gamePoint v.pointsAway v.pointsHome with
        | some _ => exact failsOnly_pure _
        | none => exact game _

theorem caught_applyPoint (s : TennisState) (p : ProviderPoint) : Caught (applyPoint s p) := by
  unfold applyPoint
  refine FailsOnly.bind (caught_validateTennisState _) fun _ validated => ?_
  refine FailsOnly.bind (caught_eventSemantic ..) fun semantic _ => ?_
  refine FailsOnly.bind (caught_incrementalPrecheck ..) fun prechecked _ => ?_
  cases prechecked with
  | some _ => exact failsOnly_pure _
  | none =>
      refine FailsOnly.ite (fun _ => caught_blocked ..) fun _ => ?_
      refine FailsOnly.ite (fun _ => caught_blocked ..) fun live => ?_
      refine FailsOnly.ite (fun _ => caught_blocked ..) fun server => ?_
      have legal : reachable s.matchFormat s.toScore = true := by
        simpa [validateTennisState] using validated
      have served : s.serverForNextPoint.isSome = true := by
        rw [← not_not.mp server]
        rfl
      refine FailsOnly.bind (caught_advanceScore legal (not_not.mp live) served) fun _ _ => ?_
      exact FailsOnly.bind (caught_state _) fun _ _ => caught_result ..

theorem caught_applyLifecycle (s : TennisState) (e : ProviderLifecycle) :
    Caught (applyLifecycle s e) := by
  unfold applyLifecycle
  refine FailsOnly.bind (caught_validateTennisState _) fun _ _ => ?_
  refine FailsOnly.bind (caught_eventSemantic ..) fun semantic _ => ?_
  refine FailsOnly.bind (caught_incrementalPrecheck ..) fun prechecked _ => ?_
  have applies : ∀ score reason, Caught (do
      let applied ← appliedState s e.toIncrementalEvent semantic.2 score
      result applied .applied reason semantic.2) := fun _ _ =>
    FailsOnly.bind (caught_state _) fun _ _ => caught_result ..
  cases prechecked with
  | some _ => exact failsOnly_pure _
  | none =>
      refine FailsOnly.ite (fun _ => ?_) fun _ => ?_
      · exact FailsOnly.ite (fun _ => applies _ _) fun _ => caught_blocked ..
      · refine FailsOnly.ite (fun _ => caught_blocked ..) fun _ => ?_
        cases lifecycleChanges s.toScore e with
        | none => exact caught_blocked ..
        | some change => exact FailsOnly.ite (fun _ => caught_blocked ..) fun _ => applies _ _

/-! ## Corrections -/

theorem caught_correctionRejected (s : TennisState) (e : ProviderSnapshot) (digest : String)
    (reason : TennisTransitionReason) : Caught (correctionRejected s e digest reason) := by
  unfold correctionRejected
  split_ifs with isBlocked
  · exact caught_result ..
  · exact FailsOnly.bind (caught_state _) fun _ _ => caught_result ..

theorem caught_applyCorrection (s : TennisState) (e : ProviderSnapshot) :
    Caught (applyCorrection s e) := by
  unfold applyCorrection
  refine FailsOnly.bind (caught_validateTennisState _) fun _ _ => ?_
  refine FailsOnly.bind (caught_eventSemantic ..) fun semantic _ => ?_
  iterate 6 refine FailsOnly.ite (fun _ => caught_correctionRejected ..) fun _ => ?_
  refine FailsOnly.ite (fun _ => caught_result ..) fun _ => ?_
  iterate 2 refine FailsOnly.ite (fun _ => caught_correctionRejected ..) fun _ => ?_
  exact FailsOnly.bind (caught_state _) fun _ _ => caught_result ..

end Inci.Tennis
