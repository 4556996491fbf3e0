/-
# Market.Failures -- a constructed book never signals

The arithmetic of the book operations is wrapped, so its signals are contract
errors; a constructor adds up the best bids without a wrapper, but for ladders
whose sum was already taken.  Every failure of an event on a constructed book is
one the synchronizer catches.
-/
import Inci.Expert.Failures
import Inci.Market.Steps

namespace Inci.Market

open Inci.Theory Inci.Expert

set_option autoImplicit false

/-! ## Constructors -/

theorem caught_validateLadder (name : String) :
    ∀ bids : List BookLevel, Caught (validateLadder name bids)
  | [] => failsOnly_ok _
  | [_] => failsOnly_ok _
  | _ :: b :: rest =>
      FailsOnly.bind caught_refuse_contract fun _ _ => caught_validateLadder name (b :: rest)

/-- Two ladders whose best bids have a sum. -/
theorem caught_validateBookLadders {yesBids noBids : List BookLevel} {cross : Bool}
    (computed : crossed yesBids noBids = .ok cross) :
    Caught (validateBookLadders yesBids noBids) := by
  unfold validateBookLadders
  refine FailsOnly.bind (caught_validateLadder ..) fun _ _ => ?_
  refine FailsOnly.bind (caught_validateLadder ..) fun _ _ => ?_
  refine FailsOnly.bind ?_ fun _ _ => caught_refuse_contract
  rw [computed]
  exact failsOnly_ok _

theorem crossed_of_accepted {yesBids noBids : List BookLevel}
    (accepted : validateBookLadders yesBids noBids = .ok ()) :
    ∃ cross, crossed yesBids noBids = .ok cross := by
  simp only [validateBookLadders, bind_eq_ok, exists_unit] at accepted
  obtain ⟨-, -, cross, computed, -⟩ := accepted
  exact ⟨cross, computed⟩

theorem ladders_of_state {s : BookState} (good : s.postInit = .ok ()) :
    validateBookLadders s.yesBids s.noBids = .ok () := by
  simp only [BookState.postInit, bind_eq_ok, exists_unit] at good
  obtain ⟨-, -, -, -, -, -, -, -, -, -, ladders, -⟩ := good
  exact ladders

theorem ladders_of_snapshot {e : BookSnapshot} (good : e.postInit = .ok ()) :
    validateBookLadders e.yesBids e.noBids = .ok () := by
  simp only [BookSnapshot.postInit, bind_eq_ok, exists_unit] at good
  obtain ⟨-, -, -, -, -, -, -, ladders⟩ := good
  exact ladders

theorem caught_state {s : BookState} {cross : Bool}
    (computed : crossed s.yesBids s.noBids = .ok cross) : Caught s.construct := by
  unfold BookState.construct BookState.postInit
  refine FailsOnly.bind ?_ fun _ _ => failsOnly_pure _
  refine FailsOnly.bind (caught_ticker ..) fun _ _ => ?_
  refine FailsOnly.bind (caught_integer ..) fun _ _ => ?_
  refine FailsOnly.bind (caught_positiveInteger ..) fun _ _ => ?_
  iterate 7 refine FailsOnly.bind (caught_integer ..) fun _ _ => ?_
  refine FailsOnly.bind (caught_validateBookLadders computed) fun _ _ => ?_
  refine FailsOnly.bind caught_refuse_contract fun _ _ => ?_
  refine FailsOnly.bind (caught_probability ..) fun _ _ => ?_
  refine FailsOnly.bind (caught_integer ..) fun _ _ => ?_
  refine FailsOnly.bind caught_refuse_contract fun _ _ => ?_
  exact FailsOnly.bind (caught_sha256 ..) fun _ _ => caught_sha256 ..

theorem caught_result (r : BookTransitionResult) : Caught r.construct := by
  unfold BookTransitionResult.construct BookTransitionResult.postInit
  refine FailsOnly.bind ?_ fun _ _ => failsOnly_pure _
  refine FailsOnly.bind (FailsOnly.checkSome fun _ _ => caught_sha256 ..) fun _ _ => ?_
  refine FailsOnly.bind (caught_probability ..) fun _ _ => ?_
  refine FailsOnly.bind (FailsOnly.checkSome fun _ _ => caught_integer ..) fun _ _ => ?_
  refine FailsOnly.bind (caught_integer ..) fun _ _ => ?_
  refine FailsOnly.bind (caught_positiveInteger ..) fun _ _ => ?_
  iterate 3 refine FailsOnly.bind caught_refuse_contract fun _ _ => ?_
  cases r.acceptedEventKind with
  | none => exact caught_refuse_contract
  | some kind =>
      cases kind with
      | lifecycle => exact FailsOnly.bind caught_refuse_contract fun _ _ => caught_refuse_contract
      | snapshot | delta =>
          iterate 3 refine FailsOnly.bind caught_refuse_contract fun _ _ => ?_
          exact caught_refuse_contract

theorem caught_gap {s : BookState} (good : s.postInit = .ok ()) : Caught (gap s) := by
  rw [gap_total good]
  exact failsOnly_ok _

/-! ## Arithmetic -/

/-- Every failure is a decimal signal or one that is caught anyway. -/
abbrev Signals {α : Type} (attempt : Except ExpertError α) : Prop :=
  FailsOnly (fun e => e = .decimal ∨ e.isRuntimeError = true) attempt

theorem caught_arithmetic {α : Type} {attempt : Except ExpertError α} (signals : Signals attempt) :
    Caught (arithmetic attempt) := by
  constructor
  intro e failed
  rcases recover_eq_error failed with rfl | ⟨escaped, uncaught⟩
  · rfl
  · rcases signals.fails e escaped with rfl | caught
    · simp at uncaught
    · exact caught

theorem signals_round (x : ℚ) : Signals (decimalContext.round ExpertError.decimal x) :=
  FailsOnly.ite (fun _ => failsOnly_error.mpr (.inl rfl)) fun _ => failsOnly_ok _

theorem signals_bestAsk (bids : List BookLevel) : Signals (bestAsk bids) := by
  cases bids with
  | nil => exact failsOnly_pure _
  | cons level _ => exact (signals_round _).map

theorem signals_oneSideMove (before after : Option Decimal) :
    Signals (oneSideMove before after) := by
  cases before with
  | none => cases after <;> exact failsOnly_pure _
  | some before =>
      cases after with
      | none => exact failsOnly_pure _
      | some after => exact FailsOnly.bind (signals_round _) fun _ _ => signals_round _

theorem signals_executableMove (beforeYes beforeNo afterYes afterNo : List BookLevel) :
    Signals (executableMove beforeYes beforeNo afterYes afterNo) := by
  unfold executableMove
  iterate 4 refine FailsOnly.bind (signals_bestAsk _) fun _ _ => ?_
  iterate 2 refine FailsOnly.bind (signals_oneSideMove _ _) fun _ _ => ?_
  exact failsOnly_pure _

theorem signals_crossed (yesBids noBids : List BookLevel) : Signals (crossed yesBids noBids) := by
  unfold crossed
  split
  · exact FailsOnly.bind (signals_round _) fun _ _ => failsOnly_pure _
  · exact failsOnly_pure _

theorem signals_deltaLevels (s : BookState) (delta : BookDelta) : Signals (deltaLevels s delta) := by
  unfold deltaLevels
  refine FailsOnly.ite (fun _ => failsOnly_pure _) fun _ => ?_
  refine FailsOnly.bind ?_ fun level _ => ?_
  · refine FailsOnly.ite (fun _ => failsOnly_pure _) fun _ => FailsOnly.map ?_
    refine FailsOnly.bind ?_ fun _ _ => failsOnly_pure _
    refine FailsOnly.bind ?_ fun _ _ => ?_ <;> exact failsOnly_refuse (.inr rfl)
  · refine FailsOnly.bind (signals_crossed ..) fun cross _ => ?_
    refine FailsOnly.ite (fun _ => failsOnly_pure _) fun _ => ?_
    exact FailsOnly.bind (signals_executableMove ..) fun _ _ => failsOnly_pure _

theorem deltaLevels_crossed {s : BookState} {delta : BookDelta} {yesBids noBids : List BookLevel}
    {move : Decimal} (computed : deltaLevels s delta = .ok (some (yesBids, noBids, move))) :
    ∃ cross, crossed yesBids noBids = .ok cross := by
  unfold deltaLevels at computed
  simp only [ite_eq_iff, pure_eq_ok, reduceCtorEq, and_false, false_or, bind_eq_ok] at computed
  obtain ⟨_, level, -, cross, summed, _, _, -, answer⟩ := computed
  simp only [Option.some.injEq, Prod.mk.injEq] at answer
  obtain ⟨rfl, rfl, -⟩ := answer
  exact ⟨cross, summed⟩

/-! ## Operations -/

variable {s : BookState}

theorem caught_bookFromSnapshot {e : BookSnapshot} (event : e.postInit = .ok ()) :
    Caught (bookFromSnapshot e) := by
  obtain ⟨cross, summed⟩ := crossed_of_accepted (ladders_of_snapshot event)
  refine FailsOnly.bind (caught_contractSha256 _) fun digest _ => ?_
  exact FailsOnly.bind (caught_state summed) fun _ _ => caught_result _

theorem caught_applyBookSnapshot {e : BookSnapshot} (good : s.postInit = .ok ())
    (event : e.postInit = .ok ()) : Caught (applyBookSnapshot s e) := by
  obtain ⟨cross, summed⟩ := crossed_of_accepted (ladders_of_snapshot event)
  unfold applyBookSnapshot
  iterate 5 refine FailsOnly.bind caught_refuse_contract fun _ _ => ?_
  refine FailsOnly.ite (fun _ => caught_gap good) fun _ => ?_
  refine FailsOnly.bind (caught_arithmetic (signals_executableMove ..)) fun _ _ => ?_
  refine FailsOnly.bind (caught_contractSha256 _) fun digest _ => ?_
  exact FailsOnly.bind (caught_state summed) fun _ _ => caught_result _

theorem caught_applyBookDelta {e : BookDelta} (good : s.postInit = .ok ()) :
    Caught (applyBookDelta s e) := by
  unfold applyBookDelta
  iterate 3 refine FailsOnly.bind caught_refuse_contract fun _ _ => ?_
  iterate 4 refine FailsOnly.ite (fun _ => caught_gap good) fun _ => ?_
  refine FailsOnly.bind (caught_arithmetic (signals_deltaLevels ..)) fun levels computed => ?_
  rcases levels with _ | ⟨yesBids, noBids, move⟩
  · exact caught_gap good
  · obtain ⟨cross, summed⟩ := deltaLevels_crossed (recover_eq_ok.mp computed)
    refine FailsOnly.bind (caught_contractSha256 _) fun digest _ => ?_
    exact FailsOnly.bind (caught_state summed) fun _ _ => caught_result _

theorem caught_applyMarketLifecycle {e : MarketLifecycle} (good : s.postInit = .ok ()) :
    Caught (applyMarketLifecycle s e) := by
  obtain ⟨cross, summed⟩ := crossed_of_accepted (ladders_of_state good)
  unfold applyMarketLifecycle
  iterate 2 refine FailsOnly.bind caught_refuse_contract fun _ _ => ?_
  refine FailsOnly.ite (fun _ => caught_gap good) fun _ => ?_
  refine FailsOnly.bind caught_refuse_contract fun _ _ => ?_
  refine FailsOnly.ite (fun _ => ?_) fun _ => ?_
  · exact FailsOnly.ite (fun _ => caught_result _) fun _ => caught_gap good
  refine FailsOnly.ite (fun _ => caught_gap good) fun _ => ?_
  refine FailsOnly.bind (caught_contractSha256 _) fun digest _ => ?_
  exact FailsOnly.bind (caught_state summed) fun _ _ => caught_result _

theorem caught_requireBookResnapshot (good : s.postInit = .ok ()) :
    Caught (requireBookResnapshot s) := by
  obtain ⟨cross, summed⟩ := crossed_of_accepted (ladders_of_state good)
  unfold requireBookResnapshot
  exact FailsOnly.ite (fun _ => failsOnly_pure _) fun _ => caught_state summed

end Inci.Market
