/-
# Trading.Reprice -- score evidence under the ask that followed it

`repriceGateSnapshot` applies the evidence of a captured gate decision to the ask and the clock
of the execution.  Evidence is optional and, beside counts and flags, text: `Decimal` reads a
number off it or fails.  Every stage either passes its numbers on or denies the entry, and only
the recomputed edge opens a denied gate, one that an edge had denied.

`reprice_vouched` lists what an open gate vouches for.  The age of a score is a difference in
Decimal's 28 digits, so that a score older than the limit by less than those digits show is still
admitted (`age_rounds_down`).
-/
import Inci.Theory.Checks
import Inci.Trading.Fees

namespace Inci.Trading

open Inci.Theory

set_option autoImplicit false

/-! ## Numbers read off texts -/

/-- What `Decimal` reads: a finite number or one of its special values. -/
inductive Reading where
  | finite (value : Decimal)
  | infinite (negative : Bool)
  | nan (signaling : Bool)
  deriving DecidableEq

namespace Reading

/-- `x > bound`, which no NaN can be compared with. -/
def exceededBy (bound : Reading) (x : Decimal) : Except EngineError Bool :=
  match bound with
  | .finite limit => pure (decide (limit < x))
  | .infinite negative => pure negative
  | .nan _ => throw (.decimal .invalidOperation)

/-- `x < bound` -/
def above (bound : Reading) (x : Decimal) : Except EngineError Bool :=
  match bound with
  | .finite limit => pure (decide (x < limit))
  | .infinite negative => pure (!negative)
  | .nan _ => throw (.decimal .invalidOperation)

/-- The bound is a number or an infinity that `x` does not exceed. -/
def IsMost (bound : Reading) (x : Decimal) : Prop :=
  match bound with
  | .finite limit => x ≤ limit
  | .infinite negative => negative = false
  | .nan _ => False

def IsLeast (bound : Reading) (x : Decimal) : Prop :=
  match bound with
  | .finite limit => limit ≤ x
  | .infinite negative => negative = true
  | .nan _ => False

theorem exceededBy_iff {bound : Reading} {x : Decimal} :
    bound.exceededBy x = .ok false ↔ bound.IsMost x := by
  cases bound with
  | finite limit => simp [exceededBy, IsMost, pure, Except.pure]
  | infinite negative => simp [exceededBy, IsMost, pure, Except.pure]
  | nan signaling => simp [exceededBy, IsMost, throw, throwThe, MonadExceptOf.throw]

theorem above_iff {bound : Reading} {x : Decimal} :
    bound.above x = .ok false ↔ bound.IsLeast x := by
  cases bound with
  | finite limit => simp [above, IsLeast, pure, Except.pure]
  | infinite negative => simp [above, IsLeast, pure, Except.pure]
  | nan signaling => simp [above, IsLeast, throw, throwThe, MonadExceptOf.throw]

/-- `x - reading`, `none` for a result that is not finite. -/
def subtractFrom (reading : Reading) (x : Decimal) : Except EngineError (Option Decimal) :=
  match reading with
  | .finite y => do
      let difference ← subtract x y
      pure (some difference)
  | .infinite _ | .nan false => pure none
  | .nan true => throw (.decimal .invalidOperation)

/-- `reading / 100`, `none` for a result that is not finite. -/
def hundredth (reading : Reading) : Except EngineError (Option Decimal) :=
  match reading with
  | .finite y => do
      let quotient ← divide y hundred
      pure (some quotient)
  | .infinite _ | .nan false => pure none
  | .nan true => throw (.decimal .invalidOperation)

end Reading

/-! ## Evidence -/

/-- The snapshot of a gate decision, its optional texts as they stand. -/
structure GateEvidence where
  enabled : Bool
  allow : Bool
  reason : Option String
  scoreSource : Option String
  scoreMatchId : Option String
  scoreAthleteId : Option String
  scoreOpponentId : Option String
  scoreLifecycleState : Option String
  scoreObserved : Option Bool
  scoreBestOf : Option ℤ
  scoreSetsFor : Option ℤ
  scoreSetsAgainst : Option ℤ
  scoreGamesFor : Option ℤ
  scoreGamesAgainst : Option ℤ
  scoreTimestamp : Option String
  gateObservedAt : Option String
  modelProb : Option String
  marketProb : Option String
  edge : Option String
  model1Prob : Option String
  model2Prob : Option String
  priorSourceSha256 : Option String
  priorGeneratedAt : Option String
  priorModel1Id : Option String
  priorModel2Id : Option String
  prematchModel1Prob : Option String
  prematchModel2Prob : Option String
  priorModelAsOf : Option String
  priorMatchStart : Option String

/-- `str` of an optional text. -/
def textOf (text : Option String) : String := text.getD "None"

namespace GateEvidence

variable (evidence : GateEvidence)

/-- All of `score_fields` are there. -/
def scoreComplete : Bool :=
  evidence.scoreSource.isSome && evidence.scoreMatchId.isSome && evidence.scoreAthleteId.isSome &&
    evidence.scoreOpponentId.isSome && evidence.scoreLifecycleState.isSome &&
    evidence.scoreObserved.isSome && evidence.scoreBestOf.isSome && evidence.scoreSetsFor.isSome &&
    evidence.scoreSetsAgainst.isSome && evidence.scoreGamesFor.isSome &&
    evidence.scoreGamesAgainst.isSome

/-- All of `prior_fields` are there. -/
def priorComplete : Bool :=
  evidence.model1Prob.isSome && evidence.model2Prob.isSome && evidence.priorSourceSha256.isSome &&
    evidence.priorGeneratedAt.isSome && evidence.priorModel1Id.isSome &&
    evidence.priorModel2Id.isSome && evidence.prematchModel1Prob.isSome &&
    evidence.prematchModel2Prob.isSome && evidence.priorModelAsOf.isSome &&
    evidence.priorMatchStart.isSome

/-- `reason.startswith("blocked:edge ")` -/
def edgeDenied : Bool := decide ("blocked:edge ".toList <+: (evidence.reason.getD "").toList)

def deny (reason : String) : GateEvidence := { evidence with allow := false, reason := some reason }

end GateEvidence

/-- The installed clock, feed and configuration, numbers among them as texts, with what Python
reads off a text and how it writes a number. -/
structure RepriceContext where
  number : String → Option Reading
  utcEpochDecimal : String → Option Decimal
  text : Decimal → String
  readingText : Reading → String
  format : String → Decimal → String
  clock : String
  /-- `scheduled_start_ts` of a ticker's provenance, where there is one. -/
  scheduledStart : String → Option String
  /-- `score_provider_max_age_s` or its default, where that can be computed. -/
  scoreMaxAge : Option String
  espnMinModelProb : String
  espnMinEdge : String
  twoModelPriorPath : String
  twoModelPriorMaxAge : String

/-! ## Stages -/

/-- A stage denies the entry or raises. -/
inductive Stop where
  | denied (reason : String)
  | raised (error : EngineError)

/-- A denial ends the repricing with the evidence as it stands. -/
def conclude {α : Type} (evidence : GateEvidence) (stage : Except Stop α)
    (next : α → Except EngineError GateEvidence) : Except EngineError GateEvidence :=
  match stage with
  | .ok a => next a
  | .error (.denied reason) => pure (evidence.deny reason)
  | .error (.raised error) => throw error

section

variable (ctx : RepriceContext)

/-- A number where the text has one, inside a `try`. -/
def numberOr (text reason : String) : Except Stop Reading :=
  match ctx.number text with
  | some reading => pure reading
  | none => throw (.denied reason)

def finiteOr (reading : Reading) (reason : String) : Except Stop Decimal :=
  match reading with
  | .finite value => pure value
  | _ => throw (.denied reason)

/-- An operation outside of any `try`. -/
def raising {α : Type} (result : Except EngineError α) : Except Stop α := result.mapError .raised

/-- `gate_observed_at`, not before zero. -/
def observationTime (evidence : GateEvidence) : Except Stop Decimal := do
  let reading ← numberOr ctx (textOf evidence.gateObservedAt) "blocked:missing_gate_observation_time"
  let time ← finiteOr reading "blocked:invalid_gate_observation_time"
  refuse (time < 0) (.denied "blocked:invalid_gate_observation_time")
  pure time

/-- The decision's time, not before the observation. -/
def decisionTime (decisionAt : Option String) (observed : Decimal) : Except Stop Decimal := do
  let reading ← numberOr ctx (decisionAt.getD ctx.clock) "blocked:invalid_decision_timestamp"
  let decided ← finiteOr reading "blocked:invalid_gate_decision_chronology"
  refuse (decided < observed) (.denied "blocked:invalid_gate_decision_chronology")
  pure decided

/-- Before the match the decision precedes the scheduled start. -/
def prematchStage (ticker : String) (decided : Decimal) : Except Stop Unit := do
  let reading ← numberOr ctx (textOf (ctx.scheduledStart ticker)) "blocked:invalid_scheduled_start"
  let scheduled ← finiteOr reading "blocked:prematch_state_at_decision_time"
  refuse (scheduled ≤ decided) (.denied "blocked:prematch_state_at_decision_time")

/-- `maximum_age` -/
def maximumAge : Except Stop Reading :=
  match ctx.scoreMaxAge with
  | some text => numberOr ctx text "blocked:invalid_score_timestamp"
  | none => throw (.denied "blocked:invalid_score_timestamp")

/-- During the match the score is observed and fresh. -/
def liveStage (evidence : GateEvidence) (decided : Decimal) : Except Stop Unit := do
  let stale := "blocked:stale_score_at_decision"
  let scoreAt ← numberOr ctx (textOf evidence.scoreTimestamp) "blocked:invalid_score_timestamp"
  let maximum ← maximumAge ctx
  let age ← raising (scoreAt.subtractFrom decided)
  refuse (evidence.scoreObserved ≠ some true) (.denied stale)
  match age with
  | none => throw (.denied stale)
  | some age =>
      refuse (age < 0) (.denied stale)
      let exceeded ← raising (maximum.exceededBy age)
      refuse (exceeded = true) (.denied stale)

def lifecycleStage (evidence : GateEvidence) (ticker : Option String) (decided : Decimal) :
    Except Stop Unit :=
  match evidence.scoreLifecycleState with
  | some "post" => throw (.denied "blocked:match_over")
  | some "pre" =>
      match ticker with
      | some ticker => prematchStage ctx ticker decided
      | none => pure ()
  | some "in" => liveStage ctx evidence decided
  | _ => pure ()

/-- The ask as a probability strictly between zero and one. -/
def askProbability (ask : String) : Except Stop Decimal := do
  let invalid := "blocked:invalid_post_evidence_ask"
  let reading ← numberOr ctx ask invalid
  match reading.hundredth with
  | .ok (some prob) =>
      refuse (prob ≤ 0 ∨ 1 ≤ prob) (.denied invalid)
      pure prob
  | _ => throw (.denied invalid)

def modelStage (modelRaw : String) : Except Stop Decimal := do
  let reading ← numberOr ctx modelRaw "blocked:invalid_post_evidence_model"
  finiteOr reading "blocked:invalid_post_evidence_model"

/-- `Decimal(str(value))` of a configured value. -/
def configured (text : String) : Except EngineError Reading :=
  match ctx.number text with
  | some reading => pure reading
  | none => throw (.decimal .invalidOperation)

/-- The prior's dates in order and fresh: its generation and the start of its match. -/
def priorStage (evidence : GateEvidence) (decided : Decimal) : Except Stop Decimal := do
  let invalid := "blocked:invalid_prematch_prior_timeline"
  match ctx.utcEpochDecimal (textOf evidence.priorModelAsOf),
      ctx.utcEpochDecimal (textOf evidence.priorGeneratedAt),
      ctx.utcEpochDecimal (textOf evidence.priorMatchStart), ctx.number ctx.twoModelPriorMaxAge with
  | some modelAsOf, some generatedAt, some matchStart, some maximum =>
      refuse (generatedAt < modelAsOf ∨ matchStart < generatedAt) (.denied invalid)
      let maximum ← finiteOr maximum invalid
      refuse (maximum ≤ 0) (.denied invalid)
      let age ← raising (subtract decided generatedAt)
      refuse (age < 0 ∨ maximum < age) (.denied "blocked:stale_prematch_prior_at_decision")
      pure matchStart
  | _, _, _, _ => throw (.denied invalid)

/-- The prior's match is the scheduled one. -/
def startStage (ticker : Option String) (matchStart : Decimal) : Except Stop Unit :=
  match ticker with
  | none => pure ()
  | some ticker =>
      refuse (ctx.number (textOf (ctx.scheduledStart ticker)) ≠ some (.finite matchStart))
        (.denied "blocked:prematch_start_mismatch")

/-- A decision without an edge of its own: a guard of the model alone. -/
def guardOnly (evidence : GateEvidence) (model : Decimal) (minimum : Reading) :
    Except EngineError GateEvidence :=
  if ctx.twoModelPriorPath ≠ "" then pure (evidence.deny "blocked:prematch_prior_required")
  else do
    let collapsed ← minimum.above model
    pure (if collapsed then evidence.deny ("blocked:score_collapse " ++ ctx.format ".3f" model ++
        "<" ++ ctx.readingText minimum ++ " after requote")
      else evidence)

/-- The decision on the recomputed edge. -/
def edgeDecision (evidence : GateEvidence) (model askProb : Decimal) (minimumModel : Reading) :
    Except EngineError GateEvidence := do
  let edge ← subtract model askProb
  let updated := { evidence with edge := some (ctx.text edge) }
  let minimumEdge ← configured ctx ctx.espnMinEdge
  if ← minimumModel.above model then
    pure (updated.deny ("blocked:model_prob " ++ ctx.format ".3f" model ++ "<" ++
      ctx.readingText minimumModel ++ " after requote"))
  else if ← minimumEdge.above edge then
    pure (updated.deny ("blocked:edge " ++ ctx.format "+.3f" edge ++ "<" ++
      ctx.readingText minimumEdge ++ " (model " ++ ctx.format ".3f" model ++
      " vs post-evidence ask " ++ ctx.format ".3f" askProb ++ ")"))
  else
    pure { updated with
      allow := true
      reason := some ("post_evidence_edge " ++ ctx.format "+.3f" edge ++ ">=" ++
        ctx.readingText minimumEdge ++ " (model " ++ ctx.format ".3f" model ++ " vs ask " ++
        ctx.format ".3f" askProb ++ ")") }

/-- The prior behind an edge, and the edge at the new ask. -/
def repriceEdge (evidence : GateEvidence) (ticker : Option String) (decided model askProb : Decimal)
    (minimumModel : Reading) : Except EngineError GateEvidence :=
  if ¬evidence.priorComplete then pure (evidence.deny "blocked:incomplete_prematch_provenance")
  else
    conclude evidence (priorStage ctx evidence decided) fun matchStart =>
      conclude evidence (startStage ctx ticker matchStart) fun _ =>
        edgeDecision ctx evidence model askProb minimumModel

/-- The model's part: the evidence under the market's new price. -/
def repriceModel (evidence : GateEvidence) (ticker : Option String) (decided askProb : Decimal) :
    Except EngineError GateEvidence :=
  match evidence.modelProb with
  | none => pure (if evidence.marketProb.isSome then
      { evidence with marketProb := some (ctx.text askProb) } else evidence)
  | some modelRaw =>
      conclude evidence (modelStage ctx modelRaw) fun model => do
        let updated := { evidence with marketProb := some (ctx.text askProb) }
        let minimumModel ← configured ctx ctx.espnMinModelProb
        match updated.edge with
        | none => guardOnly ctx updated model minimumModel
        | some _ => repriceEdge ctx updated ticker decided model askProb minimumModel

/-- `_reprice_gate_snapshot` -/
def repriceGateSnapshot (evidence : GateEvidence) (ask : String) (decisionAt ticker : Option String) :
    Except EngineError GateEvidence :=
  if ¬evidence.enabled then pure evidence
  else if ¬evidence.scoreComplete then
    pure (if evidence.allow then evidence.deny "blocked:incomplete_score_evidence" else evidence)
  else if ¬evidence.allow ∧ ¬evidence.edgeDenied then pure evidence
  else
    conclude evidence (observationTime ctx evidence) fun observed =>
      conclude evidence (decisionTime ctx decisionAt observed) fun decided =>
        conclude evidence (lifecycleStage ctx evidence ticker decided) fun _ =>
          conclude evidence (askProbability ctx ask) fun askProb =>
            repriceModel ctx evidence ticker decided askProb

end

/-! ## What the stages pass on -/

section

variable {ctx : RepriceContext} {evidence result : GateEvidence} {decisionAt ticker : Option String}
  {ask : String} {observed decided prob model : Decimal}

/-- An open gate has passed the stage. -/
theorem conclude_open {α : Type} {stage : Except Stop α} {next : α → Except EngineError GateEvidence}
    (returned : conclude evidence stage next = .ok result) (allow : result.allow = true) :
    ∃ a, stage = .ok a ∧ next a = .ok result := by
  unfold conclude at returned
  cases stage with
  | ok a => exact ⟨a, rfl, returned⟩
  | error stop =>
      cases stop with
      | denied reason =>
          cases returned
          exact nomatch allow
      | raised error => exact nomatch returned

theorem numberOr_ok {text reason : String} {reading : Reading} :
    numberOr ctx text reason = .ok reading ↔ ctx.number text = some reading := by
  unfold numberOr
  cases ctx.number text with
  | none => simp [throw, throwThe, MonadExceptOf.throw]
  | some found => simp [pure, Except.pure]

theorem finiteOr_ok {reading : Reading} {reason : String} {value : Decimal} :
    finiteOr reading reason = .ok value ↔ reading = .finite value := by
  cases reading with
  | finite found => simp [finiteOr, pure, Except.pure]
  | infinite negative => simp [finiteOr, throw, throwThe, MonadExceptOf.throw]
  | nan signaling => simp [finiteOr, throw, throwThe, MonadExceptOf.throw]

theorem raising_ok {α : Type} {attempt : Except EngineError α} {a : α} :
    raising attempt = .ok a ↔ attempt = .ok a := by
  cases attempt with
  | ok b => simp [raising, Except.mapError]
  | error e => simp [raising, Except.mapError]

theorem observationTime_ok : observationTime ctx evidence = .ok observed ↔
    ctx.number (textOf evidence.gateObservedAt) = some (.finite observed) ∧ 0 ≤ observed := by
  constructor
  · intro passed
    obtain ⟨reading, read, passed⟩ := bind_eq_ok.mp passed
    obtain ⟨time, finite, passed⟩ := bind_eq_ok.mp passed
    obtain ⟨_, late, passed⟩ := bind_eq_ok.mp passed
    cases passed
    obtain rfl := finiteOr_ok.mp finite
    exact ⟨numberOr_ok.mp read, not_lt.mp ((refuse_eq_ok _ _ _).mp late)⟩
  · rintro ⟨read, nonneg⟩
    exact bind_eq_ok.mpr ⟨_, numberOr_ok.mpr read, bind_eq_ok.mpr ⟨_, finiteOr_ok.mpr rfl,
      bind_eq_ok.mpr ⟨(), refuse_ok _ (not_lt.mpr nonneg), rfl⟩⟩⟩

theorem decisionTime_ok : decisionTime ctx decisionAt observed = .ok decided ↔
    ctx.number (decisionAt.getD ctx.clock) = some (.finite decided) ∧ observed ≤ decided := by
  constructor
  · intro passed
    obtain ⟨reading, read, passed⟩ := bind_eq_ok.mp passed
    obtain ⟨time, finite, passed⟩ := bind_eq_ok.mp passed
    obtain ⟨_, late, passed⟩ := bind_eq_ok.mp passed
    cases passed
    obtain rfl := finiteOr_ok.mp finite
    exact ⟨numberOr_ok.mp read, not_lt.mp ((refuse_eq_ok _ _ _).mp late)⟩
  · rintro ⟨read, order⟩
    exact bind_eq_ok.mpr ⟨_, numberOr_ok.mpr read, bind_eq_ok.mpr ⟨_, finiteOr_ok.mpr rfl,
      bind_eq_ok.mpr ⟨(), refuse_ok _ (not_lt.mpr order), rfl⟩⟩⟩

/-- A score that is observed, not from the future, and within the maximum age. -/
def Fresh (ctx : RepriceContext) (evidence : GateEvidence) (decided : Decimal) : Prop :=
  evidence.scoreObserved = some true ∧ ∃ scoreAt age maximum,
    ctx.number (textOf evidence.scoreTimestamp) = some (.finite scoreAt) ∧
    subtract decided scoreAt = .ok age ∧ 0 ≤ age ∧
    ctx.scoreMaxAge.bind ctx.number = some maximum ∧ maximum.IsMost age

theorem subtractFrom_some {reading : Reading} {x age : Decimal}
    (difference : reading.subtractFrom x = .ok (some age)) :
    ∃ y, reading = .finite y ∧ subtract x y = .ok age := by
  cases reading with
  | finite y =>
      obtain ⟨found, exact', rest⟩ := bind_eq_ok.mp difference
      cases rest
      exact ⟨y, rfl, exact'⟩
  | infinite negative => exact nomatch difference
  | nan signaling => cases signaling <;> exact nomatch difference

theorem hundredth_some {reading : Reading} {quotient : Decimal}
    (divided : reading.hundredth = .ok (some quotient)) :
    ∃ y, reading = .finite y ∧ divide y hundred = .ok quotient := by
  cases reading with
  | finite y =>
      obtain ⟨found, exact', rest⟩ := bind_eq_ok.mp divided
      cases rest
      exact ⟨y, rfl, exact'⟩
  | infinite negative => exact nomatch divided
  | nan signaling => cases signaling <;> exact nomatch divided

theorem maximumAge_ok {maximum : Reading} :
    maximumAge ctx = .ok maximum ↔ ctx.scoreMaxAge.bind ctx.number = some maximum := by
  unfold maximumAge
  cases ctx.scoreMaxAge with
  | none => simp [throw, throwThe, MonadExceptOf.throw]
  | some text => exact numberOr_ok

theorem liveStage_ok : liveStage ctx evidence decided = .ok () ↔ Fresh ctx evidence decided := by
  constructor
  · intro passed
    obtain ⟨reading, read, passed⟩ := bind_eq_ok.mp passed
    obtain ⟨maximum, bound, passed⟩ := bind_eq_ok.mp passed
    obtain ⟨age, difference, passed⟩ := bind_eq_ok.mp passed
    obtain ⟨_, seen, passed⟩ := bind_eq_ok.mp passed
    rw [raising_ok] at difference
    cases age with
    | none => exact nomatch passed
    | some age =>
        obtain ⟨_, past, passed⟩ := bind_eq_ok.mp passed
        obtain ⟨exceeded, compared, passed⟩ := bind_eq_ok.mp passed
        rw [raising_ok] at compared
        have within : exceeded = false := Bool.eq_false_iff.mpr ((refuse_eq_ok _ _ _).mp passed)
        subst within
        obtain ⟨scoreAt, rfl, exact'⟩ := subtractFrom_some difference
        exact ⟨not_not.mp ((refuse_eq_ok _ _ _).mp seen), scoreAt, age, maximum,
          numberOr_ok.mp read, exact', not_lt.mp ((refuse_eq_ok _ _ _).mp past),
          maximumAge_ok.mp bound, Reading.exceededBy_iff.mp compared⟩
  · rintro ⟨seen, scoreAt, age, maximum, read, exact', nonneg, bound, within⟩
    have difference : (Reading.finite scoreAt).subtractFrom decided = .ok (some age) :=
      bind_eq_ok.mpr ⟨_, exact', rfl⟩
    exact bind_eq_ok.mpr ⟨_, numberOr_ok.mpr read, bind_eq_ok.mpr ⟨_, maximumAge_ok.mpr bound,
      bind_eq_ok.mpr ⟨_, raising_ok.mpr difference,
        bind_eq_ok.mpr ⟨(), refuse_ok _ (not_not.mpr seen),
          bind_eq_ok.mpr ⟨(), refuse_ok _ (not_lt.mpr nonneg),
            bind_eq_ok.mpr ⟨_, raising_ok.mpr (Reading.exceededBy_iff.mpr within),
              refuse_ok _ (by decide)⟩⟩⟩⟩⟩⟩

theorem prematchStage_ok {ticker : String} (passed : prematchStage ctx ticker decided = .ok ()) :
    ∃ scheduled, ctx.number (textOf (ctx.scheduledStart ticker)) = some (.finite scheduled) ∧
      decided < scheduled := by
  obtain ⟨reading, read, passed⟩ := bind_eq_ok.mp passed
  obtain ⟨scheduled, finite, passed⟩ := bind_eq_ok.mp passed
  rw [finiteOr_ok] at finite
  subst finite
  exact ⟨scheduled, numberOr_ok.mp read, not_le.mp ((refuse_eq_ok _ _ _).mp passed)⟩

/-- The match is not over, not due to have started while it is shown as not started, and its
score in play is fresh. -/
structure InPhase (ctx : RepriceContext) (evidence : GateEvidence) (ticker : Option String)
    (decided : Decimal) : Prop where
  going : evidence.scoreLifecycleState ≠ some "post"
  prematch : evidence.scoreLifecycleState = some "pre" → ∀ name, ticker = some name →
    ∃ scheduled, ctx.number (textOf (ctx.scheduledStart name)) = some (.finite scheduled) ∧
      decided < scheduled
  live : evidence.scoreLifecycleState = some "in" → Fresh ctx evidence decided

theorem lifecycleStage_ok (passed : lifecycleStage ctx evidence ticker decided = .ok ()) :
    InPhase ctx evidence ticker decided := by
  unfold lifecycleStage at passed
  refine ⟨?_, ?_, ?_⟩
  · intro over'
    rw [over'] at passed
    exact nomatch passed
  · intro before name named
    rw [before, named] at passed
    exact prematchStage_ok passed
  · intro live
    rw [live] at passed
    exact liveStage_ok.mp passed

theorem askProbability_ok (passed : askProbability ctx ask = .ok prob) :
    ∃ cents, ctx.number ask = some (.finite cents) ∧ divide cents hundred = .ok prob := by
  obtain ⟨reading, read, passed⟩ := bind_eq_ok.mp passed
  cases quotient : reading.hundredth with
  | error e =>
      rw [quotient] at passed
      exact nomatch passed
  | ok value =>
      rw [quotient] at passed
      cases value with
      | none => exact nomatch passed
      | some found =>
          obtain ⟨_, -, passed⟩ := bind_eq_ok.mp passed
          cases passed
          obtain ⟨cents, rfl, divided⟩ := hundredth_some quotient
          exact ⟨cents, numberOr_ok.mp read, divided⟩

theorem modelStage_ok {modelRaw : String} (passed : modelStage ctx modelRaw = .ok model) :
    ctx.number modelRaw = some (.finite model) := by
  obtain ⟨reading, read, finite⟩ := bind_eq_ok.mp passed
  rw [finiteOr_ok] at finite
  subst finite
  exact numberOr_ok.mp read

theorem configured_ok {text : String} {reading : Reading}
    (passed : configured ctx text = .ok reading) : ctx.number text = some reading := by
  unfold configured at passed
  cases read : ctx.number text with
  | none =>
      rw [read] at passed
      exact nomatch passed
  | some found =>
      rw [read] at passed
      exact congrArg some (Except.ok.inj passed)

/-- A prior made before its match, from a model made before it, and within the maximum age. -/
def InOrder (ctx : RepriceContext) (evidence : GateEvidence) (decided matchStart : Decimal) : Prop :=
  ∃ modelAsOf generatedAt maximum age,
    ctx.utcEpochDecimal (textOf evidence.priorModelAsOf) = some modelAsOf ∧
    ctx.utcEpochDecimal (textOf evidence.priorGeneratedAt) = some generatedAt ∧
    ctx.utcEpochDecimal (textOf evidence.priorMatchStart) = some matchStart ∧
    ctx.number ctx.twoModelPriorMaxAge = some (.finite maximum) ∧
    modelAsOf ≤ generatedAt ∧ generatedAt ≤ matchStart ∧
    subtract decided generatedAt = .ok age ∧ 0 ≤ age ∧ age ≤ maximum

theorem priorStage_ok {matchStart : Decimal}
    (passed : priorStage ctx evidence decided = .ok matchStart) :
    InOrder ctx evidence decided matchStart := by
  unfold priorStage at passed
  split at passed
  next modelAsOf generatedAt start bound first second third fourth =>
    obtain ⟨_, ordered, passed⟩ := bind_eq_ok.mp passed
    obtain ⟨maximum, finite, passed⟩ := bind_eq_ok.mp passed
    obtain ⟨_, -, passed⟩ := bind_eq_ok.mp passed
    obtain ⟨age, difference, passed⟩ := bind_eq_ok.mp passed
    obtain ⟨_, fresh, passed⟩ := bind_eq_ok.mp passed
    cases passed
    rw [finiteOr_ok] at finite
    subst finite
    simp only [refuse_eq_ok, not_or, not_lt] at ordered fresh
    exact ⟨modelAsOf, generatedAt, maximum, age, first, second, third, fourth, ordered.1, ordered.2,
      raising_ok.mp difference, fresh.1, fresh.2⟩
  next => cases passed

theorem startStage_ok {matchStart : Decimal} (passed : startStage ctx ticker matchStart = .ok ()) :
    ∀ name, ticker = some name →
      ctx.number (textOf (ctx.scheduledStart name)) = some (.finite matchStart) := by
  rintro name rfl
  exact not_not.mp ((refuse_eq_ok _ _ _).mp passed)

/-! ## The repriced gate -/

/-- The edge is the model over the new ask and no less than the minimum, over a prior in order
whose match is the scheduled one. -/
def Recomputed (ctx : RepriceContext) (evidence : GateEvidence) (ask : String)
    (ticker : Option String) (decided model : Decimal) : Prop :=
  ∃ cents prob edge minimum matchStart, ctx.number ask = some (.finite cents) ∧
    divide cents hundred = .ok prob ∧ subtract model prob = .ok edge ∧
    evidence.edge = some (ctx.text edge) ∧ ctx.number ctx.espnMinEdge = some minimum ∧
    minimum.IsLeast edge ∧ evidence.priorComplete = true ∧
    InOrder ctx evidence decided matchStart ∧ ∀ name, ticker = some name →
      ctx.number (textOf (ctx.scheduledStart name)) = some (.finite matchStart)

/-- A model that is there is a number, no less than the minimum, and its edge is recomputed. -/
def Supported (ctx : RepriceContext) (evidence : GateEvidence) (ask : String)
    (ticker : Option String) (decided : Decimal) : Prop :=
  ∀ text, evidence.modelProb = some text → ∃ model minimum,
    ctx.number text = some (.finite model) ∧ ctx.number ctx.espnMinModelProb = some minimum ∧
    minimum.IsLeast model ∧
    (evidence.edge.isSome = true → Recomputed ctx evidence ask ticker decided model)

/-- The evidence but for the decision, its reason and its prices. -/
def SameEvidence (before after : GateEvidence) : Prop :=
  ∃ allow reason market edge, after =
    { before with allow := allow, reason := reason, marketProb := market, edge := edge }

theorem guardOnly_open {minimum : Reading}
    (returned : guardOnly ctx evidence model minimum = .ok result) (allow : result.allow = true) :
    minimum.IsLeast model ∧ result = evidence := by
  unfold guardOnly at returned
  split_ifs at returned
  · cases returned
    exact nomatch allow
  · obtain ⟨collapsed, compared, returned⟩ := bind_eq_ok.mp returned
    cases collapsed with
    | true =>
        cases returned
        exact nomatch allow
    | false =>
        cases returned
        exact ⟨Reading.above_iff.mp compared, rfl⟩

theorem edgeDecision_open {minimum : Reading}
    (returned : edgeDecision ctx evidence model prob minimum = .ok result)
    (allow : result.allow = true) :
    minimum.IsLeast model ∧ SameEvidence evidence result ∧ ∃ edge minimumEdge,
      subtract model prob = .ok edge ∧ result.edge = some (ctx.text edge) ∧
      ctx.number ctx.espnMinEdge = some minimumEdge ∧ minimumEdge.IsLeast edge := by
  obtain ⟨edge, difference, returned⟩ := bind_eq_ok.mp returned
  obtain ⟨minimumEdge, read, returned⟩ := bind_eq_ok.mp returned
  obtain ⟨weak, compared, returned⟩ := bind_eq_ok.mp returned
  cases weak with
  | true =>
      cases returned
      exact nomatch allow
  | false =>
      obtain ⟨small, compared', returned⟩ := bind_eq_ok.mp returned
      cases small with
      | true =>
          cases returned
          exact nomatch allow
      | false =>
          cases returned
          exact ⟨Reading.above_iff.mp compared, ⟨_, _, _, _, rfl⟩, edge, minimumEdge, difference, rfl,
            configured_ok read, Reading.above_iff.mp compared'⟩

theorem repriceEdge_open {minimum : Reading} {cents : Decimal}
    (returned : repriceEdge ctx evidence ticker decided model prob minimum = .ok result)
    (allow : result.allow = true) (asked : ctx.number ask = some (.finite cents))
    (divided : divide cents hundred = .ok prob) :
    minimum.IsLeast model ∧ SameEvidence evidence result ∧
      Recomputed ctx result ask ticker decided model := by
  unfold repriceEdge at returned
  split_ifs at returned with complete
  · obtain ⟨matchStart, prior, returned⟩ := conclude_open returned allow
    obtain ⟨_, start, returned⟩ := conclude_open returned allow
    obtain ⟨strong, same, edge, minimumEdge, difference, shown, read, enough⟩ :=
      edgeDecision_open returned allow
    refine ⟨strong, same, cents, prob, edge, minimumEdge, matchStart, asked, divided, difference,
      shown, read, enough, ?_⟩
    obtain ⟨_, _, _, _, rfl⟩ := same
    exact ⟨complete, priorStage_ok prior, startStage_ok start⟩
  · cases returned
    exact nomatch allow

theorem repriceModel_open {cents : Decimal}
    (returned : repriceModel ctx evidence ticker decided prob = .ok result)
    (allow : result.allow = true) (asked : ctx.number ask = some (.finite cents))
    (divided : divide cents hundred = .ok prob) :
    SameEvidence evidence result ∧ Supported ctx result ask ticker decided := by
  unfold repriceModel at returned
  split at returned
  next modelIs =>
    have same : SameEvidence evidence result := by
      cases returned
      split_ifs <;> exact ⟨_, _, _, _, rfl⟩
    refine ⟨same, fun text known => ?_⟩
    obtain ⟨_, _, _, _, rfl⟩ := same
    exact nomatch modelIs.symm.trans known
  next modelRaw modelIs =>
    obtain ⟨model, read, returned⟩ := conclude_open returned allow
    obtain ⟨minimum, bound, returned⟩ := bind_eq_ok.mp returned
    split at returned
    next edgeIs =>
      obtain ⟨strong, rfl⟩ := guardOnly_open returned allow
      refine ⟨⟨_, _, _, _, rfl⟩, fun text known => ?_⟩
      obtain rfl := Option.some.inj (modelIs.symm.trans known)
      refine ⟨model, minimum, modelStage_ok read, configured_ok bound, strong, fun shown => ?_⟩
      rw [edgeIs] at shown
      exact nomatch shown
    next edge edgeIs =>
      obtain ⟨strong, same, recomputed⟩ := repriceEdge_open returned allow asked divided
      obtain ⟨_, _, _, _, rfl⟩ := same
      refine ⟨⟨_, _, _, _, rfl⟩, fun text known => ?_⟩
      obtain rfl := Option.some.inj (modelIs.symm.trans known)
      exact ⟨model, minimum, modelStage_ok read, configured_ok bound, strong, fun _ => recomputed⟩

/-- What an open gate vouches for. -/
structure Vouched (ctx : RepriceContext) (before after : GateEvidence) (ask : String)
    (decisionAt ticker : Option String) : Prop where
  origin : before.allow = true ∨ before.edgeDenied = true
  score : after.scoreComplete = true
  timely : ∃ observed decided, ctx.number (textOf after.gateObservedAt) = some (.finite observed) ∧
    ctx.number (decisionAt.getD ctx.clock) = some (.finite decided) ∧ 0 ≤ observed ∧
    observed ≤ decided ∧ InPhase ctx after ticker decided ∧
    Supported ctx after ask ticker decided

/-- Repricing never opens a gate that was denied for anything but its edge, and an open one
vouches for its evidence. -/
theorem reprice_vouched
    (returned : repriceGateSnapshot ctx evidence ask decisionAt ticker = .ok result)
    (enabled : result.enabled = true) (allow : result.allow = true) :
    Vouched ctx evidence result ask decisionAt ticker := by
  unfold repriceGateSnapshot at returned
  by_cases off : ¬evidence.enabled = true
  · rw [if_pos off] at returned
    cases returned
    exact absurd enabled off
  rw [if_neg off] at returned
  by_cases incomplete : ¬evidence.scoreComplete = true
  · rw [if_pos incomplete] at returned
    cases returned
    by_cases shown : evidence.allow = true
    · rw [if_pos shown] at allow
      exact nomatch allow
    · rw [if_neg shown] at allow
      exact absurd allow shown
  rw [if_neg incomplete] at returned
  by_cases hard : ¬evidence.allow = true ∧ ¬evidence.edgeDenied = true
  · rw [if_pos hard] at returned
    cases returned
    exact absurd allow hard.1
  rw [if_neg hard] at returned
  obtain ⟨observed, seen, returned⟩ := conclude_open returned allow
  obtain ⟨decided, timed, returned⟩ := conclude_open returned allow
  obtain ⟨_, phase, returned⟩ := conclude_open returned allow
  obtain ⟨prob, priced, returned⟩ := conclude_open returned allow
  obtain ⟨cents, asked, divided⟩ := askProbability_ok priced
  obtain ⟨same, supported⟩ := repriceModel_open returned allow asked divided
  obtain ⟨observedAt, nonneg⟩ := observationTime_ok.mp seen
  obtain ⟨decidedAt, order⟩ := decisionTime_ok.mp timed
  have inPhase := lifecycleStage_ok phase
  obtain ⟨_, _, _, _, rfl⟩ := same
  refine ⟨?_, not_not.mp incomplete, observed, decided, observedAt, decidedAt, nonneg, order,
    ⟨inPhase.going, inPhase.prematch, inPhase.live⟩, supported⟩
  by_cases allowed : evidence.allow = true
  · exact Or.inl allowed
  · right
    by_contra other
    exact hard ⟨allowed, other⟩

end

/-! ## Samples -/

/-- A score in play observed at 80, captured at 90, with a model of sixty percent and a prior made
at 20 for a match at 30. -/
def sampleEvidence : GateEvidence where
  enabled := true
  allow := false
  reason := some "blocked:edge +0.010<0.03"
  scoreSource := some "espn"
  scoreMatchId := some "m"
  scoreAthleteId := some "a"
  scoreOpponentId := some "b"
  scoreLifecycleState := some "in"
  scoreObserved := some true
  scoreBestOf := some 3
  scoreSetsFor := some 1
  scoreSetsAgainst := some 0
  scoreGamesFor := some 2
  scoreGamesAgainst := some 1
  scoreTimestamp := some "80"
  gateObservedAt := some "90"
  modelProb := some "0.6"
  marketProb := some "0.59"
  edge := some "0.01"
  model1Prob := some "0.6"
  model2Prob := some "0.62"
  priorSourceSha256 := some "00"
  priorGeneratedAt := some "1970-01-01T00:00:20+00:00"
  priorModel1Id := some "one"
  priorModel2Id := some "two"
  prematchModel1Prob := some "0.55"
  prematchModel2Prob := some "0.57"
  priorModelAsOf := some "1970-01-01T00:00:10+00:00"
  priorMatchStart := some "1970-01-01T00:00:30+00:00"

/-- The texts of the samples, read and written as Python does. -/
def sampleContext : RepriceContext where
  number text := (List.lookup text [("0", Decimal.ofDigits 0 0), ("90", Decimal.ofDigits 90 0),
    ("80", Decimal.ofDigits 80 0), ("100", Decimal.ofDigits 100 0), ("45", Decimal.ofDigits 45 0),
    ("45.000000000000000000000000000001", Decimal.ofDigits (45 * 10 ^ 30 + 1) 30),
    ("50", Decimal.ofDigits 50 0), ("0.6", Decimal.ofDigits 6 1), ("0.35", Decimal.ofDigits 35 2),
    ("0.03", Decimal.ofDigits 3 2), ("86400.0", Decimal.ofDigits 86400 0)]).map .finite
  utcEpochDecimal text := List.lookup text [
    ("1970-01-01T00:00:10+00:00", Decimal.ofDigits 10 0),
    ("1970-01-01T00:00:20+00:00", Decimal.ofDigits 20 0),
    ("1970-01-01T00:00:30+00:00", Decimal.ofDigits 30 0)]
  text d := if d = Decimal.ofDigits 5 1 then "0.5" else "0.1"
  readingText _ := "0.03"
  format spec d := if spec = "+.3f" then "+0.100" else
    if d = Decimal.ofDigits 5 1 then "0.500" else "0.600"
  clock := "100"
  scheduledStart _ := none
  scoreMaxAge := some "45"
  espnMinModelProb := "0.35"
  espnMinEdge := "0.03"
  twoModelPriorPath := "priors.json"
  twoModelPriorMaxAge := "86400.0"

theorem digits_lt {m n : ℤ} (less : m < n) : Decimal.ofDigits m 0 < Decimal.ofDigits n 0 := by
  rw [Decimal.lt_def]
  simpa using less

theorem sample_observed :
    observationTime sampleContext sampleEvidence = .ok (Decimal.ofDigits 90 0) :=
  observationTime_ok.mpr ⟨rfl, by simp [Decimal.le_def]⟩

theorem sample_decided : decisionTime sampleContext none (Decimal.ofDigits 90 0) =
    .ok (Decimal.ofDigits 100 0) :=
  decisionTime_ok.mpr ⟨rfl, (digits_lt (by decide)).le⟩

theorem sample_live :
    lifecycleStage sampleContext sampleEvidence none (Decimal.ofDigits 100 0) = .ok () := by
  have age : subtract (Decimal.ofDigits 100 0) (Decimal.ofDigits 80 0) =
      .ok (Decimal.ofDigits 20 0) := subtract_exact (by norm_num) (by decide) (by decide)
  have within : (Reading.finite (Decimal.ofDigits 45 0)).IsMost (Decimal.ofDigits 20 0) :=
    (digits_lt (by decide)).le
  exact liveStage_ok.mpr ⟨rfl, _, _, _, rfl, age, by simp [Decimal.le_def], rfl, within⟩

theorem sample_ask : askProbability sampleContext "50" = .ok (Decimal.ofDigits 5 1) := by
  have divided : divide (Decimal.ofDigits 50 0) hundred = .ok (Decimal.ofDigits 5 1) :=
    divide_exact (by simp [hundred, Decimal.ofNat]) (by
      simp only [hundred, Decimal.ofNat, Decimal.ofDigits_value]
      norm_num) (by decide) (by decide)
  have quotient : (Reading.finite (Decimal.ofDigits 50 0)).hundredth =
      .ok (some (Decimal.ofDigits 5 1)) := bind_eq_ok.mpr ⟨_, divided, rfl⟩
  have between : ¬(Decimal.ofDigits 5 1 ≤ 0 ∨ 1 ≤ Decimal.ofDigits 5 1) := by
    simp only [Decimal.le_def, Decimal.ofDigits_value, Decimal.zero_value, Decimal.one_value]
    norm_num
  refine bind_eq_ok.mpr ⟨_, numberOr_ok.mpr rfl, ?_⟩
  rw [quotient]
  exact bind_eq_ok.mpr ⟨(), refuse_ok _ between, rfl⟩

/-- The sample is opened by the edge at fifty cents. -/
def sampleOpened : GateEvidence :=
  { sampleEvidence with
    allow := true
    reason := some "post_evidence_edge +0.100>=0.03 (model 0.600 vs ask 0.500)"
    marketProb := some "0.5"
    edge := some "0.1" }

theorem sample_prior (evidence : GateEvidence)
    (asOf : evidence.priorModelAsOf = sampleEvidence.priorModelAsOf)
    (generated : evidence.priorGeneratedAt = sampleEvidence.priorGeneratedAt)
    (start : evidence.priorMatchStart = sampleEvidence.priorMatchStart) :
    priorStage sampleContext evidence (Decimal.ofDigits 100 0) = .ok (Decimal.ofDigits 30 0) := by
  have age : subtract (Decimal.ofDigits 100 0) (Decimal.ofDigits 20 0) =
      .ok (Decimal.ofDigits 80 0) := subtract_exact (by norm_num) (by decide) (by decide)
  have ordered : ¬(Decimal.ofDigits 20 0 < Decimal.ofDigits 10 0 ∨
      Decimal.ofDigits 30 0 < Decimal.ofDigits 20 0) :=
    not_or.mpr ⟨(digits_lt (by decide)).not_gt, (digits_lt (by decide)).not_gt⟩
  have bound : ¬Decimal.ofDigits 86400 0 ≤ 0 := by
    simp [Decimal.le_def]
  have fresh : ¬(Decimal.ofDigits 80 0 < 0 ∨ Decimal.ofDigits 86400 0 < Decimal.ofDigits 80 0) :=
    not_or.mpr ⟨by simp [Decimal.lt_def], (digits_lt (by decide)).not_gt⟩
  unfold priorStage
  rw [asOf, generated, start]
  exact bind_eq_ok.mpr ⟨(), refuse_ok _ ordered, bind_eq_ok.mpr ⟨_, finiteOr_ok.mpr rfl,
    bind_eq_ok.mpr ⟨(), refuse_ok _ bound, bind_eq_ok.mpr ⟨_, raising_ok.mpr age,
      bind_eq_ok.mpr ⟨(), refuse_ok _ fresh, rfl⟩⟩⟩⟩⟩

theorem sample_edge (evidence : GateEvidence) :
    edgeDecision sampleContext evidence (Decimal.ofDigits 6 1) (Decimal.ofDigits 5 1)
      (.finite (Decimal.ofDigits 35 2)) = .ok { evidence with
        allow := true
        reason := some "post_evidence_edge +0.100>=0.03 (model 0.600 vs ask 0.500)"
        edge := some "0.1" } := by
  have edge : subtract (Decimal.ofDigits 6 1) (Decimal.ofDigits 5 1) =
      .ok (Decimal.ofDigits 1 1) := subtract_exact (by norm_num) (by decide) (by decide)
  have strong : (Reading.finite (Decimal.ofDigits 35 2)).above (Decimal.ofDigits 6 1) =
      .ok false := Reading.above_iff.mpr (by
    simp only [Reading.IsLeast, Decimal.le_def, Decimal.ofDigits_value]
    norm_num)
  have enough : (Reading.finite (Decimal.ofDigits 3 2)).above (Decimal.ofDigits 1 1) =
      .ok false := Reading.above_iff.mpr (by
    simp only [Reading.IsLeast, Decimal.le_def, Decimal.ofDigits_value]
    norm_num)
  have other : Decimal.ofDigits 6 1 ≠ Decimal.ofDigits 5 1 := fun same => by
    have value := congrArg Decimal.value same
    norm_num at value
  have small : Decimal.ofDigits 1 1 ≠ Decimal.ofDigits 5 1 := fun same => by
    have value := congrArg Decimal.value same
    norm_num at value
  have minimum : configured sampleContext sampleContext.espnMinEdge =
      .ok (.finite (Decimal.ofDigits 3 2)) := rfl
  unfold edgeDecision
  simp only [edge, minimum, strong, enough, ok_bind]
  simp [sampleContext, other, small, pure, Except.pure]

theorem sample_repriceEdge (evidence : GateEvidence) (complete : evidence.priorComplete = true)
    (asOf : evidence.priorModelAsOf = sampleEvidence.priorModelAsOf)
    (generated : evidence.priorGeneratedAt = sampleEvidence.priorGeneratedAt)
    (start : evidence.priorMatchStart = sampleEvidence.priorMatchStart) :
    repriceEdge sampleContext evidence none (Decimal.ofDigits 100 0) (Decimal.ofDigits 6 1)
      (Decimal.ofDigits 5 1) (.finite (Decimal.ofDigits 35 2)) = .ok { evidence with
        allow := true
        reason := some "post_evidence_edge +0.100>=0.03 (model 0.600 vs ask 0.500)"
        edge := some "0.1" } := by
  unfold repriceEdge
  rw [if_neg (not_not.mpr complete), sample_prior evidence asOf generated start]
  exact sample_edge evidence

theorem sample_model :
    repriceModel sampleContext sampleEvidence none (Decimal.ofDigits 100 0) (Decimal.ofDigits 5 1) =
      .ok sampleOpened := by
  have model : modelStage sampleContext "0.6" = .ok (Decimal.ofDigits 6 1) :=
    bind_eq_ok.mpr ⟨_, numberOr_ok.mpr rfl, finiteOr_ok.mpr rfl⟩
  have minimum : configured sampleContext sampleContext.espnMinModelProb =
      .ok (.finite (Decimal.ofDigits 35 2)) := rfl
  have shown : sampleContext.text (Decimal.ofDigits 5 1) = "0.5" := if_pos rfl
  have opened : sampleOpened = { sampleEvidence with
      marketProb := some (sampleContext.text (Decimal.ofDigits 5 1))
      allow := true
      reason := some "post_evidence_edge +0.100>=0.03 (model 0.600 vs ask 0.500)"
      edge := some "0.1" } := by
    rw [shown]
    rfl
  unfold repriceModel
  show conclude sampleEvidence (modelStage sampleContext "0.6") _ = _
  rw [model, opened]
  exact bind_eq_ok.mpr ⟨_, minimum, sample_repriceEdge _ rfl rfl rfl rfl⟩

theorem sample_reprices :
    repriceGateSnapshot sampleContext sampleEvidence "50" none none = .ok sampleOpened := by
  unfold repriceGateSnapshot
  rw [if_neg (by decide), if_neg (by decide), if_neg (by decide), sample_observed]
  simp only [conclude]
  rw [sample_decided]
  simp only [sample_live, sample_ask]
  exact sample_model

theorem reprice_vouched_sample :
    Vouched sampleContext sampleEvidence sampleOpened "50" none none :=
  reprice_vouched sample_reprices rfl rfl

/-- A score of the epoch, without a model. -/
def agedEvidence : GateEvidence :=
  { sampleEvidence with
    allow := true
    scoreTimestamp := some "0"
    gateObservedAt := some "0"
    modelProb := none
    marketProb := none }

/-- The difference keeps 28 digits and loses the last one of the decision's time. -/
theorem aged_difference :
    subtract (Decimal.ofDigits (45 * 10 ^ 30 + 1) 30) (Decimal.ofDigits 0 0) =
      .ok (Decimal.ofDigits 45 0) := by
  have exact' : (Decimal.ofDigits (45 * 10 ^ 30 + 1) 30).value - (Decimal.ofDigits 0 0).value =
      45 + 1 / 10 ^ 30 := by
    norm_num
  have unit : pythonContext.quantum (45 + 1 / 10 ^ 30) = -26 := by
    rw [DecimalContext.quantum, abs_of_pos (by norm_num),
      DecimalContext.log_of_digits (k := 1) (by norm_num) (by norm_num)]
    decide
  have rounded := DecimalContext.roundValue_down (m := 45 * 10 ^ 26) unit (by norm_num) (by norm_num)
    (by norm_num) (by norm_num)
  unfold subtract DecimalContext.subtract
  rw [exact', pythonContext.round_below _ (k := 2) (by decide) (by rw [rounded]; norm_num)]
  refine congrArg Except.ok (Decimal.ext' ?_)
  show pythonContext.roundValue _ = _
  rw [rounded]
  norm_num

theorem aged_live : lifecycleStage sampleContext agedEvidence none
    (Decimal.ofDigits (45 * 10 ^ 30 + 1) 30) = .ok () := by
  have within : (Reading.finite (Decimal.ofDigits 45 0)).IsMost (Decimal.ofDigits 45 0) :=
    show Decimal.ofDigits 45 0 ≤ Decimal.ofDigits 45 0 from le_rfl
  exact liveStage_ok.mpr ⟨rfl, _, _, _, rfl, aged_difference, by simp [Decimal.le_def], rfl, within⟩

theorem age_rounds_down : ¬∀ (ctx : RepriceContext) (evidence : GateEvidence) (ask : String)
    (decisionAt ticker : Option String) (result : GateEvidence),
    repriceGateSnapshot ctx evidence ask decisionAt ticker = .ok result → result.enabled = true →
    result.allow = true → result.scoreLifecycleState = some "in" →
    ∀ scoreAt decided maximum, ctx.number (textOf result.scoreTimestamp) = some (.finite scoreAt) →
      ctx.number (decisionAt.getD ctx.clock) = some (.finite decided) →
      ctx.scoreMaxAge.bind ctx.number = some (.finite maximum) →
      decided.value - scoreAt.value ≤ maximum.value := by
  intro every
  have observed : observationTime sampleContext agedEvidence = .ok (Decimal.ofDigits 0 0) :=
    observationTime_ok.mpr ⟨rfl, by simp [Decimal.le_def]⟩
  have late : Decimal.ofDigits 0 0 ≤ Decimal.ofDigits (45 * 10 ^ 30 + 1) 30 := by
    rw [Decimal.le_def]
    norm_num
  have decided : decisionTime sampleContext (some "45.000000000000000000000000000001")
      (Decimal.ofDigits 0 0) = .ok (Decimal.ofDigits (45 * 10 ^ 30 + 1) 30) :=
    decisionTime_ok.mpr ⟨rfl, late⟩
  have returned : repriceGateSnapshot sampleContext agedEvidence "50"
      (some "45.000000000000000000000000000001") none = .ok agedEvidence := by
    unfold repriceGateSnapshot
    rw [if_neg (by decide), if_neg (by decide), if_neg (by decide), observed]
    simp only [conclude]
    rw [decided]
    simp only [aged_live, sample_ask]
    rfl
  have most := every _ _ _ _ _ _ returned rfl rfl rfl (Decimal.ofDigits 0 0)
    (Decimal.ofDigits (45 * 10 ^ 30 + 1) 30) (Decimal.ofDigits 45 0) rfl rfl rfl
  norm_num at most

end Inci.Trading
