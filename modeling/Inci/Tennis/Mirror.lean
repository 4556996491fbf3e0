/-
# Tennis.Mirror -- the two sides exchanged

`mirror` exchanges HOME and AWAY in a score and in everything that makes one.
The program spells the branches of the two sides out by hand; here they are
compared.  A score is reachable exactly when its mirror is (`reachable_mirror`),
the point counter answers the mirrored score to the mirrored winner
(`advanceScore_mirror`) and so do the lifecycle changes.
-/
import Inci.Tennis.Validity
import Inci.Theory.Lockstep

namespace Inci.Tennis

open Inci.Theory Inci.Expert

set_option autoImplicit false

/-! ## Mirrors -/

theorem opposite_injective : Function.Injective opposite := fun one other same => by
  rw [← opposite_opposite one, same, opposite_opposite]

@[simp] theorem map_opposite_opposite (side : Option PlayerSide) :
    (side.map opposite).map opposite = side := by
  cases side <;> simp

theorem map_opposite_inj {one other : Option PlayerSide} :
    one.map opposite = other.map opposite ↔ one = other :=
  (Option.map_injective opposite_injective).eq_iff

theorem map_opposite_eq_some {one : Option PlayerSide} {side : PlayerSide} :
    one.map opposite = some (opposite side) ↔ one = some side :=
  @map_opposite_inj one (some side)

def SetScore.mirror (s : SetScore) : SetScore where
  gamesHome := s.gamesAway
  gamesAway := s.gamesHome
  tiebreakPointsHome := s.tiebreakPointsAway
  tiebreakPointsAway := s.tiebreakPointsHome

def Score.mirror (v : Score) : Score where
  status := v.status
  terminationKind := v.terminationKind
  winner := v.winner.map opposite
  retiredSide := v.retiredSide.map opposite
  completedSets := v.completedSets.map SetScore.mirror
  gamesHome := v.gamesAway
  gamesAway := v.gamesHome
  pointsHome := v.pointsAway
  pointsAway := v.pointsHome
  inTiebreak := v.inTiebreak
  tiebreakPointsHome := v.tiebreakPointsAway
  tiebreakPointsAway := v.tiebreakPointsHome
  tiebreakFirstServer := v.tiebreakFirstServer.map opposite
  serverForNextPoint := v.serverForNextPoint.map opposite

@[simp] theorem SetScore.mirror_mirror (s : SetScore) : s.mirror.mirror = s := rfl

@[simp] theorem Score.mirror_mirror (v : Score) : v.mirror.mirror = v := by
  cases v
  simp [Score.mirror, Function.comp_def]

/-! ## Constructors -/

theorem SetScore.postInit_iff (s : SetScore) : s.postInit = .ok () ↔
    s.gamesHome < integerBound ∧ s.gamesAway < integerBound ∧
      (∀ points, s.tiebreakPointsHome = some points → points < integerBound) ∧
      (∀ points, s.tiebreakPointsAway = some points → points < integerBound) ∧
      s.tiebreakPointsHome.isNone = s.tiebreakPointsAway.isNone := by
  simp only [SetScore.postInit, bind_eq_ok, exists_unit, integer_eq_ok, checkSome_eq_ok,
    refuse_eq_ok, not_not]

theorem SetScore.postInit_mirror (s : SetScore) :
    s.mirror.postInit = .ok () ↔ s.postInit = .ok () := by
  rw [postInit_iff, postInit_iff]
  constructor
  · rintro ⟨away, home, tiebreakAway, tiebreakHome, both⟩
    exact ⟨home, away, tiebreakHome, tiebreakAway, both.symm⟩
  · rintro ⟨away, home, tiebreakAway, tiebreakHome, both⟩
    exact ⟨home, away, tiebreakHome, tiebreakAway, both.symm⟩

theorem validateStatus_mirror (v : Score) : validateStatus v.mirror = validateStatus v := by
  unfold validateStatus
  simp only [Score.mirror, Option.isSome_map, Option.isNone_map, map_opposite_inj]

theorem validateScore_mirror (v : Score) :
    validateScore v.mirror = .ok () ↔ validateScore v = .ok () := by
  have half : ∀ v : Score, validateScore v = .ok () → validateScore v.mirror = .ok () := by
    intro v checked
    simp only [validateScore, bind_eq_ok, exists_unit, integer_eq_ok, refuse_eq_ok] at checked ⊢
    obtain ⟨home, away, tiebreakHome, tiebreakAway, advantage, both, rest⟩ := checked
    refine ⟨away, home, tiebreakAway, tiebreakHome, fun ahead => advantage ahead.symm,
      fun ahead => both ahead.symm, ?_⟩
    cases tied : v.inTiebreak with
    | true =>
        simp only [tied, Score.mirror, if_true, refuse_eq_ok] at rest ⊢
        exact fun scored => rest scored.symm
    | false =>
        simp only [tied, Score.mirror, Bool.false_eq_true, if_false, refuse_eq_ok,
          Option.isSome_map] at rest ⊢
        intro scored
        rcases scored with other | other | server
        · exact rest (.inr (.inl other))
        · exact rest (.inl other)
        · exact rest (.inr (.inr server))
  exact ⟨fun checked => v.mirror_mirror ▸ half v.mirror checked, half v⟩

/-! ## Reachable scores -/

theorem completedSetWinner_mirror {s : SetScore} (built : s.postInit = .ok ()) :
    completedSetWinner s.mirror = (completedSetWinner s).map opposite := by
  obtain ⟨-, -, -, -, both⟩ := s.postInit_iff.mp built
  obtain ⟨home, away, tiebreakHome, tiebreakAway⟩ := s
  show completedSetWinner ⟨away, home, tiebreakAway, tiebreakHome⟩ = _
  cases tiebreakHome with
  | none =>
      cases tiebreakAway with
      | some a => exact absurd both (by simp)
      | none =>
          simp only [completedSetWinner]
          by_cases byHome : (home = 6 ∧ away ≤ 4) ∨ (home = 7 ∧ away = 5)
          · rw [if_neg (by omega), if_pos byHome, if_pos byHome]
            rfl
          by_cases byAway : (away = 6 ∧ home ≤ 4) ∨ (away = 7 ∧ home = 5)
          · rw [if_pos byAway, if_neg byHome, if_pos byAway]
            rfl
          · rw [if_neg byAway, if_neg byHome, if_neg byHome, if_neg byAway]
            rfl
  | some h =>
      cases tiebreakAway with
      | none => exact absurd both (by simp)
      | some a =>
          simp only [completedSetWinner]
          by_cases byHome : home = 7 ∧ away = 6
          · rw [if_neg (by omega), if_pos byHome.symm, if_pos byHome]
            split_ifs <;> rfl
          by_cases byAway : home = 6 ∧ away = 7
          · rw [if_pos byAway.symm, if_neg byHome, if_pos byAway]
            split_ifs <;> rfl
          · rw [if_neg fun seven => byAway seven.symm, if_neg fun six => byHome six.symm,
              if_neg byHome, if_neg byAway]
            rfl

theorem completedPrefixFrom_mirror {required : Nat} : ∀ (sets : List SetScore) {home away : Nat},
    (∀ set ∈ sets, set.postInit = .ok ()) →
    completedPrefixFrom required away home (sets.map SetScore.mirror) =
      (completedPrefixFrom required home away sets).map (Option.map opposite)
  | [], _, _, _ => rfl
  | s :: rest, home, away, built => by
      have here := completedSetWinner_mirror (built s List.mem_cons_self)
      have later : ∀ set ∈ rest, set.postInit = .ok () :=
        fun set member => built set (List.mem_cons_of_mem _ member)
      have none_iff : rest.map SetScore.mirror = [] ↔ rest = [] := List.map_eq_nil_iff
      rw [List.map_cons, completedPrefixFrom, completedPrefixFrom, here]
      cases completedSetWinner s with
      | none => rfl
      | some side =>
          cases side with
          | home =>
              show (if home + 1 = required then (if rest.map SetScore.mirror = [] then _ else _)
                else completedPrefixFrom required away (home + 1) (rest.map SetScore.mirror)) =
                Option.map _ (if home + 1 = required then (if rest = [] then _ else _) else _)
              rw [completedPrefixFrom_mirror rest later]
              simp only [none_iff]
              split_ifs <;> rfl
          | away =>
              show (if away + 1 = required then (if rest.map SetScore.mirror = [] then _ else _)
                else completedPrefixFrom required (away + 1) home (rest.map SetScore.mirror)) =
                Option.map _ (if away + 1 = required then (if rest = [] then _ else _) else _)
              rw [completedPrefixFrom_mirror rest later]
              simp only [none_iff]
              split_ifs <;> rfl

theorem completedPrefix_mirror (format : MatchFormat) {v : Score}
    (sets : ∀ set ∈ v.completedSets, set.postInit = .ok ()) :
    completedPrefix format v.mirror = (completedPrefix format v).map (Option.map opposite) :=
  completedPrefixFrom_mirror v.completedSets sets

theorem scoreIsZero_mirror (v : Score) : scoreIsZero v.mirror = scoreIsZero v := by
  unfold scoreIsZero
  refine Bool.decide_congr ?_
  simp only [Score.mirror, List.map_eq_nil_iff, Option.map_eq_none_iff]
  tauto

theorem tiebreakWon_comm (home away : Nat) : tiebreakWon away home = tiebreakWon home away :=
  Bool.decide_congr or_comm

theorem normalSetWon_comm (home away : Nat) : normalSetWon away home = normalSetWon home away :=
  Bool.decide_congr or_comm

theorem tiebreakServer_opposite (first : PlayerSide) (points : Nat) :
    tiebreakServer (opposite first) points = opposite (tiebreakServer first points) := by
  unfold tiebreakServer
  split_ifs <;> rfl

theorem Unfinished.mirror {format : MatchFormat} {v : Score} {active : Bool}
    (unfinished : Unfinished format v active)
    (sets : ∀ set ∈ v.completedSets, set.postInit = .ok ()) :
    Unfinished format v.mirror active := by
  refine ⟨?_, fun untied => ?_, fun tied => ?_⟩
  · rw [completedPrefix_mirror format sets, unfinished.going]
    rfl
  · obtain ⟨home, away, both, unwon, server⟩ := unfinished.games untied
    refine ⟨away, home, fun six => both six.symm, (normalSetWon_comm _ _).trans unwon, ?_⟩
    exact Option.isSome_map.trans server
  · obtain ⟨home, away, love, loveAway, unwon, first, known, server⟩ := unfinished.tiebreak tied
    refine ⟨away, home, loveAway, love, (tiebreakWon_comm _ _).trans unwon, opposite first, ?_, ?_⟩
    · show v.tiebreakFirstServer.map opposite = _
      rw [known]
      rfl
    · show v.serverForNextPoint.map opposite = if active = true then
        some (tiebreakServer (opposite first) (v.tiebreakPointsAway + v.tiebreakPointsHome)) else none
      rw [server, tiebreakServer_opposite, Nat.add_comm v.tiebreakPointsAway]
      split_ifs <;> rfl

theorem incompleteScore_mirror {format : MatchFormat} {v : Score} {active : Bool}
    (sets : ∀ set ∈ v.completedSets, set.postInit = .ok ()) :
    incompleteScoreIsReachable format v.mirror active = incompleteScoreIsReachable format v active := by
  have mirrored : ∀ set ∈ v.mirror.completedSets, set.postInit = .ok () := by
    intro set member
    obtain ⟨s, inside, rfl⟩ := List.mem_map.mp member
    exact s.postInit_mirror.mpr (sets s inside)
  rw [Bool.eq_iff_iff, incompleteScore_iff, incompleteScore_iff]
  exact ⟨fun unfinished => v.mirror_mirror ▸ unfinished.mirror mirrored,
    fun unfinished => unfinished.mirror sets⟩

/-- A score is reachable exactly when its mirror is. -/
theorem reachable_mirror (format : MatchFormat) {v : Score}
    (sets : ∀ set ∈ v.completedSets, set.postInit = .ok ()) :
    reachable format v.mirror = reachable format v := by
  have going : ∀ active, incompleteScoreIsReachable format v.mirror active =
      incompleteScoreIsReachable format v active := fun _ => incompleteScore_mirror sets
  have status : v.mirror.status = v.status := rfl
  have kind : v.mirror.terminationKind = v.terminationKind := rfl
  have winner : v.mirror.winner = v.winner.map opposite := rfl
  have retired : v.mirror.retiredSide = v.retiredSide.map opposite := rfl
  have server : v.mirror.serverForNextPoint = v.serverForNextPoint.map opposite := rfl
  unfold reachable
  rw [status, kind, completedPrefix_mirror format sets]
  simp only [going, scoreIsZero_mirror, winner, retired, server, Option.map_eq_none_iff,
    Option.isSome_map, Option.isNone_map, ne_eq, map_opposite_inj]
  cases completedPrefix format v with
  | none => rfl
  | some clinched =>
      cases clinched with
      | none => rfl
      | some side =>
          have ended : (v.winner.map opposite = some (opposite side) ∧ v.retiredSide = none ∧
              v.serverForNextPoint = none ∧ v.mirror.gamesHome = 0 ∧ v.mirror.gamesAway = 0 ∧
              v.mirror.pointsHome = .love ∧ v.mirror.pointsAway = .love ∧
              v.mirror.inTiebreak = false ∧ v.mirror.tiebreakPointsHome = 0 ∧
              v.mirror.tiebreakPointsAway = 0 ∧ v.mirror.tiebreakFirstServer = none) ↔
              (v.winner = some side ∧ v.retiredSide = none ∧ v.serverForNextPoint = none ∧
              v.gamesHome = 0 ∧ v.gamesAway = 0 ∧ v.pointsHome = .love ∧ v.pointsAway = .love ∧
              v.inTiebreak = false ∧ v.tiebreakPointsHome = 0 ∧ v.tiebreakPointsAway = 0 ∧
              v.tiebreakFirstServer = none) := by
            simp only [map_opposite_eq_some, Score.mirror, Option.map_eq_none_iff]
            tauto
          simp only [Option.map_some, ended]

theorem Score.Legal.mirror {format : MatchFormat} {v : Score} (legal : v.Legal format) :
    v.mirror.Legal format := by
  refine ⟨(reachable_mirror format legal.sets).trans legal.reached,
    (validateScore_mirror v).mpr legal.checked, fun set member => ?_⟩
  obtain ⟨s, inside, rfl⟩ := List.mem_map.mp member
  exact s.postInit_mirror.mpr (legal.sets s inside)

/-! ## Points -/

/-- A match in play, or played to its end. -/
def PlayedOn (v : Score) : Prop :=
  v.status = .live ∨ (v.status = .ended ∧ v.terminationKind = .natural)

/-- The completed sets of a legal score say who has won. -/
theorem Score.Legal.completedPrefix {format : MatchFormat} {v : Score} (legal : v.Legal format)
    (played : PlayedOn v) : completedPrefix format v = some v.winner := by
  rcases played with live | ⟨ended, natural⟩
  · obtain ⟨-, -, winner, -, unfinished⟩ := (reachable_running (.inl live)).mp legal.reached
    rw [unfinished.going, winner]
  · have reached := legal.reached
    rw [reachable, ended, natural] at reached
    by_cases supported : format ∈ supportedFormats
    · rw [if_neg (not_not.mpr supported)] at reached
      cases sets : Tennis.completedPrefix format v with
      | none => simp [sets] at reached
      | some clinched =>
          cases clinched with
          | none => simp [sets] at reached
          | some side =>
              simp only [sets, decide_eq_true_eq] at reached
              rw [reached.1]
    · rw [if_pos supported] at reached
      exact absurd reached Bool.false_ne_true

/-- The second score mirrors the first, if it names the mirrored winner. -/
structure Faces (v w : Score) : Prop where
  played : PlayedOn v
  facing : PlayedOn w
  sets : w.completedSets = v.completedSets.map SetScore.mirror
  mirrored : w.winner = v.winner.map opposite → w = v.mirror

theorem Faces.eq {format : MatchFormat} {v w : Score} (faces : Faces v w) (legal : v.Legal format)
    (other : w.Legal format) : w = v.mirror := by
  refine faces.mirrored (Option.some.inj ?_)
  rw [← other.completedPrefix faces.facing]
  show completedPrefixFrom _ _ _ w.completedSets = _
  rw [faces.sets]
  refine (completedPrefix_mirror format legal.sets).trans ?_
  rw [legal.completedPrefix faces.played]
  rfl

section Point

variable {format : MatchFormat} {v : Score}

/-- The score after a set, by who has won the match with it. -/
def afterSet (completedSets : List SetScore) (winner : Option PlayerSide)
    (nextServer : PlayerSide) : Score where
  status := if winner.isSome then .ended else .live
  terminationKind := if winner.isSome then .natural else .none
  winner := winner
  retiredSide := none
  completedSets := completedSets
  gamesHome := 0
  gamesAway := 0
  pointsHome := .love
  pointsAway := .love
  inTiebreak := false
  tiebreakPointsHome := 0
  tiebreakPointsAway := 0
  tiebreakFirstServer := none
  serverForNextPoint := if winner.isSome then none else some nextServer

theorem completedSetChanges_eq (set : SetScore) (server : PlayerSide) :
    completedSetChanges format v set server = afterSet (v.completedSets ++ [set])
      (completedSetChanges format v set server).winner server := rfl

theorem afterSet_playedOn (sets : List SetScore) (winner : Option PlayerSide)
    (server : PlayerSide) : PlayedOn (afterSet sets winner server) := by
  cases winner with
  | none => exact .inl rfl
  | some side => exact .inr ⟨rfl, rfl⟩

theorem afterSet_mirror (sets : List SetScore) (winner : Option PlayerSide) (server : PlayerSide) :
    (afterSet sets winner server).mirror =
      afterSet (sets.map SetScore.mirror) (winner.map opposite) (opposite server) := by
  cases winner <;> rfl

theorem completedSetChanges_faces (set : SetScore) (server : PlayerSide) :
    Faces (completedSetChanges format v set server)
      (completedSetChanges format v.mirror set.mirror (opposite server)) := by
  have sets : v.mirror.completedSets ++ [set.mirror] =
      (v.completedSets ++ [set]).map SetScore.mirror := by
    rw [List.map_append]
    rfl
  rw [completedSetChanges_eq set server, completedSetChanges_eq set.mirror (opposite server), sets]
  refine ⟨afterSet_playedOn _ _ _, afterSet_playedOn _ _ _, rfl, fun winner => ?_⟩
  rw [afterSet_mirror]
  exact congrArg (afterSet _ · _) winner

theorem construct_mirror (s : SetScore) :
    Lockstep (fun a b => a = s ∧ b = s.mirror) s.construct s.mirror.construct :=
  Lockstep.bind (Lockstep.check s.postInit_mirror.symm) fun _ _ _ => Lockstep.pure ⟨rfl, rfl⟩

theorem advanceTiebreak_faces (w : PlayerSide) (live : v.status = .live) :
    Lockstep Faces (advanceTiebreak format v w) (advanceTiebreak format v.mirror (opposite w)) := by
  have first : v.mirror.tiebreakFirstServer = v.tiebreakFirstServer.map opposite := rfl
  unfold advanceTiebreak
  rw [first]
  cases v.tiebreakFirstServer with
  | none => exact Lockstep.error _ _
  | some server =>
      have serves : ∀ home away, some (tiebreakServer (opposite server) (away + home)) =
          (some (tiebreakServer server (home + away))).map opposite := by
        intro home away
        rw [Option.map_some, tiebreakServer_opposite, Nat.add_comm]
      cases w with
      | home =>
          refine Lockstep.ite (Bool.eq_iff_iff.mp (tiebreakWon_comm _ _)).symm (fun _ => ?_)
            fun _ => Lockstep.pure ?_
          · refine Lockstep.bind (construct_mirror _) fun a b both => Lockstep.pure ?_
            rw [both.1, both.2]
            exact completedSetChanges_faces _ _
          · exact ⟨.inl live, .inl live, rfl, fun _ =>
              congrArg (Score.mk _ _ _ _ _ _ _ _ _ _ _ _ _) (serves _ _)⟩
      | away =>
          refine Lockstep.ite (Bool.eq_iff_iff.mp (tiebreakWon_comm _ _)).symm (fun _ => ?_)
            fun _ => Lockstep.pure ?_
          · refine Lockstep.bind (construct_mirror _) fun a b both => Lockstep.pure ?_
            rw [both.1, both.2]
            exact completedSetChanges_faces _ _
          · exact ⟨.inl live, .inl live, rfl, fun _ =>
              congrArg (Score.mk _ _ _ _ _ _ _ _ _ _ _ _ _) (serves _ _)⟩

theorem advanceGame_faces (w : PlayerSide) (live : v.status = .live) :
    Lockstep Faces (advanceGame format v w) (advanceGame format v.mirror (opposite w)) := by
  have served : v.mirror.serverForNextPoint = v.serverForNextPoint.map opposite := rfl
  unfold advanceGame
  rw [served]
  cases v.serverForNextPoint with
  | none => exact Lockstep.error _ _
  | some server =>
      cases w with
      | home =>
          refine Lockstep.ite (Bool.eq_iff_iff.mp (normalSetWon_comm _ _)).symm (fun _ => ?_)
            fun _ => Lockstep.ite and_comm (fun _ => Lockstep.pure ?_) fun _ => Lockstep.pure ?_
          · refine Lockstep.bind (construct_mirror _) fun a b both => Lockstep.pure ?_
            rw [both.1, both.2]
            exact completedSetChanges_faces _ _
          · exact ⟨.inl live, .inl live, rfl, fun _ => rfl⟩
          · exact ⟨.inl live, .inl live, rfl, fun _ => rfl⟩
      | away =>
          refine Lockstep.ite (Bool.eq_iff_iff.mp (normalSetWon_comm _ _)).symm (fun _ => ?_)
            fun _ => Lockstep.ite and_comm (fun _ => Lockstep.pure ?_) fun _ => Lockstep.pure ?_
          · refine Lockstep.bind (construct_mirror _) fun a b both => Lockstep.pure ?_
            rw [both.1, both.2]
            exact completedSetChanges_faces _ _
          · exact ⟨.inl live, .inl live, rfl, fun _ => rfl⟩
          · exact ⟨.inl live, .inl live, rfl, fun _ => rfl⟩

theorem advanceScore_faces (w : PlayerSide) (live : v.status = .live) :
    Lockstep Faces (advanceScore format v w) (advanceScore format v.mirror (opposite w)) := by
  unfold advanceScore
  refine Lockstep.ite Iff.rfl (fun _ => advanceTiebreak_faces w live) fun _ => ?_
  cases w with
  | home =>
      have turned : gamePoint v.mirror.pointsAway v.mirror.pointsHome =
          gamePoint v.pointsHome v.pointsAway := rfl
      simp only [opposite, turned]
      cases gamePoint v.pointsHome v.pointsAway with
      | none => exact advanceGame_faces .home live
      | some next => exact Lockstep.pure ⟨.inl live, .inl live, rfl, fun _ => rfl⟩
  | away =>
      have turned : gamePoint v.mirror.pointsHome v.mirror.pointsAway =
          gamePoint v.pointsAway v.pointsHome := rfl
      simp only [opposite, turned]
      cases gamePoint v.pointsAway v.pointsHome with
      | none => exact advanceGame_faces .away live
      | some next => exact Lockstep.pure ⟨.inl live, .inl live, rfl, fun _ => rfl⟩

theorem tiebreakPoints_mirror (w : PlayerSide) :
    v.mirror.tiebreakPoints (opposite w) = v.tiebreakPoints w := by
  cases w <;> rfl

/-- The other side's point on the mirrored score leads to the mirrored score. -/
theorem advanceScore_mirror {next : Score} (w : PlayerSide) (legal : v.Legal format)
    (live : v.status = .live) (small : v.tiebreakPoints w + 1 < integerBound)
    (advanced : advanceScore format v w = .ok next) :
    advanceScore format v.mirror (opposite w) = .ok next.mirror := by
  obtain ⟨next', advanced', good'⟩ := advanceScore_legal (opposite w) legal.mirror live
    ((tiebreakPoints_mirror w).symm ▸ small)
  obtain ⟨_, again, good⟩ := advanceScore_legal w legal live small
  obtain rfl := Except.ok.inj (advanced.symm.trans again)
  obtain ⟨_, again', faces⟩ := (advanceScore_faces w live).answer advanced
  obtain rfl := Except.ok.inj (advanced'.symm.trans again')
  rw [advanced', faces.eq good good']

end Point

/-! ## Changes of status -/

/-- The parts of a lifecycle event with the sides exchanged: those its changes read. -/
theorem lifecycleChanges_mirror {v : Score} {e f : ProviderLifecycle} (kind : f.kind = e.kind)
    (winner : f.winner = e.winner.map opposite)
    (retired : f.retiredSide = e.retiredSide.map opposite)
    (server : f.serverForNextPoint = e.serverForNextPoint.map opposite) :
    lifecycleChanges v.mirror f =
      (lifecycleChanges v e).map fun changed => (changed.1.mirror, changed.2) := by
  have payload : ∀ winnerRequired retiredRequired serverRequired,
      lifecyclePayloadValid f winnerRequired retiredRequired serverRequired =
        lifecyclePayloadValid e winnerRequired retiredRequired serverRequired := by
    intro winnerRequired retiredRequired serverRequired
    rw [Bool.eq_iff_iff, lifecyclePayloadValid_iff, lifecyclePayloadValid_iff, winner, retired,
      server, Option.isSome_map, Option.isSome_map, Option.isSome_map, map_opposite_inj]
  have status : v.mirror.status = v.status := rfl
  unfold lifecycleChanges
  simp only [kind, payload, status, winner, retired, server]
  cases v.status <;> cases e.kind <;> dsimp only <;> (try split_ifs) <;> rfl

end Inci.Tennis
