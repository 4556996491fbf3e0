/-
# Sportradar.Admission -- the adapter's own score rules

The adapter refuses a snapshot whose score cannot be reached before the core sees it, by
rules written again in another shape: one walk over the sets that keeps its counts when it
breaks off, and one boolean for each status.  `walkSets_eq` connects the two walks and
`snapshotReachable_eq` the two rules; what the adapter leaves out the snapshot's
constructor has checked.
-/
import Inci.Tennis.Admission

namespace Inci.Sportradar

open Inci.Theory Inci.Expert Inci.Tennis

set_option autoImplicit false

/-! ## Sets -/

/-- `_completed_set_winner` of the adapter. -/
def completedSetWinner (score : SetScore) : Option PlayerSide :=
  match score.tiebreakPointsHome, score.tiebreakPointsAway with
  | none, _ =>
      if (score.gamesHome = 6 ∧ score.gamesAway ≤ 4) ∨
          (score.gamesHome = 7 ∧ score.gamesAway = 5) then some .home
      else if (score.gamesAway = 6 ∧ score.gamesHome ≤ 4) ∨
          (score.gamesAway = 7 ∧ score.gamesHome = 5) then some .away
      else none
  | some _, none => none
  | some home, some away =>
      if (score.gamesHome, score.gamesAway) = (7, 6) ∧ 7 ≤ home ∧ away + 2 ≤ home then some .home
      else if (score.gamesHome, score.gamesAway) = (6, 7) ∧ 7 ≤ away ∧ home + 2 ≤ away then
        some .away
      else none

/-- Where the loop over the completed sets stands. -/
structure SetWalk where
  homeSets : Nat
  awaySets : Nat
  clinchingSide : Option PlayerSide
  prefixValid : Bool

def SetWalk.start : SetWalk := ⟨0, 0, none, true⟩

/-- One set more for its winner. -/
def SetWalk.count (requiredSets : Nat) (walk : SetWalk) : PlayerSide → SetWalk
  | .home =>
      { walk with
        homeSets := walk.homeSets + 1
        clinchingSide :=
          if walk.homeSets + 1 = requiredSets then some .home else walk.clinchingSide }
  | .away =>
      { walk with
        awaySets := walk.awaySets + 1
        clinchingSide :=
          if walk.awaySets + 1 = requiredSets then some .away else walk.clinchingSide }

/-- The loop over the completed sets, which breaks off at the first wrong one. -/
def walkSets (requiredSets : Nat) : List SetScore → SetWalk → SetWalk
  | [], walk => walk
  | score :: rest, walk =>
      match completedSetWinner score with
      | none => { walk with prefixValid := false }
      | some winner =>
          if walk.clinchingSide.isSome then { walk with prefixValid := false }
          else if (walk.count requiredSets winner).clinchingSide.isSome ∧ rest ≠ [] then
            { walk.count requiredSets winner with prefixValid := false }
          else walkSets requiredSets rest (walk.count requiredSets winner)

/-! ## Scores -/

def requiredSets (snapshot : ProviderSnapshot) : Nat :=
  if snapshot.matchFormat = .standardAdvantageBo3Tb7AllSets then 2 else 3

def zeroScore (snapshot : ProviderSnapshot) : Bool :=
  decide (snapshot.completedSets = [] ∧ snapshot.gamesHome = 0 ∧ snapshot.gamesAway = 0 ∧
    snapshot.pointsHome = .love ∧ snapshot.pointsAway = .love ∧ snapshot.inTiebreak = false ∧
    snapshot.tiebreakPointsHome = 0 ∧ snapshot.tiebreakPointsAway = 0 ∧
    snapshot.tiebreakFirstServer = none)

/-- `incomplete_reachable`; the two helpers it calls are the core's, word for word. -/
def incompleteReachable (snapshot : ProviderSnapshot) (walk : SetWalk) (active : Bool) : Bool :=
  if snapshot.inTiebreak then
    walk.prefixValid && walk.clinchingSide.isNone &&
      decide (snapshot.gamesHome = 6 ∧ snapshot.gamesAway = 6 ∧ snapshot.pointsHome = .love ∧
        snapshot.pointsAway = .love) &&
      match snapshot.tiebreakFirstServer with
      | none => false
      | some first =>
          !tiebreakWon snapshot.tiebreakPointsHome snapshot.tiebreakPointsAway &&
            ((active && decide (snapshot.serverForNextPoint = some (tiebreakServer first
              (snapshot.tiebreakPointsHome + snapshot.tiebreakPointsAway)))) ||
            (!active && snapshot.serverForNextPoint.isNone))
  else
    walk.prefixValid && walk.clinchingSide.isNone &&
      decide (snapshot.gamesHome ≤ 6 ∧ snapshot.gamesAway ≤ 6 ∧
        ¬(snapshot.gamesHome = 6 ∧ snapshot.gamesAway = 6)) &&
      !normalSetWon snapshot.gamesHome snapshot.gamesAway &&
      ((active && snapshot.serverForNextPoint.isSome) ||
        (!active && snapshot.serverForNextPoint.isNone))

/-- `_snapshot_reachable` -/
def snapshotReachable (snapshot : ProviderSnapshot) : Bool :=
  let walk := walkSets (requiredSets snapshot) snapshot.completedSets .start
  let active := decide (snapshot.status = .live ∨ snapshot.status = .suspended)
  match snapshot.status with
  | .scheduled => zeroScore snapshot && snapshot.serverForNextPoint.isNone
  | .live | .suspended => incompleteReachable snapshot walk active
  | .cancelled => incompleteReachable snapshot walk active
  | .ended =>
      match snapshot.terminationKind with
      | .walkover => zeroScore snapshot && snapshot.serverForNextPoint.isNone
      | .retirement => incompleteReachable snapshot walk active
      | .natural =>
          walk.prefixValid && walk.clinchingSide.isSome &&
            decide (snapshot.winner = walk.clinchingSide ∧ snapshot.gamesHome = 0 ∧
              snapshot.gamesAway = 0 ∧ snapshot.pointsHome = .love ∧ snapshot.pointsAway = .love ∧
              snapshot.inTiebreak = false ∧ snapshot.tiebreakPointsHome = 0 ∧
              snapshot.tiebreakPointsAway = 0 ∧ snapshot.tiebreakFirstServer = none ∧
              snapshot.serverForNextPoint = none)
      | _ => false

/-! ## The two walks -/

theorem completedSetWinner_eq (score : SetScore) :
    completedSetWinner score = Tennis.completedSetWinner score := by
  unfold completedSetWinner Tennis.completedSetWinner
  cases score.tiebreakPointsHome with
  | none => rfl
  | some home =>
      cases score.tiebreakPointsAway with
      | none => rfl
      | some away =>
          simp only [Prod.mk.injEq]
          split_ifs <;> first | rfl | omega

/-- What the walk says of the sets, in the core's form. -/
def SetWalk.verdict (walk : SetWalk) : Option (Option PlayerSide) :=
  if walk.prefixValid then some walk.clinchingSide else none

theorem walkSets_eq (required home away : Nat) (sets : List SetScore) :
    (walkSets required sets ⟨home, away, none, true⟩).verdict =
      completedPrefixFrom required home away sets := by
  induction sets generalizing home away with
  | nil => rfl
  | cons score rest ih =>
      rw [walkSets, completedPrefixFrom, ← completedSetWinner_eq]
      cases completedSetWinner score with
      | none => rfl
      | some winner =>
          cases winner with
          | home =>
              by_cases clinched : home + 1 = required
              · by_cases last : rest = []
                · subst last
                  simp [SetWalk.count, clinched, walkSets, SetWalk.verdict]
                · simp [SetWalk.count, clinched, last, SetWalk.verdict]
              · simp [SetWalk.count, clinched, ih]
          | away =>
              by_cases clinched : away + 1 = required
              · by_cases last : rest = []
                · subst last
                  simp [SetWalk.count, clinched, walkSets, SetWalk.verdict]
                · simp [SetWalk.count, clinched, last, SetWalk.verdict]
              · simp [SetWalk.count, clinched, ih]

theorem verdict_unclinched {walk : SetWalk} :
    walk.verdict = some none ↔ (walk.prefixValid && walk.clinchingSide.isNone) = true := by
  unfold SetWalk.verdict
  cases walk.prefixValid <;> cases walk.clinchingSide <;> simp

/-! ## The two rules -/

theorem incompleteReachable_eq {e : ProviderSnapshot} {walk : SetWalk} (active : Bool)
    (same : walk.verdict = completedPrefix e.matchFormat e.toScore) :
    incompleteReachable e walk active =
      incompleteScoreIsReachable e.matchFormat e.toScore active := by
  unfold incompleteReachable incompleteScoreIsReachable
  rw [← same]
  by_cases running : walk.verdict = some none
  · rw [if_neg (not_not.mpr running), verdict_unclinched.mp running]
    by_cases tied : e.inTiebreak = true
    · rw [if_pos tied, if_pos tied]
      cases e.tiebreakFirstServer with
      | none => simp
      | some first =>
          rw [Bool.eq_iff_iff]
          cases active <;> simp [and_assoc]
    · rw [if_neg tied, if_neg tied, Bool.eq_iff_iff]
      cases active <;> simp [and_assoc]
  · have broken : (walk.prefixValid && walk.clinchingSide.isNone) = false :=
      Bool.eq_false_iff.mpr fun holds => running (verdict_unclinched.mpr holds)
    rw [if_pos running]
    simp only [broken, Bool.false_and, ite_self]

theorem zeroScore_eq (e : ProviderSnapshot) : zeroScore e = scoreIsZero e.toScore := rfl

theorem requiredSets_eq {e : ProviderSnapshot} (supported : e.matchFormat ∈ supportedFormats) :
    requiredSets e = setsRequired e.matchFormat := by
  unfold requiredSets
  rcases List.mem_pair.mp supported with three | five
  · rw [three]
    rfl
  · rw [five]
    rfl

/-- What the constructor has checked of a match that has not ended. -/
theorem unended_declares {v : Score} (checked : validateStatus v = .ok ())
    (unended : v.status ≠ .ended) :
    v.winner = none ∧ v.retiredSide = none ∧
      v.terminationKind = if v.status = .cancelled then .cancellation else .none := by
  unfold validateStatus at checked
  cases shown : v.status with
  | ended => exact absurd shown unended
  | scheduled =>
      simp only [shown, refuse_eq_ok, not_or, not_not, Option.not_isSome_iff_eq_none] at checked
      exact ⟨checked.2.1, checked.2.2, checked.1⟩
  | live =>
      simp only [shown, refuse_eq_ok, not_or, not_not, Option.not_isSome_iff_eq_none] at checked
      exact ⟨checked.2.1, checked.2.2, checked.1⟩
  | suspended =>
      simp only [shown, refuse_eq_ok, not_or, not_not, Option.not_isSome_iff_eq_none] at checked
      exact ⟨checked.2.1, checked.2.2, checked.1⟩
  | cancelled =>
      simp only [shown, refuse_eq_ok, not_or, not_not, Option.not_isSome_iff_eq_none] at checked
      exact ⟨checked.2.1, checked.2.2.1, checked.1⟩

/-- What it has checked of a match that was played out or not played. -/
theorem ended_declares {v : Score} (checked : validateStatus v = .ok ())
    (ended : v.status = .ended)
    (kind : v.terminationKind = .natural ∨ v.terminationKind = .walkover) :
    v.winner.isSome = true ∧ v.retiredSide = none := by
  unfold validateStatus at checked
  rcases kind with natural | walkover
  · simp only [ended, natural, refuse_eq_ok, not_or, Bool.not_eq_true, Option.isNone_eq_false_iff,
      Option.isSome_eq_false_iff] at checked
    exact ⟨checked.1, Option.isNone_iff_eq_none.mp checked.2⟩
  · simp only [ended, walkover, refuse_eq_ok, not_or, Bool.not_eq_true, Option.isNone_eq_false_iff,
      Option.isSome_eq_false_iff] at checked
    exact ⟨checked.1, Option.isNone_iff_eq_none.mp checked.2⟩

theorem retirement_declares {v : Score} (checked : validateStatus v = .ok ())
    (ended : v.status = .ended) (kind : v.terminationKind = .retirement) :
    v.winner.isSome = true ∧ v.retiredSide.isSome = true ∧ v.winner ≠ v.retiredSide := by
  unfold validateStatus at checked
  simp only [ended, kind, refuse_eq_ok, not_or, Bool.not_eq_true, Option.isNone_eq_false_iff]
    at checked
  exact checked

/-- The adapter's rule is the core's, on every snapshot that its constructor admits. -/
theorem snapshotReachable_eq {e : ProviderSnapshot} (status : validateStatus e.toScore = .ok ())
    (supported : e.matchFormat ∈ supportedFormats) :
    snapshotReachable e = reachable e.matchFormat e.toScore := by
  have walked : (walkSets (requiredSets e) e.completedSets .start).verdict =
      completedPrefix e.matchFormat e.toScore := by
    rw [requiredSets_eq supported]
    exact walkSets_eq _ 0 0 e.completedSets
  unfold snapshotReachable reachable
  rw [if_neg (not_not.mpr supported)]
  generalize walkSets (requiredSets e) e.completedSets .start = walk at walked ⊢
  simp only [incompleteReachable_eq _ walked, zeroScore_eq]
  cases shown : e.status with
  | scheduled =>
      obtain ⟨winner, retired, kind⟩ := unended_declares status (by simp [shown])
      rw [shown] at kind
      cases e.serverForNextPoint <;> simp [kind, winner, retired]
  | live =>
      obtain ⟨winner, retired, kind⟩ := unended_declares status (by simp [shown])
      rw [shown] at kind
      simp [kind, winner, retired]
  | suspended =>
      obtain ⟨winner, retired, kind⟩ := unended_declares status (by simp [shown])
      rw [shown] at kind
      simp [kind, winner, retired]
  | cancelled =>
      obtain ⟨winner, retired, kind⟩ := unended_declares status (by simp [shown])
      rw [shown] at kind
      simp [kind, winner, retired]
  | ended =>
      cases ending : e.terminationKind with
      | walkover =>
          obtain ⟨winner, retired⟩ := ended_declares status shown (Or.inr ending)
          simp [winner, retired, Bool.and_comm]
      | retirement =>
          obtain ⟨winner, retired, differ⟩ := retirement_declares status shown ending
          simp [winner, retired, differ]
      | natural =>
          obtain ⟨winner, retired⟩ := ended_declares status shown (Or.inl ending)
          rw [← walked]
          unfold SetWalk.verdict
          cases walk.prefixValid with
          | false => rfl
          | true =>
              cases walk.clinchingSide with
              | none => rfl
              | some side =>
                  rw [Bool.eq_iff_iff]
                  simp [retired]
                  tauto
      | none => rfl
      | cancellation => rfl

end Inci.Sportradar
