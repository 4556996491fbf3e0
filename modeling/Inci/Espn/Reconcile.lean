/-
# Espn.Reconcile -- one card out of the duplicates of a competition

`reconcileScorecard` compares the card kept so far with the next one, and `reconcileAll`
folds it over the cards in the order of the routes.  What a fold keeps is the newest card
(`reconcileAll_newest`), so two orders that both come to an end keep the same score.
Whether one comes to an end depends on the order: a conflict between two cards is only
seen where one of them is the card kept when the other comes.  Without conflicting cards
every order ends alike (`reconcile_orders`).
-/
import Inci.Espn.Cards
import Mathlib.Order.WithBot

namespace Inci.Espn

open Inci.Theory

set_option autoImplicit false

/-! ## Two cards -/

/-- Who a competitor is. -/
structure Names where
  athleteId : String
  displayName : String
  shortName : String
  deriving DecidableEq

/-- How a competitor stands. -/
structure Standing where
  sets : List ℤ
  setsWon : ℤ
  serving : Bool
  winner : Option Bool
  deriving DecidableEq

structure ScorecardIdentity where
  bestOf : ℤ
  competitors : Names × Names
  deriving DecidableEq

structure ScorecardState where
  state : CardState
  games : Option (ℤ × ℤ)
  scoreObserved : Bool
  competitors : Standing × Standing
  deriving DecidableEq

def EspnCompetitor.names (c : EspnCompetitor) : Names := ⟨c.athleteId, c.displayName, c.shortName⟩

def EspnCompetitor.standing (c : EspnCompetitor) : Standing :=
  ⟨c.sets, c.setsWon, c.serving, c.winner⟩

/-- `_scorecard_identity` -/
def EspnMatch.identity (card : EspnMatch) : ScorecardIdentity :=
  ⟨card.bestOf, card.competitors.1.names, card.competitors.2.names⟩

/-- `_scorecard_state` -/
def EspnMatch.scorecardState (card : EspnMatch) : ScorecardState :=
  ⟨card.state, card.games, card.scoreObserved, card.competitors.1.standing,
    card.competitors.2.standing⟩

def reconcileScorecard (existing incoming : EspnMatch) : Except String EspnMatch := do
  refuse (existing.identity ≠ incoming.identity)
    "duplicate competition identity has conflicting competitors/format"
  match existing.scoreTimestamp, incoming.scoreTimestamp with
  | some oldTime, some newTime =>
      if oldTime < newTime then pure incoming
      else if newTime < oldTime then pure existing
      else do
        refuse (existing.scorecardState ≠ incoming.scorecardState)
          "duplicate competition has conflicting score at the same timestamp"
        pure existing
  | none, some _ => do
      refuse (existing.scorecardState ≠ incoming.scorecardState)
        "duplicate competition score conflict lacks comparable timestamps"
      pure incoming
  | some _, none => do
      refuse (existing.scorecardState ≠ incoming.scorecardState)
        "duplicate competition score conflict lacks comparable timestamps"
      pure existing
  | none, none => do
      refuse (existing.scorecardState ≠ incoming.scorecardState)
        "duplicate competition has conflicting score at the same timestamp"
      pure existing

/-- The cards of one competition, in the order of the routes. -/
def reconcileAll (first : EspnMatch) (rest : List EspnMatch) : Except String EspnMatch :=
  rest.foldlM reconcileScorecard first

/-- A card's time; a card without one is older than every card with one. -/
def EspnMatch.stamp (card : EspnMatch) : WithBot ℚ :=
  match card.scoreTimestamp with
  | none => ⊥
  | some time => (time : WithBot ℚ)

/-- Two cards of one match whose scores differ and whose times do not say which is newer. -/
def Conflict (a b : EspnMatch) : Prop :=
  a.identity = b.identity ∧ a.scorecardState ≠ b.scorecardState ∧
    (a.scoreTimestamp = none ∨ b.scoreTimestamp = none ∨ a.scoreTimestamp = b.scoreTimestamp)

/-! ## One step -/

/-- What is kept of two cards. -/
def Keeps (existing incoming kept : EspnMatch) : Prop :=
  (kept = incoming ∧ existing.stamp < incoming.stamp) ∨
    (kept = existing ∧ incoming.stamp ≤ existing.stamp)

theorem reconcile_ok {existing incoming kept : EspnMatch} :
    reconcileScorecard existing incoming = .ok kept ↔
      existing.identity = incoming.identity ∧ ¬Conflict existing incoming ∧
        Keeps existing incoming kept := by
  unfold reconcileScorecard Conflict Keeps EspnMatch.stamp
  simp only [bind_eq_ok, refuse_eq_ok, not_not, exists_unit]
  refine and_congr_right fun same => ?_
  cases old : existing.scoreTimestamp with
  | none =>
      cases new : incoming.scoreTimestamp with
      | none => simp [same, @eq_comm _ kept]
      | some newTime => simp [same, @eq_comm _ kept]
  | some oldTime =>
      cases new : incoming.scoreTimestamp with
      | none => simp [same, @eq_comm _ kept]
      | some newTime =>
          rcases lt_trichotomy oldTime newTime with newer | rfl | older
          · simp [newer, newer.ne, not_le.mpr newer, @eq_comm _ kept]
          · simp [same, @eq_comm _ kept]
          · simp [older, older.le, older.ne', not_lt.mpr older.le, @eq_comm _ kept]

/-- Two cards without a conflict reconcile. -/
theorem reconcile_total {existing incoming : EspnMatch}
    (same : existing.identity = incoming.identity) (clear : ¬Conflict existing incoming) :
    ∃ kept, reconcileScorecard existing incoming = .ok kept := by
  rcases lt_or_ge existing.stamp incoming.stamp with newer | older
  · exact ⟨incoming, reconcile_ok.mpr ⟨same, clear, Or.inl ⟨rfl, newer⟩⟩⟩
  · exact ⟨existing, reconcile_ok.mpr ⟨same, clear, Or.inr ⟨rfl, older⟩⟩⟩

theorem stamp_inj {a b : EspnMatch} :
    a.stamp = b.stamp ↔ a.scoreTimestamp = b.scoreTimestamp := by
  unfold EspnMatch.stamp
  cases a.scoreTimestamp <;> cases b.scoreTimestamp <;> simp

/-! ## A fold -/

/-- The newest of some cards: they are of its match, none has a later time, and those of its
time show its score. -/
structure Newest (cards : List EspnMatch) (kept : EspnMatch) : Prop where
  member : kept ∈ cards
  identity : ∀ card ∈ cards, card.identity = kept.identity
  latest : ∀ card ∈ cards, card.stamp ≤ kept.stamp
  agrees : ∀ card ∈ cards, card.stamp = kept.stamp → card.scorecardState = kept.scorecardState

theorem Newest.single (card : EspnMatch) : Newest [card] card := by
  refine ⟨List.mem_singleton_self card, ?_, ?_, ?_⟩
  · intro c inside
    rw [List.mem_singleton.mp inside]
  · intro c inside
    rw [List.mem_singleton.mp inside]
  · intro c inside _
    rw [List.mem_singleton.mp inside]

/-- A card more, and the newest is kept. -/
theorem Newest.reconcile {cards : List EspnMatch} {best card kept : EspnMatch}
    (newest : Newest cards best) (merged : reconcileScorecard best card = .ok kept) :
    Newest (cards ++ [card]) kept := by
  obtain ⟨same, clear, ⟨rfl, newer⟩ | ⟨rfl, older⟩⟩ := reconcile_ok.mp merged
  · refine ⟨List.mem_append_right cards (List.mem_singleton_self kept), ?_, ?_, ?_⟩
    · intro c inside
      rcases List.mem_append.mp inside with before | last
      · rw [newest.identity c before, same]
      · rw [List.mem_singleton.mp last]
    · intro c inside
      rcases List.mem_append.mp inside with before | last
      · exact (newest.latest c before).trans newer.le
      · rw [List.mem_singleton.mp last]
    · intro c inside equal
      rcases List.mem_append.mp inside with before | last
      · exact absurd equal ((newest.latest c before).trans_lt newer).ne
      · rw [List.mem_singleton.mp last]
  · refine ⟨List.mem_append_left [card] newest.member, ?_, ?_, ?_⟩
    · intro c inside
      rcases List.mem_append.mp inside with before | last
      · exact newest.identity c before
      · rw [List.mem_singleton.mp last, same]
    · intro c inside
      rcases List.mem_append.mp inside with before | last
      · exact newest.latest c before
      · rw [List.mem_singleton.mp last]
        exact older
    · intro c inside equal
      rcases List.mem_append.mp inside with before | last
      · exact newest.agrees c before equal
      · rw [List.mem_singleton.mp last] at equal ⊢
        by_contra differ
        exact clear ⟨same, Ne.symm differ, Or.inr (Or.inr (stamp_inj.mp equal.symm))⟩

theorem fold_newest {cards rest : List EspnMatch} {best kept : EspnMatch}
    (newest : Newest cards best) (folded : rest.foldlM reconcileScorecard best = .ok kept) :
    Newest (cards ++ rest) kept := by
  induction rest generalizing cards best with
  | nil =>
      obtain rfl := Except.ok.inj folded
      rw [List.append_nil]
      exact newest
  | cons card rest ih =>
      rw [List.foldlM_cons] at folded
      obtain ⟨next, merged, folded⟩ := bind_eq_ok.mp folded
      have grown := ih (newest.reconcile merged) folded
      rwa [List.append_assoc] at grown

/-- A fold that comes to an end keeps the newest card. -/
theorem reconcileAll_newest {first kept : EspnMatch} {rest : List EspnMatch}
    (folded : reconcileAll first rest = .ok kept) : Newest (first :: rest) kept :=
  fold_newest (Newest.single first) folded

/-- A fold over cards without a conflict comes to an end. -/
theorem fold_total {cards rest : List EspnMatch} {best : EspnMatch} (newest : Newest cards best)
    (clear : ∀ a ∈ cards ++ rest, ∀ b ∈ cards ++ rest, a.identity = b.identity ∧ ¬Conflict a b) :
    ∃ kept, rest.foldlM reconcileScorecard best = .ok kept := by
  induction rest generalizing cards best with
  | nil => exact ⟨best, rfl⟩
  | cons card rest ih =>
      have kept : best ∈ cards ++ card :: rest := List.mem_append_left _ newest.member
      have next : card ∈ cards ++ card :: rest := List.mem_append_right _ List.mem_cons_self
      obtain ⟨same, apart⟩ := clear best kept card next
      obtain ⟨after, merged⟩ := reconcile_total same apart
      rw [List.append_cons] at clear
      obtain ⟨last, folded⟩ := ih (newest.reconcile merged) clear
      rw [List.foldlM_cons]
      exact ⟨last, bind_eq_ok.mpr ⟨after, merged, folded⟩⟩

/-! ## Orders -/

/-- The newest card does not depend on the order, up to what no function reads. -/
theorem Newest.unique {cards other : List EspnMatch} {one two : EspnMatch}
    (perm : cards.Perm other) (newest : Newest cards one) (newest' : Newest other two) :
    one.identity = two.identity ∧ one.scorecardState = two.scorecardState ∧
      one.scoreTimestamp = two.scoreTimestamp := by
  have there : one ∈ other := perm.mem_iff.mp newest.member
  have here : two ∈ cards := perm.mem_iff.mpr newest'.member
  have times : one.stamp = two.stamp := le_antisymm (newest'.latest one there) (newest.latest two here)
  exact ⟨newest'.identity one there, newest'.agrees one there times, stamp_inj.mp times⟩

/-- Every order comes to an end exactly where no two cards conflict. -/
theorem returns_iff {first : EspnMatch} {rest : List EspnMatch} :
    (∀ first' rest', (first :: rest).Perm (first' :: rest') →
      ∃ kept, reconcileAll first' rest' = .ok kept) ↔
      ∀ a ∈ first :: rest, ∀ b ∈ first :: rest, a.identity = b.identity ∧ ¬Conflict a b := by
  constructor
  · intro returns a one b two
    by_cases equal : a = b
    · rw [equal]
      exact ⟨rfl, fun conflict => conflict.2.1 rfl⟩
    -- an order that starts with the two cards compares them
    have left := List.perm_cons_erase one
    have inside : b ∈ (first :: rest).erase a := (List.mem_erase_of_ne (Ne.symm equal)).mpr two
    obtain ⟨kept, folded⟩ := returns a _ (left.trans ((List.perm_cons_erase inside).cons a))
    rw [reconcileAll, List.foldlM_cons] at folded
    obtain ⟨next, merged, -⟩ := bind_eq_ok.mp folded
    exact ⟨(reconcile_ok.mp merged).1, (reconcile_ok.mp merged).2.1⟩
  · intro clear first' rest' perm
    refine fold_total (Newest.single first') ?_
    intro a one b two
    exact clear a (perm.mem_iff.mpr one) b (perm.mem_iff.mpr two)

/-- A fold that comes to an end has seen one identity. -/
theorem Newest.one_identity {cards : List EspnMatch} {kept : EspnMatch}
    (newest : Newest cards kept) : ∀ a ∈ cards, ∀ b ∈ cards, a.identity = b.identity := by
  intro a one b two
  rw [newest.identity a one, newest.identity b two]

theorem error_iff {first : EspnMatch} {rest : List EspnMatch} :
    (∃ e, reconcileAll first rest = .error e) ↔ ¬∃ kept, reconcileAll first rest = .ok kept := by
  cases reconcileAll first rest <;> simp

/-- Two orders of the same cards that both come to an end keep the same newest score.  Where no
two cards conflict both raise or neither does, and every order comes to an end exactly where
moreover all cards are of one match. -/
theorem reconcile_orders {first first' : EspnMatch} {rest rest' : List EspnMatch}
    (perm : (first :: rest).Perm (first' :: rest')) :
    (∀ kept, reconcileAll first rest = .ok kept →
      kept ∈ first :: rest ∧ ∀ card ∈ first :: rest, card.stamp ≤ kept.stamp) ∧
    (∀ kept kept', reconcileAll first rest = .ok kept → reconcileAll first' rest' = .ok kept' →
      kept.identity = kept'.identity ∧ kept.scorecardState = kept'.scorecardState ∧
        kept.scoreTimestamp = kept'.scoreTimestamp) ∧
    ((∀ a ∈ first :: rest, ∀ b ∈ first :: rest, ¬Conflict a b) →
      ((∃ e, reconcileAll first rest = .error e) ↔ ∃ e, reconcileAll first' rest' = .error e)) ∧
    ((∀ head tail, (first :: rest).Perm (head :: tail) →
      ∃ kept, reconcileAll head tail = .ok kept) ↔
      ∀ a ∈ first :: rest, ∀ b ∈ first :: rest, a.identity = b.identity ∧ ¬Conflict a b) := by
  refine ⟨?_, ?_, ?_, returns_iff⟩
  · intro kept folded
    exact ⟨(reconcileAll_newest folded).member, (reconcileAll_newest folded).latest⟩
  · intro kept kept' folded folded'
    exact (reconcileAll_newest folded).unique perm (reconcileAll_newest folded')
  · intro clear
    rw [error_iff, error_iff, not_iff_not]
    constructor
    · rintro ⟨kept, folded⟩
      have same := (reconcileAll_newest folded).one_identity
      exact returns_iff.mpr (fun a one b two => ⟨same a one b two, clear a one b two⟩) _ _ perm
    · rintro ⟨kept, folded⟩
      have same := (reconcileAll_newest folded).one_identity
      refine returns_iff.mpr (fun a one b two => ⟨?_, clear a one b two⟩) _ _ (List.Perm.refl _)
      exact same a (perm.mem_iff.mp one) b (perm.mem_iff.mp two)

/-! ## Cards whose order matters -/

/-- A card of a match in its first set. -/
def firstSet (time : Option ℚ) (games : ℤ) : EspnMatch where
  state := .live
  bestOf := 3
  competitors := (⟨"a", "Ada Ace", "Ace", [games], 0, false, none⟩,
    ⟨"b", "Bea Break", "Break", [0], 0, false, none⟩)
  games := none
  scoreTimestamp := time
  scoreObserved := true

theorem reconcile_orders_newer : reconcileAll (firstSet (some 100) 1) [firstSet (some 110) 5] =
      .ok (firstSet (some 110) 5) ∧
    ∀ kept kept', reconcileAll (firstSet (some 100) 1) [firstSet (some 110) 5] = .ok kept →
      reconcileAll (firstSet (some 110) 5) [firstSet (some 100) 1] = .ok kept' →
      kept.identity = kept'.identity ∧ kept.scorecardState = kept'.scorecardState ∧
        kept.scoreTimestamp = kept'.scoreTimestamp :=
  ⟨by decide, (reconcile_orders (List.Perm.swap _ _ [])).2.1⟩

/-- A card without a time raises where it meets the older card, and does not where the newer
one has been kept before it comes. -/
theorem reconcile_order_matters :
    ¬∀ (first first' : EspnMatch) (rest rest' : List EspnMatch),
      (first :: rest).Perm (first' :: rest') →
      ((∃ e, reconcileAll first rest = .error e) ∧ ∃ e, reconcileAll first' rest' = .error e) ∨
      ∃ kept kept', reconcileAll first rest = .ok kept ∧ reconcileAll first' rest' = .ok kept' ∧
        kept.identity = kept'.identity ∧ kept.scorecardState = kept'.scorecardState ∧
        kept.scoreTimestamp = kept'.scoreTimestamp := by
  intro agree
  have raises : reconcileAll (firstSet (some 100) 1) [firstSet none 5, firstSet (some 110) 5] =
      .error "duplicate competition score conflict lacks comparable timestamps" := by decide
  have keeps : reconcileAll (firstSet (some 100) 1) [firstSet (some 110) 5, firstSet none 5] =
      .ok (firstSet (some 110) 5) := by decide
  rcases agree _ _ _ _ ((List.Perm.swap _ _ []).cons (firstSet (some 100) 1)) with
    ⟨-, e, failed⟩ | ⟨kept, kept', folded, -⟩
  · exact nomatch keeps.symm.trans failed
  · exact nomatch raises.symm.trans folded

end Inci.Espn
