/-
# Sync.Sessions -- a session as a map from matches to their cursors

The cursors of a session are keyed lists, and the checks of a session fall into
those of its frame, those of its keys and those of one match at a time.  A
`Standing` is what a session keeps for one match; `put` replaces it, and a session
stays constructed when the replacement passes the checks of its own match.
-/
import Inci.Binding.Universe
import Inci.Sync.Synchronizer

namespace Inci.Sync

open Inci.Theory Inci.Expert Inci.Tennis Inci.Market Inci.Binding

set_option autoImplicit false

/-! ## The checks of a session, by group -/

structure SynchronizationSessionState.Constructed (s : SynchronizationSessionState) : Prop where
  universeDigest : IsSha256 s.universeSha256
  policyDigest : IsSha256 s.syncPolicySha256
  decisions : s.decisionSequence < integerBound
  artifacts : s.checkArtifacts = .ok ()
  unobserved : s.lastObservation = none → s.decisionSequence = 0 ∧
    (∀ c ∈ s.tennisCursors, c.tennis = none) ∧ ∀ c ∈ s.bookCursors, c.book = none
  emitted : (∃ c ∈ s.bookCursors, c.lastEmission.isSome) ↔ 0 < s.decisionSequence
  observation : ∀ o, s.lastObservation = some o → o.postInit = .ok ()
  tennisParts : ∀ c ∈ s.tennisCursors, c.checkParts = .ok ()
  bookParts : ∀ c ∈ s.bookCursors, c.checkParts = .ok ()
  tennisKeys : s.tennisCursors.map TennisSyncCursor.canonicalMatchId = s.expectedTennis
  bookKeys : s.bookCursors.map (fun c => (c.canonicalMatchId, c.ticker)) = s.expectedBooks
  tennisChecks : ∀ c ∈ s.tennisCursors, s.checkTennisCursor c = .ok ()
  bookChecks : ∀ c ∈ s.bookCursors, s.checkBookCursor c = .ok ()

theorem SynchronizationSessionState.postInit_eq_ok {s : SynchronizationSessionState} :
    s.postInit = .ok () ↔ s.Constructed := by
  simp only [SynchronizationSessionState.postInit, bind_eq_ok, exists_unit, sha256_eq_ok,
    integer_eq_ok, refuse_eq_ok, recover_eq_ok, checkAll_eq_ok, checkSome_eq_ok, not_and, not_or,
    not_exists, not_not, Bool.not_eq_true, Option.isSome_eq_false_iff, Option.isNone_iff_eq_none]
  constructor
  · rintro ⟨h1, h2, h3, h4, h5, h6, ⟨h7, h8, h9⟩, ⟨h10, h11⟩, h12, h13⟩
    exact ⟨h1, h2, h3, h4, h5, h6, h7, h8, h9, h10, h11, h12, h13⟩
  · intro h
    exact ⟨h.universeDigest, h.policyDigest, h.decisions, h.artifacts, h.unobserved, h.emitted,
      ⟨h.observation, h.tennisParts, h.bookParts⟩, ⟨h.tennisKeys, h.bookKeys⟩, h.tennisChecks,
      h.bookChecks⟩

theorem session_eq_ok {s t : SynchronizationSessionState} :
    session s = .ok t ↔ s.Constructed ∧ s = t := by
  simp [session, SynchronizationSessionState.postInit_eq_ok]

/-! ## Keys -/

def bookKey (c : BookSyncCursor) : String × String := (c.canonicalMatchId, c.ticker)

/-- The tennis cursor of a match. -/
def SynchronizationSessionState.tennisAt (s : SynchronizationSessionState) (matchId : String) :
    Option TennisSyncCursor :=
  find TennisSyncCursor.canonicalMatchId s.tennisCursors matchId

/-- The book cursor of a market of a match. -/
def SynchronizationSessionState.bookAt (s : SynchronizationSessionState)
    (matchId ticker : String) : Option BookSyncCursor :=
  find bookKey s.bookCursors (matchId, ticker)

theorem SessionFrame.accepted {f : SessionFrame} (artifacts : f.checkArtifacts = .ok ()) :
    f.bindingUniverse.Accepted := by
  simp only [SessionFrame.checkArtifacts, bind_eq_ok, recover_eq_ok, exists_unit] at artifacts
  obtain ⟨_, ⟨checked, -⟩, -⟩ := artifacts
  exact BindingUniverse.accepted checked

theorem expectedTennis_nodup (f : SessionFrame) : f.expectedTennis.Nodup :=
  (List.mergeSort_perm _ _).nodup_iff.mpr (List.nodup_dedup _)

theorem mem_expectedTennis {f : SessionFrame} {matchId : String} :
    matchId ∈ f.expectedTennis ↔ ∃ pair ∈ f.bindingUniverse.pairs, matchOf pair = matchId := by
  simp [SessionFrame.expectedTennis, matchOf]

theorem marketKeys_matchId {b : MatchBinding} {key : String × String}
    (member : key ∈ marketKeys b) : key.1 = b.canonicalMatchId := by
  simp only [marketKeys, List.mem_cons, List.not_mem_nil, or_false] at member
  rcases member with rfl | rfl <;> rfl

theorem expectedBooks_nodup {f : SessionFrame} (accepted : f.bindingUniverse.Accepted) :
    f.expectedBooks.Nodup := by
  refine (List.mergeSort_perm _ _).nodup_iff.mpr ?_
  rw [List.nodup_flatMap]
  have bindings := BindingUniverse.bindings_eq accepted
  constructor
  · intro b member
    rw [bindings] at member
    obtain ⟨pair, inside, rfl⟩ := List.mem_map.mp member
    simpa [marketKeys] using accepted.markets pair inside
  · rw [bindings, List.pairwise_map]
    have distinct := accepted.matches_nodup
    rw [List.Nodup, List.pairwise_map] at distinct
    refine distinct.imp ?_
    intro a b different key inA inB
    exact different ((marketKeys_matchId inA).symm.trans (marketKeys_matchId inB))

theorem mem_expectedBooks {f : SessionFrame} (accepted : f.bindingUniverse.Accepted)
    {key : String × String} :
    key ∈ f.expectedBooks ↔ ∃ pair ∈ f.bindingUniverse.pairs, key ∈ marketKeys pair.1 := by
  rw [SessionFrame.expectedBooks, (List.mergeSort_perm _ _).mem_iff, List.mem_flatMap,
    BindingUniverse.bindings_eq accepted]
  simp

namespace SynchronizationSessionState.Constructed

variable {s : SynchronizationSessionState} (good : s.Constructed)
include good

theorem universe_accepted : s.bindingUniverse.Accepted := SessionFrame.accepted good.artifacts

theorem tennis_nodup : (s.tennisCursors.map TennisSyncCursor.canonicalMatchId).Nodup :=
  good.tennisKeys ▸ expectedTennis_nodup s.toSessionFrame

theorem book_nodup : (s.bookCursors.map bookKey).Nodup := by
  have keys : s.bookCursors.map bookKey = s.expectedBooks := good.bookKeys
  rw [keys]
  exact expectedBooks_nodup good.universe_accepted

theorem tennisAt_eq_some {matchId : String} {c : TennisSyncCursor} :
    s.tennisAt matchId = some c ↔ c ∈ s.tennisCursors ∧ c.canonicalMatchId = matchId :=
  find_eq_some good.tennis_nodup

theorem bookAt_eq_some {matchId ticker : String} {c : BookSyncCursor} :
    s.bookAt matchId ticker = some c ↔
      c ∈ s.bookCursors ∧ c.canonicalMatchId = matchId ∧ c.ticker = ticker := by
  rw [SynchronizationSessionState.bookAt, find_eq_some good.book_nodup]
  simp [bookKey]

theorem pair_of_tennis {c : TennisSyncCursor} (member : c ∈ s.tennisCursors) :
    ∃ pair ∈ s.bindingUniverse.pairs, matchOf pair = c.canonicalMatchId := by
  rw [← mem_expectedTennis, ← good.tennisKeys]
  exact List.mem_map_of_mem member

theorem pair_of_book {c : BookSyncCursor} (member : c ∈ s.bookCursors) :
    ∃ pair ∈ s.bindingUniverse.pairs, bookKey c ∈ marketKeys pair.1 := by
  rw [← mem_expectedBooks good.universe_accepted, ← good.bookKeys]
  exact List.mem_map_of_mem member

theorem tennisAt_pair {pair : MatchBinding × BindingMetadata}
    (member : pair ∈ s.bindingUniverse.pairs) : ∃ c, s.tennisAt (matchOf pair) = some c := by
  have key : matchOf pair ∈ s.tennisCursors.map TennisSyncCursor.canonicalMatchId := by
    rw [good.tennisKeys]
    exact mem_expectedTennis.mpr ⟨pair, member, rfl⟩
  exact Option.isSome_iff_exists.mp (find_isSome.mpr key)

theorem bookAt_pair {pair : MatchBinding × BindingMetadata}
    (member : pair ∈ s.bindingUniverse.pairs) {ticker : String}
    (market : (matchOf pair, ticker) ∈ marketKeys pair.1) :
    ∃ c, s.bookAt (matchOf pair) ticker = some c := by
  have key : (matchOf pair, ticker) ∈ s.bookCursors.map bookKey := by
    have keys : s.bookCursors.map bookKey = s.expectedBooks := good.bookKeys
    rw [keys]
    exact (mem_expectedBooks good.universe_accepted).mpr ⟨pair, member, market⟩
  exact Option.isSome_iff_exists.mp (find_isSome.mpr key)

end SynchronizationSessionState.Constructed

/-! ## Selection -/

/-- An item that must be there. -/
def required {α : Type} : Option α → Except ExpertError α
  | some a => .ok a
  | none => drift

/-- Selecting from a keyed list: the source drifts unless exactly one item matches. -/
theorem theOnly_find {ι κ : Type} [DecidableEq κ] {key : ι → κ} {l : List ι} {k : κ}
    (nodup : (l.map key).Nodup) :
    theOnly (l.filter fun i => key i = k) = required (find key l k) := by
  rw [filter_eq_find nodup]
  cases find key l k <;> rfl

theorem selectedTennisCursor_eq {s : SynchronizationSessionState} (good : s.Constructed)
    (matchId : String) : selectedTennisCursor s matchId = required (s.tennisAt matchId) :=
  theOnly_find good.tennis_nodup

theorem selectedBookCursor_eq {s : SynchronizationSessionState} (good : s.Constructed)
    (matchId ticker : String) :
    selectedBookCursor s matchId ticker = required (s.bookAt matchId ticker) := by
  rw [SynchronizationSessionState.bookAt, ← theOnly_find good.book_nodup]
  simp [selectedBookCursor, bookKey]

theorem selectedBinding_eq {f : SessionFrame} (accepted : f.bindingUniverse.Accepted)
    (matchId : String) :
    selectedBinding f matchId = required (find matchOf f.bindingUniverse.pairs matchId) :=
  theOnly_find accepted.matches_nodup

theorem entryOf_eq_ok {α : Type} {key : α → String} {items : List α} {k : String} {a : α}
    (nodup : (items.map key).Nodup) : entryOf key items k = .ok a ↔ find key items k = some a := by
  have nodup' : (items.reverse.map key).Nodup := by simpa using nodup
  have same : find key items.reverse k = find key items k := by
    ext i
    rw [find_eq_some nodup, find_eq_some nodup', List.mem_reverse]
  rw [← same]
  unfold entryOf find
  cases items.reverse.find? fun item => key item = k <;> simp

theorem bindingOf_eq_ok {f : SessionFrame} (accepted : f.bindingUniverse.Accepted)
    {matchId : String} {pair : MatchBinding × BindingMetadata} :
    f.bindingOf matchId = .ok pair ↔ pair ∈ f.bindingUniverse.pairs ∧ matchOf pair = matchId :=
  (entryOf_eq_ok accepted.matches_nodup).trans (find_eq_some accepted.matches_nodup)

theorem tennisByMatch_eq_ok {s : SynchronizationSessionState} (good : s.Constructed)
    {matchId : String} {c : TennisSyncCursor} :
    tennisByMatch s.tennisCursors matchId = .ok c ↔ s.tennisAt matchId = some c :=
  entryOf_eq_ok good.tennis_nodup

end Inci.Sync
