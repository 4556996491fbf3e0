/-
# Sync.Standing -- what a session keeps for one match

A `Standing` is the tennis cursor of a match with its book cursors by ticker.  It
is valid when each cursor passes its own checks and the books fit the tennis
cursor.  Replacing the standing of a match by a valid one keeps a session
constructed and leaves every other match alone.
-/
import Inci.Sync.Cursors

namespace Inci.Sync

open Inci.Theory Inci.Expert Inci.Tennis Inci.Market Inci.Binding

set_option autoImplicit false

structure Standing where
  tennis : TennisSyncCursor
  book : String → Option BookSyncCursor

/-- The session keeps this standing for the match. -/
structure SynchronizationSessionState.Stands (s : SynchronizationSessionState) (matchId : String)
    (std : Standing) : Prop where
  tennis : s.tennisAt matchId = some std.tennis
  book : ∀ ticker, s.bookAt matchId ticker = std.book ticker

/-! ## Valid standings -/

/-- A book cursor fits the tennis cursor of its match. -/
structure Fits (tc : TennisSyncCursor) (c : BookSyncCursor) : Prop where
  alone : tc.tennis = none → Alone c
  against : ∀ t, tc.tennis = some t → Against t c

theorem checkAgainstTennis_iff {tc : TennisSyncCursor} {c : BookSyncCursor}
    (parts : tc.checkParts = .ok ()) (same : tc.canonicalMatchId = c.canonicalMatchId) :
    checkAgainstTennis tc c = .ok () ↔ Fits tc c := by
  cases holds : tc.tennis with
  | none =>
      obtain ⟨-, -, -, unwitnessed⟩ := (TennisSyncCursor.checkParts_none holds).mp parts
      rw [checkAgainstTennis_none holds unwitnessed]
      exact ⟨fun alone => ⟨fun _ => alone, by simp [holds]⟩, fun fits => fits.alone holds⟩
  | some t =>
      obtain ⟨-, holding⟩ := (TennisSyncCursor.checkParts_some holds).mp parts
      rw [checkAgainstTennis_some holds fun w here => same ▸ (holding.witness w here).2.2]
      refine ⟨fun against => ⟨by simp [holds], fun t' here => ?_⟩, fun fits => fits.against t holds⟩
      obtain rfl : t = t' := Option.some.inj (holds.symm.trans here)
      exact against

variable {pair : MatchBinding × BindingMetadata}

structure TennisOk (pair : MatchBinding × BindingMetadata) (tc : TennisSyncCursor) : Prop where
  matchId : tc.canonicalMatchId = matchOf pair
  parts : tc.checkParts = .ok ()
  binding : checkBinding pair tc.bindingSha256 tc.bindingMetadataSha256 = .ok ()

structure BookOk (pair : MatchBinding × BindingMetadata) (tc : TennisSyncCursor)
    (c : BookSyncCursor) : Prop where
  matchId : c.canonicalMatchId = matchOf pair
  parts : c.checkParts = .ok ()
  binding : checkBinding pair c.bindingSha256 c.bindingMetadataSha256 = .ok ()
  fits : Fits tc c

structure Standing.Valid (pair : MatchBinding × BindingMetadata) (std : Standing) : Prop where
  tennis : TennisOk pair std.tennis
  domain : ∀ ticker, (std.book ticker).isSome ↔ (matchOf pair, ticker) ∈ marketKeys pair.1
  ticker : ∀ ticker c, std.book ticker = some c → c.ticker = ticker
  book : ∀ ticker c, std.book ticker = some c → BookOk pair std.tennis c

namespace SynchronizationSessionState.Constructed

variable {s : SynchronizationSessionState} (good : s.Constructed)
include good

theorem stands (member : pair ∈ s.bindingUniverse.pairs) : ∃ std, s.Stands (matchOf pair) std := by
  obtain ⟨tc, found⟩ := good.tennisAt_pair member
  exact ⟨⟨tc, s.bookAt (matchOf pair)⟩, found, fun _ => rfl⟩

theorem pair_unique {other : MatchBinding × BindingMetadata}
    (member : pair ∈ s.bindingUniverse.pairs) (inside : other ∈ s.bindingUniverse.pairs)
    (same : matchOf other = matchOf pair) : other = pair :=
  List.inj_on_of_nodup_map good.universe_accepted.matches_nodup inside member same

theorem tennisOk (member : pair ∈ s.bindingUniverse.pairs) {tc : TennisSyncCursor}
    (found : s.tennisAt (matchOf pair) = some tc) : TennisOk pair tc := by
  obtain ⟨inside, matchId⟩ := good.tennisAt_eq_some.mp found
  have checked := good.tennisChecks tc inside
  simp only [SynchronizationSessionState.checkTennisCursor, bind_eq_ok,
    bindingOf_eq_ok good.universe_accepted] at checked
  obtain ⟨other, ⟨present, same⟩, binding⟩ := checked
  obtain rfl := good.pair_unique member present (same.trans matchId)
  exact ⟨matchId, good.tennisParts tc inside, binding⟩

theorem bookOk (member : pair ∈ s.bindingUniverse.pairs) {tc : TennisSyncCursor}
    (found : s.tennisAt (matchOf pair) = some tc) {ticker : String} {c : BookSyncCursor}
    (market : s.bookAt (matchOf pair) ticker = some c) : BookOk pair tc c := by
  obtain ⟨inside, matchId, -⟩ := good.bookAt_eq_some.mp market
  have checked := good.bookChecks c inside
  simp only [SynchronizationSessionState.checkBookCursor, bind_eq_ok, exists_unit,
    bindingOf_eq_ok good.universe_accepted, tennisByMatch_eq_ok good] at checked
  obtain ⟨other, ⟨present, same⟩, binding, tc', found', against⟩ := checked
  obtain rfl := good.pair_unique member present (same.trans matchId)
  rw [matchId] at found'
  obtain rfl : tc = tc' := Option.some.inj (found.symm.trans found')
  have tennis := good.tennisOk member found
  exact ⟨matchId, good.bookParts c inside, binding,
    (checkAgainstTennis_iff tennis.parts (tennis.matchId.trans matchId.symm)).mp against⟩

theorem valid (member : pair ∈ s.bindingUniverse.pairs) {std : Standing}
    (stands : s.Stands (matchOf pair) std) : std.Valid pair := by
  refine ⟨good.tennisOk member stands.tennis, ?_, ?_, ?_⟩
  · intro ticker
    rw [← stands.book]
    constructor
    · intro present
      obtain ⟨c, found⟩ := Option.isSome_iff_exists.mp present
      obtain ⟨inside, matchId, rfl⟩ := good.bookAt_eq_some.mp found
      obtain ⟨other, here, key⟩ := good.pair_of_book inside
      have same : matchOf other = matchOf pair := by
        rw [← matchId]
        exact (marketKeys_matchId key).symm
      obtain rfl := good.pair_unique member here same
      rw [← matchId]
      exact key
    · intro market
      exact Option.isSome_iff_exists.mpr (good.bookAt_pair member market)
  · intro ticker c found
    rw [← stands.book] at found
    exact (good.bookAt_eq_some.mp found).2.2
  · intro ticker c found
    rw [← stands.book] at found
    exact good.bookOk member stands.tennis found

end SynchronizationSessionState.Constructed

/-! ## Replacing a standing -/

def putTennis (matchId : String) (std : Standing) (tc : TennisSyncCursor) : TennisSyncCursor :=
  if tc.canonicalMatchId = matchId then std.tennis else tc

def putBook (matchId : String) (std : Standing) (c : BookSyncCursor) : BookSyncCursor :=
  if c.canonicalMatchId = matchId then (std.book c.ticker).getD c else c

/-- The session with another standing for a match. -/
def SynchronizationSessionState.put (s : SynchronizationSessionState) (matchId : String)
    (std : Standing) (decisionSequence : Nat) : SynchronizationSessionState :=
  { s with
    decisionSequence
    tennisCursors := s.tennisCursors.map (putTennis matchId std)
    bookCursors := s.bookCursors.map (putBook matchId std) }

namespace Standing.Valid

variable {std : Standing} (valid : std.Valid pair)
include valid

theorem putTennis_key (tc : TennisSyncCursor) :
    (putTennis (matchOf pair) std tc).canonicalMatchId = tc.canonicalMatchId := by
  unfold putTennis
  split_ifs with here
  · exact valid.tennis.matchId.trans here.symm
  · rfl

theorem putBook_key (c : BookSyncCursor) :
    bookKey (putBook (matchOf pair) std c) = bookKey c := by
  unfold putBook
  split_ifs with here
  · cases found : std.book c.ticker with
    | none => rfl
    | some c' =>
        simp [bookKey, valid.ticker _ _ found, (valid.book _ _ found).matchId, here]
  · rfl

variable (s : SynchronizationSessionState) (decisionSequence : Nat)

theorem put_tennisAt (matchId : String) :
    (s.put (matchOf pair) std decisionSequence).tennisAt matchId =
      (s.tennisAt matchId).map (putTennis (matchOf pair) std) :=
  find_map fun tc _ => valid.putTennis_key tc

theorem put_bookAt (matchId ticker : String) :
    (s.put (matchOf pair) std decisionSequence).bookAt matchId ticker =
      (s.bookAt matchId ticker).map (putBook (matchOf pair) std) :=
  find_map fun c _ => valid.putBook_key c

/-- The other matches keep their cursors. -/
theorem put_other {matchId : String} (other : matchId ≠ matchOf pair) :
    (s.put (matchOf pair) std decisionSequence).tennisAt matchId = s.tennisAt matchId ∧
      ∀ ticker, (s.put (matchOf pair) std decisionSequence).bookAt matchId ticker =
        s.bookAt matchId ticker := by
  refine ⟨?_, fun ticker => ?_⟩
  · rw [valid.put_tennisAt]
    cases found : s.tennisAt matchId with
    | none => rfl
    | some tc =>
        have key : tc.canonicalMatchId = matchId := find_key found
        simp [putTennis, key, other]
  · rw [valid.put_bookAt]
    cases found : s.bookAt matchId ticker with
    | none => rfl
    | some c =>
        have key := find_key found
        simp only [bookKey, Prod.mk.injEq] at key
        simp [putBook, key.1, other]

variable {s}

/-- The match has the standing that was put. -/
theorem put_stands (good : s.Constructed) (member : pair ∈ s.bindingUniverse.pairs) :
    (s.put (matchOf pair) std decisionSequence).Stands (matchOf pair) std := by
  refine ⟨?_, fun ticker => ?_⟩
  · rw [valid.put_tennisAt]
    obtain ⟨tc, found⟩ := good.tennisAt_pair member
    have key : tc.canonicalMatchId = matchOf pair := find_key found
    simp [found, putTennis, key]
  · rw [valid.put_bookAt]
    obtain ⟨old, stood⟩ := good.stands member
    have domain := (good.valid member stood).domain ticker
    rw [← valid.domain ticker, ← stood.book] at domain
    cases found : s.bookAt (matchOf pair) ticker with
    | none =>
        have absent : std.book ticker = none := by simpa [found] using domain
        rw [absent]
        rfl
    | some c =>
        have key := find_key found
        simp only [bookKey, Prod.mk.injEq] at key
        rw [found] at domain
        obtain ⟨c', here⟩ := Option.isSome_iff_exists.mp (domain.mp rfl)
        simp [putBook, key.1, key.2, here]

end Standing.Valid

/-- Putting twice is putting the second standing. -/
theorem put_put {s : SynchronizationSessionState} {std std' : Standing} {n n' : Nat}
    (valid : std.Valid pair) (valid' : std'.Valid pair) :
    (s.put (matchOf pair) std n).put (matchOf pair) std' n' = s.put (matchOf pair) std' n' := by
  have tennis : putTennis (matchOf pair) std' ∘ putTennis (matchOf pair) std =
      putTennis (matchOf pair) std' := by
    funext tc
    by_cases here : tc.canonicalMatchId = matchOf pair
    · simp [putTennis, here, valid.tennis.matchId]
    · simp [putTennis, here]
  have book : putBook (matchOf pair) std' ∘ putBook (matchOf pair) std =
      putBook (matchOf pair) std' := by
    funext c
    by_cases here : c.canonicalMatchId = matchOf pair
    · have domain := (valid.domain c.ticker).trans (valid'.domain c.ticker).symm
      cases found : std.book c.ticker with
      | none => simp [putBook, here, found]
      | some c' =>
          rw [found] at domain
          obtain ⟨c'', there⟩ := Option.isSome_iff_exists.mp (domain.mp rfl)
          simp [putBook, here, found, (valid.book _ _ found).matchId, valid.ticker _ _ found, there]
    · simp [putBook, here]
  simp [SynchronizationSessionState.put, List.map_map, tennis, book]

/-- A session with a valid standing put into it is constructed. -/
theorem put_constructed {s : SynchronizationSessionState} {std : Standing} {n : Nat}
    (good : s.Constructed) (member : pair ∈ s.bindingUniverse.pairs) (valid : std.Valid pair)
    (observed : s.lastObservation ≠ none) (small : n < integerBound)
    (emitted : (∃ c ∈ (s.put (matchOf pair) std n).bookCursors, c.lastEmission.isSome) ↔ 0 < n) :
    (s.put (matchOf pair) std n).Constructed := by
  have tennisNodup : ((s.put (matchOf pair) std n).tennisCursors.map
      TennisSyncCursor.canonicalMatchId).Nodup := by
    rw [show (s.put (matchOf pair) std n).tennisCursors.map TennisSyncCursor.canonicalMatchId = _
      from map_key fun tc _ => valid.putTennis_key tc]
    exact good.tennis_nodup
  have tennisOk : ∀ tc ∈ s.tennisCursors, ∃ other ∈ s.bindingUniverse.pairs,
      TennisOk other (putTennis (matchOf pair) std tc) := by
    intro tc inside
    by_cases here : tc.canonicalMatchId = matchOf pair
    · refine ⟨pair, member, ?_⟩
      simpa [putTennis, here] using valid.tennis
    · obtain ⟨other, present, same⟩ := good.pair_of_tennis inside
      refine ⟨other, present, ?_⟩
      have found := good.tennisAt_eq_some.mpr ⟨inside, same.symm⟩
      simpa [putTennis, here] using good.tennisOk present found
  have bookOk : ∀ c ∈ s.bookCursors, ∃ other ∈ s.bindingUniverse.pairs, ∃ tc,
      (s.put (matchOf pair) std n).tennisAt (matchOf other) = some tc ∧
        TennisOk other tc ∧ BookOk other tc (putBook (matchOf pair) std c) := by
    intro c inside
    by_cases here : c.canonicalMatchId = matchOf pair
    · refine ⟨pair, member, std.tennis, (valid.put_stands n good member).tennis, valid.tennis, ?_⟩
      have found : s.bookAt (matchOf pair) c.ticker = some c :=
        good.bookAt_eq_some.mpr ⟨inside, here, rfl⟩
      obtain ⟨old, stood⟩ := good.stands member
      have domain := (good.valid member stood).domain c.ticker
      rw [← valid.domain c.ticker, ← stood.book, found] at domain
      obtain ⟨c', present⟩ := Option.isSome_iff_exists.mp (domain.mp rfl)
      simpa [putBook, here, present] using valid.book _ _ present
    · obtain ⟨other, present, key⟩ := good.pair_of_book inside
      have same : c.canonicalMatchId = matchOf other := marketKeys_matchId key
      have different : matchOf other ≠ matchOf pair := same ▸ here
      obtain ⟨tc, found⟩ := good.tennisAt_pair present
      refine ⟨other, present, tc, ?_, good.tennisOk present found, ?_⟩
      · rw [(valid.put_other s n different).1, found]
      · have market := good.bookAt_eq_some.mpr ⟨inside, same, rfl⟩
        simpa [putBook, here] using good.bookOk present found market
  refine
    { universeDigest := good.universeDigest
      policyDigest := good.policyDigest
      decisions := small
      artifacts := good.artifacts
      unobserved := fun absent => absurd absent observed
      emitted := emitted
      observation := good.observation
      tennisParts := ?_
      bookParts := ?_
      tennisKeys := ?_
      bookKeys := ?_
      tennisChecks := ?_
      bookChecks := ?_ }
  · intro _ inside
    obtain ⟨tc, before, rfl⟩ := List.mem_map.mp inside
    obtain ⟨_, -, ok⟩ := tennisOk tc before
    exact ok.parts
  · intro _ inside
    obtain ⟨c, before, rfl⟩ := List.mem_map.mp inside
    obtain ⟨_, -, _, -, -, ok⟩ := bookOk c before
    exact ok.parts
  · exact (map_key fun tc _ => valid.putTennis_key tc).trans good.tennisKeys
  · have keys : (s.bookCursors.map (putBook (matchOf pair) std)).map bookKey =
        s.bookCursors.map bookKey := map_key fun c _ => valid.putBook_key c
    exact keys.trans good.bookKeys
  · intro _ inside
    obtain ⟨tc, before, rfl⟩ := List.mem_map.mp inside
    obtain ⟨other, present, ok⟩ := tennisOk tc before
    simp only [SynchronizationSessionState.checkTennisCursor, bind_eq_ok]
    exact ⟨other, (bindingOf_eq_ok good.universe_accepted).mpr ⟨present, ok.matchId.symm⟩,
      ok.binding⟩
  · intro _ inside
    obtain ⟨c, before, rfl⟩ := List.mem_map.mp inside
    obtain ⟨other, present, tc, found, tennis, ok⟩ := bookOk c before
    simp only [SynchronizationSessionState.checkBookCursor, bind_eq_ok, exists_unit]
    refine ⟨other, (bindingOf_eq_ok good.universe_accepted).mpr ⟨present, ok.matchId.symm⟩,
      ok.binding, tc, ?_, ?_⟩
    · rw [ok.matchId]
      exact (entryOf_eq_ok tennisNodup).mpr found
    · exact (checkAgainstTennis_iff tennis.parts (tennis.matchId.trans ok.matchId.symm)).mpr ok.fits

/-- A session that carries a new observation is constructed. -/
theorem observe_constructed {s : SynchronizationSessionState} {now : PairedTimeObservation}
    (good : s.Constructed) (accepted : now.postInit = .ok ()) :
    ({ s with lastObservation := some now } : SynchronizationSessionState).Constructed :=
  { good with
    unobserved := by simp
    observation := by
      intro o same
      obtain rfl : now = o := Option.some.inj same
      exact accepted }

end Inci.Sync
