/-
# Sync.Cursors -- the checks of cursors as propositions

The cross-field checks of a cursor with a state, and those of a book cursor
against the tennis cursor of its match, are stated here once as propositions
(`Holding`, `Against`).  `Later` and `LaterBook` say that a state comes after
another one; the relations of a cursor to an old state hold for a later one.
-/
import Inci.Sync.Sessions

namespace Inci.Sync

open Inci.Theory Inci.Expert Inci.Tennis Inci.Market Inci.Binding

set_option autoImplicit false

/-! ## Coordinates -/

@[simp] theorem coordinates_le {a b c d : Nat} :
    coordinates a b ≤ coordinates c d ↔ a < c ∨ (a = c ∧ b ≤ d) := by
  simp [coordinates, Prod.Lex.toLex_le_toLex]

@[simp] theorem coordinates_lt {a b c d : Nat} :
    coordinates a b < coordinates c d ↔ a < c ∨ (a = c ∧ b < d) := by
  simp [coordinates, Prod.Lex.toLex_lt_toLex]

@[simp] theorem coordinates_inj {a b c d : Nat} :
    coordinates a b = coordinates c d ↔ a = c ∧ b = d := by
  simp [coordinates]

/-! ## Later states -/

/-- The second tennis state comes after the first; at the same coordinates it has the
same event. -/
structure Later (t t' : TennisState) : Prop where
  coordinates : tennisCoordinates t ≤ tennisCoordinates t'
  received : t.lastReceivedMonotonicNs ≤ t'.lastReceivedMonotonicNs
  event : tennisCoordinates t = tennisCoordinates t' →
    t'.lastEventSemanticSha256 = t.lastEventSemanticSha256 ∧
      t'.lastReceivedMonotonicNs = t.lastReceivedMonotonicNs

theorem Later.refl (t : TennisState) : Later t t := ⟨le_rfl, le_rfl, fun _ => ⟨rfl, rfl⟩⟩

/-- The second book comes after the first one of the same market. -/
structure LaterBook (b b' : BookState) : Prop where
  ticker : b'.ticker = b.ticker
  coordinates : bookCoordinates b ≤ bookCoordinates b'
  observed : b.bookObservedMonotonicNs ≤ b'.bookObservedMonotonicNs

theorem LaterBook.refl (b : BookState) : LaterBook b b := ⟨rfl, le_rfl, le_rfl⟩

/-- The witness is a point of the match at or before the state. -/
structure PointOf (matchId : String) (t : TennisState) (w : CausalPointWitness) : Prop where
  matchId : w.canonicalMatchId = matchId
  coordinates : w.coordinates ≤ tennisCoordinates t
  received : w.receivedMonotonicNs ≤ t.lastReceivedMonotonicNs
  event : w.coordinates = tennisCoordinates t →
    w.eventSemanticSha256 = t.lastEventSemanticSha256 ∧
      w.receivedMonotonicNs = t.lastReceivedMonotonicNs

theorem witnessMatchesTennis_iff {w : CausalPointWitness} {t : TennisState} {matchId : String} :
    witnessMatchesTennis w t matchId = true ↔ PointOf matchId t w := by
  simp only [witnessMatchesTennis, decide_eq_true_eq, not_or, not_and, not_not, not_lt]
  exact ⟨fun ⟨h1, h2, h3, h4⟩ => ⟨h1, h2, h3, h4⟩,
    fun h => ⟨h.matchId, h.coordinates, h.received, h.event⟩⟩

theorem witnessFits_iff {w : CausalPointWitness} {t : TennisState} {matchId : String} :
    witnessFits matchId t w = true ↔
      w.correctionEpoch = t.correctionEpoch ∧ PointOf matchId t w := by
  simp only [witnessFits, decide_eq_true_eq, not_or, not_and, not_not, not_lt]
  constructor
  · rintro ⟨matchId, epoch, revision, received, event⟩
    refine ⟨epoch, matchId, ?_, received, ?_⟩
    · simp [CausalPointWitness.coordinates, tennisCoordinates, epoch, revision]
    · intro same
      simp only [CausalPointWitness.coordinates, tennisCoordinates, coordinates_inj] at same
      exact event same.2
  · rintro ⟨epoch, point⟩
    have before := point.coordinates
    simp only [CausalPointWitness.coordinates, tennisCoordinates, coordinates_le] at before
    refine ⟨point.matchId, epoch, by omega, point.received, ?_⟩
    intro same
    exact point.event (by simp [CausalPointWitness.coordinates, tennisCoordinates, epoch, same])

theorem PointOf.later {matchId : String} {t t' : TennisState} {w : CausalPointWitness}
    (point : PointOf matchId t w) (later : Later t t') : PointOf matchId t' w := by
  refine ⟨point.matchId, point.coordinates.trans later.coordinates,
    point.received.trans later.received, ?_⟩
  intro same
  have unmoved := le_antisymm later.coordinates (same ▸ point.coordinates)
  obtain ⟨event, received⟩ := later.event unmoved
  obtain ⟨event', received'⟩ := point.event (same.trans unmoved.symm)
  exact ⟨event'.trans event.symm, received'.trans received.symm⟩

/-! ## Tennis cursors -/

/-- The checks of a tennis cursor that do not look at its state. -/
structure TennisSyncCursor.Named (c : TennisSyncCursor) : Prop where
  matchId : SafeId c.canonicalMatchId
  binding : IsSha256 c.bindingSha256
  metadata : IsSha256 c.bindingMetadataSha256

/-- A tennis cursor that holds a state. -/
structure TennisSyncCursor.Holding (c : TennisSyncCursor) (t : TennisState) : Prop where
  constructed : t.postInit = .ok ()
  digest : ∃ digest, expertContractSha256 t.py = .ok digest ∧ c.lastStateSha256 = some digest
  input : ∃ digest, c.lastInputSha256 = some digest ∧ IsSha256 digest
  witness : ∀ w, c.lastPointWitness = some w → w.postInit = .ok () ∧
    w.correctionEpoch = t.correctionEpoch ∧ PointOf c.canonicalMatchId t w

theorem contractSha256_isSha256 {v : PyValue} {digest : String}
    (computed : expertContractSha256 v = .ok digest) : IsSha256 digest :=
  domainSha256_isSha256 computed

theorem TennisSyncCursor.checkParts_none {c : TennisSyncCursor} (empty : c.tennis = none) :
    c.checkParts = .ok () ↔ c.Named ∧ c.lastStateSha256 = none ∧ c.lastInputSha256 = none ∧
      c.lastPointWitness = none := by
  simp only [TennisSyncCursor.checkParts, TennisSyncCursor.postInit, empty, bind_eq_ok, exists_unit,
    safeId_eq_ok, sha256_eq_ok, checkSome_eq_ok, refuse_eq_ok, not_or, Bool.not_eq_true,
    Option.isSome_eq_false_iff, Option.isNone_iff_eq_none]
  constructor
  · rintro ⟨⟨h1, h2, h3, -, -, h4, h5, h6⟩, -, -⟩
    exact ⟨⟨h1, h2, h3⟩, h4, h5, h6⟩
  · rintro ⟨named, state, input, witness⟩
    simp [state, input, witness, named.matchId, named.binding, named.metadata]

theorem TennisSyncCursor.checkParts_some {c : TennisSyncCursor} {t : TennisState}
    (holds : c.tennis = some t) : c.checkParts = .ok () ↔ c.Named ∧ c.Holding t := by
  simp only [TennisSyncCursor.checkParts, TennisSyncCursor.postInit, holds, bind_eq_ok, exists_unit,
    safeId_eq_ok, sha256_eq_ok, checkSome_eq_ok, refuse_eq_ok, not_or, not_exists, not_and,
    not_not, Bool.not_eq_false, Option.mem_def, witnessFits_iff, Option.some.injEq, forall_eq']
  constructor
  · rintro ⟨⟨h1, h2, h3, -, inputs, digest, computed, ⟨state, input⟩, fits⟩, constructed, points⟩
    obtain ⟨inputDigest, present⟩ : ∃ d, c.lastInputSha256 = some d := by
      simpa [Option.ne_none_iff_exists'] using input
    exact ⟨⟨h1, h2, h3⟩, constructed, ⟨digest, computed, state⟩,
      ⟨inputDigest, present, inputs _ present⟩, fun w witness =>
        ⟨points w witness, fits w witness⟩⟩
  · rintro ⟨named, holding⟩
    obtain ⟨digest, computed, state⟩ := holding.digest
    obtain ⟨inputDigest, present, isDigest⟩ := holding.input
    refine ⟨⟨named.matchId, named.binding, named.metadata, ?_, ?_, digest, computed,
      ⟨state, ?_⟩, fun w witness => (holding.witness w witness).2⟩, holding.constructed,
      fun w witness => (holding.witness w witness).1⟩
    · intro d same
      obtain rfl : digest = d := Option.some.inj (state.symm.trans same)
      exact contractSha256_isSha256 computed
    · intro d same
      obtain rfl : inputDigest = d := Option.some.inj (present.symm.trans same)
      exact isDigest
    · simp [present]

/-! ## Book cursors -/

/-- The checks of a pending move, one field for each group. -/
structure PendingBookMove.Constructed (p : PendingBookMove) : Prop where
  matchId : SafeId p.canonicalMatchId
  ticker : Ticker p.ticker
  firstMove : p.firstMoveMonotonicNs < integerBound
  lastMove : p.lastMoveMonotonicNs < integerBound
  firstEpoch : p.firstConnectionEpoch < integerBound
  firstSequence : p.firstSequence < integerBound ∧ 0 < p.firstSequence
  firstEvent : IsSha256 p.firstEventSha256
  lastEpoch : p.lastConnectionEpoch < integerBound
  lastSequence : p.lastSequence < integerBound ∧ 0 < p.lastSequence
  lastEvent : IsSha256 p.lastEventSha256
  count : p.moveCount < integerBound ∧ 0 < p.moveCount
  magnitude : 0 ≤ p.maxMagnitude ∧ p.maxMagnitude ≤ 1
  positive : p.maxMagnitude ≠ 0
  tennisFloor : ∀ floor, p.tennisCorrectionEpochFloor = some floor → floor < integerBound
  bookFloor : p.bookConnectionEpochFloor < integerBound
  order : p.firstMoveMonotonicNs ≤ p.lastMoveMonotonicNs
  ordered : p.first ≤ p.last
  single : p.moveCount = 1 → p.first = p.last ∧
    p.firstMoveMonotonicNs = p.lastMoveMonotonicNs ∧ p.firstEventSha256 = p.lastEventSha256
  several : 1 < p.moveCount → p.first ≠ p.last
  floor : p.bookConnectionEpochFloor = p.firstConnectionEpoch

theorem PendingBookMove.postInit_eq_ok {p : PendingBookMove} :
    p.postInit = .ok () ↔ p.Constructed := by
  simp only [PendingBookMove.postInit, bind_eq_ok, exists_unit, safeId_eq_ok, ticker_eq_ok,
    integer_eq_ok, positiveInteger_eq_ok, sha256_eq_ok, probability_eq_ok, refuse_eq_ok,
    checkSome_eq_ok, not_or, not_lt, not_and, not_not]
  constructor
  · rintro ⟨h1, h2, h3, h4, h5, h6, h7, h8, h9, h10, h11, h12, h13, h14, h15, h16, ⟨h17, h18, h19⟩,
      h20⟩
    exact ⟨h1, h2, h3, h4, h5, h6, h7, h8, h9, h10, h11, h12, h13, h14, h15, h16, h17, h18, h19,
      h20⟩
  · intro h
    exact ⟨h.matchId, h.ticker, h.firstMove, h.lastMove, h.firstEpoch, h.firstSequence,
      h.firstEvent, h.lastEpoch, h.lastSequence, h.lastEvent, h.count, h.magnitude, h.positive,
      h.tennisFloor, h.bookFloor, h.order, ⟨h.ordered, h.single, h.several⟩, h.floor⟩

structure BookSyncCursor.Named (c : BookSyncCursor) : Prop where
  matchId : SafeId c.canonicalMatchId
  ticker : Ticker c.ticker
  binding : IsSha256 c.bindingSha256
  metadata : IsSha256 c.bindingMetadataSha256

/-- Nothing is known about the market of the cursor. -/
structure BookSyncCursor.Empty (c : BookSyncCursor) : Prop where
  state : c.lastStateSha256 = none
  input : c.lastInputSha256 = none
  pending : c.pendingMove = none
  causal : c.causalPointWitness = none
  consumed : c.consumedPointWitness = none
  emission : c.lastEmission = none

/-- A pending move belongs to its cursor and ends at or before the book. -/
structure PendingOf (c : BookSyncCursor) (b : BookState) (p : PendingBookMove) : Prop where
  constructed : p.postInit = .ok ()
  matchId : p.canonicalMatchId = c.canonicalMatchId
  ticker : p.ticker = c.ticker
  ordered : p.first ≤ p.last
  last : p.last ≤ bookCoordinates b
  observed : p.lastMoveMonotonicNs ≤ b.bookObservedMonotonicNs

/-- A book cursor that holds a book. -/
structure BookSyncCursor.Holding (c : BookSyncCursor) (b : BookState) : Prop where
  constructed : b.postInit = .ok ()
  market : b.ticker = c.ticker
  digest : ∃ digest, expertContractSha256 b.py = .ok digest ∧ c.lastStateSha256 = some digest
  input : ∃ digest, c.lastInputSha256 = some digest ∧ IsSha256 digest
  pending : ∀ p, c.pendingMove = some p → PendingOf c b p
  witnesses : ∀ w ∈ c.witnesses, w.postInit = .ok () ∧ w.canonicalMatchId = c.canonicalMatchId
  unexplained : c.pendingMove.isSome → c.causalPointWitness = none
  consumed : c.causalPointWitness.isSome → c.causalPointWitness = c.consumedPointWitness
  emission : ∀ e, c.lastEmission = some e → e.postInit = .ok () ∧ e.book ≤ bookCoordinates b

theorem mem_witnesses {c : BookSyncCursor} {w : CausalPointWitness} :
    w ∈ c.witnesses ↔ c.causalPointWitness = some w ∨ c.consumedPointWitness = some w := by
  simp [BookSyncCursor.witnesses]

theorem BookSyncCursor.checkParts_none {c : BookSyncCursor} (empty : c.book = none) :
    c.checkParts = .ok () ↔ c.Named ∧ c.Empty := by
  simp only [BookSyncCursor.checkParts, BookSyncCursor.postInit, empty, bind_eq_ok, exists_unit,
    safeId_eq_ok, ticker_eq_ok, sha256_eq_ok, checkSome_eq_ok, refuse_eq_ok, not_or,
    Bool.not_eq_true, Option.isSome_eq_false_iff, Option.isNone_iff_eq_none]
  constructor
  · rintro ⟨⟨h1, h2, h3, h4, -, -, h5, h6, h7, h8, h9, h10⟩, -⟩
    exact ⟨⟨h1, h2, h3, h4⟩, h5, h6, h7, h8, h9, h10⟩
  · rintro ⟨named, empty⟩
    simp [empty.state, empty.input, empty.pending, empty.causal, empty.consumed, empty.emission,
      named.matchId, named.ticker, named.binding, named.metadata]

theorem BookSyncCursor.checkParts_some {c : BookSyncCursor} {b : BookState}
    (holds : c.book = some b) : c.checkParts = .ok () ↔ c.Named ∧ c.Holding b := by
  simp only [BookSyncCursor.checkParts, BookSyncCursor.postInit, holds, bind_eq_ok, exists_unit,
    safeId_eq_ok, ticker_eq_ok, sha256_eq_ok, checkSome_eq_ok, refuse_eq_ok, not_or, not_exists,
    not_and, not_not, not_lt, Option.mem_def, Option.some.injEq, forall_eq', mem_witnesses]
  constructor
  · rintro ⟨⟨h1, h2, h3, h4, -, inputs, market, digest, computed, ⟨state, input⟩, pending,
      ⟨witnesses, unexplained, consumed⟩, emission⟩, constructed, moves, causal, consumedParts,
      emissions⟩
    obtain ⟨inputDigest, present⟩ : ∃ d, c.lastInputSha256 = some d := by
      simpa [Option.ne_none_iff_exists'] using input
    refine ⟨⟨h1, h2, h3, h4⟩, constructed, market, ⟨digest, computed, state⟩,
      ⟨inputDigest, present, inputs _ present⟩, ?_, ?_, ?_, consumed,
      fun e member => ⟨emissions e member, emission e member⟩⟩
    · intro p member
      obtain ⟨matchId, ticker, ordered, last, observed⟩ := pending p member
      exact ⟨moves p member, matchId, ticker, ordered, last, observed⟩
    · intro w member
      refine ⟨?_, witnesses w (mem_witnesses.mp member)⟩
      rcases mem_witnesses.mp member with here | here
      · exact causal w here
      · exact consumedParts w here
    · intro some
      by_contra present
      exact unexplained some (Option.isSome_iff_ne_none.mpr present)
  · rintro ⟨named, holding⟩
    obtain ⟨digest, computed, state⟩ := holding.digest
    obtain ⟨inputDigest, present, isDigest⟩ := holding.input
    refine ⟨⟨named.matchId, named.ticker, named.binding, named.metadata, ?_, ?_, holding.market,
      digest, computed, ⟨state, by simp [present]⟩, ?_, ⟨?_, ?_, holding.consumed⟩,
      fun e member => (holding.emission e member).2⟩, holding.constructed,
      fun p member => (holding.pending p member).constructed, ?_, ?_,
      fun e member => (holding.emission e member).1⟩
    · intro d same
      obtain rfl : digest = d := Option.some.inj (state.symm.trans same)
      exact contractSha256_isSha256 computed
    · intro d same
      obtain rfl : inputDigest = d := Option.some.inj (present.symm.trans same)
      exact isDigest
    · intro p member
      have pending := holding.pending p member
      exact ⟨pending.matchId, pending.ticker, pending.ordered, pending.last, pending.observed⟩
    · exact fun w member => (holding.witnesses w (mem_witnesses.mpr member)).2
    · intro some causal
      rw [holding.unexplained some] at causal
      exact absurd causal (by simp)
    · exact fun w here => (holding.witnesses w (mem_witnesses.mpr (.inl here))).1
    · exact fun w here => (holding.witnesses w (mem_witnesses.mpr (.inr here))).1

/-! ## Book cursors against the tennis cursor of their match -/

/-- What a book cursor is to the tennis state of its match. -/
structure Against (t : TennisState) (c : BookSyncCursor) : Prop where
  floor : ∀ p, c.pendingMove = some p →
    ∃ floor, p.tennisCorrectionEpochFloor = some floor ∧ floor ≤ t.correctionEpoch
  witnesses : ∀ w ∈ c.witnesses, PointOf c.canonicalMatchId t w
  causal : ∀ w, c.causalPointWitness = some w → w.correctionEpoch = t.correctionEpoch
  emission : ∀ e, c.lastEmission = some e → e.provider ≤ tennisCoordinates t ∧
    (e.provider = tennisCoordinates t →
      e.providerEventSemanticSha256 = t.lastEventSemanticSha256)

/-- What a book cursor is to a match nothing is known about. -/
structure Alone (c : BookSyncCursor) : Prop where
  floor : ∀ p, c.pendingMove = some p → p.tennisCorrectionEpochFloor = none
  witnesses : c.witnesses = []
  emission : c.lastEmission = none

theorem checkAgainstTennis_none {tc : TennisSyncCursor} {c : BookSyncCursor}
    (empty : tc.tennis = none) (unwitnessed : tc.lastPointWitness = none) :
    checkAgainstTennis tc c = .ok () ↔ Alone c := by
  simp only [checkAgainstTennis, empty, unwitnessed, bind_eq_ok, exists_unit, refuse_eq_ok,
    Option.toList_none, List.nil_append, not_not, not_exists, not_and, Option.mem_def,
    Bool.not_eq_true, Option.isSome_eq_false_iff, Option.isNone_iff_eq_none]
  constructor
  · rintro ⟨floor, witnesses, emission⟩
    refine ⟨floor, witnesses, ?_⟩
    cases here : c.lastEmission with
    | none => rfl
    | some e => simp [here] at emission
  · intro alone
    exact ⟨alone.floor, alone.witnesses, by rw [alone.emission]⟩

theorem checkAgainstTennis_some {tc : TennisSyncCursor} {c : BookSyncCursor} {t : TennisState}
    (holds : tc.tennis = some t)
    (witness : ∀ w, tc.lastPointWitness = some w → PointOf c.canonicalMatchId t w) :
    checkAgainstTennis tc c = .ok () ↔ Against t c := by
  simp only [checkAgainstTennis, holds, bind_eq_ok, exists_unit, refuse_eq_ok, not_or,
    not_exists, not_and, not_not, not_lt, Option.mem_def, Bool.not_eq_false, List.mem_append,
    Option.mem_toList, witnessMatchesTennis_iff]
  constructor
  · rintro ⟨floor, witnesses, causal, emission⟩
    refine ⟨?_, fun w member => witnesses w (.inr member), causal, ?_⟩
    · intro p member
      obtain ⟨named, bounded⟩ := floor p member
      obtain ⟨value, present⟩ := Option.ne_none_iff_exists'.mp named
      exact ⟨value, present, bounded value present⟩
    · intro e member
      rw [member] at emission
      simpa only [refuse_eq_ok, not_or, not_lt, not_and, not_not] using emission
  · intro against
    refine ⟨?_, ?_, against.causal, ?_⟩
    · intro p member
      obtain ⟨value, present, bounded⟩ := against.floor p member
      refine ⟨by simp [present], fun other same => ?_⟩
      obtain rfl : value = other := Option.some.inj (present.symm.trans same)
      exact bounded
    · rintro w (here | member)
      · exact witness w here
      · exact against.witnesses w member
    · cases here : c.lastEmission with
      | none => rfl
      | some e =>
          simpa only [refuse_eq_ok, not_or, not_lt, not_and, not_not] using
            against.emission e here

theorem Later.epoch {t t' : TennisState} (later : Later t t') :
    t.correctionEpoch ≤ t'.correctionEpoch := by
  have forward := later.coordinates
  simp only [tennisCoordinates, coordinates_le] at forward
  omega

theorem Against.later {t t' : TennisState} {c : BookSyncCursor} (against : Against t c)
    (later : Later t t')
    (epoch : c.causalPointWitness.isSome → t'.correctionEpoch = t.correctionEpoch) :
    Against t' c := by
  refine ⟨?_, fun w member => (against.witnesses w member).later later, ?_, ?_⟩
  · intro p member
    obtain ⟨floor, present, bounded⟩ := against.floor p member
    exact ⟨floor, present, bounded.trans later.epoch⟩
  · intro w member
    exact (against.causal w member).trans (epoch (by simp [member])).symm
  · intro e member
    obtain ⟨before, event⟩ := against.emission e member
    refine ⟨before.trans later.coordinates, fun same => ?_⟩
    have unmoved := le_antisymm later.coordinates (same ▸ before)
    exact (event (same.trans unmoved.symm)).trans (later.event unmoved).1.symm

end Inci.Sync
