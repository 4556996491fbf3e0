/-
# Sync.Preservation -- a reaction keeps a standing valid

Every change of a cursor passes the checks of the cursor it makes: a later tennis
state keeps what is known about books, a later book keeps its pending move, and a
correction drops what it outdates.  `Ingested` therefore leads from a valid
standing to a valid one.
-/
import Inci.Sync.Reaction

namespace Inci.Sync

open Inci.Theory Inci.Expert Inci.Tennis Inci.Market Inci.Binding

set_option autoImplicit false

variable {pair : MatchBinding × BindingMetadata} {tc : TennisSyncCursor} {c : BookSyncCursor}

/-! ## Cursors of a valid standing -/

theorem TennisOk.named (ok : TennisOk pair tc) : tc.Named := by
  cases holds : tc.tennis with
  | none => exact ((TennisSyncCursor.checkParts_none holds).mp ok.parts).1
  | some t => exact ((TennisSyncCursor.checkParts_some holds).mp ok.parts).1

theorem TennisOk.holding {t : TennisState} (ok : TennisOk pair tc) (holds : tc.tennis = some t) :
    tc.Holding t := ((TennisSyncCursor.checkParts_some holds).mp ok.parts).2

theorem BookOk.named (ok : BookOk pair tc c) : c.Named := by
  cases holds : c.book with
  | none => exact ((BookSyncCursor.checkParts_none holds).mp ok.parts).1
  | some b => exact ((BookSyncCursor.checkParts_some holds).mp ok.parts).1

theorem BookOk.empty (ok : BookOk pair tc c) (unset : c.book = none) : c.Empty :=
  ((BookSyncCursor.checkParts_none unset).mp ok.parts).2

theorem BookOk.holding {b : BookState} (ok : BookOk pair tc c) (holds : c.book = some b) :
    c.Holding b := ((BookSyncCursor.checkParts_some holds).mp ok.parts).2

/-- The part of a book cursor that no input changes. -/
structure SameMarket (c c' : BookSyncCursor) : Prop where
  matchId : c'.canonicalMatchId = c.canonicalMatchId
  ticker : c'.ticker = c.ticker
  binding : c'.bindingSha256 = c.bindingSha256
  metadata : c'.bindingMetadataSha256 = c.bindingMetadataSha256

theorem SameMarket.refl (c : BookSyncCursor) : SameMarket c c := ⟨rfl, rfl, rfl, rfl⟩

theorem SameMarket.trans {c' c'' : BookSyncCursor} (first : SameMarket c c')
    (second : SameMarket c' c'') : SameMarket c c'' :=
  ⟨second.matchId.trans first.matchId, second.ticker.trans first.ticker,
    second.binding.trans first.binding, second.metadata.trans first.metadata⟩

theorem BookSyncCursor.Named.same {c' : BookSyncCursor} (named : c.Named)
    (same : SameMarket c c') : c'.Named := by
  refine ⟨?_, ?_, ?_, ?_⟩
  · exact same.matchId ▸ named.matchId
  · exact same.ticker ▸ named.ticker
  · exact same.binding ▸ named.binding
  · exact same.metadata ▸ named.metadata

/-- A cursor of the same market is fit for the standing when it holds a book and fits. -/
theorem BookOk.change {tc' : TennisSyncCursor} {c' : BookSyncCursor} {b : BookState}
    (ok : BookOk pair tc c) (same : SameMarket c c') (holds : c'.book = some b)
    (holding : c'.Holding b) (fits : Fits tc' c') : BookOk pair tc' c' := by
  refine ⟨same.matchId.trans ok.matchId, ?_, ?_, fits⟩
  · exact (BookSyncCursor.checkParts_some holds).mpr ⟨ok.named.same same, holding⟩
  · rw [same.binding, same.metadata]
    exact ok.binding

theorem BookSyncCursor.postInit_of_parts (parts : c.checkParts = .ok ()) : c.postInit = .ok () := by
  simp only [BookSyncCursor.checkParts, bind_eq_ok, exists_unit] at parts
  exact parts.1

theorem TennisSyncCursor.postInit_of_parts (parts : tc.checkParts = .ok ()) :
    tc.postInit = .ok () := by
  simp only [TennisSyncCursor.checkParts, bind_eq_ok, exists_unit] at parts
  exact parts.1

theorem BookOk.construct (ok : BookOk pair tc c) : bookCursor c = .ok c := by
  simp [bookCursor, BookSyncCursor.postInit_of_parts ok.parts]

theorem TennisOk.construct (ok : TennisOk pair tc) : tennisCursor tc = .ok tc := by
  simp [tennisCursor, TennisSyncCursor.postInit_of_parts ok.parts]

/-- A book cursor fits a tennis cursor with a state when it is right against it. -/
theorem Fits.of_against {t : TennisState} (holds : tc.tennis = some t) (against : Against t c) :
    Fits tc c := by
  refine ⟨fun unset => ?_, fun t' here => ?_⟩
  · rw [holds] at unset
    cases unset
  · obtain rfl : t = t' := Option.some.inj (holds.symm.trans here)
    exact against

/-! ## Standings -/

theorem Standing.set_book (std : Standing) (cursor : BookSyncCursor) (ticker : String) :
    (std.set cursor).book ticker =
      if ticker = cursor.ticker then some cursor else std.book ticker := rfl

@[simp] theorem Standing.set_self (std : Standing) (cursor : BookSyncCursor) :
    (std.set cursor).book cursor.ticker = some cursor := if_pos rfl

theorem Standing.set_valid {std : Standing} {cursor : BookSyncCursor} (valid : std.Valid pair)
    (found : std.book cursor.ticker = some c) (ok : BookOk pair std.tennis cursor) :
    (std.set cursor).Valid pair := by
  refine ⟨valid.tennis, ?_, ?_, ?_⟩
  · intro ticker
    rw [← valid.domain ticker, Standing.set_book]
    split_ifs with here
    · simp [here, found]
    · rfl
  · intro ticker c' member
    rw [Standing.set_book] at member
    split_ifs at member with here
    · obtain rfl := Option.some.inj member
      exact here.symm
    · exact valid.ticker ticker c' member
  · intro ticker c' member
    rw [Standing.set_book] at member
    split_ifs at member with here
    · obtain rfl := Option.some.inj member
      exact ok
    · exact valid.book ticker c' member

theorem Standing.retennis_valid {std : Standing} {tennis : TennisSyncCursor}
    {change : BookSyncCursor → BookSyncCursor} (valid : std.Valid pair) (ok : TennisOk pair tennis)
    (same : ∀ c, SameMarket c (change c))
    (books : ∀ ticker c, std.book ticker = some c → BookOk pair tennis (change c)) :
    (std.retennis tennis change).Valid pair := by
  refine ⟨ok, ?_, ?_, ?_⟩
  · intro ticker
    rw [← valid.domain ticker]
    simp [Standing.retennis]
  · intro ticker c' member
    obtain ⟨c, found, rfl⟩ := Option.map_eq_some_iff.mp member
    exact (same c).ticker.trans (valid.ticker ticker c found)
  · intro ticker c' member
    obtain ⟨c, found, rfl⟩ := Option.map_eq_some_iff.mp member
    exact books ticker c found

/-! ## Emissions -/

theorem tennis_postInit_bounds {t : TennisState} (good : t.postInit = .ok ()) :
    t.correctionEpoch < integerBound ∧ t.revision < integerBound ∧
      IsSha256 t.lastEventSemanticSha256 ∧ t.lastReceivedMonotonicNs < integerBound := by
  have constructed := TennisState.postInit_eq_ok.mp good
  exact ⟨constructed.correctionEpoch, constructed.revision, constructed.eventDigest,
    constructed.received⟩

theorem book_postInit_bounds {b : BookState} (good : b.postInit = .ok ()) :
    b.connectionEpoch < integerBound ∧ b.sequence < integerBound ∧ 0 < b.sequence ∧
      b.bookObservedMonotonicNs < integerBound ∧ IsSha256 b.lastEventSha256 := by
  simp only [BookState.postInit, bind_eq_ok, exists_unit, integer_eq_ok, positiveInteger_eq_ok,
    sha256_eq_ok] at good
  obtain ⟨-, epoch, ⟨sequence, positive⟩, -, -, observed, -, -, -, -, -, -, -, -, -, -, event⟩ :=
    good
  exact ⟨epoch, sequence, positive, observed, event⟩

theorem emissionOf_postInit {fingerprint : String} {t : TennisState} {b : BookState}
    (digest : IsSha256 fingerprint) (tennis : t.postInit = .ok ()) (book : b.postInit = .ok ()) :
    (emissionOf fingerprint t b).postInit = .ok () := by
  obtain ⟨epoch, revision, event, -⟩ := tennis_postInit_bounds tennis
  obtain ⟨connection, sequence, positive, -⟩ := book_postInit_bounds book
  simp [LastSyncEmission.postInit, emissionOf, digest, epoch, revision, event, connection,
    sequence, positive]

theorem BookOk.emit {fingerprint : String} {t : TennisState} {b : BookState}
    (ok : BookOk pair tc c) (tennis : tc.tennis = some t) (book : c.book = some b)
    (constructed : t.postInit = .ok ()) (digest : IsSha256 fingerprint) :
    BookOk pair tc (c.emit fingerprint t b) := by
  have holding := ok.holding book
  have against := ok.fits.against t tennis
  refine ok.change ⟨rfl, rfl, rfl, rfl⟩ book ?_ (.of_against tennis ?_)
  · refine { holding with pending := ?_, emission := ?_ }
    · intro p member
      exact { holding.pending p member with }
    · intro e member
      obtain rfl : emissionOf fingerprint t b = e := Option.some.inj member
      exact ⟨emissionOf_postInit digest constructed holding.constructed, le_rfl⟩
  · refine { against with emission := ?_ }
    intro e member
    obtain rfl : emissionOf fingerprint t b = e := Option.some.inj member
    exact ⟨le_rfl, fun _ => rfl⟩

/-! ## Explanations -/

theorem BookOk.refit {tc' : TennisSyncCursor} (ok : BookOk pair tc c) (fits : Fits tc' c) :
    BookOk pair tc' c := ⟨ok.matchId, ok.parts, ok.binding, fits⟩

/-- A witness of the current epoch of a state. -/
structure CurrentPoint (matchId : String) (t : TennisState) (w : CausalPointWitness) : Prop where
  constructed : w.postInit = .ok ()
  epoch : w.correctionEpoch = t.correctionEpoch
  point : PointOf matchId t w

theorem BookOk.pending_book {p : PendingBookMove} (ok : BookOk pair tc c)
    (pending : c.pendingMove = some p) : ∃ b, c.book = some b := by
  cases holds : c.book with
  | none =>
      rw [(ok.empty holds).pending] at pending
      cases pending
  | some b => exact ⟨b, rfl⟩

theorem BookOk.explainedBy {t : TennisState} {b : BookState} {w : CausalPointWitness}
    (ok : BookOk pair tc c) (tennis : tc.tennis = some t) (holds : c.book = some b)
    (current : CurrentPoint c.canonicalMatchId t w) : BookOk pair tc (c.explainedBy w) := by
  have holding := ok.holding holds
  have against := ok.fits.against t tennis
  have only : ∀ w' ∈ (c.explainedBy w).witnesses, w' = w := by
    intro w' member
    rcases mem_witnesses.mp member with here | here <;> exact (Option.some.inj here).symm
  refine ok.change ⟨rfl, rfl, rfl, rfl⟩ holds ?_ (.of_against tennis ?_)
  · refine { holding with
      pending := fun p member => nomatch member
      witnesses := fun w' member => ?_
      unexplained := fun pending => nomatch pending
      consumed := fun _ => rfl }
    rw [only w' member]
    exact ⟨current.constructed, current.point.matchId⟩
  · refine ⟨fun p member => (nomatch member), fun w' member => ?_, fun w' member => ?_,
      against.emission⟩
    · rw [only w' member]
      exact current.point
    · obtain rfl : w = w' := Option.some.inj member
      exact current.epoch

theorem BookOk.explain {policy : SyncPolicy} {t : TennisState}
    {witness : Option CausalPointWitness} (ok : BookOk pair tc c) (tennis : tc.tennis = some t)
    (current : ∀ w, witness = some w → CurrentPoint c.canonicalMatchId t w) :
    BookOk pair tc (c.explain policy t witness) := by
  unfold BookSyncCursor.explain
  split
  · rename_i p w pending
    split_ifs
    · obtain ⟨b, holds⟩ := ok.pending_book pending
      exact ok.explainedBy tennis holds (current w rfl)
    · exact ok
  · exact ok

theorem explain_same (policy : SyncPolicy) (t : TennisState) (witness : Option CausalPointWitness)
    (c : BookSyncCursor) : SameMarket c (c.explain policy t witness) := by
  unfold BookSyncCursor.explain
  split
  · split_ifs
    · exact ⟨rfl, rfl, rfl, rfl⟩
    · exact .refl c
  · exact .refl c

/-! ## Origins -/

theorem Against.of_empty (empty : c.Empty) (t : TennisState) : Against t c := by
  refine ⟨?_, ?_, ?_, ?_⟩
  · intro p member
    rw [empty.pending] at member
    cases member
  · intro w member
    rw [mem_witnesses, empty.causal, empty.consumed] at member
    rcases member with here | here <;> cases here
  · intro w member
    rw [empty.causal] at member
    cases member
  · intro e member
    rw [empty.emission] at member
    cases member

theorem floored_constructed {epoch : Nat} {p : PendingBookMove} (good : p.Constructed)
    (small : epoch < integerBound) : (p.floored epoch).Constructed := by
  refine { good with tennisFloor := ?_ }
  intro value present
  cases before : p.tennisCorrectionEpochFloor with
  | none =>
      simp only [PendingBookMove.floored, before, Option.or] at present
      exact Option.some.inj present ▸ small
  | some _ =>
      simp only [PendingBookMove.floored, before, Option.or] at present
      exact good.tennisFloor value (before.trans present)

/-- The origin of a match gives every pending move its floor. -/
theorem BookOk.floored {tc' : TennisSyncCursor} {t : TennisState} (ok : BookOk pair tc c)
    (unset : tc.tennis = none) (tennis : tc'.tennis = some t) (good : t.postInit = .ok ()) :
    BookOk pair tc' (c.floored t.correctionEpoch) := by
  have alone := ok.fits.alone unset
  cases holds : c.book with
  | none =>
      have empty := ok.empty holds
      have same : c.floored t.correctionEpoch = c := by
        unfold BookSyncCursor.floored
        rw [empty.pending, Option.map_none, ← empty.pending]
      rw [same]
      exact ok.refit (.of_against tennis (.of_empty empty t))
  | some b =>
      have holding := ok.holding holds
      refine ok.change ⟨rfl, rfl, rfl, rfl⟩ holds ?_ (.of_against tennis ?_)
      · refine { holding with pending := ?_, unexplained := ?_ }
        · intro p member
          obtain ⟨p, before, rfl⟩ := Option.map_eq_some_iff.mp member
          have pending := holding.pending p before
          exact { pending with
            constructed := PendingBookMove.postInit_eq_ok.mpr (floored_constructed
              (PendingBookMove.postInit_eq_ok.mp pending.constructed)
              (tennis_postInit_bounds good).1) }
        · intro pending
          exact holding.unexplained (by simpa [BookSyncCursor.floored] using pending)
      · refine ⟨?_, ?_, ?_, ?_⟩
        · intro p member
          obtain ⟨p, before, rfl⟩ := Option.map_eq_some_iff.mp member
          exact ⟨t.correctionEpoch, by simp [PendingBookMove.floored, alone.floor p before], le_rfl⟩
        · intro w member
          rw [show (c.floored t.correctionEpoch).witnesses = [] from alone.witnesses] at member
          cases member
        · intro w member
          have inside : w ∈ c.witnesses := mem_witnesses.mpr (.inl member)
          rw [alone.witnesses] at inside
          cases inside
        · intro e member
          rw [show (c.floored t.correctionEpoch).lastEmission = none from alone.emission] at member
          cases member

theorem TennisOk.hold {t : TennisState} {stateSha256 inputSha256 : String} {v : PyValue}
    {witness : Option CausalPointWitness} (ok : TennisOk pair tc) (good : t.postInit = .ok ())
    (state : expertContractSha256 t.py = .ok stateSha256)
    (input : expertContractSha256 v = .ok inputSha256)
    (current : ∀ w, witness = some w → CurrentPoint tc.canonicalMatchId t w) :
    TennisOk pair (tc.hold t stateSha256 inputSha256 witness) := by
  refine ⟨ok.matchId, (TennisSyncCursor.checkParts_some rfl).mpr ⟨?_, ?_⟩, ok.binding⟩
  · exact ⟨ok.named.matchId, ok.named.binding, ok.named.metadata⟩
  · refine ⟨good, ⟨_, state, rfl⟩, ⟨_, rfl, contractSha256_isSha256 input⟩, ?_⟩
    intro w member
    exact ⟨(current w member).constructed, (current w member).epoch, (current w member).point⟩

/-! ## Tennis transitions -/

theorem recomputedTennis_eq_ok {prior : TennisState} {event : ProviderEvent}
    {sent : Option TennisTransitionResult} {r : TennisTransitionResult}
    (computed : recomputedTennis prior event sent = .ok r) :
    applyProviderEvent prior event = .ok r ∧ some r = sent ∧
      validateTennisState r.state = .ok () := by
  simp only [recomputedTennis, recover_eq_ok, bind_eq_ok, exists_unit, refuse_eq_ok, not_not,
    pure_eq_ok] at computed
  obtain ⟨r', answer, sent, legal, rfl⟩ := computed
  exact ⟨answer, sent, legal⟩

/-- The witness of an applied point. -/
def appliedPoint (matchId : String) (r : TennisTransitionResult) : CausalPointWitness :=
  { canonicalMatchId := matchId
    correctionEpoch := r.state.correctionEpoch
    revision := r.state.revision
    eventSemanticSha256 := r.eventSemanticSha256
    receivedMonotonicNs := r.state.lastReceivedMonotonicNs }

theorem pointWitness_eq_ok {matchId : String} {event : ProviderEvent}
    {r : TennisTransitionResult} {witness : Option CausalPointWitness} {w : CausalPointWitness}
    (answer : pointWitness matchId event r = .ok witness) (present : witness = some w) :
    (∃ p, event = .point p) ∧ r.disposition = .applied ∧ r.reason = .pointApplied ∧
      w.postInit = .ok () ∧ w = appliedPoint matchId r := by
  subst present
  unfold pointWitness at answer
  split at answer
  · rename_i p
    split_ifs at answer with applied
    · simp only [bind_eq_ok, exists_unit, pure_eq_ok, Option.some.injEq] at answer
      obtain ⟨constructed, rfl⟩ := answer
      exact ⟨⟨p, rfl⟩, applied.1, applied.2, constructed, rfl⟩
    · cases answer
  · cases answer

theorem pointWitness_current {matchId : String} {prior : TennisState} {event : ProviderEvent}
    {r : TennisTransitionResult} {witness : Option CausalPointWitness} {w : CausalPointWitness}
    (advance : ProviderAdvance prior event r)
    (answer : pointWitness matchId event r = .ok witness) (present : witness = some w) :
    CurrentPoint matchId r.state w := by
  obtain ⟨-, applied, -, constructed, rfl⟩ := pointWitness_eq_ok answer present
  exact ⟨constructed, rfl, rfl, le_rfl, le_rfl, fun _ => ⟨(advance.applied applied).symm, rfl⟩⟩

/-- The last point stays current until a correction is applied. -/
theorem lastPoint_current {prior : TennisState} {event : ProviderEvent}
    {r : TennisTransitionResult} {point : Option CausalPointWitness} {w : CausalPointWitness}
    (ok : TennisOk pair tc) (held : tc.tennis = some prior)
    (advance : ProviderAdvance prior event r)
    (witness : pointWitness tc.canonicalMatchId event r = .ok point)
    (last : lastPoint (appliedCorrection event r) point tc.lastPointWitness = some w) :
    CurrentPoint tc.canonicalMatchId r.state w := by
  unfold lastPoint at last
  split_ifs at last with applied
  cases fresh : point with
  | some w' =>
      rw [fresh] at last
      obtain rfl : w' = w := Option.some.inj last
      exact pointWitness_current advance witness fresh
  | none =>
      rw [fresh] at last
      have before : tc.lastPointWitness = some w := last
      obtain ⟨constructed, epoch, point⟩ := (ok.holding held).witness w before
      have kept := advance.kept (by simpa using applied)
      exact ⟨constructed, epoch.trans kept.symm, point.later advance.later⟩

/-- What a tennis transition leaves of a cursor before the new point explains anything. -/
theorem BookOk.forget {tc' : TennisSyncCursor} {prior : TennisState} {event : ProviderEvent}
    {r : TennisTransitionResult} (ok : BookOk pair tc c) (held : tc.tennis = some prior)
    (tennis : tc'.tennis = some r.state) (advance : ProviderAdvance prior event r) :
    BookOk pair tc' (c.forget (appliedCorrection event r)) := by
  cases holds : c.book with
  | none =>
      have empty := ok.empty holds
      have same : c.forget (appliedCorrection event r) = c := by
        unfold BookSyncCursor.forget
        rw [empty.causal, ite_self, ← empty.causal]
      rw [same]
      exact ok.refit (.of_against tennis (.of_empty empty r.state))
  | some b =>
      have holding := ok.holding holds
      have against := ok.fits.against prior held
      by_cases applied : appliedCorrection event r = true
      · have fewer : ∀ w ∈ (c.forget true).witnesses, w ∈ c.witnesses := by
          intro w member
          exact mem_witnesses.mpr (.inr (by simpa [mem_witnesses, BookSyncCursor.forget]
            using member))
        rw [applied]
        refine ok.change ⟨rfl, rfl, rfl, rfl⟩ holds ?_ (.of_against tennis ?_)
        · exact { holding with
            pending := fun p member => { holding.pending p member with }
            witnesses := fun w member => holding.witnesses w (fewer w member)
            unexplained := fun _ => rfl
            consumed := fun causal => nomatch causal }
        · have forgotten : Against prior (c.forget true) := { against with
            witnesses := fun w member => against.witnesses w (fewer w member)
            causal := fun w member => nomatch member }
          exact forgotten.later advance.later fun causal => nomatch causal
      · have unapplied : appliedCorrection event r = false := by simpa using applied
        rw [unapplied]
        exact ok.refit (.of_against tennis (against.later advance.later fun _ =>
          advance.kept unapplied))

theorem BookOk.afterTennis {policy : SyncPolicy} {tc' : TennisSyncCursor} {prior : TennisState}
    {event : ProviderEvent} {r : TennisTransitionResult} {point : Option CausalPointWitness}
    (ok : BookOk pair tc c) (held : tc.tennis = some prior) (tennis : tc'.tennis = some r.state)
    (advance : ProviderAdvance prior event r)
    (witness : pointWitness c.canonicalMatchId event r = .ok point) :
    BookOk pair tc' (c.afterTennis policy (appliedCorrection event r) point r.state) :=
  (ok.forget held tennis advance).explain tennis fun _ present =>
    pointWitness_current advance witness present

theorem afterTennis_same (policy : SyncPolicy) (applied : Bool)
    (point : Option CausalPointWitness) (t : TennisState) (c : BookSyncCursor) :
    SameMarket c (c.afterTennis policy applied point t) := by
  have forgotten : SameMarket c (c.forget applied) := ⟨rfl, rfl, rfl, rfl⟩
  exact forgotten.trans (explain_same policy t point (c.forget applied))

/-! ## Books -/

/-- A cursor takes a later book and keeps its pending move, or drops it. -/
theorem BookOk.hold {b' : BookState} {stateSha256 inputSha256 : String} {v : PyValue}
    {pending : Option PendingBookMove} (ok : BookOk pair tc c)
    (later : ∀ b, c.book = some b → LaterBook b b') (good : b'.postInit = .ok ())
    (market : b'.ticker = c.ticker) (state : expertContractSha256 b'.py = .ok stateSha256)
    (input : expertContractSha256 v = .ok inputSha256)
    (kept : ∀ p, pending = some p → c.pendingMove = some p) :
    BookOk pair tc (c.hold b' stateSha256 inputSha256 pending) := by
  have bookFacts : (∀ p, c.pendingMove = some p → PendingOf c b' p) ∧
      (∀ w ∈ c.witnesses, w.postInit = .ok () ∧ w.canonicalMatchId = c.canonicalMatchId) ∧
      (c.pendingMove.isSome → c.causalPointWitness = none) ∧
      (c.causalPointWitness.isSome → c.causalPointWitness = c.consumedPointWitness) ∧
      ∀ e, c.lastEmission = some e → e.postInit = .ok () ∧ e.book ≤ bookCoordinates b' := by
    cases holds : c.book with
    | none =>
        have empty := ok.empty holds
        simp [empty.pending, empty.causal, empty.consumed, empty.emission,
          BookSyncCursor.witnesses]
    | some b =>
        have holding := ok.holding holds
        have later := later b holds
        refine ⟨?_, holding.witnesses, holding.unexplained, holding.consumed, ?_⟩
        · intro p member
          have pending := holding.pending p member
          exact { pending with
            last := pending.last.trans later.coordinates
            observed := pending.observed.trans later.observed }
        · intro e member
          obtain ⟨constructed, before⟩ := holding.emission e member
          exact ⟨constructed, before.trans later.coordinates⟩
  obtain ⟨moves, witnesses, unexplained, consumed, emission⟩ := bookFacts
  refine ok.change (b := b') ⟨rfl, rfl, rfl, rfl⟩ rfl ?_ ?_
  · refine ⟨good, market, ⟨_, state, rfl⟩, ⟨_, rfl, contractSha256_isSha256 input⟩, ?_,
      witnesses, ?_, consumed, emission⟩
    · intro p member
      exact { moves p (kept p member) with }
    · intro some
      obtain ⟨p, member⟩ := Option.isSome_iff_exists.mp some
      exact unexplained (by simp [kept p member])
  · refine ⟨fun unset => ?_, fun t holds => ?_⟩
    · have alone := ok.fits.alone unset
      exact { alone with floor := fun p member => alone.floor p (kept p member) }
    · have against := ok.fits.against t holds
      exact { against with floor := fun p member => against.floor p (kept p member) }

theorem pendingAfter_kept {event : BookEvent} {tennis : Option TennisState}
    {r : BookTransitionResult} {p : PendingBookMove}
    (kept : pendingAfter c event tennis r = some p) : c.pendingMove = some p := by
  unfold pendingAfter at kept
  split at kept
  · rename_i pending present
    split_ifs at kept
    rw [present, kept]
  · cases kept

theorem recomputedBook_eq_ok {previous : Option String} {event : BookEvent}
    {sent : Option BookTransitionResult} {r : BookTransitionResult}
    (computed : recomputedBook c previous event sent = .ok r) :
    applyBookEvent c previous event = .ok r ∧ some r = sent := by
  simp only [recomputedBook, recover_eq_ok, bind_eq_ok, exists_unit, refuse_eq_ok, not_not,
    pure_eq_ok] at computed
  obtain ⟨r', answer, sent, rfl⟩ := computed
  exact ⟨answer, sent⟩

/-! ## Large moves -/

/-- A burst that starts with the accepted event of a result. -/
def burstOf (c : BookSyncCursor) (r : BookTransitionResult) (floor : Option Nat) :
    PendingBookMove :=
  { canonicalMatchId := c.canonicalMatchId
    ticker := c.ticker
    firstMoveMonotonicNs := r.state.bookObservedMonotonicNs
    lastMoveMonotonicNs := r.state.bookObservedMonotonicNs
    firstConnectionEpoch := r.state.connectionEpoch
    firstSequence := r.state.sequence
    firstEventSha256 := r.state.lastEventSha256
    lastConnectionEpoch := r.state.connectionEpoch
    lastSequence := r.state.sequence
    lastEventSha256 := r.state.lastEventSha256
    moveCount := 1
    maxMagnitude := r.executableMove
    tennisCorrectionEpochFloor := floor
    bookConnectionEpochFloor := r.state.connectionEpoch }

/-- A burst that goes on with the accepted event of a result. -/
def PendingBookMove.extend (p : PendingBookMove) (r : BookTransitionResult) : PendingBookMove :=
  { p with
    lastMoveMonotonicNs := r.state.bookObservedMonotonicNs
    lastConnectionEpoch := r.state.connectionEpoch
    lastSequence := r.state.sequence
    lastEventSha256 := r.state.lastEventSha256
    moveCount := p.moveCount + 1
    maxMagnitude := max p.maxMagnitude r.executableMove }

/-- The burst after a large move. -/
def grown (tc : TennisSyncCursor) (c : BookSyncCursor) (r : BookTransitionResult) :
    PendingBookMove :=
  match c.pendingMove with
  | none => burstOf c r (tc.tennis.map fun t => t.correctionEpoch)
  | some p => p.extend r

theorem grownPending_eq {r : BookTransitionResult} (accepted : Accepted r) :
    grownPending tc c r = pendingBookMove (grown tc c r) := by
  unfold grownPending grown
  cases c.pendingMove with
  | none => simp [newPending, accepted.observed, accepted.digest, accepted.epoch,
      accepted.sequence, burstOf]
  | some p => simp [extendedPending, accepted.observed, accepted.digest, accepted.epoch,
      accepted.sequence, PendingBookMove.extend]

/-- What the last point of the match makes of a cursor. -/
def BookSyncCursor.explainIn (policy : SyncPolicy) (tc : TennisSyncCursor) (c : BookSyncCursor) :
    BookSyncCursor :=
  match tc.tennis with
  | none => c
  | some t => c.explain policy t tc.lastPointWitness

/-- The cursor of a market after a large move, before it is explained. -/
def BookSyncCursor.move (c : BookSyncCursor) (p : PendingBookMove) : BookSyncCursor :=
  { c with
    pendingMove := some p
    causalPointWitness := none }

theorem explainPending_eq_ok {policy : SyncPolicy} {witness : Option CausalPointWitness}
    {tennis : Option TennisState} {c' : BookSyncCursor}
    (answer : explainPending c witness tennis policy = .ok c') :
    c' = tennis.elim c fun t => c.explain policy t witness := by
  unfold explainPending at answer
  split at answer
  · rename_i p w t pending
    simp only [Option.elim_some, BookSyncCursor.explain, pending]
    split_ifs at answer ⊢
    · simp only [bookCursor, bind_eq_ok, exists_unit, pure_eq_ok] at answer
      exact answer.2.symm
    · exact ((pure_eq_ok _ _).mp answer).symm
  · rename_i witness tennis _ _ _ other
    rw [← (pure_eq_ok _ _).mp answer]
    cases tennis with
    | none => rfl
    | some t =>
        simp only [Option.elim_some, BookSyncCursor.explain]
        split
        · rename_i p w pending
          exact absurd rfl (other p w t pending rfl)
        · rfl

theorem recordMove_eq_ok {policy : SyncPolicy} {r : BookTransitionResult}
    {recorded : BookSyncCursor} (accepted : Accepted r)
    (answer : recordMove policy tc c r = .ok recorded) :
    (grown tc c r).postInit = .ok () ∧ recorded = (c.move (grown tc c r)).explainIn policy tc := by
  simp only [recordMove, grownPending_eq accepted, pendingBookMove, bookCursor, bind_eq_ok,
    exists_unit, pure_eq_ok] at answer
  obtain ⟨p, ⟨constructed, rfl⟩, moved, ⟨-, rfl⟩, answer⟩ := answer
  refine ⟨constructed, ?_⟩
  rw [explainPending_eq_ok answer]
  show _ = BookSyncCursor.explainIn policy tc (c.move (grown tc c r))
  unfold BookSyncCursor.explainIn
  cases tc.tennis <;> rfl

theorem BookOk.move {r : BookTransitionResult} (ok : BookOk pair tc c)
    (holds : c.book = some r.state) (constructed : (grown tc c r).postInit = .ok ()) :
    BookOk pair tc (c.move (grown tc c r)) := by
  have holding := ok.holding holds
  have pending : PendingOf c r.state (grown tc c r) := by
    have ordered := (PendingBookMove.postInit_eq_ok.mp constructed).ordered
    unfold grown at constructed ordered ⊢
    cases before : c.pendingMove with
    | none =>
        rw [before] at constructed ordered
        exact ⟨constructed, rfl, rfl, ordered, le_rfl, le_rfl⟩
    | some p =>
        rw [before] at constructed ordered
        have pending := holding.pending p before
        exact ⟨constructed, pending.matchId, pending.ticker, ordered, le_rfl, le_rfl⟩
  have fewer : ∀ w ∈ (c.move (grown tc c r)).witnesses, w ∈ c.witnesses := by
    intro w member
    exact mem_witnesses.mpr (.inr (by simpa [mem_witnesses, BookSyncCursor.move] using member))
  refine ok.change ⟨rfl, rfl, rfl, rfl⟩ holds ?_ ⟨fun unset => ?_, fun t tennis => ?_⟩
  · exact { holding with
      pending := fun p member => by
        obtain rfl := Option.some.inj member
        exact { pending with }
      witnesses := fun w member => holding.witnesses w (fewer w member)
      unexplained := fun _ => rfl
      consumed := fun causal => nomatch causal }
  · have alone := ok.fits.alone unset
    refine ⟨?_, ?_, alone.emission⟩
    · intro p member
      obtain rfl := Option.some.inj member
      unfold grown
      cases before : c.pendingMove with
      | none => simp [burstOf, unset]
      | some p => exact alone.floor p before
    · refine List.eq_nil_iff_forall_not_mem.mpr fun w member => ?_
      have inside := fewer w member
      rw [alone.witnesses] at inside
      cases inside
  · have against := ok.fits.against t tennis
    exact { against with
      floor := fun p member => by
        obtain rfl := Option.some.inj member
        unfold grown
        cases before : c.pendingMove with
        | none => exact ⟨t.correctionEpoch, by simp [burstOf, tennis], le_rfl⟩
        | some p => exact against.floor p before
      witnesses := fun w member => against.witnesses w (fewer w member)
      causal := fun w member => nomatch member }

theorem TennisOk.current {t : TennisState} {w : CausalPointWitness} (ok : TennisOk pair tc)
    (holds : tc.tennis = some t) (last : tc.lastPointWitness = some w) :
    CurrentPoint (matchOf pair) t w := by
  obtain ⟨constructed, epoch, point⟩ := (ok.holding holds).witness w last
  exact ⟨constructed, epoch, ok.matchId ▸ point⟩

theorem BookOk.explainIn {policy : SyncPolicy} (ok : BookOk pair tc c) (tennisOk : TennisOk pair tc) :
    BookOk pair tc (c.explainIn policy tc) := by
  unfold BookSyncCursor.explainIn
  split
  · exact ok
  · rename_i t holds
    exact ok.explain holds fun w last => ok.matchId ▸ tennisOk.current holds last

theorem explainIn_same (policy : SyncPolicy) (tc : TennisSyncCursor) (c : BookSyncCursor) :
    SameMarket c (c.explainIn policy tc) := by
  unfold BookSyncCursor.explainIn
  split
  · exact .refl c
  · exact explain_same ..

/-- The checks of a burst fail only when its counter is used up. -/
theorem grown_constructed {r : BookTransitionResult} (ok : BookOk pair tc c)
    (holds : c.book = some r.state) (tennisOk : TennisOk pair tc) (accepted : Accepted r)
    (positive : 0 < r.executableMove)
    (further : ∀ p, c.pendingMove = some p → p.last < bookCoordinates r.state)
    (counts : ∀ p, c.pendingMove = some p → p.moveCount + 1 < integerBound) :
    (grown tc c r).Constructed := by
  have holding := ok.holding holds
  obtain ⟨epoch, sequence, positiveSequence, observed, digest⟩ :=
    book_postInit_bounds holding.constructed
  have named := ok.named
  unfold grown
  cases before : c.pendingMove with
  | none =>
      refine ⟨named.matchId, named.ticker, observed, observed, epoch, ⟨sequence, positiveSequence⟩,
        digest, epoch, ⟨sequence, positiveSequence⟩, digest, ⟨?_, Nat.one_pos⟩, accepted.move,
        positive.ne', ?_, epoch, le_rfl, le_rfl, fun _ => ⟨rfl, rfl, rfl⟩, ?_, rfl⟩
      · show 1 < integerBound
        unfold integerBound
        norm_num
      · intro floor present
        obtain ⟨t, tennis, rfl⟩ := Option.map_eq_some_iff.mp present
        exact (tennis_postInit_bounds (tennisOk.holding tennis).constructed).1
      · exact fun several => absurd several (lt_irrefl 1)
  | some p =>
      have pending := holding.pending p before
      have good := PendingBookMove.postInit_eq_ok.mp pending.constructed
      have beyond : p.first < bookCoordinates r.state :=
        pending.ordered.trans_lt (further p before)
      exact { good with
        lastMove := observed
        lastEpoch := epoch
        lastSequence := ⟨sequence, positiveSequence⟩
        lastEvent := digest
        count := ⟨counts p before, Nat.succ_pos _⟩
        magnitude := ⟨le_max_of_le_left good.magnitude.1, max_le good.magnitude.2 accepted.move.2⟩
        positive := (lt_max_of_lt_right positive).ne'
        order := good.order.trans pending.observed
        ordered := beyond.le
        single := fun one => absurd (Nat.succ.inj one) good.count.2.ne'
        several := fun _ => beyond.ne }

/-! ## Inputs -/

/-- What the checks of an input say about its parts. -/
structure SynchronizationInput.Constructed (i : SynchronizationInput) : Prop where
  matchId : SafeId i.canonicalMatchId
  ticker : ∀ ticker, i.ticker = some ticker → Ticker ticker
  shape : i.validShape = true
  agree : i.tickers.dedup.length ≤ 1
  provider : ∀ event, i.providerEvent = some event → event.postInit = .ok ()
  tennis : ∀ r, i.tennisTransition = some r → r.state.postInit = .ok ()
  bookEvent : ∀ event, i.bookEvent = some event → event.postInit = .ok ()
  book : ∀ r, i.bookTransition = some r → r.postInit = .ok () ∧ r.state.postInit = .ok ()
  resnapshot : ∀ b, i.bookResnapshotState = some b → b.postInit = .ok ()

theorem SynchronizationInput.constructed {i : SynchronizationInput} (checked : i.postInit = .ok ()) :
    i.Constructed := by
  simp only [SynchronizationInput.postInit, bind_eq_ok, exists_unit, safeId_eq_ok, checkSome_eq_ok,
    ticker_eq_ok, refuse_eq_ok, not_lt, Bool.not_eq_false] at checked
  obtain ⟨matchId, ticker, -, shape, agree, provider, -, tennis, bookEvent, result, book,
    resnapshot⟩ := checked
  exact ⟨matchId, ticker, shape, agree, provider, tennis, bookEvent,
    fun r member => ⟨result r member, book r member⟩, resnapshot⟩

theorem dedup_single {l : List String} (short : l.dedup.length ≤ 1) {a b : String} (here : a ∈ l)
    (there : b ∈ l) : a = b := by
  have left := List.mem_dedup.mpr here
  have right := List.mem_dedup.mpr there
  match only : l.dedup, short with
  | [], _ =>
      rw [only] at left
      cases left
  | [x], _ =>
      rw [only, List.mem_singleton] at left right
      rw [left, right]

theorem SynchronizationInput.Constructed.book_ticker {i : SynchronizationInput}
    (input : i.Constructed) {ticker : String} {r : BookTransitionResult}
    (about : i.ticker = some ticker) (sent : i.bookTransition = some r) :
    r.state.ticker = ticker :=
  dedup_single input.agree (by simp [tickers, sent]) (by simp [tickers, about])

theorem SynchronizationInput.Constructed.resnapshot_ticker {i : SynchronizationInput}
    (input : i.Constructed) {ticker : String} {b : BookState}
    (about : i.ticker = some ticker) (sent : i.bookResnapshotState = some b) :
    b.ticker = ticker :=
  dedup_single input.agree (by simp [tickers, sent]) (by simp [tickers, about])

/-! ## Reactions -/

/-- The tennis state of a standing is a legal one. -/
def Standing.Legal (std : Standing) : Prop :=
  ∀ t, std.tennis.tennis = some t → validateTennisState t = .ok ()

theorem originOf_eq_ok {event : ProviderSnapshot} {t : TennisState}
    (computed : originOf event = .ok t) :
    t.postInit = .ok () ∧ validateTennisState t = .ok () := by
  simp only [originOf, recover_eq_ok, bind_eq_ok, exists_unit, pure_eq_ok] at computed
  obtain ⟨t', started, legal, rfl⟩ := computed
  simp only [stateFromSnapshot, bind_eq_ok, TennisState.construct_eq_ok] at started
  obtain ⟨_, -, _, -, _, -, constructed, rfl⟩ := started
  exact ⟨TennisState.postInit_eq_ok.mpr constructed, legal⟩

theorem requireBookResnapshot_later {b b' : BookState}
    (computed : requireBookResnapshot b = .ok b') : LaterBook b b' := by
  rcases requireBookResnapshot_cases computed with ⟨-, -, rfl⟩ | ⟨-, rfl⟩
  · exact .refl _
  · exact later_gapped b

theorem largeMove_iff {policy : SyncPolicy} {r : BookTransitionResult} :
    largeMove policy r = true ↔
      movesMarket r ∧ 0 < r.executableMove ∧ policy.largeBookMoveThreshold ≤ r.executableMove := by
  simp [largeMove, movesMarket]

variable {ctx : Context} {std next : Standing} {evidence : SynchronizationInput} {plan : Plan}

/-- The cursor of a market after its book event was accepted. -/
theorem accepted_ok {r : BookTransitionResult} {event : BookEvent} {ticker : String}
    {stateSha256 inputSha256 : String} (valid : std.Valid ctx.pair) (input : evidence.Constructed)
    (about : evidence.ticker = some ticker) (found : std.book ticker = some c)
    (computed : recomputedBook c evidence.previousStateSha256 event evidence.bookTransition = .ok r)
    (state : expertContractSha256 r.state.py = .ok stateSha256)
    (sealed : expertContractSha256 evidence.py = .ok inputSha256) :
    BookOk ctx.pair std.tennis (c.hold r.state stateSha256 inputSha256
      (pendingAfter c event std.tennis.tennis r)) := by
  obtain ⟨answer, sent⟩ := recomputedBook_eq_ok computed
  refine (valid.book ticker c found).hold ?_ (input.book r sent.symm).2 ?_ state sealed ?_
  · exact fun b holds => (applyBookEvent_advance holds answer).later
  · exact (input.book_ticker about sent.symm).trans (valid.ticker ticker c found).symm
  · exact fun p kept => pendingAfter_kept kept

theorem recordIfLarge_ok {tc : TennisSyncCursor} {policy : SyncPolicy} {r : BookTransitionResult}
    {c accepted recorded : BookSyncCursor} (ok : BookOk pair tc accepted)
    (tennisOk : TennisOk pair tc) (holds : accepted.book = some r.state)
    (checked : r.postInit = .ok ())
    (answer : recordIfLarge policy tc c accepted r = .ok recorded) :
    BookOk pair tc recorded ∧ SameMarket accepted recorded := by
  unfold recordIfLarge at answer
  split_ifs at answer with large
  · obtain ⟨moves, -⟩ := largeMove_iff.mp large.2
    obtain ⟨constructed, rfl⟩ := recordMove_eq_ok (accepted_of_postInit checked moves) answer
    have moved : SameMarket accepted (accepted.move (grown tc accepted r)) := ⟨rfl, rfl, rfl, rfl⟩
    exact ⟨(ok.move holds constructed).explainIn tennisOk, moved.trans (explainIn_same ..)⟩
  · obtain rfl := (pure_eq_ok _ _).mp answer
    exact ⟨ok, .refl _⟩

/-- An input keeps the standing of its match valid. -/
theorem Ingested.valid (ingested : Ingested ctx std evidence next plan)
    (valid : std.Valid ctx.pair) (input : evidence.Constructed) : next.Valid ctx.pair := by
  cases ingested with
  | misbound | clock | unbound => exact valid
  | origin event tennis stateSha256 inputSha256 unset provider computed bound state sealed =>
      obtain ⟨good, -⟩ := originOf_eq_ok computed
      refine Standing.retennis_valid valid ?_ (fun c => ⟨rfl, rfl, rfl, rfl⟩) ?_
      · exact valid.tennis.hold good state sealed fun w none => nomatch none
      · exact fun ticker c found => (valid.book ticker c found).floored unset rfl good
  | transition prior event r point stateSha256 inputSha256 held provider previous computed witness
      state sealed =>
      obtain ⟨answer, sent, -⟩ := recomputedTennis_eq_ok computed
      have advance := applyProviderEvent_advance answer
      have tennisKey := valid.tennis.matchId
      refine Standing.retennis_valid valid ?_ (afterTennis_same _ _ _ _) ?_
      · refine valid.tennis.hold (input.tennis r sent.symm) state sealed fun w last => ?_
        exact lastPoint_current valid.tennis held advance (tennisKey ▸ witness) last
      · intro ticker c found
        have ok := valid.book ticker c found
        exact ok.afterTennis held rfl advance (ok.matchId ▸ witness)
  | market ticker cursor recorded event r stateSha256 inputSha256 about found fed computed state
      sealed records =>
      obtain ⟨-, sent⟩ := recomputedBook_eq_ok computed
      have accepted := accepted_ok valid input about found computed state sealed
      obtain ⟨ok, same⟩ := recordIfLarge_ok accepted valid.tennis rfl
        (input.book r sent.symm).1 records
      refine Standing.set_valid valid (c := cursor) ?_ ok
      rw [same.ticker]
      exact (valid.ticker ticker cursor found) ▸ found
  | resnapshot ticker cursor book required stateSha256 inputSha256 about found held computed sent
      state sealed =>
      refine Standing.set_valid valid (c := cursor) ?_ ?_
      · exact (valid.ticker ticker cursor found) ▸ found
      · refine (valid.book ticker cursor found).hold ?_ (input.resnapshot required sent.symm) ?_
          state sealed fun p kept => kept
        · intro b holds
          obtain rfl : book = b := Option.some.inj (held.symm.trans holds)
          exact requireBookResnapshot_later computed
        · exact (input.resnapshot_ticker about sent.symm).trans
            (valid.ticker ticker cursor found).symm

theorem Ingested.legal (ingested : Ingested ctx std evidence next plan) (legal : std.Legal) :
    next.Legal := by
  cases ingested with
  | misbound | clock | unbound | market | resnapshot => exact legal
  | origin event tennis stateSha256 inputSha256 unset provider computed bound state sealed =>
      intro t held
      obtain rfl : tennis = t := Option.some.inj held
      exact (originOf_eq_ok computed).2
  | transition prior event r point stateSha256 inputSha256 held provider previous computed witness
      state sealed =>
      intro t here
      obtain rfl : r.state = t := Option.some.inj here
      exact (recomputedTennis_eq_ok computed).2.2

end Inci.Sync
