/-
# Sync.Publishing -- a sound verdict has a result

The checks of trusted snapshots, opportunities and results accept what a sound
verdict publishes, so numbering the verdicts of a reaction never fails below the
integer bound.
-/
import Inci.Sync.Locality

namespace Inci.Sync

open Inci.Theory Inci.Expert Inci.Tennis Inci.Market Inci.Binding

set_option autoImplicit false

variable {ctx : Context} {std : Standing} {verdict : Verdict} {n : Nat}

/-! ## Encodable parts -/

theorem encodes_of_digest {v : PyValue} {digest : String}
    (computed : expertContractSha256 v = .ok digest) : Encodes v :=
  (domainSha256_total _ v).mp ⟨digest, computed⟩

theorem digest_of_encodes {v : PyValue} (encodable : Encodes v) :
    ∃ digest, expertContractSha256 v = .ok digest ∧ IsSha256 digest := by
  obtain ⟨digest, computed⟩ := (domainSha256_total "INCI-EXPERT-CONTRACT-SHA256-V1" v).mpr encodable
  exact ⟨digest, computed, domainSha256_isSha256 computed⟩

theorem checkBinding_encodes {pair : MatchBinding × BindingMetadata} {binding metadata : String}
    (checked : checkBinding pair binding metadata = .ok ()) :
    Encodes pair.1.py ∧ Encodes pair.2.py := by
  simp only [checkBinding, bind_eq_ok] at checked
  obtain ⟨_, first, _, -, _, second, -⟩ := checked
  exact ⟨encodes_of_digest first, encodes_of_digest second⟩

theorem Standing.Valid.binding_encodes (valid : std.Valid ctx.pair) :
    Encodes ctx.pair.1.py ∧ Encodes ctx.pair.2.py :=
  checkBinding_encodes valid.tennis.binding

theorem TennisSyncCursor.Holding.encodes {tc : TennisSyncCursor} {t : TennisState}
    (holding : tc.Holding t) : Encodes t.py := by
  obtain ⟨digest, computed, -⟩ := holding.digest
  exact encodes_of_digest computed

theorem BookSyncCursor.Holding.encodes {c : BookSyncCursor} {b : BookState}
    (holding : c.Holding b) : Encodes b.py := by
  obtain ⟨digest, computed, -⟩ := holding.digest
  exact encodes_of_digest computed

theorem PairedTimeObservation.encodes {o : PairedTimeObservation} (good : o.postInit = .ok ()) :
    Encodes o.py := by
  simp only [PairedTimeObservation.postInit, bind_eq_ok, exists_unit, integer_eq_ok] at good
  simp [PairedTimeObservation.py, Encodes, EncodesFields, good.1, good.2.1, good.2.2]

/-! ## Trusted snapshots -/

/-- What the session and the observation give to a published result. -/
structure Context.Built (ctx : Context) : Prop where
  universeDigest : IsSha256 ctx.frame.universeSha256
  policyDigest : IsSha256 ctx.frame.syncPolicySha256
  binding : ctx.pair.1.postInit = .ok ()
  now : ctx.now.postInit = .ok ()

theorem live_winner {t : TennisState} (good : t.postInit = .ok ()) (live : t.status = .live) :
    t.winner = none ∧ t.retiredSide = none := by
  have status := (TennisState.postInit_eq_ok.mp good).status
  simp only [validateStatus, live, refuse_eq_ok, not_or, Bool.not_eq_true,
    Option.isSome_eq_false_iff, Option.isNone_iff_eq_none] at status
  exact status.2

/-- The revision of a causal witness is not after the state's. -/
theorem causal_revision {pair : MatchBinding × BindingMetadata} {tc : TennisSyncCursor}
    {c : BookSyncCursor} {t : TennisState} {w : CausalPointWitness} (ok : BookOk pair tc c)
    (tennis : tc.tennis = some t) (causal : c.causalPointWitness = some w) :
    w.revision ≤ t.revision := by
  have against := ok.fits.against t tennis
  have epoch := against.causal w causal
  have before := (against.witnesses w (mem_witnesses.mpr (.inl causal))).coordinates
  simp only [CausalPointWitness.coordinates, tennisCoordinates, coordinates_le] at before
  omega

theorem market_ticker (valid : std.Valid ctx.pair) {ticker : String} {c : BookSyncCursor}
    (found : std.book ticker = some c) :
    ticker = ctx.pair.1.homeMarketTicker ∨ ticker = ctx.pair.1.awayMarketTicker := by
  have inside := (valid.domain ticker).mp (by simp [found])
  simpa [marketKeys, matchOf] using inside

/-- The states of a sound verdict make a trusted snapshot. -/
theorem snapshot_postInit {ticker : String} {t : TennisState} {b : BookState} {c : BookSyncCursor}
    (valid : std.Valid ctx.pair) (built : ctx.Built) (tennis : std.tennis.tennis = some t)
    (found : std.book ticker = some c) (book : c.book = some b)
    (clear : Clear ctx.frame.policy ctx.pair.1 t b c.pendingMove ctx.now)
    (small : n + 1 < integerBound) :
    (Agreement.snapshot ctx (n + 1)
      ⟨t, b, c.causalPointWitness.map CausalPointWitness.revision⟩).postInit = .ok () := by
  have ok := valid.book ticker c found
  have good := (valid.tennis.holding tennis).constructed
  obtain ⟨-, revision, -, -⟩ := tennis_postInit_bounds good
  obtain ⟨winner, retired⟩ := live_winner good clear.live
  have complete := (TennisState.postInit_eq_ok.mp good).complete
  have market : b.ticker = ticker :=
    (ok.holding book).market.trans (valid.ticker ticker c found)
  have times : max (max t.lastReceivedMonotonicNs b.bookObservedMonotonicNs)
      b.lifecycleObservedMonotonicNs ≤ ctx.now.monotonicNs :=
    max_le (max_le clear.received clear.observed) clear.lifecycle
  have bound : ¬bindingDrift t ctx.pair.1 = true := by simp [clear.bound]
  have listed : ¬(b.ticker ≠ ctx.pair.1.homeMarketTicker ∧
      b.ticker ≠ ctx.pair.1.awayMarketTicker) := by
    rw [market]
    rcases market_ticker valid found with home | away
    · exact fun other => other.1 home
    · exact fun other => other.2 away
  have inPlay : ¬(t.snapshotComplete = false ∨ t.blockReason.isSome ∨ t.status ≠ .live ∨
      t.serverForNextPoint.isNone ∨ t.winner.isSome ∨ t.retiredSide.isSome) := by
    simp [complete, clear.unblocked, clear.live, winner, retired,
      Option.isSome_iff_ne_none.mp clear.server]
  have tradable : ¬(b.trusted = false ∨ b.sequenceGap = true ∨ b.marketStatus ≠ .open ∨
      (b.yesBids = [] ∧ b.noBids = [])) := by
    rintro (untrusted | gap | closed | empty)
    · rw [clear.trusted] at untrusted
      cases untrusted
    · rw [clear.gapless] at gap
      cases gap
    · exact closed clear.opened
    · exact clear.executable empty
  cases here : c.causalPointWitness with
  | none =>
      simp only [TrustedSnapshot.postInit, Agreement.snapshot, Option.map_none, bind_eq_ok,
        exists_unit, positiveInteger_eq_ok, sha256_eq_ok]
      exact ⟨⟨small, Nat.succ_pos _⟩, built.policyDigest, trivial, refuse_ok _ bound, refuse_ok _ listed,
        refuse_ok _ inPlay, refuse_ok _ tradable, refuse_ok _ (not_lt.mpr times),
        refuse_ok _ (not_le.mpr clear.running)⟩
  | some w =>
      have before := causal_revision ok tennis here
      simp only [TrustedSnapshot.postInit, Agreement.snapshot, Option.map_some, bind_eq_ok,
        exists_unit, positiveInteger_eq_ok, sha256_eq_ok, integer_eq_ok]
      exact ⟨⟨small, Nat.succ_pos _⟩, built.policyDigest, before.trans_lt revision,
        refuse_ok _ (not_lt.mpr before), refuse_ok _ bound, refuse_ok _ listed,
        refuse_ok _ inPlay, refuse_ok _ tradable, refuse_ok _ (not_lt.mpr times),
        refuse_ok _ (not_le.mpr clear.running)⟩

theorem snapshot_encodes {ticker : String} {t : TennisState} {b : BookState} {c : BookSyncCursor}
    (valid : std.Valid ctx.pair) (built : ctx.Built) (tennis : std.tennis.tennis = some t)
    (found : std.book ticker = some c) (book : c.book = some b)
    (small : n + 1 < integerBound) :
    Encodes (Agreement.snapshot ctx (n + 1)
      ⟨t, b, c.causalPointWitness.map CausalPointWitness.revision⟩).py := by
  have ok := valid.book ticker c found
  obtain ⟨-, revision, -, -⟩ := tennis_postInit_bounds (valid.tennis.holding tennis).constructed
  simp only [TrustedSnapshot.py, Agreement.snapshot, Encodes, EncodesFields, encodes_nat,
    encodes_text, encodes_option, true_and, and_true]
  refine ⟨small, PairedTimeObservation.encodes built.now, (valid.tennis.holding tennis).encodes,
    (ok.holding book).encodes, valid.binding_encodes.1, ?_⟩
  intro value present
  obtain ⟨w, causal, rfl⟩ := Option.map_eq_some_iff.mp present
  exact (causal_revision ok tennis causal).trans_lt revision

/-! ## Opportunities -/

/-- The opportunity over the snapshot of an agreement, with its digests. -/
def Agreement.opportunity (ctx : Context) (decisionSequence : Nat) (a : Agreement)
    (opportunityId bindingSha256 snapshotSha256 : String) : OpportunityFrame :=
  { opportunityId
    universeSha256 := ctx.frame.universeSha256
    canonicalMatchId := ctx.pair.1.canonicalMatchId
    ticker := a.book.ticker
    decisionSequence
    decisionTime := ctx.now
    bindingSha256
    providerRevision := a.tennis.revision
    bookConnectionEpoch := a.book.connectionEpoch
    bookSequence := a.book.sequence
    snapshotSha256
    snapshot := a.snapshot ctx decisionSequence }

/-- The opportunity of a trusted snapshot exists. -/
theorem opportunity_total {ticker : String} {t : TennisState} {b : BookState} {c : BookSyncCursor}
    (valid : std.Valid ctx.pair) (built : ctx.Built) (tennis : std.tennis.tennis = some t)
    (found : std.book ticker = some c) (book : c.book = some b)
    (small : n + 1 < integerBound) :
    ∃ o, opportunity ctx.frame ctx.pair.1 (Agreement.snapshot ctx (n + 1)
      ⟨t, b, c.causalPointWitness.map CausalPointWitness.revision⟩) = .ok o := by
  have ok := valid.book ticker c found
  have holding := ok.holding book
  obtain ⟨-, revision, -, -⟩ := tennis_postInit_bounds (valid.tennis.holding tennis).constructed
  obtain ⟨connection, sequence, positive, -⟩ := book_postInit_bounds holding.constructed
  obtain ⟨bindingSha256, binding, bindingDigest⟩ := digest_of_encodes valid.binding_encodes.1
  obtain ⟨snapshotSha256, snapshot, snapshotDigest⟩ := digest_of_encodes
    (snapshot_encodes valid built tennis found book small)
  have identifiable : ∃ id, opportunityIdentity ctx.frame.universeSha256
      (Agreement.snapshot ctx (n + 1)
        ⟨t, b, c.causalPointWitness.map CausalPointWitness.revision⟩)
      bindingSha256 snapshotSha256 = .ok id := by
    refine (domainSha256_total _ _).mpr ?_
    simp [Encodes, EncodesFields, Agreement.snapshot, small, revision, connection, sequence,
      PairedTimeObservation.encodes built.now]
  obtain ⟨id, identity⟩ := identifiable
  have matchId : SafeId (matchOf ctx.pair) := valid.tennis.matchId ▸ valid.tennis.named.matchId
  have market : Ticker b.ticker := holding.market ▸ ok.named.ticker
  have checked : (Agreement.opportunity ctx (n + 1)
      ⟨t, b, c.causalPointWitness.map CausalPointWitness.revision⟩ id bindingSha256
      snapshotSha256).postInit = .ok () := by
    simp only [OpportunityFrame.postInit, bind_eq_ok, exists_unit, sha256_eq_ok, safeId_eq_ok,
      ticker_eq_ok, positiveInteger_eq_ok, integer_eq_ok]
    refine ⟨domainSha256_isSha256 identity, built.universeDigest, matchId, market,
      ⟨small, Nat.succ_pos _⟩, bindingDigest, revision, connection, ⟨sequence, positive⟩,
      snapshotDigest, bindingSha256, binding, snapshotSha256, snapshot, refuse_ok _ ?_, id,
      identity, refuse_ok _ (not_not.mpr rfl)⟩
    simp [Agreement.opportunity, Agreement.snapshot]
  refine ⟨Agreement.opportunity ctx (n + 1)
    ⟨t, b, c.causalPointWitness.map CausalPointWitness.revision⟩ id bindingSha256
    snapshotSha256, ?_⟩
  unfold opportunity
  simp only [binding, snapshot, ok_bind]
  exact bind_eq_ok.mpr ⟨id, identity, bind_eq_ok.mpr ⟨(), checked, rfl⟩⟩

/-! ## Results -/

/-- What a published verdict is. -/
structure Published (ctx : Context) (n : Nat) (verdict : Verdict) (r : SyncResult) :
    Prop where
  matchId : r.canonicalMatchId = ctx.pair.1.canonicalMatchId
  ticker : r.ticker = verdict.ticker
  reason : r.reason = verdict.reason
  snapshot : r.snapshot = verdict.agreement.map (Agreement.snapshot ctx (n + 1))
  opportunity : r.opportunity.isSome = verdict.agreement.isSome
  universe_eq : ∀ o, r.opportunity = some o → o.universeSha256 = ctx.frame.universeSha256
  parts : r.checkParts = .ok ()

theorem syncResult_parts {r r' : SyncResult} (answer : syncResult r = .ok r') :
    r' = r ∧ r.checkParts = .ok () := by
  simp only [syncResult, bind_eq_ok, exists_unit, pure_eq_ok] at answer
  obtain ⟨checked, rfl⟩ := answer
  refine ⟨rfl, ?_⟩
  simp only [SyncResult.checkParts, bind_eq_ok, exists_unit, checkSome_eq_ok]
  refine ⟨checked, ?_, ?_⟩
  all_goals
    simp only [SyncResult.postInit, bind_eq_ok, exists_unit] at checked
    obtain ⟨-, -, shape, checked⟩ := checked
    simp only [refuse_eq_ok, not_or, not_not] at shape
    intro part present
    cases snapshot : r.snapshot with
    | none => simp_all
    | some s =>
        cases opportunity : r.opportunity with
        | none => simp_all
        | some o => simp_all

/-- What an opportunity over a snapshot is. -/
structure Offered (frame : SessionFrame) (binding : MatchBinding) (snapshot : TrustedSnapshot)
    (o : OpportunityFrame) : Prop where
  universe_eq : o.universeSha256 = frame.universeSha256
  matchId : o.canonicalMatchId = binding.canonicalMatchId
  ticker : o.ticker = snapshot.book.ticker
  snapshot : o.snapshot = snapshot
  constructed : o.postInit = .ok ()

theorem opportunity_eq_ok {frame : SessionFrame} {binding : MatchBinding}
    {snapshot : TrustedSnapshot} {o : OpportunityFrame}
    (answer : opportunity frame binding snapshot = .ok o) : Offered frame binding snapshot o := by
  simp only [opportunity, bind_eq_ok, exists_unit, pure_eq_ok] at answer
  obtain ⟨_, -, _, -, _, -, constructed, rfl⟩ := answer
  exact ⟨rfl, rfl, rfl, rfl, constructed⟩

theorem publish_published {r : SyncResult} (answer : ctx.publish n verdict = .ok r) :
    Published ctx n verdict r := by
  unfold Context.publish at answer
  split at answer
  · rename_i absent
    obtain ⟨rfl, parts⟩ := syncResult_parts answer
    refine ⟨rfl, rfl, rfl, by simp [absent], by simp [absent], ?_, parts⟩
    intro o present
    cases present
  · rename_i a present
    simp only [bind_eq_ok] at answer
    obtain ⟨snapshot, built, o, offered, answer⟩ := answer
    obtain ⟨rfl, -⟩ := decided_of_snapshot built
    obtain ⟨rfl, parts⟩ := syncResult_parts answer
    refine ⟨rfl, rfl, rfl, by simp [present], by simp [present], ?_, parts⟩
    intro o' same
    obtain rfl : o = o' := Option.some.inj same
    exact (opportunity_eq_ok offered).universe_eq

theorem withheld_total {ctx : Context} {ticker : String} {reason : SyncReason}
    (matchId : SafeId ctx.pair.1.canonicalMatchId) (listed : Ticker ticker)
    (untrusted : reason ≠ .trustedSynchronized) :
    withheld ctx.pair.1.canonicalMatchId ticker reason =
      .ok ⟨ctx.pair.1.canonicalMatchId, ticker, none, none, reason⟩ := by
  simp [withheld, syncResult, SyncResult.postInit, refuse, matchId, listed, untrusted]

theorem Standing.Valid.safeId (valid : std.Valid ctx.pair) : SafeId ctx.pair.1.canonicalMatchId := by
  show SafeId (matchOf ctx.pair)
  exact valid.tennis.matchId ▸ valid.tennis.named.matchId

/-- A sound verdict is published. -/
theorem publish_total (sound : verdict.Sound ctx std) (valid : std.Valid ctx.pair)
    (built : ctx.Built) (listed : Ticker verdict.ticker)
    (small : n + verdict.count < integerBound) : ∃ r, ctx.publish n verdict = .ok r := by
  cases sound with
  | withheld ticker reason untrusted => exact ⟨_, withheld_total valid.safeId listed untrusted⟩
  | trusted ticker t b c sealed tennis found book clear computed remembered =>
      have small : n + 1 < integerBound := small
      have ok := valid.book ticker c found
      have holding := ok.holding book
      have market : b.ticker = ticker := holding.market.trans (valid.ticker ticker c found)
      have checked := snapshot_postInit (n := n) valid built tennis found book clear small
      obtain ⟨o, offered⟩ := opportunity_total valid built tennis found book small
      have offer := opportunity_eq_ok offered
      refine ⟨⟨ctx.pair.1.canonicalMatchId, ticker,
        some (Agreement.snapshot ctx (n + 1)
          ⟨t, b, c.causalPointWitness.map CausalPointWitness.revision⟩), some o,
        .trustedSynchronized⟩, ?_⟩
      have snapshot : trustedSnapshot (Agreement.snapshot ctx (n + 1)
          ⟨t, b, c.causalPointWitness.map CausalPointWitness.revision⟩) = .ok _ :=
        bind_eq_ok.mpr ⟨(), checked, rfl⟩
      simp only [Context.publish, snapshot, offered, ok_bind]
      refine bind_eq_ok.mpr ⟨(), ?_, rfl⟩
      simp only [SyncResult.postInit, bind_eq_ok, exists_unit, safeId_eq_ok, ticker_eq_ok,
        recover_eq_ok]
      refine ⟨valid.safeId, listed, refuse_ok _ (by simp), ⟨?_, offer.constructed⟩, refuse_ok _ ?_⟩
      · simp only [TrustedSnapshot.checkParts, bind_eq_ok, exists_unit]
        exact ⟨built.now, (valid.tennis.holding tennis).constructed, holding.constructed,
          built.binding, checked⟩
      · simp [offer.matchId, offer.ticker, offer.snapshot, Agreement.snapshot, market]

theorem emissions_cons (verdict : Verdict) (verdicts : List Verdict) :
    emissions (verdict :: verdicts) = verdict.count + emissions verdicts := by
  simp [emissions]

theorem Verdict.count_le (verdict : Verdict) : verdict.count ≤ 1 := by
  unfold Verdict.count
  split_ifs <;> simp

/-- The results are the verdicts, numbered one after the other. -/
inductive PublishedAll (ctx : Context) : Nat → List Verdict → List SyncResult → Prop where
  | nil (n : Nat) : PublishedAll ctx n [] []
  | cons {n : Nat} {verdict : Verdict} {r : SyncResult} {verdicts : List Verdict}
      {rs : List SyncResult} (first : Published ctx n verdict r)
      (rest : PublishedAll ctx (n + verdict.count) verdicts rs) :
      PublishedAll ctx n (verdict :: verdicts) (r :: rs)

theorem publishAll_published {verdicts : List Verdict} {rs : List SyncResult}
    (answer : ctx.publishAll n verdicts = .ok rs) : PublishedAll ctx n verdicts rs := by
  induction verdicts generalizing n rs with
  | nil =>
      obtain rfl := (pure_eq_ok _ _).mp answer
      exact .nil n
  | cons verdict rest ih =>
      simp only [Context.publishAll, bind_eq_ok, pure_eq_ok] at answer
      obtain ⟨r, published, others, later, rfl⟩ := answer
      exact .cons (publish_published published) (ih later)

end Inci.Sync
