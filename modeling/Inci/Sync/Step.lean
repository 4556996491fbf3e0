/-
# Sync.Step -- the step of a session, from the reaction of one match

`ingest_eq` reads the ingestion of an input as the one of its match's standing,
`results_eq_ok` the results as the published verdicts.  Together they give the
step of the session.
-/
import Inci.Market.Failures
import Inci.Sync.Publishing
import Inci.Tennis.Failures

namespace Inci.Sync

open Inci.Theory Inci.Expert Inci.Tennis Inci.Market Inci.Binding

set_option autoImplicit false

variable {s : SynchronizationSessionState} {ctx : Context} {std next : Standing}

/-! ## Results -/

theorem evaluate_eq_ok (ready : Ready ctx s std) {ticker : String}
    {s' : SynchronizationSessionState} {r : SyncResult} :
    evaluate s ctx.pair.1 ctx.pair.2 ticker ctx.now = .ok (s', r) ↔
      ∃ middle verdict, std.evaluate ctx ticker = .ok (middle, verdict) ∧
        ctx.publish s.decisionSequence verdict = .ok r ∧
        s' = putIn ctx s middle (s.decisionSequence + verdict.count) := by
  rw [evaluate_eq ready]
  simp only [concluded, bind_eq_ok, pure_eq_ok, Prod.exists, Prod.mk.injEq]
  constructor
  · rintro ⟨middle, verdict, evaluated, r', published, rfl, rfl⟩
    exact ⟨middle, verdict, evaluated, published, rfl⟩
  · rintro ⟨middle, verdict, evaluated, published, rfl⟩
    exact ⟨middle, verdict, evaluated, r, published, rfl, rfl⟩

theorem publish_small {decided : Nat} {verdict : Verdict} {r : SyncResult}
    (small : decided < integerBound) (published : ctx.publish decided verdict = .ok r) :
    decided + verdict.count < integerBound := by
  unfold Context.publish at published
  unfold Verdict.count
  split at published
  · rename_i absent
    simpa [absent] using small
  · rename_i present
    simp only [bind_eq_ok] at published
    obtain ⟨snapshot, built, -⟩ := published
    have bounded := (decided_of_snapshot built).2
    simpa [present, Agreement.snapshot] using bounded

/-- The session after a published verdict is ready for the next one. -/
theorem Ready.evaluated (ready : Ready ctx s std) {ticker : String} {verdict : Verdict}
    {r : SyncResult} (evaluated : Evaluated ctx std ticker next verdict)
    (published : ctx.publish s.decisionSequence verdict = .ok r) :
    Ready ctx (putIn ctx s next (s.decisionSequence + verdict.count)) next := by
  have small := publish_small ready.good.decisions published
  refine ready.put (evaluated.valid ready.valid) (evaluated.legal ready.legal) small ?_
  cases evaluated with
  | withheld reason untrusted =>
      exact put_emitted_keep ready.good ready.stands fun _ => rfl
  | emitted t b c sealed found tennis book clear computed fresh =>
      have valid := (Evaluated.emitted t b c sealed found tennis book clear computed fresh).valid
        ready.valid
      exact put_emitted_new ready.good ready.of.member valid _ (Standing.set_self ..) rfl

theorem Standing.verdicts_valid {tickers : List String} {verdicts : List Verdict}
    (answer : std.verdicts ctx tickers = .ok (next, verdicts)) (valid : std.Valid ctx.pair) :
    next.Valid ctx.pair := by
  induction tickers generalizing std verdicts with
  | nil => exact (Standing.verdicts_nil answer).1 ▸ valid
  | cons ticker rest ih =>
      obtain ⟨middle, verdict, others, evaluated, later, -⟩ := Standing.verdicts_cons answer
      exact ih later (evaluated.valid valid)

/-- Two verdicts, one after the other, put the second standing in. -/
theorem putIn_further {middle last : Standing} (valid : middle.Valid ctx.pair)
    (valid' : last.Valid ctx.pair) (n m k : Nat) :
    putIn ctx (putIn ctx s middle (n + m)) last (n + m + k) = putIn ctx s last (n + (m + k)) := by
  unfold putIn
  rw [put_put valid valid', Nat.add_assoc]

theorem results_eq_ok (ready : Ready ctx s std) {tickers : List String}
    {s' : SynchronizationSessionState} {rs : List SyncResult} :
    resultsForTickers ctx.pair.1 ctx.pair.2 ctx.now s tickers = .ok (s', rs) ↔
      ∃ last verdicts, std.verdicts ctx tickers = .ok (last, verdicts) ∧
        ctx.publishAll s.decisionSequence verdicts = .ok rs ∧
        s' = putIn ctx s last (s.decisionSequence + emissions verdicts) := by
  induction tickers generalizing s std s' rs with
  | nil =>
      simp only [resultsForTickers, Standing.verdicts, pure_eq_ok, Prod.mk.injEq]
      constructor
      · rintro ⟨rfl, rfl⟩
        exact ⟨std, [], ⟨rfl, rfl⟩, rfl, (put_self ready.good ready.stands).symm⟩
      · rintro ⟨last, verdicts, ⟨rfl, rfl⟩, published, rfl⟩
        exact ⟨(put_self ready.good ready.stands).symm, (pure_eq_ok _ _).mp published⟩
  | cons ticker rest ih =>
      simp only [resultsForTickers, Standing.verdicts, bind_eq_ok, pure_eq_ok, Prod.exists,
        Prod.mk.injEq, evaluate_eq_ok ready]
      constructor
      · rintro ⟨_, r, ⟨middle, verdict, evaluated, published, rfl⟩, _, others, later, rfl, rfl⟩
        have cases := Standing.evaluate_cases evaluated
        have valid := cases.valid ready.valid
        obtain ⟨last, verdicts, judged, publishedAll, rfl⟩ :=
          (ih (ready.evaluated cases published)).mp later
        refine ⟨last, verdict :: verdicts, ⟨middle, verdict, evaluated, last, verdicts, judged, rfl,
          rfl⟩, ?_, ?_⟩
        · exact bind_eq_ok.mpr ⟨r, published, bind_eq_ok.mpr ⟨others, publishedAll, rfl⟩⟩
        · rw [emissions_cons]
          exact putIn_further valid (Standing.verdicts_valid judged valid) ..
      · rintro ⟨_, _, ⟨middle, verdict, evaluated, last, verdicts, judged, rfl, rfl⟩, published, rfl⟩
        simp only [Context.publishAll, bind_eq_ok, pure_eq_ok] at published
        obtain ⟨r, first, others, publishedAll, rfl⟩ := published
        have cases := Standing.evaluate_cases evaluated
        have valid := cases.valid ready.valid
        refine ⟨_, r, ⟨middle, verdict, evaluated, first, rfl⟩, _, others,
          (ih (ready.evaluated cases first)).mpr ⟨last, verdicts, judged, publishedAll, rfl⟩, ?_, rfl⟩
        rw [emissions_cons]
        exact putIn_further valid (Standing.verdicts_valid judged valid) ..

/-! ## Results that drift -/

theorem fingerprint_total {t : TennisState} {b : BookState} {c : BookSyncCursor} {ticker : String}
    (valid : std.Valid ctx.pair) (built : ctx.Built) (tennis : std.tennis.tennis = some t)
    (found : std.book ticker = some c) (book : c.book = some b) :
    ∃ sealed, fingerprint ctx.frame ctx.pair.1 ctx.pair.2 t b = .ok sealed := by
  obtain ⟨epoch, revision, -, -⟩ :=
    tennis_postInit_bounds (valid.tennis.holding tennis).constructed
  obtain ⟨connection, sequence, -, -⟩ :=
    book_postInit_bounds ((valid.book ticker c found).holding book).constructed
  obtain ⟨bindingSha256, binding, -⟩ := digest_of_encodes valid.binding_encodes.1
  obtain ⟨metadataSha256, metadata, -⟩ := digest_of_encodes valid.binding_encodes.2
  have universeOk : sha256 ctx.frame.universeSha256 "universe_sha256" = .ok () :=
    (sha256_eq_ok ..).mpr built.universeDigest
  have policyOk : sha256 ctx.frame.syncPolicySha256 "sync_policy_sha256" = .ok () :=
    (sha256_eq_ok ..).mpr built.policyDigest
  simp only [fingerprint, synchronizationEmissionFingerprint, universeOk, policyOk, binding,
    metadata, ok_bind]
  refine (domainSha256_total _ _).mpr ?_
  simp [Encodes, EncodesFields, epoch, revision, connection, sequence]

theorem evaluate_drifts (valid : std.Valid ctx.pair) (legal : std.Legal) (built : ctx.Built)
    (ticker : String) : FailsOnly (· = .drift) (std.evaluate ctx ticker) := by
  unfold Standing.evaluate
  refine FailsOnly.bind ?_ fun c found => ?_
  · cases std.book ticker with
    | none => exact failsOnly_error.mpr rfl
    | some c => exact failsOnly_ok c
  have found := required_eq_ok.mp found
  refine FailsOnly.bind ?_ fun reason blocked => ?_
  · have total : ∃ reason, blockReason ctx.frame.policy ctx.pair.1 std.tennis.tennis c ctx.now =
        .ok reason := blockReason_total legal
    obtain ⟨reason, answered⟩ := total
    rw [answered]
    exact failsOnly_ok reason
  cases reason with
  | some reason => exact failsOnly_pure _
  | none =>
      obtain ⟨t, b, tennis, book, -⟩ := blockReason_none blocked
      obtain ⟨sealed, computed⟩ := fingerprint_total valid built tennis found book
      simp only [tennis, book, computed, ok_bind]
      refine FailsOnly.ite (fun _ => failsOnly_pure _) fun _ => ?_
      exact FailsOnly.bind (failsOnly_refuse rfl) fun _ _ => failsOnly_pure _

theorem results_drift (ready : Ready ctx s std) (built : ctx.Built) {tickers : List String}
    (listed : ∀ ticker ∈ tickers, Ticker ticker)
    (small : s.decisionSequence + tickers.length < integerBound) :
    FailsOnly (· = .drift) (resultsForTickers ctx.pair.1 ctx.pair.2 ctx.now s tickers) := by
  induction tickers generalizing s std with
  | nil => exact failsOnly_pure _
  | cons ticker rest ih =>
      rw [List.length_cons] at small
      have published : ∀ middle verdict, std.evaluate ctx ticker = .ok (middle, verdict) →
          ∃ r, ctx.publish s.decisionSequence verdict = .ok r := by
        intro middle verdict evaluated
        have cases := Standing.evaluate_cases evaluated
        have counted := verdict.count_le
        refine publish_total (cases.sound ready.valid) (cases.valid ready.valid) built ?_ (by omega)
        exact cases.ticker_eq ▸ listed ticker (List.mem_cons_self ..)
      unfold resultsForTickers
      refine FailsOnly.bind ?_ fun answer evaluated => ?_
      · rw [evaluate_eq ready]
        refine FailsOnly.bind (evaluate_drifts ready.valid ready.legal built ticker) ?_
        rintro ⟨middle, verdict⟩ evaluated
        obtain ⟨r, answered⟩ := published middle verdict evaluated
        simp only [concluded, answered, ok_bind]
        exact failsOnly_pure _
      · obtain ⟨s', r⟩ := answer
        obtain ⟨middle, verdict, judged, first, rfl⟩ := (evaluate_eq_ok ready).mp evaluated
        have counted := verdict.count_le
        refine FailsOnly.bind ?_ fun _ _ => failsOnly_pure _
        refine ih (ready.evaluated (Standing.evaluate_cases judged) first)
          (fun t inside => listed t (List.mem_cons_of_mem _ inside)) ?_
        show s.decisionSequence + verdict.count + rest.length < integerBound
        omega

/-! ## Ingestion -/

/-- The session a planned answer comes from. -/
def carriedOut (ctx : Context) (s : SynchronizationSessionState) (planned : Standing × Plan) :
    Except ExpertError (SynchronizationSessionState × List SyncResult) :=
  match planned.2 with
  | .judge tickers => resultsForTickers ctx.pair.1 ctx.pair.2 ctx.now
      (putIn ctx s planned.1 s.decisionSequence) tickers
  | .withhold tickers reason => do
      let results ← collect (withheld ctx.pair.1.canonicalMatchId · reason) tickers
      pure (s, results)

theorem collect_map {ε α β : Type} {answer : α → Except ε β} {g : α → β} {items : List α}
    (each : ∀ a ∈ items, answer a = .ok (g a)) : collect answer items = .ok (items.map g) := by
  induction items with
  | nil => rfl
  | cons a rest ih =>
      have later := ih fun b inside => each b (List.mem_cons_of_mem _ inside)
      simp only [collect, each a (List.mem_cons_self ..), later, ok_bind]
      rfl

/-- An ingested standing keeps the emissions of its books. -/
theorem explain_emission (policy : SyncPolicy) (t : TennisState)
    (witness : Option CausalPointWitness) (c : BookSyncCursor) :
    (c.explain policy t witness).lastEmission = c.lastEmission := by
  unfold BookSyncCursor.explain
  split
  · split_ifs <;> rfl
  · rfl

theorem explainIn_emission (policy : SyncPolicy) (tc : TennisSyncCursor) (c : BookSyncCursor) :
    (c.explainIn policy tc).lastEmission = c.lastEmission := by
  unfold BookSyncCursor.explainIn
  split
  · rfl
  · exact explain_emission ..

theorem recordIfLarge_emission {policy : SyncPolicy} {tc : TennisSyncCursor}
    {c accepted recorded : BookSyncCursor} {r : BookTransitionResult}
    (checked : r.postInit = .ok ())
    (answer : recordIfLarge policy tc c accepted r = .ok recorded) :
    recorded.lastEmission = accepted.lastEmission := by
  unfold recordIfLarge at answer
  split_ifs at answer with large
  · obtain ⟨moves, -⟩ := largeMove_iff.mp large.2
    obtain ⟨-, rfl⟩ := recordMove_eq_ok (accepted_of_postInit checked moves) answer
    exact explainIn_emission ..
  · obtain rfl := (pure_eq_ok _ _).mp answer
    rfl

theorem sameEmissions_set {c recorded : BookSyncCursor} (found : std.book recorded.ticker = some c)
    (kept : recorded.lastEmission = c.lastEmission) : SameEmissions std (std.set recorded) := by
  intro ticker
  rw [Standing.set_book]
  split_ifs with here
  · rw [here, found]
    exact congrArg some kept
  · rfl

theorem sameEmissions_retennis {tc : TennisSyncCursor} {change : BookSyncCursor → BookSyncCursor}
    (kept : ∀ c, (change c).lastEmission = c.lastEmission) :
    SameEmissions std (std.retennis tc change) := by
  intro ticker
  simp only [Standing.retennis, Option.map_map]
  congr 1
  funext c
  exact kept c

theorem Ingested.emissions {evidence : SynchronizationInput} {plan : Plan}
    (ingested : Ingested ctx std evidence next plan) (valid : std.Valid ctx.pair)
    (input : evidence.Constructed) : SameEmissions std next := by
  cases ingested with
  | misbound | clock | unbound => exact fun _ => rfl
  | origin => exact sameEmissions_retennis fun _ => rfl
  | transition => exact sameEmissions_retennis fun c => explain_emission ..
  | market ticker cursor recorded event r stateSha256 inputSha256 about found fed computed state
      sealed records =>
      obtain ⟨-, sent⟩ := recomputedBook_eq_ok computed
      have checked := input.book r sent.symm
      have accepted := accepted_ok valid input about found computed state sealed
      have same := (recordIfLarge_ok accepted valid.tennis rfl checked.1 records).2
      have kept := recordIfLarge_emission checked.1 records
      refine sameEmissions_set (c := cursor) ?_ kept
      rw [same.ticker]
      exact (valid.ticker ticker cursor found) ▸ found
  | resnapshot ticker cursor book required stateSha256 inputSha256 about found =>
      exact sameEmissions_set (c := cursor) ((valid.ticker ticker cursor found) ▸ found) rfl

/-- The session with an ingested standing is ready for its verdicts. -/
theorem Ready.ingested (ready : Ready ctx s std) {evidence : SynchronizationInput} {plan : Plan}
    (ingested : Ingested ctx std evidence next plan) (input : evidence.Constructed) :
    Ready ctx (putIn ctx s next s.decisionSequence) next :=
  ready.put (ingested.valid ready.valid input) (ingested.legal ready.legal) ready.good.decisions
    (put_emitted_keep ready.good ready.stands (ingested.emissions ready.valid input))

/-! The constructors of an ingestion all accept. -/

/-- The session of an ingested standing, as the synchronizer builds it. -/
theorem session_ingested (ready : Ready ctx s std) {evidence : SynchronizationInput} {plan : Plan}
    (ingested : Ingested ctx std evidence next plan) (input : evidence.Constructed) :
    session (putIn ctx s next s.decisionSequence) = .ok (putIn ctx s next s.decisionSequence) :=
  session_eq_ok.mpr ⟨(ready.ingested ingested input).good, rfl⟩

theorem replaceTennis_eq {tc : TennisSyncCursor} (matchId : tc.canonicalMatchId = matchOf ctx.pair)
    (book : String → Option BookSyncCursor) :
    replaceTennis s.tennisCursors tc =
      s.tennisCursors.map (putTennis (matchOf ctx.pair) ⟨tc, book⟩) := by
  unfold replaceTennis putTennis
  rw [matchId]

/-- Changing the book cursors of the match is putting the standing with them back. -/
theorem collect_books (ready : Ready ctx s std) {tc : TennisSyncCursor}
    {change : BookSyncCursor → BookSyncCursor}
    {answer : BookSyncCursor → Except ExpertError BookSyncCursor}
    (other : ∀ c, c.canonicalMatchId ≠ matchOf ctx.pair → answer c = .ok c)
    (here : ∀ ticker c, std.book ticker = some c → answer c = .ok (change c)) :
    collect answer s.bookCursors =
      .ok (s.bookCursors.map (putBook (matchOf ctx.pair) (std.retennis tc change))) := by
  refine collect_map fun c inside => ?_
  unfold putBook
  split_ifs with matchId
  · have found := stands_book ready.good ready.stands inside matchId
    rw [here c.ticker c found]
    simp [Standing.retennis, found]
  · exact other c matchId

/-- New tennis and changed books of the match are the session with the standing put in. -/
theorem carried_retennis (ready : Ready ctx s std) {evidence : SynchronizationInput}
    {tc : TennisSyncCursor} {change : BookSyncCursor → BookSyncCursor}
    {answer : BookSyncCursor → Except ExpertError BookSyncCursor} {tickers : List String}
    (ingested : Ingested ctx std evidence (std.retennis tc change) (.judge tickers))
    (input : evidence.Constructed)
    (other : ∀ c, c.canonicalMatchId ≠ matchOf ctx.pair → answer c = .ok c)
    (here : ∀ ticker c, std.book ticker = some c → answer c = .ok (change c)) :
    (do
      let updatedCursor ← tennisCursor tc
      let updatedBooks ← collect answer s.bookCursors
      let updated ← session { s with
        tennisCursors := replaceTennis s.tennisCursors updatedCursor
        bookCursors := updatedBooks }
      resultsForTickers ctx.pair.1 ctx.pair.2 ctx.now updated tickers) =
      carriedOut ctx s (std.retennis tc change, .judge tickers) := by
  have tennis : TennisOk ctx.pair tc := (ingested.valid ready.valid input).tennis
  have cursor : tennisCursor tc = .ok tc := tennis.construct
  have books : collect answer s.bookCursors =
      .ok (s.bookCursors.map (putBook (matchOf ctx.pair) (std.retennis tc change))) :=
    collect_books ready other here
  have built := session_ingested ready ingested input
  rw [cursor, ok_bind, books, ok_bind,
    replaceTennis_eq tennis.matchId (std.retennis tc change).book]
  exact congrArg (· >>= fun updated =>
    resultsForTickers ctx.pair.1 ctx.pair.2 ctx.now updated tickers) built

theorem withFloor_total {tc tc' : TennisSyncCursor} {c : BookSyncCursor} {t : TennisState}
    (ok : BookOk ctx.pair tc c) (unset : tc.tennis = none) (tennis : tc'.tennis = some t)
    (good : t.postInit = .ok ()) :
    withFloor ctx.pair.1.canonicalMatchId t.correctionEpoch c = .ok (c.floored t.correctionEpoch) := by
  have floored := ok.floored unset tennis good
  unfold withFloor
  cases pending : c.pendingMove with
  | none =>
      refine congrArg Except.ok ?_
      unfold BookSyncCursor.floored
      rw [pending, Option.map_none, ← pending]
  | some p =>
      have here : c.canonicalMatchId = ctx.pair.1.canonicalMatchId := ok.matchId
      have unfloored := (ok.fits.alone unset).floor p pending
      have same : p.floored t.correctionEpoch =
          { p with tennisCorrectionEpochFloor := some t.correctionEpoch } := by
        simp [PendingBookMove.floored, unfloored]
      obtain ⟨b, holds⟩ := ok.pending_book pending
      have constructed := ((floored.holding holds).pending (p.floored t.correctionEpoch)
        (by simp [BookSyncCursor.floored, pending])).constructed
      have cursor := floored.construct
      simp only [BookSyncCursor.floored, pending, Option.map_some] at cursor ⊢
      rw [if_pos ⟨here, unfloored⟩]
      rw [same] at constructed cursor ⊢
      simp only [pendingBookMove, constructed, ok_bind, pure_bind]
      exact cursor

theorem explainPending_total {pair : MatchBinding × BindingMetadata} {tc : TennisSyncCursor}
    {c : BookSyncCursor} {policy : SyncPolicy} {t : TennisState}
    {witness : Option CausalPointWitness} (ok : BookOk pair tc c) (tennis : tc.tennis = some t)
    (current : ∀ w, witness = some w → CurrentPoint c.canonicalMatchId t w) :
    explainPending c witness (some t) policy = .ok (c.explain policy t witness) := by
  unfold explainPending BookSyncCursor.explain
  cases pending : c.pendingMove with
  | none => rfl
  | some p =>
      cases present : witness with
      | none => rfl
      | some w =>
          show (if _ then _ else _) = Except.ok (if _ then _ else _)
          split_ifs with explained
          · obtain ⟨b, holds⟩ := ok.pending_book pending
            exact (ok.explainedBy tennis holds (current w present)).construct
          · rfl

theorem afterTennis_total {tc tc' : TennisSyncCursor} {c : BookSyncCursor} {policy : SyncPolicy}
    {prior : TennisState} {event : ProviderEvent} {r : TennisTransitionResult}
    {point : Option CausalPointWitness} (ok : BookOk ctx.pair tc c) (held : tc.tennis = some prior)
    (tennis : tc'.tennis = some r.state) (advance : ProviderAdvance prior event r)
    (witness : pointWitness ctx.pair.1.canonicalMatchId event r = .ok point) :
    afterTennis ctx.pair.1.canonicalMatchId (appliedCorrection event r) point r.state policy c =
      .ok (c.afterTennis policy (appliedCorrection event r) point r.state) := by
  have here : c.canonicalMatchId = ctx.pair.1.canonicalMatchId := ok.matchId
  have forgotten := ok.forget held tennis advance
  have built := forgotten.construct
  unfold BookSyncCursor.forget at built
  unfold afterTennis
  rw [if_neg (not_not.mpr here), built]
  refine (explainPending_total forgotten tennis fun w present => ?_ :)
  show CurrentPoint c.canonicalMatchId r.state w
  rw [here]
  exact pointWitness_current advance witness present

theorem selectedTennis (ready : Ready ctx s std) :
    selectedTennisCursor s ctx.pair.1.canonicalMatchId = .ok std.tennis := by
  rw [selectedTennisCursor_eq ready.good]
  exact congrArg required ready.stands.tennis

theorem selectedBook (ready : Ready ctx s std) (ticker : String) :
    selectedBookCursor s ctx.pair.1.canonicalMatchId ticker = required (std.book ticker) := by
  rw [selectedBookCursor_eq ready.good]
  exact congrArg required (ready.stands.book ticker)

variable {evidence : SynchronizationInput}

theorem origin_eq (ready : Ready ctx s std) (input : evidence.Constructed) :
    ingestTennisOrigin s ctx.pair.1 ctx.pair.2 evidence ctx.now =
      (do let planned ← std.origin ctx evidence; carriedOut ctx s planned) := by
  unfold ingestTennisOrigin Standing.origin
  simp only [selectedTennis ready, ok_bind, bind_assoc]
  refine bind_congr_ok fun _ unset => ?_
  have unset : std.tennis.tennis = none := by simpa using unset
  cases provider : evidence.providerEvent with
  | none => rfl
  | some event =>
      cases event with
      | point _ => rfl
      | lifecycle _ => rfl
      | snapshot event =>
          simp only [bind_assoc]
          refine bind_congr_ok fun _ _ => ?_
          show (originOf event >>= _) = _
          refine bind_congr_ok fun t computed => ?_
          split_ifs with drifts
          · rfl
          · simp only [bind_assoc, pure_bind]
            refine bind_congr_ok fun inputSha256 sealed => ?_
            refine bind_congr_ok fun stateSha256 state => ?_
            have ingested : Ingested ctx std evidence _ _ := .origin event t stateSha256 inputSha256
              unset provider computed (by simpa using drifts) state sealed
            refine carried_retennis ready ingested input ?_ ?_
            · intro c other
              unfold withFloor
              cases c.pendingMove with
              | none => rfl
              | some p => exact if_neg fun both => other both.1
            · intro ticker c found
              have held : (std.tennis.hold t stateSha256 inputSha256 none).tennis = some t := rfl
              exact withFloor_total (ready.valid.book ticker c found) unset held
                (originOf_eq_ok computed).1

theorem transition_eq (ready : Ready ctx s std) (input : evidence.Constructed) :
    ingestTennisTransition s ctx.pair.1 ctx.pair.2 evidence ctx.now =
      (do let planned ← std.transition ctx evidence; carriedOut ctx s planned) := by
  unfold ingestTennisTransition Standing.transition
  have policy : s.policy = ctx.frame.policy := by rw [ready.of.frame]
  simp only [selectedTennis ready, ok_bind, policy]
  cases held : std.tennis.tennis with
  | none => rfl
  | some prior =>
      cases provider : evidence.providerEvent with
      | none => rfl
      | some event =>
          simp only [bind_assoc, pure_bind]
          refine bind_congr_ok fun _ previous => ?_
          have previous : evidence.previousStateSha256 = std.tennis.lastStateSha256 := by
            simpa using previous
          show (recomputedTennis prior event evidence.tennisTransition >>= _) = _
          refine bind_congr_ok fun r computed => ?_
          refine bind_congr_ok fun point witness => ?_
          refine bind_congr_ok fun stateSha256 state => ?_
          refine bind_congr_ok fun inputSha256 sealed => ?_
          have ingested : Ingested ctx std evidence _ _ := .transition prior event r point
            stateSha256 inputSha256 held provider previous computed witness state sealed
          refine carried_retennis ready ingested input ?_ ?_
          · intro c other
            exact if_pos other
          · intro ticker c found
            have advance := applyProviderEvent_advance (recomputedTennis_eq_ok computed).1
            have holds : (std.tennis.hold r.state stateSha256 inputSha256
              (lastPoint (appliedCorrection event r) point std.tennis.lastPointWitness)).tennis =
                some r.state := rfl
            exact afterTennis_total (ready.valid.book ticker c found) held holds advance witness

/-- A replaced book cursor is the session with the standing put in. -/
theorem carried_set (ready : Ready ctx s std) {c : BookSyncCursor} {ticker : String}
    (ingested : Ingested ctx std evidence (std.set c) (.judge [ticker]))
    (input : evidence.Constructed) :
    (do
      let updated ← replaceBookCursor s c
      resultsForTickers ctx.pair.1 ctx.pair.2 ctx.now updated [ticker]) =
      carriedOut ctx s (std.set c, .judge [ticker]) := by
  have ok := (ingested.valid ready.valid input).book c.ticker c (Standing.set_self std c)
  have built := session_ingested ready ingested input
  unfold replaceBookCursor
  have put := put_set ready.good ready.stands ok.matchId s.decisionSequence
  exact congrArg (· >>= fun updated =>
    resultsForTickers ctx.pair.1 ctx.pair.2 ctx.now updated [ticker])
    ((congrArg session put).trans built)

theorem market_eq (ready : Ready ctx s std) (input : evidence.Constructed) {ticker : String}
    (about : evidence.ticker = some ticker) :
    ingestBookTransition s ctx.pair.1 ctx.pair.2 evidence ticker ctx.now =
      (do let planned ← std.market ctx evidence ticker; carriedOut ctx s planned) := by
  unfold ingestBookTransition Standing.market
  have policy : s.policy = ctx.frame.policy := by rw [ready.of.frame]
  simp only [selectedBook ready, selectedTennis ready, ok_bind, bind_assoc, policy]
  refine bind_congr_ok fun cursor found => ?_
  have found := required_eq_ok.mp found
  cases fed : evidence.bookEvent with
  | none => rfl
  | some event =>
      simp only [bind_assoc, pure_bind]
      show (recomputedBook cursor evidence.previousStateSha256 event evidence.bookTransition >>= _)
        = _
      refine bind_congr_ok fun r computed => ?_
      refine bind_congr_ok fun stateSha256 state => ?_
      refine bind_congr_ok fun inputSha256 sealed => ?_
      have accepted := (accepted_ok ready.valid input about found computed state sealed).construct
      unfold BookSyncCursor.hold at accepted ⊢
      rw [accepted, ok_bind]
      refine bind_congr_ok fun recorded records => ?_
      exact carried_set ready (.market ticker cursor recorded event r stateSha256 inputSha256 about
        found fed computed state sealed records) input

theorem resnapshot_eq (ready : Ready ctx s std) (input : evidence.Constructed) {ticker : String}
    (about : evidence.ticker = some ticker) :
    ingestResnapshotRequired s ctx.pair.1 ctx.pair.2 evidence ticker ctx.now =
      (do let planned ← std.resnapshot evidence ticker; carriedOut ctx s planned) := by
  unfold ingestResnapshotRequired Standing.resnapshot
  simp only [selectedBook ready, bind_assoc]
  refine bind_congr_ok fun cursor found => ?_
  have found := required_eq_ok.mp found
  cases held : cursor.book with
  | none => rfl
  | some book =>
      simp only [bind_assoc, pure_bind]
      refine bind_congr_ok fun _ _ => ?_
      refine bind_congr_ok fun needed computed => ?_
      refine bind_congr_ok fun _ sent => ?_
      refine bind_congr_ok fun stateSha256 state => ?_
      refine bind_congr_ok fun inputSha256 sealed => ?_
      have ingested : Ingested ctx std evidence _ _ := .resnapshot ticker cursor book needed
        stateSha256 inputSha256 about found held ((recover_eq_ok ..).mp computed)
        (by simpa using sent) state sealed
      have built := ((ingested.valid ready.valid input).book _ _ (Standing.set_self ..)).construct
      unfold BookSyncCursor.hold at built ⊢
      rw [built, ok_bind]
      exact carried_set ready ingested input

/-- Ingesting an input in a session is ingesting it in the standing of its match. -/
theorem ingest_eq (ready : Ready ctx s std) (input : evidence.Constructed) :
    ingest s ctx.pair.1 ctx.pair.2 evidence ctx.now =
      (do let planned ← std.ingest ctx evidence; carriedOut ctx s planned) := by
  have judged : ∀ tickers, resultsForTickers ctx.pair.1 ctx.pair.2 ctx.now s tickers =
      carriedOut ctx s (std, .judge tickers) := fun tickers =>
    congrArg (resultsForTickers ctx.pair.1 ctx.pair.2 ctx.now · tickers)
      (put_self ready.good ready.stands).symm
  have refused : ∀ ticker, (do
      let result ← withheld ctx.pair.1.canonicalMatchId ticker .contractMismatch
      pure (s, [result])) = carriedOut ctx s (std, .withhold [ticker] .contractMismatch) := by
    intro ticker
    simp only [carriedOut, collect, bind_assoc, pure_bind, ok_bind]
  unfold ingest Standing.ingest
  cases kind : evidence.kind with
  | tennisOrigin => exact origin_eq ready input
  | tennisTransition => exact transition_eq ready input
  | bookTransition =>
      cases about : evidence.ticker with
      | none => rfl
      | some ticker =>
          simp only
          split_ifs with unbound
          · exact refused ticker
          · exact market_eq ready input about
  | bookResnapshotRequired =>
      cases about : evidence.ticker with
      | none => rfl
      | some ticker =>
          simp only
          split_ifs with unbound
          · exact refused ticker
          · exact resnapshot_eq ready input about
  | clock =>
      cases about : evidence.ticker with
      | none => rfl
      | some ticker =>
          simp only
          split_ifs with unbound
          · exact refused ticker
          · exact judged [ticker]

end Inci.Sync
