/-
# Sync.Emissions -- what a run emits, and that it emits nothing twice

Only the last emission of a market is remembered.  Its position never goes back,
and a new emission has a position after it (`Evaluated.emits`), so the positions
of all emissions of a market are distinct over a whole run.
-/
import Inci.Market.Reconstruction
import Inci.Sync.Opening
import Inci.Tennis.Delivery

namespace Inci.Sync

open Inci.Theory Inci.Expert Inci.Tennis Inci.Market Inci.Binding

set_option autoImplicit false

variable {s s' : SynchronizationSessionState} {evidence : SynchronizationInput}
  {now : PairedTimeObservation} {ctx : Context} {std next last : Standing} {ticker : String}

/-! ## Runs -/

structure SyncCall where
  evidence : SynchronizationInput
  now : PairedTimeObservation

/-- The session and the results after a call; one that raises leaves the session. -/
def SynchronizationSessionState.call (s : SynchronizationSessionState) (c : SyncCall) :
    SynchronizationSessionState × List SyncResult :=
  match synchronize s c.evidence c.now with
  | .ok t => (t.state, t.results)
  | .error _ => (s, [])

/-- The session after the calls, and all their results. -/
def SynchronizationSessionState.calls (s : SynchronizationSessionState) :
    List SyncCall → SynchronizationSessionState × List SyncResult
  | [] => (s, [])
  | c :: rest =>
      let answered := s.call c
      let later := SynchronizationSessionState.calls answered.1 rest
      (later.1, answered.2 ++ later.2)

/-! ## Positions -/

/-- A provider coordinate and a book coordinate, compared one by one. -/
abbrev Position := Coordinates × Coordinates

def Agreement.position (a : Agreement) : Position :=
  (tennisCoordinates a.tennis, bookCoordinates a.book)

def LastSyncEmission.position (e : LastSyncEmission) : Position := (e.provider, e.book)

def TrustedSnapshot.position (snapshot : TrustedSnapshot) : Position :=
  (tennisCoordinates snapshot.tennis, bookCoordinates snapshot.book)

/-- The last emission the standing remembers for a market. -/
def Standing.emissionAt (std : Standing) (ticker : String) : Option LastSyncEmission :=
  (std.book ticker).bind BookSyncCursor.lastEmission

theorem emissionAt_join (std : Standing) (ticker : String) :
    std.emissionAt ticker = ((std.book ticker).map BookSyncCursor.lastEmission).join := by
  unfold Standing.emissionAt
  cases std.book ticker <;> rfl

theorem SameEmissions.emissionAt (same : SameEmissions std next) (ticker : String) :
    next.emissionAt ticker = std.emissionAt ticker := by
  rw [emissionAt_join, emissionAt_join, same ticker]

/-- A new emission is remembered, and comes after the one remembered before. -/
structure Emits (std next : Standing) (ticker : String) (a : Agreement) : Prop where
  remembered : ∃ e, next.emissionAt ticker = some e ∧ e.position = a.position
  after : ∀ e, std.emissionAt ticker = some e → e.position < a.position

theorem emissionOf_position (sealed : String) (t : TennisState) (b : BookState) :
    (emissionOf sealed t b).position = (tennisCoordinates t, bookCoordinates b) := rfl

theorem Evaluated.emits {verdict : Verdict} (evaluated : Evaluated ctx std ticker next verdict)
    (valid : std.Valid ctx.pair) {a : Agreement} (trusted : verdict.agreement = some a) :
    Emits std next ticker a := by
  cases evaluated with
  | withheld => cases trusted
  | emitted t b c sealed found tennis book clear computed fresh =>
      obtain rfl := Option.some.inj trusted
      have ok := valid.book ticker c found
      have key : c.ticker = ticker := valid.ticker ticker c found
      refine ⟨⟨emissionOf sealed t b, ?_, emissionOf_position ..⟩, ?_⟩
      · have here : (std.set (c.emit sealed t b)).book ticker = some (c.emit sealed t b) :=
          if_pos key.symm
        rw [Standing.emissionAt, here]
        rfl
      · intro e before
        rw [Standing.emissionAt, found] at before
        have before : c.lastEmission = some e := before
        obtain ⟨provider, semantic⟩ := (ok.fits.against t tennis).emission e before
        have books := ((ok.holding book).emission e before).2
        refine lt_of_le_of_ne ⟨provider, books⟩ fun same => ?_
        obtain ⟨sameProvider, sameBook⟩ := Prod.mk.inj same
        have repeated : alreadyEmitted e t b = true := decide_eq_true
          ⟨sameProvider.symm, (semantic sameProvider).symm, sameBook.symm⟩
        rw [fresh e before] at repeated
        cases repeated

theorem Evaluated.emission_keep {verdict : Verdict}
    (evaluated : Evaluated ctx std ticker next verdict) (untrusted : verdict.agreement = none) :
    next = std := by
  cases evaluated with
  | withheld => rfl
  | emitted => cases untrusted

theorem Evaluated.emissionAt_other {verdict : Verdict}
    (evaluated : Evaluated ctx std ticker next verdict) (valid : std.Valid ctx.pair)
    {other : String} (different : other ≠ ticker) :
    next.emissionAt other = std.emissionAt other := by
  rw [Standing.emissionAt, evaluated.other valid different, Standing.emissionAt]

/-- What a list of verdicts does to the remembered emissions. -/
structure Remembers (std last : Standing) (verdicts : List Verdict) : Prop where
  emits : ∀ verdict ∈ verdicts, ∀ a, verdict.agreement = some a →
    Emits std last verdict.ticker a
  kept : ∀ ticker, (∀ verdict ∈ verdicts, verdict.ticker = ticker → verdict.agreement = none) →
    last.emissionAt ticker = std.emissionAt ticker

theorem Emits.of_same {before : Standing} {a : Agreement} (emits : Emits std last ticker a)
    (same : before.emissionAt ticker = std.emissionAt ticker) : Emits before last ticker a :=
  ⟨emits.remembered, fun e here => emits.after e (same ▸ here)⟩

theorem Emits.then_same {after : Standing} {a : Agreement} (emits : Emits std last ticker a)
    (same : after.emissionAt ticker = last.emissionAt ticker) : Emits std after ticker a :=
  ⟨same ▸ emits.remembered, emits.after⟩

theorem verdicts_tickers {tickers : List String} {verdicts : List Verdict}
    (answer : std.verdicts ctx tickers = .ok (last, verdicts)) :
    verdicts.map Verdict.ticker = tickers := by
  induction tickers generalizing std verdicts with
  | nil =>
      obtain ⟨-, rfl⟩ := Standing.verdicts_nil answer
      rfl
  | cons ticker rest ih =>
      obtain ⟨middle, verdict, others, evaluated, later, rfl⟩ := Standing.verdicts_cons answer
      rw [List.map_cons, ih later, evaluated.ticker_eq]

theorem verdicts_remembers {tickers : List String} {verdicts : List Verdict}
    (answer : std.verdicts ctx tickers = .ok (last, verdicts)) (valid : std.Valid ctx.pair)
    (distinct : tickers.Nodup) : Remembers std last verdicts := by
  induction tickers generalizing std verdicts with
  | nil =>
      obtain ⟨rfl, rfl⟩ := Standing.verdicts_nil answer
      exact ⟨fun _ member => (nomatch member), fun _ _ => rfl⟩
  | cons ticker rest ih =>
      obtain ⟨fresh, distinct⟩ := List.nodup_cons.mp distinct
      obtain ⟨middle, verdict, others, evaluated, later, rfl⟩ := Standing.verdicts_cons answer
      have rest_tickers : others.map Verdict.ticker = rest := verdicts_tickers later
      have remembers := ih later (evaluated.valid valid) distinct
      have key := evaluated.ticker_eq
      have absent : ∀ v ∈ others, v.ticker ≠ ticker := by
        intro v inside same
        exact fresh (rest_tickers ▸ same ▸ List.mem_map_of_mem inside)
      refine ⟨?_, ?_⟩
      · intro v member a trusted
        rcases List.mem_cons.mp member with rfl | inside
        · rw [key]
          refine (evaluated.emits valid trusted).then_same (remembers.kept ticker ?_)
          exact fun v inside same => absurd same (absent v inside)
        · exact (remembers.emits v inside a trusted).of_same
            (evaluated.emissionAt_other valid (absent v inside)).symm
      · intro market untrusted
        rw [remembers.kept market fun v inside => untrusted v (List.mem_cons_of_mem _ inside)]
        by_cases here : market = ticker
        · rw [evaluated.emission_keep (untrusted verdict (List.mem_cons_self ..) (key.trans here.symm))]
        · exact evaluated.emissionAt_other valid here

theorem react_remembers {verdicts : List Verdict}
    (answer : std.react ctx evidence = .ok (last, verdicts)) (valid : std.Valid ctx.pair)
    (input : evidence.Constructed)
    (distinct : ctx.pair.1.homeMarketTicker ≠ ctx.pair.1.awayMarketTicker) :
    Remembers std last verdicts := by
  simp only [Standing.react, bind_eq_ok, Prod.exists] at answer
  obtain ⟨next, plan, ingests, answer⟩ := answer
  have ingested := Standing.ingest_cases ingests
  have subjects := ingest_subjects ingests
  have same := ingested.emissions valid input
  cases planned : plan with
  | judge tickers =>
      rw [planned] at answer subjects
      have subjects : tickers = evidence.subjects ctx.pair.1 := subjects
      have remembers := verdicts_remembers answer (ingested.valid valid input)
        (subjects ▸ subjects_nodup distinct)
      refine ⟨fun v member a trusted => ?_, fun ticker untrusted => ?_⟩
      · exact (remembers.emits v member a trusted).of_same (same.emissionAt v.ticker).symm
      · rw [remembers.kept ticker untrusted, same.emissionAt]
  | withhold tickers reason =>
      rw [planned] at answer
      obtain ⟨rfl, rfl⟩ := Prod.mk.inj ((pure_eq_ok _ _).mp answer)
      refine ⟨fun v member a trusted => ?_, fun ticker _ => same.emissionAt ticker⟩
      obtain ⟨_, -, rfl⟩ := List.mem_map.mp member
      cases trusted

/-! ## Runs emit nothing twice -/

/-- Where a result was emitted: its market and the coordinates of both states. -/
def SyncResult.emittedAt (r : SyncResult) : String × String × Option (Nat × Nat × Nat × Nat) :=
  (r.canonicalMatchId, r.ticker, r.snapshot.map fun snapshot =>
    (snapshot.tennis.correctionEpoch, snapshot.tennis.revision, snapshot.book.connectionEpoch,
      snapshot.book.sequence))

/-- The last emission the session remembers for a market. -/
def SynchronizationSessionState.emissionAt (s : SynchronizationSessionState)
    (matchId ticker : String) : Option LastSyncEmission :=
  (s.bookAt matchId ticker).bind BookSyncCursor.lastEmission

/-- The trusted results so far: numbered, distinct, none after what is remembered. -/
structure Emitted (s : SynchronizationSessionState) (results : List SyncResult) : Prop where
  numbers : results.filterMap (fun r => r.snapshot.map TrustedSnapshot.decisionSequence) =
    List.range' 1 results.length
  count : results.length = s.decisionSequence
  distinct : (results.map SyncResult.emittedAt).Nodup
  remembered : ∀ r ∈ results, ∃ snapshot, r.snapshot = some snapshot ∧
    ∃ e, s.emissionAt r.canonicalMatchId r.ticker = some e ∧ snapshot.position ≤ e.position

theorem transition_eq_ok {rs : List SyncResult} {t : SynchronizationTransitionResult}
    (recorded : transition s s' evidence now rs = .ok t) : t.state = s' ∧ t.results = rs := by
  simp only [transition, bind_eq_ok, exists_unit, pure_eq_ok] at recorded
  obtain ⟨_, -, _, -, -, rfl⟩ := recorded
  exact ⟨rfl, rfl⟩

/-- The session after an admitted call, with the verdicts its results publish. -/
structure Advanced (s : SynchronizationSessionState) (ctx : Context) (std last : Standing)
    (verdicts : List Verdict) (t : SynchronizationTransitionResult) : Prop where
  remembers : Remembers std last verdicts
  sound : ∀ verdict ∈ verdicts, verdict.Sound ctx last
  distinct : (verdicts.map Verdict.ticker).Nodup
  published : PublishedAll ctx s.decisionSequence verdicts t.results
  valid : last.Valid ctx.pair
  state : t.state = putIn ctx (s.observe ctx.now) last (s.decisionSequence + emissions verdicts)

theorem Admitted.advanced (admitted : Admitted s evidence now ctx std)
    {t : SynchronizationTransitionResult} (answer : synchronize s evidence now = .ok t) :
    ∃ last verdicts, std.react ctx evidence = .ok (last, verdicts) ∧
      Advanced s ctx std last verdicts t := by
  obtain ⟨last, verdicts, rs, reacts, published, recorded⟩ := admitted.synchronize_eq_ok.mp answer
  obtain ⟨state, results⟩ := transition_eq_ok recorded
  have reacted := react_reacted reacts admitted.ready.valid admitted.ready.legal
    admitted.constructed admitted.distinct
  refine ⟨last, verdicts, reacts, react_remembers reacts admitted.ready.valid admitted.constructed
    admitted.distinct, reacted.sound, reacted.subjects ▸ subjects_nodup admitted.distinct, ?_,
    reacted.valid, admitted.clock ▸ state⟩
  exact results ▸ publishAll_published published

namespace Advanced

variable {verdicts : List Verdict} {t : SynchronizationTransitionResult}
  (advanced : Advanced s ctx std last verdicts t) (admitted : Admitted s evidence now ctx std)
include advanced

/-- What is remembered for the markets of other matches stays. -/
theorem emissionAt_other {matchId : String} (other : matchId ≠ matchOf ctx.pair)
    (ticker : String) : t.state.emissionAt matchId ticker = s.emissionAt matchId ticker := by
  unfold SynchronizationSessionState.emissionAt
  rw [advanced.state, (advanced.valid.put_other _ _ other).2 ticker]
  rfl

include admitted

theorem emissionAt_here (ticker : String) :
    t.state.emissionAt (matchOf ctx.pair) ticker = last.emissionAt ticker := by
  have observed : (s.observe ctx.now).Constructed := admitted.clock ▸ admitted.observed
  have stands := advanced.valid.put_stands (s.decisionSequence + emissions verdicts) observed
    admitted.member
  unfold SynchronizationSessionState.emissionAt Standing.emissionAt
  rw [advanced.state, stands.book ticker]

omit advanced in
theorem emissionAt_before (ticker : String) :
    s.emissionAt (matchOf ctx.pair) ticker = std.emissionAt ticker := by
  unfold SynchronizationSessionState.emissionAt Standing.emissionAt
  rw [admitted.stands.book ticker]

omit admitted in
/-- What a trusted result of the call is. -/
theorem of_trusted {r : SyncResult} (trusted : r ∈ trustedResults t.results) :
    r.canonicalMatchId = matchOf ctx.pair ∧ ∃ snapshot a, r.snapshot = some snapshot ∧
      snapshot.position = a.position ∧ Emits std last r.ticker a := by
  obtain ⟨inside, reason⟩ := List.mem_filter.mp trusted
  obtain ⟨k, verdict, judged, here⟩ := mem_published advanced.published inside
  have reason : verdict.reason = .trustedSynchronized :=
    here.reason.symm.trans (of_decide_eq_true reason)
  obtain ⟨a, agreement⟩ := Option.isSome_iff_exists.mp
    ((sound_reason (advanced.sound verdict judged)).mp reason)
  refine ⟨here.matchId, a.snapshot ctx (k + 1), a, ?_, rfl, ?_⟩
  · rw [here.snapshot, agreement]
    rfl
  · exact here.ticker ▸ advanced.remembers.emits verdict judged a agreement

/-- What was remembered of a market is not after what is remembered now. -/
theorem emissionAt_later {matchId ticker : String} {e : LastSyncEmission}
    (before : s.emissionAt matchId ticker = some e) :
    ∃ e', t.state.emissionAt matchId ticker = some e' ∧ e.position ≤ e'.position := by
  by_cases here : matchId = matchOf ctx.pair
  · subst here
    rw [advanced.emissionAt_here admitted]
    rw [emissionAt_before admitted] at before
    by_cases emitted : ∀ v ∈ verdicts, v.ticker = ticker → v.agreement = none
    · exact ⟨e, (advanced.remembers.kept ticker emitted).trans before, le_rfl⟩
    · simp only [not_forall] at emitted
      obtain ⟨v, judged, rfl, trusted⟩ := emitted
      obtain ⟨a, agreement⟩ := Option.ne_none_iff_exists'.mp trusted
      have emits := advanced.remembers.emits v judged a agreement
      obtain ⟨e', remembered, position⟩ := emits.remembered
      exact ⟨e', remembered, position ▸ (emits.after e before).le⟩
  · exact ⟨e, (advanced.emissionAt_other here ticker).trans before, le_rfl⟩

end Advanced

theorem emittedAt_position {r r' : SyncResult} {snapshot snapshot' : TrustedSnapshot}
    (same : r.emittedAt = r'.emittedAt) (here : r.snapshot = some snapshot)
    (there : r'.snapshot = some snapshot') : snapshot.position = snapshot'.position := by
  simp only [SyncResult.emittedAt, here, there, Option.map_some, Prod.mk.injEq,
    Option.some.injEq] at same
  obtain ⟨-, -, epoch, revision, connection, sequence⟩ := same
  simp [TrustedSnapshot.position, tennisCoordinates, bookCoordinates, epoch, revision, connection,
    sequence]

/-- A call keeps the emissions of a run numbered and distinct. -/
theorem Emitted.step {results : List SyncResult} {t : SynchronizationTransitionResult}
    (emitted : Emitted s results) (answer : synchronize s evidence now = .ok t) :
    Emitted t.state (results ++ trustedResults t.results) := by
  obtain ⟨ctx, std, admitted⟩ := admitted_of_ok answer
  obtain ⟨last, verdicts, -, advanced⟩ := admitted.advanced answer
  obtain ⟨length, numbers⟩ := trusted_numbered advanced.published advanced.sound
  have sequence : t.state.decisionSequence = s.decisionSequence + emissions verdicts := by
    rw [advanced.state]
    rfl
  refine ⟨?_, ?_, ?_, ?_⟩
  · rw [List.filterMap_append, emitted.numbers, numbers, List.length_append, length,
      ← emitted.count, Nat.add_comm results.length 1, List.range'_append_1]
  · rw [List.length_append, length, emitted.count, sequence]
  · rw [List.map_append, List.nodup_append']
    refine ⟨emitted.distinct, ?_, ?_⟩
    · have tickers : ((trustedResults t.results).map SyncResult.ticker).Nodup := by
        have all := advanced.distinct
        rw [← published_tickers advanced.published] at all
        exact all.sublist (List.filter_sublist.map _)
      refine List.Nodup.of_map (fun at_ => at_.2.1) ?_
      rw [List.map_map]
      exact tickers
    · intro key before now
      obtain ⟨r, old, rfl⟩ := List.mem_map.mp before
      obtain ⟨r', fresh, same⟩ := List.mem_map.mp now
      obtain ⟨snapshot, present, e, remembered, position⟩ := emitted.remembered r old
      obtain ⟨matchId, snapshot', a, present', agreed, emits⟩ :=
        advanced.of_trusted fresh
      have markets := congrArg (fun at_ => (at_.1, at_.2.1)) same
      simp only [SyncResult.emittedAt, Prod.mk.injEq] at markets
      rw [← markets.1, ← markets.2, matchId, Advanced.emissionAt_before admitted] at remembered
      have after := emits.after e remembered
      rw [← agreed, emittedAt_position same present' present] at after
      exact absurd (lt_of_le_of_lt position after) (lt_irrefl _)
  · intro r member
    rcases List.mem_append.mp member with old | fresh
    · obtain ⟨snapshot, present, e, remembered, position⟩ := emitted.remembered r old
      obtain ⟨e', remembered', later⟩ := advanced.emissionAt_later admitted remembered
      exact ⟨snapshot, present, e', remembered', position.trans later⟩
    · obtain ⟨matchId, snapshot, a, present, agreed, emits⟩ := advanced.of_trusted fresh
      obtain ⟨e, remembered, position⟩ := emits.remembered
      refine ⟨snapshot, present, e, ?_, ?_⟩
      · rw [matchId, advanced.emissionAt_here admitted, remembered]
      · rw [agreed, position]

theorem Emitted.calls {results : List SyncResult} (emitted : Emitted s results)
    (calls : List SyncCall) :
    Emitted (s.calls calls).1 (results ++ trustedResults (s.calls calls).2) := by
  induction calls generalizing s results with
  | nil => simpa [SynchronizationSessionState.calls, trustedResults] using emitted
  | cons c rest ih =>
      have step : Emitted (s.call c).1 (results ++ trustedResults (s.call c).2) := by
        unfold SynchronizationSessionState.call
        cases answer : synchronize s c.evidence c.now with
        | ok t => exact emitted.step answer
        | error e => simpa [trustedResults] using emitted
      have later := ih step
      rw [List.append_assoc] at later
      simpa only [SynchronizationSessionState.calls, trustedResults, List.filter_append] using later

/-- Nothing is emitted before the first call. -/
theorem Emitted.first {u : BindingUniverse} {policy : SyncPolicy}
    (started : synchronizationSessionFromArtifacts u policy = .ok s) : Emitted s [] := by
  have unused : s.decisionSequence = 0 := by
    simp only [synchronizationSessionFromArtifacts, bind_eq_ok, session_eq_ok] at started
    obtain ⟨_, -, -, -, -, -, _, -, _, -, _, -, _, -, -, rfl⟩ := started
    rfl
  exact ⟨rfl, unused.symm, List.nodup_nil, fun _ member => absurd member List.not_mem_nil⟩

/-- Over every run the trusted results are numbered 1, 2, 3, …, and no market gets two
with the same coordinates. -/
theorem no_duplicate_opportunity {u : BindingUniverse} {policy : SyncPolicy}
    (started : synchronizationSessionFromArtifacts u policy = .ok s) (calls : List SyncCall) :
    (trustedResults (s.calls calls).2).filterMap
        (fun r => r.snapshot.map TrustedSnapshot.decisionSequence) =
        List.range' 1 (trustedResults (s.calls calls).2).length ∧
      ((trustedResults (s.calls calls).2).map SyncResult.emittedAt).Nodup := by
  have emitted := (Emitted.first started).calls calls
  exact ⟨emitted.numbers, emitted.distinct⟩

/-- The first snapshot of the first match. -/
def firstScore : ProviderSnapshot :=
  { openingSnapshot with
    providerSourceId := "provider"
    revisionDomainId := "points"
    sourceLineageSha256 := blankSha256
    providerMatchId := "pm-1"
    homePlayerId := "ph-1"
    awayPlayerId := "pa-1"
    scheduledStartWallNs := 10 }

def scoreInput : SynchronizationInput :=
  { clockInput "match-1" "EV-1-H" with
    kind := .tennisOrigin
    ticker := none
    providerEvent := some (.snapshot firstScore) }

def bookInput (ticker : String) : SynchronizationInput :=
  let event : BookSnapshot :=
    { openingBook with
      ticker
      scheduledCloseWallNs := 1000
      yesBids := [⟨openingDelta.price, 1⟩] }
  { clockInput "match-1" ticker with
    kind := .bookTransition
    bookEvent := some (.snapshot event)
    bookTransition := (bookFromSnapshot event).toOption }

/-- The score of a match, its two books and a clock call. -/
def emittingCalls : List SyncCall :=
  [scoreInput, bookInput "EV-1-H", bookInput "EV-1-A", clockInput "match-1" "EV-1-H"].map
    (⟨·, openingNow⟩)

theorem no_duplicate_opportunity_opening :
    (trustedResults (opening.calls emittingCalls).2).filterMap
        (fun r => r.snapshot.map TrustedSnapshot.decisionSequence) =
        List.range' 1 (trustedResults (opening.calls emittingCalls).2).length ∧
      ((trustedResults (opening.calls emittingCalls).2).map SyncResult.emittedAt).Nodup :=
  no_duplicate_opportunity opening_of_artifacts _

end Inci.Sync
