/-
# Sync.Rounds -- one whole call of the synchronizer

A call that is admitted reads one match, ingests the input in its standing, judges
its markets and publishes the verdicts; nothing else of the session takes part.
`synchronize_eq` says so for a whole call, and `transition_total` that the final
record of a call never fails.
-/
import Inci.Sync.Step

namespace Inci.Sync

open Inci.Theory Inci.Expert Inci.Tennis Inci.Market Inci.Binding

set_option autoImplicit false

variable {s s' : SynchronizationSessionState} {evidence : SynchronizationInput}
  {now : PairedTimeObservation} {ctx : Context} {std next last : Standing}

/-! ## Admission -/

/-- The session that carries the observation. -/
abbrev SynchronizationSessionState.observe (s : SynchronizationSessionState)
    (now : PairedTimeObservation) : SynchronizationSessionState :=
  { s with lastObservation := some now }

/-- The call is admitted, and is about this match. -/
structure Admitted (s : SynchronizationSessionState) (evidence : SynchronizationInput)
    (now : PairedTimeObservation) (ctx : Context) (std : Standing) : Prop where
  compatible : assertSynchronizationSessionCompatible s s.bindingUniverse s.policy = .ok ()
  observation : now.postInit = .ok ()
  forward : observationRegresses s now = false
  input : evidence.postInit = .ok ()
  frame : ctx.frame = s.toSessionFrame
  clock : ctx.now = now
  member : ctx.pair ∈ s.bindingUniverse.pairs
  about : matchOf ctx.pair = evidence.canonicalMatchId
  stands : s.Stands (matchOf ctx.pair) std

/-- What a compatible session is known to be. -/
structure Compatible (s : SynchronizationSessionState) : Prop where
  good : s.Constructed
  legal : ∀ c ∈ s.tennisCursors, ∀ t, c.tennis = some t → validateTennisState t = .ok ()

theorem Compatible.of_check
    (checked : assertSynchronizationSessionCompatible s s.bindingUniverse s.policy = .ok ()) :
    Compatible s := by
  simp only [assertSynchronizationSessionCompatible, recover_eq_ok, bind_eq_ok, exists_unit,
    checkAll_eq_ok, checkSome_eq_ok] at checked
  obtain ⟨-, -, constructed, _, -, -, _, -, -, -, legal, -⟩ := checked
  exact ⟨SynchronizationSessionState.postInit_eq_ok.mp constructed, legal⟩

/-- What the artifacts of a session are checked for. -/
def SessionFrame.checkCompatible (f : SessionFrame) : Check := do
  f.bindingUniverse.postInit
  f.policy.postInit
  let computed ← bindingUniverseSha256 f.bindingUniverse
  refuse (f.universeSha256 ≠ computed) .drift
  let digest ← expertContractSha256 f.policy.py
  refuse (f.syncPolicySha256 ≠ digest ∨ f.policy.universeSha256 ≠ computed) .drift
  checkAll (fun pair => do
      let metadata ← bindingMetadataFor f.bindingUniverse pair.1
      refuse (metadata ≠ pair.2) .drift) f.bindingUniverse.pairs

theorem compatible_iff : assertSynchronizationSessionCompatible s s.bindingUniverse s.policy =
    .ok () ↔ s.toSessionFrame.checkCompatible = .ok () ∧ Compatible s := by
  constructor
  · intro checked
    refine ⟨?_, .of_check checked⟩
    simp only [assertSynchronizationSessionCompatible, SessionFrame.checkCompatible, recover_eq_ok,
      bind_eq_ok, exists_unit, refuse_eq_ok, not_or, not_not] at checked ⊢
    tauto
  · rintro ⟨frame, good, legal⟩
    have books : ∀ c ∈ s.bookCursors, ∀ b, c.book = some b → b.postInit = .ok () := by
      intro c inside b holds
      exact ((BookSyncCursor.checkParts_some holds).mp (good.bookParts c inside)).2.constructed
    have constructed := SynchronizationSessionState.postInit_eq_ok.mpr good
    simp only [assertSynchronizationSessionCompatible, SessionFrame.checkCompatible, recover_eq_ok,
      bind_eq_ok, exists_unit, refuse_eq_ok, not_or, not_not, checkAll_eq_ok,
      checkSome_eq_ok] at frame ⊢
    obtain ⟨h1, h2, d, h3, h4, e, h5, h6, h7⟩ := frame
    exact ⟨h1, h2, constructed, d, h3, ⟨trivial, trivial, h4⟩, e, h5, h6, h7, legal, books⟩

theorem session_encodes : Encodes s.py ↔
    (Encodes s.bindingUniverse.py ∧ Encodes s.policy.py) ∧ s.decisionSequence < integerBound ∧
      (∀ o, s.lastObservation = some o → Encodes o.py) ∧
      (∀ c ∈ s.tennisCursors, Encodes c.py) ∧ ∀ c ∈ s.bookCursors, Encodes c.py := by
  simp [SynchronizationSessionState.py, Encodes, EncodesFields, encodesAll_iff, and_assoc]

namespace Admitted

variable (admitted : Admitted s evidence now ctx std)
include admitted

theorem good : s.Constructed := (Compatible.of_check admitted.compatible).good

theorem constructed : evidence.Constructed := SynchronizationInput.constructed admitted.input

theorem observed : (s.observe now).Constructed :=
  observe_constructed admitted.good admitted.observation

/-- The session with the observation is ready for the reaction. -/
theorem ready : Ready ctx (s.observe now) std where
  good := admitted.observed
  of := ⟨admitted.frame, admitted.member⟩
  observed := by simp
  stands := ⟨admitted.stands.tennis, admitted.stands.book⟩
  legal := by
    intro t held
    have found := List.mem_of_find?_eq_some admitted.stands.tennis
    exact (Compatible.of_check admitted.compatible).legal _ found t held

theorem selected : selectedBinding s.toSessionFrame evidence.canonicalMatchId = .ok ctx.pair := by
  rw [selectedBinding_eq admitted.good.universe_accepted, required_eq_ok]
  exact (find_eq_some admitted.good.universe_accepted.matches_nodup).mpr
    ⟨admitted.member, admitted.about⟩

/-- An admitted call is the reaction of the match, recorded. -/
theorem synchronize_eq : synchronize s evidence now = (do
    let planned ← std.ingest ctx evidence
    let (last, results) ← carriedOut ctx (s.observe now) planned
    transition s last evidence now results) := by
  have recorded : withObservation s now = .ok (s.observe now) :=
    session_eq_ok.mpr ⟨admitted.observed, rfl⟩
  have ingestion := ingest_eq admitted.ready admitted.constructed
  rw [admitted.clock] at ingestion
  simp only [synchronize, admitted.compatible, ok_bind, recover, admitted.observation,
    admitted.input, admitted.selected, recorded, ingestion, bind_assoc, refuse, admitted.forward]
  rfl

end Admitted

/-- Every call that is not turned away is admitted. -/
theorem admitted_of_ok {t : SynchronizationTransitionResult}
    (answer : synchronize s evidence now = .ok t) : ∃ ctx std, Admitted s evidence now ctx std := by
  simp only [synchronize, bind_eq_ok, exists_unit, recover_eq_ok, refuse_eq_ok,
    Bool.not_eq_true] at answer
  obtain ⟨compatible, observation, forward, input, pair, selected, -⟩ := answer
  have good := (Compatible.of_check compatible).good
  rw [selectedBinding_eq good.universe_accepted, required_eq_ok] at selected
  obtain ⟨member, about⟩ := (find_eq_some good.universe_accepted.matches_nodup).mp selected
  obtain ⟨std, stands⟩ := good.stands member
  exact ⟨⟨s.toSessionFrame, pair, now⟩, std, compatible, observation, forward, input, rfl, rfl,
    member, about, stands⟩

/-! ## Carrying a plan out -/

def Plan.tickers : Plan → List String
  | .judge tickers => tickers
  | .withhold tickers _ => tickers

theorem emissions_withheld (tickers : List String) (reason : SyncReason) :
    emissions (tickers.map (Verdict.withheld · reason)) = 0 := by
  simp [emissions, Verdict.count, Verdict.withheld, Function.comp_def]

theorem publishAll_withheld (n : Nat) (tickers : List String) (reason : SyncReason) :
    ctx.publishAll n (tickers.map (Verdict.withheld · reason)) =
      collect (withheld ctx.pair.1.canonicalMatchId · reason) tickers := by
  induction tickers with
  | nil => rfl
  | cons ticker rest ih =>
      show ((withheld ctx.pair.1.canonicalMatchId ticker reason) >>= _) = _
      unfold collect
      refine bind_congr_ok fun r _ => ?_
      have count : (Verdict.withheld ticker reason).count = 0 := rfl
      rw [count, Nat.add_zero, ih]

/-- A withheld plan leaves the standing alone. -/
theorem Ingested.withheld_same {plan : Plan} (ingested : Ingested ctx std evidence next plan)
    {tickers : List String} {reason : SyncReason} (withheld : plan = .withhold tickers reason) :
    next = std := by
  cases ingested with
  | misbound | unbound => rfl
  | origin | transition | market | resnapshot | clock => cases withheld

theorem carriedOut_eq_ok (ready : Ready ctx s std) {plan : Plan}
    (ingested : Ingested ctx std evidence next plan) (input : evidence.Constructed)
    {rs : List SyncResult} :
    carriedOut ctx s (next, plan) = .ok (s', rs) ↔
      ∃ last verdicts, next.carryOut ctx plan = .ok (last, verdicts) ∧
        ctx.publishAll s.decisionSequence verdicts = .ok rs ∧
        s' = putIn ctx s last (s.decisionSequence + emissions verdicts) := by
  cases planned : plan with
  | judge tickers =>
      have after := ready.ingested ingested input
      rw [show carriedOut ctx s (next, .judge tickers) = resultsForTickers ctx.pair.1 ctx.pair.2
        ctx.now (putIn ctx s next s.decisionSequence) tickers from rfl, results_eq_ok after]
      have number : (putIn ctx s next s.decisionSequence).decisionSequence = s.decisionSequence :=
        rfl
      rw [number]
      refine exists_congr fun last => exists_congr fun verdicts => ?_
      refine and_congr_right fun judged => and_congr_right fun _ => ?_
      have valid := Standing.verdicts_valid judged after.valid
      rw [show putIn ctx (putIn ctx s next s.decisionSequence) last
        (s.decisionSequence + emissions verdicts) = putIn ctx s last
        (s.decisionSequence + emissions verdicts) from put_put after.valid valid]
  | withhold tickers reason =>
      obtain rfl := ingested.withheld_same planned
      simp only [carriedOut, Standing.carryOut, pure_eq_ok, bind_eq_ok, Prod.mk.injEq]
      constructor
      · rintro ⟨_, collected, rfl, rfl⟩
        refine ⟨next, _, ⟨rfl, rfl⟩, (publishAll_withheld ..).trans collected, ?_⟩
        rw [emissions_withheld]
        exact (put_self ready.good ready.stands).symm
      · rintro ⟨_, _, ⟨rfl, rfl⟩, published, rfl⟩
        refine ⟨rs, (publishAll_withheld ..).symm.trans published, ?_, rfl⟩
        rw [emissions_withheld]
        exact (put_self ready.good ready.stands).symm

/-! ## What a reaction leaves -/

/-- The markets an input is about. -/
def SynchronizationInput.subjects (evidence : SynchronizationInput) (binding : MatchBinding) :
    List String :=
  match evidence.kind with
  | .tennisOrigin | .tennisTransition => sortedTickers binding
  | _ => evidence.ticker.toList

theorem origin_subjects {plan : Plan} (answer : std.origin ctx evidence = .ok (next, plan)) :
    plan.tickers = sortedTickers ctx.pair.1 := by
  simp only [Standing.origin, bind_eq_ok, exists_unit] at answer
  obtain ⟨-, answer⟩ := answer
  split at answer
  · simp only [bind_eq_ok, exists_unit] at answer
    obtain ⟨-, t, -, answer⟩ := answer
    split_ifs at answer
    · obtain ⟨-, rfl⟩ := Prod.mk.inj ((pure_eq_ok _ _).mp answer)
      rfl
    · simp only [bind_eq_ok, pure_eq_ok] at answer
      obtain ⟨_, -, _, -, answer⟩ := answer
      obtain ⟨-, rfl⟩ := Prod.mk.inj answer
      rfl
  · cases answer

theorem transition_subjects {plan : Plan}
    (answer : std.transition ctx evidence = .ok (next, plan)) :
    plan.tickers = sortedTickers ctx.pair.1 := by
  unfold Standing.transition at answer
  split at answer
  · simp only [bind_eq_ok, exists_unit, pure_eq_ok] at answer
    obtain ⟨-, _, -, _, -, _, -, _, -, answer⟩ := answer
    obtain ⟨-, rfl⟩ := Prod.mk.inj answer
    rfl
  · cases answer

theorem market_subjects {plan : Plan} {ticker : String}
    (answer : std.market ctx evidence ticker = .ok (next, plan)) : plan.tickers = [ticker] := by
  simp only [Standing.market, bind_eq_ok] at answer
  obtain ⟨_, -, answer⟩ := answer
  split at answer
  · cases answer
  · simp only [bind_eq_ok, pure_eq_ok] at answer
    obtain ⟨_, -, _, -, _, -, _, -, answer⟩ := answer
    obtain ⟨-, rfl⟩ := Prod.mk.inj answer
    rfl

theorem resnapshot_subjects {plan : Plan} {ticker : String}
    (answer : std.resnapshot evidence ticker = .ok (next, plan)) : plan.tickers = [ticker] := by
  simp only [Standing.resnapshot, bind_eq_ok] at answer
  obtain ⟨_, -, answer⟩ := answer
  split at answer
  · cases answer
  · simp only [bind_eq_ok, exists_unit, pure_eq_ok] at answer
    obtain ⟨-, _, -, -, _, -, _, -, answer⟩ := answer
    obtain ⟨-, rfl⟩ := Prod.mk.inj answer
    rfl

theorem ingest_subjects {plan : Plan} (answer : std.ingest ctx evidence = .ok (next, plan)) :
    plan.tickers = evidence.subjects ctx.pair.1 := by
  unfold Standing.ingest at answer
  unfold SynchronizationInput.subjects
  split at answer
  · rename_i kind
    rw [kind]
    exact origin_subjects answer
  · rename_i kind
    rw [kind]
    exact transition_subjects answer
  · cases answer
  · rename_i ticker about notOrigin notTransition
    have subject : (match evidence.kind with
        | .tennisOrigin | .tennisTransition => sortedTickers ctx.pair.1
        | _ => evidence.ticker.toList) = [ticker] := by
      split
      · exact absurd ‹_› notOrigin
      · exact absurd ‹_› notTransition
      · rw [about]
        rfl
    rw [subject]
    split_ifs at answer
    · obtain ⟨-, rfl⟩ := Prod.mk.inj ((pure_eq_ok _ _).mp answer)
      rfl
    · split at answer
      · exact market_subjects answer
      · exact resnapshot_subjects answer
      · obtain ⟨-, rfl⟩ := Prod.mk.inj ((pure_eq_ok _ _).mp answer)
        rfl

/-- What a reaction leaves behind. -/
structure Reacted (ctx : Context) (evidence : SynchronizationInput) (last : Standing)
    (verdicts : List Verdict) : Prop where
  valid : last.Valid ctx.pair
  legal : last.Legal
  sound : ∀ verdict ∈ verdicts, verdict.Sound ctx last
  subjects : verdicts.map Verdict.ticker = evidence.subjects ctx.pair.1

theorem Ingested.withheld_untrusted {plan : Plan}
    (ingested : Ingested ctx std evidence next plan) {tickers : List String} {reason : SyncReason}
    (withheld : plan = .withhold tickers reason) : reason ≠ .trustedSynchronized := by
  cases ingested <;> cases withheld <;> decide

theorem sortedTickers_nodup {binding : MatchBinding}
    (distinct : binding.homeMarketTicker ≠ binding.awayMarketTicker) :
    (sortedTickers binding).Nodup :=
  (List.mergeSort_perm _ _).nodup_iff.mpr (by simpa using distinct)

theorem subjects_nodup {binding : MatchBinding}
    (distinct : binding.homeMarketTicker ≠ binding.awayMarketTicker) :
    (evidence.subjects binding).Nodup := by
  unfold SynchronizationInput.subjects
  split
  · exact sortedTickers_nodup distinct
  · exact sortedTickers_nodup distinct
  · cases evidence.ticker <;> simp

theorem react_reacted {verdicts : List Verdict}
    (answer : std.react ctx evidence = .ok (last, verdicts)) (valid : std.Valid ctx.pair)
    (legal : std.Legal) (input : evidence.Constructed)
    (distinct : ctx.pair.1.homeMarketTicker ≠ ctx.pair.1.awayMarketTicker) :
    Reacted ctx evidence last verdicts := by
  simp only [Standing.react, bind_eq_ok, Prod.exists] at answer
  obtain ⟨next, plan, ingests, answer⟩ := answer
  have ingested := Standing.ingest_cases ingests
  have subjects := ingest_subjects ingests
  cases planned : plan with
  | judge tickers =>
      rw [planned] at answer subjects
      have subjects : tickers = evidence.subjects ctx.pair.1 := subjects
      have judged := Standing.verdicts_judged answer (ingested.valid valid input)
        (ingested.legal legal) (subjects ▸ subjects_nodup distinct)
      exact ⟨judged.valid, judged.legal, judged.sound, judged.tickers_eq.trans subjects⟩
  | withhold tickers reason =>
      obtain rfl := ingested.withheld_same planned
      have untrusted := ingested.withheld_untrusted planned
      rw [planned] at answer subjects
      have subjects : tickers = evidence.subjects ctx.pair.1 := subjects
      obtain ⟨rfl, rfl⟩ := Prod.mk.inj ((pure_eq_ok _ _).mp answer)
      refine ⟨valid, legal, ?_, ?_⟩
      · intro verdict member
        obtain ⟨ticker, -, rfl⟩ := List.mem_map.mp member
        exact .withheld ticker reason untrusted
      · simpa [Function.comp_def, Verdict.withheld] using subjects

/-- An admitted call succeeds when the match reacts, the verdicts are published and the
transition is recorded. -/
theorem Admitted.synchronize_eq_ok (admitted : Admitted s evidence now ctx std)
    {t : SynchronizationTransitionResult} :
    synchronize s evidence now = .ok t ↔
      ∃ last verdicts rs, std.react ctx evidence = .ok (last, verdicts) ∧
        ctx.publishAll s.decisionSequence verdicts = .ok rs ∧
        transition s (putIn ctx (s.observe now) last (s.decisionSequence + emissions verdicts))
          evidence now rs = .ok t := by
  rw [admitted.synchronize_eq]
  simp only [Standing.react, bind_eq_ok, Prod.exists]
  constructor
  · rintro ⟨next, plan, ingests, s', rs, carried, recorded⟩
    obtain ⟨last, verdicts, carries, published, rfl⟩ :=
      (carriedOut_eq_ok admitted.ready (Standing.ingest_cases ingests) admitted.constructed).mp
        carried
    exact ⟨last, verdicts, rs, ⟨next, plan, ingests, carries⟩, published, recorded⟩
  · rintro ⟨last, verdicts, rs, ⟨next, plan, ingests, carries⟩, published, recorded⟩
    exact ⟨next, plan, ingests, _, rs, (carriedOut_eq_ok admitted.ready
      (Standing.ingest_cases ingests) admitted.constructed).mpr
      ⟨last, verdicts, carries, published, rfl⟩, recorded⟩

/-! ## The session after a reaction -/

theorem Ready.judged (ready : Ready ctx s std) {tickers : List String} {verdicts : List Verdict}
    {rs : List SyncResult} (answer : std.verdicts ctx tickers = .ok (last, verdicts))
    (published : ctx.publishAll s.decisionSequence verdicts = .ok rs) :
    Ready ctx (putIn ctx s last (s.decisionSequence + emissions verdicts)) last := by
  induction tickers generalizing s std verdicts rs with
  | nil =>
      obtain ⟨rfl, rfl⟩ := Standing.verdicts_nil answer
      rw [show s.decisionSequence + emissions [] = s.decisionSequence from rfl,
        put_self ready.good ready.stands]
      exact ready
  | cons ticker rest ih =>
      obtain ⟨middle, verdict, others, evaluated, later, rfl⟩ := Standing.verdicts_cons answer
      simp only [Context.publishAll, bind_eq_ok, pure_eq_ok] at published
      obtain ⟨r, first, others', publishedAll, rfl⟩ := published
      have valid := evaluated.valid ready.valid
      have after := ih (ready.evaluated evaluated first) later publishedAll
      rw [emissions_cons, ← putIn_further valid (Standing.verdicts_valid later valid)]
      exact after

/-- The session after a published reaction is ready for the next call. -/
theorem Ready.reacted (ready : Ready ctx s std) (input : evidence.Constructed)
    {verdicts : List Verdict} {rs : List SyncResult}
    (answer : std.react ctx evidence = .ok (last, verdicts))
    (published : ctx.publishAll s.decisionSequence verdicts = .ok rs) :
    Ready ctx (putIn ctx s last (s.decisionSequence + emissions verdicts)) last := by
  simp only [Standing.react, bind_eq_ok, Prod.exists] at answer
  obtain ⟨next, plan, ingests, answer⟩ := answer
  have ingested := Standing.ingest_cases ingests
  cases planned : plan with
  | judge tickers =>
      rw [planned] at answer
      have after := ready.ingested ingested input
      have judged : Ready ctx (putIn ctx (putIn ctx s next s.decisionSequence) last
        (s.decisionSequence + emissions verdicts)) last := after.judged answer published
      rw [show putIn ctx (putIn ctx s next s.decisionSequence) last
        (s.decisionSequence + emissions verdicts) = putIn ctx s last
        (s.decisionSequence + emissions verdicts) from
        put_put after.valid (Standing.verdicts_valid answer after.valid)] at judged
      exact judged
  | withhold tickers reason =>
      obtain rfl := ingested.withheld_same planned
      rw [planned] at answer
      obtain ⟨rfl, rfl⟩ := Prod.mk.inj ((pure_eq_ok _ _).mp answer)
      rw [emissions_withheld, Nat.add_zero, put_self ready.good ready.stands]
      exact ready

/-! ## The record of a call -/

theorem sound_reason {verdict : Verdict} (sound : verdict.Sound ctx std) :
    verdict.reason = .trustedSynchronized ↔ verdict.agreement.isSome := by
  cases sound with
  | withheld ticker reason untrusted => simpa [Verdict.withheld] using untrusted
  | trusted => simp

/-- The trusted results are the emissions, numbered one after the other. -/
theorem trusted_numbered {n : Nat} {verdicts : List Verdict} {rs : List SyncResult}
    (published : PublishedAll ctx n verdicts rs)
    (sound : ∀ verdict ∈ verdicts, verdict.Sound ctx std) :
    (trustedResults rs).length = emissions verdicts ∧
      (trustedResults rs).filterMap (fun r => r.snapshot.map TrustedSnapshot.decisionSequence) =
        List.range' (n + 1) (emissions verdicts) := by
  induction published with
  | nil n => exact ⟨rfl, rfl⟩
  | @cons n verdict r verdicts rs first rest ih =>
      obtain ⟨length, numbers⟩ := ih fun v inside => sound v (List.mem_cons_of_mem _ inside)
      have reason := sound_reason (sound verdict (List.mem_cons_self ..))
      rw [← first.reason] at reason
      rw [emissions_cons]
      cases agreement : verdict.agreement with
      | none =>
          have untrusted : ¬r.reason = .trustedSynchronized := by simp [reason, agreement]
          have count : verdict.count = 0 := by simp [Verdict.count, agreement]
          rw [count, Nat.add_zero] at numbers
          rw [count, Nat.zero_add]
          unfold trustedResults at length numbers ⊢
          rw [List.filter_cons_of_neg (by simpa using untrusted)]
          exact ⟨length, numbers⟩
      | some a =>
          have trusted : r.reason = .trustedSynchronized := by simp [reason, agreement]
          have count : verdict.count = 1 := by simp [Verdict.count, agreement]
          have snapshot := first.snapshot
          rw [agreement, Option.map_some] at snapshot
          rw [count] at numbers
          unfold trustedResults at length numbers ⊢
          rw [List.filter_cons_of_pos (by simpa using trusted), List.length_cons, length, count,
            List.filterMap_cons_some (b := n + 1) (by simp [snapshot, Agreement.snapshot]), numbers,
            Nat.add_comm 1, List.range'_succ]
          exact ⟨rfl, rfl⟩

theorem mem_published {n : Nat} {verdicts : List Verdict} {rs : List SyncResult}
    (published : PublishedAll ctx n verdicts rs) {r : SyncResult} (member : r ∈ rs) :
    ∃ k, ∃ verdict ∈ verdicts, Published ctx k verdict r := by
  induction published with
  | nil n => cases member
  | cons first rest ih =>
      rcases List.mem_cons.mp member with rfl | inside
      · exact ⟨_, _, List.mem_cons_self .., first⟩
      · obtain ⟨k, verdict, present, here⟩ := ih inside
        exact ⟨k, verdict, List.mem_cons_of_mem _ present, here⟩

theorem published_tickers {n : Nat} {verdicts : List Verdict} {rs : List SyncResult}
    (published : PublishedAll ctx n verdicts rs) :
    rs.map SyncResult.ticker = verdicts.map Verdict.ticker := by
  induction published with
  | nil n => rfl
  | cons first rest ih => rw [List.map_cons, List.map_cons, first.ticker, ih]

namespace Admitted

variable (admitted : Admitted s evidence now ctx std)
include admitted

theorem bindingPairs : (s.bindingUniverse.pairs.filter fun pair =>
    pair.1.canonicalMatchId = evidence.canonicalMatchId) = [ctx.pair] := by
  have only := filter_eq_find (k := evidence.canonicalMatchId)
    admitted.good.universe_accepted.matches_nodup
  rw [(find_eq_some admitted.good.universe_accepted.matches_nodup).mpr
    ⟨admitted.member, admitted.about⟩] at only
  exact only

theorem distinct : ctx.pair.1.homeMarketTicker ≠ ctx.pair.1.awayMarketTicker :=
  admitted.good.universe_accepted.markets ctx.pair admitted.member

/-- The results of a reaction are of the tickers its input is about. -/
theorem validResults {t : SynchronizationTransitionResult} {n : Nat} {verdicts : List Verdict}
    (reacted : Reacted ctx evidence last verdicts) (published : PublishedAll ctx n verdicts t.results)
    (input : t.input = evidence) : t.validResults [ctx.pair] = true := by
  have matchIds : ∀ r ∈ t.results, r.canonicalMatchId = evidence.canonicalMatchId := by
    intro r member
    obtain ⟨k, verdict, -, here⟩ := mem_published published member
    exact here.matchId.trans admitted.about
  have tickers : t.results.map SyncResult.ticker = evidence.subjects ctx.pair.1 :=
    (published_tickers published).trans reacted.subjects
  have count : t.results.length = (evidence.subjects ctx.pair.1).length := by
    rw [← tickers, List.length_map]
  unfold SynchronizationTransitionResult.validResults
  unfold SynchronizationInput.subjects at tickers count
  rw [input]
  have sorted : (sortedTickers ctx.pair.1).length = 2 := by simp [sortedTickers]
  have shape := admitted.constructed.shape
  unfold SynchronizationInput.validShape at shape
  cases kind : evidence.kind with
  | tennisOrigin | tennisTransition =>
      simp only [kind, sorted] at tickers count
      simpa [tickers, count] using matchIds
  | bookTransition | bookResnapshotRequired | clock =>
      simp only [kind, decide_eq_true_eq] at tickers count shape
      obtain ⟨ticker, about⟩ := Option.isSome_iff_exists.mp shape.1
      rw [about] at tickers count
      obtain ⟨r, only⟩ := List.length_eq_one_iff.mp count
      rw [only] at tickers matchIds ⊢
      have same : r.ticker = ticker := by simpa using tickers
      simpa [about, same] using matchIds r (List.mem_cons_self ..)

end Admitted

/-- A trusted result of a sound verdict passes the check against the new cursors. -/
theorem checkTrusted_total {t : SynchronizationTransitionResult} {n k : Nat} {verdict : Verdict}
    {r : SyncResult} (ready : Ready ctx s std) (valid : last.Valid ctx.pair)
    (constructed : (putIn ctx s last n).Constructed) (state : t.state = putIn ctx s last n) (observation : t.observation = ctx.now)
    (sound : verdict.Sound ctx last) (published : Published ctx k verdict r)
    (trusted : r.reason = .trustedSynchronized) :
    t.checkTrusted ctx.pair [last.tennis] r = .ok () := by
  have stands := valid.put_stands n ready.good ready.of.member
  cases sound with
  | withheld ticker reason untrusted => exact absurd (published.reason.symm.trans trusted) untrusted
  | trusted ticker tennis book c sealed held found holds clear computed remembered =>
      have ok := valid.book ticker c found
      have about : r.canonicalMatchId = matchOf ctx.pair := published.matchId
      have tickerEq : r.ticker = ticker := published.ticker
      obtain ⟨o, opportunity⟩ := Option.isSome_iff_exists.mp published.opportunity
      have books : (t.state.bookCursors.filter fun cursor =>
          cursor.canonicalMatchId = r.canonicalMatchId ∧ cursor.ticker = r.ticker) = [c] := by
        have only := filter_eq_find (k := (matchOf ctx.pair, ticker)) constructed.book_nodup
        have here : find bookKey (putIn ctx s last n).bookCursors (matchOf ctx.pair, ticker) = some c :=
          (stands.book ticker).trans found
        rw [here] at only
        rw [state, about, tickerEq]
        simpa [bookKey] using only
      have universeSha256 := published.universe_eq o opportunity
      unfold SynchronizationTransitionResult.checkTrusted
      rw [books, published.snapshot, opportunity]
      simp only [Option.map_some, remembered]
      have frame : t.state.toSessionFrame = ctx.frame := by rw [state, ready.of.frame]; rfl
      unfold fingerprint at computed
      refine bind_eq_ok.mpr ⟨(), refuse_ok _ ?_, bind_eq_ok.mpr ⟨(), refuse_ok _ ?_, ?_⟩⟩
      · simp [Agreement.snapshot, observation, held, holds, frame, universeSha256]
      · simp [Agreement.snapshot, emissionOf, LastSyncEmission.provider, LastSyncEmission.book,
          tennisCoordinates, bookCoordinates]
      · simp only [Agreement.snapshot, frame, computed, ok_bind, emissionOf]
        exact refuse_ok _ (by simp)

/-- The record of an admitted call that succeeded in everything else. -/
theorem transition_total (admitted : Admitted s evidence now ctx std) {verdicts : List Verdict}
    {rs : List SyncResult} {inputSha256 priorSessionSha256 : String}
    (answer : std.react ctx evidence = .ok (last, verdicts))
    (published : ctx.publishAll s.decisionSequence verdicts = .ok rs)
    (constructed : (putIn ctx (s.observe now) last
      (s.decisionSequence + emissions verdicts)).Constructed)
    (sealed : expertContractSha256 evidence.py = .ok inputSha256)
    (prior : expertContractSha256 s.py = .ok priorSessionSha256) :
    transition s (putIn ctx (s.observe now) last (s.decisionSequence + emissions verdicts))
      evidence now rs =
      .ok ⟨putIn ctx (s.observe now) last (s.decisionSequence + emissions verdicts), evidence,
        inputSha256, priorSessionSha256, s.decisionSequence, now, rs⟩ := by
  have reacted := react_reacted answer admitted.ready.valid admitted.ready.legal
    admitted.constructed admitted.distinct
  have published := publishAll_published published
  obtain ⟨length, numbers⟩ := trusted_numbered published reacted.sound
  simp only [transition, sealed, prior, ok_bind]
  refine bind_eq_ok.mpr ⟨(), ?_, rfl⟩
  simp only [SynchronizationTransitionResult.postInit, sealed, ok_bind, bind_eq_ok, exists_unit,
    sha256_eq_ok, integer_eq_ok, recover_eq_ok, checkAll_eq_ok]
  refine ⟨contractSha256_isSha256 sealed, contractSha256_isSha256 prior, admitted.good.decisions,
    admitted.input, refuse_ok _ (by simp),
    ⟨SynchronizationSessionState.postInit_eq_ok.mpr constructed, admitted.observation⟩,
    refuse_ok _ (by simp [SynchronizationSessionState.put]), ?_, ?_⟩
  · intro r member
    obtain ⟨_, _, -, here⟩ := mem_published published member
    exact here.parts
  · rw [show (putIn ctx (s.observe now) last
      (s.decisionSequence + emissions verdicts)).bindingUniverse = s.bindingUniverse from rfl,
      admitted.bindingPairs]
    refine ⟨refuse_ok _ ?_, refuse_ok _ ?_, refuse_ok _ ?_, ?_⟩
    · simpa using admitted.validResults reacted published rfl
    · simpa [SynchronizationSessionState.put] using length.symm
    · simpa [SynchronizationSessionState.put] using numbers
    · have stands := reacted.valid.put_stands (s.decisionSequence + emissions verdicts)
        admitted.observed admitted.member
      have tennis := filter_eq_find (k := matchOf ctx.pair) constructed.tennis_nodup
      have here : find TennisSyncCursor.canonicalMatchId
          (putIn ctx (s.observe now) last
            (s.decisionSequence + emissions verdicts)).tennisCursors (matchOf ctx.pair) =
          some last.tennis := stands.tennis
      rw [here, admitted.about] at tennis
      rw [tennis]
      simp only [Option.toList_some, checkAll_eq_ok]
      intro r member
      obtain ⟨inside, trusted⟩ := List.mem_filter.mp member
      obtain ⟨k, verdict, judged, here⟩ := mem_published published inside
      exact checkTrusted_total admitted.ready reacted.valid constructed rfl admitted.clock.symm
        (reacted.sound verdict judged) here (of_decide_eq_true trusted)

end Inci.Sync
