/-
# Sync.Reaction -- how one match reacts to an input

The step of the synchronizer read on the standing of the match it is about: no
other match, no decision counter, no last observation.  Ingesting an input changes
the standing and plans what to say about it; a verdict says what the evaluation of
a market decided, and a trusted one carries the states it is about.  The session
only adds the numbering.
-/
import Inci.Sync.Advance

namespace Inci.Sync

open Inci.Theory Inci.Expert Inci.Tennis Inci.Market Inci.Binding

set_option autoImplicit false

/-- The states a trusted verdict is about. -/
structure Agreement where
  tennis : TennisState
  book : BookState
  causalProviderRevision : Option Nat

structure Verdict where
  ticker : String
  reason : SyncReason
  agreement : Option Agreement

/-- A verdict that trusts nothing. -/
def Verdict.withheld (ticker : String) (reason : SyncReason) : Verdict := ⟨ticker, reason, none⟩

/-- What a reaction reads besides the standing. -/
structure Context where
  frame : SessionFrame
  pair : MatchBinding × BindingMetadata
  now : PairedTimeObservation

/-- The standing with another cursor for the cursor's market. -/
def Standing.set (std : Standing) (cursor : BookSyncCursor) : Standing :=
  { std with book := fun ticker => if ticker = cursor.ticker then some cursor else std.book ticker }

/-- The standing with another tennis cursor, and every book cursor changed. -/
def Standing.retennis (std : Standing) (tennis : TennisSyncCursor)
    (change : BookSyncCursor → BookSyncCursor) : Standing :=
  ⟨tennis, fun ticker => (std.book ticker).map change⟩

/-! ## Evaluation -/

def emissionOf (fingerprint : String) (tennis : TennisState) (book : BookState) :
    LastSyncEmission :=
  { fingerprintSha256 := fingerprint
    providerCorrectionEpoch := tennis.correctionEpoch
    providerRevision := tennis.revision
    providerEventSemanticSha256 := tennis.lastEventSemanticSha256
    bookConnectionEpoch := book.connectionEpoch
    bookSequence := book.sequence }

def BookSyncCursor.emit (cursor : BookSyncCursor) (fingerprint : String) (tennis : TennisState)
    (book : BookState) : BookSyncCursor :=
  { cursor with lastEmission := some (emissionOf fingerprint tennis book) }

def Standing.evaluate (ctx : Context) (std : Standing) (ticker : String) :
    Except ExpertError (Standing × Verdict) := do
  let cursor ← required (std.book ticker)
  match ← blockReason ctx.frame.policy ctx.pair.1 std.tennis.tennis cursor ctx.now with
  | some reason => pure (std, .withheld ticker reason)
  | none =>
      match std.tennis.tennis, cursor.book with
      | some tennis, some book => do
          let fingerprint ← fingerprint ctx.frame ctx.pair.1 ctx.pair.2 tennis book
          if ∃ prior ∈ cursor.lastEmission, alreadyEmitted prior tennis book = true then
            pure (std, .withheld ticker .duplicateStateSuppressed)
          else do
            refuse (∃ prior ∈ cursor.lastEmission, fingerprint = prior.fingerprintSha256) .drift
            pure (std.set (cursor.emit fingerprint tennis book),
              ⟨ticker, .trustedSynchronized, some ⟨tennis, book,
                cursor.causalPointWitness.map CausalPointWitness.revision⟩⟩)
      | _, _ => .error .assertion

def Standing.verdicts (ctx : Context) :
    Standing → List String → Except ExpertError (Standing × List Verdict)
  | std, [] => pure (std, [])
  | std, ticker :: rest => do
      let (next, verdict) ← std.evaluate ctx ticker
      let (last, verdicts) ← Standing.verdicts ctx next rest
      pure (last, verdict :: verdicts)

/-! ## Cursors -/

def PendingBookMove.floored (epoch : Nat) (pending : PendingBookMove) : PendingBookMove :=
  { pending with
    tennisCorrectionEpochFloor := pending.tennisCorrectionEpochFloor.or (some epoch) }

/-- A cursor when the origin of its match arrives. -/
def BookSyncCursor.floored (epoch : Nat) (cursor : BookSyncCursor) : BookSyncCursor :=
  { cursor with pendingMove := cursor.pendingMove.map (PendingBookMove.floored epoch) }

/-- A cursor whose pending move the witness explains. -/
def BookSyncCursor.explainedBy (cursor : BookSyncCursor) (witness : CausalPointWitness) :
    BookSyncCursor :=
  { cursor with
    pendingMove := none
    causalPointWitness := some witness
    consumedPointWitness := some witness }

def BookSyncCursor.explain (policy : SyncPolicy) (tennis : TennisState)
    (witness : Option CausalPointWitness) (cursor : BookSyncCursor) : BookSyncCursor :=
  match cursor.pendingMove, witness with
  | some pending, some witness =>
      if explains pending witness cursor.consumedPointWitness tennis policy then
        cursor.explainedBy witness
      else cursor
  | _, _ => cursor

/-- An applied correction forgets which point explained the last move. -/
def BookSyncCursor.forget (applied : Bool) (cursor : BookSyncCursor) : BookSyncCursor :=
  { cursor with causalPointWitness := if applied then none else cursor.causalPointWitness }

/-- A cursor after a tennis transition of its match. -/
def BookSyncCursor.afterTennis (policy : SyncPolicy) (applied : Bool)
    (witness : Option CausalPointWitness) (tennis : TennisState) (cursor : BookSyncCursor) :
    BookSyncCursor :=
  (cursor.forget applied).explain policy tennis witness

def TennisSyncCursor.hold (cursor : TennisSyncCursor) (tennis : TennisState)
    (stateSha256 inputSha256 : String) (witness : Option CausalPointWitness) :
    TennisSyncCursor :=
  { cursor with
    tennis := some tennis
    lastStateSha256 := some stateSha256
    lastInputSha256 := some inputSha256
    lastPointWitness := witness }

def BookSyncCursor.hold (cursor : BookSyncCursor) (book : BookState)
    (stateSha256 inputSha256 : String) (pending : Option PendingBookMove) : BookSyncCursor :=
  { cursor with
    book := some book
    lastStateSha256 := some stateSha256
    lastInputSha256 := some inputSha256
    pendingMove := pending }

/-! ## Reactions -/

/-- The state a complete snapshot starts a match with. -/
def originOf (event : ProviderSnapshot) : Except ExpertError TennisState :=
  recover (do
      let tennis ← stateFromSnapshot event
      validateTennisState tennis
      pure tennis)
    ExpertError.isRuntimeError .drift

/-- The machine's answer, which the sender must have computed too. -/
def recomputedTennis (prior : TennisState) (event : ProviderEvent)
    (sent : Option TennisTransitionResult) : Except ExpertError TennisTransitionResult :=
  recover (do
      let recomputed ← applyProviderEvent prior event
      refuse (some recomputed ≠ sent) .drift
      validateTennisState recomputed.state
      pure recomputed)
    ExpertError.isRuntimeError .drift

def recomputedBook (cursor : BookSyncCursor) (previous : Option String) (event : BookEvent)
    (sent : Option BookTransitionResult) : Except ExpertError BookTransitionResult :=
  recover (do
      let recomputed ← applyBookEvent cursor previous event
      refuse (some recomputed ≠ sent) .drift
      pure recomputed)
    ExpertError.isRuntimeError .drift

/-- What is said after an input: the verdicts of some markets, or nothing trusted. -/
inductive Plan where
  | judge (tickers : List String)
  | withhold (tickers : List String) (reason : SyncReason)

def Standing.origin (ctx : Context) (std : Standing) (evidence : SynchronizationInput) :
    Except ExpertError (Standing × Plan) := do
  refuse (std.tennis.tennis.isSome) .drift
  match evidence.providerEvent with
  | some (.snapshot event) => do
      refuse (event.snapshotComplete = false) .drift
      let tennis ← originOf event
      if bindingDrift tennis ctx.pair.1 then
        pure (std, .withhold (sortedTickers ctx.pair.1) .bindingDrift)
      else do
        let inputSha256 ← expertContractSha256 evidence.py
        let stateSha256 ← expertContractSha256 tennis.py
        pure (std.retennis (std.tennis.hold tennis stateSha256 inputSha256 none)
          (BookSyncCursor.floored tennis.correctionEpoch), .judge (sortedTickers ctx.pair.1))
  | _ => drift

/-- The last point after a tennis transition: a correction forgets it. -/
def lastPoint (applied : Bool) (point prior : Option CausalPointWitness) :
    Option CausalPointWitness :=
  if applied then none else point <|> prior

def Standing.transition (ctx : Context) (std : Standing) (evidence : SynchronizationInput) :
    Except ExpertError (Standing × Plan) :=
  match std.tennis.tennis, evidence.providerEvent with
  | some prior, some event => do
      refuse (evidence.previousStateSha256 ≠ std.tennis.lastStateSha256) .drift
      let recomputed ← recomputedTennis prior event evidence.tennisTransition
      let point ← pointWitness ctx.pair.1.canonicalMatchId event recomputed
      let applied := appliedCorrection event recomputed
      let stateSha256 ← expertContractSha256 recomputed.state.py
      let inputSha256 ← expertContractSha256 evidence.py
      pure (std.retennis
        (std.tennis.hold recomputed.state stateSha256 inputSha256
          (lastPoint applied point std.tennis.lastPointWitness))
        (BookSyncCursor.afterTennis ctx.frame.policy applied point recomputed.state),
        .judge (sortedTickers ctx.pair.1))
  | _, _ => drift

def Standing.market (ctx : Context) (std : Standing) (evidence : SynchronizationInput)
    (ticker : String) : Except ExpertError (Standing × Plan) := do
  let cursor ← required (std.book ticker)
  match evidence.bookEvent with
  | none => drift
  | some event => do
      let recomputed ←
        recomputedBook cursor evidence.previousStateSha256 event evidence.bookTransition
      let stateSha256 ← expertContractSha256 recomputed.state.py
      let inputSha256 ← expertContractSha256 evidence.py
      let accepted := cursor.hold recomputed.state stateSha256 inputSha256
        (pendingAfter cursor event std.tennis.tennis recomputed)
      let recorded ← recordIfLarge ctx.frame.policy std.tennis cursor accepted recomputed
      pure (std.set recorded, .judge [ticker])

def Standing.resnapshot (std : Standing) (evidence : SynchronizationInput) (ticker : String) :
    Except ExpertError (Standing × Plan) := do
  let cursor ← required (std.book ticker)
  match cursor.book with
  | none => drift
  | some book => do
      refuse (evidence.previousStateSha256 ≠ cursor.lastStateSha256) .drift
      let required ← recover (requireBookResnapshot book) ExpertError.isRuntimeError .drift
      refuse (some required ≠ evidence.bookResnapshotState) .drift
      let stateSha256 ← expertContractSha256 required.py
      let inputSha256 ← expertContractSha256 evidence.py
      pure (std.set (cursor.hold required stateSha256 inputSha256 cursor.pendingMove),
        .judge [ticker])

/-- What the match of the input learns from it. -/
def Standing.ingest (ctx : Context) (std : Standing) (evidence : SynchronizationInput) :
    Except ExpertError (Standing × Plan) :=
  match evidence.kind, evidence.ticker with
  | .tennisOrigin, _ => std.origin ctx evidence
  | .tennisTransition, _ => std.transition ctx evidence
  | _, none => .error .assertion
  | kind, some ticker =>
      if ticker ≠ ctx.pair.1.homeMarketTicker ∧ ticker ≠ ctx.pair.1.awayMarketTicker then
        pure (std, .withhold [ticker] .contractMismatch)
      else
        match kind with
        | .bookTransition => std.market ctx evidence ticker
        | .bookResnapshotRequired => std.resnapshot evidence ticker
        | _ => pure (std, .judge [ticker])

/-- What an input that is ingested can do: the standing the verdicts are about, and the plan. -/
inductive Ingested (ctx : Context) (std : Standing) (evidence : SynchronizationInput) :
    Standing → Plan → Prop where
  /-- The origin is of another match. -/
  | misbound (event : ProviderSnapshot) (tennis : TennisState)
      (unset : std.tennis.tennis = none) (computed : originOf event = .ok tennis)
      (drifts : bindingDrift tennis ctx.pair.1 = true) :
      Ingested ctx std evidence std (.withhold (sortedTickers ctx.pair.1) .bindingDrift)
  | origin (event : ProviderSnapshot) (tennis : TennisState) (stateSha256 inputSha256 : String)
      (unset : std.tennis.tennis = none)
      (provider : evidence.providerEvent = some (.snapshot event))
      (computed : originOf event = .ok tennis)
      (bound : bindingDrift tennis ctx.pair.1 = false)
      (state : expertContractSha256 tennis.py = .ok stateSha256)
      (input : expertContractSha256 evidence.py = .ok inputSha256) :
      Ingested ctx std evidence
        (std.retennis (std.tennis.hold tennis stateSha256 inputSha256 none)
          (BookSyncCursor.floored tennis.correctionEpoch)) (.judge (sortedTickers ctx.pair.1))
  | transition (prior : TennisState) (event : ProviderEvent) (r : TennisTransitionResult)
      (point : Option CausalPointWitness) (stateSha256 inputSha256 : String)
      (held : std.tennis.tennis = some prior) (provider : evidence.providerEvent = some event)
      (previous : evidence.previousStateSha256 = std.tennis.lastStateSha256)
      (computed : recomputedTennis prior event evidence.tennisTransition = .ok r)
      (witness : pointWitness ctx.pair.1.canonicalMatchId event r = .ok point)
      (state : expertContractSha256 r.state.py = .ok stateSha256)
      (input : expertContractSha256 evidence.py = .ok inputSha256) :
      Ingested ctx std evidence
        (std.retennis
          (std.tennis.hold r.state stateSha256 inputSha256
            (lastPoint (appliedCorrection event r) point std.tennis.lastPointWitness))
          (BookSyncCursor.afterTennis ctx.frame.policy (appliedCorrection event r) point r.state))
        (.judge (sortedTickers ctx.pair.1))
  | market (ticker : String) (cursor recorded : BookSyncCursor) (event : BookEvent)
      (r : BookTransitionResult) (stateSha256 inputSha256 : String)
      (about : evidence.ticker = some ticker) (found : std.book ticker = some cursor)
      (fed : evidence.bookEvent = some event)
      (computed : recomputedBook cursor evidence.previousStateSha256 event
        evidence.bookTransition = .ok r)
      (state : expertContractSha256 r.state.py = .ok stateSha256)
      (input : expertContractSha256 evidence.py = .ok inputSha256)
      (records : recordIfLarge ctx.frame.policy std.tennis cursor
        (cursor.hold r.state stateSha256 inputSha256
          (pendingAfter cursor event std.tennis.tennis r)) r = .ok recorded) :
      Ingested ctx std evidence (std.set recorded) (.judge [ticker])
  | resnapshot (ticker : String) (cursor : BookSyncCursor) (book required : BookState)
      (stateSha256 inputSha256 : String) (about : evidence.ticker = some ticker)
      (found : std.book ticker = some cursor) (held : cursor.book = some book)
      (computed : requireBookResnapshot book = .ok required)
      (sent : some required = evidence.bookResnapshotState)
      (state : expertContractSha256 required.py = .ok stateSha256)
      (input : expertContractSha256 evidence.py = .ok inputSha256) :
      Ingested ctx std evidence
        (std.set (cursor.hold required stateSha256 inputSha256 cursor.pendingMove))
        (.judge [ticker])
  | clock (ticker : String) (about : evidence.ticker = some ticker)
      (bound : ticker = ctx.pair.1.homeMarketTicker ∨ ticker = ctx.pair.1.awayMarketTicker) :
      Ingested ctx std evidence std (.judge [ticker])
  | unbound (ticker : String) (about : evidence.ticker = some ticker) :
      Ingested ctx std evidence std (.withhold [ticker] .contractMismatch)

theorem Standing.origin_cases {ctx : Context} {std next : Standing}
    {evidence : SynchronizationInput} {plan : Plan}
    (answer : std.origin ctx evidence = .ok (next, plan)) : Ingested ctx std evidence next plan := by
  simp only [Standing.origin, bind_eq_ok, exists_unit, refuse_eq_ok, Bool.not_eq_true,
    Option.isSome_eq_false_iff, Option.isNone_iff_eq_none] at answer
  obtain ⟨unset, answer⟩ := answer
  split at answer
  · rename_i event provider
    simp only [bind_eq_ok, exists_unit, refuse_eq_ok] at answer
    obtain ⟨-, tennis, computed, answer⟩ := answer
    split_ifs at answer with drifts
    · obtain ⟨rfl, rfl⟩ := Prod.mk.inj ((pure_eq_ok _ _).mp answer)
      exact .misbound event tennis unset computed drifts
    · simp only [bind_eq_ok, pure_eq_ok] at answer
      obtain ⟨inputSha256, input, stateSha256, state, answer⟩ := answer
      obtain ⟨rfl, rfl⟩ := Prod.mk.inj answer
      exact .origin event tennis stateSha256 inputSha256 unset provider computed
        (by simpa using drifts) state input
  · cases answer

theorem Standing.transition_cases {ctx : Context} {std next : Standing}
    {evidence : SynchronizationInput} {plan : Plan}
    (answer : std.transition ctx evidence = .ok (next, plan)) :
    Ingested ctx std evidence next plan := by
  unfold Standing.transition at answer
  split at answer
  · rename_i prior event held provider
    simp only [bind_eq_ok, exists_unit, refuse_eq_ok, not_not, pure_eq_ok] at answer
    obtain ⟨previous, r, computed, point, witness, stateSha256, state, inputSha256, input,
      answer⟩ := answer
    obtain ⟨rfl, rfl⟩ := Prod.mk.inj answer
    exact .transition prior event r point stateSha256 inputSha256 held provider previous computed
      witness state input
  · cases answer

theorem required_eq_ok {α : Type} {item : Option α} {a : α} :
    required item = .ok a ↔ item = some a := by
  cases item <;> simp [required, drift]

theorem Standing.market_cases {ctx : Context} {std next : Standing}
    {evidence : SynchronizationInput} {plan : Plan} {ticker : String}
    (about : evidence.ticker = some ticker)
    (answer : std.market ctx evidence ticker = .ok (next, plan)) :
    Ingested ctx std evidence next plan := by
  simp only [Standing.market, bind_eq_ok, required_eq_ok] at answer
  obtain ⟨cursor, found, answer⟩ := answer
  split at answer
  · cases answer
  · rename_i event fed
    simp only [bind_eq_ok, pure_eq_ok] at answer
    obtain ⟨r, computed, stateSha256, state, inputSha256, input, recorded, records, answer⟩ :=
      answer
    obtain ⟨rfl, rfl⟩ := Prod.mk.inj answer
    exact .market ticker cursor recorded event r stateSha256 inputSha256 about found fed computed
      state input records

theorem Standing.resnapshot_cases {ctx : Context} {std next : Standing}
    {evidence : SynchronizationInput} {plan : Plan} {ticker : String}
    (about : evidence.ticker = some ticker)
    (answer : std.resnapshot evidence ticker = .ok (next, plan)) :
    Ingested ctx std evidence next plan := by
  simp only [Standing.resnapshot, bind_eq_ok, required_eq_ok] at answer
  obtain ⟨cursor, found, answer⟩ := answer
  split at answer
  · cases answer
  · rename_i book held
    simp only [bind_eq_ok, exists_unit, refuse_eq_ok, not_not, recover_eq_ok, pure_eq_ok] at answer
    obtain ⟨-, required, computed, sent, stateSha256, state, inputSha256, input, answer⟩ := answer
    obtain ⟨rfl, rfl⟩ := Prod.mk.inj answer
    exact .resnapshot ticker cursor book required stateSha256 inputSha256 about found held computed
      sent state input

theorem Standing.ingest_cases {ctx : Context} {std next : Standing}
    {evidence : SynchronizationInput} {plan : Plan}
    (answer : std.ingest ctx evidence = .ok (next, plan)) : Ingested ctx std evidence next plan := by
  unfold Standing.ingest at answer
  split at answer
  · exact Standing.origin_cases answer
  · exact Standing.transition_cases answer
  · cases answer
  · rename_i ticker about _ _
    rw [ite_eq_iff] at answer
    rcases answer with ⟨-, answer⟩ | ⟨bound, answer⟩
    · obtain ⟨rfl, rfl⟩ := Prod.mk.inj ((pure_eq_ok _ _).mp answer)
      exact .unbound ticker about
    · split at answer
      · exact Standing.market_cases about answer
      · exact Standing.resnapshot_cases about answer
      · obtain ⟨rfl, rfl⟩ := Prod.mk.inj ((pure_eq_ok _ _).mp answer)
        exact .clock ticker about (by tauto)

def Standing.carryOut (ctx : Context) (std : Standing) :
    Plan → Except ExpertError (Standing × List Verdict)
  | .judge tickers => Standing.verdicts ctx std tickers
  | .withhold tickers reason => pure (std, tickers.map (Verdict.withheld · reason))

/-- What the match of the input does with it. -/
def Standing.react (ctx : Context) (std : Standing) (evidence : SynchronizationInput) :
    Except ExpertError (Standing × List Verdict) := do
  let (next, plan) ← std.ingest ctx evidence
  next.carryOut ctx plan

end Inci.Sync
