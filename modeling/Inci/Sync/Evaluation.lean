/-
# Sync.Evaluation -- what the evaluation of a market decides

A market is trusted only when nothing blocks it: the states are bound, unblocked,
live, open, recent and explained (`Clear`).  An evaluation withholds its verdict
and changes nothing, or emits and remembers the emission.
-/
import Inci.Sync.Preservation

namespace Inci.Sync

open Inci.Theory Inci.Expert Inci.Tennis Inci.Market Inci.Binding

set_option autoImplicit false

/-! ## Nothing blocks -/

/-- What `_block_reason` guarantees when it gives no reason. -/
structure Clear (policy : SyncPolicy) (binding : MatchBinding) (t : TennisState) (b : BookState)
    (pending : Option PendingBookMove) (now : PairedTimeObservation) : Prop where
  bound : bindingDrift t binding = false
  unblocked : t.blockReason = none
  live : t.status = .live
  server : t.serverForNextPoint.isSome
  trusted : b.trusted = true
  gapless : b.sequenceGap = false
  opened : b.marketStatus = .open
  executable : ¬(b.yesBids = [] ∧ b.noBids = [])
  received : t.lastReceivedMonotonicNs ≤ now.monotonicNs
  observed : b.bookObservedMonotonicNs ≤ now.monotonicNs
  lifecycle : b.lifecycleObservedMonotonicNs ≤ now.monotonicNs
  running : now.wallNs < b.scheduledCloseWallNs
  explained : pending = none

theorem standingReason_untrusted (policy : SyncPolicy) (t : TennisState) (b : BookState)
    (pending : Option PendingBookMove) (now : PairedTimeObservation) :
    standingReason policy t b pending now ≠ some .trustedSynchronized := by
  unfold standingReason
  iterate 17 refine first_ne (by decide) ?_
  exact Option.some_ne_none _ ∘ Eq.symm

theorem clear_of_standing {policy : SyncPolicy} {binding : MatchBinding} {t : TennisState}
    {b : BookState} {pending : Option PendingBookMove} {now : PairedTimeObservation}
    (bound : bindingDrift t binding = false)
    (unbound : ¬∃ r ∈ t.blockReason, r ∈ bindingBlockReasons)
    (answer : standingReason policy t b pending now = none) :
    Clear policy binding t b pending now := by
  simp only [standingReason, first_eq_none] at answer
  obtain ⟨correction, gap, trusted, scheduled, suspended, ended, marketSuspended, preopen, closed,
    server, clock, -, -, -, executable, horizon, explained, -⟩ := answer
  simp only [not_or] at gap ended closed
  have unblocked : t.blockReason = none := by
    cases blocked : t.blockReason with
    | none => rfl
    | some r =>
        refine absurd ⟨r, blocked, fun inside => unbound ⟨r, blocked, inside⟩, ?_⟩ correction
        rintro rfl
        exact gap.1 blocked
  have live : t.status = .live := by
    cases status : t.status with
    | live => rfl
    | scheduled => exact absurd status scheduled
    | suspended => exact absurd status suspended
    | ended => exact absurd status ended.1
    | cancelled => exact absurd status ended.2
  have opened : b.marketStatus = .open := by
    cases status : b.marketStatus with
    | «open» => rfl
    | suspended => exact absurd status marketSuspended
    | preopen => exact absurd status preopen
    | closed => exact absurd status closed.1
    | settled => exact absurd status closed.2.1
    | cancelled => exact absurd status closed.2.2
  simp only [clockUncertain, decide_eq_true_eq, not_or, not_lt] at clock
  simp only [not_or, not_le] at horizon
  refine ⟨bound, unblocked, live, Option.isSome_iff_ne_none.mpr server, by simpa using trusted,
    by simpa using gap.2, opened, executable, clock.1, clock.2.1, clock.2.2.1, horizon.1, ?_⟩
  simpa using explained

theorem blockReason_none {policy : SyncPolicy} {binding : MatchBinding} {tennis : Option TennisState}
    {c : BookSyncCursor} {now : PairedTimeObservation}
    (answer : blockReason policy binding tennis c now = .ok none) :
    ∃ t b, tennis = some t ∧ c.book = some b ∧ Clear policy binding t b c.pendingMove now := by
  unfold blockReason at answer
  split at answer
  · cases answer
  · rename_i t
    rw [ite_eq_iff] at answer
    rcases answer with ⟨-, answer⟩ | ⟨unbound, answer⟩
    · cases answer
    split at answer
    · cases answer
    · rename_i b holds
      simp only [bind_eq_ok, exists_unit, pure_eq_ok] at answer
      obtain ⟨-, answer⟩ := answer
      simp only [not_or, Bool.not_eq_true] at unbound
      exact ⟨t, b, rfl, holds, clear_of_standing unbound.1 unbound.2 answer⟩

theorem blockReason_untrusted {policy : SyncPolicy} {binding : MatchBinding}
    {tennis : Option TennisState} {c : BookSyncCursor} {now : PairedTimeObservation}
    {reason : SyncReason} (answer : blockReason policy binding tennis c now = .ok (some reason)) :
    reason ≠ .trustedSynchronized := by
  unfold blockReason at answer
  split at answer
  · obtain rfl : SyncReason.snapshotIncomplete = reason := by simpa using answer
    simp
  · rw [ite_eq_iff] at answer
    rcases answer with ⟨-, answer⟩ | ⟨-, answer⟩
    · obtain rfl : SyncReason.bindingDrift = reason := by simpa using answer
      simp
    · split at answer
      · obtain rfl : SyncReason.snapshotIncomplete = reason := by simpa using answer
        simp
      · simp only [bind_eq_ok, exists_unit, pure_eq_ok] at answer
        rintro rfl
        exact standingReason_untrusted _ _ _ _ _ answer.2

/-- The block reason of a legal standing is always found. -/
theorem blockReason_total {policy : SyncPolicy} {binding : MatchBinding} {std : Standing}
    {c : BookSyncCursor} {now : PairedTimeObservation} (legal : std.Legal) :
    ∃ reason, blockReason policy binding std.tennis.tennis c now = .ok reason := by
  unfold blockReason
  cases held : std.tennis.tennis with
  | none => exact ⟨_, rfl⟩
  | some t =>
      simp only
      split_ifs
      · exact ⟨_, rfl⟩
      · cases c.book with
        | none => exact ⟨_, rfl⟩
        | some b => exact ⟨_, by simp only [legal t held, ok_bind]; rfl⟩

/-! ## One market -/

variable {ctx : Context} {std next : Standing} {ticker : String} {verdict : Verdict}

/-- What the evaluation of a market can do. -/
inductive Evaluated (ctx : Context) (std : Standing) (ticker : String) :
    Standing → Verdict → Prop where
  | withheld (reason : SyncReason) (untrusted : reason ≠ .trustedSynchronized) :
      Evaluated ctx std ticker std (.withheld ticker reason)
  | emitted (t : TennisState) (b : BookState) (c : BookSyncCursor) (sealed : String)
      (found : std.book ticker = some c) (tennis : std.tennis.tennis = some t)
      (book : c.book = some b) (clear : Clear ctx.frame.policy ctx.pair.1 t b c.pendingMove ctx.now)
      (computed : fingerprint ctx.frame ctx.pair.1 ctx.pair.2 t b = .ok sealed)
      (fresh : ∀ prior, c.lastEmission = some prior → alreadyEmitted prior t b = false) :
      Evaluated ctx std ticker (std.set (c.emit sealed t b))
        ⟨ticker, .trustedSynchronized,
          some ⟨t, b, c.causalPointWitness.map CausalPointWitness.revision⟩⟩

theorem Standing.evaluate_cases (answer : std.evaluate ctx ticker = .ok (next, verdict)) :
    Evaluated ctx std ticker next verdict := by
  simp only [Standing.evaluate, bind_eq_ok, required_eq_ok] at answer
  obtain ⟨c, found, reason, blocked, answer⟩ := answer
  cases reason with
  | some reason =>
      obtain ⟨rfl, rfl⟩ := Prod.mk.inj ((pure_eq_ok _ _).mp answer)
      exact .withheld reason (blockReason_untrusted blocked)
  | none =>
      obtain ⟨t, b, tennis, book, clear⟩ := blockReason_none blocked
      simp only [tennis, book, bind_eq_ok] at answer
      obtain ⟨sealed, computed, answer⟩ := answer
      split_ifs at answer with emitted
      · obtain ⟨rfl, rfl⟩ := Prod.mk.inj ((pure_eq_ok _ _).mp answer)
        exact .withheld _ (by simp)
      · simp only [bind_eq_ok, exists_unit, pure_eq_ok] at answer
        obtain ⟨-, answer⟩ := answer
        obtain ⟨rfl, rfl⟩ := Prod.mk.inj answer
        refine .emitted t b c sealed found tennis book clear computed fun prior member => ?_
        simpa using fun already => emitted ⟨prior, member, already⟩

theorem fingerprint_isSha256 {frame : SessionFrame} {binding : MatchBinding}
    {metadata : BindingMetadata} {t : TennisState} {b : BookState} {sealed : String}
    (computed : fingerprint frame binding metadata t b = .ok sealed) : IsSha256 sealed := by
  simp only [fingerprint, synchronizationEmissionFingerprint, bind_eq_ok] at computed
  obtain ⟨_, -, _, -, _, -, _, -, computed⟩ := computed
  exact domainSha256_isSha256 computed

theorem Evaluated.valid (evaluated : Evaluated ctx std ticker next verdict)
    (valid : std.Valid ctx.pair) : next.Valid ctx.pair := by
  cases evaluated with
  | withheld => exact valid
  | emitted t b c sealed found tennis book clear computed fresh =>
      have key : c.ticker = ticker := valid.ticker ticker c found
      refine Standing.set_valid valid (c := c) ?_ ?_
      · show std.book c.ticker = some c
        rw [key, found]
      · exact (valid.book ticker c found).emit tennis book
          (valid.tennis.holding tennis).constructed (fingerprint_isSha256 computed)

/-- An evaluation never changes the tennis cursor. -/
theorem Evaluated.tennis (evaluated : Evaluated ctx std ticker next verdict) :
    next.tennis = std.tennis := by
  cases evaluated <;> rfl

theorem Evaluated.legal (evaluated : Evaluated ctx std ticker next verdict) (legal : std.Legal) :
    next.Legal := by
  unfold Standing.Legal
  rw [evaluated.tennis]
  exact legal

theorem Evaluated.ticker_eq (evaluated : Evaluated ctx std ticker next verdict) :
    verdict.ticker = ticker := by
  cases evaluated <;> rfl

/-- An evaluation changes no other market. -/
theorem Evaluated.other (evaluated : Evaluated ctx std ticker next verdict)
    (valid : std.Valid ctx.pair) {other : String} (different : other ≠ ticker) :
    next.book other = std.book other := by
  cases evaluated with
  | withheld => rfl
  | emitted t b c sealed found =>
      have key : c.ticker = ticker := valid.ticker ticker c found
      exact if_neg fun same => different (same.trans key)

/-- What a verdict is worth once the evaluation has run. -/
inductive Verdict.Sound (ctx : Context) (std : Standing) : Verdict → Prop where
  | withheld (ticker : String) (reason : SyncReason) (untrusted : reason ≠ .trustedSynchronized) :
      Verdict.Sound ctx std (.withheld ticker reason)
  | trusted (ticker : String) (t : TennisState) (b : BookState) (c : BookSyncCursor)
      (sealed : String) (tennis : std.tennis.tennis = some t) (found : std.book ticker = some c)
      (book : c.book = some b)
      (clear : Clear ctx.frame.policy ctx.pair.1 t b c.pendingMove ctx.now)
      (computed : fingerprint ctx.frame ctx.pair.1 ctx.pair.2 t b = .ok sealed)
      (remembered : c.lastEmission = some (emissionOf sealed t b)) :
      Verdict.Sound ctx std ⟨ticker, .trustedSynchronized,
        some ⟨t, b, c.causalPointWitness.map CausalPointWitness.revision⟩⟩

theorem Evaluated.sound (evaluated : Evaluated ctx std ticker next verdict)
    (valid : std.Valid ctx.pair) : verdict.Sound ctx next := by
  cases evaluated with
  | withheld reason untrusted => exact .withheld ticker reason untrusted
  | emitted t b c sealed found tennis book clear computed fresh =>
      have key : c.ticker = ticker := valid.ticker ticker c found
      have here : (std.set (c.emit sealed t b)).book ticker = some (c.emit sealed t b) :=
        if_pos key.symm
      exact .trusted ticker t b (c.emit sealed t b) sealed tennis here book clear computed rfl

/-- A verdict stays sound while another market is evaluated. -/
theorem Verdict.Sound.keep {std' : Standing} (sound : verdict.Sound ctx std)
    (tennis : std'.tennis = std.tennis) (book : std'.book verdict.ticker = std.book verdict.ticker) :
    verdict.Sound ctx std' := by
  cases sound with
  | withheld ticker reason untrusted => exact .withheld ticker reason untrusted
  | trusted ticker t b c sealed held found holds clear computed remembered =>
      exact .trusted ticker t b c sealed (tennis ▸ held) (book.trans found) holds clear computed
        remembered

/-! ## Several markets -/

theorem Standing.verdicts_cons {rest : List String} {verdicts : List Verdict}
    (answer : std.verdicts ctx (ticker :: rest) = .ok (next, verdicts)) :
    ∃ middle verdict others, Evaluated ctx std ticker middle verdict ∧
      Standing.verdicts ctx middle rest = .ok (next, others) ∧ verdicts = verdict :: others := by
  simp only [Standing.verdicts, bind_eq_ok, Prod.exists, pure_eq_ok, Prod.mk.injEq] at answer
  obtain ⟨middle, verdict, evaluated, _, others, later, rfl, rfl⟩ := answer
  exact ⟨middle, verdict, others, Standing.evaluate_cases evaluated, later, rfl⟩

theorem Standing.verdicts_nil {verdicts : List Verdict}
    (answer : std.verdicts ctx [] = .ok (next, verdicts)) : next = std ∧ verdicts = [] := by
  simp only [Standing.verdicts, pure_eq_ok, Prod.mk.injEq] at answer
  exact ⟨answer.1.symm, answer.2.symm⟩

/-- What the verdicts on several markets keep. -/
structure Judged (ctx : Context) (std : Standing) (tickers : List String) (next : Standing)
    (verdicts : List Verdict) : Prop where
  valid : next.Valid ctx.pair
  legal : next.Legal
  tennis : next.tennis = std.tennis
  other : ∀ other ∉ tickers, next.book other = std.book other
  tickers_eq : verdicts.map Verdict.ticker = tickers
  sound : ∀ verdict ∈ verdicts, verdict.Sound ctx next

theorem Standing.verdicts_judged {tickers : List String} {verdicts : List Verdict}
    (answer : std.verdicts ctx tickers = .ok (next, verdicts)) (valid : std.Valid ctx.pair)
    (legal : std.Legal) (distinct : tickers.Nodup) : Judged ctx std tickers next verdicts := by
  induction tickers generalizing std verdicts with
  | nil =>
      obtain ⟨rfl, rfl⟩ := Standing.verdicts_nil answer
      exact ⟨valid, legal, rfl, fun _ _ => rfl, rfl, fun _ member => nomatch member⟩
  | cons ticker rest ih =>
      obtain ⟨fresh, distinct⟩ := List.nodup_cons.mp distinct
      obtain ⟨middle, verdict, others, evaluated, later, rfl⟩ := Standing.verdicts_cons answer
      have judged := ih later (evaluated.valid valid) (evaluated.legal legal) distinct
      have key := evaluated.ticker_eq
      refine ⟨judged.valid, judged.legal, judged.tennis.trans evaluated.tennis, ?_, ?_, ?_⟩
      · intro other outside
        simp only [List.mem_cons, not_or] at outside
        rw [judged.other other outside.2, evaluated.other valid outside.1]
      · rw [List.map_cons, judged.tickers_eq, key]
      · intro v member
        rcases List.mem_cons.mp member with rfl | inside
        · exact (evaluated.sound valid).keep judged.tennis (judged.other _ (key ▸ fresh))
        · exact judged.sound v inside

end Inci.Sync
