/-
# Sync.Locality -- the session step is the reaction of one match

Every function of the synchronizer that takes the session computes what its
standing does, and puts the new standing back (`evaluate_eq`, `ingest_eq`,
`results_eq_ok`).  The only thing the session adds is the number of an emission.
-/
import Inci.Sync.Evaluation

namespace Inci.Sync

open Inci.Theory Inci.Expert Inci.Tennis Inci.Market Inci.Binding

set_option autoImplicit false

/-! ## Publishing a verdict -/

def Agreement.snapshot (ctx : Context) (decisionSequence : Nat) (a : Agreement) :
    TrustedSnapshot :=
  { decisionSequence
    decisionTime := ctx.now
    tennis := a.tennis
    book := a.book
    binding := ctx.pair.1
    syncPolicySha256 := ctx.frame.syncPolicySha256
    causalProviderRevision := a.causalProviderRevision }

/-- The result of a verdict after `decided` emissions. -/
def Context.publish (ctx : Context) (decided : Nat) (verdict : Verdict) :
    Except ExpertError SyncResult :=
  match verdict.agreement with
  | none => withheld ctx.pair.1.canonicalMatchId verdict.ticker verdict.reason
  | some agreement => do
      let snapshot ← trustedSnapshot (agreement.snapshot ctx (decided + 1))
      let opportunity ← opportunity ctx.frame ctx.pair.1 snapshot
      syncResult
        ⟨ctx.pair.1.canonicalMatchId, verdict.ticker, some snapshot, some opportunity,
          verdict.reason⟩

/-- How many emissions a verdict makes. -/
def Verdict.count (verdict : Verdict) : Nat := if verdict.agreement.isSome then 1 else 0

def emissions (verdicts : List Verdict) : Nat := (verdicts.map Verdict.count).sum

def Context.publishAll (ctx : Context) : Nat → List Verdict → Except ExpertError (List SyncResult)
  | _, [] => pure []
  | decided, verdict :: rest => do
      let result ← ctx.publish decided verdict
      let results ← Context.publishAll ctx (decided + verdict.count) rest
      pure (result :: results)

/-! ## Putting a standing back -/

/-- The reaction is about a match of the session. -/
structure Context.Of (ctx : Context) (s : SynchronizationSessionState) : Prop where
  frame : ctx.frame = s.toSessionFrame
  member : ctx.pair ∈ s.bindingUniverse.pairs

variable {s : SynchronizationSessionState} {ctx : Context} {std std' : Standing}

/-- The session keeps this standing for the match of the context. -/
abbrev Keeps (ctx : Context) (s : SynchronizationSessionState) (std : Standing) : Prop :=
  s.Stands (matchOf ctx.pair) std

abbrev putIn (ctx : Context) (s : SynchronizationSessionState) (std : Standing) (n : Nat) :
    SynchronizationSessionState := s.put (matchOf ctx.pair) std n

theorem stands_tennis (good : s.Constructed) (stands : Keeps ctx s std) {tc : TennisSyncCursor}
    (inside : tc ∈ s.tennisCursors) (here : tc.canonicalMatchId = matchOf ctx.pair) :
    tc = std.tennis := by
  have found := good.tennisAt_eq_some.mpr ⟨inside, here⟩
  exact Option.some.inj (found.symm.trans stands.tennis)

theorem stands_book (good : s.Constructed) (stands : Keeps ctx s std) {c : BookSyncCursor}
    (inside : c ∈ s.bookCursors) (here : c.canonicalMatchId = matchOf ctx.pair) :
    std.book c.ticker = some c :=
  (stands.book c.ticker).symm.trans (good.bookAt_eq_some.mpr ⟨inside, here, rfl⟩)

theorem put_tennis_self (good : s.Constructed) (stands : Keeps ctx s std)
    (same : std'.tennis = std.tennis) :
    s.tennisCursors.map (putTennis (matchOf ctx.pair) std') = s.tennisCursors := by
  refine (List.map_congr_left fun tc inside => ?_).trans (List.map_id _)
  unfold putTennis
  split_ifs with here
  · exact same.trans (stands_tennis good stands inside here).symm
  · rfl

/-- Putting the standing back that is there changes nothing. -/
theorem put_self (good : s.Constructed) (stands : Keeps ctx s std) :
    putIn ctx s std s.decisionSequence = s := by
  have books : s.bookCursors.map (putBook (matchOf ctx.pair) std) = s.bookCursors := by
    refine (List.map_congr_left fun c inside => ?_).trans (List.map_id _)
    unfold putBook
    split_ifs with here
    · rw [stands_book good stands inside here]
      rfl
    · rfl
  unfold putIn SynchronizationSessionState.put
  rw [put_tennis_self good stands rfl, books]

theorem replaceBook_eq (good : s.Constructed) (stands : Keeps ctx s std) {c : BookSyncCursor}
    (matchId : c.canonicalMatchId = matchOf ctx.pair) :
    replaceBook s.bookCursors c = s.bookCursors.map (putBook (matchOf ctx.pair) (std.set c)) := by
  refine List.map_congr_left fun item inside => ?_
  unfold putBook
  by_cases here : item.canonicalMatchId = matchOf ctx.pair
  · rw [if_pos here, Standing.set_book, matchId]
    by_cases same : item.ticker = c.ticker
    · simp [here, same]
    · simp [here, same, stands_book good stands inside here]
  · rw [if_neg here, matchId, if_neg fun both => here both.1]

/-- Replacing one book cursor is putting the standing with it back. -/
theorem put_set (good : s.Constructed) (stands : Keeps ctx s std) {c : BookSyncCursor}
    (matchId : c.canonicalMatchId = matchOf ctx.pair) (n : Nat) :
    { s with decisionSequence := n, bookCursors := replaceBook s.bookCursors c } =
      putIn ctx s (std.set c) n := by
  unfold putIn SynchronizationSessionState.put
  rw [put_tennis_self good stands (rfl : (std.set c).tennis = std.tennis), replaceBook_eq good stands matchId]

/-! ## Emissions of a session -/

/-- The books of the two standings have the same last emissions. -/
def SameEmissions (std std' : Standing) : Prop :=
  ∀ ticker, (std'.book ticker).map BookSyncCursor.lastEmission =
    (std.book ticker).map BookSyncCursor.lastEmission

theorem put_emitted_keep (good : s.Constructed) (stands : Keeps ctx s std)
    (same : SameEmissions std std') :
    (∃ c ∈ (putIn ctx s std' s.decisionSequence).bookCursors, c.lastEmission.isSome) ↔
      0 < s.decisionSequence := by
  have kept : ∀ c ∈ s.bookCursors,
      (putBook (matchOf ctx.pair) std' c).lastEmission = c.lastEmission := by
    intro c inside
    unfold putBook
    split_ifs with here
    · have emissions := same c.ticker
      rw [stands_book good stands inside here] at emissions
      cases found : std'.book c.ticker with
      | none => rfl
      | some c' =>
          rw [found] at emissions
          exact Option.some.inj emissions
    · rfl
  rw [← good.emitted]
  constructor
  · rintro ⟨_, inside, emitted⟩
    obtain ⟨c, before, rfl⟩ := List.mem_map.mp inside
    exact ⟨c, before, kept c before ▸ emitted⟩
  · rintro ⟨c, inside, emitted⟩
    exact ⟨_, List.mem_map_of_mem inside, (kept c inside).symm ▸ emitted⟩

theorem put_emitted_new (good : s.Constructed) (member : ctx.pair ∈ s.bindingUniverse.pairs)
    (valid : std'.Valid ctx.pair) {c : BookSyncCursor} {ticker : String} (n : Nat)
    (found : std'.book ticker = some c) (emitted : c.lastEmission.isSome) :
    (∃ c ∈ (putIn ctx s std' (n + 1)).bookCursors, c.lastEmission.isSome) ↔ 0 < n + 1 := by
  refine ⟨fun _ => Nat.succ_pos n, fun _ => ⟨c, ?_, emitted⟩⟩
  have here := (valid.put_stands (n + 1) good member).book ticker
  rw [found] at here
  exact List.mem_of_find?_eq_some here

/-- The conditions on a session under which the step is the reaction. -/
structure Ready (ctx : Context) (s : SynchronizationSessionState) (std : Standing) : Prop where
  good : s.Constructed
  of : ctx.Of s
  observed : s.lastObservation ≠ none
  stands : Keeps ctx s std
  legal : std.Legal

theorem Ready.valid (ready : Ready ctx s std) : std.Valid ctx.pair :=
  ready.good.valid ready.of.member ready.stands

/-- A session stays ready with another valid standing of the match. -/
theorem Ready.put (ready : Ready ctx s std) (valid : std'.Valid ctx.pair) (legal : std'.Legal)
    {n : Nat} (small : n < integerBound)
    (emitted : (∃ c ∈ (putIn ctx s std' n).bookCursors, c.lastEmission.isSome) ↔ 0 < n) :
    Ready ctx (putIn ctx s std' n) std' where
  good := put_constructed ready.good ready.of.member valid ready.observed small emitted
  of := ⟨ready.of.frame, ready.of.member⟩
  observed := ready.observed
  stands := valid.put_stands n ready.good ready.of.member
  legal := legal

/-! ## Evaluation -/

/-- The step of the session after a verdict. -/
def concluded (ctx : Context) (s : SynchronizationSessionState) (verdict : Standing × Verdict) :
    Except ExpertError (SynchronizationSessionState × SyncResult) := do
  let result ← ctx.publish s.decisionSequence verdict.2
  pure (putIn ctx s verdict.1 (s.decisionSequence + verdict.2.count), result)

theorem bind_congr_ok {ε α β : Type} {x : Except ε α} {f g : α → Except ε β}
    (same : ∀ a, x = .ok a → f a = g a) : (x >>= f) = (x >>= g) := by
  cases x with
  | error e => rfl
  | ok a => exact same a rfl

theorem concluded_withheld (ready : Ready ctx s std) (ticker : String) (reason : SyncReason) :
    concluded ctx s (std, .withheld ticker reason) =
      (do let result ← withheld ctx.pair.1.canonicalMatchId ticker reason; pure (s, result)) := by
  unfold concluded
  refine bind_congr_ok fun result _ => ?_
  exact congrArg (fun s' => Except.ok (s', result)) (put_self ready.good ready.stands)

theorem decided_of_snapshot {snapshot snapshot' : TrustedSnapshot}
    (built : trustedSnapshot snapshot = .ok snapshot') :
    snapshot' = snapshot ∧ snapshot.decisionSequence < integerBound := by
  simp only [trustedSnapshot, TrustedSnapshot.postInit, bind_eq_ok, exists_unit,
    positiveInteger_eq_ok, pure_eq_ok] at built
  obtain ⟨⟨⟨small, -⟩, -⟩, rfl⟩ := built
  exact ⟨rfl, small⟩

/-- The session with an emission is constructed. -/
theorem emitted_session {t : TennisState} {b : BookState} {c : BookSyncCursor} {sealed : String}
    (ready : Ready ctx s std) (valid : (std.set (c.emit sealed t b)).Valid ctx.pair)
    (matchId : c.canonicalMatchId = matchOf ctx.pair)
    (small : s.decisionSequence + 1 < integerBound) :
    session { s with
      decisionSequence := s.decisionSequence + 1
      bookCursors := replaceBook s.bookCursors (c.emit sealed t b) } =
      .ok (putIn ctx s (std.set (c.emit sealed t b)) (s.decisionSequence + 1)) := by
  rw [put_set ready.good ready.stands (c := c.emit sealed t b) matchId, session_eq_ok]
  refine ⟨?_, rfl⟩
  have emitted := put_emitted_new ready.good ready.of.member valid s.decisionSequence
    (Standing.set_self std (c.emit sealed t b)) rfl
  exact (ready.put valid ready.legal small emitted).good

theorem evaluate_eq (ready : Ready ctx s std) (ticker : String) :
    evaluate s ctx.pair.1 ctx.pair.2 ticker ctx.now =
      (do let verdict ← std.evaluate ctx ticker; concluded ctx s verdict) := by
  have tennisHere : selectedTennisCursor s ctx.pair.1.canonicalMatchId = .ok std.tennis := by
    rw [selectedTennisCursor_eq ready.good]
    exact congrArg required ready.stands.tennis
  have bookHere : selectedBookCursor s ctx.pair.1.canonicalMatchId ticker =
      required (std.book ticker) := by
    rw [selectedBookCursor_eq ready.good]
    exact congrArg required (ready.stands.book ticker)
  have policy : s.policy = ctx.frame.policy := by rw [ready.of.frame]
  unfold evaluate Standing.evaluate
  simp only [tennisHere, bookHere, ok_bind, bind_assoc, policy]
  refine bind_congr_ok fun c found => ?_
  have found : std.book ticker = some c := required_eq_ok.mp found
  refine bind_congr_ok fun reason blocked => ?_
  cases reason with
  | some reason =>
      simp only [pure_bind]
      exact (concluded_withheld ready ticker reason).symm
  | none =>
      obtain ⟨t, b, tennis, book, clear⟩ := blockReason_none blocked
      simp only [tennis, book, ready.of.frame, bind_assoc]
      refine bind_congr_ok fun sealed computed => ?_
      split_ifs with already
      · simp only [pure_bind]
        exact (concluded_withheld ready ticker _).symm
      · simp only [bind_assoc, pure_bind]
        refine bind_congr_ok fun _ _ => ?_
        have ok := ready.valid.book ticker c found
        have key : c.ticker = ticker := ready.valid.ticker ticker c found
        have digest : IsSha256 sealed := fingerprint_isSha256 computed
        have constructed := (ready.valid.tennis.holding tennis).constructed
        have emitting := ok.emit tennis book constructed digest
        have remember : lastSyncEmission (emissionOf sealed t b) = .ok (emissionOf sealed t b) := by
          simp [lastSyncEmission,
            emissionOf_postInit digest constructed (ok.holding book).constructed]
        have valid : (std.set (c.emit sealed t b)).Valid ctx.pair := by
          refine Standing.set_valid ready.valid (c := c) ?_ emitting
          show std.book c.ticker = some c
          rw [key, found]
        unfold concluded Context.publish
        simp only [bind_assoc, ready.of.frame]
        simp only [Agreement.snapshot, ready.of.frame]
        refine bind_congr_ok fun snapshot built => ?_
        refine bind_congr_ok fun opportunity _ => ?_
        have small := (decided_of_snapshot built).2
        have emittedCursor := emitting.construct
        have emittedSession := emitted_session ready valid ok.matchId small
        simp only [BookSyncCursor.emit, emissionOf, book] at remember emittedCursor emittedSession ⊢
        simp only [remember, emittedCursor, emittedSession, ok_bind]
        rfl

end Inci.Sync
