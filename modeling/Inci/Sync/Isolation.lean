/-
# Sync.Isolation -- no match sees another

Deleting the calls about other matches from a successful run leaves a successful
run that treats the match the same.  The shortened run keeps the cursors of the
match (`Shadow`), and a reaction reads nothing else; only the numbers of the
emissions differ.
-/
import Inci.Sync.Emissions

namespace Inci.Sync

open Inci.Theory Inci.Expert Inci.Tennis Inci.Market Inci.Binding

set_option autoImplicit false

variable {s t last : SynchronizationSessionState} {evidence : SynchronizationInput}
  {now : PairedTimeObservation} {ctx : Context} {std : Standing} {m : String}

/-! ## Runs in which every call succeeds -/

def SynchronizationSessionState.run :
    SynchronizationSessionState → List SyncCall →
      Except ExpertError (SynchronizationSessionState × List (List SyncResult))
  | s, [] => pure (s, [])
  | s, c :: rest => do
      let t ← synchronize s c.evidence c.now
      let (last, results) ← SynchronizationSessionState.run t.state rest
      pure (last, t.results :: results)

/-- The call is about the match. -/
def SyncCall.about (m : String) (c : SyncCall) : Bool :=
  decide (c.evidence.canonicalMatchId = m)

/-- A result without the number of its emission. -/
def SyncResult.unnumbered (r : SyncResult) :
    String × String × SyncReason × Option TrustedSnapshot × Bool :=
  (r.canonicalMatchId, r.ticker, r.reason,
    r.snapshot.map fun snapshot => { snapshot with decisionSequence := 0 }, r.opportunity.isSome)

theorem Published.unnumbered {n n' : Nat} {verdict : Verdict} {r r' : SyncResult}
    (one : Published ctx n verdict r) (other : Published ctx n' verdict r') :
    r'.unnumbered = r.unnumbered := by
  have snapshots : ∀ k, (Option.map (Agreement.snapshot ctx k) verdict.agreement).map
      (fun snapshot => { snapshot with decisionSequence := 0 }) =
        verdict.agreement.map (Agreement.snapshot ctx 0) := by
    intro k
    rw [Option.map_map]
    rfl
  simp only [SyncResult.unnumbered, one.matchId, one.ticker, one.reason, one.snapshot,
    one.opportunity, other.matchId, other.ticker, other.reason, other.snapshot, other.opportunity,
    snapshots]

theorem PublishedAll.unnumbered {n n' : Nat} {verdicts : List Verdict} {rs rs' : List SyncResult}
    (one : PublishedAll ctx n verdicts rs) (other : PublishedAll ctx n' verdicts rs') :
    rs'.map SyncResult.unnumbered = rs.map SyncResult.unnumbered := by
  induction one generalizing n' rs' with
  | nil => cases other; rfl
  | cons first rest ih =>
      cases other with
      | cons first' rest' => rw [List.map_cons, List.map_cons, first.unnumbered first', ih rest']

/-! ## Publishing with smaller numbers -/

/-- What a published trusted verdict shows about the match. -/
theorem Published.built {n : Nat} {verdict : Verdict} {r : SyncResult}
    (published : Published ctx n verdict r) (good : s.Constructed)
    (frame : ctx.frame = s.toSessionFrame) (clock : ctx.now.postInit = .ok ()) {a : Agreement}
    (trusted : verdict.agreement = some a) : ctx.Built := by
  have snapshot := published.snapshot
  rw [trusted, Option.map_some] at snapshot
  have parts := published.parts
  simp only [SyncResult.checkParts, bind_eq_ok, exists_unit, checkSome_eq_ok] at parts
  have checked := parts.2.1 _ snapshot
  simp only [TrustedSnapshot.checkParts, bind_eq_ok, exists_unit] at checked
  exact ⟨frame ▸ good.universeDigest, frame ▸ good.policyDigest, checked.2.2.2.1, clock⟩

theorem publish_fewer {n n' : Nat} {verdict : Verdict} {r : SyncResult}
    (published : ctx.publish n verdict = .ok r) (fewer : n' ≤ n)
    (small : n + verdict.count < integerBound) (sound : verdict.Sound ctx std)
    (valid : std.Valid ctx.pair) (good : s.Constructed) (frame : ctx.frame = s.toSessionFrame)
    (clock : ctx.now.postInit = .ok ()) : ∃ r', ctx.publish n' verdict = .ok r' := by
  cases agreement : verdict.agreement with
  | none =>
      refine ⟨r, ?_⟩
      unfold Context.publish at published ⊢
      rw [agreement] at published ⊢
      exact published
  | some a =>
      have publication := publish_published published
      have built := publication.built good frame clock agreement
      have parts := publication.parts
      simp only [SyncResult.checkParts, SyncResult.postInit, bind_eq_ok, exists_unit,
        ticker_eq_ok] at parts
      exact publish_total sound valid built (publication.ticker ▸ parts.1.2.1) (by omega)

theorem publishAll_fewer {n n' : Nat} {verdicts : List Verdict} {rs : List SyncResult}
    (published : ctx.publishAll n verdicts = .ok rs) (fewer : n' ≤ n) (small : n < integerBound)
    (sound : ∀ verdict ∈ verdicts, verdict.Sound ctx std) (valid : std.Valid ctx.pair)
    (good : s.Constructed) (frame : ctx.frame = s.toSessionFrame)
    (clock : ctx.now.postInit = .ok ()) : ∃ rs', ctx.publishAll n' verdicts = .ok rs' := by
  induction verdicts generalizing n n' rs with
  | nil => exact ⟨[], rfl⟩
  | cons verdict rest ih =>
      simp only [Context.publishAll, bind_eq_ok, pure_eq_ok] at published
      obtain ⟨r, first, others, later, rfl⟩ := published
      have bounded := publish_small small first
      obtain ⟨r', first'⟩ := publish_fewer first fewer bounded
        (sound verdict (List.mem_cons_self ..)) valid good frame clock
      obtain ⟨others', later'⟩ := ih later (Nat.add_le_add_right fewer verdict.count) bounded
        (fun v inside => sound v (List.mem_cons_of_mem _ inside))
      exact ⟨r' :: others', bind_eq_ok.mpr ⟨r', first', bind_eq_ok.mpr ⟨others', later', rfl⟩⟩⟩

/-! ## The shortened run -/

/-- A session of the shortened run beside the one of the whole run. -/
structure Shadow (m : String) (s t : SynchronizationSessionState) : Prop where
  frame : t.toSessionFrame = s.toSessionFrame
  compatible : Compatible t
  tennis : t.tennisAt m = s.tennisAt m
  book : ∀ ticker, t.bookAt m ticker = s.bookAt m ticker
  fewer : t.decisionSequence ≤ s.decisionSequence
  earlier : ∀ o, t.lastObservation = some o → o.postInit = .ok () ∧
    ∃ o', s.lastObservation = some o' ∧ o.monotonicNs ≤ o'.monotonicNs ∧ o.wallNs ≤ o'.wallNs
  otherTennis : ∀ c ∈ t.tennisCursors, c.canonicalMatchId ≠ m → Encodes c.py
  otherBooks : ∀ c ∈ t.bookCursors, c.canonicalMatchId ≠ m → Encodes c.py

theorem Shadow.self (compatible : Compatible s) (encodes : Encodes s.py) : Shadow m s s := by
  obtain ⟨-, -, -, tennis, books⟩ := session_encodes.mp encodes
  exact ⟨rfl, compatible, rfl, fun _ => rfl, le_rfl,
    fun o here => ⟨compatible.good.observation o here, o, here, le_rfl, le_rfl⟩,
    fun c inside _ => tennis c inside, fun c inside _ => books c inside⟩

theorem Shadow.encodes (shadow : Shadow m s t) (good : s.Constructed) (encodes : Encodes s.py) :
    Encodes t.py := by
  obtain ⟨artifacts, number, -, tennis, books⟩ := session_encodes.mp encodes
  refine session_encodes.mpr ⟨?_, shadow.compatible.good.decisions, ?_, ?_, ?_⟩
  · rw [shadow.frame]
    exact artifacts
  · exact fun o here => PairedTimeObservation.encodes (shadow.earlier o here).1
  · intro c inside
    by_cases here : c.canonicalMatchId = m
    · have found := shadow.compatible.good.tennisAt_eq_some.mpr ⟨inside, here⟩
      rw [shadow.tennis] at found
      exact tennis c (good.tennisAt_eq_some.mp found).1
    · exact shadow.otherTennis c inside here
  · intro c inside
    by_cases here : c.canonicalMatchId = m
    · have found := shadow.compatible.good.bookAt_eq_some.mpr ⟨inside, here, rfl⟩
      rw [shadow.book] at found
      exact books c (good.bookAt_eq_some.mp found).1
    · exact shadow.otherBooks c inside here

/-- What a successful call says about the digests of the session and the input. -/
theorem synchronize_encodes {r : SynchronizationTransitionResult}
    (answer : synchronize s evidence now = .ok r) : Encodes s.py ∧ Encodes evidence.py := by
  obtain ⟨ctx, std, admitted⟩ := admitted_of_ok answer
  obtain ⟨last, verdicts, rs, -, -, recorded⟩ := admitted.synchronize_eq_ok.mp answer
  simp only [transition, bind_eq_ok, exists_unit] at recorded
  obtain ⟨_, input, _, prior, -⟩ := recorded
  exact ⟨encodes_of_digest prior, encodes_of_digest input⟩

/-- A call about another match leaves the shortened run where it is. -/
theorem Shadow.skip (shadow : Shadow m s t) {r : SynchronizationTransitionResult}
    (answer : synchronize s evidence now = .ok r) (other : evidence.canonicalMatchId ≠ m) :
    Shadow m r.state t := by
  obtain ⟨ctx, std, admitted⟩ := admitted_of_ok answer
  obtain ⟨last, verdicts, -, advanced⟩ := admitted.advanced answer
  have different : m ≠ matchOf ctx.pair := fun same => other (admitted.about.symm.trans same.symm)
  have kept := advanced.valid.put_other (s := s.observe ctx.now)
    (s.decisionSequence + emissions verdicts) different
  refine ⟨?_, shadow.compatible, ?_, ?_, ?_, ?_, shadow.otherTennis, shadow.otherBooks⟩
  · rw [shadow.frame, advanced.state]
    rfl
  · rw [shadow.tennis, advanced.state, kept.1]
    rfl
  · intro ticker
    rw [shadow.book, advanced.state, kept.2 ticker]
    rfl
  · rw [advanced.state]
    exact shadow.fewer.trans (Nat.le_add_right ..)
  · intro o here
    obtain ⟨good, o', before, monotonic, wall⟩ := shadow.earlier o here
    have forward := admitted.forward
    simp only [observationRegresses, before, Option.mem_def, Option.some.injEq, exists_eq_left',
      decide_eq_false_iff_not, not_or, not_lt] at forward
    refine ⟨good, now, ?_, monotonic.trans forward.1, wall.trans forward.2⟩
    rw [advanced.state, ← admitted.clock]
    rfl

/-- The shortened run is admitted where the whole run is. -/
theorem Shadow.admitted (shadow : Shadow m s t) (admitted : Admitted s evidence now ctx std)
    (here : evidence.canonicalMatchId = m) : Admitted t evidence now ctx std := by
  have matchId : matchOf ctx.pair = m := admitted.about.trans here
  have frame := (compatible_iff.mp admitted.compatible).1
  refine ⟨?_, admitted.observation, ?_, admitted.input, ?_, admitted.clock, ?_, admitted.about, ?_⟩
  · exact compatible_iff.mpr ⟨shadow.frame ▸ frame, shadow.compatible⟩
  · have forward := admitted.forward
    simp only [observationRegresses, Option.mem_def, decide_eq_false_iff_not, not_exists, not_and,
      not_or, not_lt] at forward ⊢
    intro o present
    obtain ⟨-, o', before, monotonic, wall⟩ := shadow.earlier o present
    obtain ⟨later, laterWall⟩ := forward o' before
    exact ⟨monotonic.trans later, wall.trans laterWall⟩
  · rw [admitted.frame, shadow.frame]
  · rw [shadow.frame]
    exact admitted.member
  · refine ⟨?_, fun ticker => ?_⟩
    · rw [matchId, shadow.tennis, ← matchId]
      exact admitted.stands.tennis
    · rw [matchId, shadow.book, ← matchId]
      exact admitted.stands.book ticker

theorem put_legal (compatible : Compatible s) (legal : std.Legal) (n : Nat)
    {c : TennisSyncCursor} (inside : c ∈ (putIn ctx s std n).tennisCursors)
    {state : TennisState} (held : c.tennis = some state) :
    validateTennisState state = .ok () := by
  obtain ⟨old, before, rfl⟩ := List.mem_map.mp inside
  unfold putTennis at held
  split_ifs at held
  · exact legal state held
  · exact compatible.legal old before state held

/-- A call about the match succeeds in the shortened run too, and says the same. -/
theorem Shadow.step (shadow : Shadow m s t) {r : SynchronizationTransitionResult}
    (answer : synchronize s evidence now = .ok r) (here : evidence.canonicalMatchId = m) :
    ∃ r', synchronize t evidence now = .ok r' ∧ Shadow m r.state r'.state ∧
      r'.results.map SyncResult.unnumbered = r.results.map SyncResult.unnumbered := by
  obtain ⟨ctx, std, admitted⟩ := admitted_of_ok answer
  obtain ⟨last, verdicts, rs, reacts, published, recorded⟩ := admitted.synchronize_eq_ok.mp answer
  obtain ⟨state, results⟩ := transition_eq_ok recorded
  have encodable := synchronize_encodes answer
  have admitted' := shadow.admitted admitted here
  have matchId : matchOf ctx.pair = m := admitted.about.trans here
  have reacted := react_reacted reacts admitted.ready.valid admitted.ready.legal
    admitted.constructed admitted.distinct
  have clock : ctx.now.postInit = .ok () := admitted.clock ▸ admitted.observation
  obtain ⟨rs', published'⟩ := publishAll_fewer published shadow.fewer admitted.good.decisions
    reacted.sound reacted.valid admitted.good admitted.frame clock
  have after := admitted'.ready.reacted admitted'.constructed reacts published'
  obtain ⟨inputSha256, sealed, -⟩ := digest_of_encodes encodable.2
  obtain ⟨priorSha256, prior, -⟩ := digest_of_encodes (shadow.encodes admitted.good encodable.1)
  have recorded' := transition_total admitted' reacts published' after.good sealed prior
  have stands := reacted.valid.put_stands (s.decisionSequence + emissions verdicts)
    admitted.observed admitted.member
  have stands' := after.stands
  refine ⟨_, admitted'.synchronize_eq_ok.mpr ⟨last, verdicts, rs', reacts, published', recorded'⟩,
    ?_, ?_⟩
  · refine ⟨?_, ⟨after.good, fun c inside state held => ?_⟩, ?_, ?_, ?_, ?_, ?_, ?_⟩
    · rw [state]
      exact shadow.frame
    · exact put_legal (s := t.observe now) ⟨admitted'.observed, shadow.compatible.legal⟩
        reacted.legal _ inside held
    · rw [state, ← matchId]
      exact stands'.tennis.trans stands.tennis.symm
    · intro ticker
      rw [state, ← matchId]
      exact (stands'.book ticker).trans (stands.book ticker).symm
    · rw [state]
      exact Nat.add_le_add_right shadow.fewer _
    · intro o observed
      obtain rfl : now = o := Option.some.inj observed
      refine ⟨admitted.observation, now, ?_, le_rfl, le_rfl⟩
      rw [state]
      rfl
    · intro c inside other
      obtain ⟨old, before, rfl⟩ := List.mem_map.mp inside
      unfold putTennis at other ⊢
      split_ifs at other ⊢ with same
      · exact absurd (reacted.valid.tennis.matchId.trans matchId) other
      · exact shadow.otherTennis old before other
    · intro c inside other
      obtain ⟨old, before, rfl⟩ := List.mem_map.mp inside
      have key := congrArg Prod.fst (reacted.valid.putBook_key old)
      have key : (putBook (matchOf ctx.pair) last old).canonicalMatchId = old.canonicalMatchId := key
      rw [key] at other
      unfold putBook
      rw [if_neg (matchId ▸ other)]
      exact shadow.otherBooks old before other
  · rw [results]
    exact (publishAll_published published).unnumbered (publishAll_published published')

theorem Shadow.run (shadow : Shadow m s t) {calls : List SyncCall}
    {results : List (List SyncResult)} (succeeds : s.run calls = .ok (last, results)) :
    ∃ last' results', t.run (calls.filter (SyncCall.about m)) = .ok (last', results') ∧
      Shadow m last last' ∧
      results'.map (List.map SyncResult.unnumbered) =
        ((calls.zip results).filter fun answered => answered.1.about m).map
          fun answered => answered.2.map SyncResult.unnumbered := by
  induction calls generalizing s t results with
  | nil =>
      simp only [SynchronizationSessionState.run, pure_eq_ok, Prod.mk.injEq] at succeeds
      obtain ⟨rfl, rfl⟩ := succeeds
      exact ⟨t, [], rfl, shadow, rfl⟩
  | cons c rest ih =>
      simp only [SynchronizationSessionState.run, bind_eq_ok, pure_eq_ok, Prod.exists,
        Prod.mk.injEq] at succeeds
      obtain ⟨r, answer, last, others, later, rfl, rfl⟩ := succeeds
      by_cases here : c.evidence.canonicalMatchId = m
      · obtain ⟨r', answer', shadow', same⟩ := shadow.step answer here
        obtain ⟨last', results', runs, ended, agree⟩ := ih shadow' later
        have kept : c.about m = true := decide_eq_true here
        refine ⟨last', r'.results :: results', ?_, ended, ?_⟩
        · rw [List.filter_cons_of_pos kept]
          exact bind_eq_ok.mpr ⟨r', answer', bind_eq_ok.mpr ⟨_, runs, rfl⟩⟩
        · rw [List.zip_cons_cons, List.filter_cons_of_pos (by exact kept), List.map_cons,
            List.map_cons, agree, same]
      · obtain ⟨last', results', runs, ended, agree⟩ := ih (shadow.skip answer here) later
        have dropped : ¬c.about m = true := by simpa [SyncCall.about] using here
        refine ⟨last', results', ?_, ended, ?_⟩
        · rw [List.filter_cons_of_neg dropped]
          exact runs
        · rw [List.zip_cons_cons, List.filter_cons_of_neg (by exact dropped)]
          exact agree

/-- A successful run without the calls about other matches succeeds, leaves the match the
same cursors and answers its calls the same. -/
theorem run_isolated {calls : List SyncCall} {results : List (List SyncResult)}
    (succeeds : s.run calls = .ok (last, results)) (m : String) :
    ∃ last' results', s.run (calls.filter (SyncCall.about m)) = .ok (last', results') ∧
      last'.tennisAt m = last.tennisAt m ∧
      (∀ ticker, last'.bookAt m ticker = last.bookAt m ticker) ∧
      results'.map (List.map SyncResult.unnumbered) =
        ((calls.zip results).filter fun answered => answered.1.about m).map
          fun answered => answered.2.map SyncResult.unnumbered := by
  cases calls with
  | nil =>
      simp only [SynchronizationSessionState.run, pure_eq_ok, Prod.mk.injEq] at succeeds
      obtain ⟨rfl, rfl⟩ := succeeds
      exact ⟨s, [], rfl, rfl, fun _ => rfl, rfl⟩
  | cons c rest =>
      have first := succeeds
      simp only [SynchronizationSessionState.run, bind_eq_ok] at first
      obtain ⟨r, answer, -⟩ := first
      obtain ⟨ctx, std, admitted⟩ := admitted_of_ok answer
      have shadow : Shadow m s s :=
        .self (compatible_iff.mp admitted.compatible).2 (synchronize_encodes answer).1
      obtain ⟨last', results', runs, ended, agree⟩ := shadow.run succeeds
      exact ⟨last', results', runs, ended.tennis, ended.book, agree⟩

/-! ## Calls about different matches commute -/

theorem synchronize_next {r : SynchronizationTransitionResult}
    (answer : synchronize s evidence now = .ok r) :
    r.state.Constructed ∧ r.state.toSessionFrame = s.toSessionFrame ∧
      r.state.decisionSequence = s.decisionSequence + (trustedResults r.results).length := by
  obtain ⟨ctx, std, admitted⟩ := admitted_of_ok answer
  obtain ⟨last, verdicts, rs, reacts, published, recorded⟩ := admitted.synchronize_eq_ok.mp answer
  obtain ⟨-, -, -, advanced⟩ := admitted.advanced answer
  obtain ⟨state, results⟩ := transition_eq_ok recorded
  have reacted := react_reacted reacts admitted.ready.valid admitted.ready.legal
    admitted.constructed admitted.distinct
  have after := admitted.ready.reacted admitted.constructed reacts published
  refine ⟨state ▸ after.good, state ▸ rfl, ?_⟩
  rw [results, (trusted_numbered (publishAll_published published) reacted.sound).1, state]
  rfl

theorem unnumbered_trusted {rs rs' : List SyncResult}
    (same : rs'.map SyncResult.unnumbered = rs.map SyncResult.unnumbered) :
    (trustedResults rs').length = (trustedResults rs).length := by
  have counts : ∀ l : List SyncResult, (trustedResults l).length =
      ((l.map SyncResult.unnumbered).filter fun r => r.2.2.1 = .trustedSynchronized).length := by
    intro l
    rw [List.filter_map, List.length_map]
    rfl
  rw [counts, counts, same]

theorem run_pair {a b : SyncCall} {results : List (List SyncResult)}
    (succeeds : s.run [a, b] = .ok (last, results)) :
    ∃ r r', synchronize s a.evidence a.now = .ok r ∧
      synchronize r.state b.evidence b.now = .ok r' ∧ last = r'.state ∧
      results = [r.results, r'.results] := by
  simp only [SynchronizationSessionState.run, bind_eq_ok, pure_eq_ok, Prod.exists,
    Prod.mk.injEq] at succeeds
  obtain ⟨r, first, u, _, ⟨r', second, _, _, ⟨rfl, rfl⟩, rfl, rfl⟩, rfl, rfl⟩ := succeeds
  exact ⟨r, r', first, second, rfl, rfl⟩

theorem sessions_equal {u v : SynchronizationSessionState} (good : u.Constructed)
    (good' : v.Constructed) (frame : u.toSessionFrame = v.toSessionFrame)
    (number : u.decisionSequence = v.decisionSequence)
    (tennis : ∀ m, u.tennisAt m = v.tennisAt m)
    (book : ∀ m ticker, u.bookAt m ticker = v.bookAt m ticker) :
    { u with lastObservation := v.lastObservation } = v := by
  have tennisCursors : u.tennisCursors = v.tennisCursors := by
    refine keyed_ext ?_ good.tennis_nodup tennis
    rw [good.tennisKeys, good'.tennisKeys, frame]
  have bookCursors : u.bookCursors = v.bookCursors := by
    refine keyed_ext ?_ good.book_nodup fun key => book key.1 key.2
    have keys : u.bookCursors.map bookKey = u.expectedBooks := good.bookKeys
    have keys' : v.bookCursors.map bookKey = v.expectedBooks := good'.bookKeys
    rw [keys, keys', frame]
  cases u
  cases v
  simp_all

/-- Two calls about different matches: both orders leave the same session but for the last
observation, and answer each call the same but for the numbers. -/
theorem calls_commute {u v : SynchronizationSessionState} {a b : SyncCall}
    {results results' : List (List SyncResult)}
    (different : a.evidence.canonicalMatchId ≠ b.evidence.canonicalMatchId)
    (one : s.run [a, b] = .ok (u, results)) (other : s.run [b, a] = .ok (v, results')) :
    { u with lastObservation := v.lastObservation } = v ∧
      results'.map (List.map SyncResult.unnumbered) =
        (results.map (List.map SyncResult.unnumbered)).reverse := by
  have alone : ∀ m, [a, b].filter (SyncCall.about m) = [b, a].filter (SyncCall.about m) := by
    intro m
    by_cases here : a.evidence.canonicalMatchId = m
    · have elsewhere : b.evidence.canonicalMatchId ≠ m := fun there => different (here.trans there.symm)
      simp [SyncCall.about, here, elsewhere]
    · simp [List.filter_cons, SyncCall.about, here]
  have agree : ∀ m, v.tennisAt m = u.tennisAt m ∧ (∀ ticker, v.bookAt m ticker = u.bookAt m ticker) ∧
      ((([b, a].zip results').filter fun answered => answered.1.about m).map
          fun answered => answered.2.map SyncResult.unnumbered) =
        (([a, b].zip results).filter fun answered => answered.1.about m).map
          fun answered => answered.2.map SyncResult.unnumbered := by
    intro m
    obtain ⟨w, rs, run, tennis, book, same⟩ := run_isolated one m
    obtain ⟨w', rs', run', tennis', book', same'⟩ := run_isolated other m
    rw [← alone m, run] at run'
    obtain ⟨rfl, rfl⟩ := Prod.mk.inj (Except.ok.inj run')
    exact ⟨tennis'.symm.trans tennis, fun ticker => (book' ticker).symm.trans (book ticker),
      same'.symm.trans same⟩
  obtain ⟨ra, rb, firstA, secondB, rfl, rfl⟩ := run_pair one
  obtain ⟨rb', ra', firstB, secondA, rfl, rfl⟩ := run_pair other
  have sameA : ra'.results.map SyncResult.unnumbered = ra.results.map SyncResult.unnumbered := by
    simpa [SyncCall.about, List.filter_cons, different.symm] using
      (agree a.evidence.canonicalMatchId).2.2
  have sameB : rb'.results.map SyncResult.unnumbered = rb.results.map SyncResult.unnumbered := by
    simpa [SyncCall.about, List.filter_cons, different] using
      (agree b.evidence.canonicalMatchId).2.2
  obtain ⟨-, frameA, numberA⟩ := synchronize_next firstA
  obtain ⟨goodU, frameU, numberU⟩ := synchronize_next secondB
  obtain ⟨-, frameB, numberB⟩ := synchronize_next firstB
  obtain ⟨goodV, frameV, numberV⟩ := synchronize_next secondA
  refine ⟨sessions_equal goodU goodV ?_ ?_ ?_ ?_, ?_⟩
  · rw [frameU, frameA, frameV, frameB]
  · rw [numberU, numberA, numberV, numberB, unnumbered_trusted sameA, unnumbered_trusted sameB]
    omega
  · exact fun m => ((agree m).1).symm
  · exact fun m ticker => ((agree m).2.1 ticker).symm
  · simp [sameA, sameB]

/-- Match isolation: deleting the calls about other matches from a successful run leaves a
successful run with the same cursors and answers for the match, and calls about different
matches commute but for the numbers of the emissions. -/
theorem match_isolation :
    (∀ (s last : SynchronizationSessionState) (calls : List SyncCall)
      (results : List (List SyncResult)) (m : String), s.run calls = .ok (last, results) →
      ∃ last' results', s.run (calls.filter (SyncCall.about m)) = .ok (last', results') ∧
        last'.tennisAt m = last.tennisAt m ∧
        (∀ ticker, last'.bookAt m ticker = last.bookAt m ticker) ∧
        results'.map (List.map SyncResult.unnumbered) =
          ((calls.zip results).filter fun answered => answered.1.about m).map
            fun answered => answered.2.map SyncResult.unnumbered) ∧
    ∀ (s u v : SynchronizationSessionState) (a b : SyncCall)
      (results results' : List (List SyncResult)),
      a.evidence.canonicalMatchId ≠ b.evidence.canonicalMatchId →
      s.run [a, b] = .ok (u, results) → s.run [b, a] = .ok (v, results') →
      { u with lastObservation := v.lastObservation } = v ∧
        results'.map (List.map SyncResult.unnumbered) =
          (results.map (List.map SyncResult.unnumbered)).reverse :=
  ⟨fun _ _ _ _ m succeeds => run_isolated succeeds m,
    fun _ _ _ _ _ _ _ different one other => calls_commute different one other⟩

/-- A clock call about a match. -/
def clockCall (pair : MatchBinding × BindingMetadata) : SyncCall :=
  ⟨clockInput (matchOf pair) pair.1.homeMarketTicker, openingNow⟩

/-- Two clock calls of the opening session. -/
theorem opening_run {pair pair' : MatchBinding × BindingMetadata}
    (member : pair ∈ openingUniverse.pairs) (member' : pair' ∈ openingUniverse.pairs) :
    ∃ last results, opening.run [clockCall pair, clockCall pair'] = .ok (last, results) := by
  have unobserved : ∀ o : PairedTimeObservation, none = some o → o.postInit = .ok () :=
    fun _ here => (nomatch here)
  have observed : ∀ o, some openingNow = some o → o.postInit = .ok () := by
    rintro o same
    obtain rfl := Option.some.inj same
    exact openingNow_constructed
  have first : observationRegresses (openAt openingUniverse openingPolicy none) openingNow = false := by
    simp [observationRegresses, openAt]
  have second : observationRegresses (openAt openingUniverse openingPolicy (some openingNow))
      openingNow = false := by
    simp [observationRegresses, openAt]
  obtain ⟨t, answer, state⟩ := openAt_clock opening_artifacts unobserved openingUniverse_encodes
    openingNow_constructed first member
  obtain ⟨t', answer', -⟩ := openAt_clock opening_artifacts observed openingUniverse_encodes
    openingNow_constructed second member'
  refine ⟨t'.state, [t.results, t'.results], bind_eq_ok.mpr ⟨t, answer, ?_⟩⟩
  rw [state]
  exact bind_eq_ok.mpr ⟨(t'.state, [t'.results]), bind_eq_ok.mpr ⟨t', answer', rfl⟩, rfl⟩

theorem match_isolation_opening :
    (∃ last results last' results',
      opening.run [clockCall firstPair, clockCall secondPair] = .ok (last, results) ∧
      opening.run ([clockCall firstPair, clockCall secondPair].filter (SyncCall.about "match-1")) =
        .ok (last', results') ∧ last'.tennisAt "match-1" = last.tennisAt "match-1") ∧
    ∃ u v results results',
      opening.run [clockCall firstPair, clockCall secondPair] = .ok (u, results) ∧
      opening.run [clockCall secondPair, clockCall firstPair] = .ok (v, results') ∧
      { u with lastObservation := v.lastObservation } = v := by
  have first : firstPair ∈ openingUniverse.pairs := List.mem_cons_self ..
  have second : secondPair ∈ openingUniverse.pairs := List.mem_cons_of_mem _ (List.mem_cons_self ..)
  obtain ⟨u, results, runs⟩ := opening_run first second
  obtain ⟨v, results', runs'⟩ := opening_run second first
  obtain ⟨last', shortened, succeeds, tennis, -⟩ := match_isolation.1 _ _ _ _ "match-1" runs
  have commutes := match_isolation.2 _ _ _ _ _ _ _ (by decide) runs runs'
  exact ⟨⟨u, results, last', shortened, runs, succeeds, tennis⟩,
    ⟨u, v, results, results', runs, runs', commutes.1⟩⟩

end Inci.Sync
