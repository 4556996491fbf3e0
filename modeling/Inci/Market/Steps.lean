/-
# Market.Steps -- what one operation can do to a book

Each operation either leaves a gap, keeps the book or accepts its event.  The
inversion lemmas say which, with every condition the operation checked, and the
rest of the development reads them instead of the branches.
-/
import Inci.Market.Book

namespace Inci.Market

open Inci.Theory Inci.Expert

set_option autoImplicit false

theorem BookLevel.construct_eq_ok {l t : BookLevel} :
    l.construct = .ok t ↔ l.postInit = .ok () ∧ l = t := by
  simp [BookLevel.construct]

theorem BookState.construct_eq_ok {s t : BookState} :
    s.construct = .ok t ↔ s.postInit = .ok () ∧ s = t := by
  simp [BookState.construct]

theorem BookTransitionResult.construct_eq_ok {r t : BookTransitionResult} :
    r.construct = .ok t ↔ r.postInit = .ok () ∧ r = t := by
  simp [BookTransitionResult.construct]

/-- The result of an operation that accepts nothing. -/
def unaccepted (state : BookState) : BookTransitionResult :=
  { state
    acceptedEventKind := none
    acceptedEventSha256 := none
    executableMove := 0
    moveObservedMonotonicNs := none
    connectionEpoch := state.connectionEpoch
    sequence := state.sequence
    topOfBookChanged := false }

theorem noEvent_eq_ok {s : BookState} {r : BookTransitionResult} (answer : noEvent s = .ok r) :
    r = unaccepted s :=
  (BookTransitionResult.construct_eq_ok.mp answer).2.symm

theorem gap_eq_ok {s : BookState} {r : BookTransitionResult} (answer : gap s = .ok r) :
    (gapped s).postInit = .ok () ∧ r = unaccepted (gapped s) := by
  simp only [gap, bind_eq_ok, BookState.construct_eq_ok] at answer
  obtain ⟨_, ⟨constructed, rfl⟩, answer⟩ := answer
  exact ⟨constructed, noEvent_eq_ok answer⟩

/-! ## Totality of a gap -/

theorem gapped_postInit {s : BookState} (good : s.postInit = .ok ()) :
    (gapped s).postInit = .ok () := by
  simp only [BookState.postInit, bind_eq_ok, exists_unit] at good ⊢
  obtain ⟨h1, h2, h3, h4, h5, h6, h7, h8, h9, h10, ladders, -, rest⟩ := good
  exact ⟨h1, h2, h3, h4, h5, h6, h7, h8, h9, h10, ladders, rfl, rest⟩

theorem unaccepted_postInit {s : BookState} (good : s.postInit = .ok ()) :
    (unaccepted s).postInit = .ok () := by
  simp only [BookState.postInit, bind_eq_ok, exists_unit, integer_eq_ok, positiveInteger_eq_ok]
    at good
  obtain ⟨-, epoch, sequence, -⟩ := good
  simp [BookTransitionResult.postInit, unaccepted, epoch, sequence, Decimal.le_def]

/-- A constructed book always takes a gap. -/
theorem gap_total {s : BookState} (good : s.postInit = .ok ()) :
    gap s = .ok (unaccepted (gapped s)) := by
  have constructed := gapped_postInit good
  simp only [gap, BookState.construct_eq_ok.mpr ⟨constructed, rfl⟩, ok_bind]
  exact BookTransitionResult.construct_eq_ok.mpr ⟨unaccepted_postInit constructed, rfl⟩

/-! ## Crossing -/

/-- Two prices cross in the context of the contracts when their exact sum exceeds
one by more than half a unit of the 79th place. -/
theorem crossed_eq {yes no : BookLevel} {yesBids noBids : List BookLevel}
    (yesPrice : 0 ≤ yes.price ∧ yes.price ≤ 1) (noPrice : 0 ≤ no.price ∧ no.price ≤ 1) :
    crossed (yes :: yesBids) (no :: noBids) =
      .ok (decide (1 + 1 / 2 * 10 ^ (-79 : ℤ) < yes.price.value + no.price.value)) := by
  simp only [Decimal.le_def, Decimal.zero_value, Decimal.one_value] at yesPrice noPrice
  obtain ⟨x, sum⟩ : ∃ x, x = yes.price.value + no.price.value := ⟨_, rfl⟩
  have low : 0 ≤ x := by linarith
  have high : x ≤ 2 := by linarith
  have tail : (0 : ℚ) < 10 ^ (-79 : ℤ) := zpow_pos (by norm_num) _
  have rounded : |decimalContext.roundValue x| < 10 ∧
      (1 < decimalContext.roundValue x ↔ 1 + 1 / 2 * 10 ^ (-79 : ℤ) < x) := by
    rcases low.eq_or_lt with zero | positive
    · rw [← zero]
      refine ⟨by simp [DecimalContext.roundValue], ?_⟩
      constructor
      · intro more; simp [DecimalContext.roundValue] at more; linarith
      · intro more; linarith
    have units := decimalContext.quantum_nonpos (by decide) (by decide) positive (by linarith)
    have least := DecimalContext.le_roundValue (n := 0) units (by exact_mod_cast low)
    have most := DecimalContext.roundValue_le (n := 2) units (by exact_mod_cast high)
    push_cast at least most
    refine ⟨by rw [abs_of_nonneg least]; linarith, ?_⟩
    rcases le_or_gt 1 x with above | below
    · simpa [decimalContext] using decimalContext.one_lt_roundValue
        (by decide) (by decide) above (by linarith)
    · have stay := DecimalContext.roundValue_le (n := 1) units (by exact_mod_cast below.le)
      push_cast at stay
      constructor
      · intro more; linarith
      · intro more; linarith
  simp only [crossed, contextAdd, ← sum]
  rw [decimalContext.round_total _ (by decide) rounded.1, ok_bind]
  simp only [Decimal.lt_def, Decimal.one_value, rounded.2]
  rfl

/-! ## Inversion -/

theorem bookFromSnapshot_cases {snapshot : BookSnapshot} {r : BookTransitionResult}
    (answer : bookFromSnapshot snapshot = .ok r) :
    ∃ digest, expertContractSha256 snapshot.py = .ok digest ∧
      (snapshotState snapshot 0 digest).postInit = .ok () ∧
      r = accepted (snapshotState snapshot 0 digest) .snapshot snapshot.observedMonotonicNs false := by
  simp only [bookFromSnapshot, bind_eq_ok, BookState.construct_eq_ok,
    BookTransitionResult.construct_eq_ok] at answer
  obtain ⟨digest, encoded, _, ⟨constructed, rfl⟩, -, rfl⟩ := answer
  exact ⟨digest, encoded, constructed, rfl⟩

/-- What `require_book_resnapshot` does. -/
theorem requireBookResnapshot_cases {s t : BookState} (answer : requireBookResnapshot s = .ok t) :
    (s.trusted = false ∧ s.sequenceGap = true ∧ t = s) ∨
      ((gapped s).postInit = .ok () ∧ t = gapped s) := by
  unfold requireBookResnapshot at answer
  split_ifs at answer with already
  · rw [pure_eq_ok] at answer
    exact .inl ⟨already.1, already.2, answer.symm⟩
  · obtain ⟨constructed, rfl⟩ := BookState.construct_eq_ok.mp answer
    exact .inr ⟨constructed, rfl⟩

/-- The conditions under which a replacement snapshot is considered at all. -/
structure Replaceable (s : BookState) (snapshot : BookSnapshot) : Prop where
  ticker : snapshot.ticker = s.ticker
  untrusted : s.trusted = false
  gap : s.sequenceGap = true
  newer : s.connectionEpoch < snapshot.connectionEpoch
  bookTime : s.bookObservedMonotonicNs ≤ snapshot.observedMonotonicNs
  lifecycleTime : s.lifecycleObservedMonotonicNs ≤ snapshot.observedMonotonicNs

theorem applyBookSnapshot_cases {s : BookState} {snapshot : BookSnapshot}
    {r : BookTransitionResult} (answer : applyBookSnapshot s snapshot = .ok r) :
    Replaceable s snapshot ∧
      ((statusTransitionAllowed s.marketStatus snapshot.marketStatus = false ∧
          (gapped s).postInit = .ok () ∧ r = unaccepted (gapped s)) ∨
        (statusTransitionAllowed s.marketStatus snapshot.marketStatus = true ∧
          ∃ move digest,
            executableMove s.yesBids s.noBids snapshot.yesBids snapshot.noBids = .ok move ∧
            expertContractSha256 snapshot.py = .ok digest ∧
            (snapshotState snapshot move digest).postInit = .ok () ∧
            r = accepted (snapshotState snapshot move digest) .snapshot
              snapshot.observedMonotonicNs (decide (0 < move)))) := by
  simp only [applyBookSnapshot, bind_eq_ok, exists_unit, refuse_eq_ok] at answer
  obtain ⟨ticker, required, stale, same, time, answer⟩ := answer
  simp only [not_not, not_or, Bool.not_eq_true, Bool.not_eq_false, not_lt, max_le_iff] at ticker required time
  refine ⟨⟨ticker, required.1, required.2, by omega, time.1, time.2⟩, ?_⟩
  split_ifs at answer with status
  · exact .inl ⟨status, gap_eq_ok answer⟩
  · simp only [arithmetic, bind_eq_ok, recover_eq_ok, BookState.construct_eq_ok,
      BookTransitionResult.construct_eq_ok] at answer
    obtain ⟨move, moved, digest, encoded, _, ⟨constructed, rfl⟩, -, rfl⟩ := answer
    exact .inr ⟨by simpa using status, move, digest, moved, encoded, constructed, rfl⟩

/-- The delta is the next one of its trusted book. -/
structure InSequence (s : BookState) (delta : BookDelta) : Prop where
  epoch : delta.connectionEpoch = s.connectionEpoch
  time : s.bookObservedMonotonicNs ≤ delta.observedMonotonicNs
  sequence : delta.sequence = s.sequence + 1

theorem applyBookDelta_cases {s : BookState} {delta : BookDelta} {r : BookTransitionResult}
    (answer : applyBookDelta s delta = .ok r) :
    delta.ticker = s.ticker ∧ s.trusted = true ∧ s.sequenceGap = false ∧
      s.connectionEpoch ≤ delta.connectionEpoch ∧
      (((gapped s).postInit = .ok () ∧ r = unaccepted (gapped s)) ∨
        (InSequence s delta ∧ ∃ yesBids noBids move digest,
          deltaLevels s delta = .ok (some (yesBids, noBids, move)) ∧
          expertContractSha256 delta.py = .ok digest ∧
          (deltaState s delta yesBids noBids move digest).postInit = .ok () ∧
          r = accepted (deltaState s delta yesBids noBids move digest) .delta
            delta.observedMonotonicNs (decide (0 < move)))) := by
  simp only [applyBookDelta, bind_eq_ok, exists_unit, refuse_eq_ok] at answer
  obtain ⟨ticker, trusted, stale, answer⟩ := answer
  simp only [not_not, not_or, Bool.not_eq_true, Bool.not_eq_false] at ticker trusted
  refine ⟨ticker, trusted.1, trusted.2, by omega, ?_⟩
  split_ifs at answer with newer earlier repeated skipped
  iterate 4 exact .inl (gap_eq_ok answer)
  simp only [arithmetic, bind_eq_ok, recover_eq_ok] at answer
  obtain ⟨levels, computed, answer⟩ := answer
  split at answer
  · exact .inl (gap_eq_ok answer)
  · rename_i yesBids noBids move
    simp only [bind_eq_ok, BookState.construct_eq_ok, BookTransitionResult.construct_eq_ok]
      at answer
    obtain ⟨digest, encoded, _, ⟨constructed, rfl⟩, -, rfl⟩ := answer
    exact .inr ⟨⟨by omega, by omega, by omega⟩, yesBids, noBids, move, digest, computed, encoded,
      constructed, rfl⟩

/-- The result that accepts a lifecycle event. -/
def acceptedLifecycle (state : BookState) : BookTransitionResult :=
  { state
    acceptedEventKind := some .lifecycle
    acceptedEventSha256 := some state.lastEventSha256
    executableMove := 0
    moveObservedMonotonicNs := none
    connectionEpoch := state.connectionEpoch
    sequence := state.sequence
    topOfBookChanged := false }

theorem applyMarketLifecycle_cases {s : BookState} {lifecycle : MarketLifecycle}
    {r : BookTransitionResult} (answer : applyMarketLifecycle s lifecycle = .ok r) :
    lifecycle.ticker = s.ticker ∧ s.connectionEpoch ≤ lifecycle.connectionEpoch ∧
      (((gapped s).postInit = .ok () ∧ r = unaccepted (gapped s)) ∨ r = unaccepted s ∨
        (lifecycle.connectionEpoch = s.connectionEpoch ∧
          s.lifecycleObservedMonotonicNs < lifecycle.observedMonotonicNs ∧
          statusTransitionAllowed s.marketStatus lifecycle.marketStatus = true ∧
          ∃ digest, expertContractSha256 lifecycle.py = .ok digest ∧
            (lifecycleState s lifecycle digest).postInit = .ok () ∧
            r = acceptedLifecycle (lifecycleState s lifecycle digest))) := by
  simp only [applyMarketLifecycle, bind_eq_ok, exists_unit, refuse_eq_ok] at answer
  obtain ⟨ticker, stale, answer⟩ := answer
  refine ⟨not_not.mp ticker, by omega, ?_⟩
  rw [ite_eq_iff] at answer
  rcases answer with ⟨-, answer⟩ | ⟨newer, answer⟩
  · exact .inl (gap_eq_ok answer)
  simp only [bind_eq_ok, exists_unit, refuse_eq_ok] at answer
  obtain ⟨earlier, answer⟩ := answer
  split_ifs at answer with same unchanged status
  · exact .inr (.inl (noEvent_eq_ok answer))
  · exact .inl (gap_eq_ok answer)
  · exact .inl (gap_eq_ok answer)
  · simp only [bind_eq_ok, BookState.construct_eq_ok, BookTransitionResult.construct_eq_ok]
      at answer
    obtain ⟨digest, encoded, _, ⟨constructed, rfl⟩, -, rfl⟩ := answer
    exact .inr (.inr ⟨by omega, by omega, by simpa using status, digest, encoded, constructed, rfl⟩)

end Inci.Market
