/-
# Market.Reconstruction -- a trusted book is its snapshot with its deltas

The abstract book is a map from prices to quantities for each side: a snapshot
is a pair of maps and a delta sets or deletes one price.  Over every run of the
book operations the ladders list the maps of the last accepted snapshot with the
deltas accepted since, which are numbered without gap or repeat; and once a delta
breaks the sequence nothing but a snapshot of a newer connection epoch changes
the ladders or restores the trust.
-/
import Inci.Market.Steps
import Mathlib.Logic.Function.Basic

namespace Inci.Market

open Inci.Theory Inci.Expert

set_option autoImplicit false

/-! ## The abstract book -/

abbrev PriceMap := Decimal → Option Decimal

/-- The map a ladder lists. -/
def levelMap (levels : List BookLevel) : PriceMap :=
  fun price => (find BookLevel.price levels price).map BookLevel.quantity

/-- A ladder lists a map: strictly descending prices with the map's quantities. -/
def Lists (levels : List BookLevel) (m : PriceMap) : Prop :=
  Descending BookLevel.price levels ∧ ∀ price, levelMap levels price = m price

/-- A delta on the map of one side: quantity zero deletes, any other one sets. -/
def applyToMap (side : ContractSide) (m : PriceMap) (delta : BookDelta) : PriceMap :=
  if delta.contractSide = side then
    Function.update m delta.price (if delta.quantity = 0 then none else some delta.quantity)
  else m

def BookSnapshot.bids (snapshot : BookSnapshot) : ContractSide → List BookLevel
  | .yes => snapshot.yesBids
  | .no => snapshot.noBids

def BookState.bids (state : BookState) : ContractSide → List BookLevel
  | .yes => state.yesBids
  | .no => state.noBids

/-- The map of a side: the snapshot's, with the deltas applied in order. -/
def reconstructed (snapshot : BookSnapshot) (deltas : List BookDelta) (side : ContractSide) :
    PriceMap :=
  deltas.foldl (applyToMap side) (levelMap (snapshot.bids side))

/-! ## Ladders as maps -/

theorem validateLadder_eq_ok {name : String} {levels : List BookLevel} {u : Unit} :
    validateLadder name levels = .ok u ↔ Descending BookLevel.price levels := by
  induction levels with
  | nil => simp [validateLadder, Descending]
  | cons a rest ih =>
      cases rest with
      | nil => simp [validateLadder, Descending]
      | cons b rest =>
          simp only [validateLadder, bind_eq_ok, exists_unit, refuse_eq_ok, not_le, ih]
          constructor
          · rintro ⟨below, descending⟩
            refine List.pairwise_cons.mpr ⟨?_, descending⟩
            intro c member
            rcases List.mem_cons.mp member with rfl | later
            · exact below
            · exact lt_trans ((List.pairwise_cons.mp descending).1 c later) below
          · intro descending
            obtain ⟨below, rest⟩ := List.pairwise_cons.mp descending
            exact ⟨below b (List.mem_cons_self ..), rest⟩

/-- The level a delta leaves at its price. -/
def levelAfter (delta : BookDelta) : Option BookLevel :=
  if delta.quantity = 0 then none else some ⟨delta.price, delta.quantity⟩

/-- The ladder of a side after a delta. -/
def bidsAfter (state : BookState) (delta : BookDelta) (side : ContractSide) : List BookLevel :=
  if delta.contractSide = side then
    update BookLevel.price (state.bids side) delta.price (levelAfter delta)
  else state.bids side

theorem levelAfter_price {delta : BookDelta} {level : BookLevel}
    (left : levelAfter delta = some level) : level.price = delta.price := by
  unfold levelAfter at left
  split_ifs at left
  obtain rfl := Option.some.inj left
  rfl

/-- A delta on a ladder is the delta on its map. -/
theorem lists_bidsAfter {state : BookState} {side : ContractSide} {m : PriceMap}
    (delta : BookDelta) (lists : Lists (state.bids side) m) :
    Lists (bidsAfter state delta side) (applyToMap side m delta) := by
  unfold bidsAfter applyToMap
  by_cases here : delta.contractSide = side
  · rw [if_pos here, if_pos here]
    refine ⟨update_descending lists.1.nodup fun level => levelAfter_price, fun price => ?_⟩
    rw [levelMap, find_update lists.1.nodup fun level => levelAfter_price]
    by_cases same : price = delta.price
    · subst same
      simp only [if_true, levelAfter, Function.update_self]
      split_ifs <;> rfl
    · rw [if_neg same, Function.update_of_ne same]
      exact lists.2 price
  · rw [if_neg here, if_neg here]
    exact lists

theorem selectedLevels_eq (state : BookState) (delta : BookDelta) :
    selectedLevels state delta = state.bids delta.contractSide := by
  unfold selectedLevels
  cases delta.contractSide <;> rfl

theorem deltaLevel_eq_ok {delta : BookDelta} {level : Option BookLevel}
    (computed : deltaLevel delta = .ok level) : level = levelAfter delta := by
  unfold deltaLevel at computed
  unfold levelAfter
  split_ifs at computed ⊢
  · exact (pure_eq_ok _ _).mp computed |>.symm
  · obtain ⟨built, constructed, rfl⟩ := map_eq_ok.mp computed
    simp only [BookLevel.construct, bind_eq_ok, exists_unit, pure_eq_ok] at constructed
    rw [← constructed.2]

theorem deltaLevels_eq_ok {state : BookState} {delta : BookDelta} {yesBids noBids : List BookLevel}
    {move : Decimal} (computed : deltaLevels state delta = .ok (some (yesBids, noBids, move))) :
    yesBids = bidsAfter state delta .yes ∧ noBids = bidsAfter state delta .no := by
  unfold deltaLevels at computed
  rw [selectedLevels_eq] at computed
  rw [ite_eq_iff] at computed
  rcases computed with ⟨-, computed⟩ | ⟨-, computed⟩
  · simp at computed
  obtain ⟨level, built, computed⟩ := bind_eq_ok.mp computed
  obtain ⟨cross, -, computed⟩ := bind_eq_ok.mp computed
  obtain rfl := deltaLevel_eq_ok built
  rw [ite_eq_iff] at computed
  rcases computed with ⟨-, computed⟩ | ⟨-, computed⟩
  · simp at computed
  simp only [bind_eq_ok, pure_eq_ok, Option.some.injEq, Prod.mk.injEq] at computed
  obtain ⟨_, -, rfl, rfl, rfl⟩ := computed
  cases side : delta.contractSide <;> simp [bidsAfter, side, BookState.bids]

/-! ## Runs -/

/-- A call of one of the operations on the current book. -/
inductive BookCall where
  | snapshot (snapshot : BookSnapshot)
  | delta (delta : BookDelta)
  | lifecycle (lifecycle : MarketLifecycle)
  | resnapshot

/-- The event of the call passed its constructor. -/
def BookCall.Constructed : BookCall → Prop
  | .snapshot s => s.postInit = .ok ()
  | .delta d => d.postInit = .ok ()
  | .lifecycle l => l.postInit = .ok ()
  | .resnapshot => True

/-- The state a call returns, and the kind of event it accepted. -/
def callBook (state : BookState) : BookCall → Except ExpertError (BookState × Option BookEventKind)
  | .snapshot s => (fun r => (r.state, r.acceptedEventKind)) <$> applyBookSnapshot state s
  | .delta d => (fun r => (r.state, r.acceptedEventKind)) <$> applyBookDelta state d
  | .lifecycle l => (fun r => (r.state, r.acceptedEventKind)) <$> applyMarketLifecycle state l
  | .resnapshot => (fun s => (s, none)) <$> requireBookResnapshot state

/-- A call that raises leaves the state as it was. -/
def stepBook (state : BookState) (call : BookCall) : BookState × Option BookEventKind :=
  match callBook state call with
  | .ok next => next
  | .error _ => (state, none)

/-- A run of calls, with what each accepted. -/
def runBook (state : BookState) :
    List BookCall → BookState × List (BookCall × Option BookEventKind)
  | [] => (state, [])
  | call :: rest =>
      let next := stepBook state call
      let last := runBook next.1 rest
      (last.1, (call, next.2) :: last.2)

/-- The last accepted snapshot with the deltas accepted after it. -/
structure History where
  snapshot : BookSnapshot
  deltas : List BookDelta

def History.record (h : History) : BookCall × Option BookEventKind → History
  | (.snapshot s, some .snapshot) => ⟨s, []⟩
  | (.delta d, some .delta) => { h with deltas := h.deltas ++ [d] }
  | _ => h

def History.of (first : BookSnapshot) (log : List (BookCall × Option BookEventKind)) : History :=
  log.foldl History.record ⟨first, []⟩

/-- What a call does to the book, as far as its ladders and its place are concerned. -/
inductive BookMove (s : BookState) : BookCall → BookState × Option BookEventKind → Prop where
  /-- Only the trust or the market side changed, and nothing became trusted. -/
  | kept (call : BookCall) (next : BookState) (kind : Option BookEventKind)
      (yesBids : next.yesBids = s.yesBids) (noBids : next.noBids = s.noBids)
      (epoch : next.connectionEpoch = s.connectionEpoch) (sequence : next.sequence = s.sequence)
      (trusted : next.trusted = true → s.trusted = true)
      (unaccepted : kind = none ∨ kind = some .lifecycle)
      (constructed : s.postInit = .ok () → next.postInit = .ok ()) : BookMove s call (next, kind)
  | replaced (snapshot : BookSnapshot) (move : Decimal) (digest : String)
      (replaceable : Replaceable s snapshot)
      (constructed : (snapshotState snapshot move digest).postInit = .ok ()) :
      BookMove s (.snapshot snapshot) (snapshotState snapshot move digest, some .snapshot)
  | advanced (delta : BookDelta) (move : Decimal) (digest : String) (trusted : s.trusted = true)
      (inSequence : InSequence s delta)
      (constructed : (deltaState s delta (bidsAfter s delta .yes) (bidsAfter s delta .no)
        move digest).postInit = .ok ()) :
      BookMove s (.delta delta) (deltaState s delta (bidsAfter s delta .yes) (bidsAfter s delta .no)
        move digest, some .delta)

theorem BookMove.ofGap (s : BookState) (call : BookCall) :
    BookMove s call ((unaccepted (gapped s)).state, (unaccepted (gapped s)).acceptedEventKind) :=
  .kept call (gapped s) none rfl rfl rfl rfl (by simp [gapped]) (.inl rfl) gapped_postInit

theorem stepBook_move (s : BookState) (call : BookCall) : BookMove s call (stepBook s call) := by
  unfold stepBook
  cases answer : callBook s call with
  | error _ => exact .kept call s none rfl rfl rfl rfl id (.inl rfl) id
  | ok next =>
      cases call with
      | snapshot snapshot =>
          obtain ⟨r, returned, rfl⟩ := map_eq_ok.mp answer
          obtain ⟨replaceable, ⟨-, -, rfl⟩ | ⟨-, move, digest, -, -, constructed, rfl⟩⟩ :=
            applyBookSnapshot_cases returned
          · exact .ofGap s _
          · exact .replaced snapshot move digest replaceable constructed
      | delta delta =>
          obtain ⟨r, returned, rfl⟩ := map_eq_ok.mp answer
          obtain ⟨-, trusted, -, -, ⟨-, rfl⟩ | ⟨inSequence, yesBids, noBids, move, digest, computed,
            -, constructed, rfl⟩⟩ := applyBookDelta_cases returned
          · exact .ofGap s _
          · obtain ⟨rfl, rfl⟩ := deltaLevels_eq_ok computed
            exact .advanced delta move digest trusted inSequence constructed
      | lifecycle lifecycle =>
          obtain ⟨r, returned, rfl⟩ := map_eq_ok.mp answer
          obtain ⟨-, -, ⟨-, rfl⟩ | rfl | ⟨-, -, -, digest, -, constructed, rfl⟩⟩ :=
            applyMarketLifecycle_cases returned
          · exact .ofGap s _
          · exact .kept _ s none rfl rfl rfl rfl id (.inl rfl) id
          · exact .kept _ _ _ rfl rfl rfl rfl id (.inr rfl) fun _ => constructed
      | resnapshot =>
          obtain ⟨t, returned, rfl⟩ := map_eq_ok.mp answer
          rcases requireBookResnapshot_cases returned with ⟨-, -, rfl⟩ | ⟨-, rfl⟩
          · exact .kept _ _ _ rfl rfl rfl rfl id (.inl rfl) id
          · exact .ofGap s _

/-! ## The ladders of a run -/

/-- The book is what its history says. -/
structure Reconstructs (h : History) (s : BookState) : Prop where
  lists : ∀ side, Lists (s.bids side) (reconstructed h.snapshot h.deltas side)
  epoch : s.connectionEpoch = h.snapshot.connectionEpoch
  epochs : ∀ d ∈ h.deltas, d.connectionEpoch = h.snapshot.connectionEpoch
  sequence : s.sequence = h.snapshot.sequence + h.deltas.length
  sequences : h.deltas.map BookDelta.sequence = List.range' (h.snapshot.sequence + 1) h.deltas.length

theorem reconstructs_snapshot {snapshot : BookSnapshot} {move : Decimal} {digest : String}
    (constructed : (snapshotState snapshot move digest).postInit = .ok ()) :
    Reconstructs ⟨snapshot, []⟩ (snapshotState snapshot move digest) := by
  refine ⟨fun side => ⟨?_, fun _ => ?_⟩, rfl, by simp, rfl, rfl⟩
  · simp only [BookState.postInit, bind_eq_ok, exists_unit, validateBookLadders,
      validateLadder_eq_ok] at constructed
    obtain ⟨-, -, -, -, -, -, -, -, -, -, ⟨yes, no, -⟩, -⟩ := constructed
    cases side
    · exact yes
    · exact no
  · cases side <;> rfl

theorem BookMove.reconstructs {h : History} {s : BookState} {call : BookCall}
    {next : BookState × Option BookEventKind} (move : BookMove s call next)
    (reconstructs : Reconstructs h s) : Reconstructs (h.record (call, next.2)) next.1 := by
  cases move with
  | kept call next kind yesBids noBids epoch sequence trusted unaccepted _ =>
      have same : h.record (call, kind) = h := by
        rcases unaccepted with rfl | rfl <;> cases call <;> rfl
      simp only [same]
      refine ⟨fun side => ?_, epoch.trans reconstructs.epoch, reconstructs.epochs,
        sequence.trans reconstructs.sequence, reconstructs.sequences⟩
      have bids : next.bids side = s.bids side := by
        cases side
        · exact yesBids
        · exact noBids
      rw [bids]
      exact reconstructs.lists side
  | replaced snapshot move digest _ constructed => exact reconstructs_snapshot constructed
  | advanced delta move digest trusted inSequence _ =>
      refine ⟨fun side => ?_, ?_, ?_, ?_, ?_⟩
      · have step := lists_bidsAfter delta (reconstructs.lists side)
        simp only [History.record, reconstructed, List.foldl_append, List.foldl_cons,
          List.foldl_nil]
        cases side
        · exact step
        · exact step
      · exact inSequence.epoch.trans reconstructs.epoch
      · intro d member
        simp only [History.record, List.mem_append, List.mem_singleton] at member
        rcases member with earlier | rfl
        · exact reconstructs.epochs d earlier
        · exact inSequence.epoch.trans reconstructs.epoch
      · have place := reconstructs.sequence
        have next := inSequence.sequence
        simp only [History.record, deltaState, List.length_append, List.length_singleton]
        omega
      · have place := reconstructs.sequence
        have next := inSequence.sequence
        simp only [History.record, List.map_append, List.map_cons, List.map_nil,
          reconstructs.sequences, List.length_append, List.length_singleton]
        rw [List.range'_concat]
        congr 2
        omega

theorem runBook_reconstructs (calls : List BookCall) :
    ∀ {h : History} {s : BookState}, Reconstructs h s →
      Reconstructs ((runBook s calls).2.foldl History.record h) (runBook s calls).1 := by
  induction calls with
  | nil => exact fun reconstructs => reconstructs
  | cons call rest ih =>
      intro h s reconstructs
      exact ih ((stepBook_move s call).reconstructs reconstructs)

/-! ## Broken sequences -/

/-- A delta of the book's ticker, not of an older epoch, that the book cannot take. -/
inductive Breaks (s : BookState) (delta : BookDelta) : Prop where
  | newerEpoch (newer : s.connectionEpoch < delta.connectionEpoch)
  | backInTime (earlier : delta.observedMonotonicNs < s.bookObservedMonotonicNs)
  | repeats (again : delta.sequence ≤ s.sequence)
  | skips (ahead : s.sequence + 1 < delta.sequence)
  | deletesMissing (zero : delta.quantity = 0)
      (missing : levelMap (s.bids delta.contractSide) delta.price = none)
  | crosses (cross : crossed (bidsAfter s delta .yes) (bidsAfter s delta .no) = .ok true)

theorem deltaLevel_total {delta : BookDelta} (good : delta.postInit = .ok ()) :
    deltaLevel delta = .ok (levelAfter delta) := by
  simp only [BookDelta.postInit, bind_eq_ok, exists_unit, probability_eq_ok, quantity_eq_ok] at good
  obtain ⟨-, -, -, -, -, -, price, quantity⟩ := good
  unfold deltaLevel levelAfter
  split_ifs with zero
  · rfl
  · have positive : 0 < delta.quantity := lt_of_le_of_ne quantity (Ne.symm zero)
    simp [BookLevel.construct, BookLevel.postInit, price, positive]

theorem deltaLevels_breaks {s : BookState} {delta : BookDelta} (good : delta.postInit = .ok ())
    (broken : (delta.quantity = 0 ∧ levelMap (s.bids delta.contractSide) delta.price = none) ∨
      crossed (bidsAfter s delta .yes) (bidsAfter s delta .no) = .ok true) :
    deltaLevels s delta = .ok none := by
  unfold deltaLevels
  rw [selectedLevels_eq]
  have missing_iff : levelMap (s.bids delta.contractSide) delta.price = none ↔
      ((s.bids delta.contractSide).findIdx? fun l => l.price = delta.price) = none := by
    simp [levelMap, find]
  rw [missing_iff] at broken
  by_cases missing : delta.quantity = 0 ∧
      ((s.bids delta.contractSide).findIdx? fun l => l.price = delta.price) = none
  · rw [if_pos missing]
    rfl
  · have cross := broken.resolve_left missing
    rw [if_neg missing, deltaLevel_total good, ok_bind]
    cases side : delta.contractSide <;>
      simp only [bidsAfter, side, if_true, reduceCtorEq, if_false, BookState.bids] at cross ⊢ <;>
      rw [cross] <;> rfl

/-- A delta that breaks the sequence leaves a gap. -/
theorem applyBookDelta_breaks {s : BookState} {delta : BookDelta} (book : s.postInit = .ok ())
    (good : delta.postInit = .ok ()) (trusted : s.trusted = true) (ticker : delta.ticker = s.ticker)
    (epoch : s.connectionEpoch ≤ delta.connectionEpoch) (breaks : Breaks s delta) :
    applyBookDelta s delta = .ok (unaccepted (gapped s)) := by
  have noGap : s.sequenceGap = false := by
    simp only [BookState.postInit, bind_eq_ok, exists_unit, refuse_eq_ok] at book
    obtain ⟨-, -, -, -, -, -, -, -, -, -, -, agree, -⟩ := book
    simpa [trusted] using agree
  have falls := gap_total book
  simp only [applyBookDelta, refuse, ticker, trusted, noGap, ne_eq, not_true_eq_false, if_false,
    reduceCtorEq, or_self, Bool.false_eq_true, if_neg (Nat.not_lt.mpr epoch), ok_bind]
  split_ifs with newer earlier again ahead
  iterate 4 exact falls
  have broken : (delta.quantity = 0 ∧ levelMap (s.bids delta.contractSide) delta.price = none) ∨
      crossed (bidsAfter s delta .yes) (bidsAfter s delta .no) = .ok true := by
    cases breaks with
    | newerEpoch h => exact absurd h newer
    | backInTime h => exact absurd h earlier
    | repeats h => exact absurd h again
    | skips h => exact absurd h ahead
    | deletesMissing zero missing => exact .inl ⟨zero, missing⟩
    | crosses cross => exact .inr cross
  rw [deltaLevels_breaks good broken]
  exact falls

/-! ## Untrusted books -/

theorem stepBook_constructed {s : BookState} (call : BookCall) (good : s.postInit = .ok ()) :
    (stepBook s call).1.postInit = .ok () := by
  have move := stepBook_move s call
  revert move
  generalize stepBook s call = next
  intro move
  cases move with
  | kept _ _ _ _ _ _ _ _ _ constructed => exact constructed good
  | replaced _ _ _ _ constructed => exact constructed
  | advanced _ _ _ _ _ constructed => exact constructed

theorem runBook_constructed (calls : List BookCall) :
    ∀ {s : BookState}, s.postInit = .ok () → (runBook s calls).1.postInit = .ok () := by
  induction calls with
  | nil => exact id
  | cons call rest ih => exact fun good => ih (stepBook_constructed call good)

theorem runBook_append (s : BookState) (xs ys : List BookCall) :
    (runBook s (xs ++ ys)).1 = (runBook (runBook s xs).1 ys).1 := by
  induction xs generalizing s with
  | nil => rfl
  | cons call rest ih => exact ih _

/-- An untrusted book keeps its ladders until a snapshot is accepted. -/
theorem runBook_untrusted (calls : List BookCall) :
    ∀ {s : BookState}, s.trusted = false →
      (∀ entry ∈ (runBook s calls).2, entry.2 ≠ some .snapshot) →
      (runBook s calls).1.trusted = false ∧ (runBook s calls).1.yesBids = s.yesBids ∧
        (runBook s calls).1.noBids = s.noBids ∧
        (runBook s calls).1.connectionEpoch = s.connectionEpoch := by
  induction calls with
  | nil => exact fun untrusted _ => ⟨untrusted, rfl, rfl, rfl⟩
  | cons call rest ih =>
      intro s untrusted none
      have move := stepBook_move s call
      have notHere := none (call, (stepBook s call).2) (List.mem_cons_self ..)
      have later := fun entry member => none entry (List.mem_cons_of_mem _ member)
      simp only [runBook] at later ⊢
      revert move notHere later
      generalize stepBook s call = next
      intro move notHere later
      cases move with
      | kept _ next kind yesBids noBids epoch _ trusted _ _ =>
          have still : next.trusted = false := by
            by_contra now
            rw [trusted (by simpa using now)] at untrusted
            exact absurd untrusted (by decide)
          obtain ⟨last, yes, no, sameEpoch⟩ := ih still later
          exact ⟨last, yes.trans yesBids, no.trans noBids, sameEpoch.trans epoch⟩
      | replaced _ _ _ _ _ => exact absurd rfl notHere
      | advanced _ _ _ trusted _ _ =>
          rw [trusted] at untrusted
          exact absurd untrusted (by decide)

/-- Only a snapshot of a newer connection epoch is accepted. -/
theorem accepted_newer {s : BookState} {snapshot : BookSnapshot}
    (accepts : (stepBook s (.snapshot snapshot)).2 = some .snapshot) :
    s.connectionEpoch < snapshot.connectionEpoch := by
  have move := stepBook_move s (.snapshot snapshot)
  revert move accepts
  generalize stepBook s (.snapshot snapshot) = next
  intro accepts move
  cases move with
  | kept _ _ _ _ _ _ _ _ unaccepted _ =>
      rcases unaccepted with none | lifecycle
      · simp [none] at accepts
      · simp [lifecycle] at accepts
  | replaced _ _ _ replaceable _ => exact replaceable.newer

/-- A trusted book lists the maps of the last accepted snapshot with the deltas
accepted since, numbered from the snapshot's sequence to the book's. -/
def TrustedReconstructs (first : BookSnapshot) (start : BookState) (calls : List BookCall) : Prop :=
  let last := (runBook start calls).1
  let history := History.of first (runBook start calls).2
  last.trusted = true →
    (∀ side, Lists (last.bids side) (reconstructed history.snapshot history.deltas side)) ∧
    last.sequence = history.snapshot.sequence + history.deltas.length ∧
    history.deltas.map BookDelta.sequence =
      List.range' (history.snapshot.sequence + 1) history.deltas.length ∧
    last.connectionEpoch = history.snapshot.connectionEpoch ∧
    ∀ d ∈ history.deltas, d.connectionEpoch = history.snapshot.connectionEpoch

/-- A delta that breaks the sequence of a trusted book leaves it untrusted, with its
ladders, until a snapshot is accepted, and that snapshot is of a newer epoch. -/
def BreaksUntilResnapshot (start : BookState) (calls : List BookCall) : Prop :=
  ∀ before delta after, calls = before ++ .delta delta :: after →
    let here := (runBook start before).1
    let last := (runBook start calls).1
    here.trusted = true → delta.ticker = here.ticker →
    here.connectionEpoch ≤ delta.connectionEpoch → Breaks here delta →
    (∀ entry ∈ (runBook (stepBook here (.delta delta)).1 after).2, entry.2 ≠ some .snapshot) →
    last.trusted = false ∧ last.yesBids = here.yesBids ∧ last.noBids = here.noBids ∧
      ∀ snapshot, (stepBook last (.snapshot snapshot)).2 = some .snapshot →
        here.connectionEpoch < snapshot.connectionEpoch

theorem book_reconstruction (first : BookSnapshot) (opened : BookTransitionResult)
    (calls : List BookCall) (opens : bookFromSnapshot first = .ok opened)
    (constructed : ∀ call ∈ calls, call.Constructed) :
    TrustedReconstructs first opened.state calls ∧ BreaksUntilResnapshot opened.state calls := by
  obtain ⟨digest, -, good, rfl⟩ := bookFromSnapshot_cases opens
  constructor
  · intro _
    have reconstructs := runBook_reconstructs calls (reconstructs_snapshot good)
    exact ⟨reconstructs.lists, reconstructs.sequence, reconstructs.sequences, reconstructs.epoch,
      reconstructs.epochs⟩
  · rintro before delta after rfl here last trusted ticker epoch breaks unaccepted
    have book := runBook_constructed before good
    have delivered := applyBookDelta_breaks book (constructed (.delta delta) (by simp)) trusted
      ticker epoch breaks
    have falls : stepBook here (.delta delta) = (gapped here, none) := by
      simp only [stepBook, callBook]
      rw [show applyBookDelta here delta = _ from delivered]
      rfl
    rw [falls] at unaccepted
    obtain ⟨untrusted, yes, no, sameEpoch⟩ := runBook_untrusted after (s := gapped here) rfl unaccepted
    have same : last = (runBook (gapped here) after).1 := by
      show (runBook _ (before ++ .delta delta :: after)).1 = _
      rw [runBook_append]
      show (runBook (stepBook here (.delta delta)).1 after).1 = _
      rw [falls]
    rw [same]
    refine ⟨untrusted, yes, no, fun snapshot accepts => ?_⟩
    have newer := accepted_newer accepts
    rwa [sameEpoch] at newer

/-! ## A first book -/

theorem bookFromSnapshot_total (snapshot : BookSnapshot) (good : snapshot.postInit = .ok ())
    (encodes : Encodes snapshot.py) : ∃ opened, bookFromSnapshot snapshot = .ok opened := by
  obtain ⟨digest, encoded⟩ :=
    (domainSha256_total "INCI-EXPERT-CONTRACT-SHA256-V1" snapshot.py).mpr encodes
  have digests := domainSha256_isSha256 encoded
  simp only [BookSnapshot.postInit, bind_eq_ok, exists_unit, integer_eq_ok, positiveInteger_eq_ok]
    at good
  obtain ⟨ticker, epoch, sequence, close, source, observed, uncertainty, ladders⟩ := good
  have zero : (0 : Decimal) ≤ 1 := by simp [Decimal.le_def]
  have state : (snapshotState snapshot 0 digest).postInit = .ok () := by
    simp [BookState.postInit, snapshotState, ticker, epoch, sequence, close, source, observed,
      uncertainty, ladders, zero, digests]
  have result : (accepted (snapshotState snapshot 0 digest) .snapshot
      snapshot.observedMonotonicNs false).postInit = .ok () := by
    simp [BookTransitionResult.postInit, accepted, snapshotState, digests, zero, observed, epoch,
      sequence]
  refine ⟨accepted (snapshotState snapshot 0 digest) .snapshot snapshot.observedMonotonicNs false,
    ?_⟩
  simp only [bookFromSnapshot, expertContractSha256, encoded, ok_bind,
    BookState.construct_eq_ok.mpr ⟨state, rfl⟩]
  exact BookTransitionResult.construct_eq_ok.mpr ⟨result, rfl⟩

def openingBook : BookSnapshot :=
  { ticker := "MATCH-HOME"
    connectionEpoch := 1
    sequence := 1
    marketStatus := .open
    scheduledCloseWallNs := 0
    sourceWallNs := 0
    observedMonotonicNs := 0
    clockUncertaintyNs := 0
    yesBids := []
    noBids := [] }

/-- A bid of half a unit at one half. -/
def openingDelta : BookDelta :=
  { ticker := "MATCH-HOME"
    connectionEpoch := 1
    sequence := 2
    sourceWallNs := 0
    observedMonotonicNs := 1
    clockUncertaintyNs := 0
    contractSide := .yes
    price := ⟨1 / 2, 1, 5, by norm_num⟩
    quantity := ⟨1 / 2, 1, 5, by norm_num⟩ }

theorem openingDelta_constructed : openingDelta.postInit = .ok () := by
  have bound : 2 < integerBound := by norm_num [integerBound]
  have ticker : Ticker "MATCH-HOME" := by decide
  simp [BookDelta.postInit, openingDelta, ticker, Decimal.le_def, integerBound_pos]
  norm_num
  omega

theorem openingBook_opens : ∃ opened, bookFromSnapshot openingBook = .ok opened := by
  have bound : 2 < integerBound := by norm_num [integerBound]
  have ticker : Ticker "MATCH-HOME" := by decide
  refine bookFromSnapshot_total openingBook ?_ ?_
  · simp [BookSnapshot.postInit, openingBook, ticker, validateBookLadders, validateLadder,
      crossed, integerBound_pos]
    omega
  · simp [BookSnapshot.py, openingBook, Encodes, EncodesFields, EncodesAll, MarketStatus.py,
      integerBound_pos]
    omega

theorem book_reconstruction_opening : ∃ opened, bookFromSnapshot openingBook = .ok opened ∧
    TrustedReconstructs openingBook opened.state [.delta openingDelta, .delta openingDelta] ∧
    BreaksUntilResnapshot opened.state [.delta openingDelta, .delta openingDelta] := by
  obtain ⟨opened, opens⟩ := openingBook_opens
  refine ⟨opened, opens, book_reconstruction openingBook opened _ opens ?_⟩
  intro call member
  simp only [List.mem_cons, List.not_mem_nil, or_false, or_self] at member
  rw [member]
  exact openingDelta_constructed

end Inci.Market
