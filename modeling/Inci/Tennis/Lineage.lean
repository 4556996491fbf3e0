/-
# Tennis.Lineage -- the correction lineage commits to history

The lineage of a match starts as a digest of its first snapshot and takes in
every correction that is applied: it is the head of a hash chain
(`lineageScheme`).  The semantic bytes of a snapshot fix every field of it but
the receive time (`semantic_fixed`), so the head fixes the first snapshot
and the applied corrections, their number and their order.
-/
import Inci.Expert.Injectivity
import Inci.Tennis.Validity
import Inci.Theory.HashChain

namespace Inci.Tennis

open Inci.Theory Inci.Expert

set_option autoImplicit false

/-! ## What the semantic bytes fix -/

/-- A snapshot with its receive time forgotten. -/
def ProviderSnapshot.unreceived (e : ProviderSnapshot) : ProviderSnapshot :=
  { e with receivedMonotonicNs := 0 }

theorem same_side {a b : PlayerSide} (same : Same a.py b.py) : a = b := by
  have values := (same_enum same).2
  revert values
  cases a <;> cases b <;> decide

theorem same_status {a b : MatchStatus} (same : Same a.py b.py) : a = b := by
  have values := (same_enum same).2
  revert values
  cases a <;> cases b <;> decide

theorem same_format {a b : MatchFormat} (same : Same a.py b.py) : a = b := by
  have values := (same_enum same).2
  revert values
  cases a <;> cases b <;> decide

theorem same_termination {a b : TerminationKind} (same : Same a.py b.py) : a = b := by
  have values := (same_enum same).2
  revert values
  cases a <;> cases b <;> decide

theorem same_scoreValue {a b : ScoreValue} (same : Same a.py b.py) : a = b := by
  have values := (same_enum same).2
  revert values
  cases a <;> cases b <;> decide

theorem same_optionSide {a b : Option PlayerSide}
    (same : Same (.option PlayerSide.py a) (.option PlayerSide.py b)) : a = b :=
  same_option (fun _ _ => same_side) (fun _ => enum_present _ _) same

theorem same_optionNat {a b : Option Nat}
    (same : Same (.option PyValue.nat a) (.option PyValue.nat b)) : a = b :=
  same_option (fun _ _ => same_nat) nat_present same

theorem SetScore.spelled (s : SetScore) : Spelled s.py := by
  simp [SetScore.py, Spelled, SpelledFields]

theorem same_set {s t : SetScore} (same : Same s.py t.py) : s = t := by
  obtain ⟨-, fields⟩ := same_contract same rfl (by simp)
  simp only [List.forall₂_cons] at fields
  obtain ⟨home, away, tiebreakHome, tiebreakAway, -⟩ := fields
  cases s
  cases t
  simp only [SetScore.mk.injEq]
  exact ⟨same_nat home, same_nat away, same_optionNat tiebreakHome, same_optionNat tiebreakAway⟩

theorem same_sets {ss ts : List SetScore}
    (same : Same (.tuple (ss.map SetScore.py)) (.tuple (ts.map SetScore.py))) : ss = ts := by
  have parts := same_tuple same
  rw [List.forall₂_map_left_iff, List.forall₂_map_right_iff] at parts
  exact List.forall₂_eq_eq_eq ▸ parts.imp fun _ _ => same_set

theorem snapshot_spelled (e : ProviderSnapshot) :
    SpelledFields (e.fields e.toEventTimes.semanticPy) := by
  have sets : SpelledAll (e.completedSets.map SetScore.py) := by
    rw [spelledAll_iff]
    intro v member
    obtain ⟨s, -, rfl⟩ := List.mem_map.mp member
    exact s.spelled
  simp [ProviderSnapshot.fields, MatchIdentity.py, Score.py, EventTimes.semanticPy, SpelledFields,
    Spelled, sets, PlayerSide.py, MatchStatus.py, MatchFormat.py, TerminationKind.py, ScoreValue.py]

/-- Two events with the same semantic bytes are of one kind and agree field by field. -/
theorem eventSemantic_same {kind kind' : String} {es fs : List (String × PyValue)}
    {bytes : List UInt8} {d d' : String} (spelled : SpelledFields es) (spelled' : SpelledFields fs)
    (first : eventSemantic kind es = .ok (bytes, d))
    (second : eventSemantic kind' fs = .ok (bytes, d')) :
    kind = kind' ∧ Same (.dict es) (.dict fs) := by
  obtain ⟨written, encoded, first⟩ := bind_eq_ok.mp first
  obtain ⟨written', encoded', second⟩ := bind_eq_ok.mp second
  obtain ⟨rfl, -⟩ := Prod.mk.inj ((pure_eq_ok _ _).mp first)
  obtain ⟨rfl, -⟩ := Prod.mk.inj ((pure_eq_ok _ _).mp second)
  have same := same_dict (canonicalExpertBytes_same
    (by simpa [Spelled, SpelledFields] using spelled)
    (by simpa [Spelled, SpelledFields] using spelled') encoded encoded') rfl (by simp)
  simp only [List.forall₂_cons] at same
  exact ⟨same_text same.2.1, same.2.2.1⟩

theorem semantic_fixed {e f : ProviderSnapshot} {bytes : List UInt8} {d d' : String}
    (first : e.semantic = .ok (bytes, d)) (second : f.semantic = .ok (bytes, d')) :
    e.unreceived = f.unreceived := by
  have fields := same_dict
    (eventSemantic_same (snapshot_spelled e) (snapshot_spelled f) first second).2 rfl
    (by simp [ProviderSnapshot.fields, MatchIdentity.py, Score.py, EventTimes.semanticPy])
  simp only [ProviderSnapshot.fields, MatchIdentity.py, Score.py, EventTimes.semanticPy,
    List.cons_append, List.nil_append, List.forall₂_cons, List.forall₂_nil_left_iff, and_true]
    at fields
  obtain ⟨⟨_, _, _, _, _, _, _, _⟩, ⟨_, _, _, _, _, _, _, _, _, _, _, _, _, _⟩, ⟨_, _, _, _⟩, _, _,
    _, _⟩ := e
  obtain ⟨⟨_, _, _, _, _, _, _, _⟩, ⟨_, _, _, _, _, _, _, _, _, _, _, _, _, _⟩, ⟨_, _, _, _⟩, _, _,
    _, _⟩ := f
  obtain ⟨source, domain, lineage, event, providerMatch, home, away, start, format, status,
    termination, winner, retired, sets, gamesHome, gamesAway, pointsHome, pointsAway, tiebreak,
    tiebreakHome, tiebreakAway, firstServer, server, epoch, revision, wall, generated, uncertainty,
    complete⟩ := fields
  simp only [ProviderSnapshot.unreceived, ProviderSnapshot.mk.injEq, MatchIdentity.mk.injEq,
    Score.mk.injEq, EventTimes.mk.injEq, true_and]
  exact ⟨⟨same_text source, same_text domain, same_text lineage, same_text providerMatch,
      same_text home, same_text away, same_nat start, same_format format⟩,
    ⟨same_status status, same_termination termination, same_optionSide winner,
      same_optionSide retired, same_sets sets, same_nat gamesHome, same_nat gamesAway,
      same_scoreValue pointsHome, same_scoreValue pointsAway, same_bool tiebreak,
      same_nat tiebreakHome, same_nat tiebreakAway, same_optionSide firstServer,
      same_optionSide server⟩,
    ⟨same_nat wall, same_nat generated, same_nat uncertainty⟩, same_text event, same_nat epoch,
    same_nat revision, same_bool complete⟩

/-! ## The lineage as a chain -/

/-- The bytes that are hashed for a snapshot; the operations below only use those that exist. -/
def ProviderSnapshot.semanticBytes (e : ProviderSnapshot) : List UInt8 :=
  (e.semantic.toOption.getD ([], "")).1

theorem semanticBytes_eq {e : ProviderSnapshot} {bytes : List UInt8} {digest : String}
    (semantic : e.semantic = .ok (bytes, digest)) : e.semanticBytes = bytes := by
  unfold ProviderSnapshot.semanticBytes
  rw [semantic]
  rfl

/-- What `state_from_snapshot` and `apply_correction` hash into a lineage. -/
def lineageScheme : ChainScheme (List UInt8) String (List UInt8) where
  hash := Sha256.hexdigest
  seed bytes := domain "inci-tennis-initial-lineage-v1" ++ bytes
  step lineage bytes :=
    domain "inci-tennis-correction-lineage-v1" ++ fromHex lineage.toList ++ bytes

theorem idxOf_hexDigit {n : Nat} (small : n < 16) :
    Sha256.hexDigits.idxOf (Sha256.hexDigits.getD n '0') = n := by
  revert n
  decide

/-- `bytes.fromhex` reads a digest text back. -/
theorem fromHex_hex : ∀ bytes : List UInt8, fromHex (bytes.flatMap Sha256.hexByte) = bytes
  | [] => rfl
  | b :: rest => by
      have bound := b.toNat_lt
      show UInt8.ofNat (16 * Sha256.hexDigits.idxOf (Sha256.hexDigits.getD (b.toNat / 16) '0') +
        Sha256.hexDigits.idxOf (Sha256.hexDigits.getD (b.toNat % 16) '0')) ::
          fromHex (rest.flatMap Sha256.hexByte) = b :: rest
      rw [fromHex_hex rest, idxOf_hexDigit (by omega), idxOf_hexDigit (by omega),
        Nat.div_add_mod, UInt8.ofNat_toNat]

theorem fromHex_hexdigest (message : List UInt8) :
    fromHex (Sha256.hexdigest message).toList = Sha256.digest message := by
  rw [Sha256.hexdigest, Sha256.hex, String.toList_ofList, fromHex_hex]

/-- The two domains differ within their first thirteen bytes. -/
theorem lineage_domains (bytes others : List UInt8) :
    domain "inci-tennis-initial-lineage-v1" ++ bytes ≠
      domain "inci-tennis-correction-lineage-v1" ++ others := by
  have apart : (domain "inci-tennis-initial-lineage-v1").take 13 ≠
      (domain "inci-tennis-correction-lineage-v1").take 13 := by decide
  intro same
  have heads := congrArg (List.take 13) same
  rw [List.take_append_of_le_length (by decide), List.take_append_of_le_length (by decide)] at heads
  exact apart heads

theorem lineage_separates : lineageScheme.Separates where
  tagged link x other := by
    show domain _ ++ link ≠ domain _ ++ fromHex _ ++ other
    rw [List.append_assoc]
    exact lineage_domains _ _
  seed one other same := List.append_cancel_left same
  step x y one other same := by
    replace same : domain _ ++ fromHex (Sha256.hexdigest x).toList ++ one =
      domain _ ++ fromHex (Sha256.hexdigest y).toList ++ other := same
    rw [fromHex_hexdigest, fromHex_hexdigest, List.append_assoc, List.append_assoc] at same
    obtain ⟨digests, rest⟩ := List.append_inj (List.append_cancel_left same)
      (by rw [Sha256.digest_length, Sha256.digest_length])
    refine ⟨?_, rest⟩
    show Sha256.hex _ = Sha256.hex _
    rw [digests]

/-! ## Applied corrections -/

/-- The correction an operation applies to a state, if it does. -/
def TennisOperation.appliedCorrection (s : TennisState) : TennisOperation → Option ProviderSnapshot
  | .event _ => none
  | .correction e =>
      match applyCorrection s e with
      | .ok r => if r.disposition = .applied then some e else none
      | .error _ => none

/-- The corrections a run applies, in order. -/
def appliedCorrections (s : TennisState) : List TennisOperation → List ProviderSnapshot
  | [] => []
  | op :: rest => (op.appliedCorrection s).toList ++ appliedCorrections (op.standing s) rest

/-- Everything that is hashed into the lineage of a first snapshot and its corrections. -/
def lineageStrings (first : ProviderSnapshot) (corrections : List ProviderSnapshot) :
    List (List UInt8) :=
  lineageScheme.hashed first.semanticBytes (corrections.map ProviderSnapshot.semanticBytes)

/-- An applied correction hashes itself into the lineage. -/
theorem applyCorrection_lineage {s : TennisState} {e : ProviderSnapshot}
    {r : TennisTransitionResult} (answer : applyCorrection s e = .ok r)
    (applied : r.disposition = .applied) :
    ∃ bytes digest, e.semantic = .ok (bytes, digest) ∧ r.state.correctionLineageSha256 =
      lineageScheme.hash (lineageScheme.step s.correctionLineageSha256 bytes) := by
  obtain ⟨-, bytes, digest, semantic, corrected⟩ := applyCorrection_corrected answer
  refine ⟨bytes, digest, semantic, ?_⟩
  have rejected : ∀ {reason}, correctionRejected s e digest reason = .ok r → False := by
    intro reason refused
    unfold correctionRejected at refused
    simp only [ite_eq_iff, pure_bind, bind_eq_ok, result_eq_ok] at refused
    rcases refused with ⟨-, -, rfl⟩ | ⟨-, _, -, -, rfl⟩
    · cases applied
    · cases applied
  simp only [applyCorrection, validateTennisState, bind_eq_ok, exists_unit, refuse_eq_ok,
    Prod.exists, Bool.not_eq_false] at answer
  obtain ⟨-, _, _, again, answer⟩ := answer
  obtain ⟨rfl, rfl⟩ := Prod.mk.inj (Except.ok.inj (semantic.symm.trans again))
  iterate 6
    rw [ite_eq_iff] at answer
    rcases answer with ⟨-, answer⟩ | ⟨-, answer⟩
    · exact (rejected answer).elim
  rw [ite_eq_iff] at answer
  rcases answer with ⟨-, answer⟩ | ⟨-, answer⟩
  · obtain ⟨-, rfl⟩ := result_eq_ok.mp answer
    cases applied
  iterate 2
    rw [ite_eq_iff] at answer
    rcases answer with ⟨-, answer⟩ | ⟨-, answer⟩
    · exact (rejected answer).elim
  simp only [bind_eq_ok, TennisState.construct_eq_ok, result_eq_ok] at answer
  obtain ⟨_, ⟨-, rfl⟩, -, rfl⟩ := answer
  rfl

/-- No incremental event touches the lineage. -/
theorem Advance.lineage {s : TennisState} {e : IncrementalEvent} {digest : String}
    {r : TennisTransitionResult} (advance : Advance s e digest r) :
    r.state.correctionLineageSha256 = s.correctionLineageSha256 := by
  cases advance <;> rfl

/-- Neither does a correction that is not applied. -/
theorem Corrected.lineage {s : TennisState} {e : ProviderSnapshot} {digest : String}
    {r : TennisTransitionResult} (corrected : Corrected s e digest r)
    (kept : r.disposition ≠ .applied) :
    r.state.correctionLineageSha256 = s.correctionLineageSha256 := by
  cases corrected with
  | unchanged d reason kept => rfl
  | installed reason unblocked constructed => rfl
  | replaced lineage identity received newer complete legal constructed => exact absurd rfl kept

/-- An operation that applies no correction leaves the lineage. -/
theorem TennisOperation.lineage_kept {s : TennisState} {op : TennisOperation}
    {r : TennisTransitionResult} (answer : op.apply s = .ok r)
    (kept : ∀ e, op = .correction e → r.disposition ≠ .applied) :
    r.state.correctionLineageSha256 = s.correctionLineageSha256 := by
  cases op with
  | event e =>
      cases e with
      | point p =>
          obtain ⟨_, _, -, advance⟩ := applyPoint_advance answer
          exact advance.lineage
      | lifecycle l =>
          obtain ⟨_, _, -, advance⟩ := applyLifecycle_advance answer
          exact advance.lineage
  | correction e =>
      obtain ⟨-, _, _, -, corrected⟩ := applyCorrection_corrected answer
      exact corrected.lineage (kept e rfl)

/-- The lineage after an operation is the one before it, or has one link more. -/
theorem TennisOperation.standing_lineage (s : TennisState) (op : TennisOperation) :
    (op.standing s).correctionLineageSha256 =
        lineageScheme.extend s.correctionLineageSha256
          ((op.appliedCorrection s).toList.map ProviderSnapshot.semanticBytes) ∧
      ∀ e ∈ op.appliedCorrection s, ∃ bytes digest, e.semantic = .ok (bytes, digest) := by
  cases answer : op.apply s with
  | error failure =>
      have nothing : op.appliedCorrection s = none := by
        cases op with
        | event e => rfl
        | correction e =>
            replace answer : applyCorrection s e = .error failure := answer
            simp only [TennisOperation.appliedCorrection, answer]
      simp only [TennisOperation.standing, answer, nothing]
      exact ⟨rfl, fun _ none => nomatch none⟩
  | ok r =>
      simp only [TennisOperation.standing, answer]
      by_cases applies : ∃ e, op = .correction e ∧ r.disposition = .applied
      · obtain ⟨e, rfl, applied⟩ := applies
        replace answer : applyCorrection s e = .ok r := answer
        obtain ⟨bytes, digest, semantic, lineage⟩ := applyCorrection_lineage answer applied
        simp only [TennisOperation.appliedCorrection, answer, if_pos applied]
        refine ⟨?_, fun f is => ?_⟩
        · rw [lineage, Option.toList_some, List.map_cons, List.map_nil, semanticBytes_eq semantic]
          rfl
        · obtain rfl := Option.some.inj is
          exact ⟨bytes, digest, semantic⟩
      · have nothing : op.appliedCorrection s = none := by
          cases op with
          | event e => rfl
          | correction e =>
              replace answer : applyCorrection s e = .ok r := answer
              simp only [TennisOperation.appliedCorrection, answer]
              exact if_neg fun applied => applies ⟨e, rfl, applied⟩
        rw [nothing]
        exact ⟨TennisOperation.lineage_kept answer fun e is applied => applies ⟨e, is, applied⟩,
          fun _ none => nomatch none⟩

/-- A run extends the lineage by the corrections it applies. -/
theorem runOperations_lineage (ops : List TennisOperation) (s : TennisState) :
    (runOperations s ops).correctionLineageSha256 =
        lineageScheme.extend s.correctionLineageSha256
          ((appliedCorrections s ops).map ProviderSnapshot.semanticBytes) ∧
      ∀ e ∈ appliedCorrections s ops, ∃ bytes digest, e.semantic = .ok (bytes, digest) := by
  induction ops generalizing s with
  | nil => exact ⟨rfl, fun _ none => absurd none List.not_mem_nil⟩
  | cons op rest ih =>
      obtain ⟨step, known⟩ := op.standing_lineage s
      obtain ⟨run, others⟩ := ih (op.standing s)
      constructor
      · show (runOperations (op.standing s) rest).correctionLineageSha256 = _
        rw [run, step, appliedCorrections, List.map_append]
        exact (List.foldl_append ..).symm
      · intro e member
        rcases List.mem_append.mp member with here | later
        · exact known e (Option.mem_toList.mp here)
        · exact others e later

theorem stateFromSnapshot_lineage {e : ProviderSnapshot} {s : TennisState}
    (started : stateFromSnapshot e = .ok s) : ∃ bytes digest, e.semantic = .ok (bytes, digest) ∧
      s.correctionLineageSha256 = lineageScheme.hash (lineageScheme.seed bytes) := by
  simp only [stateFromSnapshot, bind_eq_ok, exists_unit, Prod.exists,
    TennisState.construct_eq_ok] at started
  obtain ⟨bytes, digest, semantic, -, -, -, rfl⟩ := started
  exact ⟨bytes, digest, semantic, rfl⟩

/-- Snapshots with known and equal semantic bytes agree, one by one. -/
theorem unreceived_map : ∀ {es fs : List ProviderSnapshot},
    (∀ e ∈ es, ∃ bytes digest, e.semantic = .ok (bytes, digest)) →
    (∀ f ∈ fs, ∃ bytes digest, f.semantic = .ok (bytes, digest)) →
    es.map ProviderSnapshot.semanticBytes = fs.map ProviderSnapshot.semanticBytes →
    es.map ProviderSnapshot.unreceived = fs.map ProviderSnapshot.unreceived
  | [], [], _, _, _ => rfl
  | [], _ :: _, _, _, same => nomatch same
  | _ :: _, [], _, _, same => nomatch same
  | e :: es, f :: fs, known, known', same => by
      obtain ⟨here, rest⟩ := List.cons.inj same
      obtain ⟨bytes, digest, semantic⟩ := known e List.mem_cons_self
      obtain ⟨bytes', digest', semantic'⟩ := known' f List.mem_cons_self
      rw [semanticBytes_eq semantic, semanticBytes_eq semantic'] at here
      rw [List.map_cons, List.map_cons, semantic_fixed semantic (here ▸ semantic'),
        unreceived_map (fun e later => known e (List.mem_cons_of_mem _ later))
          (fun f later => known' f (List.mem_cons_of_mem _ later)) rest]

/-- Two runs whose final states carry one lineage started from one snapshot and applied
the same corrections, receive times apart, when SHA-256 does not collide on what the two
lineages hash.  Whatever is not an applied correction leaves the lineage. -/
theorem lineage_commits :
    (∀ (first other : ProviderSnapshot) (s t : TennisState) (ops others : List TennisOperation),
      stateFromSnapshot first = .ok s → stateFromSnapshot other = .ok t →
      lineageScheme.CollisionFree (lineageStrings first (appliedCorrections s ops))
        (lineageStrings other (appliedCorrections t others)) →
      (runOperations s ops).correctionLineageSha256 =
        (runOperations t others).correctionLineageSha256 →
      first.unreceived = other.unreceived ∧
        (appliedCorrections s ops).map ProviderSnapshot.unreceived =
          (appliedCorrections t others).map ProviderSnapshot.unreceived) ∧
    (∀ (s : TennisState) (op : TennisOperation) (r : TennisTransitionResult),
      op.apply s = .ok r → (∀ e, op = .correction e → r.disposition ≠ .applied) →
      r.state.correctionLineageSha256 = s.correctionLineageSha256) := by
  refine ⟨fun first other s t ops others started started' free same => ?_,
    fun s op r answer kept => TennisOperation.lineage_kept answer kept⟩
  obtain ⟨bytes, digest, semantic, seed⟩ := stateFromSnapshot_lineage started
  obtain ⟨bytes', digest', semantic', seed'⟩ := stateFromSnapshot_lineage started'
  obtain ⟨run, known⟩ := runOperations_lineage ops s
  obtain ⟨run', known'⟩ := runOperations_lineage others t
  have chains : lineageScheme.chain first.semanticBytes
      ((appliedCorrections s ops).map ProviderSnapshot.semanticBytes) =
      lineageScheme.chain other.semanticBytes
        ((appliedCorrections t others).map ProviderSnapshot.semanticBytes) := by
    unfold ChainScheme.chain
    rw [semanticBytes_eq semantic, semanticBytes_eq semantic', ← seed, ← seed', ← run, ← run', same]
  obtain ⟨firsts, rest⟩ := lineageScheme.chain_injective lineage_separates free chains
  rw [semanticBytes_eq semantic, semanticBytes_eq semantic'] at firsts
  exact ⟨semantic_fixed semantic (firsts ▸ semantic'), unreceived_map known known' rest⟩

/-- The opening snapshot received twice, its match played on in one of the two runs. -/
theorem lineage_commits_opening :
    ∃ s t, stateFromSnapshot openingSnapshot = .ok s ∧
      stateFromSnapshot { openingSnapshot with receivedMonotonicNs := 5 } = .ok t ∧
      openingSnapshot.unreceived =
        ProviderSnapshot.unreceived { openingSnapshot with receivedMonotonicNs := 5 } ∧
      ∃ r, applyPoint s openingPoint = .ok r ∧
        r.state.correctionLineageSha256 = s.correctionLineageSha256 := by
  obtain ⟨commits, kept⟩ := lineage_commits
  obtain ⟨s, started⟩ := openingSnapshot_starts
  obtain ⟨t, started'⟩ := stateFromSnapshot_total
    (e := { openingSnapshot with receivedMonotonicNs := 5 }) (by decide +kernel)
    (by simp [openingSnapshot, openingScore]) rfl (by decide +kernel)
  have opened := stateFromSnapshot_valid openingSnapshot_valid started
  have score : s.toScore = openingScore := by
    simp only [stateFromSnapshot, bind_eq_ok, exists_unit, Prod.exists,
      TennisState.construct_eq_ok] at started
    obtain ⟨_, _, -, -, -, -, rfl⟩ := started
    rfl
  obtain ⟨r, answer⟩ := applyPoint_total opened openingPoint_accepted (by
    rw [score]
    decide +kernel)
  have lineage := kept s (.event (.point openingPoint)) r answer fun _ other => by cases other
  refine ⟨s, t, started, started', ?_, r, answer, lineage⟩
  refine (commits openingSnapshot { openingSnapshot with receivedMonotonicNs := 5 } s t [] []
    started started' ?_ ?_).1
  · intro x inside y within _
    obtain rfl := List.mem_singleton.mp inside
    exact (List.mem_singleton.mp within).symm
  · obtain ⟨bytes, digest, semantic, lineage⟩ := stateFromSnapshot_lineage started
    obtain ⟨bytes', digest', semantic', lineage'⟩ := stateFromSnapshot_lineage started'
    obtain ⟨rfl, -⟩ := Prod.mk.inj (Except.ok.inj (semantic.symm.trans semantic'))
    exact lineage.trans lineage'.symm

end Inci.Tennis
