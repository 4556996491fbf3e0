/-
# Discovery.Readings -- what a bind predicate says, and the ranking

The loop over the candidates keeps, for each contract, the reading of the predicate's answer
(`holds_bindContracts`).  The ranking orders the candidates by keys that no two share, so it
does not depend on the order they come in (`rankCandidates_congr`).
-/
import Inci.Discovery.Selection
import Mathlib.Data.List.Permutation

namespace Inci.Discovery

open Inci.Theory

set_option autoImplicit false

/-! ## What a predicate says of a contract -/

/-- The use that is made of a predicate's answer. -/
inductive Reading where
  | spoiled
  | bound (binding : Binding)
  | bindable
  | unbound

def reading (cfg : DiscoveryConfig) (bindPredicate : Option BindPredicate)
    (contract : SelectedContract) : Reading :=
  match bindPredicate with
  | none => .unbound
  | some bindPredicate =>
      match bindPredicate contract with
      | .error _ => if cfg.siblingSpikeEnabled then .spoiled else .unbound
      | .ok .none => .unbound
      | .ok (.bool b) =>
          if cfg.siblingSpikeEnabled then .spoiled else if b then .bindable else .unbound
      | .ok raw =>
          match scoreBindingIdentity raw with
          | .error _ => .spoiled
          | .ok none => .unbound
          | .ok (some binding) => .bound binding

/-- The identity a contract is bound to. -/
def Reading.binding : Reading → Option Binding
  | .bound binding => some binding
  | _ => none

/-- Whether it ranks before the others. -/
def Reading.ranksFirst : Reading → Bool
  | .bound _ | .bindable => true
  | _ => false

/-- The state after a contract with a reading. -/
def BindState.add (state : BindState) (contract : SelectedContract) : Reading → BindState
  | .spoiled => state.quarantine contract
  | .bound binding =>
      { state.bindable contract with
        bindingByTicker := Dict.put state.bindingByTicker contract.ticker binding }
  | .bindable => state.bindable contract
  | .unbound => state

theorem bindContract_eq (cfg : DiscoveryConfig) (predicate : BindPredicate) (state : BindState)
    (contract : SelectedContract) : bindContract cfg predicate state contract =
      state.add contract (reading cfg (some predicate) contract) := by
  simp only [bindContract, reading]
  cases predicate contract with
  | error _ => cases cfg.siblingSpikeEnabled <;> rfl
  | ok raw =>
      cases raw with
      | none => rfl
      | bool b => cases cfg.siblingSpikeEnabled <;> cases b <;> rfl
      | parts items =>
          dsimp only
          cases scoreBindingIdentity (.parts items) with
          | error _ => rfl
          | ok found => cases found <;> rfl
      | other => rfl

variable {cfg : DiscoveryConfig} {bindPredicate : Option BindPredicate}
  {candidates : List SelectedContract}

/-- The state holds the readings of the contracts, and nothing else. -/
structure Holds (read : SelectedContract → Reading) (candidates : List SelectedContract)
    (state : BindState) : Prop where
  binding : ∀ c ∈ candidates, Dict.get state.bindingByTicker c.ticker = (read c).binding
  bindable : ∀ c ∈ candidates, c.ticker ∈ state.bindableTickers ↔ (read c).ranksFirst = true
  spoiled : ∀ event, event ∈ state.invalidBindingEvents ↔
    ∃ c ∈ candidates, c.eventTicker = event ∧ read c = .spoiled
  absent : ∀ ticker ∉ candidates.map SelectedContract.ticker,
    Dict.get state.bindingByTicker ticker = none ∧ ticker ∉ state.bindableTickers

/-- A contract with a reading leaves the entries of the other tickers. -/
theorem BindState.add_other (state : BindState) (c : SelectedContract) (read : Reading)
    {ticker : String} (other : ticker ≠ c.ticker) :
    Dict.get (state.add c read).bindingByTicker ticker = Dict.get state.bindingByTicker ticker ∧
      (ticker ∈ (state.add c read).bindableTickers ↔ ticker ∈ state.bindableTickers) := by
  cases read with
  | bound binding =>
      simp [add, BindState.bindable, other, Dict.get_put_other other]
  | bindable => simp [add, BindState.bindable, other]
  | _ => exact ⟨rfl, Iff.rfl⟩

/-- A contract with a new ticker gets the entries of its reading. -/
theorem BindState.add_here {state : BindState} {c : SelectedContract} (read : Reading)
    (fresh : Dict.get state.bindingByTicker c.ticker = none ∧ c.ticker ∉ state.bindableTickers) :
    Dict.get (state.add c read).bindingByTicker c.ticker = read.binding ∧
      (c.ticker ∈ (state.add c read).bindableTickers ↔ read.ranksFirst = true) := by
  cases read with
  | bound binding => simp [add, BindState.bindable, Reading.binding, Reading.ranksFirst]
  | bindable => simp [add, BindState.bindable, Reading.binding, Reading.ranksFirst, fresh.1]
  | _ => exact ⟨fresh.1, iff_of_false fresh.2 Bool.false_ne_true⟩

theorem BindState.add_spoiled (state : BindState) (c : SelectedContract) (read : Reading)
    (event : String) : event ∈ (state.add c read).invalidBindingEvents ↔
      event ∈ state.invalidBindingEvents ∨ c.eventTicker = event ∧ read = .spoiled := by
  cases read <;> simp [add, BindState.quarantine, BindState.bindable, eq_comm, or_comm]

theorem Holds.add {read : SelectedContract → Reading} {state : BindState} {c : SelectedContract}
    (holds : Holds read candidates state)
    (fresh : c.ticker ∉ candidates.map SelectedContract.ticker) :
    Holds read (candidates ++ [c]) (state.add c (read c)) := by
  have other (d : SelectedContract) (member : d ∈ candidates) : d.ticker ≠ c.ticker := by
    intro same
    exact fresh (same ▸ List.mem_map_of_mem member)
  have here := BindState.add_here (read c) (holds.absent c.ticker fresh)
  constructor
  · intro d member
    rcases List.mem_append.mp member with old | new
    · rw [(state.add_other c (read c) (other d old)).1, holds.binding d old]
    · rw [List.mem_singleton.mp new, here.1]
  · intro d member
    rcases List.mem_append.mp member with old | new
    · rw [(state.add_other c (read c) (other d old)).2, holds.bindable d old]
    · rw [List.mem_singleton.mp new, here.2]
  · intro event
    rw [state.add_spoiled, holds.spoiled]
    simp only [List.mem_append, List.mem_singleton, or_and_right, exists_or, exists_eq_left]
  · intro ticker away
    rw [List.map_append, List.mem_append, not_or] at away
    have apart : ticker ≠ c.ticker := by simpa using away.2
    rw [(state.add_other c (read c) apart).1, (state.add_other c (read c) apart).2]
    exact holds.absent ticker away.1

theorem holds_fold (read : SelectedContract → Reading)
    (distinct : (candidates.map SelectedContract.ticker).Nodup) :
    Holds read candidates (candidates.foldl (fun state c => state.add c (read c)) .start) := by
  induction candidates using List.reverseRecOn with
  | nil => exact ⟨by simp, by simp, by simp [BindState.start], by simp [BindState.start, Dict.get]⟩
  | append_singleton rest c ih =>
      rw [List.map_append] at distinct
      have apart := List.nodup_append.mp distinct
      rw [List.foldl_append]
      refine (ih apart.1).add ?_
      intro there
      exact apart.2.2 _ there _ (List.mem_singleton_self _) rfl

/-- The loop over the candidates leaves their readings. -/
theorem holds_bindContracts (bindPredicate : Option BindPredicate)
    (distinct : (candidates.map SelectedContract.ticker).Nodup) :
    Holds (reading cfg bindPredicate) candidates (bindContracts cfg bindPredicate candidates) := by
  have holds := holds_fold (reading cfg bindPredicate) distinct
  cases bindPredicate with
  | none =>
      have idle : ∀ (l : List SelectedContract) (state : BindState),
          l.foldl (fun state c => state.add c (reading cfg none c)) state = state := by
        intro l
        induction l with
        | nil => exact fun state => rfl
        | cons c rest ih => exact fun state => ih state
      rwa [idle] at holds
  | some predicate =>
      have steps : bindContract cfg predicate =
          fun state c => state.add c (reading cfg (some predicate) c) :=
        funext fun state => funext fun c => bindContract_eq cfg predicate state c
      show Holds _ _ (candidates.foldl (bindContract cfg predicate) .start)
      rwa [steps]

/-! ## Ranks -/

/-- The key a contract is ranked by, when it has one. -/
def keyOf (cap : Decimal) (c : SelectedContract) : RankKey :=
  match rankKey cap c with
  | .ok key => key
  | .error _ => toLex (0, toLex (0, toLex (0, toLex (0, c.ticker))))

theorem keyed_eq {cap : Decimal} {entries : List (RankKey × SelectedContract)}
    (read : keyed cap candidates = .ok entries) :
    entries = candidates.map fun c => (keyOf cap c, c) := by
  induction candidates generalizing entries with
  | nil =>
      cases read
      rfl
  | cons c rest ih =>
      simp only [keyed, bind_eq_ok, pure_eq_ok] at read
      obtain ⟨key, here, others, later, rfl⟩ := read
      have own : keyOf cap c = key := by
        unfold keyOf
        rw [here]
      rw [List.map_cons, own, ih later]

theorem keyOf_ticker (cap : Decimal) (c : SelectedContract) :
    (ofLex (ofLex (ofLex (ofLex (keyOf cap c)).2).2).2).2 = c.ticker := by
  unfold keyOf
  cases read : rankKey cap c with
  | error _ => rfl
  | ok key =>
      simp only [rankKey, bind_eq_ok, pure_eq_ok] at read
      obtain ⟨_, -, _, -, _, -, rfl⟩ := read
      rfl

/-- Ranked contracts are the contracts in the order of their keys. -/
theorem rankContracts_eq {cap : Decimal} {ranked : List SelectedContract}
    (read : rankContracts candidates cap = .ok ranked) :
    ranked = sortOn (keyOf cap) candidates := by
  simp only [rankContracts, bind_eq_ok, refuse_eq_ok, exists_unit, pure_eq_ok] at read
  obtain ⟨-, entries, keys, rfl⟩ := read
  rw [keyed_eq keys, sortOn, sortOn]
  rw [← List.map_mergeSort (r := fun a b => decide (keyOf cap a ≤ keyOf cap b))]
  · rw [List.map_map]
    exact List.map_id' _
  · intro a _ b _
    rfl

theorem keyed_ok {cap : Decimal}
    (keys : ∀ c ∈ candidates, (rankKey cap c).toBool = true) :
    keyed cap candidates = .ok (candidates.map fun c => (keyOf cap c, c)) := by
  induction candidates with
  | nil => rfl
  | cons c rest ih =>
      cases read : rankKey cap c with
      | error _ =>
          have fine := keys c List.mem_cons_self
          rw [read] at fine
          cases fine
      | ok key =>
          have own : keyOf cap c = key := by
            unfold keyOf
            rw [read]
          have later := ih fun d member => keys d (List.mem_cons_of_mem _ member)
          rw [keyed, read, ok_bind, later, own.symm]
          rfl

/-- Ranking succeeds when each contract has a key. -/
theorem rankContracts_ok {cap : Decimal} (positive : 0 < cap)
    (keys : ∀ c ∈ candidates, (rankKey cap c).toBool = true) :
    rankContracts candidates cap = .ok (sortOn (keyOf cap) candidates) := by
  obtain ⟨ranked, read⟩ : ∃ ranked, rankContracts candidates cap = .ok ranked := by
    rw [rankContracts, refuse_ok _ (not_le.mpr positive), ok_bind, keyed_ok keys, ok_bind]
    exact ⟨_, rfl⟩
  rw [read, rankContracts_eq read]

theorem keyOf_distinct (cap : Decimal)
    (distinct : (candidates.map SelectedContract.ticker).Nodup) :
    (candidates.map (keyOf cap)).Nodup := by
  apply List.Nodup.of_map fun key : RankKey => (ofLex (ofLex (ofLex (ofLex key).2).2).2).2
  rw [List.map_map]
  have tickers : candidates.map SelectedContract.ticker = candidates.map
      ((fun key : RankKey => (ofLex (ofLex (ofLex (ofLex key).2).2).2).2) ∘ keyOf cap) :=
    List.map_congr_left fun c _ => (keyOf_ticker cap c).symm
  rwa [← tickers]

/-- Ranked candidates are those of the first tier and then the others, each in order. -/
theorem rankCandidates_eq {ranked : List SelectedContract}
    (distinct : (candidates.map SelectedContract.ticker).Nodup)
    (read : rankCandidates cfg bindPredicate candidates = .ok ranked) : ranked =
      if cfg.preferScoreboardBind ∧ bindPredicate.isSome then
        sortOn (keyOf cfg.contractsPerTrade)
            (candidates.filter fun c => (reading cfg bindPredicate c).ranksFirst) ++
          sortOn (keyOf cfg.contractsPerTrade)
            (candidates.filter fun c => !(reading cfg bindPredicate c).ranksFirst)
      else sortOn (keyOf cfg.contractsPerTrade) candidates := by
  have holds : Holds (reading cfg bindPredicate) candidates
      (bindContracts cfg bindPredicate candidates) := holds_bindContracts bindPredicate distinct
  unfold rankCandidates at read
  by_cases prefer : cfg.preferScoreboardBind = true ∧ bindPredicate.isSome = true
  · rw [if_pos prefer] at read ⊢
    simp only [rankContractsPreferBind, bind_eq_ok, pure_eq_ok] at read
    obtain ⟨first, one, rest, other, rfl⟩ := read
    rw [rankContracts_eq one, rankContracts_eq other]
    congr 2
    · apply List.filter_congr
      intro c member
      rw [Bool.eq_iff_iff, decide_eq_true_eq]
      exact holds.bindable c member
    · apply List.filter_congr
      intro c member
      rw [Bool.eq_iff_iff, decide_eq_true_eq, Bool.not_eq_true', ← Bool.not_eq_true]
      exact not_congr (holds.bindable c member)
  · rw [if_neg prefer] at read ⊢
    exact rankContracts_eq read

/-- Ranking only orders the candidates. -/
theorem rankCandidates_perm {ranked : List SelectedContract}
    (distinct : (candidates.map SelectedContract.ticker).Nodup)
    (read : rankCandidates cfg bindPredicate candidates = .ok ranked) : ranked.Perm candidates := by
  rw [rankCandidates_eq distinct read]
  split_ifs
  · exact ((sortOn_perm_self _ _).append (sortOn_perm_self _ _)).trans
      (List.filter_append_perm _ _)
  · exact sortOn_perm_self _ _

/-- The order of the candidates does not matter to the ranking. -/
theorem rankCandidates_congr {candidates' ranked ranked' : List SelectedContract}
    (perm : candidates.Perm candidates')
    (distinct : (candidates.map SelectedContract.ticker).Nodup)
    (read : rankCandidates cfg bindPredicate candidates = .ok ranked)
    (read' : rankCandidates cfg bindPredicate candidates' = .ok ranked') : ranked = ranked' := by
  have distinct' : (candidates'.map SelectedContract.ticker).Nodup :=
    (perm.map SelectedContract.ticker).nodup_iff.mp distinct
  have same (first : SelectedContract → Bool) :
      sortOn (keyOf cfg.contractsPerTrade) (candidates.filter first) =
        sortOn (keyOf cfg.contractsPerTrade) (candidates'.filter first) :=
    sortOn_perm _ (perm.filter first) (keyOf_distinct _
      (distinct.sublist (List.filter_sublist.map _)))
  rw [rankCandidates_eq distinct read, rankCandidates_eq distinct' read', same, same,
    sortOn_perm _ perm (keyOf_distinct _ distinct)]

end Inci.Discovery
