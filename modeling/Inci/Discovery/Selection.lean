/-
# Discovery.Selection -- from candidates to contracts and watches

A bind predicate says which candidates a scoreboard knows; candidates are ranked by depth,
spread, time and ticker, and at most one is kept for each Event.  Under sibling protection the
unit of selection is a package of a contract to trade and the opponent's contract to watch,
which the identities of an Event's bound contracts must prove.
-/
import Inci.Theory.Dict
import Inci.Theory.Ranking
import Inci.Discovery.Rows
import Mathlib.Data.Prod.Lex
import Mathlib.Data.List.Lex

namespace Inci.Discovery

open Inci.Theory

set_option autoImplicit false

/-! ## Bindings -/

/-- A bind predicate: what it returns, or that it raises. -/
abbrev BindPredicate := SelectedContract → Except Unit RawBinding

structure BindState where
  bindableTickers : List String
  bindingByTicker : List (String × Binding)
  invalidBindingEvents : List String

def BindState.start : BindState := ⟨[], [], []⟩

/-- The Event of a contract whose result cannot be used. -/
def BindState.quarantine (state : BindState) (contract : SelectedContract) : BindState :=
  { state with invalidBindingEvents := contract.eventTicker :: state.invalidBindingEvents }

def BindState.bindable (state : BindState) (contract : SelectedContract) : BindState :=
  { state with bindableTickers := contract.ticker :: state.bindableTickers }

/-- The body of the loop over the candidates. -/
def bindContract (cfg : DiscoveryConfig) (bindPredicate : BindPredicate) (state : BindState)
    (contract : SelectedContract) : BindState :=
  match bindPredicate contract with
  | .error _ => if cfg.siblingSpikeEnabled then state.quarantine contract else state
  | .ok .none => state
  | .ok (.bool b) =>
      if cfg.siblingSpikeEnabled then state.quarantine contract
      else if b then state.bindable contract else state
  | .ok raw =>
      match scoreBindingIdentity raw with
      | .error _ => state.quarantine contract
      | .ok none => state
      | .ok (some binding) =>
          { state.bindable contract with
            bindingByTicker := Dict.put state.bindingByTicker contract.ticker binding }

def bindContracts (cfg : DiscoveryConfig) (bindPredicate : Option BindPredicate)
    (candidates : List SelectedContract) : BindState :=
  match bindPredicate with
  | none => .start
  | some bindPredicate => candidates.foldl (bindContract cfg bindPredicate) .start

/-! ## Ranking -/

/-- Depth up to the cap, spread, depth, start and ticker, the better the smaller. -/
abbrev RankKey := Decimal ×ₗ Decimal ×ₗ Decimal ×ₗ ℚ ×ₗ String

def rankKey (cap : Decimal) (contract : SelectedContract) : Except DiscoveryError RankKey := do
  let depth := min contract.bidSize contract.askSize
  let capped ← decimal (pythonContext.negate (min depth cap))
  let spread ← decimal (pythonContext.subtract contract.ask contract.bid)
  let full ← decimal (pythonContext.negate depth)
  pure (toLex (capped, toLex (spread, toLex (full,
    toLex (contract.provenance.scheduledStartTs, contract.ticker)))))

/-- The contracts with their keys. -/
def keyed (cap : Decimal) : List SelectedContract →
    Except DiscoveryError (List (RankKey × SelectedContract))
  | [] => pure []
  | contract :: rest => do
      let key ← rankKey cap contract
      let others ← keyed cap rest
      pure ((key, contract) :: others)

/-- `rank_contracts` -/
def rankContracts (candidates : List SelectedContract) (cap : Decimal) :
    Except DiscoveryError (List SelectedContract) := do
  refuse (cap ≤ 0) .contractsPerTrade
  let entries ← keyed cap candidates
  pure ((sortOn Prod.fst entries).map Prod.snd)

/-- `rank_contracts_prefer_bind` -/
def rankContractsPreferBind (candidates : List SelectedContract) (cap : Decimal)
    (bindableTickers : List String) : Except DiscoveryError (List SelectedContract) := do
  let bindable ← rankContracts (candidates.filter fun c => c.ticker ∈ bindableTickers) cap
  let unbound ← rankContracts (candidates.filter fun c => c.ticker ∉ bindableTickers) cap
  pure (bindable ++ unbound)

/-- `ranked` -/
def rankCandidates (cfg : DiscoveryConfig) (bindPredicate : Option BindPredicate)
    (candidates : List SelectedContract) : Except DiscoveryError (List SelectedContract) :=
  if cfg.preferScoreboardBind ∧ bindPredicate.isSome then
    rankContractsPreferBind candidates cfg.contractsPerTrade
      (bindContracts cfg bindPredicate candidates).bindableTickers
  else rankContracts candidates cfg.contractsPerTrade

/-! ## One contract for each Event -/

section

/-! Scores are tuples of a linearly ordered type `S`. -/

variable {S : Type} [LinearOrder S]

/-- What a sibling score returns. -/
inductive RawScore (S : Type) where
  | tuple (items : List S)
  | scalar (item : S)

/-- A sibling score: what it returns, or that it raises. -/
abbrev SiblingScore (S : Type) := SelectedContract → Except Unit (RawScore S)

/-- The score of a contract; the worst one where the callback raises or is missing. -/
def scoreOf (siblingScore : Option (SiblingScore S)) (contract : SelectedContract) : List S :=
  match siblingScore with
  | none => []
  | some siblingScore =>
      match siblingScore contract with
      | .error _ => []
      | .ok (.tuple items) => items
      | .ok (.scalar item) => [item]

/-- The best contract of each Event so far, with its key. -/
abbrev Best (S : Type) := List (String × (List S × ℤ) × SelectedContract)

/-- The body of the loop of `select_one_per_event`. -/
def keepBest (siblingScore : Option (SiblingScore S)) (best : Best S)
    (entry : SelectedContract × ℕ) : Best S :=
  let score := scoreOf siblingScore entry.1
  let index : ℤ := -(entry.2 : ℤ)
  match Dict.get best entry.1.eventTicker with
  | none => Dict.put best entry.1.eventTicker ((score, index), entry.1)
  | some (previous, _) =>
      if previous.1 < score ∨ previous.1 = score ∧ previous.2 < index then
        Dict.put best entry.1.eventTicker ((score, index), entry.1)
      else best

/-- `select_one_per_event` -/
def selectOnePerEvent (ranked : List SelectedContract) (maxMarkets : ℤ)
    (siblingScore : Option (SiblingScore S)) : Except DiscoveryError (List SelectedContract) := do
  refuse (maxMarkets ≤ 0) .maxMarkets
  let best := ranked.zipIdx.foldl (keepBest siblingScore) []
  let winners := best.map fun entry => entry.2.2.ticker
  pure ((ranked.filter fun contract => contract.ticker ∈ winners).take maxMarkets.toNat)

end

/-! ## Packages -/

/-- `_verified_event_pair` -/
def verifiedEventPair (eventCandidates : List SelectedContract)
    (bindingByTicker : List (String × Binding)) (strict : Bool) :
    Except DiscoveryError (Option (SelectedContract × SelectedContract)) :=
  let bound := eventCandidates.filterMap fun candidate =>
    (Dict.get bindingByTicker candidate.ticker).map fun binding => (candidate, binding)
  let pair := match bound with
    | [(first, binding), (second, opposite)] =>
        if opposite = binding.mirror then some (first, second) else none
    | _ => none
  match pair with
  | some pair => .ok (some pair)
  | none => if strict then .error .unverifiedPair else .ok none

structure Package where
  rank : ℕ
  eventTicker : String
  trade : SelectedContract
  watch : SelectedContract

/-- `rank_index` -/
def rankIndex (ranked : List SelectedContract) (contract : SelectedContract) : ℕ :=
  ranked.findIdx fun r => r.ticker = contract.ticker

/-- `candidates_by_event` -/
def candidatesByEvent (candidates : List SelectedContract) :
    List (String × List SelectedContract) :=
  candidates.foldl (fun events candidate => Dict.put events candidate.eventTicker
    ((Dict.get events candidate.eventTicker).getD [] ++ [candidate])) []

section

variable {S : Type} [LinearOrder S]

/-- The body of the loop over the Events; `none` where the Event is skipped. -/
def eventPackage (ranked : List SelectedContract) (state : BindState)
    (siblingScore : Option (SiblingScore S)) (entry : String × List SelectedContract) :
    Except DiscoveryError (Option Package) := do
  if entry.1 ∈ state.invalidBindingEvents then pure none
  else
    let pair ← verifiedEventPair entry.2 state.bindingByTicker false
    match pair with
    | none => pure none
    | some (first, second) =>
        let pairRanked := sortOn (rankIndex ranked) [first, second]
        let trades ← selectOnePerEvent pairRanked 1 siblingScore
        match trades with
        | [] => .error .index
        | trade :: _ =>
            let watch := if first.ticker = trade.ticker then second else first
            pure (some ⟨rankIndex ranked trade, entry.1, trade, watch⟩)

def eventPackages (ranked : List SelectedContract) (state : BindState)
    (siblingScore : Option (SiblingScore S)) :
    List (String × List SelectedContract) → Except DiscoveryError (List Package)
  | [] => pure []
  | entry :: rest => do
      let package ← eventPackage ranked state siblingScore entry
      let packages ← eventPackages ranked state siblingScore rest
      pure (package.toList ++ packages)

/-! ## Discovery -/

/-- What discovery selects. -/
structure DiscoveryResult where
  contracts : List SelectedContract
  watchContracts : List SelectedContract
  scoreBindings : List (String × Binding)
  deriving DecidableEq

def checkContracts : List SelectedContract → List String → Except DiscoveryError Unit
  | [], _ => pure ()
  | contract :: rest, tickers => do
      refuse (contract.ticker ∈ tickers) (.duplicateContract contract.ticker)
      checkContracts rest (contract.ticker :: tickers)

def checkWatches (tickers : List String) : List SelectedContract → List String →
    Except DiscoveryError Unit
  | [], _ => pure ()
  | contract :: rest, watchTickers => do
      refuse (contract.ticker ∈ tickers) (.watchOverlap contract.ticker)
      refuse (contract.ticker ∈ watchTickers) (.duplicateWatch contract.ticker)
      checkWatches tickers rest (contract.ticker :: watchTickers)

/-- `DiscoveryResult.__post_init__`, of these fields. -/
def DiscoveryResult.check (result : DiscoveryResult) : Except DiscoveryError Unit := do
  checkContracts result.contracts []
  let tickers := result.contracts.map SelectedContract.ticker
  checkWatches tickers result.watchContracts []
  let selected := tickers ++ result.watchContracts.map SelectedContract.ticker
  result.scoreBindings.forM fun entry => do
    identity entry.1 "score_bindings ticker"
    refuse (entry.1 ∉ selected) (.unselectedBinding entry.1)
    let binding ← scoreBindingIdentity entry.2.raw
    refuse (binding = none) (.emptyBinding entry.1)

/-- `selected_bindings` -/
def selectedBindings (bindingByTicker : List (String × Binding))
    (contracts : List SelectedContract) : List (String × Binding) :=
  contracts.filterMap fun contract =>
    (Dict.get bindingByTicker contract.ticker).map fun binding => (contract.ticker, binding)

/-- The packages of all Events, ranked, as many as the cap has room for. -/
def selectPackages (cfg : DiscoveryConfig) (ranked : List SelectedContract) (state : BindState)
    (siblingScore : Option (SiblingScore S)) (candidates : List SelectedContract) :
    Except DiscoveryError (List Package) := do
  let packages ← eventPackages ranked state siblingScore (candidatesByEvent candidates)
  pure ((sortOn (fun package : Package => toLex (package.rank, package.eventTicker))
    packages).take (cfg.maxMonitoredMarkets / 2).toNat)

/-- `discover_game_contracts` from the candidates on. -/
def selectContracts (cfg : DiscoveryConfig) (bindPredicate : Option BindPredicate)
    (siblingScore : Option (SiblingScore S)) (candidates : List SelectedContract) :
    Except DiscoveryError DiscoveryResult := do
  let state := bindContracts cfg bindPredicate candidates
  let ranked ← rankCandidates cfg bindPredicate candidates
  refuse (cfg.maxMonitoredMarkets ≤ 0) .maxMarkets
  let selection ←
    if cfg.oneContractPerEvent then do
      let allWinners ← selectOnePerEvent ranked (max ranked.length 1) siblingScore
      if cfg.siblingSpikeEnabled then do
        let packages ← selectPackages cfg ranked state siblingScore candidates
        pure (packages.map Package.trade, packages.map Package.watch)
      else pure (allWinners.take cfg.maxMonitoredMarkets.toNat, [])
    else pure (ranked.take cfg.maxMonitoredMarkets.toNat, [])
  let result : DiscoveryResult := ⟨selection.1, selection.2,
    selectedBindings state.bindingByTicker (selection.1 ++ selection.2)⟩
  result.check
  pure result

/-- `discover_game_contracts`, for selected Sports. -/
def discoverGameContracts (cfg : DiscoveryConfig) (bindPredicate : Option BindPredicate)
    (siblingScore : Option (SiblingScore S)) (series : List SeriesRows) :
    Except DiscoveryError DiscoveryResult := do
  refuse (cfg.siblingSpikeEnabled ∧ ¬cfg.oneContractPerEvent) .needsOnePerEvent
  let candidates ← gameCandidates cfg series []
  selectContracts cfg bindPredicate siblingScore candidates

end

end Inci.Discovery
