/-
# Discovery.Protection -- the protected selection

Under sibling protection the selection is the first of the valid packages in the order of the
trades' ranks, as many as half the cap.  So every contract to trade has the opponent's to
watch, the cap is never exceeded, and the order of the rows does not matter
(`sibling_selection`).
-/
import Inci.Discovery.Siblings

namespace Inci.Discovery

open Inci.Theory

set_option autoImplicit false

variable {cfg : DiscoveryConfig} {bindPredicate : Option BindPredicate}
  {candidates ranked : List SelectedContract} {S : Type} [LinearOrder S]
  {siblingScore : Option (SiblingScore S)}

/-! ## All Events -/

theorem mem_eventPackages {state : BindState} {events : List (String × List SelectedContract)}
    {packages : List Package}
    (given : eventPackages ranked state siblingScore events = .ok packages) (package : Package) :
    package ∈ packages ↔
      ∃ entry ∈ events, eventPackage ranked state siblingScore entry = .ok (some package) := by
  induction events generalizing packages with
  | nil =>
      cases given
      simp
  | cons entry rest ih =>
      simp only [eventPackages, bind_eq_ok, pure_eq_ok] at given
      obtain ⟨own, here, others, later, rfl⟩ := given
      rw [List.mem_append, ih later, Option.mem_toList]
      constructor
      · rintro (rfl | ⟨other, member, gives⟩)
        · exact ⟨entry, List.mem_cons_self, here⟩
        · exact ⟨other, List.mem_cons_of_mem _ member, gives⟩
      · rintro ⟨other, member, gives⟩
        rcases List.mem_cons.mp member with rfl | member
        · rw [gives] at here
          exact .inl (Except.ok.inj here).symm
        · exact .inr ⟨other, member, gives⟩

/-- An Event gives one package at most. -/
theorem eventPackages_events {state : BindState}
    {events : List (String × List SelectedContract)} {packages : List Package}
    (given : eventPackages ranked state siblingScore events = .ok packages)
    (own : ∀ entry ∈ events, ∀ package,
      eventPackage ranked state siblingScore entry = .ok (some package) →
        package.eventTicker = entry.1) :
    (packages.map Package.eventTicker).Sublist (Dict.keys events) := by
  induction events generalizing packages with
  | nil =>
      cases given
      exact List.Sublist.refl _
  | cons entry rest ih =>
      simp only [eventPackages, bind_eq_ok, pure_eq_ok] at given
      obtain ⟨here, first, others, later, rfl⟩ := given
      have rest := ih later fun other member => own other (List.mem_cons_of_mem _ member)
      cases here with
      | none => exact rest.cons entry.1
      | some package =>
          have event := own entry List.mem_cons_self package first
          show (package.eventTicker :: others.map Package.eventTicker).Sublist (entry.1 :: _)
          rw [event]
          exact rest.cons_cons entry.1

/-- The packages are the valid ones, each with its rank and Event. -/
structure PackagesOf (cfg : DiscoveryConfig) (bindPredicate : Option BindPredicate)
    (siblingScore : Option (SiblingScore S)) (candidates ranked : List SelectedContract)
    (packages : List Package) : Prop where
  events : (packages.map Package.eventTicker).Nodup
  sound : ∀ package ∈ packages, package.eventTicker = package.trade.eventTicker ∧
    package.rank = rankIndex ranked package.trade ∧
    ValidPackage cfg bindPredicate siblingScore candidates ranked package.trade package.watch
  complete : ∀ trade watch,
    ValidPackage cfg bindPredicate siblingScore candidates ranked trade watch →
      ⟨rankIndex ranked trade, trade.eventTicker, trade, watch⟩ ∈ packages

theorem packagesOf_eventPackages {state : BindState} {packages : List Package}
    (distinct : (candidates.map SelectedContract.ticker).Nodup)
    (holds : Holds (reading cfg bindPredicate) candidates state)
    (perm : ranked.Perm candidates)
    (given : eventPackages ranked state siblingScore (candidatesByEvent candidates) =
      .ok packages) :
    PackagesOf cfg bindPredicate siblingScore candidates ranked packages := by
  have groups := groups_candidatesByEvent candidates
  have own (entry : String × List SelectedContract) (member : entry ∈ candidatesByEvent candidates)
      (package : Package)
      (gives : eventPackage ranked state siblingScore entry = .ok (some package)) :
      package.eventTicker = entry.1 ∧ package.trade.eventTicker = entry.1 ∧
        package.rank = rankIndex ranked package.trade ∧
        ValidPackage cfg bindPredicate siblingScore candidates ranked package.trade
          package.watch := by
    obtain ⟨event, group⟩ := entry
    have whole : group = ofEvent candidates event := groups.group _ member
    rw [whole] at gives
    exact eventPackage_sound distinct holds perm gives
  constructor
  · refine groups.distinct.sublist (eventPackages_events given ?_)
    intro entry member package gives
    exact (own entry member package gives).1
  · intro package member
    obtain ⟨entry, inside, gives⟩ := (mem_eventPackages given package).mp member
    obtain ⟨event, trades, rank, valid⟩ := own entry inside package gives
    exact ⟨event.trans trades.symm, rank, valid⟩
  · intro trade watch valid
    have there := (groups.keys trade.eventTicker).mpr ⟨trade, valid.trade_mem, rfl⟩
    obtain ⟨entry, member, event⟩ := List.mem_map.mp there
    refine (mem_eventPackages given _).mpr ⟨entry, member, ?_⟩
    have whole : entry = (trade.eventTicker, ofEvent candidates trade.eventTicker) := by
      rw [← event, ← groups.group entry member]
    rw [whole]
    exact eventPackage_complete distinct holds perm valid

/-! ## The order of the packages -/

def Package.key (package : Package) : ℕ ×ₗ String :=
  toLex (package.rank, package.eventTicker)

theorem PackagesOf.keys_nodup {packages : List Package}
    (of : PackagesOf cfg bindPredicate siblingScore candidates ranked packages) :
    (packages.map Package.key).Nodup := by
  apply List.Nodup.of_map fun key : ℕ ×ₗ String => (ofLex key).2
  rw [List.map_map]
  exact of.events

/-- Sorted packages are in the order of the trades' ranks, and no two of a rank. -/
theorem PackagesOf.ranks {packages : List Package}
    (of : PackagesOf cfg bindPredicate siblingScore candidates ranked packages)
    (distinct : (candidates.map SelectedContract.ticker).Nodup) (perm : ranked.Perm candidates) :
    (sortOn Package.key packages).Pairwise fun p q =>
      rankIndex ranked p.trade < rankIndex ranked q.trade := by
  refine (sortOn_pairwise Package.key of.keys_nodup).imp_of_mem ?_
  intro p q here there less
  obtain ⟨event, rank, valid⟩ := of.sound p ((mem_sortOn _).mp here)
  obtain ⟨event', rank', valid'⟩ := of.sound q ((mem_sortOn _).mp there)
  rcases Prod.Lex.toLex_lt_toLex.mp less with lower | ⟨same, before⟩
  · rwa [← rank, ← rank']
  · have tickers := (perm.map SelectedContract.ticker).nodup_iff.mpr distinct
    have trades : p.trade = q.trade := rankIndex_inj tickers (perm.mem_iff.mpr valid.trade_mem)
      (perm.mem_iff.mpr valid'.trade_mem) (by rw [← rank, ← rank']; exact same)
    rw [event, event', trades] at before
    exact absurd before (lt_irrefl _)

/-- Which packages are valid does not depend on the order of the candidates. -/
theorem ValidPackage.perm {candidates' : List SelectedContract} (perm : candidates.Perm candidates')
    {trade watch : SelectedContract}
    (valid : ValidPackage cfg bindPredicate siblingScore candidates ranked trade watch) :
    ValidPackage cfg bindPredicate siblingScore candidates' ranked trade watch where
  trade_mem := perm.mem_iff.mp valid.trade_mem
  watch_mem := perm.mem_iff.mp valid.watch_mem
  event := valid.event
  clear c member := valid.clear c (perm.mem_iff.mpr member)
  mirrored := valid.mirrored
  only c member := valid.only c (perm.mem_iff.mpr member)
  preferred := valid.preferred

theorem PackagesOf.subset {candidates' : List SelectedContract} {packages packages' : List Package}
    (of : PackagesOf cfg bindPredicate siblingScore candidates ranked packages)
    (of' : PackagesOf cfg bindPredicate siblingScore candidates' ranked packages')
    (perm : candidates.Perm candidates') : ∀ package ∈ packages, package ∈ packages' := by
  rintro ⟨rank, event, trade, watch⟩ member
  obtain ⟨own, place, valid⟩ := of.sound _ member
  dsimp only at own place valid
  rw [own, place]
  exact of'.complete trade watch (valid.perm perm)

/-- The same packages in the same order, from candidates in another order. -/
theorem PackagesOf.sorted_eq {candidates' : List SelectedContract}
    {packages packages' : List Package}
    (of : PackagesOf cfg bindPredicate siblingScore candidates ranked packages)
    (of' : PackagesOf cfg bindPredicate siblingScore candidates' ranked packages')
    (perm : candidates.Perm candidates') :
    sortOn Package.key packages = sortOn Package.key packages' := by
  refine sortOn_perm _ ?_ of.keys_nodup
  refine (List.perm_ext_iff_of_nodup of.events.of_map of'.events.of_map).mpr fun package => ⟨?_, ?_⟩
  · exact of.subset of' perm package
  · exact of'.subset of perm.symm package

/-! ## The bindings of a selection -/

theorem get_selectedBindings (bindings : List (String × Binding))
    (contracts : List SelectedContract) (ticker : String) :
    Dict.get (selectedBindings bindings contracts) ticker =
      if ticker ∈ contracts.map SelectedContract.ticker then Dict.get bindings ticker
      else none := by
  induction contracts with
  | nil => rfl
  | cons c rest ih =>
      have step : selectedBindings bindings (c :: rest) =
          ((Dict.get bindings c.ticker).map fun binding => (c.ticker, binding)).toList ++
            selectedBindings bindings rest := by
        unfold selectedBindings
        cases found : Dict.get bindings c.ticker <;> simp [found]
      rw [step]
      by_cases here : ticker = c.ticker
      · subst here
        cases found : Dict.get bindings c.ticker with
        | none => simp [ih, found]
        | some binding => simp [Dict.get]
      · cases found : Dict.get bindings c.ticker with
        | none => simp [ih, here]
        | some binding => simp [Dict.get, ih, here, Ne.symm here]

/-! ## The selection -/

/-- The packages that are selected: as many as half the cap, from the first rank on. -/
def chosen (cfg : DiscoveryConfig) (packages : List Package) : List Package :=
  (sortOn Package.key packages).take (cfg.maxMonitoredMarkets / 2).toNat

theorem mem_chosen {packages : List Package} {package : Package}
    (member : package ∈ chosen cfg packages) : package ∈ packages :=
  (mem_sortOn _).mp (List.mem_of_mem_take member)

/-- The result of these packages. -/
def resultOf (cfg : DiscoveryConfig) (bindPredicate : Option BindPredicate)
    (candidates : List SelectedContract) (packages : List Package) : DiscoveryResult :=
  let contracts := (chosen cfg packages).map Package.trade
  let watchContracts := (chosen cfg packages).map Package.watch
  ⟨contracts, watchContracts, selectedBindings
    (bindContracts cfg bindPredicate candidates).bindingByTicker (contracts ++ watchContracts)⟩

/-- What discovery under sibling protection gives, when it does not raise. -/
structure Discovered (cfg : DiscoveryConfig) (bindPredicate : Option BindPredicate)
    (siblingScore : Option (SiblingScore S)) (series : List SeriesRows)
    (candidates ranked : List SelectedContract) (packages : List Package)
    (result : DiscoveryResult) : Prop where
  rows : gameCandidates cfg series [] = .ok candidates
  ranking : rankCandidates cfg bindPredicate candidates = .ok ranked
  room : 0 < cfg.maxMonitoredMarkets
  given : eventPackages ranked (bindContracts cfg bindPredicate candidates) siblingScore
    (candidatesByEvent candidates) = .ok packages
  answer : result = resultOf cfg bindPredicate candidates packages

theorem discovered {series : List SeriesRows} {result : DiscoveryResult}
    (enabled : cfg.siblingSpikeEnabled = true)
    (found : discoverGameContracts cfg bindPredicate siblingScore series = .ok result) :
    ∃ candidates ranked packages, Discovered cfg bindPredicate siblingScore series candidates
      ranked packages result := by
  simp only [discoverGameContracts, bind_eq_ok, refuse_eq_ok, exists_unit, enabled, true_and,
    not_not] at found
  obtain ⟨onePerEvent, candidates, rows, found⟩ := found
  simp only [selectContracts, bind_eq_ok, refuse_eq_ok, exists_unit, not_le] at found
  obtain ⟨ranked, ranking, room, found⟩ := found
  rw [if_pos onePerEvent] at found
  simp only [enabled, if_true, selectPackages, bind_eq_ok, pure_eq_ok] at found
  obtain ⟨-, -, _, ⟨packages, given, rfl⟩, _, rfl, -, -, answer⟩ := found
  exact ⟨candidates, ranked, packages, rows, ranking, room, given, answer.symm⟩

variable {series : List SeriesRows} {packages : List Package} {result : DiscoveryResult}

theorem Discovered.distinct (found : Discovered cfg bindPredicate siblingScore series candidates
    ranked packages result) : (candidates.map SelectedContract.ticker).Nodup :=
  (gameCandidates_spec found.rows List.nodup_nil).distinct

theorem Discovered.packagesOf (found : Discovered cfg bindPredicate siblingScore series candidates
    ranked packages result) :
    PackagesOf cfg bindPredicate siblingScore candidates ranked packages :=
  packagesOf_eventPackages found.distinct (holds_bindContracts bindPredicate found.distinct)
    (rankCandidates_perm found.distinct found.ranking) found.given

/-- The contracts of a selected package, bound to identities that mirror each other. -/
theorem Discovered.bindings (found : Discovered cfg bindPredicate siblingScore series candidates
    ranked packages result) {package : Package} (member : package ∈ chosen cfg packages) :
    ∃ binding, Dict.get result.scoreBindings package.trade.ticker = some binding ∧
      Dict.get result.scoreBindings package.watch.ticker = some binding.mirror := by
  obtain ⟨-, -, valid⟩ := found.packagesOf.sound package (mem_chosen member)
  obtain ⟨binding, bound, opposite⟩ := valid.mirrored
  have holds : Holds (reading cfg bindPredicate) candidates
      (bindContracts cfg bindPredicate candidates) :=
    holds_bindContracts bindPredicate found.distinct
  have trades := List.mem_map_of_mem (f := Package.trade) member
  have watches := List.mem_map_of_mem (f := Package.watch) member
  refine ⟨binding, ?_, ?_⟩
  · rw [found.answer, resultOf, get_selectedBindings, if_pos, holds.binding _ valid.trade_mem,
      bound]
    exact List.mem_map_of_mem (List.mem_append_left _ trades)
  · rw [found.answer, resultOf, get_selectedBindings, if_pos, holds.binding _ valid.watch_mem,
      opposite]
    exact List.mem_map_of_mem (List.mem_append_right _ watches)

/-- The Events of the selected packages are distinct. -/
theorem Discovered.events_nodup (found : Discovered cfg bindPredicate siblingScore series
    candidates ranked packages result) :
    ((chosen cfg packages).map Package.eventTicker).Nodup := by
  have sorted := ((sortOn_perm_self Package.key packages).map Package.eventTicker).nodup_iff.mpr
    found.packagesOf.events
  exact sorted.sublist ((List.take_sublist _ _).map _)

/-- Sibling protection of a result, by the candidates and their ranking. -/
structure SiblingProtected (cfg : DiscoveryConfig) (bindPredicate : Option BindPredicate)
    (siblingScore : Option (SiblingScore S)) (candidates ranked : List SelectedContract)
    (result : DiscoveryResult) : Prop where
  /-- Each contract to trade has one watch of its Event, bound to the mirror of its identity. -/
  watched : ∀ trade ∈ result.contracts, ∃ watch binding,
    result.watchContracts.filter (fun c => c.eventTicker = trade.eventTicker) = [watch] ∧
      Dict.get result.scoreBindings trade.ticker = some binding ∧
      Dict.get result.scoreBindings watch.ticker = some binding.mirror
  /-- No Event is selected twice. -/
  once : (result.contracts.map SelectedContract.eventTicker).Nodup
  capped : (result.contracts.length + result.watchContracts.length : ℤ) ≤ cfg.maxMonitoredMarkets
  /-- The selection is the first of the valid packages in the order of the trades' ranks. -/
  first : ∃ packages : List (SelectedContract × SelectedContract),
    (∀ trade watch, (trade, watch) ∈ packages ↔
      ValidPackage cfg bindPredicate siblingScore candidates ranked trade watch) ∧
    (packages.Pairwise fun p q => rankIndex ranked p.1 < rankIndex ranked q.1) ∧
    result.contracts = (packages.take (cfg.maxMonitoredMarkets / 2).toNat).map Prod.fst ∧
    result.watchContracts = (packages.take (cfg.maxMonitoredMarkets / 2).toNat).map Prod.snd
  /-- An Event with an unusable binding gives nothing. -/
  spoiled : ∀ c ∈ candidates, reading cfg bindPredicate c = .spoiled →
    ∀ d ∈ result.contracts ++ result.watchContracts, d.eventTicker ≠ c.eventTicker
  /-- An Event whose bound contracts are not a mirrored pair gives nothing. -/
  unverified : ∀ event, (¬∃ first second binding,
      boundOf (reading cfg bindPredicate) (ofEvent candidates event) =
        [(first, binding), (second, binding.mirror)]) →
    ∀ d ∈ result.contracts ++ result.watchContracts, d.eventTicker ≠ event

/-- Every selected contract is of a selected package that is valid. -/
theorem Discovered.selected (found : Discovered cfg bindPredicate siblingScore series candidates
    ranked packages result) {c : SelectedContract}
    (member : c ∈ result.contracts ++ result.watchContracts) :
    ∃ package ∈ chosen cfg packages, c.eventTicker = package.trade.eventTicker ∧
      ValidPackage cfg bindPredicate siblingScore candidates ranked package.trade
        package.watch := by
  rw [found.answer] at member
  rcases List.mem_append.mp member with trades | watches
  · obtain ⟨package, inside, rfl⟩ := List.mem_map.mp trades
    exact ⟨package, inside, rfl, (found.packagesOf.sound package (mem_chosen inside)).2.2⟩
  · obtain ⟨package, inside, rfl⟩ := List.mem_map.mp watches
    have valid := (found.packagesOf.sound package (mem_chosen inside)).2.2
    exact ⟨package, inside, valid.event, valid⟩

theorem Discovered.siblingProtected (found : Discovered cfg bindPredicate siblingScore series
    candidates ranked packages result) :
    SiblingProtected cfg bindPredicate siblingScore candidates ranked result := by
  have of := found.packagesOf
  have perm := rankCandidates_perm found.distinct found.ranking
  have tradeEvents : (chosen cfg packages).map (SelectedContract.eventTicker ∘ Package.trade) =
      (chosen cfg packages).map Package.eventTicker :=
    List.map_congr_left fun package member => (of.sound package (mem_chosen member)).1.symm
  have watchEvents : (chosen cfg packages).map (SelectedContract.eventTicker ∘ Package.watch) =
      (chosen cfg packages).map Package.eventTicker := by
    refine List.map_congr_left fun package member => ?_
    obtain ⟨own, -, valid⟩ := of.sound package (mem_chosen member)
    exact valid.event.trans own.symm
  constructor
  · intro trade member
    rw [found.answer] at member
    obtain ⟨package, inside, rfl⟩ := List.mem_map.mp member
    obtain ⟨binding, bound, opposite⟩ := found.bindings inside
    refine ⟨package.watch, binding, ?_, bound, opposite⟩
    have watches : (result.watchContracts.map SelectedContract.eventTicker).Nodup := by
      rw [found.answer, resultOf, List.map_map, watchEvents]
      exact found.events_nodup
    have valid := (of.sound package (mem_chosen inside)).2.2
    rw [← valid.event]
    refine filter_key SelectedContract.eventTicker watches ?_
    rw [found.answer]
    exact List.mem_map_of_mem inside
  · rw [found.answer, resultOf, List.map_map, tradeEvents]
    exact found.events_nodup
  · have room := found.room
    have count : (chosen cfg packages).length ≤ (cfg.maxMonitoredMarkets / 2).toNat :=
      List.length_take_le _ _
    rw [found.answer, resultOf, List.length_map, List.length_map]
    omega
  · refine ⟨(sortOn Package.key packages).map fun package => (package.trade, package.watch),
      ?_, ?_, ?_, ?_⟩
    · intro trade watch
      rw [List.mem_map]
      constructor
      · rintro ⟨package, member, same⟩
        cases same
        exact (of.sound package ((mem_sortOn _).mp member)).2.2
      · intro valid
        exact ⟨_, (mem_sortOn _).mpr (of.complete trade watch valid), rfl⟩
    · exact List.pairwise_map.mpr (of.ranks found.distinct perm)
    · rw [found.answer, ← List.map_take, List.map_map]
      rfl
    · rw [found.answer, ← List.map_take, List.map_map]
      rfl
  · intro c member broken d inside same
    obtain ⟨package, -, event, valid⟩ := found.selected inside
    exact valid.clear c member (same.symm.trans event) broken
  · intro event unverified d inside same
    obtain ⟨package, -, own, valid⟩ := found.selected inside
    rw [← same, own] at unverified
    exact unverified (valid.listed found.distinct)

/-- The same rows in another order give the same result. -/
theorem Discovered.result_eq {other : List SeriesRows} {candidates' ranked' : List SelectedContract}
    {packages' : List Package} {result' : DiscoveryResult}
    (found : Discovered cfg bindPredicate siblingScore series candidates ranked packages result)
    (found' : Discovered cfg bindPredicate siblingScore other candidates' ranked' packages' result')
    (alike : List.Forall₂ SeriesAlike series other) : result' = result := by
  have perm := gameCandidates_perm alike found.rows found'.rows
  obtain rfl := rankCandidates_congr perm found.distinct found.ranking found'.ranking
  have same : chosen cfg packages = chosen cfg packages' := by
    unfold chosen
    rw [found.packagesOf.sorted_eq found'.packagesOf perm]
  have holds : Holds (reading cfg bindPredicate) candidates
      (bindContracts cfg bindPredicate candidates) :=
    holds_bindContracts bindPredicate found.distinct
  have holds' : Holds (reading cfg bindPredicate) candidates'
      (bindContracts cfg bindPredicate candidates') :=
    holds_bindContracts bindPredicate found'.distinct
  have bindings (contracts : List SelectedContract)
      (inside : ∀ c ∈ contracts, c ∈ candidates) :
      selectedBindings (bindContracts cfg bindPredicate candidates').bindingByTicker contracts =
        selectedBindings (bindContracts cfg bindPredicate candidates).bindingByTicker
          contracts := by
    refine List.filterMap_congr fun c member => ?_
    rw [holds.binding c (inside c member), holds'.binding c (perm.mem_iff.mp (inside c member))]
  rw [found.answer, found'.answer, resultOf, resultOf, ← same, bindings]
  intro c member
  rcases List.mem_append.mp member with trades | watches
  · obtain ⟨package, there, rfl⟩ := List.mem_map.mp trades
    exact (found.packagesOf.sound package (mem_chosen there)).2.2.trade_mem
  · obtain ⟨package, there, rfl⟩ := List.mem_map.mp watches
    exact (found.packagesOf.sound package (mem_chosen there)).2.2.watch_mem

/-- Whatever the rows, the bindings, the scores and the cap: each selected contract has the
opponent's to watch, the selection is the first of the valid packages within the cap, and the
order of the rows does not matter to it. -/
theorem sibling_selection (cfg : DiscoveryConfig) (bindPredicate : Option BindPredicate)
    (siblingScore : Option (SiblingScore S)) (series : List SeriesRows) (result : DiscoveryResult)
    (enabled : cfg.siblingSpikeEnabled = true)
    (found : discoverGameContracts cfg bindPredicate siblingScore series = .ok result) :
    (∃ candidates ranked, gameCandidates cfg series [] = .ok candidates ∧
      rankCandidates cfg bindPredicate candidates = .ok ranked ∧
      SiblingProtected cfg bindPredicate siblingScore candidates ranked result) ∧
    ∀ other result', List.Forall₂ SeriesAlike series other →
      discoverGameContracts cfg bindPredicate siblingScore other = .ok result' →
        result' = result := by
  obtain ⟨candidates, ranked, packages, here⟩ := discovered enabled found
  refine ⟨⟨candidates, ranked, here.rows, here.ranking, here.siblingProtected⟩, ?_⟩
  intro other result' alike found'
  obtain ⟨candidates', ranked', packages', there⟩ := discovered enabled found'
  exact here.result_eq there alike

/-! ## A sample -/

def sampleConfig : DiscoveryConfig :=
  ⟨true, true, true, Decimal.ofNat 10, Decimal.ofDigits 5 2, 3⟩

/-- A Market of the Event, 40 to 42 cents. -/
def sampleMarket (ticker : String) : MarketRow :=
  ⟨ticker, "KXATP-1", "active", .finite (Decimal.ofDigits 40 2), .finite (Decimal.ofDigits 42 2),
    .finite (Decimal.ofNat 20), .finite (Decimal.ofNat 20), none, some "winner"⟩

/-- An Event of two players and a prop. -/
def sampleEvent : EventRow :=
  ⟨"KXATP-1", "KXATP", "Sports", "A vs B",
    [sampleMarket "KXATP-1-A", sampleMarket "KXATP-1-B", sampleMarket "KXATP-1-SETS"]⟩

def sampleSeries : List SeriesRows :=
  [⟨[("KXATP-1", ⟨"Tennis", some "ATP", "KXATP", "m1", 1000⟩)], [sampleEvent]⟩]

def sampleBinding : Binding := ⟨"c1", "a", "b", none⟩

/-- A scoreboard that knows the two players. -/
def samplePredicate : BindPredicate := fun contract => .ok
  (if contract.ticker = "KXATP-1-A" then sampleBinding.raw
    else if contract.ticker = "KXATP-1-B" then sampleBinding.mirror.raw
    else .none)

/-- The second player is the better one to trade. -/
def sampleScore : SiblingScore ℕ := fun contract =>
  .ok (.scalar (if contract.ticker = "KXATP-1-B" then 1 else 0))

/-- The contract of a Market of the Event. -/
def sampleContract (ticker : String) : SelectedContract :=
  ⟨ticker, "winner", "A vs B", Decimal.ofDigits 40 2, Decimal.ofDigits 42 2,
    Decimal.ofNat 20, Decimal.ofNat 20, ⟨"Tennis", some "ATP", "KXATP", "m1", "KXATP-1", 1000⟩⟩

def sampleContracts : List SelectedContract :=
  [sampleContract "KXATP-1-A", sampleContract "KXATP-1-B", sampleContract "KXATP-1-SETS"]

def samplePackage : Package :=
  ⟨1, "KXATP-1", sampleContract "KXATP-1-B", sampleContract "KXATP-1-A"⟩

def sampleResult : DiscoveryResult :=
  ⟨[sampleContract "KXATP-1-B"], [sampleContract "KXATP-1-A"],
    [("KXATP-1-B", sampleBinding.mirror), ("KXATP-1-A", sampleBinding)]⟩

theorem sample_ranked :
    rankCandidates sampleConfig (some samplePredicate) sampleContracts = .ok sampleContracts := by
  have bound : rankContracts [sampleContract "KXATP-1-A", sampleContract "KXATP-1-B"]
      (Decimal.ofNat 10) = .ok [sampleContract "KXATP-1-A", sampleContract "KXATP-1-B"] := by
    rw [rankContracts_ok (by decide +kernel) (by decide +kernel), sortOn_pair _ (by decide +kernel)]
  have prop : rankContracts [sampleContract "KXATP-1-SETS"] (Decimal.ofNat 10) =
      .ok [sampleContract "KXATP-1-SETS"] := by
    rw [rankContracts_ok (by decide +kernel) (by decide +kernel), sortOn_singleton]
  have tiers : (bindContracts sampleConfig (some samplePredicate) sampleContracts).bindableTickers =
      ["KXATP-1-B", "KXATP-1-A"] := by decide
  rw [rankCandidates, if_pos ⟨rfl, rfl⟩, tiers]
  show (rankContracts [sampleContract "KXATP-1-A", sampleContract "KXATP-1-B"] _ >>= _) = _
  rw [show sampleConfig.contractsPerTrade = Decimal.ofNat 10 from rfl, bound, ok_bind]
  show (rankContracts [sampleContract "KXATP-1-SETS"] (Decimal.ofNat 10) >>= _) = _
  rw [prop]
  rfl

theorem sample_packages : selectPackages sampleConfig sampleContracts
    (bindContracts sampleConfig (some samplePredicate) sampleContracts) (some sampleScore)
    sampleContracts = .ok [samplePackage] := by
  have events : candidatesByEvent sampleContracts = [("KXATP-1", sampleContracts)] := by
    decide +kernel
  have pair : verifiedEventPair sampleContracts
      (bindContracts sampleConfig (some samplePredicate) sampleContracts).bindingByTicker false =
      .ok (some (sampleContract "KXATP-1-A", sampleContract "KXATP-1-B")) := by decide +kernel
  have trades : selectOnePerEvent [sampleContract "KXATP-1-A", sampleContract "KXATP-1-B"] 1
      (some sampleScore) = .ok [sampleContract "KXATP-1-B"] := by decide +kernel
  have sorted : sortOn (rankIndex sampleContracts)
      [sampleContract "KXATP-1-A", sampleContract "KXATP-1-B"] =
      [sampleContract "KXATP-1-A", sampleContract "KXATP-1-B"] := sortOn_pair _ (by decide)
  have given : eventPackage sampleContracts
      (bindContracts sampleConfig (some samplePredicate) sampleContracts) (some sampleScore)
      ("KXATP-1", sampleContracts) = .ok (some samplePackage) := by
    unfold eventPackage
    rw [if_neg (by decide), pair, ok_bind]
    simp only [sorted, trades, ok_bind]
    rfl
  unfold selectPackages
  simp only [events, eventPackages, given, ok_bind]
  show Except.ok ((sortOn _ [samplePackage]).take _) = _
  rw [sortOn_singleton]
  rfl

theorem sample_discovered : discoverGameContracts sampleConfig (some samplePredicate)
    (some sampleScore) sampleSeries = .ok sampleResult := by
  have candidates : gameCandidates sampleConfig sampleSeries [] = .ok sampleContracts := by
    decide +kernel
  have winners : selectOnePerEvent sampleContracts (max sampleContracts.length 1)
      (some sampleScore) = .ok [sampleContract "KXATP-1-B"] := by decide +kernel
  unfold discoverGameContracts selectContracts
  rw [refuse_ok _ (by decide), ok_bind, candidates, ok_bind, sample_ranked, ok_bind,
    refuse_ok _ (by decide), ok_bind]
  show (selectOnePerEvent sampleContracts (max sampleContracts.length 1) (some sampleScore) >>= _) =
    _
  rw [winners, ok_bind]
  show ((selectPackages sampleConfig sampleContracts
    (bindContracts sampleConfig (some samplePredicate) sampleContracts) (some sampleScore)
    sampleContracts) >>= _) = _
  rw [sample_packages]
  decide +kernel

theorem sibling_selection_sample :
    ∃ candidates ranked, gameCandidates sampleConfig sampleSeries [] = .ok candidates ∧
      rankCandidates sampleConfig (some samplePredicate) candidates = .ok ranked ∧
      SiblingProtected sampleConfig (some samplePredicate) (some sampleScore) candidates ranked
        sampleResult :=
  (sibling_selection sampleConfig (some samplePredicate) (some sampleScore) sampleSeries
    sampleResult rfl sample_discovered).1

end Inci.Discovery
