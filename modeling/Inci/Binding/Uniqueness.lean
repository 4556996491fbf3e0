/-
# Binding.Uniqueness -- an accepted universe names every key once

The loop over the bindings of a universe keeps six lists of keys, and each stays
free of duplicates (`checkBindings_after`).  So each match, market and player of an
accepted universe has one place (`unique_of_accepted`), and a provider state
resolves to one match.
-/
import Inci.Binding.Universe
import Inci.Tennis.Contracts

namespace Inci.Binding

open Inci.Theory Inci.Expert
open Inci.Tennis (TennisState)

set_option autoImplicit false

/-- `resolve_binding` -/
def resolveBinding (providerState : TennisState) (kalshiEventTicker : String)
    (u : BindingUniverse) : Except ExpertError MatchBinding := do
  ticker kalshiEventTicker "kalshi_event_ticker"
  providerState.postInit
  u.postInit
  match u.bindings.filter fun binding => decide (
      binding.providerSourceId = providerState.providerSourceId ∧
      binding.revisionDomainId = providerState.revisionDomainId ∧
      binding.sourceLineageSha256 = providerState.sourceLineageSha256 ∧
      binding.providerMatchId = providerState.providerMatchId ∧
      binding.providerHomePlayerId = providerState.homePlayerId ∧
      binding.providerAwayPlayerId = providerState.awayPlayerId ∧
      binding.matchFormat = providerState.matchFormat ∧
      binding.scheduledStartWallNs = providerState.scheduledStartWallNs ∧
      binding.kalshiEventTicker = kalshiEventTicker) with
  | [binding] => pure binding
  | _ => .error (.contract "binding_not_found")

/-! ## The keys of a loop -/

abbrev Pair := MatchBinding × BindingMetadata

def providerMatchOf (pair : Pair) : List String :=
  [pair.1.providerSourceId, pair.1.revisionDomainId, pair.1.providerMatchId]

def marketTickersOf (pair : Pair) : List String :=
  pair.2.markets.map BindingMarketMetadata.marketTicker

def marketIdsOf (pair : Pair) : List String := pair.2.markets.map BindingMarketMetadata.marketId

/-- The event id of the first market. -/
def eventIdsOf (pair : Pair) : List String :=
  (pair.2.markets.take 1).map BindingMarketMetadata.eventId

/-- No list of keys holds a key twice. -/
structure GlobalSeen.Distinct (seen : GlobalSeen) : Prop where
  matchIds : seen.matchIds.Nodup
  providerMatches : seen.providerMatches.Nodup
  eventTickers : seen.eventTickers.Nodup
  eventIds : seen.eventIds.Nodup
  marketTickers : seen.marketTickers.Nodup
  marketIds : seen.marketIds.Nodup

/-- The keys after the pairs of a loop. -/
def GlobalSeen.after (seen : GlobalSeen) (pairs : List Pair) : GlobalSeen where
  matchIds := (pairs.map matchOf).reverse ++ seen.matchIds
  providerMatches := (pairs.map providerMatchOf).reverse ++ seen.providerMatches
  eventTickers := (pairs.map fun pair => pair.1.kalshiEventTicker).reverse ++ seen.eventTickers
  eventIds := (pairs.flatMap eventIdsOf).reverse ++ seen.eventIds
  marketTickers := (pairs.flatMap marketTickersOf).reverse ++ seen.marketTickers
  marketIds := (pairs.flatMap marketIdsOf).reverse ++ seen.marketIds

theorem GlobalSeen.empty_distinct : GlobalSeen.empty.Distinct :=
  ⟨List.nodup_nil, List.nodup_nil, List.nodup_nil, List.nodup_nil, List.nodup_nil, List.nodup_nil⟩

theorem insertNew_nodup {α : Type} [DecidableEq α] {seen next : List α} {value : α}
    (nodup : seen.Nodup) (inserted : insertNew seen value = .ok next) :
    next.Nodup ∧ next = value :: seen := by
  obtain ⟨fresh, rfl⟩ := insertNew_eq_ok.mp inserted
  exact ⟨List.nodup_cons.mpr ⟨fresh, nodup⟩, rfl⟩

/-- One turn of either loop adds the keys of its pair, none of them a second time. -/
theorem GlobalSeen.add_after {seen next : GlobalSeen} {binding : MatchBinding}
    {item : BindingMetadata} {home away : BindingMarketMetadata} (markets : item.markets = [home, away])
    (distinct : seen.Distinct) (added : seen.add binding home away = .ok next) :
    next.Distinct ∧ next = seen.after [(binding, item)] := by
  simp only [GlobalSeen.add, bind_eq_ok, pure_eq_ok] at added
  obtain ⟨_, matches_, _, providers, _, tickers, _, events, _, home_, _, away_, _, homeId, _, awayId,
    rfl⟩ := added
  obtain ⟨first, rfl⟩ := insertNew_nodup distinct.matchIds matches_
  obtain ⟨second, rfl⟩ := insertNew_nodup distinct.providerMatches providers
  obtain ⟨third, rfl⟩ := insertNew_nodup distinct.eventTickers tickers
  obtain ⟨fourth, rfl⟩ := insertNew_nodup distinct.eventIds events
  obtain ⟨homeTicker, rfl⟩ := insertNew_nodup distinct.marketTickers home_
  obtain ⟨fifth, rfl⟩ := insertNew_nodup homeTicker away_
  obtain ⟨homeMarket, rfl⟩ := insertNew_nodup distinct.marketIds homeId
  obtain ⟨sixth, rfl⟩ := insertNew_nodup homeMarket awayId
  refine ⟨⟨first, second, third, fourth, fifth, sixth⟩, ?_⟩
  simp [GlobalSeen.after, matchOf, providerMatchOf, eventIdsOf, marketTickersOf, marketIdsOf, markets]

theorem GlobalSeen.after_cons (seen : GlobalSeen) (pair : Pair) (rest : List Pair) :
    (seen.after [pair]).after rest = seen.after (pair :: rest) := by
  simp [GlobalSeen.after]

/-- The parts of a pair agree. -/
structure Projected (pair : Pair) : Prop where
  matchId : pair.2.canonicalMatchId = pair.1.canonicalMatchId
  markets : ∃ home away, pair.2.markets = [home, away] ∧
    home.yesProviderPlayerId = pair.1.providerHomePlayerId ∧
    away.yesProviderPlayerId = pair.1.providerAwayPlayerId ∧
    home.eventTicker = pair.1.kalshiEventTicker ∧ away.eventTicker = pair.1.kalshiEventTicker ∧
    home.marketTicker = pair.1.homeMarketTicker ∧ away.marketTicker = pair.1.awayMarketTicker

theorem checkBinding_after {u : BindingUniverse} {previous : Option (List String)}
    {seen next : GlobalSeen} {binding : MatchBinding} {item : BindingMetadata}
    (distinct : seen.Distinct) (checked : u.checkBinding previous seen binding item = .ok next) :
    next.Distinct ∧ next = seen.after [(binding, item)] ∧ Projected (binding, item) := by
  simp only [BindingUniverse.checkBinding, bind_eq_ok, exists_unit] at checked
  obtain ⟨-, checked⟩ := checked
  split at checked
  · rename_i home away markets
    simp only [bind_eq_ok, exists_unit, refuse_eq_ok, not_or, not_not, pure_eq_ok] at checked
    obtain ⟨⟨matchId, projection⟩, -, _, added, -, -, rfl⟩ := checked
    obtain ⟨held, same⟩ := GlobalSeen.add_after markets distinct added
    exact ⟨held, same, matchId, home, away, markets, projection⟩
  · cases checked

/-- After the loop over the bindings every key stands once. -/
theorem checkBindings_after {u : BindingUniverse} {pairs : List Pair} :
    ∀ {previous : Option (List String)} {seen : GlobalSeen}, seen.Distinct →
      u.checkBindings previous seen pairs = .ok () →
        (seen.after pairs).Distinct ∧ ∀ pair ∈ pairs, Projected pair := by
  induction pairs with
  | nil =>
      intro _ seen distinct _
      exact ⟨by simpa [GlobalSeen.after] using distinct, fun _ none => absurd none List.not_mem_nil⟩
  | cons pair rest ih =>
      intro previous seen distinct checked
      simp only [BindingUniverse.checkBindings, bind_eq_ok] at checked
      obtain ⟨next, here, later⟩ := checked
      obtain ⟨held, rfl, projected⟩ := checkBinding_after distinct here
      obtain ⟨last, all⟩ := ih held later
      rw [GlobalSeen.after_cons] at last
      exact ⟨last, List.forall_mem_cons.mpr ⟨projected, all⟩⟩

/-! ## Players -/

/-- After a loop over keys and values an equal key has an equal value. -/
theorem checkFunctional_eq_ok {name : String} {entries : List (List String × String)} :
    ∀ {known : List (List String × String)},
      checkFunctional name known entries = .ok () →
        ∀ e ∈ entries, ∀ f ∈ known ++ entries, f.1 = e.1 → f.2 = e.2 := by
  induction entries with
  | nil => exact fun _ _ none => absurd none List.not_mem_nil
  | cons entry rest ih =>
      obtain ⟨key, value⟩ := entry
      intro known checked
      simp only [checkFunctional, bind_eq_ok, exists_unit, refuse_eq_ok, not_exists, not_and,
        not_not] at checked
      obtain ⟨here, later⟩ := checked
      have ahead := ih later
      intro e member f inside same
      rw [List.mem_append, List.mem_cons] at inside
      rcases List.mem_cons.mp member with rfl | member
      · rcases inside with before | rfl | after
        · exact here f before same
        · rfl
        · exact (ahead f after (key, value) (by simp) same.symm).symm
      · refine ahead e member f ?_ same
        rcases inside with before | rfl | after
        · simp [before]
        · simp
        · simp [after]

/-- Provider and canonical player ids, one to one in each source and lineage. -/
def Bijective (occurrences : List PlayerOccurrence) : Prop :=
  ∀ o ∈ occurrences, ∀ other ∈ occurrences, o.sourceId = other.sourceId →
    o.lineage = other.lineage → (o.providerId = other.providerId ↔ o.canonicalId = other.canonicalId)

theorem validatePlayerBijection_bijective {occurrences : List PlayerOccurrence}
    (checked : validatePlayerBijection occurrences = .ok ()) : Bijective occurrences := by
  simp only [validatePlayerBijection, bind_eq_ok, exists_unit] at checked
  obtain ⟨toCanonical, toProvider⟩ := checked
  intro o inside other outside source lineage
  constructor
  · intro same
    exact checkFunctional_eq_ok toCanonical _ (List.mem_map_of_mem outside) _
      (List.mem_map_of_mem inside) (by simp [source, lineage, same])
  · intro same
    exact checkFunctional_eq_ok toProvider _ (List.mem_map_of_mem outside) _
      (List.mem_map_of_mem inside) (by simp [source, lineage, same])

/-! ## The universe -/

/-- Every key of a universe has one place. -/
structure BindingUniverse.Unique (u : BindingUniverse) : Prop where
  /-- A binding stands beside its metadata. -/
  aligned : u.metadata.map BindingMetadata.canonicalMatchId =
    u.bindings.map MatchBinding.canonicalMatchId
  markets : ∀ pair ∈ u.pairs, marketTickersOf pair = [pair.1.homeMarketTicker, pair.1.awayMarketTicker]
  matchIds : (u.bindings.map MatchBinding.canonicalMatchId).Nodup
  providerMatches : (u.bindings.map fun binding =>
    (binding.providerSourceId, binding.revisionDomainId, binding.providerMatchId)).Nodup
  eventTickers : (u.bindings.map MatchBinding.kalshiEventTicker).Nodup
  eventIds : ∀ pair ∈ u.pairs, ∀ other ∈ u.pairs, ∀ market ∈ pair.2.markets,
    ∀ second ∈ other.2.markets, market.eventId = second.eventId → pair = other
  marketTickers : (u.metadata.flatMap fun item =>
    item.markets.map BindingMarketMetadata.marketTicker).Nodup
  marketIds : (u.metadata.flatMap fun item =>
    item.markets.map BindingMarketMetadata.marketId).Nodup
  players : Bijective (u.pairs.flatMap occurrencesOf)
  /-- A market ticker has one authorized match and side. -/
  routes : ∀ pair ∈ u.pairs, ∀ other ∈ u.pairs, ∀ route ∈ pair.2.authorizedRoutes,
    ∀ second ∈ other.2.authorizedRoutes, route.marketTicker = second.marketTicker →
      pair = other ∧ route = second
  /-- A provider state resolves to one match. -/
  resolved : ∀ state ticker otherTicker binding other, resolveBinding state ticker u = .ok binding →
    resolveBinding state otherTicker u = .ok other → binding = other

/-- Of a list without duplicate keys one item has a key. -/
theorem eq_of_common_key {ι κ : Type} {keys : ι → List κ} {items : List ι}
    (nodup : (items.flatMap keys).Nodup) {i j : ι} (inside : i ∈ items) (outside : j ∈ items) {k : κ}
    (first : k ∈ keys i) (second : k ∈ keys j) : i = j := by
  induction items with
  | nil => exact absurd inside List.not_mem_nil
  | cons item rest ih =>
      rw [List.flatMap_cons, List.nodup_append] at nodup
      obtain ⟨-, later, apart⟩ := nodup
      rcases List.mem_cons.mp inside with rfl | below <;>
        rcases List.mem_cons.mp outside with rfl | under
      · rfl
      · exact absurd rfl (apart k first k (List.mem_flatMap.mpr ⟨j, under, second⟩))
      · exact absurd rfl (apart k second k (List.mem_flatMap.mpr ⟨i, below, first⟩))
      · exact ih later below under

/-- The event of a metadata and its two routes. -/
theorem BindingMetadata.postInit_routes {item : BindingMetadata} {home away : BindingMarketMetadata}
    (markets : item.markets = [home, away]) (built : item.postInit = .ok ()) :
    home.eventId = away.eventId ∧ home.marketTicker ≠ away.marketTicker ∧
      item.authorizedRoutes = [⟨.home, home.marketTicker, .yes⟩, ⟨.away, away.marketTicker, .yes⟩] := by
  simp only [BindingMetadata.postInit, markets, authorizedRoute, bind_eq_ok, exists_unit,
    refuse_eq_ok, not_or, not_not, pure_eq_ok] at built
  obtain ⟨-, -, -, -, -, -, -, -, -, -, -, -, -, -, agree, homeRoute, ⟨-, rfl⟩, awayRoute, ⟨-, rfl⟩,
    routes⟩ := built
  obtain ⟨-, -, -, -, -, different, -, -, -, event, -⟩ := agree
  exact ⟨event, different, routes⟩

/-- What the constructor of a universe has checked of its pairs. -/
theorem BindingUniverse.postInit_pairs {u : BindingUniverse} (accepted : u.postInit = .ok ()) :
    u.metadata.length = u.bindings.length ∧ (GlobalSeen.empty.after u.pairs).Distinct ∧
      (∀ pair ∈ u.pairs, Projected pair) ∧ Bijective (u.pairs.flatMap occurrencesOf) := by
  simp only [BindingUniverse.postInit, bind_eq_ok, exists_unit, refuse_eq_ok, not_not] at accepted
  obtain ⟨-, -, -, -, lengths, -, bindings, players, -⟩ := accepted
  obtain ⟨distinct, projected⟩ := checkBindings_after GlobalSeen.empty_distinct bindings
  exact ⟨lengths, distinct, projected, validatePlayerBijection_bijective players⟩

theorem resolveBinding_spec {state : TennisState} {kalshiEventTicker : String} {u : BindingUniverse}
    {binding : MatchBinding} (resolved : resolveBinding state kalshiEventTicker u = .ok binding) :
    binding ∈ u.bindings ∧ binding.providerSourceId = state.providerSourceId ∧
      binding.revisionDomainId = state.revisionDomainId ∧
      binding.providerMatchId = state.providerMatchId := by
  simp only [resolveBinding, bind_eq_ok, exists_unit] at resolved
  obtain ⟨-, -, -, resolved⟩ := resolved
  split at resolved
  · rename_i found only
    obtain rfl := Except.ok.inj resolved
    have member : found ∈ u.bindings.filter _ := only ▸ List.mem_singleton_self found
    obtain ⟨inside, agrees⟩ := List.mem_filter.mp member
    obtain ⟨source, domain, -, match_, -⟩ := of_decide_eq_true agrees
    exact ⟨inside, source, domain, match_⟩
  · cases resolved

/-- A universe that its constructor accepted, of metadata that theirs did, is unique. -/
theorem unique_of_accepted {u : BindingUniverse} (accepted : u.postInit = .ok ())
    (built : ∀ item ∈ u.metadata, item.postInit = .ok ()) : u.Unique := by
  obtain ⟨lengths, distinct, projected, players⟩ := BindingUniverse.postInit_pairs accepted
  have first : u.pairs.map Prod.fst = u.bindings := List.map_fst_zip (le_of_eq lengths.symm)
  have second : u.pairs.map Prod.snd = u.metadata := List.map_snd_zip (le_of_eq lengths)
  have item : ∀ pair ∈ u.pairs, pair.2.postInit = .ok () := by
    intro pair inside
    exact built pair.2 (second ▸ List.mem_map_of_mem inside)
  obtain ⟨matchIds, providers, tickers, events, marketTickers, marketIds⟩ := distinct
  simp only [GlobalSeen.after, GlobalSeen.empty, List.append_nil, List.nodup_reverse]
    at matchIds providers tickers events marketTickers marketIds
  have pairs_providers : (u.bindings.map fun binding =>
      (binding.providerSourceId, binding.revisionDomainId, binding.providerMatchId)).Nodup := by
    rw [← first, List.map_map]
    refine List.Nodup.of_map (fun key : String × String × String => [key.1, key.2.1, key.2.2]) ?_
    rw [List.map_map]
    exact providers
  refine ⟨?_, ?_, ?_, pairs_providers, ?_, ?_, ?_, ?_, players, ?_, ?_⟩
  · rw [← first, ← second, List.map_map, List.map_map]
    exact List.map_congr_left fun pair inside => (projected pair inside).matchId
  · intro pair inside
    obtain ⟨home, away, markets, -, -, -, -, homeTicker, awayTicker⟩ := (projected pair inside).markets
    rw [marketTickersOf, markets, List.map_cons, List.map_singleton, homeTicker, awayTicker]
  · rw [← first, List.map_map]
    exact matchIds
  · rw [← first, List.map_map]
    exact tickers
  · -- the two markets of a pair have one event, and the first is a key
    have event : ∀ pair ∈ u.pairs, ∀ market ∈ pair.2.markets, market.eventId ∈ eventIdsOf pair := by
      intro pair inside market member
      obtain ⟨home, away, markets, -⟩ := (projected pair inside).markets
      obtain ⟨same, -⟩ := BindingMetadata.postInit_routes markets (item pair inside)
      rw [markets] at member
      rw [eventIdsOf, markets]
      rcases List.mem_cons.mp member with rfl | last
      · simp
      · rw [List.mem_singleton.mp last, ← same]
        simp
    intro pair inside other outside market member last another same
    exact eq_of_common_key events inside outside (event pair inside market member)
      (same ▸ event other outside last another)
  · rw [← second, List.flatMap_map]
    exact marketTickers
  · rw [← second, List.flatMap_map]
    exact marketIds
  · intro pair inside other outside route routed last another same
    have ticker : ∀ pair ∈ u.pairs, ∀ route ∈ pair.2.authorizedRoutes,
        route.marketTicker ∈ marketTickersOf pair := by
      intro pair inside route routed
      obtain ⟨home, away, markets, -⟩ := (projected pair inside).markets
      obtain ⟨-, -, routes⟩ := BindingMetadata.postInit_routes markets (item pair inside)
      rw [routes] at routed
      rw [marketTickersOf, markets]
      rcases List.mem_cons.mp routed with rfl | routed
      · simp
      · rw [List.mem_singleton.mp routed]
        simp
    obtain rfl := eq_of_common_key marketTickers inside outside (ticker pair inside route routed)
      (same ▸ ticker other outside last another)
    refine ⟨rfl, ?_⟩
    obtain ⟨home, away, markets, -⟩ := (projected pair inside).markets
    obtain ⟨-, different, routes⟩ := BindingMetadata.postInit_routes markets (item pair inside)
    rw [routes] at routed another
    simp only [List.mem_cons, List.not_mem_nil, or_false] at routed another
    rcases routed with rfl | rfl <;> rcases another with rfl | rfl
    · rfl
    · exact absurd same different
    · exact absurd same.symm different
    · rfl
  · intro state ticker otherTicker binding other here there
    obtain ⟨inside, source, domain, match_⟩ := resolveBinding_spec here
    obtain ⟨outside, otherSource, otherDomain, otherMatch⟩ := resolveBinding_spec there
    refine List.inj_on_of_nodup_map pairs_providers inside outside ?_
    rw [source, domain, match_, otherSource, otherDomain, otherMatch]

end Inci.Binding
