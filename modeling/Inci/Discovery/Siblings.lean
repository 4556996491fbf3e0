/-
# Discovery.Siblings -- sibling protection of one Event

A valid package is a contract and the opponent's: the only two bound contracts of an Event
none of whose contracts has an unusable binding, with identities that mirror each other, the
better one to trade (`ValidPackage`).  This does not mention the order of the candidates, and
an Event gives a package exactly when it has a valid one (`eventPackage_sound`,
`eventPackage_complete`).
-/
import Inci.Discovery.Readings

namespace Inci.Discovery

open Inci.Theory

set_option autoImplicit false

variable {cfg : DiscoveryConfig} {bindPredicate : Option BindPredicate}
  {candidates : List SelectedContract}

/-! ## The candidates of an Event -/

/-- The candidates of one Event. -/
def ofEvent (candidates : List SelectedContract) (event : String) : List SelectedContract :=
  candidates.filter fun c => c.eventTicker = event

/-- The groups are the candidates of each Event that has one. -/
structure Groups (candidates : List SelectedContract)
    (events : List (String × List SelectedContract)) : Prop where
  distinct : (Dict.keys events).Nodup
  keys : ∀ event, event ∈ Dict.keys events ↔ ∃ c ∈ candidates, c.eventTicker = event
  group : ∀ entry ∈ events, entry.2 = ofEvent candidates entry.1

theorem groups_candidatesByEvent (candidates : List SelectedContract) :
    Groups candidates (candidatesByEvent candidates) := by
  unfold candidatesByEvent
  induction candidates using List.reverseRecOn with
  | nil => exact ⟨List.nodup_nil, by simp [Dict.keys], by simp⟩
  | append_singleton rest c ih =>
      rw [List.foldl_append]
      generalize rest.foldl _ [] = events at ih
      have before : (Dict.get events c.eventTicker).getD [] = ofEvent rest c.eventTicker := by
        cases found : Dict.get events c.eventTicker with
        | some group => exact ih.group _ ((Dict.get_eq_some ih.distinct).mp found)
        | none =>
            have absent := (ih.keys c.eventTicker).not.mp (Dict.get_eq_none.mp found)
            refine (List.filter_eq_nil_iff.mpr fun d member same => ?_).symm
            exact absent ⟨d, member, of_decide_eq_true same⟩
      have split (event : String) : ofEvent (rest ++ [c]) event =
          ofEvent rest event ++ if c.eventTicker = event then [c] else [] := by
        unfold ofEvent
        rw [List.filter_append]
        by_cases same : c.eventTicker = event <;> simp [same]
      refine ⟨Dict.nodup_put ih.distinct, ?_, ?_⟩
      · intro event
        show event ∈ Dict.keys (Dict.put events c.eventTicker _) ↔ _
        rw [Dict.mem_keys_put, ih.keys]
        simp only [List.mem_append, List.mem_singleton, or_and_right, exists_or, exists_eq_left]
        rw [or_comm, eq_comm]
      · intro entry member
        rw [split]
        have found := (Dict.get_eq_some (Dict.nodup_put ih.distinct)).mpr member
        by_cases here : entry.1 = c.eventTicker
        · rw [here, Dict.get_put_same, Option.some.injEq] at found
          rw [← found, before, here, if_pos rfl]
        · rw [Dict.get_put_other here] at found
          rw [if_neg (Ne.symm here), List.append_nil]
          exact ih.group _ ((Dict.get_eq_some ih.distinct).mp found)

/-! ## One Event -/

theorem rankIndex_inj {ranked : List SelectedContract}
    (distinct : (ranked.map SelectedContract.ticker).Nodup) {c d : SelectedContract}
    (here : c ∈ ranked) (there : d ∈ ranked) (same : rankIndex ranked c = rankIndex ranked d) :
    c = d := by
  have place (x : SelectedContract) (member : x ∈ ranked) :
      ∃ bound : rankIndex ranked x < ranked.length,
        (ranked[rankIndex ranked x]).ticker = x.ticker := by
    have inside : rankIndex ranked x < ranked.length :=
      List.findIdx_lt_length_of_exists ⟨x, member, decide_eq_true rfl⟩
    exact ⟨inside, of_decide_eq_true (List.findIdx_getElem (w := inside))⟩
  obtain ⟨one, first⟩ := place c here
  obtain ⟨other, second⟩ := place d there
  refine List.inj_on_of_nodup_map distinct here there ?_
  rw [← first, ← second]
  congr 2

section

variable {S : Type} [LinearOrder S] {siblingScore : Option (SiblingScore S)}

/-- Of two contracts of an Event the second is kept when its score is higher. -/
theorem selectOnePerEvent_pair {first second : SelectedContract}
    (event : second.eventTicker = first.eventTicker) (apart : first.ticker ≠ second.ticker) :
    selectOnePerEvent [first, second] 1 siblingScore =
      .ok [if scoreOf siblingScore first < scoreOf siblingScore second then second else first] := by
  unfold selectOnePerEvent
  rw [refuse_ok _ (by decide), ok_bind]
  by_cases higher : scoreOf siblingScore first < scoreOf siblingScore second
  · simp [keepBest, Dict.get, Dict.put, event, higher, apart]
  · simp [keepBest, Dict.get, Dict.put, event, higher, apart.symm]

end

/-- The contracts that are bound, with their identities. -/
def boundOf (read : SelectedContract → Reading) (contracts : List SelectedContract) :
    List (SelectedContract × Binding) :=
  contracts.filterMap fun c => (read c).binding.map fun binding => (c, binding)

theorem mem_boundOf {read : SelectedContract → Reading} {contracts : List SelectedContract}
    {c : SelectedContract} {binding : Binding} :
    (c, binding) ∈ boundOf read contracts ↔ c ∈ contracts ∧ (read c).binding = some binding := by
  simp only [boundOf, List.mem_filterMap, Option.map_eq_some_iff, Prod.mk.injEq]
  constructor
  · rintro ⟨d, member, b, found, rfl, rfl⟩
    exact ⟨member, found⟩
  · rintro ⟨member, found⟩
    exact ⟨c, member, binding, found, rfl, rfl⟩

/-- A pair is verified when it is the two bound contracts, with mirrored identities. -/
theorem verifiedEventPair_eq_some {read : SelectedContract → Reading} {state : BindState}
    (holds : Holds read candidates state) {contracts : List SelectedContract}
    (inside : ∀ c ∈ contracts, c ∈ candidates) {first second : SelectedContract} :
    verifiedEventPair contracts state.bindingByTicker false = .ok (some (first, second)) ↔
      ∃ binding, boundOf read contracts = [(first, binding), (second, binding.mirror)] := by
  have bound : (contracts.filterMap fun candidate =>
      (Dict.get state.bindingByTicker candidate.ticker).map fun binding => (candidate, binding)) =
      boundOf read contracts :=
    List.filterMap_congr fun c member => by rw [holds.binding c (inside c member)]
  unfold verifiedEventPair
  rw [bound]
  rcases boundOf read contracts with _ | ⟨⟨a, x⟩, _ | ⟨⟨b, y⟩, _ | ⟨_, rest⟩⟩⟩
  · simp
  · simp
  · by_cases opposite : y = x.mirror
    · simp [opposite, and_assoc]
    · simp [opposite]
  · simp

/-! ## Valid packages -/

theorem reading_distinct {c : SelectedContract} {binding : Binding}
    (bound : (reading cfg bindPredicate c).binding = some binding) :
    binding.selectedId ≠ binding.opponentId := by
  cases bindPredicate with
  | none => cases bound
  | some predicate =>
      simp only [reading] at bound
      cases answer : predicate c with
      | error _ =>
          simp only [answer] at bound
          split_ifs at bound <;> cases bound
      | ok raw =>
          cases raw with
          | none =>
              simp only [answer] at bound
              cases bound
          | bool b =>
              simp only [answer] at bound
              split_ifs at bound <;> cases bound
          | other =>
              simp only [answer] at bound
              cases bound
          | parts items =>
              simp only [answer] at bound
              cases read : scoreBindingIdentity (.parts items) with
              | error _ =>
                  simp only [read] at bound
                  cases bound
              | ok found =>
                  cases found with
                  | none =>
                      simp only [read] at bound
                      cases bound
                  | some identity =>
                      simp only [read] at bound
                      cases bound
                      exact scoreBindingIdentity_distinct read

section

variable {S : Type} [LinearOrder S]

/-- The contract to trade: of a higher score, or of the same score and the earlier rank. -/
def Prefers (siblingScore : Option (SiblingScore S)) (ranked : List SelectedContract)
    (trade watch : SelectedContract) : Prop :=
  scoreOf siblingScore watch < scoreOf siblingScore trade ∨
    scoreOf siblingScore watch = scoreOf siblingScore trade ∧
      rankIndex ranked trade < rankIndex ranked watch

/-- The two bound contracts of an Event without unusable bindings, with mirrored identities. -/
structure ValidPackage (cfg : DiscoveryConfig) (bindPredicate : Option BindPredicate)
    (siblingScore : Option (SiblingScore S)) (candidates ranked : List SelectedContract)
    (trade watch : SelectedContract) : Prop where
  trade_mem : trade ∈ candidates
  watch_mem : watch ∈ candidates
  event : watch.eventTicker = trade.eventTicker
  clear : ∀ c ∈ candidates, c.eventTicker = trade.eventTicker →
    reading cfg bindPredicate c ≠ .spoiled
  mirrored : ∃ binding, (reading cfg bindPredicate trade).binding = some binding ∧
    (reading cfg bindPredicate watch).binding = some binding.mirror
  only : ∀ c ∈ candidates, c.eventTicker = trade.eventTicker →
    (reading cfg bindPredicate c).binding ≠ none → c = trade ∨ c = watch
  preferred : Prefers siblingScore ranked trade watch

variable {siblingScore : Option (SiblingScore S)} {ranked : List SelectedContract}

theorem Prefers.asymm {trade watch : SelectedContract}
    (prefers : Prefers siblingScore ranked trade watch) :
    ¬Prefers siblingScore ranked watch trade := by
  rintro (higher | ⟨same, later⟩)
  · rcases prefers with lower | ⟨equal, -⟩
    · exact absurd higher lower.not_gt
    · exact absurd equal higher.ne'
  · rcases prefers with lower | ⟨-, earlier⟩
    · exact absurd same lower.ne'
    · omega

theorem ValidPackage.ne {trade watch : SelectedContract}
    (valid : ValidPackage cfg bindPredicate siblingScore candidates ranked trade watch) :
    trade ≠ watch := by
  rintro rfl
  exact valid.preferred.asymm valid.preferred

/-- An Event has one valid package at most. -/
theorem ValidPackage.unique {trade watch trade' watch' : SelectedContract}
    (valid : ValidPackage cfg bindPredicate siblingScore candidates ranked trade watch)
    (other : ValidPackage cfg bindPredicate siblingScore candidates ranked trade' watch')
    (event : trade'.eventTicker = trade.eventTicker) : trade' = trade ∧ watch' = watch := by
  obtain ⟨binding, bound, opposite⟩ := other.mirrored
  have one := valid.only trade' other.trade_mem event (by simp [bound])
  have two := valid.only watch' other.watch_mem (other.event.trans event) (by simp [opposite])
  have apart := other.ne
  rcases one with rfl | rfl <;> rcases two with rfl | rfl
  · exact absurd rfl apart
  · exact ⟨rfl, rfl⟩
  · exact absurd other.preferred valid.preferred.asymm
  · exact absurd rfl apart

/-- What the body of the loop gives for an Event whose bound contracts are a mirrored pair. -/
theorem eventPackage_pair {state : BindState} {event : String} {first second : SelectedContract}
    {contracts : List SelectedContract}
    (clear : event ∉ state.invalidBindingEvents)
    (pair : verifiedEventPair contracts state.bindingByTicker false = .ok (some (first, second)))
    (same : second.eventTicker = first.eventTicker) (apart : first.ticker ≠ second.ticker)
    (ranks : rankIndex ranked first ≠ rankIndex ranked second) :
    ∃ trade watch, (trade = first ∧ watch = second ∨ trade = second ∧ watch = first) ∧
      Prefers siblingScore ranked trade watch ∧
      eventPackage ranked state siblingScore (event, contracts) =
        .ok (some ⟨rankIndex ranked trade, event, trade, watch⟩) := by
  -- The pair in the order of their ranks, whichever that is.
  have ordered (x y : SelectedContract) (earlier : rankIndex ranked x < rankIndex ranked y)
      (sorted : sortOn (rankIndex ranked) [first, second] = [x, y])
      (event' : y.eventTicker = x.eventTicker) (apart' : x.ticker ≠ y.ticker)
      (pairing : x = first ∧ y = second ∨ x = second ∧ y = first) :
      ∃ trade watch, (trade = first ∧ watch = second ∨ trade = second ∧ watch = first) ∧
        Prefers siblingScore ranked trade watch ∧
        eventPackage ranked state siblingScore (event, contracts) =
          .ok (some ⟨rankIndex ranked trade, event, trade, watch⟩) := by
    have other (trade watch : SelectedContract)
        (which : trade = first ∧ watch = second ∨ trade = second ∧ watch = first) :
        (if first.ticker = trade.ticker then second else first) = watch := by
      rcases which with ⟨rfl, rfl⟩ | ⟨rfl, rfl⟩
      · exact if_pos rfl
      · exact if_neg apart
    have chosen : selectOnePerEvent [x, y] 1 siblingScore = .ok [_] :=
      selectOnePerEvent_pair event' apart'
    have package (trade : SelectedContract) (trades : selectOnePerEvent [x, y] 1 siblingScore =
        .ok [trade]) : eventPackage ranked state siblingScore (event, contracts) = .ok (some
          ⟨rankIndex ranked trade, event, trade,
            if first.ticker = trade.ticker then second else first⟩) := by
      unfold eventPackage
      rw [if_neg clear, pair, ok_bind]
      simp only [sorted, trades, ok_bind]
      rfl
    by_cases higher : scoreOf siblingScore x < scoreOf siblingScore y
    · rw [if_pos higher] at chosen
      refine ⟨y, x, pairing.symm.imp And.symm And.symm, .inl higher, ?_⟩
      rw [package y chosen, other y x (pairing.symm.imp And.symm And.symm)]
    · rw [if_neg higher] at chosen
      refine ⟨x, y, pairing, ?_, ?_⟩
      · rcases lt_or_eq_of_le (not_lt.mp higher) with lower | equal
        · exact .inl lower
        · exact .inr ⟨equal, earlier⟩
      · rw [package x chosen, other x y pairing]
  rcases lt_or_gt_of_ne ranks with less | more
  · exact ordered first second less (sortOn_pair _ less) same apart (.inl ⟨rfl, rfl⟩)
  · exact ordered second first more (sortOn_swap _ more) same.symm apart.symm (.inr ⟨rfl, rfl⟩)

theorem mem_ofEvent {event : String} {c : SelectedContract} :
    c ∈ ofEvent candidates event ↔ c ∈ candidates ∧ c.eventTicker = event := by
  simp [ofEvent]

/-- A verified pair of an Event, as two different contracts of it. -/
theorem verified_pair {state : BindState} {event : String} {first second : SelectedContract}
    (distinct : (candidates.map SelectedContract.ticker).Nodup)
    (holds : Holds (reading cfg bindPredicate) candidates state)
    (pair : verifiedEventPair (ofEvent candidates event) state.bindingByTicker false =
      .ok (some (first, second))) :
    first ∈ ofEvent candidates event ∧ second ∈ ofEvent candidates event ∧
      first.ticker ≠ second.ticker ∧
      (∃ binding, (reading cfg bindPredicate first).binding = some binding ∧
        (reading cfg bindPredicate second).binding = some binding.mirror) ∧
      ∀ c ∈ ofEvent candidates event, (reading cfg bindPredicate c).binding ≠ none →
        c = first ∨ c = second := by
  obtain ⟨binding, listed⟩ := (verifiedEventPair_eq_some holds
    fun c member => (mem_ofEvent.mp member).1).mp pair
  have one := mem_boundOf.mp (listed ▸ List.mem_cons_self :
    (first, binding) ∈ boundOf (reading cfg bindPredicate) (ofEvent candidates event))
  have two := mem_boundOf.mp (listed ▸ List.mem_cons_of_mem _ List.mem_cons_self :
    (second, binding.mirror) ∈ boundOf (reading cfg bindPredicate) (ofEvent candidates event))
  refine ⟨one.1, two.1, ?_, ⟨binding, one.2, two.2⟩, ?_⟩
  · intro same
    have equal := List.inj_on_of_nodup_map distinct (mem_ofEvent.mp one.1).1
      (mem_ofEvent.mp two.1).1 same
    rw [← equal, one.2, Option.some.injEq] at two
    exact mirror_ne (reading_distinct one.2) two.2.symm
  · intro c member some_binding
    obtain ⟨x, bound⟩ := Option.ne_none_iff_exists'.mp some_binding
    have inside := mem_boundOf.mpr ⟨member, bound⟩
    rw [listed] at inside
    simp only [List.mem_cons, Prod.mk.injEq, List.not_mem_nil, or_false] at inside
    exact inside.imp And.left And.left

/-- A verified pair of an Event that is not quarantined gives a package. -/
theorem eventPackage_verified {state : BindState} {event : String}
    {first second : SelectedContract}
    (distinct : (candidates.map SelectedContract.ticker).Nodup)
    (holds : Holds (reading cfg bindPredicate) candidates state)
    (perm : ranked.Perm candidates) (clear : event ∉ state.invalidBindingEvents)
    (verified : verifiedEventPair (ofEvent candidates event) state.bindingByTicker false =
      .ok (some (first, second))) :
    ∃ trade watch, (trade = first ∧ watch = second ∨ trade = second ∧ watch = first) ∧
      Prefers siblingScore ranked trade watch ∧
      eventPackage ranked state siblingScore (event, ofEvent candidates event) =
        .ok (some ⟨rankIndex ranked trade, event, trade, watch⟩) := by
  obtain ⟨one, two, apart, -, -⟩ := verified_pair distinct holds verified
  obtain ⟨first_mem, first_event⟩ := mem_ofEvent.mp one
  obtain ⟨second_mem, second_event⟩ := mem_ofEvent.mp two
  refine eventPackage_pair clear verified (second_event.trans first_event.symm) apart ?_
  intro same
  have tickers := (perm.map SelectedContract.ticker).nodup_iff.mpr distinct
  exact apart (congrArg _ (rankIndex_inj tickers (perm.mem_iff.mpr first_mem)
    (perm.mem_iff.mpr second_mem) same))

/-- What an Event gives: a package of its own that is valid. -/
theorem eventPackage_sound {state : BindState} {event : String} {package : Package}
    (distinct : (candidates.map SelectedContract.ticker).Nodup)
    (holds : Holds (reading cfg bindPredicate) candidates state)
    (perm : ranked.Perm candidates)
    (given : eventPackage ranked state siblingScore (event, ofEvent candidates event) =
      .ok (some package)) :
    package.eventTicker = event ∧ package.trade.eventTicker = event ∧
      package.rank = rankIndex ranked package.trade ∧
      ValidPackage cfg bindPredicate siblingScore candidates ranked package.trade
        package.watch := by
  by_cases spoiled : event ∈ state.invalidBindingEvents
  · unfold eventPackage at given
    rw [if_pos spoiled] at given
    cases given
  have clear : ∀ c ∈ candidates, c.eventTicker = event →
      reading cfg bindPredicate c ≠ .spoiled := by
    intro c member same broken
    exact spoiled ((holds.spoiled event).mpr ⟨c, member, same, broken⟩)
  cases verified : verifiedEventPair (ofEvent candidates event) state.bindingByTicker false with
  | error _ =>
      unfold eventPackage at given
      rw [if_neg spoiled, verified] at given
      cases given
  | ok pair =>
      cases pair with
      | none =>
          unfold eventPackage at given
          rw [if_neg spoiled, verified] at given
          cases given
      | some pair =>
          obtain ⟨first, second⟩ := pair
          obtain ⟨one, two, -, mirrored, only⟩ := verified_pair distinct holds verified
          obtain ⟨first_mem, first_event⟩ := mem_ofEvent.mp one
          obtain ⟨second_mem, second_event⟩ := mem_ofEvent.mp two
          have packaged : ∃ trade watch,
              (trade = first ∧ watch = second ∨ trade = second ∧ watch = first) ∧
                Prefers siblingScore ranked trade watch ∧
                eventPackage ranked state siblingScore (event, ofEvent candidates event) =
                  .ok (some ⟨rankIndex ranked trade, event, trade, watch⟩) :=
            eventPackage_verified distinct holds perm spoiled verified
          obtain ⟨trade, watch, which, prefers, answer⟩ := packaged
          rw [answer, Except.ok.injEq, Option.some.injEq] at given
          subst given
          obtain ⟨binding, bound, opposite⟩ := mirrored
          rcases which with ⟨rfl, rfl⟩ | ⟨rfl, rfl⟩
          · exact ⟨rfl, first_event, rfl, first_mem, second_mem,
              second_event.trans first_event.symm,
              fun c member same => clear c member (same.trans first_event),
              ⟨binding, bound, opposite⟩,
              fun c member same => only c (mem_ofEvent.mpr ⟨member, same.trans first_event⟩),
              prefers⟩
          · exact ⟨rfl, second_event, rfl, second_mem, first_mem,
              first_event.trans second_event.symm,
              fun c member same => clear c member (same.trans second_event),
              ⟨binding.mirror, opposite, by rw [bound, Binding.mirror_mirror]⟩,
              fun c member same some_binding =>
                (only c (mem_ofEvent.mpr ⟨member, same.trans second_event⟩) some_binding).symm,
              prefers⟩

/-- The bound contracts of the Event of a valid package are the two of it. -/
theorem ValidPackage.listed {trade watch : SelectedContract}
    (distinct : (candidates.map SelectedContract.ticker).Nodup)
    (valid : ValidPackage cfg bindPredicate siblingScore candidates ranked trade watch) :
    ∃ first second binding, boundOf (reading cfg bindPredicate)
      (ofEvent candidates trade.eventTicker) = [(first, binding), (second, binding.mirror)] := by
  obtain ⟨binding, bound, opposite⟩ := valid.mirrored
  have nodup : (boundOf (reading cfg bindPredicate)
      (ofEvent candidates trade.eventTicker)).Nodup := by
    refine List.Nodup.filterMap ?_ (distinct.of_map.filter _)
    intro c d entry here there
    obtain ⟨_, -, rfl⟩ := Option.map_eq_some_iff.mp here
    obtain ⟨_, -, same⟩ := Option.map_eq_some_iff.mp there
    exact (congrArg Prod.fst same).symm
  have apart : [(trade, binding), (watch, binding.mirror)].Nodup := by simp [valid.ne]
  have perm : (boundOf (reading cfg bindPredicate) (ofEvent candidates trade.eventTicker)).Perm
      [(trade, binding), (watch, binding.mirror)] := by
    refine (List.perm_ext_iff_of_nodup nodup apart).mpr fun entry => ?_
    obtain ⟨c, x⟩ := entry
    rw [mem_boundOf, mem_ofEvent]
    simp only [List.mem_cons, Prod.mk.injEq, List.not_mem_nil, or_false]
    constructor
    · rintro ⟨⟨member, same⟩, found⟩
      rcases valid.only c member same (by simp [found]) with rfl | rfl
      · exact .inl ⟨rfl, Option.some.inj (found.symm.trans bound)⟩
      · exact .inr ⟨rfl, Option.some.inj (found.symm.trans opposite)⟩
    · rintro (⟨rfl, rfl⟩ | ⟨rfl, rfl⟩)
      · exact ⟨⟨valid.trade_mem, rfl⟩, bound⟩
      · exact ⟨⟨valid.watch_mem, valid.event⟩, opposite⟩
  rcases List.perm_pair.mp perm with order | order
  · exact ⟨trade, watch, binding, order⟩
  · refine ⟨watch, trade, binding.mirror, ?_⟩
    rw [order, Binding.mirror_mirror]

/-- Every valid package is what its Event gives. -/
theorem eventPackage_complete {state : BindState} {trade watch : SelectedContract}
    (distinct : (candidates.map SelectedContract.ticker).Nodup)
    (holds : Holds (reading cfg bindPredicate) candidates state)
    (perm : ranked.Perm candidates)
    (valid : ValidPackage cfg bindPredicate siblingScore candidates ranked trade watch) :
    eventPackage ranked state siblingScore
        (trade.eventTicker, ofEvent candidates trade.eventTicker) =
      .ok (some ⟨rankIndex ranked trade, trade.eventTicker, trade, watch⟩) := by
  have clear : trade.eventTicker ∉ state.invalidBindingEvents := by
    intro spoiled
    obtain ⟨c, member, same, broken⟩ := (holds.spoiled _).mp spoiled
    exact valid.clear c member same broken
  obtain ⟨first, second, binding, listed⟩ := valid.listed distinct
  have verified : verifiedEventPair (ofEvent candidates trade.eventTicker) state.bindingByTicker
      false = .ok (some (first, second)) :=
    (verifiedEventPair_eq_some holds fun c member => (mem_ofEvent.mp member).1).mpr
      ⟨binding, listed⟩
  have packaged : ∃ trade' watch',
      (trade' = first ∧ watch' = second ∨ trade' = second ∧ watch' = first) ∧
        Prefers siblingScore ranked trade' watch' ∧
        eventPackage ranked state siblingScore
            (trade.eventTicker, ofEvent candidates trade.eventTicker) =
          .ok (some ⟨rankIndex ranked trade', trade.eventTicker, trade', watch'⟩) :=
    eventPackage_verified distinct holds perm clear verified
  obtain ⟨trade', watch', -, -, answer⟩ := packaged
  obtain ⟨-, event, -, also⟩ := eventPackage_sound distinct holds perm answer
  obtain ⟨one, two⟩ := valid.unique also event
  dsimp only at one two
  rw [one, two] at answer
  exact answer

end

end Inci.Discovery
