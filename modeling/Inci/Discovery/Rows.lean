/-
# Discovery.Rows -- candidates from the rows of open Events

For each Series the client returns the open Events with their Markets.  An Event that the
milestones expect gives the contracts of its Markets that are active, quoted on both sides
and not too wide; the same Event twice must be the same row, and no Market is selected twice.
So the candidates have distinct tickers, and which they are does not depend on the order of
the rows (`gameCandidates_spec`, `gameCandidates_perm`).
-/
import Inci.Theory.Dict
import Inci.Discovery.Contracts
import Mathlib.Data.List.Perm.Basic

namespace Inci.Discovery

open Inci.Theory

set_option autoImplicit false

/-! ## Rows -/

/-- A quoted value of a parsed Market. -/
inductive Quote where
  | missing
  | finite (value : Decimal)
  /-- Not a decimal, or not a finite one. -/
  | invalid
  deriving DecidableEq

structure MarketRow where
  ticker : String
  eventTicker : String
  status : String
  yesBid : Quote
  yesAsk : Quote
  yesBidSize : Quote
  yesAskSize : Quote
  title : Option String
  yesSubTitle : Option String
  deriving DecidableEq

structure EventRow where
  eventTicker : String
  seriesTicker : String
  category : String
  title : String
  markets : List MarketRow
  deriving DecidableEq

/-- What the milestones say of an Event. -/
structure Expected where
  sport : String
  league : Option String
  seriesTicker : String
  milestoneId : String
  scheduledStartTs : ℚ

/-- A Series with the Events expected of it and the open Events the client returned. -/
structure SeriesRows where
  expected : List (String × Expected)
  rows : List EventRow

/-! ## Candidates -/

/-- `market.get("title") or market.get("yes_sub_title") or ticker` -/
def displayTitle (market : MarketRow) : String :=
  ((market.title.filter (· ≠ "")).or (market.yesSubTitle.filter (· ≠ ""))).getD market.ticker

/-- The contract of one Market, if it is eligible: the body of the loop of
`_select_event_markets`. -/
def marketContract (cfg : DiscoveryConfig) (event : EventRow) (expected : Expected)
    (market : MarketRow) : Except DiscoveryError (Option SelectedContract) := do
  identity market.ticker "market.ticker"
  refuse (market.eventTicker ≠ event.eventTicker)
    (.foreignMarket market.ticker event.eventTicker)
  identity market.status "market.status"
  if market.status ≠ "active" then pure none
  else if market.yesBid = .missing ∨ market.yesAsk = .missing then pure none
  else
    match market.yesBid, market.yesAsk with
    | .finite bid, .finite ask =>
        match market.yesBidSize, market.yesAskSize with
        | .invalid, _ => .error (.invalidBook market.ticker)
        | _, .invalid => .error (.invalidBook market.ticker)
        | .finite bidSize, .finite askSize =>
            if bidSize ≤ 0 ∨ askSize ≤ 0 then pure none
            else do
              let spread ← decimal (pythonContext.subtract ask bid)
              if cfg.maxSpread < spread then pure none
              else do
                identity (displayTitle market) "market display title"
                let contract : SelectedContract :=
                  ⟨market.ticker, displayTitle market, event.title, bid, ask, bidSize, askSize,
                    ⟨expected.sport, expected.league, expected.seriesTicker, expected.milestoneId,
                      event.eventTicker, expected.scheduledStartTs⟩⟩
                contract.check
                pure (some contract)
        | _, _ => pure none
    | _, _ => .error (.invalidBook market.ticker)

def selectMarkets (cfg : DiscoveryConfig) (event : EventRow) (expected : Expected) :
    List MarketRow → Except DiscoveryError (List SelectedContract)
  | [] => pure []
  | market :: rest => do
      let contract ← marketContract cfg event expected market
      let selected ← selectMarkets cfg event expected rest
      pure (contract.toList ++ selected)

/-- `_check_normalized_event` -/
def checkEvent (event : EventRow) : Except DiscoveryError Unit := do
  identity event.eventTicker "event_ticker"
  identity event.seriesTicker "event.series_ticker"
  identity event.category "event.category"
  identity event.title "event.title"

/-- `_select_event_markets` -/
def selectEventMarkets (cfg : DiscoveryConfig) (event : EventRow) (expected : Expected) :
    Except DiscoveryError (List SelectedContract) := do
  checkEvent event
  refuse (event.seriesTicker ≠ expected.seriesTicker)
    (.unexpectedSeries event.eventTicker event.seriesTicker)
  if event.category ≠ "Sports" then pure []
  else selectMarkets cfg event expected event.markets

/-- Contracts are added one by one, each with a ticker of its own. -/
def addCandidates : List SelectedContract → List SelectedContract →
    Except DiscoveryError (List SelectedContract)
  | candidates, [] => pure candidates
  | candidates, contract :: rest => do
      refuse (contract.ticker ∈ candidates.map SelectedContract.ticker)
        (.duplicateMarket contract.ticker)
      addCandidates (candidates ++ [contract]) rest

/-- The loop over the Events of a Series. -/
def collectEvents (cfg : DiscoveryConfig) (expected : List (String × Expected)) :
    List EventRow → List (String × EventRow) → List SelectedContract →
    Except DiscoveryError (List SelectedContract)
  | [], _, candidates => pure candidates
  | event :: rest, seenEvents, candidates => do
      checkEvent event
      match Dict.get expected event.eventTicker with
      | none => collectEvents cfg expected rest seenEvents candidates
      | some provenance =>
          match Dict.get seenEvents event.eventTicker with
          | some previous => do
              refuse (previous ≠ event) (.conflictingEvent event.eventTicker)
              collectEvents cfg expected rest seenEvents candidates
          | none => do
              let contracts ← selectEventMarkets cfg event provenance
              let candidates ← addCandidates candidates contracts
              collectEvents cfg expected rest (Dict.put seenEvents event.eventTicker event)
                candidates

/-- The loop over the Series, which come in order of their tickers. -/
def gameCandidates (cfg : DiscoveryConfig) : List SeriesRows → List SelectedContract →
    Except DiscoveryError (List SelectedContract)
  | [], candidates => pure candidates
  | series :: rest, candidates => do
      let candidates ← collectEvents cfg series.expected series.rows [] candidates
      gameCandidates cfg rest candidates

/-! ## The candidates are those of the rows -/

variable {cfg : DiscoveryConfig}

/-- Which contracts the Markets of an Event give. -/
theorem selectMarkets_mem {event : EventRow} {x : Expected} {markets : List MarketRow}
    {selected : List SelectedContract} (read : selectMarkets cfg event x markets = .ok selected)
    (c : SelectedContract) :
    c ∈ selected ↔ ∃ market ∈ markets, marketContract cfg event x market = .ok (some c) := by
  induction markets generalizing selected with
  | nil =>
      cases read
      simp
  | cons market rest ih =>
      simp only [selectMarkets, bind_eq_ok, pure_eq_ok] at read
      obtain ⟨contract, here, others, later, rfl⟩ := read
      rw [List.mem_append, ih later, Option.mem_toList]
      constructor
      · rintro (rfl | ⟨other, member, eligible⟩)
        · exact ⟨market, List.mem_cons_self, here⟩
        · exact ⟨other, List.mem_cons_of_mem _ member, eligible⟩
      · rintro ⟨other, member, eligible⟩
        rcases List.mem_cons.mp member with rfl | member
        · rw [eligible] at here
          exact .inl (Except.ok.inj here).symm
        · exact .inr ⟨other, member, eligible⟩

/-- The contracts that an expected Event gives. -/
theorem selectEventMarkets_mem {event : EventRow} {x : Expected}
    {selected : List SelectedContract} (read : selectEventMarkets cfg event x = .ok selected)
    (c : SelectedContract) : c ∈ selected ↔ event.category = "Sports" ∧
      ∃ market ∈ event.markets, marketContract cfg event x market = .ok (some c) := by
  simp only [selectEventMarkets, bind_eq_ok, refuse_eq_ok, exists_unit] at read
  obtain ⟨-, -, read⟩ := read
  by_cases sports : event.category = "Sports"
  · rw [if_neg (not_not.mpr sports)] at read
    rw [selectMarkets_mem read]
    exact (and_iff_right sports).symm
  · rw [if_pos sports, pure_eq_ok] at read
    rw [← read]
    simp [sports]

/-- Adding contracts keeps the tickers distinct. -/
theorem addCandidates_spec {candidates contracts result : List SelectedContract}
    (added : addCandidates candidates contracts = .ok result)
    (distinct : (candidates.map SelectedContract.ticker).Nodup) :
    result = candidates ++ contracts ∧ (result.map SelectedContract.ticker).Nodup := by
  induction contracts generalizing candidates with
  | nil =>
      cases added
      exact ⟨(List.append_nil _).symm, distinct⟩
  | cons contract rest ih =>
      simp only [addCandidates, bind_eq_ok, refuse_eq_ok, exists_unit] at added
      obtain ⟨fresh, added⟩ := added
      have longer : ((candidates ++ [contract]).map SelectedContract.ticker).Nodup := by
        rw [List.map_append]
        apply List.Nodup.append distinct (List.nodup_singleton _)
        intro ticker there here
        exact fresh (List.mem_singleton.mp here ▸ there)
      obtain ⟨whole, nodup⟩ := ih added longer
      exact ⟨by rw [whole, List.append_assoc]; rfl, nodup⟩

/-- The contract is one that an expected Event gives. -/
def Gives (cfg : DiscoveryConfig) (expected : List (String × Expected)) (event : EventRow)
    (c : SelectedContract) : Prop :=
  ∃ x, Dict.get expected event.eventTicker = some x ∧
    ∃ selected, selectEventMarkets cfg event x = .ok selected ∧ c ∈ selected

/-- If the Event is expected its Markets were read, and all it gives is there. -/
def Covered (cfg : DiscoveryConfig) (expected : List (String × Expected))
    (candidates : List SelectedContract) (event : EventRow) : Prop :=
  ∀ x, Dict.get expected event.eventTicker = some x →
    ∃ selected, selectEventMarkets cfg event x = .ok selected ∧ ∀ c ∈ selected, c ∈ candidates

theorem Covered.mono {expected : List (String × Expected)} {event : EventRow}
    {candidates more : List SelectedContract} (covered : Covered cfg expected candidates event)
    (kept : ∀ c ∈ candidates, c ∈ more) : Covered cfg expected more event := by
  intro x found
  obtain ⟨selected, read, inside⟩ := covered x found
  exact ⟨selected, read, fun c member => kept c (inside c member)⟩

/-- What a stretch of the loop leaves: the candidates it had and those of its rows. -/
structure Collected (cfg : DiscoveryConfig) (expected : List (String × Expected))
    (rows : List EventRow) (candidates result : List SelectedContract) : Prop where
  distinct : (result.map SelectedContract.ticker).Nodup
  kept : ∀ c ∈ candidates, c ∈ result
  sound : ∀ c ∈ result, c ∈ candidates ∨ ∃ event ∈ rows, Gives cfg expected event c
  covered : ∀ event ∈ rows, Covered cfg expected result event

/-- One Event more before the stretch. -/
theorem Collected.cons {expected : List (String × Expected)} {event : EventRow}
    {rest : List EventRow} {candidates more result : List SelectedContract}
    (later : Collected cfg expected rest more result) (kept : ∀ c ∈ candidates, c ∈ more)
    (new : ∀ c ∈ more, c ∈ candidates ∨ Gives cfg expected event c)
    (here : Covered cfg expected result event) :
    Collected cfg expected (event :: rest) candidates result where
  distinct := later.distinct
  kept c member := later.kept c (kept c member)
  sound c member := by
    rcases later.sound c member with old | ⟨other, inside, gives⟩
    · rcases new c old with older | gives
      · exact .inl older
      · exact .inr ⟨event, List.mem_cons_self, gives⟩
    · exact .inr ⟨other, List.mem_cons_of_mem _ inside, gives⟩
  covered other member := by
    rcases List.mem_cons.mp member with rfl | member
    · exact here
    · exact later.covered other member

/-- The loop over the Events of a Series.  An Event seen before is covered already, and the
code skips it only when it is the same row. -/
theorem collectEvents_spec {expected : List (String × Expected)} {rows : List EventRow}
    {seen : List (String × EventRow)} {candidates result : List SelectedContract}
    (collected : collectEvents cfg expected rows seen candidates = .ok result)
    (distinct : (candidates.map SelectedContract.ticker).Nodup)
    (known : ∀ ticker event, Dict.get seen ticker = some event →
      Covered cfg expected candidates event) :
    Collected cfg expected rows candidates result := by
  induction rows generalizing seen candidates with
  | nil =>
      cases collected
      exact ⟨distinct, fun c member => member, fun c member => .inl member, by simp⟩
  | cons event rest ih =>
      simp only [collectEvents, bind_eq_ok, exists_unit] at collected
      obtain ⟨-, collected⟩ := collected
      cases found : Dict.get expected event.eventTicker with
      | none =>
          simp only [found] at collected
          refine (ih collected distinct known).cons (fun c member => member)
            (fun c member => .inl member) ?_
          intro x wanted
          rw [found] at wanted
          cases wanted
      | some x =>
          cases before : Dict.get seen event.eventTicker with
          | some previous =>
              simp only [found, before, bind_eq_ok, refuse_eq_ok, exists_unit, ne_eq,
                not_not] at collected
              obtain ⟨rfl, collected⟩ := collected
              have later := ih collected distinct known
              exact later.cons (fun c member => member) (fun c member => .inl member)
                ((known _ previous before).mono later.kept)
          | none =>
              simp only [found, before, bind_eq_ok] at collected
              obtain ⟨contracts, read, more, added, collected⟩ := collected
              obtain ⟨rfl, nodup⟩ := addCandidates_spec added distinct
              have covered : Covered cfg expected (candidates ++ contracts) event := by
                intro y wanted
                rw [found, Option.some.injEq] at wanted
                exact ⟨contracts, wanted ▸ read, fun c => List.mem_append_right _⟩
              have known' : ∀ ticker other,
                  Dict.get (Dict.put seen event.eventTicker event) ticker = some other →
                  Covered cfg expected (candidates ++ contracts) other := by
                intro ticker other there
                by_cases same : ticker = event.eventTicker
                · rw [same, Dict.get_put_same, Option.some.injEq] at there
                  rw [← there]
                  exact covered
                · rw [Dict.get_put_other same] at there
                  exact (known ticker other there).mono fun c => List.mem_append_left _
              have later := ih collected nodup known'
              refine later.cons (fun c => List.mem_append_left _) ?_ (covered.mono later.kept)
              intro c member
              rcases List.mem_append.mp member with old | new
              · exact .inl old
              · exact .inr ⟨x, found, contracts, read, new⟩

/-- The candidates have distinct tickers and are what the expected Events give. -/
structure CandidatesOf (cfg : DiscoveryConfig) (series : List SeriesRows)
    (candidates result : List SelectedContract) : Prop where
  distinct : (result.map SelectedContract.ticker).Nodup
  kept : ∀ c ∈ candidates, c ∈ result
  sound : ∀ c ∈ result, c ∈ candidates ∨
    ∃ s ∈ series, ∃ event ∈ s.rows, Gives cfg s.expected event c
  covered : ∀ s ∈ series, ∀ event ∈ s.rows, Covered cfg s.expected result event

theorem gameCandidates_spec {series : List SeriesRows} {candidates result : List SelectedContract}
    (collected : gameCandidates cfg series candidates = .ok result)
    (distinct : (candidates.map SelectedContract.ticker).Nodup) :
    CandidatesOf cfg series candidates result := by
  induction series generalizing candidates with
  | nil =>
      cases collected
      exact ⟨distinct, fun c member => member, fun c member => .inl member, by simp⟩
  | cons s rest ih =>
      simp only [gameCandidates, bind_eq_ok] at collected
      obtain ⟨more, here, collected⟩ := collected
      have first := collectEvents_spec here distinct (by simp [Dict.get])
      have later := ih collected first.distinct
      refine ⟨later.distinct, fun c member => later.kept c (first.kept c member), ?_, ?_⟩
      · intro c member
        rcases later.sound c member with old | ⟨t, inside, given⟩
        · rcases first.sound c old with older | given
          · exact .inl older
          · exact .inr ⟨s, List.mem_cons_self, given⟩
        · exact .inr ⟨t, List.mem_cons_of_mem _ inside, given⟩
      · intro t member event inside
        rcases List.mem_cons.mp member with rfl | member
        · exact (first.covered event inside).mono later.kept
        · exact later.covered t member event inside

/-! ## The order of the rows -/

/-- The same Event with its Markets in another order. -/
structure EventAlike (event other : EventRow) : Prop where
  ticker : other.eventTicker = event.eventTicker
  series : other.seriesTicker = event.seriesTicker
  category : other.category = event.category
  title : other.title = event.title
  markets : event.markets.Perm other.markets

/-- The same Series with its Events, and their Markets, in another order. -/
structure SeriesAlike (s other : SeriesRows) : Prop where
  expected : other.expected = s.expected
  rows : ∃ moved, s.rows.Perm moved ∧ List.Forall₂ EventAlike moved other.rows

theorem EventAlike.marketContract {event other : EventRow} (alike : EventAlike event other)
    (x : Expected) (market : MarketRow) :
    marketContract cfg other x market = marketContract cfg event x market := by
  unfold Discovery.marketContract
  rw [alike.ticker, alike.title]

/-- An Event and one alike give the same contracts, when both are read. -/
theorem EventAlike.selected {event other : EventRow} (alike : EventAlike event other)
    {x : Expected} {one two : List SelectedContract}
    (read : selectEventMarkets cfg event x = .ok one)
    (read' : selectEventMarkets cfg other x = .ok two) (c : SelectedContract) :
    c ∈ one ↔ c ∈ two := by
  rw [selectEventMarkets_mem read, selectEventMarkets_mem read', alike.category]
  simp only [alike.marketContract, alike.markets.mem_iff]

theorem EventAlike.symm {event other : EventRow} (alike : EventAlike event other) :
    EventAlike other event :=
  ⟨alike.ticker.symm, alike.series.symm, alike.category.symm, alike.title.symm, alike.markets.symm⟩

theorem SeriesAlike.symm {s other : SeriesRows} (alike : SeriesAlike s other) :
    SeriesAlike other s := by
  obtain ⟨moved, perm, each⟩ := alike.rows
  obtain ⟨back, each, perm⟩ := List.perm_comp_forall₂ perm each
  exact ⟨alike.expected.symm, back, perm.symm, each.flip.imp fun _ _ => EventAlike.symm⟩

theorem exists_of_forall₂ {α β : Type} {R : α → β → Prop} {l : List α} {l' : List β}
    (each : List.Forall₂ R l l') {a : α} (member : a ∈ l) : ∃ b ∈ l', R a b := by
  induction each with
  | nil => cases member
  | cons here _ ih =>
      rcases List.mem_cons.mp member with rfl | inside
      · exact ⟨_, List.mem_cons_self, here⟩
      · obtain ⟨b, there, related⟩ := ih inside
        exact ⟨b, List.mem_cons_of_mem _ there, related⟩

theorem SeriesAlike.event {s other : SeriesRows} (alike : SeriesAlike s other) {event : EventRow}
    (member : event ∈ s.rows) : ∃ e ∈ other.rows, EventAlike event e := by
  obtain ⟨moved, perm, each⟩ := alike.rows
  exact exists_of_forall₂ each (perm.mem_iff.mp member)

variable {series other : List SeriesRows} {candidates candidates' : List SelectedContract}

/-- What rows give, the same rows in another order give as well. -/
theorem gameCandidates_subset (alike : List.Forall₂ SeriesAlike series other)
    (read : gameCandidates cfg series [] = .ok candidates)
    (read' : gameCandidates cfg other [] = .ok candidates') :
    ∀ c ∈ candidates, c ∈ candidates' := by
  have spec := gameCandidates_spec read List.nodup_nil
  have spec' := gameCandidates_spec read' List.nodup_nil
  intro c member
  rcases spec.sound c member with old | ⟨s, inside, event, there, x, found, selected, chosen, has⟩
  · cases old
  · obtain ⟨t, also, same⟩ := exists_of_forall₂ alike inside
    obtain ⟨e, row, alikes⟩ := same.event there
    rw [← same.expected, ← alikes.ticker] at found
    obtain ⟨selected', chosen', covered⟩ := spec'.covered t also e row x found
    exact covered c ((alikes.selected chosen chosen' c).mp has)

/-- The order of the rows only orders the candidates. -/
theorem gameCandidates_perm (alike : List.Forall₂ SeriesAlike series other)
    (read : gameCandidates cfg series [] = .ok candidates)
    (read' : gameCandidates cfg other [] = .ok candidates') : candidates.Perm candidates' := by
  have distinct := (gameCandidates_spec read List.nodup_nil).distinct.of_map
  have distinct' := (gameCandidates_spec read' List.nodup_nil).distinct.of_map
  have back : List.Forall₂ SeriesAlike other series :=
    alike.flip.imp fun _ _ => SeriesAlike.symm
  refine (List.perm_ext_iff_of_nodup distinct distinct').mpr fun c => ⟨?_, ?_⟩
  · exact gameCandidates_subset alike read read' c
  · exact gameCandidates_subset back read' read c

end Inci.Discovery
