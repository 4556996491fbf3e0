/-
# Sync.Opening -- the first session, and a universe that has one

Accepted artifacts whose parts can be encoded always start a session
(`started_total`).  `openingUniverse` is such a universe, with two matches, and a
clock call of a match nothing is known about leaves every cursor alone
(`Admitted.quiet`).
-/
import Inci.Sync.Rounds

namespace Inci.Sync

open Inci.Theory Inci.Expert Inci.Tennis Inci.Market Inci.Binding

set_option autoImplicit false

variable {s : SynchronizationSessionState} {u : BindingUniverse} {policy : SyncPolicy}

/-! ## The first session -/

theorem universe_sealed (accepted : u.postInit = .ok ()) :
    bindingUniverseSha256 u = .ok u.universeSha256 := by
  have checked := accepted
  simp only [BindingUniverse.postInit, bind_eq_ok, exists_unit, refuse_eq_ok, not_not] at checked
  obtain ⟨-, -, -, -, -, -, -, -, pin, _, -, -, computed, computes, sealed⟩ := checked
  simp only [bindingUniverseSha256, accepted, pin, computes, ok_bind, sealed]
  rw [refuse_ok _ (fun different => different rfl), ok_bind]
  rfl

theorem bindingMetadataFor_total (accepted : u.postInit = .ok ())
    {pair : MatchBinding × BindingMetadata} (member : pair ∈ u.pairs) :
    bindingMetadataFor u pair.1 = .ok pair.2 := by
  have nodup := (BindingUniverse.accepted accepted).matches_nodup
  have only : (u.pairs.filter fun other => other.1 = pair.1) = [pair] := by
    have here := filter_eq_find (k := matchOf pair) nodup
    rw [(find_eq_some nodup).mpr ⟨member, rfl⟩] at here
    refine Eq.trans (List.filter_congr fun other inside => ?_) here
    refine decide_eq_decide.mpr ⟨fun same => congrArg MatchBinding.canonicalMatchId same, ?_⟩
    exact fun same => congrArg Prod.fst (List.inj_on_of_nodup_map nodup inside member same)
  unfold bindingMetadataFor
  rw [accepted, ok_bind, only]
  rfl

def digestOf (computed : Except ExpertError String) : String := computed.toOption.getD ""

theorem digestOf_eq {computed : Except ExpertError String} (answers : ∃ d, computed = .ok d) :
    computed = .ok (digestOf computed) := by
  obtain ⟨d, rfl⟩ := answers
  rfl

/-- The tennis cursor a match starts with. -/
def openTennis (pair : MatchBinding × BindingMetadata) : TennisSyncCursor :=
  { canonicalMatchId := pair.1.canonicalMatchId
    bindingSha256 := digestOf (expertContractSha256 pair.1.py)
    bindingMetadataSha256 := digestOf (expertContractSha256 pair.2.py)
    tennis := none
    lastStateSha256 := none
    lastInputSha256 := none
    lastPointWitness := none }

def openBook (pair : MatchBinding × BindingMetadata) (ticker : String) : BookSyncCursor :=
  { canonicalMatchId := pair.1.canonicalMatchId
    ticker
    bindingSha256 := digestOf (expertContractSha256 pair.1.py)
    bindingMetadataSha256 := digestOf (expertContractSha256 pair.2.py)
    book := none
    lastStateSha256 := none
    lastInputSha256 := none
    pendingMove := none
    causalPointWitness := none
    consumedPointWitness := none
    lastEmission := none }

/-- The parts of a pair that start its cursors. -/
structure Startable (pair : MatchBinding × BindingMetadata) : Prop where
  constructed : pair.1.postInit = .ok ()
  binding : Encodes pair.1.py
  metadata : Encodes pair.2.py

variable {pair : MatchBinding × BindingMetadata}

theorem Startable.sealed (startable : Startable pair) :
    expertContractSha256 pair.1.py = .ok (digestOf (expertContractSha256 pair.1.py)) ∧
      expertContractSha256 pair.2.py = .ok (digestOf (expertContractSha256 pair.2.py)) :=
  ⟨digestOf_eq ((domainSha256_total _ _).mpr startable.binding),
    digestOf_eq ((domainSha256_total _ _).mpr startable.metadata)⟩

theorem Startable.named (startable : Startable pair) :
    SafeId pair.1.canonicalMatchId ∧ Ticker pair.1.homeMarketTicker ∧
      Ticker pair.1.awayMarketTicker := by
  have constructed := startable.constructed
  simp only [MatchBinding.postInit, bind_eq_ok, exists_unit, ticker_eq_ok,
    safeId_eq_ok] at constructed
  obtain ⟨-, matchId, -, -, -, -, -, -, -, home, away, -⟩ := constructed
  exact ⟨matchId, home, away⟩

theorem openTennis_parts (startable : Startable pair) : (openTennis pair).checkParts = .ok () := by
  obtain ⟨binding, metadata⟩ := startable.sealed
  exact (TennisSyncCursor.checkParts_none rfl).mpr ⟨⟨startable.named.1,
    contractSha256_isSha256 binding, contractSha256_isSha256 metadata⟩, rfl, rfl, rfl⟩

theorem openBook_parts (startable : Startable pair) {ticker : String} (listed : Ticker ticker) :
    (openBook pair ticker).checkParts = .ok () := by
  obtain ⟨binding, metadata⟩ := startable.sealed
  exact (BookSyncCursor.checkParts_none rfl).mpr ⟨⟨startable.named.1, listed,
    contractSha256_isSha256 binding, contractSha256_isSha256 metadata⟩, rfl, rfl, rfl, rfl, rfl, rfl⟩

theorem firstTennisCursor_total (startable : Startable pair) :
    firstTennisCursor pair = .ok (openTennis pair) := by
  obtain ⟨binding, metadata⟩ := startable.sealed
  have parts := openTennis_parts startable
  simp only [TennisSyncCursor.checkParts, bind_eq_ok, exists_unit] at parts
  unfold firstTennisCursor
  exact bind_eq_ok.mpr ⟨_, binding, bind_eq_ok.mpr ⟨_, metadata,
    bind_eq_ok.mpr ⟨(), parts.1, rfl⟩⟩⟩

theorem firstBookCursor_total (startable : Startable pair) {ticker : String}
    (listed : Ticker ticker) : firstBookCursor pair ticker = .ok (openBook pair ticker) := by
  obtain ⟨binding, metadata⟩ := startable.sealed
  have parts := openBook_parts startable listed
  simp only [BookSyncCursor.checkParts, bind_eq_ok, exists_unit] at parts
  unfold firstBookCursor
  exact bind_eq_ok.mpr ⟨_, binding, bind_eq_ok.mpr ⟨_, metadata,
    bind_eq_ok.mpr ⟨(), parts.1, rfl⟩⟩⟩

/-- The markets of the universe in the order the session builds its cursors. -/
def openMarkets (u : BindingUniverse) : List ((MatchBinding × BindingMetadata) × String) :=
  u.pairs.flatMap fun pair => [(pair, pair.1.homeMarketTicker), (pair, pair.1.awayMarketTicker)]

/-- The session accepted artifacts start. -/
def openSession (u : BindingUniverse) (policy : SyncPolicy) : SynchronizationSessionState :=
  { bindingUniverse := u
    policy
    universeSha256 := u.universeSha256
    syncPolicySha256 := digestOf (expertContractSha256 policy.py)
    decisionSequence := 0
    lastObservation := none
    tennisCursors := (u.pairs.mergeSort fun a b =>
      decide (a.1.canonicalMatchId ≤ b.1.canonicalMatchId)).map openTennis
    bookCursors := ((openMarkets u).map fun market => openBook market.1 market.2).mergeSort
      fun a b => decide (toLex (a.canonicalMatchId, a.ticker) ≤ toLex (b.canonicalMatchId, b.ticker)) }

/-- What the artifacts of a session must be. -/
structure Artifacts (u : BindingUniverse) (policy : SyncPolicy) : Prop where
  accepted : u.postInit = .ok ()
  bounded : policy.postInit = .ok ()
  agree : policy.universeSha256 = u.universeSha256
  provider : (u.bindings.map providerTriple).dedup.length = 1
  encodes : Encodes policy.py
  startable : ∀ pair ∈ u.pairs, Startable pair

variable (artifacts : Artifacts u policy)
include artifacts

theorem policy_sealed :
    expertContractSha256 policy.py = .ok (digestOf (expertContractSha256 policy.py)) :=
  digestOf_eq ((domainSha256_total _ _).mpr artifacts.encodes)

theorem mem_openMarkets {market : (MatchBinding × BindingMetadata) × String}
    (member : market ∈ openMarkets u) : market.1 ∈ u.pairs ∧ Ticker market.2 ∧
      (matchOf market.1, market.2) ∈ marketKeys market.1.1 := by
  obtain ⟨pair, inside, here⟩ := List.mem_flatMap.mp member
  have named := (artifacts.startable pair inside).named
  rcases List.mem_pair.mp here with rfl | rfl
  · exact ⟨inside, named.2.1, by simp [marketKeys, matchOf]⟩
  · exact ⟨inside, named.2.2, by simp [marketKeys, matchOf]⟩

theorem openSession_tennisKeys : (openSession u policy).tennisCursors.map
    TennisSyncCursor.canonicalMatchId = (openSession u policy).expectedTennis := by
  have nodup := (BindingUniverse.accepted artifacts.accepted).matches_nodup
  have ids : (u.pairs.map fun pair => pair.1.canonicalMatchId).dedup =
      u.pairs.map fun pair => pair.1.canonicalMatchId := nodup.dedup
  unfold SessionFrame.expectedTennis openSession
  rw [ids, List.map_map]
  exact List.map_mergeSort fun a _ b _ => rfl

theorem openSession_bookKeys : (openSession u policy).bookCursors.map
    (fun c => (c.canonicalMatchId, c.ticker)) = (openSession u policy).expectedBooks := by
  have bindings := BindingUniverse.bindings_eq (BindingUniverse.accepted artifacts.accepted)
  unfold SessionFrame.expectedBooks openSession
  rw [List.map_mergeSort (s := fun a b => decide (toLex a ≤ toLex b)) (by intros; rfl), List.map_map,
    bindings]
  congr 1
  simp [openMarkets, List.map_flatMap, List.flatMap_map, openBook, marketKeys]

theorem openSession_constructed : (openSession u policy).Constructed := by
  have sealed := policy_sealed artifacts
  have universe_eq := universe_sealed artifacts.accepted
  have tennis : ∀ c ∈ (openSession u policy).tennisCursors, ∃ pair ∈ u.pairs, c = openTennis pair := by
    intro c inside
    obtain ⟨pair, member, rfl⟩ := List.mem_map.mp inside
    exact ⟨pair, List.mem_mergeSort.mp member, rfl⟩
  have books : ∀ c ∈ (openSession u policy).bookCursors, ∃ pair ∈ u.pairs, ∃ ticker,
      Ticker ticker ∧ c = openBook pair ticker := by
    intro c inside
    obtain ⟨market, member, rfl⟩ := List.mem_map.mp (List.mem_mergeSort.mp inside)
    obtain ⟨pair, listed, -⟩ := mem_openMarkets artifacts member
    exact ⟨market.1, pair, market.2, listed, rfl⟩
  have tennisKeys := openSession_tennisKeys artifacts
  have accepted := BindingUniverse.accepted artifacts.accepted
  have bound : ∀ pair ∈ u.pairs, (openSession u policy).bindingOf pair.1.canonicalMatchId =
      .ok pair := fun pair member => (bindingOf_eq_ok accepted).mpr ⟨member, rfl⟩
  have binding : ∀ pair ∈ u.pairs, checkBinding pair
      (digestOf (expertContractSha256 pair.1.py)) (digestOf (expertContractSha256 pair.2.py)) =
        .ok () := by
    intro pair member
    obtain ⟨first, second⟩ := (artifacts.startable pair member).sealed
    unfold checkBinding
    refine bind_eq_ok.mpr ⟨_, first, bind_eq_ok.mpr ⟨(), refuse_ok _ (by simp), ?_⟩⟩
    exact bind_eq_ok.mpr ⟨_, second, refuse_ok _ (by simp)⟩
  refine
    { universeDigest := ?_
      policyDigest := contractSha256_isSha256 sealed
      decisions := integerBound_pos
      artifacts := ?_
      unobserved := fun _ => ⟨rfl, ?_, ?_⟩
      emitted := ?_
      observation := fun o here => by cases here
      tennisParts := ?_
      bookParts := ?_
      tennisKeys
      bookKeys := openSession_bookKeys artifacts
      tennisChecks := ?_
      bookChecks := ?_ }
  · have checked := artifacts.accepted
    simp only [BindingUniverse.postInit, bind_eq_ok, exists_unit, sha256_eq_ok] at checked
    exact checked.2.2.1
  · have checked := artifacts.accepted
    simp only [BindingUniverse.postInit, bind_eq_ok, exists_unit, refuse_eq_ok, not_not] at checked
    obtain ⟨-, -, -, -, -, -, -, -, pin, _, -, -, computed, computes, same⟩ := checked
    unfold SessionFrame.checkArtifacts
    refine bind_eq_ok.mpr ⟨computed, (recover_eq_ok ..).mpr ?_, ?_⟩
    · exact bind_eq_ok.mpr ⟨(), artifacts.accepted, bind_eq_ok.mpr ⟨(), pin, computes⟩⟩
    · refine bind_eq_ok.mpr ⟨(), refuse_ok _ ?_, bind_eq_ok.mpr ⟨(), (recover_eq_ok ..).mpr
        artifacts.bounded, bind_eq_ok.mpr ⟨(), refuse_ok _ ?_, bind_eq_ok.mpr ⟨_, sealed,
        refuse_ok _ ?_⟩⟩⟩⟩
      · simp [openSession, same, artifacts.provider]
      · simp [openSession, artifacts.agree, same]
      · simp [openSession]
  · intro c inside
    obtain ⟨pair, -, rfl⟩ := tennis c inside
    rfl
  · intro c inside
    obtain ⟨pair, -, ticker, -, rfl⟩ := books c inside
    rfl
  · constructor
    · rintro ⟨c, inside, emitted⟩
      obtain ⟨pair, -, ticker, -, rfl⟩ := books c inside
      cases emitted
    · intro positive
      exact absurd positive (lt_irrefl 0)
  · intro c inside
    obtain ⟨pair, member, rfl⟩ := tennis c inside
    exact openTennis_parts (artifacts.startable pair member)
  · intro c inside
    obtain ⟨pair, member, ticker, listed, rfl⟩ := books c inside
    exact openBook_parts (artifacts.startable pair member) listed
  · intro c inside
    obtain ⟨pair, member, rfl⟩ := tennis c inside
    exact bind_eq_ok.mpr ⟨pair, bound pair member, binding pair member⟩
  · intro c inside
    obtain ⟨pair, member, ticker, -, rfl⟩ := books c inside
    have nodup : ((openSession u policy).tennisCursors.map
        TennisSyncCursor.canonicalMatchId).Nodup := tennisKeys ▸ expectedTennis_nodup _
    have here : openTennis pair ∈ (openSession u policy).tennisCursors :=
      List.mem_map_of_mem (List.mem_mergeSort.mpr member)
    refine bind_eq_ok.mpr ⟨pair, bound pair member, bind_eq_ok.mpr ⟨(), binding pair member,
      bind_eq_ok.mpr ⟨openTennis pair, ?_, ?_⟩⟩⟩
    · exact (entryOf_eq_ok nodup).mpr ((find_eq_some nodup).mpr ⟨here, rfl⟩)
    · exact (checkAgainstTennis_none rfl rfl).mpr ⟨fun _ here => (by cases here), rfl, rfl⟩

/-- Accepted artifacts whose parts can be encoded start a session. -/
theorem started_total :
    synchronizationSessionFromArtifacts u policy = .ok (openSession u policy) := by
  have universe_eq := universe_sealed artifacts.accepted
  have indexed : collect (fun pair => do
      let metadata ← recover (bindingMetadataFor u pair.1) ExpertError.isValueError .drift
      refuse (metadata ≠ pair.2) .drift
      pure (pair.1, metadata)) u.pairs = .ok u.pairs := by
    refine (collect_map (g := fun pair => pair) fun pair member => ?_).trans (by rw [List.map_id'])
    have found := bindingMetadataFor_total artifacts.accepted member
    exact bind_eq_ok.mpr ⟨pair.2, (recover_eq_ok ..).mpr found,
      bind_eq_ok.mpr ⟨(), refuse_ok _ (by simp), rfl⟩⟩
  have tennis : collect firstTennisCursor (u.pairs.mergeSort fun a b =>
      decide (a.1.canonicalMatchId ≤ b.1.canonicalMatchId)) =
        .ok (openSession u policy).tennisCursors :=
    collect_map fun pair member =>
      firstTennisCursor_total (artifacts.startable pair (List.mem_mergeSort.mp member))
  have books : collect (fun item : (MatchBinding × BindingMetadata) × String =>
      firstBookCursor item.1 item.2) (openMarkets u) =
        .ok ((openMarkets u).map fun market => openBook market.1 market.2) :=
    collect_map fun market member =>
      have listed := mem_openMarkets artifacts member
      firstBookCursor_total (artifacts.startable market.1 listed.1) listed.2.1
  unfold synchronizationSessionFromArtifacts
  refine bind_eq_ok.mpr ⟨u.universeSha256, (recover_eq_ok ..).mpr (bind_eq_ok.mpr ⟨_, universe_eq,
    bind_eq_ok.mpr ⟨(), artifacts.bounded, rfl⟩⟩), ?_⟩
  refine bind_eq_ok.mpr ⟨(), refuse_ok _ (by simp [artifacts.agree]), ?_⟩
  refine bind_eq_ok.mpr ⟨(), refuse_ok _ (by simp [artifacts.provider]), ?_⟩
  refine bind_eq_ok.mpr ⟨u.pairs, indexed, bind_eq_ok.mpr ⟨_, tennis, bind_eq_ok.mpr ⟨_, books, ?_⟩⟩⟩
  refine bind_eq_ok.mpr ⟨_, policy_sealed artifacts, ?_⟩
  exact session_eq_ok.mpr ⟨openSession_constructed artifacts, rfl⟩

omit artifacts

/-! ## A universe with two matches -/

/-- The digest of nothing in particular. -/
def blankSha256 : String := "0000000000000000000000000000000000000000000000000000000000000000"

theorem blankSha256_isSha256 : IsSha256 blankSha256 := by decide

def openingTerms : SettlementTerms :=
  { resultAuthority := "kalshi_finalized_market_result"
    naturalCompletion := "yes_if_named_player_final_winner"
    retirementAfterPoint := "void"
    walkoverBeforePoint := "void"
    defaultAfterPoint := "void"
    disqualificationAfterPoint := "void"
    cancellation := "void"
    postponement := "defer"
    abandonment := "void"
    amendment := "await_latest_finalized_result"
    voidTreatment := "no_directional_settlement"
    rawRulesSha256 := blankSha256 }

def openingMarket (eventTicker eventId marketTicker marketId providerId canonicalId : String)
    (side : PlayerSide) : BindingMarketMetadata :=
  let unsealed : BindingMarketMetadata :=
    { seriesTicker := "KXATP"
      eventTicker
      eventId
      marketTicker
      marketId
      yesPlayerSide := side
      yesProviderPlayerId := providerId
      yesCanonicalPlayerId := canonicalId
      product := "match_winner"
      eventCatalogSha256 := blankSha256
      membershipSourceId := "catalog"
      membershipSourceVersion := "v1"
      membershipCapturedWallNs := 1
      membershipEvidenceSha256 := blankSha256
      membershipProjectionSha256 := blankSha256
      marketTextSha256 := blankSha256
      settlementRuleTextSha256 := blankSha256
      settlement :=
        { openingTerms with
          projectionSha256 := digestOf (computeSettlementProjectionSha256 openingTerms) } }
  { unsealed with
    membershipProjectionSha256 := digestOf (computeMembershipProjectionSha256 unsealed) }

def openingBinding (matchId providerMatchId home away eventTicker homeTicker awayTicker : String) :
    MatchBinding :=
  { providerMatchId
    canonicalMatchId := matchId
    providerSourceId := "provider"
    revisionDomainId := "points"
    sourceLineageSha256 := blankSha256
    providerHomePlayerId := home
    providerAwayPlayerId := away
    kalshiEventTicker := eventTicker
    homeMarketTicker := homeTicker
    awayMarketTicker := awayTicker
    matchFormat := .standardAdvantageBo3Tb7AllSets
    scheduledStartWallNs := 10
    startToleranceNs := 1
    artifactCreatedWallNs := 2
    bindingArtifactSha256 := blankSha256 }

def openingMetadata (matchId home away : String) (homeMarket awayMarket : BindingMarketMetadata) :
    BindingMetadata :=
  { canonicalMatchId := matchId
    canonicalHomePlayerId := home
    canonicalAwayPlayerId := away
    tournamentId := "tournament"
    seasonId := "season"
    drawId := "draw"
    roundId := "round"
    tourId := "atp"
    tierId := "tier"
    surface := "hard"
    providerSnapshotSha256 := blankSha256
    kalshiEventSha256 := blankSha256
    markets := [homeMarket, awayMarket]
    authorizedRoutes :=
      [⟨.home, homeMarket.marketTicker, .yes⟩, ⟨.away, awayMarket.marketTicker, .yes⟩] }

def firstPair : MatchBinding × BindingMetadata :=
  (openingBinding "match-1" "pm-1" "ph-1" "pa-1" "EV-1" "EV-1-H" "EV-1-A",
    openingMetadata "match-1" "ch-1" "ca-1"
      (openingMarket "EV-1" "event-1" "EV-1-H" "market-1h" "ph-1" "ch-1" .home)
      (openingMarket "EV-1" "event-1" "EV-1-A" "market-1a" "pa-1" "ca-1" .away))

def secondPair : MatchBinding × BindingMetadata :=
  (openingBinding "match-2" "pm-2" "ph-2" "pa-2" "EV-2" "EV-2-H" "EV-2-A",
    openingMetadata "match-2" "ch-2" "ca-2"
      (openingMarket "EV-2" "event-2" "EV-2-H" "market-2h" "ph-2" "ch-2" .home)
      (openingMarket "EV-2" "event-2" "EV-2-A" "market-2a" "pa-2" "ca-2" .away))

def openingPin : ArtifactPin := ⟨"artifact", blankSha256⟩

def openingReview : BindingReviewDecision :=
  let terms : ReviewTerms :=
    { reviewArtifactId := "review"
      reviewArtifactCreatedWallNs := 4
      bindingArtifactId := "artifact"
      bindingArtifactSha256 := blankSha256
      decision := "approved"
      reviewerId := "reviewer"
      reviewedWallNs := 3
      reviewEvidenceSha256 := digestOf (computeBindingReviewEvidenceSha256 openingPin
        [firstPair.1, secondPair.1] [firstPair.2, secondPair.2]) }
  { terms with reviewArtifactSha256 := digestOf (computeBindingReviewArtifactSha256 terms) }

def openingUniverse : BindingUniverse :=
  { rawArtifactId := "artifact"
    rawArtifactSha256 := blankSha256
    review := openingReview
    bindings := [firstPair.1, secondPair.1]
    metadata := [firstPair.2, secondPair.2]
    universeSha256 := digestOf (computeBindingUniverseSha256 openingPin openingReview
      [firstPair.1, secondPair.1] [firstPair.2, secondPair.2]) }

def openingPolicy : SyncPolicy :=
  { universeSha256 := openingUniverse.universeSha256
    maxScoreAgeNs := 100
    maxBookAgeNs := 100
    maxLifecycleAgeNs := 100
    maxScoreBookSkewNs := 100
    maxClockUncertaintyNs := 100
    largeBookMoveThreshold := 1
    explanationWindowNs := 100
    minimumCloseHorizonNs := 100 }

theorem small_integer {n : Nat} (small : n ≤ 100) : n < integerBound := by
  refine lt_of_le_of_lt small ?_
  unfold integerBound
  norm_num

theorem openingBinding_encodes (matchId providerMatchId home away event homeTicker awayTicker : String) :
    Encodes (openingBinding matchId providerMatchId home away event homeTicker awayTicker).py := by
  simp only [openingBinding, MatchBinding.py, Encodes, EncodesFields, encodes_text, encodes_nat,
    MatchFormat.py, true_and, and_true]
  exact ⟨small_integer (by decide), small_integer (by decide), small_integer (by decide)⟩

theorem openingMarket_encodes (event eventId ticker marketId providerId canonicalId : String)
    (side : PlayerSide) :
    Encodes (openingMarket event eventId ticker marketId providerId canonicalId side).py := by
  simp only [openingMarket, BindingMarketMetadata.py, SettlementSemantics.py, SettlementTerms.texts,
    Encodes, EncodesFields, encodesFields_append, encodes_text, encodes_nat, PlayerSide.py,
    List.map_cons, List.map_nil, true_and, and_true]
  exact small_integer (by decide)

theorem openingMetadata_encodes (matchId home away : String)
    {homeMarket awayMarket : BindingMarketMetadata} (homeEncodes : Encodes homeMarket.py)
    (awayEncodes : Encodes awayMarket.py) :
    Encodes (openingMetadata matchId home away homeMarket awayMarket).py := by
  simp only [openingMetadata, BindingMetadata.py, BindingRoute.py, Encodes, EncodesFields,
    EncodesAll, encodes_text, PlayerSide.py, ContractSide.py, List.map_cons, List.map_nil, true_and,
    and_true]
  exact ⟨homeEncodes, awayEncodes⟩

theorem opening_startable : ∀ pair ∈ openingUniverse.pairs, Startable pair := by
  intro pair member
  have metadata : Encodes pair.2.py := by
    rcases List.mem_pair.mp member with rfl | rfl <;>
    exact openingMetadata_encodes _ _ _ (openingMarket_encodes ..) (openingMarket_encodes ..)
  have binding : Encodes pair.1.py := by
    rcases List.mem_pair.mp member with rfl | rfl <;> exact openingBinding_encodes ..
  refine ⟨?_, binding, metadata⟩
  simp only [MatchBinding.postInit, bind_eq_ok, exists_unit, safeId_eq_ok, sha256_eq_ok,
    ticker_eq_ok, refuse_eq_ok, integer_eq_ok]
  rcases List.mem_pair.mp member with rfl | rfl <;>
  · refine ⟨by decide, by decide, by decide, by decide, blankSha256_isSha256, by decide, by decide,
      by decide, by decide, by decide, by decide, by decide, by decide, ?_, ?_, ?_, by decide,
      blankSha256_isSha256⟩ <;> exact small_integer (by decide)

theorem opening_parts_encode : EncodesAll ([firstPair.1, secondPair.1].map MatchBinding.py) ∧
    EncodesAll ([firstPair.2, secondPair.2].map BindingMetadata.py) := by
  have parts := opening_startable
  have first := parts firstPair (by simp [openingUniverse, BindingUniverse.pairs])
  have second := parts secondPair (by simp [openingUniverse, BindingUniverse.pairs])
  simp [EncodesAll, first.binding, second.binding, first.metadata, second.metadata]

theorem openingReview_encodes : Encodes openingReview.py := by
  simp only [openingReview, BindingReviewDecision.py, Encodes, EncodesFields, encodes_text,
    encodes_nat, true_and, and_true]
  exact ⟨small_integer (by decide), small_integer (by decide)⟩

theorem opening_accepted : openingUniverse.postInit = .ok () := by
  obtain ⟨bindings, metadata⟩ := opening_parts_encode
  have pin : openingUniverse.pin = openingPin := rfl
  have evidence := digestOf_eq ((domainSha256_total
    "INCI-BINDING-REVIEW-EVIDENCE-SHA256-V1" (.tuple [openingPin.py,
      .tuple ([firstPair.1, secondPair.1].map MatchBinding.py),
      .tuple ([firstPair.2, secondPair.2].map BindingMetadata.py)])).mpr (by
        simp only [openingPin, ArtifactPin.py, Encodes, EncodesAll, EncodesFields, encodes_text,
          bindings, metadata, and_true]))
  have sealed := digestOf_eq ((domainSha256_total "INCI-BINDING-UNIVERSE-SHA256-V1"
    (.tuple [.text openingPin.artifactSha256, openingReview.py,
      .tuple ([firstPair.1, secondPair.1].map MatchBinding.py),
      .tuple ([firstPair.2, secondPair.2].map BindingMetadata.py)])).mpr (by
        simp only [Encodes, EncodesAll, encodes_text, openingReview_encodes, bindings, metadata,
          and_true]))
  simp only [BindingUniverse.postInit, bind_eq_ok, exists_unit, safeId_eq_ok, sha256_eq_ok]
  refine ⟨by decide, blankSha256_isSha256, domainSha256_isSha256 sealed, refuse_ok _ (by decide),
    refuse_ok _ (by decide), refuse_ok _ (by decide), by rfl, by rfl, ?_, _, evidence,
    refuse_ok _ (fun different => different rfl), _, sealed,
    refuse_ok _ (fun different => different rfl)⟩
  simp only [pin, ArtifactPin.postInit, bind_eq_ok, exists_unit, safeId_eq_ok, sha256_eq_ok]
  exact ⟨by decide, blankSha256_isSha256⟩

theorem opening_artifacts : Artifacts openingUniverse openingPolicy where
  accepted := opening_accepted
  bounded := by
    have accepted := opening_accepted
    simp only [BindingUniverse.postInit, bind_eq_ok, exists_unit, sha256_eq_ok] at accepted
    simp only [SyncPolicy.postInit, bind_eq_ok, exists_unit, sha256_eq_ok, positiveInteger_eq_ok,
      integer_eq_ok, probability_eq_ok]
    have hundred : 100 < integerBound := small_integer le_rfl
    exact ⟨accepted.2.2.1, ⟨hundred, by decide⟩, ⟨hundred, by decide⟩, ⟨hundred, by decide⟩, hundred,
      hundred, ⟨by decide, by decide⟩, ⟨hundred, by decide⟩, hundred⟩
  agree := rfl
  provider := by decide
  encodes := by
    have hundred : 100 < integerBound := small_integer le_rfl
    have one : (plainDecimal 1).length ≤ 256 := by decide +kernel
    simp [openingPolicy, SyncPolicy.py, Encodes, EncodesFields, hundred, one]
  startable := opening_startable

/-! ## Quiet calls -/

/-- A clock input of a market. -/
def clockInput (matchId ticker : String) : SynchronizationInput :=
  { kind := .clock
    canonicalMatchId := matchId
    ticker := some ticker
    previousStateSha256 := none
    providerEvent := none
    tennisTransition := none
    bookEvent := none
    bookTransition := none
    bookResnapshotState := none }

theorem clockInput_constructed {matchId ticker : String} (named : SafeId matchId)
    (listed : Ticker ticker) : (clockInput matchId ticker).postInit = .ok () := by
  simp [SynchronizationInput.postInit, clockInput, SynchronizationInput.validShape,
    SynchronizationInput.tickers, named, listed]

theorem clockInput_encodes (matchId ticker : String) : Encodes (clockInput matchId ticker).py := by
  simp [clockInput, SynchronizationInput.py, Encodes, EncodesFields, SyncInputKind.py]

variable {now : PairedTimeObservation} {ctx : Context} {std : Standing}

/-- A clock call of a match nothing is known about changes the last observation only. -/
theorem Admitted.quiet {evidence : SynchronizationInput} {ticker : String}
    (admitted : Admitted s evidence now ctx std)
    (clock : evidence = clockInput (matchOf ctx.pair) ticker)
    (market : ticker = ctx.pair.1.homeMarketTicker ∨ ticker = ctx.pair.1.awayMarketTicker)
    (unknown : std.tennis.tennis = none) (encodable : Encodes s.py) :
    ∃ t, synchronize s evidence now = .ok t ∧ t.state = s.observe now := by
  subst clock
  have ready := admitted.ready
  have key : (matchOf ctx.pair, ticker) ∈ marketKeys ctx.pair.1 := by
    rcases market with rfl | rfl <;> simp [marketKeys, matchOf]
  obtain ⟨c, found⟩ := Option.isSome_iff_exists.mp ((ready.valid.domain ticker).mpr key)
  have reacts : std.react ctx (clockInput (matchOf ctx.pair) ticker) =
      .ok (std, [.withheld ticker .snapshotIncomplete]) := by
    have bound : ¬(ticker ≠ ctx.pair.1.homeMarketTicker ∧ ticker ≠ ctx.pair.1.awayMarketTicker) := by
      tauto
    have judged : std.evaluate ctx ticker = .ok (std, .withheld ticker .snapshotIncomplete) := by
      unfold Standing.evaluate
      rw [found, unknown]
      rfl
    unfold Standing.react Standing.ingest clockInput
    simp only [bound, if_false, pure_bind, Standing.carryOut, Standing.verdicts, judged, ok_bind]
    rfl
  have listed := admitted.constructed.ticker ticker rfl
  have published : ctx.publishAll s.decisionSequence [.withheld ticker .snapshotIncomplete] =
      .ok [⟨ctx.pair.1.canonicalMatchId, ticker, none, none, .snapshotIncomplete⟩] := by
    have answer := withheld_total ready.valid.safeId listed
      (show SyncReason.snapshotIncomplete ≠ .trustedSynchronized by decide)
    simp only [Context.publishAll, Context.publish, Verdict.withheld, answer, ok_bind]
    rfl
  have after := ready.reacted admitted.constructed reacts published
  obtain ⟨inputSha256, sealed, -⟩ := digest_of_encodes (clockInput_encodes (matchOf ctx.pair) ticker)
  obtain ⟨priorSha256, prior, -⟩ := digest_of_encodes encodable
  have recorded := transition_total admitted reacts published after.good sealed prior
  refine ⟨_, admitted.synchronize_eq_ok.mpr ⟨std, _, _, reacts, published, recorded⟩, ?_⟩
  exact put_self ready.good ready.stands

/-- The first session after an observation, or before any. -/
def openAt (u : BindingUniverse) (policy : SyncPolicy) (observed : Option PairedTimeObservation) :
    SynchronizationSessionState :=
  { openSession u policy with lastObservation := observed }

theorem openAt_observe {observed : Option PairedTimeObservation} :
    (openAt u policy observed).observe now = openAt u policy (some now) := rfl

section
variable (artifacts : Artifacts u policy) {observed : Option PairedTimeObservation}
  (accepted : ∀ o, observed = some o → o.postInit = .ok ())
include artifacts

theorem openAt_unknown {c : TennisSyncCursor} (inside : c ∈ (openAt u policy observed).tennisCursors) :
    c.tennis = none :=
  ((openSession_constructed artifacts).unobserved rfl).2.1 c inside

theorem openAt_checked : (openAt u policy observed).toSessionFrame.checkCompatible = .ok () := by
  have universe_eq := universe_sealed artifacts.accepted
  refine bind_eq_ok.mpr ⟨(), artifacts.accepted, bind_eq_ok.mpr ⟨(), artifacts.bounded,
    bind_eq_ok.mpr ⟨_, universe_eq, bind_eq_ok.mpr ⟨(), refuse_ok _ (fun other => other rfl),
    bind_eq_ok.mpr ⟨_, policy_sealed artifacts, bind_eq_ok.mpr ⟨(), refuse_ok _ ?_, ?_⟩⟩⟩⟩⟩⟩
  · simp only [not_or, not_not]
    exact ⟨rfl, artifacts.agree⟩
  · refine (checkAll_eq_ok ..).mpr fun pair member => ?_
    exact bind_eq_ok.mpr ⟨_, bindingMetadataFor_total artifacts.accepted member,
      refuse_ok _ (fun other => other rfl)⟩

include accepted

theorem openAt_compatible : Compatible (openAt u policy observed) := by
  have good := openSession_constructed artifacts
  refine ⟨{ good with unobserved := fun _ => good.unobserved rfl, observation := accepted }, ?_⟩
  intro c inside t held
  rw [openAt_unknown artifacts inside] at held
  cases held

theorem openAt_encodes (encodes : Encodes u.py) : Encodes (openAt u policy observed).py := by
  refine session_encodes.mpr ⟨⟨encodes, artifacts.encodes⟩, integerBound_pos,
    fun o here => PairedTimeObservation.encodes (accepted o here), ?_, ?_⟩
  · intro c inside
    obtain ⟨pair, -, rfl⟩ := List.mem_map.mp inside
    simp [openTennis, TennisSyncCursor.py, Encodes, EncodesFields]
  · intro c inside
    obtain ⟨market, -, rfl⟩ := List.mem_map.mp (List.mem_mergeSort.mp inside)
    simp [openBook, BookSyncCursor.py, Encodes, EncodesFields]

/-- A clock call of a session nothing is known in is answered, and observed. -/
theorem openAt_clock (encodes : Encodes u.py) {pair : MatchBinding × BindingMetadata}
    (observation : now.postInit = .ok ())
    (forward : observationRegresses (openAt u policy observed) now = false)
    (member : pair ∈ u.pairs) :
    ∃ t, synchronize (openAt u policy observed)
      (clockInput (matchOf pair) pair.1.homeMarketTicker) now = .ok t ∧
        t.state = openAt u policy (some now) := by
  have compatible := openAt_compatible artifacts accepted
  have named := (artifacts.startable pair member).named
  have member : pair ∈ (openAt u policy observed).bindingUniverse.pairs := member
  obtain ⟨std, stands⟩ := compatible.good.stands member
  have admitted : Admitted (openAt u policy observed)
      (clockInput (matchOf pair) pair.1.homeMarketTicker)
      now ⟨(openAt u policy observed).toSessionFrame, pair, now⟩ std :=
    ⟨compatible_iff.mpr ⟨openAt_checked artifacts, compatible⟩, observation, forward,
      clockInput_constructed named.1 named.2.1, rfl, rfl, member, rfl, stands⟩
  have unknown := openAt_unknown artifacts (List.mem_of_find?_eq_some stands.tennis)
  have encodable := openAt_encodes artifacts accepted encodes
  obtain ⟨t, answer, state⟩ := admitted.quiet rfl (.inl rfl) unknown encodable
  exact ⟨t, answer, state.trans openAt_observe⟩

end

theorem openingUniverse_encodes : Encodes openingUniverse.py := by
  obtain ⟨bindings, metadata⟩ := opening_parts_encode
  simp only [openingUniverse, BindingUniverse.py, Encodes, EncodesFields, encodes_text,
    openingReview_encodes, bindings, metadata, and_true]

/-- A clock observation. -/
def openingNow : PairedTimeObservation := ⟨1, 1, 0⟩

theorem openingNow_constructed : openingNow.postInit = .ok () := by
  simp only [PairedTimeObservation.postInit, bind_eq_ok, exists_unit, integer_eq_ok]
  exact ⟨small_integer (by decide), small_integer (by decide), small_integer (by decide)⟩

/-- The first session of the opening universe. -/
def opening : SynchronizationSessionState := openSession openingUniverse openingPolicy

theorem opening_of_artifacts :
    synchronizationSessionFromArtifacts openingUniverse openingPolicy = .ok opening :=
  started_total opening_artifacts

end Inci.Sync
