/-
# Binding.Contracts -- reviewed bindings of provider matches to markets

The dataclasses of a binding universe with their `__post_init__` checks.  The
universe carries the artifact it was read from, the review that approved it, its
bindings in manifest order and one metadata record for each binding; the digests
it carries must be those of its parts.
-/
import Inci.Expert.Canonical
import Mathlib.Data.String.Basic
import Mathlib.Data.List.Sort

namespace Inci.Binding

open Inci.Theory Inci.Expert

set_option autoImplicit false

def supportedMatchFormats : List MatchFormat :=
  [.standardAdvantageBo3Tb7AllSets, .standardAdvantageBo5Tb7AllSets]

structure ArtifactPin where
  artifactId : String
  artifactSha256 : String
  deriving DecidableEq

def ArtifactPin.postInit (self : ArtifactPin) : Check := do
  safeId self.artifactId "artifact_id"
  sha256 self.artifactSha256 "artifact_sha256"

def ArtifactPin.py (a : ArtifactPin) : PyValue := .contract "ArtifactPin" [
  ("artifact_id", .text a.artifactId), ("artifact_sha256", .text a.artifactSha256)]

/-! ## Bindings -/

structure MatchBinding where
  providerMatchId : String
  canonicalMatchId : String
  providerSourceId : String
  revisionDomainId : String
  sourceLineageSha256 : String
  providerHomePlayerId : String
  providerAwayPlayerId : String
  kalshiEventTicker : String
  homeMarketTicker : String
  awayMarketTicker : String
  matchFormat : MatchFormat
  scheduledStartWallNs : Nat
  startToleranceNs : Nat
  artifactCreatedWallNs : Nat
  bindingArtifactSha256 : String
  deriving DecidableEq

def MatchBinding.postInit (self : MatchBinding) : Check := do
  safeId self.providerMatchId "provider_match_id"
  safeId self.canonicalMatchId "canonical_match_id"
  safeId self.providerSourceId "provider_source_id"
  safeId self.revisionDomainId "revision_domain_id"
  sha256 self.sourceLineageSha256 "source_lineage_sha256"
  safeId self.providerHomePlayerId "provider_home_player_id"
  safeId self.providerAwayPlayerId "provider_away_player_id"
  refuse (self.providerHomePlayerId = self.providerAwayPlayerId) (.contract "player_identity")
  ticker self.kalshiEventTicker "kalshi_event_ticker"
  ticker self.homeMarketTicker "home_market_ticker"
  ticker self.awayMarketTicker "away_market_ticker"
  refuse (self.homeMarketTicker = self.awayMarketTicker) (.contract "market_tickers")
  refuse (self.matchFormat ∉ supportedMatchFormats) (.contract "match_format")
  integer self.scheduledStartWallNs "scheduled_start_wall_ns"
  integer self.startToleranceNs "start_tolerance_ns"
  integer self.artifactCreatedWallNs "artifact_created_wall_ns"
  refuse (self.scheduledStartWallNs < self.artifactCreatedWallNs)
    (.contract "artifact_created_wall_ns")
  sha256 self.bindingArtifactSha256 "binding_artifact_sha256"

def MatchBinding.py (b : MatchBinding) : PyValue := .contract "MatchBinding" [
  ("provider_match_id", .text b.providerMatchId),
  ("canonical_match_id", .text b.canonicalMatchId),
  ("provider_source_id", .text b.providerSourceId),
  ("revision_domain_id", .text b.revisionDomainId),
  ("source_lineage_sha256", .text b.sourceLineageSha256),
  ("provider_home_player_id", .text b.providerHomePlayerId),
  ("provider_away_player_id", .text b.providerAwayPlayerId),
  ("kalshi_event_ticker", .text b.kalshiEventTicker),
  ("home_market_ticker", .text b.homeMarketTicker),
  ("away_market_ticker", .text b.awayMarketTicker), ("match_format", b.matchFormat.py),
  ("scheduled_start_wall_ns", .nat b.scheduledStartWallNs),
  ("start_tolerance_ns", .nat b.startToleranceNs),
  ("artifact_created_wall_ns", .nat b.artifactCreatedWallNs),
  ("binding_artifact_sha256", .text b.bindingArtifactSha256)]

structure BindingRoute where
  playerSide : PlayerSide
  marketTicker : String
  contractSide : ContractSide
  deriving DecidableEq

def BindingRoute.postInit (self : BindingRoute) : Check := do
  ticker self.marketTicker "market_ticker"
  refuse (self.contractSide ≠ .yes) (.contract "contract_side")

def BindingRoute.py (r : BindingRoute) : PyValue := .contract "BindingRoute" [
  ("player_side", r.playerSide.py), ("market_ticker", .text r.marketTicker),
  ("contract_side", r.contractSide.py)]

/-! ## Settlement -/

/-- The settlement terms, without the digest that seals them. -/
structure SettlementTerms where
  resultAuthority : String
  naturalCompletion : String
  retirementAfterPoint : String
  walkoverBeforePoint : String
  defaultAfterPoint : String
  disqualificationAfterPoint : String
  cancellation : String
  postponement : String
  abandonment : String
  amendment : String
  voidTreatment : String
  rawRulesSha256 : String
  deriving DecidableEq

/-- `_SETTLEMENT_BINARY_CHOICES` -/
def settlementBinaryChoices : List String := ["yes_if_named_player_final_winner", "void"]

/-- `_SETTLEMENT_ABANDONMENT_CHOICES` -/
def settlementAbandonmentChoices : List String := ["await_latest_finalized_result", "void"]

/-- A text field that must be one of the choices. -/
def oneOf (choices : List String) (value name : String) : Check :=
  refuse (value ∉ choices) (.contract name)

/-- `_validate_settlement_values` -/
def validateSettlementValues (self : SettlementTerms) : Check := do
  oneOf ["kalshi_finalized_market_result"] self.resultAuthority "result_authority"
  oneOf ["yes_if_named_player_final_winner"] self.naturalCompletion "natural_completion"
  oneOf settlementBinaryChoices self.retirementAfterPoint "retirement_after_point"
  oneOf settlementBinaryChoices self.walkoverBeforePoint "walkover_before_point"
  oneOf settlementBinaryChoices self.defaultAfterPoint "default_after_point"
  oneOf settlementBinaryChoices self.disqualificationAfterPoint "disqualification_after_point"
  oneOf ["void"] self.cancellation "cancellation"
  oneOf ["defer"] self.postponement "postponement"
  oneOf settlementAbandonmentChoices self.abandonment "abandonment"
  oneOf ["await_latest_finalized_result"] self.amendment "amendment"
  oneOf ["no_directional_settlement"] self.voidTreatment "void_treatment"
  sha256 self.rawRulesSha256 "raw_rules_sha256"

/-- The settlement terms in declaration order. -/
def SettlementTerms.texts (s : SettlementTerms) : List (String × String) := [
  ("result_authority", s.resultAuthority), ("natural_completion", s.naturalCompletion),
  ("retirement_after_point", s.retirementAfterPoint),
  ("walkover_before_point", s.walkoverBeforePoint),
  ("default_after_point", s.defaultAfterPoint),
  ("disqualification_after_point", s.disqualificationAfterPoint),
  ("cancellation", s.cancellation), ("postponement", s.postponement),
  ("abandonment", s.abandonment), ("amendment", s.amendment),
  ("void_treatment", s.voidTreatment), ("raw_rules_sha256", s.rawRulesSha256)]

/-- `compute_settlement_projection_sha256` -/
def computeSettlementProjectionSha256 (self : SettlementTerms) : Except ExpertError String := do
  validateSettlementValues self
  domainSha256 "INCI-BINDING-SETTLEMENT-PROJECTION-SHA256-V1"
    (.tuple (self.texts.map fun field => .text field.2))

structure SettlementSemantics extends SettlementTerms where
  projectionSha256 : String
  deriving DecidableEq

def SettlementSemantics.postInit (self : SettlementSemantics) : Check := do
  validateSettlementValues self.toSettlementTerms
  sha256 self.projectionSha256 "projection_sha256"
  let computed ← computeSettlementProjectionSha256 self.toSettlementTerms
  refuse (self.projectionSha256 ≠ computed) (.contract "projection_sha256")

def SettlementSemantics.py (s : SettlementSemantics) : PyValue :=
  .contract "SettlementSemantics" ((s.texts.map fun field => (field.1, .text field.2)) ++
    [("projection_sha256", .text s.projectionSha256)])

/-! ## Market metadata -/

structure BindingMarketMetadata where
  seriesTicker : String
  eventTicker : String
  eventId : String
  marketTicker : String
  marketId : String
  yesPlayerSide : PlayerSide
  yesProviderPlayerId : String
  yesCanonicalPlayerId : String
  product : String
  eventCatalogSha256 : String
  membershipSourceId : String
  membershipSourceVersion : String
  membershipCapturedWallNs : Nat
  membershipEvidenceSha256 : String
  membershipProjectionSha256 : String
  marketTextSha256 : String
  settlementRuleTextSha256 : String
  settlement : SettlementSemantics
  deriving DecidableEq

/-- `compute_membership_projection_sha256`, on the fields of the record. -/
def computeMembershipProjectionSha256 (self : BindingMarketMetadata) :
    Except ExpertError String := do
  ticker self.seriesTicker "series_ticker"
  ticker self.eventTicker "event_ticker"
  safeId self.eventId "event_id"
  ticker self.marketTicker "market_ticker"
  safeId self.marketId "market_id"
  refuse (self.product ≠ "match_winner") (.contract "product")
  sha256 self.eventCatalogSha256 "event_catalog_sha256"
  safeId self.membershipSourceId "membership_source_id"
  safeId self.membershipSourceVersion "membership_source_version"
  integer self.membershipCapturedWallNs "membership_captured_wall_ns"
  sha256 self.membershipEvidenceSha256 "membership_evidence_sha256"
  domainSha256 "INCI-BINDING-MEMBERSHIP-PROJECTION-SHA256-V1" (.tuple [
    .text self.seriesTicker, .text self.eventTicker, .text self.eventId, .text self.marketTicker,
    .text self.marketId, .text self.product, .text self.eventCatalogSha256,
    .text self.membershipSourceId, .text self.membershipSourceVersion,
    .nat self.membershipCapturedWallNs, .text self.membershipEvidenceSha256])

def BindingMarketMetadata.postInit (self : BindingMarketMetadata) : Check := do
  ticker self.seriesTicker "series_ticker"
  ticker self.eventTicker "event_ticker"
  safeId self.eventId "event_id"
  ticker self.marketTicker "market_ticker"
  safeId self.marketId "market_id"
  safeId self.yesProviderPlayerId "yes_provider_player_id"
  safeId self.yesCanonicalPlayerId "yes_canonical_player_id"
  refuse (self.product ≠ "match_winner") (.contract "product")
  sha256 self.eventCatalogSha256 "event_catalog_sha256"
  safeId self.membershipSourceId "membership_source_id"
  safeId self.membershipSourceVersion "membership_source_version"
  integer self.membershipCapturedWallNs "membership_captured_wall_ns"
  sha256 self.membershipEvidenceSha256 "membership_evidence_sha256"
  sha256 self.membershipProjectionSha256 "membership_projection_sha256"
  sha256 self.marketTextSha256 "market_text_sha256"
  sha256 self.settlementRuleTextSha256 "settlement_rule_text_sha256"
  let computed ← computeMembershipProjectionSha256 self
  refuse (self.membershipProjectionSha256 ≠ computed) (.contract "membership_projection_sha256")
  refuse (self.settlement.rawRulesSha256 ≠ self.settlementRuleTextSha256)
    (.contract "settlement_rule_text_sha256")

def BindingMarketMetadata.py (m : BindingMarketMetadata) : PyValue :=
  .contract "BindingMarketMetadata" [
    ("series_ticker", .text m.seriesTicker), ("event_ticker", .text m.eventTicker),
    ("event_id", .text m.eventId), ("market_ticker", .text m.marketTicker),
    ("market_id", .text m.marketId), ("yes_player_side", m.yesPlayerSide.py),
    ("yes_provider_player_id", .text m.yesProviderPlayerId),
    ("yes_canonical_player_id", .text m.yesCanonicalPlayerId), ("product", .text m.product),
    ("event_catalog_sha256", .text m.eventCatalogSha256),
    ("membership_source_id", .text m.membershipSourceId),
    ("membership_source_version", .text m.membershipSourceVersion),
    ("membership_captured_wall_ns", .nat m.membershipCapturedWallNs),
    ("membership_evidence_sha256", .text m.membershipEvidenceSha256),
    ("membership_projection_sha256", .text m.membershipProjectionSha256),
    ("market_text_sha256", .text m.marketTextSha256),
    ("settlement_rule_text_sha256", .text m.settlementRuleTextSha256),
    ("settlement", m.settlement.py)]

structure BindingMetadata where
  canonicalMatchId : String
  canonicalHomePlayerId : String
  canonicalAwayPlayerId : String
  tournamentId : String
  seasonId : String
  drawId : String
  roundId : String
  tourId : String
  tierId : String
  surface : String
  providerSnapshotSha256 : String
  kalshiEventSha256 : String
  markets : List BindingMarketMetadata
  authorizedRoutes : List BindingRoute
  deriving DecidableEq

/-- The route of a side to its market, which its constructor checks. -/
def authorizedRoute (side : PlayerSide) (market : BindingMarketMetadata) :
    Except ExpertError BindingRoute := do
  let route : BindingRoute := ⟨side, market.marketTicker, .yes⟩
  route.postInit
  pure route

def BindingMetadata.postInit (self : BindingMetadata) : Check := do
  safeId self.canonicalMatchId "canonical_match_id"
  safeId self.canonicalHomePlayerId "canonical_home_player_id"
  safeId self.canonicalAwayPlayerId "canonical_away_player_id"
  refuse (self.canonicalHomePlayerId = self.canonicalAwayPlayerId)
    (.contract "canonical_player_identity")
  safeId self.tournamentId "tournament_id"
  safeId self.seasonId "season_id"
  safeId self.drawId "draw_id"
  safeId self.roundId "round_id"
  safeId self.tourId "tour_id"
  safeId self.tierId "tier_id"
  oneOf ["hard", "clay", "grass", "carpet"] self.surface "surface"
  sha256 self.providerSnapshotSha256 "provider_snapshot_sha256"
  sha256 self.kalshiEventSha256 "kalshi_event_sha256"
  match self.markets with
  | [home, away] => do
      refuse (self.authorizedRoutes.length ≠ 2) (.contract "authorized_routes")
      refuse (home.yesPlayerSide ≠ .home ∨ away.yesPlayerSide ≠ .away ∨
        home.yesCanonicalPlayerId ≠ self.canonicalHomePlayerId ∨
        away.yesCanonicalPlayerId ≠ self.canonicalAwayPlayerId ∨
        home.yesProviderPlayerId = away.yesProviderPlayerId ∨
        home.marketTicker = away.marketTicker ∨ home.marketId = away.marketId ∨
        home.seriesTicker ≠ away.seriesTicker ∨ home.eventTicker ≠ away.eventTicker ∨
        home.eventId ≠ away.eventId ∨ home.eventCatalogSha256 ≠ away.eventCatalogSha256)
        (.contract "markets")
      let homeRoute ← authorizedRoute .home home
      let awayRoute ← authorizedRoute .away away
      refuse (self.authorizedRoutes ≠ [homeRoute, awayRoute]) (.contract "authorized_routes")
  | _ => .error (.contract "markets")

def BindingMetadata.py (m : BindingMetadata) : PyValue := .contract "BindingMetadata" [
  ("canonical_match_id", .text m.canonicalMatchId),
  ("canonical_home_player_id", .text m.canonicalHomePlayerId),
  ("canonical_away_player_id", .text m.canonicalAwayPlayerId),
  ("tournament_id", .text m.tournamentId), ("season_id", .text m.seasonId),
  ("draw_id", .text m.drawId), ("round_id", .text m.roundId), ("tour_id", .text m.tourId),
  ("tier_id", .text m.tierId), ("surface", .text m.surface),
  ("provider_snapshot_sha256", .text m.providerSnapshotSha256),
  ("kalshi_event_sha256", .text m.kalshiEventSha256),
  ("markets", .tuple (m.markets.map BindingMarketMetadata.py)),
  ("authorized_routes", .tuple (m.authorizedRoutes.map BindingRoute.py))]

/-! ## Review -/

/-- The review decision, without the digest of the review artifact. -/
structure ReviewTerms where
  reviewArtifactId : String
  reviewArtifactCreatedWallNs : Nat
  bindingArtifactId : String
  bindingArtifactSha256 : String
  decision : String
  reviewerId : String
  reviewedWallNs : Nat
  reviewEvidenceSha256 : String
  deriving DecidableEq

/-- `canonical_binding_review_artifact_bytes` -/
def canonicalBindingReviewArtifactBytes (self : ReviewTerms) :
    Except ExpertError (List UInt8) := do
  safeId self.reviewArtifactId "review_artifact_id"
  integer self.reviewArtifactCreatedWallNs "review_artifact_created_wall_ns"
  safeId self.bindingArtifactId "binding_artifact_id"
  sha256 self.bindingArtifactSha256 "binding_artifact_sha256"
  safeId self.decision "decision"
  safeId self.reviewerId "reviewer_id"
  integer self.reviewedWallNs "reviewed_wall_ns"
  sha256 self.reviewEvidenceSha256 "review_evidence_sha256"
  pure (asciiBytes (Json.render (.obj [
    (Json.text "schema_version", .int 1),
    (Json.text "artifact_id", .str (Json.text self.reviewArtifactId)),
    (Json.text "artifact_created_wall_ns", .int self.reviewArtifactCreatedWallNs),
    (Json.text "binding_artifact_id", .str (Json.text self.bindingArtifactId)),
    (Json.text "binding_artifact_sha256", .str (Json.text self.bindingArtifactSha256)),
    (Json.text "decision", .str (Json.text self.decision)),
    (Json.text "reviewer_id", .str (Json.text self.reviewerId)),
    (Json.text "reviewed_wall_ns", .int self.reviewedWallNs),
    (Json.text "review_evidence_sha256", .str (Json.text self.reviewEvidenceSha256))])))

/-- `compute_binding_review_artifact_sha256` -/
def computeBindingReviewArtifactSha256 (self : ReviewTerms) : Except ExpertError String := do
  let bytes ← canonicalBindingReviewArtifactBytes self
  pure (Sha256.hexdigest bytes)

structure BindingReviewDecision extends ReviewTerms where
  reviewArtifactSha256 : String
  deriving DecidableEq

def BindingReviewDecision.postInit (self : BindingReviewDecision) : Check := do
  safeId self.reviewArtifactId "review_artifact_id"
  sha256 self.reviewArtifactSha256 "review_artifact_sha256"
  integer self.reviewArtifactCreatedWallNs "review_artifact_created_wall_ns"
  safeId self.bindingArtifactId "binding_artifact_id"
  sha256 self.bindingArtifactSha256 "binding_artifact_sha256"
  oneOf ["approved"] self.decision "decision"
  safeId self.reviewerId "reviewer_id"
  integer self.reviewedWallNs "reviewed_wall_ns"
  sha256 self.reviewEvidenceSha256 "review_evidence_sha256"
  refuse (self.reviewArtifactCreatedWallNs < self.reviewedWallNs)
    (.contract "review_artifact_created_wall_ns")
  let computed ← computeBindingReviewArtifactSha256 self.toReviewTerms
  refuse (self.reviewArtifactSha256 ≠ computed) (.contract "review_artifact_sha256")

def BindingReviewDecision.py (r : BindingReviewDecision) : PyValue :=
  .contract "BindingReviewDecision" [
    ("review_artifact_id", .text r.reviewArtifactId),
    ("review_artifact_sha256", .text r.reviewArtifactSha256),
    ("review_artifact_created_wall_ns", .nat r.reviewArtifactCreatedWallNs),
    ("binding_artifact_id", .text r.bindingArtifactId),
    ("binding_artifact_sha256", .text r.bindingArtifactSha256), ("decision", .text r.decision),
    ("reviewer_id", .text r.reviewerId), ("reviewed_wall_ns", .nat r.reviewedWallNs),
    ("review_evidence_sha256", .text r.reviewEvidenceSha256)]

/-! ## The universe -/

/-- `compute_binding_review_evidence_sha256` -/
def computeBindingReviewEvidenceSha256 (manifestPin : ArtifactPin) (bindings : List MatchBinding)
    (metadata : List BindingMetadata) : Except ExpertError String :=
  domainSha256 "INCI-BINDING-REVIEW-EVIDENCE-SHA256-V1" (.tuple [manifestPin.py,
    .tuple (bindings.map MatchBinding.py), .tuple (metadata.map BindingMetadata.py)])

/-- `compute_binding_universe_sha256` -/
def computeBindingUniverseSha256 (manifestPin : ArtifactPin) (review : BindingReviewDecision)
    (bindings : List MatchBinding) (metadata : List BindingMetadata) :
    Except ExpertError String :=
  domainSha256 "INCI-BINDING-UNIVERSE-SHA256-V1" (.tuple [.text manifestPin.artifactSha256,
    review.py, .tuple (bindings.map MatchBinding.py), .tuple (metadata.map BindingMetadata.py)])

/-- A player of a match: source, source lineage, provider's id and canonical id. -/
structure PlayerOccurrence where
  sourceId : String
  lineage : String
  providerId : String
  canonicalId : String

/-- One loop of `_validate_player_bijection`: equal keys come with equal values. -/
def checkFunctional (name : String) :
    List (List String × String) → List (List String × String) → Check
  | _, [] => .ok ()
  | known, (key, value) :: rest => do
      refuse (∃ entry ∈ known, entry.1 = key ∧ entry.2 ≠ value) (.contract name)
      checkFunctional name ((key, value) :: known) rest

/-- `_validate_player_bijection` -/
def validatePlayerBijection (occurrences : List PlayerOccurrence) : Check := do
  checkFunctional "binding_manifest_provider_player_collision" []
    (occurrences.map fun o => ([o.sourceId, o.lineage, o.providerId], o.canonicalId))
  checkFunctional "binding_manifest_canonical_player_collision" []
    (occurrences.map fun o => ([o.sourceId, o.lineage, o.canonicalId], o.providerId))

structure BindingUniverse where
  rawArtifactId : String
  rawArtifactSha256 : String
  review : BindingReviewDecision
  bindings : List MatchBinding
  metadata : List BindingMetadata
  universeSha256 : String
  deriving DecidableEq

/-- The keys the loop over the bindings has seen, one set for each kind. -/
structure GlobalSeen where
  matchIds : List String
  providerMatches : List (List String)
  eventTickers : List String
  eventIds : List String
  marketTickers : List String
  marketIds : List String

def GlobalSeen.empty : GlobalSeen := ⟨[], [], [], [], [], []⟩

def insertNew {α : Type} [DecidableEq α] (seen : List α) (value : α) :
    Except ExpertError (List α) := do
  refuse (value ∈ seen) (.contract "binding_manifest_collision")
  pure (value :: seen)

def GlobalSeen.add (seen : GlobalSeen) (binding : MatchBinding)
    (home away : BindingMarketMetadata) : Except ExpertError GlobalSeen := do
  let matchIds ← insertNew seen.matchIds binding.canonicalMatchId
  let providerMatches ← insertNew seen.providerMatches
    [binding.providerSourceId, binding.revisionDomainId, binding.providerMatchId]
  let eventTickers ← insertNew seen.eventTickers binding.kalshiEventTicker
  let eventIds ← insertNew seen.eventIds home.eventId
  let homeTickers ← insertNew seen.marketTickers home.marketTicker
  let marketTickers ← insertNew homeTickers away.marketTicker
  let homeIds ← insertNew seen.marketIds home.marketId
  let marketIds ← insertNew homeIds away.marketId
  pure { matchIds, providerMatches, eventTickers, eventIds, marketTickers, marketIds }

def MatchBinding.orderKey (b : MatchBinding) : List String :=
  [b.canonicalMatchId, b.providerSourceId, b.revisionDomainId, b.providerMatchId,
    b.kalshiEventTicker]

/-- One turn of the loop over the bindings of a universe.  A constructed metadata
has two markets. -/
def BindingUniverse.checkBinding (self : BindingUniverse) (previousOrder : Option (List String))
    (globalSeen : GlobalSeen) (binding : MatchBinding) (item : BindingMetadata) :
    Except ExpertError GlobalSeen := do
  refuse (binding.bindingArtifactSha256 ≠ self.rawArtifactSha256)
    (.contract "binding_artifact_sha256")
  match item.markets with
  | [home, away] => do
      refuse (item.canonicalMatchId ≠ binding.canonicalMatchId ∨
        home.yesProviderPlayerId ≠ binding.providerHomePlayerId ∨
        away.yesProviderPlayerId ≠ binding.providerAwayPlayerId ∨
        home.eventTicker ≠ binding.kalshiEventTicker ∨
        away.eventTicker ≠ binding.kalshiEventTicker ∨
        home.marketTicker ≠ binding.homeMarketTicker ∨
        away.marketTicker ≠ binding.awayMarketTicker) (.contract "binding_projection")
      refuse (∃ previous ∈ previousOrder, binding.orderKey ≤ previous)
        (.contract "binding_manifest_order")
      let seen ← globalSeen.add binding home away
      refuse (binding.artifactCreatedWallNs < home.membershipCapturedWallNs ∨
        binding.artifactCreatedWallNs < away.membershipCapturedWallNs)
        (.contract "binding_manifest_evidence")
      refuse (self.review.reviewedWallNs < binding.artifactCreatedWallNs ∨
        self.review.reviewArtifactCreatedWallNs < self.review.reviewedWallNs ∨
        binding.scheduledStartWallNs < self.review.reviewArtifactCreatedWallNs)
        (.contract "binding_review_time")
      pure seen
  | _ => .error (.contract "markets")

def BindingUniverse.checkBindings (self : BindingUniverse) :
    Option (List String) → GlobalSeen → List (MatchBinding × BindingMetadata) → Check
  | _, _, [] => .ok ()
  | previousOrder, globalSeen, (binding, item) :: rest => do
      let seen ← self.checkBinding previousOrder globalSeen binding item
      self.checkBindings (some binding.orderKey) seen rest

/-- The bindings with their metadata. -/
def BindingUniverse.pairs (self : BindingUniverse) : List (MatchBinding × BindingMetadata) :=
  self.bindings.zip self.metadata

def occurrencesOf (pair : MatchBinding × BindingMetadata) : List PlayerOccurrence :=
  [⟨pair.1.providerSourceId, pair.1.sourceLineageSha256, pair.1.providerHomePlayerId,
      pair.2.canonicalHomePlayerId⟩,
    ⟨pair.1.providerSourceId, pair.1.sourceLineageSha256, pair.1.providerAwayPlayerId,
      pair.2.canonicalAwayPlayerId⟩]

def BindingUniverse.pin (self : BindingUniverse) : ArtifactPin :=
  ⟨self.rawArtifactId, self.rawArtifactSha256⟩

def BindingUniverse.postInit (self : BindingUniverse) : Check := do
  safeId self.rawArtifactId "raw_artifact_id"
  sha256 self.rawArtifactSha256 "raw_artifact_sha256"
  sha256 self.universeSha256 "universe_sha256"
  refuse (self.bindings.length < 1 ∨ 128 < self.bindings.length) (.contract "bindings")
  refuse (self.metadata.length ≠ self.bindings.length) (.contract "metadata")
  refuse (self.review.bindingArtifactId ≠ self.rawArtifactId ∨
    self.review.bindingArtifactSha256 ≠ self.rawArtifactSha256) (.contract "review_binding")
  self.checkBindings none .empty self.pairs
  validatePlayerBijection (self.pairs.flatMap occurrencesOf)
  self.pin.postInit
  let evidence ← computeBindingReviewEvidenceSha256 self.pin self.bindings self.metadata
  refuse (self.review.reviewEvidenceSha256 ≠ evidence) (.contract "binding_review_evidence")
  let computed ← computeBindingUniverseSha256 self.pin self.review self.bindings self.metadata
  refuse (self.universeSha256 ≠ computed) (.contract "universe_sha256")

def BindingUniverse.py (u : BindingUniverse) : PyValue := .contract "BindingUniverse" [
  ("raw_artifact_id", .text u.rawArtifactId),
  ("raw_artifact_sha256", .text u.rawArtifactSha256), ("review", u.review.py),
  ("bindings", .tuple (u.bindings.map MatchBinding.py)),
  ("metadata", .tuple (u.metadata.map BindingMetadata.py)),
  ("universe_sha256", .text u.universeSha256)]

/-- `binding_universe_sha256` -/
def bindingUniverseSha256 (self : BindingUniverse) : Except ExpertError String := do
  self.postInit
  self.pin.postInit
  let computed ← computeBindingUniverseSha256 self.pin self.review self.bindings
    self.metadata
  refuse (computed ≠ self.universeSha256) (.contract "universe_sha256")
  pure computed

/-- `binding_metadata_for` -/
def bindingMetadataFor (self : BindingUniverse) (binding : MatchBinding) :
    Except ExpertError BindingMetadata := do
  self.postInit
  match self.pairs.filter fun pair => pair.1 = binding with
  | [(_, metadata)] => pure metadata
  | _ => .error (.contract "binding_not_in_universe")

end Inci.Binding
