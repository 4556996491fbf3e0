/-
# Binding.Decoding -- reading a manifest and its review

`decodeBindingUniverse` reads the two payloads strictly, field by field in the
order of the source, and constructs the universe from what it read.  Everything a
reader accepts is a text of its grammar, so a value is kept as a string; a code
point that is no character becomes the null character, which no grammar has.

The Unicode tables behind `normalize` and `casefold` are a parameter.  The reasons
`json.loads` may have to refuse a text are one here.
-/
import Inci.Binding.Contracts
import Inci.Journal.Codec
import Inci.Theory.Utf8

namespace Inci.Binding

open Inci.Theory Inci.Expert
open Inci.Theory.Json (Text Value text lookup)
open Inci.Journal (Members SameKeys byteOrderMark)

set_option autoImplicit false

/-! ## JSON -/

def manifestMaxBytes : Nat := 1048576
def reviewMaxBytes : Nat := 16384
def maxSigned64 : Nat := 9223372036854775807

mutual
/-- Every integer of the value has at most 19 digits. -/
def shortIntegers : Value → Bool
  | .int n => decide (n.natAbs < 10 ^ 19)
  | .arr items => shortIntegersItems items
  | .obj members => shortIntegersMembers members
  | _ => true
def shortIntegersItems : List Value → Bool
  | [] => true
  | v :: rest => shortIntegers v && shortIntegersItems rest
def shortIntegersMembers : Members → Bool
  | [] => true
  | (_, v) :: rest => shortIntegers v && shortIntegersMembers rest
end

/-- `_decode_json`; what `json.loads` refuses is refused as its syntax. -/
def decodeJson (payload : List UInt8) (domain : String) : Except ExpertError Value := do
  refuse (byteOrderMark <+: payload) (.contract ("binding_" ++ domain ++ "_json_bom"))
  match Utf8.decode payload with
  | none => .error (.contract ("binding_" ++ domain ++ "_json_utf8"))
  | some decoded =>
      match Json.loads decoded with
      | none => .error (.contract ("binding_" ++ domain ++ "_json_syntax"))
      | some value => do
          refuse (shortIntegers value = false) (.contract ("binding_" ++ domain ++ "_json_number"))
          pure value

/-! ## Fields -/

/-- A Python string as a string. -/
def str (t : Text) : String := String.ofList (t.map Char.ofNat)

/-- `_shape_object` -/
def shapeObject (value : Value) (keys : List String) (error : String) :
    Except ExpertError Members :=
  match value with
  | .obj members => do
      refuse (¬SameKeys (keys.map text) members) (.contract error)
      pure members
  | _ => .error (.contract error)

/-- `_shape_list` without a length -/
def shapeList (value : Value) (error : String) : Except ExpertError (List Value) :=
  match value with
  | .arr items => pure items
  | _ => .error (.contract error)

/-- `_shape_list` of length 2 -/
def shapePair (value : Value) (error : String) : Except ExpertError (Value × Value) :=
  match value with
  | .arr [first, second] => pure (first, second)
  | _ => .error (.contract error)

/-- A member of an object whose keys were checked. -/
def field (members : Members) (key : String) : Value := (lookup (text key) members).getD .null

/-- `_shape_error` -/
def shapeError (error : String) : String :=
  if error = "binding_manifest_value" then "binding_manifest_shape"
  else if error = "binding_review_value" then "binding_review_shape"
  else error

/-- `_integer` with its maximum -/
def integerUpTo (maximum : Nat) (value : Value) (error : String) : Except ExpertError Nat :=
  match value with
  | .int n => do
      refuse (n < 0 ∨ (maximum : Int) < n) (.contract error)
      pure n.toNat
  | _ => .error (.contract (shapeError error))

/-- `_integer` -/
def integerOf (value : Value) (error : String) : Except ExpertError Nat :=
  integerUpTo maxSigned64 value error

/-- `_string` -/
def stringOf (value : Value) (error : String) : Except ExpertError Text :=
  match value with
  | .str t => pure t
  | _ => .error (.contract (shapeError error))

/-- `_safe_id` -/
def safeIdOf (value : Value) (error : String) : Except ExpertError String := do
  let t ← stringOf value error
  refuse (¬SafeId (str t)) (.contract error)
  pure (str t)

/-- `_ticker` -/
def tickerOf (value : Value) (error : String) : Except ExpertError String := do
  let t ← stringOf value error
  refuse (¬Ticker (str t)) (.contract error)
  pure (str t)

/-- `_digest` -/
def digestOf (value : Value) (error : String) : Except ExpertError String := do
  let t ← stringOf value error
  refuse (¬IsSha256 (str t)) (.contract error)
  pure (str t)

/-- The schema version of a root. -/
def checkVersion (root : Members) (error : String) : Check :=
  match field root "schema_version" with
  | .int version => refuse (version ≠ 1) (.contract error)
  | _ => .error (.contract (shapeError error))

/-- The value of a constructor, or its failure under one name. -/
def project {α : Type} (value : α) (check : Check) : Except ExpertError α := do
  recover check (fun _ => true) (.contract "binding_projection")
  pure value

/-! ## Texts -/

/-- The Unicode tables. -/
structure Unicode where
  nfc : Text → Text
  nfkc : Text → Text
  casefold : Text → Text

/-- `str.isspace` of one code point -/
def isWhitespace (c : Nat) : Bool :=
  decide (9 ≤ c ∧ c ≤ 13) || decide (28 ≤ c ∧ c ≤ 32) || decide (8192 ≤ c ∧ c ≤ 8202) ||
    [133, 160, 5760, 8232, 8233, 8239, 8287, 12288].contains c

/-- A code point of the category `Cc`. -/
def isControl (c : Nat) : Bool := decide (c < 32) || decide (127 ≤ c ∧ c < 160)

/-- The UTF-8 bytes of a code point. -/
def utf8Bytes (c : Nat) : List UInt8 :=
  if c < 128 then [.ofNat c]
  else if c < 2048 then [.ofNat (192 + c / 64), .ofNat (128 + c % 64)]
  else if c < 65536 then
    [.ofNat (224 + c / 4096), .ofNat (128 + c / 64 % 64), .ofNat (128 + c % 64)]
  else [.ofNat (240 + c / 262144), .ofNat (128 + c / 4096 % 64), .ofNat (128 + c / 64 % 64),
    .ofNat (128 + c % 64)]

/-- `text.encode("utf-8")` of a text without surrogates -/
def utf8 (t : Text) : List UInt8 := t.flatMap utf8Bytes

def isSurrogate (c : Nat) : Bool := decide (55296 ≤ c ∧ c ≤ 57343)

/-- `str.strip` -/
def strip (t : Text) : Text := (t.dropWhile isWhitespace).reverse.dropWhile isWhitespace |>.reverse

/-- `str.split` at runs of whitespace -/
def splitWhitespace (t : Text) : List Text := (t.splitOnP isWhitespace).filter (· ≠ [])

section Texts

variable (unicode : Unicode)

/-- The checks that `_display_text` makes of every text -/
def displayBase (value : Value) (error : String) (maxBytes : Nat) : Except ExpertError Text := do
  let t ← stringOf value error
  refuse (t.any isSurrogate = true) (.contract error)
  refuse (utf8 t = [] ∨ maxBytes < (utf8 t).length ∨ unicode.nfc t ≠ t) (.contract error)
  pure t

/-- `_display_text` -/
def displayText (value : Value) (error : String) (maxBytes : Nat) : Except ExpertError Text := do
  let t ← displayBase unicode value error maxBytes
  refuse (strip t ≠ t) (.contract error)
  refuse (t.any isControl = true) (.contract error)
  pure t

/-- `_display_text` of several lines -/
def displayLines (value : Value) (error : String) (maxBytes : Nat) : Except ExpertError Text := do
  let t ← displayBase unicode value error maxBytes
  refuse (13 ∈ t) (.contract error)
  refuse (∃ c ∈ t, isControl c = true ∧ c ∉ [10, 9]) (.contract error)
  pure t

/-- `_placeholder_form` -/
def placeholderForm (t : Text) : Text :=
  unicode.casefold ([32].intercalate (splitWhitespace (unicode.nfkc t)))

def placeholders : List Text :=
  ["tbd", "tba", "unknown", "undecided", "qualifier", "q", "lucky loser", "ll", "bye", "player 1",
    "player 2", "home", "away"].map text

def idFirstPlaceholders : List Text :=
  ["tbd", "tba", "unknown", "undecided", "qualifier", "q", "ll", "bye"].map text

def displayPrefixPlaceholders : List Text :=
  ["winner of ", "loser of ", "qualifier ", "lucky loser "].map text

/-- `_reject_placeholder` -/
def rejectPlaceholder (t : Text) (display : Bool) : Check := do
  let normalized := placeholderForm unicode t
  refuse (normalized ∈ placeholders) (.contract "binding_manifest_placeholder")
  if display then
    refuse (∃ first ∈ displayPrefixPlaceholders, first <+: normalized)
      (.contract "binding_manifest_placeholder")
  else
    let tokens := (normalized.splitOnP fun c => (text "._:-").contains c).filter (· ≠ [])
    refuse ((∃ first ∈ tokens.head?, first ∈ idFirstPlaceholders) ∨
      tokens.take 2 ∈ [[text "player", text "1"], [text "player", text "2"]])
      (.contract "binding_manifest_placeholder")

end Texts

/-! ## The manifest -/

def rootKeys : List String := ["schema_version", "artifact_id", "artifact_created_wall_ns", "bindings"]

def bindingKeys : List String := ["canonical_match_id", "provider", "competition", "match", "kalshi"]

def providerKeys : List String :=
  ["sport", "competition_kind", "competitor_count", "source_id", "revision_domain_id",
    "source_lineage_sha256", "match_id", "home_player", "away_player", "scheduled_start_wall_ns",
    "snapshot_sha256", "snapshot_captured_wall_ns"]

def playerKeys : List String :=
  ["provider_player_id", "canonical_player_id", "display_name", "participant_type",
    "participant_status"]

def competitionKeys : List String :=
  ["tournament_id", "season_id", "draw_id", "round_id", "tour_id", "tier_id", "surface",
    "tournament_name"]

def matchKeys : List String := ["match_type", "product", "format", "start_tolerance_ns"]

def kalshiKeys : List String :=
  ["series_ticker", "event_ticker", "event_id", "scheduled_start_wall_ns", "event_sha256",
    "event_captured_wall_ns", "event_catalog_sha256", "route_authority", "markets",
    "authorized_routes"]

def marketKeys : List String :=
  ["market_ticker", "market_id", "yes_player_side", "yes_provider_player_id",
    "yes_canonical_player_id", "yes_outcome", "membership", "settlement", "market_evidence"]

def membershipKeys : List String :=
  ["series_ticker", "event_ticker", "event_id", "market_ticker", "market_id", "product",
    "event_catalog_sha256", "source_id", "source_version", "captured_wall_ns",
    "membership_evidence_sha256", "membership_projection_sha256"]

def settlementKeys : List String :=
  ["result_authority", "natural_completion", "retirement_after_point", "walkover_before_point",
    "default_after_point", "disqualification_after_point", "cancellation", "postponement",
    "abandonment", "amendment", "void_treatment", "raw_rules_sha256", "projection_sha256"]

def evidenceKeys : List String :=
  ["source_id", "source_version", "captured_wall_ns", "market_text", "market_text_sha256",
    "settlement_rule_text", "settlement_rule_text_sha256"]

def routeKeys : List String := ["player_side", "market_ticker", "contract_side"]

def reviewKeys : List String :=
  ["schema_version", "artifact_id", "artifact_created_wall_ns", "binding_artifact_id",
    "binding_artifact_sha256", "decision", "reviewer_id", "reviewed_wall_ns",
    "review_evidence_sha256"]

/-- `_market_semantics` -/
def marketSemantics (raw : Members) : Except ExpertError SettlementSemantics := do
  let _ ← shapeObject (.obj raw) settlementKeys "binding_manifest_shape"
  let told (key : String) := stringOf (field raw key) "binding_manifest_value"
  let resultAuthority ← told "result_authority"
  let naturalCompletion ← told "natural_completion"
  let retirementAfterPoint ← told "retirement_after_point"
  let walkoverBeforePoint ← told "walkover_before_point"
  let defaultAfterPoint ← told "default_after_point"
  let disqualificationAfterPoint ← told "disqualification_after_point"
  let cancellation ← told "cancellation"
  let postponement ← told "postponement"
  let abandonment ← told "abandonment"
  let amendment ← told "amendment"
  let voidTreatment ← told "void_treatment"
  let rawRulesSha256 ← digestOf (field raw "raw_rules_sha256") "binding_manifest_value"
  let projectionSha256 ← digestOf (field raw "projection_sha256") "binding_manifest_value"
  let terms : SettlementTerms :=
    { resultAuthority := str resultAuthority
      naturalCompletion := str naturalCompletion
      retirementAfterPoint := str retirementAfterPoint
      walkoverBeforePoint := str walkoverBeforePoint
      defaultAfterPoint := str defaultAfterPoint
      disqualificationAfterPoint := str disqualificationAfterPoint
      cancellation := str cancellation
      postponement := str postponement
      abandonment := str abandonment
      amendment := str amendment
      voidTreatment := str voidTreatment
      rawRulesSha256 := rawRulesSha256 }
  let projected ← recover (computeSettlementProjectionSha256 terms) (fun _ => true)
    (.contract "binding_manifest_value")
  refuse (projected ≠ projectionSha256) (.contract "binding_manifest_evidence")
  let semantics : SettlementSemantics := { terms with projectionSha256 := projectionSha256 }
  project semantics semantics.postInit

section Parsing

variable (unicode : Unicode)

/-- What a player of a match is read to. -/
structure Player where
  providerPlayerId : String
  canonicalPlayerId : String
  displayName : Text
  deriving DecidableEq

/-- `_parse_player` -/
def parsePlayer (raw : Value) : Except ExpertError Player := do
  let player ← shapeObject raw playerKeys "binding_manifest_shape"
  let providerId ← safeIdOf (field player "provider_player_id") "binding_manifest_value"
  rejectPlaceholder unicode (text providerId) false
  let canonicalId ← safeIdOf (field player "canonical_player_id") "binding_manifest_value"
  rejectPlaceholder unicode (text canonicalId) false
  let displayName ← displayText unicode (field player "display_name") "binding_manifest_value" 256
  rejectPlaceholder unicode displayName true
  let participantType ← stringOf (field player "participant_type") "binding_manifest_value"
  let participantStatus ← stringOf (field player "participant_status") "binding_manifest_value"
  refuse (participantType ≠ text "player" ∨ participantStatus ≠ text "confirmed")
    (.contract "binding_manifest_value")
  pure ⟨providerId, canonicalId, displayName⟩

/-! ### The parts of a binding, in the order they are read -/

structure ProviderPart where
  sourceId : String
  revisionDomainId : String
  sourceLineageSha256 : String
  matchId : String
  home : Player
  away : Player
  start : Nat
  snapshotSha256 : String
  captured : Nat
  deriving DecidableEq

def parseProvider (raw : Value) : Except ExpertError ProviderPart := do
  let provider ← shapeObject raw providerKeys "binding_manifest_shape"
  let sport ← stringOf (field provider "sport") "binding_manifest_value"
  let competitionKind ← stringOf (field provider "competition_kind") "binding_manifest_value"
  let competitorCount ← integerOf (field provider "competitor_count") "binding_manifest_value"
  refuse (sport ≠ text "tennis" ∨ competitionKind ≠ text "real" ∨ competitorCount ≠ 2)
    (.contract "binding_manifest_value")
  let sourceId ← safeIdOf (field provider "source_id") "binding_manifest_value"
  let revisionDomainId ← safeIdOf (field provider "revision_domain_id") "binding_manifest_value"
  let lineage ← digestOf (field provider "source_lineage_sha256") "binding_manifest_value"
  let matchId ← safeIdOf (field provider "match_id") "binding_manifest_value"
  let home ← parsePlayer unicode (field provider "home_player")
  let away ← parsePlayer unicode (field provider "away_player")
  refuse (home.providerPlayerId = away.providerPlayerId ∨
    home.canonicalPlayerId = away.canonicalPlayerId) (.contract "binding_manifest_value")
  refuse (placeholderForm unicode home.displayName = placeholderForm unicode away.displayName)
    (.contract "binding_manifest_placeholder")
  let start ← integerOf (field provider "scheduled_start_wall_ns") "binding_manifest_value"
  let snapshot ← digestOf (field provider "snapshot_sha256") "binding_manifest_value"
  let captured ← integerOf (field provider "snapshot_captured_wall_ns") "binding_manifest_value"
  pure ⟨sourceId, revisionDomainId, lineage, matchId, home, away, start, snapshot, captured⟩

structure CompetitionPart where
  tournamentId : String
  seasonId : String
  drawId : String
  roundId : String
  tourId : String
  tierId : String
  surface : String
  deriving DecidableEq

def parseCompetition (raw : Value) : Except ExpertError CompetitionPart := do
  let competition ← shapeObject raw competitionKeys "binding_manifest_shape"
  let named (key : String) := safeIdOf (field competition key) "binding_manifest_value"
  let tournamentId ← named "tournament_id"
  let seasonId ← named "season_id"
  let drawId ← named "draw_id"
  let roundId ← named "round_id"
  let tourId ← named "tour_id"
  let tierId ← named "tier_id"
  let surface ← stringOf (field competition "surface") "binding_manifest_value"
  refuse (surface ∉ ["hard", "clay", "grass", "carpet"].map text)
    (.contract "binding_manifest_value")
  let _ ← displayText unicode (field competition "tournament_name") "binding_manifest_value" 256
  pure ⟨tournamentId, seasonId, drawId, roundId, tourId, tierId, str surface⟩

structure MatchPart where
  format : MatchFormat
  startTolerance : Nat
  deriving DecidableEq

def parseMatch (raw : Value) : Except ExpertError MatchPart := do
  let match_ ← shapeObject raw matchKeys "binding_manifest_shape"
  let matchType ← stringOf (field match_ "match_type") "binding_manifest_value"
  let product ← stringOf (field match_ "product") "binding_manifest_value"
  refuse (matchType ≠ text "singles" ∨ product ≠ text "match_winner")
    (.contract "binding_manifest_value")
  let format ← stringOf (field match_ "format") "binding_manifest_value"
  match supportedMatchFormats.find? fun known => decide (text known.value = format) with
  | none => .error (.contract "binding_manifest_value")
  | some known => do
      let tolerance ← integerUpTo 900000000000 (field match_ "start_tolerance_ns")
        "binding_manifest_value"
      pure ⟨known, tolerance⟩

/-- The event of a binding, its markets and routes still to read. -/
structure EventPart where
  seriesTicker : String
  eventTicker : String
  eventId : String
  start : Nat
  eventSha256 : String
  captured : Nat
  catalogSha256 : String
  homeMarket : Value
  awayMarket : Value
  routes : Value

def parseEvent (raw : Value) : Except ExpertError EventPart := do
  let kalshi ← shapeObject raw kalshiKeys "binding_manifest_shape"
  let seriesTicker ← tickerOf (field kalshi "series_ticker") "binding_manifest_value"
  let eventTicker ← tickerOf (field kalshi "event_ticker") "binding_manifest_value"
  let eventId ← safeIdOf (field kalshi "event_id") "binding_manifest_value"
  let start ← integerOf (field kalshi "scheduled_start_wall_ns") "binding_manifest_value"
  let eventSha256 ← digestOf (field kalshi "event_sha256") "binding_manifest_value"
  let captured ← integerOf (field kalshi "event_captured_wall_ns") "binding_manifest_value"
  let catalog ← digestOf (field kalshi "event_catalog_sha256") "binding_manifest_value"
  let authority ← stringOf (field kalshi "route_authority") "binding_manifest_value"
  refuse (authority ≠ text "direct_yes_only") (.contract "binding_manifest_route")
  let markets ← shapePair (field kalshi "markets") "binding_manifest_shape"
  pure ⟨seriesTicker, eventTicker, eventId, start, eventSha256, captured, catalog, markets.1,
    markets.2, field kalshi "authorized_routes"⟩

/-- The members of a membership that another part of the binding determines. -/
def checkMembershipField (membership : Members) (key expected : String) : Check :=
  match field membership key with
  | .str told => refuse (told ≠ text expected) (.contract "binding_manifest_evidence")
  | _ => .error (.contract "binding_manifest_shape")

structure MembershipPart where
  sourceId : String
  sourceVersion : String
  captured : Nat
  evidenceSha256 : String
  projectionSha256 : String

def parseMembership (event : EventPart) (marketTicker marketId : String) (raw : Value) :
    Except ExpertError MembershipPart := do
  let membership ← shapeObject raw membershipKeys "binding_manifest_shape"
  checkMembershipField membership "series_ticker" event.seriesTicker
  checkMembershipField membership "event_ticker" event.eventTicker
  checkMembershipField membership "event_id" event.eventId
  checkMembershipField membership "market_ticker" marketTicker
  checkMembershipField membership "market_id" marketId
  checkMembershipField membership "product" "match_winner"
  checkMembershipField membership "event_catalog_sha256" event.catalogSha256
  let sourceId ← safeIdOf (field membership "source_id") "binding_manifest_value"
  let sourceVersion ← safeIdOf (field membership "source_version") "binding_manifest_value"
  let captured ← integerOf (field membership "captured_wall_ns") "binding_manifest_value"
  let evidence ← digestOf (field membership "membership_evidence_sha256") "binding_manifest_value"
  let projection ←
    digestOf (field membership "membership_projection_sha256") "binding_manifest_value"
  pure ⟨sourceId, sourceVersion, captured, evidence, projection⟩

structure EvidencePart where
  captured : Nat
  marketText : Text
  marketTextSha256 : String
  ruleText : Text
  ruleTextSha256 : String

def parseEvidence (raw : Value) : Except ExpertError EvidencePart := do
  let evidence ← shapeObject raw evidenceKeys "binding_manifest_shape"
  let _ ← safeIdOf (field evidence "source_id") "binding_manifest_value"
  let _ ← safeIdOf (field evidence "source_version") "binding_manifest_value"
  let captured ← integerOf (field evidence "captured_wall_ns") "binding_manifest_value"
  let marketText ← displayLines unicode (field evidence "market_text") "binding_manifest_value" 8192
  let marketTextSha256 ← digestOf (field evidence "market_text_sha256") "binding_manifest_value"
  let ruleText ← displayLines unicode (field evidence "settlement_rule_text")
    "binding_manifest_value" 32768
  let ruleTextSha256 ←
    digestOf (field evidence "settlement_rule_text_sha256") "binding_manifest_value"
  pure ⟨captured, marketText, marketTextSha256, ruleText, ruleTextSha256⟩

/-- The market of a side with the digests of its texts and its settlement. -/
def marketMetadata (event : EventPart) (side : PlayerSide) (player : Player)
    (marketTicker marketId : String) (membership : MembershipPart)
    (marketTextSha256 ruleTextSha256 : String) (settlement : SettlementSemantics) :
    BindingMarketMetadata where
  seriesTicker := event.seriesTicker
  eventTicker := event.eventTicker
  eventId := event.eventId
  marketTicker := marketTicker
  marketId := marketId
  yesPlayerSide := side
  yesProviderPlayerId := player.providerPlayerId
  yesCanonicalPlayerId := player.canonicalPlayerId
  product := "match_winner"
  eventCatalogSha256 := event.catalogSha256
  membershipSourceId := membership.sourceId
  membershipSourceVersion := membership.sourceVersion
  membershipCapturedWallNs := membership.captured
  membershipEvidenceSha256 := membership.evidenceSha256
  membershipProjectionSha256 := membership.projectionSha256
  marketTextSha256 := marketTextSha256
  settlementRuleTextSha256 := ruleTextSha256
  settlement := settlement

/-- A market and the times of what was captured for it. -/
structure MarketPart where
  market : BindingMarketMetadata
  captured : List Nat

/-- One turn of the loop over the markets: the market of a side. -/
def parseMarket (event : EventPart) (created : Nat) (side : PlayerSide) (player : Player)
    (raw : Value) : Except ExpertError MarketPart := do
  let market ← shapeObject raw marketKeys "binding_manifest_shape"
  let marketTicker ← tickerOf (field market "market_ticker") "binding_manifest_value"
  let marketId ← safeIdOf (field market "market_id") "binding_manifest_value"
  let yesPlayerSide ← stringOf (field market "yes_player_side") "binding_manifest_value"
  let yesProvider ← stringOf (field market "yes_provider_player_id") "binding_manifest_value"
  let yesCanonical ← stringOf (field market "yes_canonical_player_id") "binding_manifest_value"
  let yesOutcome ← stringOf (field market "yes_outcome") "binding_manifest_value"
  refuse (yesPlayerSide ≠ text side.value ∨ yesProvider ≠ text player.providerPlayerId ∨
    yesCanonical ≠ text player.canonicalPlayerId ∨ yesOutcome ≠ text "wins_match")
    (.contract "binding_manifest_route")
  let membership ← parseMembership event marketTicker marketId (field market "membership")
  let projected := marketMetadata event side player marketTicker marketId membership
  -- the projection reads no text and no settlement, which are read after it
  let computed ← computeMembershipProjectionSha256
    (projected "" "" ⟨⟨"", "", "", "", "", "", "", "", "", "", "", ""⟩, ""⟩)
  refuse (membership.projectionSha256 ≠ computed) (.contract "binding_manifest_evidence")
  let rawSettlement ← shapeObject (field market "settlement") settlementKeys
    "binding_manifest_shape"
  let settlement ← marketSemantics rawSettlement
  let evidence ← parseEvidence unicode (field market "market_evidence")
  refuse (Sha256.hexdigest (utf8 evidence.marketText) ≠ evidence.marketTextSha256 ∨
    Sha256.hexdigest (utf8 evidence.ruleText) ≠ evidence.ruleTextSha256 ∨
    settlement.rawRulesSha256 ≠ evidence.ruleTextSha256 ∨ created < membership.captured)
    (.contract "binding_manifest_evidence")
  let built := projected evidence.marketTextSha256 evidence.ruleTextSha256 settlement
  let built ← project built built.postInit
  pure ⟨built, [membership.captured, evidence.captured]⟩

/-- One turn of the loop over the routes: the route of a side to its market. -/
def parseRoute (side : PlayerSide) (market : BindingMarketMetadata) (raw : Value) :
    Except ExpertError BindingRoute := do
  let route ← shapeObject raw routeKeys "binding_manifest_shape"
  let playerSide ← stringOf (field route "player_side") "binding_manifest_value"
  let marketTicker ← stringOf (field route "market_ticker") "binding_manifest_value"
  let contractSide ← stringOf (field route "contract_side") "binding_manifest_value"
  refuse ((playerSide, marketTicker, contractSide) ≠
    (text side.value, text market.marketTicker, text "yes")) (.contract "binding_manifest_route")
  authorizedRoute side market

def parseRoutes (home away : BindingMarketMetadata) (raw : Value) :
    Except ExpertError (List BindingRoute) := do
  match ← shapeList raw "binding_manifest_shape" with
  | [first, second] => do
      let homeRoute ← parseRoute .home home first
      let awayRoute ← parseRoute .away away second
      pure [homeRoute, awayRoute]
  | _ => .error (.contract "binding_manifest_route")

/-- A binding with its metadata, the market's start and the players it names. -/
structure ParsedBinding where
  slim : MatchBinding
  metadata : BindingMetadata
  kalshiStart : Nat
  occurrences : List PlayerOccurrence

/-- `_parse_binding` -/
def parseBinding (created : Nat) (manifestPin : ArtifactPin) (raw : Value) :
    Except ExpertError ParsedBinding := do
  let binding ← shapeObject raw bindingKeys "binding_manifest_shape"
  let canonicalMatchId ← safeIdOf (field binding "canonical_match_id") "binding_manifest_value"
  let provider ← parseProvider unicode (field binding "provider")
  let competition ← parseCompetition unicode (field binding "competition")
  let match_ ← parseMatch (field binding "match")
  let event ← parseEvent (field binding "kalshi")
  let home ← parseMarket unicode event created .home provider.home event.homeMarket
  let away ← parseMarket unicode event created .away provider.away event.awayMarket
  let routes ← parseRoutes home.market away.market event.routes
  refuse (match_.startTolerance < ((provider.start : Int) - event.start).natAbs)
    (.contract "binding_manifest_start_time")
  refuse (provider.start < created ∨ event.start < created ∨ created < provider.captured ∨
    created < event.captured ∨ ∃ captured ∈ home.captured ++ away.captured, created < captured)
    (.contract "binding_manifest_evidence")
  let slim : MatchBinding :=
    { providerMatchId := provider.matchId
      canonicalMatchId := canonicalMatchId
      providerSourceId := provider.sourceId
      revisionDomainId := provider.revisionDomainId
      sourceLineageSha256 := provider.sourceLineageSha256
      providerHomePlayerId := provider.home.providerPlayerId
      providerAwayPlayerId := provider.away.providerPlayerId
      kalshiEventTicker := event.eventTicker
      homeMarketTicker := home.market.marketTicker
      awayMarketTicker := away.market.marketTicker
      matchFormat := match_.format
      scheduledStartWallNs := provider.start
      startToleranceNs := match_.startTolerance
      artifactCreatedWallNs := created
      bindingArtifactSha256 := manifestPin.artifactSha256 }
  let slim ← project slim slim.postInit
  let metadata : BindingMetadata :=
    { canonicalMatchId := canonicalMatchId
      canonicalHomePlayerId := provider.home.canonicalPlayerId
      canonicalAwayPlayerId := provider.away.canonicalPlayerId
      tournamentId := competition.tournamentId
      seasonId := competition.seasonId
      drawId := competition.drawId
      roundId := competition.roundId
      tourId := competition.tourId
      tierId := competition.tierId
      surface := competition.surface
      providerSnapshotSha256 := provider.snapshotSha256
      kalshiEventSha256 := event.eventSha256
      markets := [home.market, away.market]
      authorizedRoutes := routes }
  let metadata ← project metadata metadata.postInit
  pure {
    slim := slim
    metadata := metadata
    kalshiStart := event.start
    occurrences := [
      ⟨provider.sourceId, provider.sourceLineageSha256, slim.providerHomePlayerId,
        metadata.canonicalHomePlayerId⟩,
      ⟨provider.sourceId, provider.sourceLineageSha256, slim.providerAwayPlayerId,
        metadata.canonicalAwayPlayerId⟩] }

/-- The loop of `_validate_global_identity` over the bindings. -/
def checkIdentities :
    Option (List String) → GlobalSeen → List (MatchBinding × BindingMetadata) → Check
  | _, _, [] => .ok ()
  | previous, seen, (binding, item) :: rest =>
      match item.markets with
      | [home, away] => do
          refuse (∃ key ∈ previous, binding.orderKey ≤ key) (.contract "binding_manifest_order")
          let seen ← seen.add binding home away
          checkIdentities (some binding.orderKey) seen rest
      | _ => .error (.contract "markets")

/-- `_validate_global_identity`; the two maps are those of `_validate_player_bijection`. -/
def validateGlobalIdentity (bindings : List MatchBinding) (metadata : List BindingMetadata)
    (occurrences : List PlayerOccurrence) : Check := do
  checkIdentities none .empty (bindings.zip metadata)
  validatePlayerBijection occurrences

structure Manifest where
  created : Nat
  bindings : List MatchBinding
  metadata : List BindingMetadata
  kalshiStarts : List Nat

/-- `_parse_manifest` -/
def parseManifest (value : Value) (manifestPin : ArtifactPin) : Except ExpertError Manifest := do
  let root ← shapeObject value rootKeys "binding_manifest_shape"
  checkVersion root "binding_manifest_value"
  let artifactId ← safeIdOf (field root "artifact_id") "binding_manifest_value"
  refuse (artifactId ≠ manifestPin.artifactId) (.contract "binding_manifest_value")
  let created ← integerOf (field root "artifact_created_wall_ns") "binding_manifest_value"
  let rawBindings ← shapeList (field root "bindings") "binding_manifest_shape"
  refuse (rawBindings.length < 1 ∨ 128 < rawBindings.length) (.contract "binding_manifest_value")
  let parsed ← collect (parseBinding unicode created manifestPin) rawBindings
  let bindings := parsed.map ParsedBinding.slim
  let metadata := parsed.map ParsedBinding.metadata
  validateGlobalIdentity bindings metadata (parsed.flatMap ParsedBinding.occurrences)
  pure ⟨created, bindings, metadata, parsed.map ParsedBinding.kalshiStart⟩

end Parsing

/-! ## The review -/

/-- `_parse_review` -/
def parseReview (value : Value) (payload : List UInt8) (reviewPin manifestPin : ArtifactPin)
    (reviewEvidenceSha256 : String) (manifest : Manifest) :
    Except ExpertError BindingReviewDecision := do
  let root ← shapeObject value reviewKeys "binding_review_shape"
  checkVersion root "binding_review_value"
  let artifactId ← safeIdOf (field root "artifact_id") "binding_review_value"
  let artifactCreated ← integerOf (field root "artifact_created_wall_ns") "binding_review_value"
  let bindingArtifactId ← safeIdOf (field root "binding_artifact_id") "binding_review_value"
  let bindingArtifactSha256 ← digestOf (field root "binding_artifact_sha256") "binding_review_value"
  let decision ← stringOf (field root "decision") "binding_review_value"
  let reviewerId ← safeIdOf (field root "reviewer_id") "binding_review_value"
  let reviewed ← integerOf (field root "reviewed_wall_ns") "binding_review_value"
  let evidence ← digestOf (field root "review_evidence_sha256") "binding_review_value"
  refuse (artifactId ≠ reviewPin.artifactId ∨ bindingArtifactId ≠ manifestPin.artifactId ∨
    bindingArtifactSha256 ≠ manifestPin.artifactSha256) (.contract "binding_review_artifact")
  refuse (decision ≠ text "approved") (.contract "binding_review_value")
  refuse (evidence ≠ reviewEvidenceSha256) (.contract "binding_review_evidence")
  let terms : ReviewTerms :=
    { reviewArtifactId := artifactId
      reviewArtifactCreatedWallNs := artifactCreated
      bindingArtifactId := bindingArtifactId
      bindingArtifactSha256 := bindingArtifactSha256
      decision := str decision
      reviewerId := reviewerId
      reviewedWallNs := reviewed
      reviewEvidenceSha256 := evidence }
  let canonical ← canonicalBindingReviewArtifactBytes terms
  let computed ← computeBindingReviewArtifactSha256 terms
  refuse (payload ≠ canonical ∨ computed ≠ reviewPin.artifactSha256)
    (.contract "binding_review_artifact")
  refuse (reviewed < manifest.created ∨
    (∃ start ∈ manifest.bindings.map MatchBinding.scheduledStartWallNs ++ manifest.kalshiStarts,
      start < artifactCreated) ∨
    artifactCreated < reviewed) (.contract "binding_review_time")
  refuse (∃ pair ∈ manifest.bindings.zip manifest.metadata,
    (∃ market ∈ pair.2.markets,
      pair.1.artifactCreatedWallNs < market.membershipCapturedWallNs) ∨
    reviewed < pair.1.artifactCreatedWallNs) (.contract "binding_review_time")
  let review : BindingReviewDecision := { terms with reviewArtifactSha256 := reviewPin.artifactSha256 }
  project review review.postInit

/-- The universe of a manifest and its review. -/
def Manifest.universe_ (manifest : Manifest) (manifestPin : ArtifactPin)
    (review : BindingReviewDecision) (universeSha256 : String) : BindingUniverse :=
  { rawArtifactId := manifestPin.artifactId
    rawArtifactSha256 := manifestPin.artifactSha256
    review := review
    bindings := manifest.bindings
    metadata := manifest.metadata
    universeSha256 := universeSha256 }

/-- `decode_binding_universe` -/
def decodeBindingUniverse (unicode : Unicode) (manifestPayload reviewPayload : List UInt8)
    (manifestPin reviewPin : ArtifactPin) : Except ExpertError BindingUniverse := do
  refuse (manifestPayload.length < 1 ∨ manifestMaxBytes < manifestPayload.length)
    (.contract "binding_manifest_payload_size")
  refuse (reviewPayload.length < 1 ∨ reviewMaxBytes < reviewPayload.length)
    (.contract "binding_review_payload_size")
  refuse (Sha256.hexdigest manifestPayload ≠ manifestPin.artifactSha256)
    (.contract "binding_manifest_payload_sha256")
  refuse (Sha256.hexdigest reviewPayload ≠ reviewPin.artifactSha256)
    (.contract "binding_review_payload_sha256")
  let manifestValue ← decodeJson manifestPayload "manifest"
  let manifest ← parseManifest unicode manifestValue manifestPin
  let evidence ← computeBindingReviewEvidenceSha256 manifestPin manifest.bindings manifest.metadata
  let reviewValue ← decodeJson reviewPayload "review"
  let review ← parseReview reviewValue reviewPayload reviewPin manifestPin evidence manifest
  let digest ← computeBindingUniverseSha256 manifestPin review manifest.bindings manifest.metadata
  let universe_ := manifest.universe_ manifestPin review digest
  project universe_ universe_.postInit

end Inci.Binding
