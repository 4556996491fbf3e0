/-
# Binding.Reading -- what the decoder reads

The decoder checks the keys of a manifest with loops of its own, and the universe's
constructor checks them again.  What is read from a manifest (`Manifest.Read`) and
from its review (`ReviewRead`) is a universe that the constructor accepts
(`parsed_accepted`), so a decoded universe names every key once (`decoded_unique`).
-/
import Inci.Binding.Decoding
import Inci.Binding.Uniqueness
import Inci.Theory.JsonSize

namespace Inci.Binding

open Inci.Theory Inci.Expert
open Inci.Theory.Json (Text Value text lookup)
open Inci.Journal (Members)

set_option autoImplicit false

/-! ## What the decoder reads -/

@[simp] theorem project_eq_ok {α : Type} {value built : α} {check : Check} :
    project value check = .ok built ↔ check = .ok () ∧ value = built := by
  simp only [project, bind_eq_ok, exists_unit, recover_eq_ok, pure_eq_ok]

section Decoder

variable {unicode : Unicode} {manifestPin reviewPin : ArtifactPin}

/-- A market that was read for a side of an event. -/
structure MarketPart.Read (part : MarketPart) (event : EventPart) (created : Nat) (player : Player) :
    Prop where
  eventTicker : part.market.eventTicker = event.eventTicker
  provider : part.market.yesProviderPlayerId = player.providerPlayerId
  captured : part.market.membershipCapturedWallNs ≤ created
  built : part.market.postInit = .ok ()

theorem parseMarket_read {event : EventPart} {created : Nat} {side : PlayerSide} {player : Player}
    {raw : Value} {part : MarketPart}
    (parsed : parseMarket unicode event created side player raw = .ok part) :
    part.Read event created player := by
  simp only [parseMarket, bind_eq_ok, exists_unit, refuse_eq_ok, not_or, not_lt, project_eq_ok,
    pure_eq_ok] at parsed
  obtain ⟨_, -, _, -, _, -, _, -, _, -, _, -, _, -, -, membership, -, _, -, -, _, -, _, -, _, -,
    ⟨-, -, -, captured⟩, _, ⟨built, rfl⟩, rfl⟩ := parsed
  exact ⟨rfl, rfl, captured, built⟩

/-- A binding that was read from a manifest of a pin. -/
structure ParsedBinding.Read (parsed : ParsedBinding) (created : Nat) (pin : ArtifactPin) : Prop where
  pinned : parsed.slim.bindingArtifactSha256 = pin.artifactSha256
  artifact : parsed.slim.artifactCreatedWallNs = created
  projected : Projected (parsed.slim, parsed.metadata)
  captured : ∀ market ∈ parsed.metadata.markets,
    market.membershipCapturedWallNs ≤ created ∧ market.postInit = .ok ()
  slim : parsed.slim.postInit = .ok ()
  metadata : parsed.metadata.postInit = .ok ()
  occurrences : parsed.occurrences = occurrencesOf (parsed.slim, parsed.metadata)

theorem parseBinding_read {created : Nat} {raw : Value} {parsed : ParsedBinding}
    (accepted : parseBinding unicode created manifestPin raw = .ok parsed) :
    parsed.Read created manifestPin := by
  simp only [parseBinding, bind_eq_ok, exists_unit, refuse_eq_ok, project_eq_ok, pure_eq_ok] at accepted
  obtain ⟨_, -, _, -, provider, -, _, -, _, -, event, -, home, first, away, second, _, -, -, -, _,
    ⟨slim, rfl⟩, _, ⟨metadata, rfl⟩, rfl⟩ := accepted
  have homeRead := parseMarket_read first
  have awayRead := parseMarket_read second
  refine ⟨rfl, rfl, ⟨rfl, home.market, away.market, rfl, homeRead.provider, awayRead.provider,
    homeRead.eventTicker, awayRead.eventTicker, rfl, rfl⟩, ?_, slim, metadata, rfl⟩
  simp only [List.forall_mem_cons]
  exact ⟨⟨homeRead.captured, homeRead.built⟩, ⟨awayRead.captured, awayRead.built⟩,
    fun _ none => absurd none List.not_mem_nil⟩

/-- A manifest that was read is the manifest of its bindings. -/
structure Manifest.Read (manifest : Manifest) (pin : ArtifactPin) : Prop where
  pinned : SafeId pin.artifactId
  count : 1 ≤ manifest.bindings.length ∧ manifest.bindings.length ≤ 128
  lengths : manifest.metadata.length = manifest.bindings.length
  parsed : ∀ pair ∈ manifest.bindings.zip manifest.metadata, ∃ p : ParsedBinding,
    p.Read manifest.created pin ∧ (p.slim, p.metadata) = pair
  identities : checkIdentities none .empty (manifest.bindings.zip manifest.metadata) = .ok ()
  players : validatePlayerBijection
    ((manifest.bindings.zip manifest.metadata).flatMap occurrencesOf) = .ok ()

theorem parseManifest_read {value : Value} {manifest : Manifest}
    (accepted : parseManifest unicode value manifestPin = .ok manifest) :
    manifest.Read manifestPin := by
  simp only [parseManifest, bind_eq_ok, exists_unit, refuse_eq_ok, not_or, not_lt, not_not, safeIdOf,
    pure_eq_ok, validateGlobalIdentity] at accepted
  obtain ⟨root, -, -, artifactId, ⟨_, -, safe, rfl⟩, same, created, -, raws, -, ⟨least, most⟩, parsed, each,
    ⟨identities, players⟩, rfl⟩ := accepted
  have read := collect_eq_ok.mp each
  have zipped : (parsed.map ParsedBinding.slim).zip (parsed.map ParsedBinding.metadata) =
      parsed.map fun p => (p.slim, p.metadata) := List.zip_map' ..
  have reads : ∀ p ∈ parsed, p.Read created manifestPin := by
    intro p inside
    obtain ⟨raw, -, accepted⟩ := collect_mem each inside
    exact parseBinding_read accepted
  refine ⟨same ▸ safe, ?_, by simp, ?_, identities, ?_⟩
  · rw [List.length_map, ← read.length_eq]
    exact ⟨least, most⟩
  · intro pair inside
    rw [zipped] at inside
    obtain ⟨p, member, rfl⟩ := List.mem_map.mp inside
    exact ⟨p, reads p member, rfl⟩
  · rw [zipped, List.flatMap_map]
    have listed : parsed.flatMap ParsedBinding.occurrences =
        parsed.flatMap fun p => occurrencesOf (p.slim, p.metadata) :=
      List.flatMap_congr fun p inside => (reads p inside).occurrences
    rw [← listed]
    exact players

/-- A review that was read of a manifest. -/
structure ReviewRead (review : BindingReviewDecision) (manifest : Manifest) (pin : ArtifactPin)
    (evidence : String) : Prop where
  pinned : IsSha256 pin.artifactSha256
  artifactId : review.bindingArtifactId = pin.artifactId
  artifactSha256 : review.bindingArtifactSha256 = pin.artifactSha256
  evidence : review.reviewEvidenceSha256 = evidence
  later : manifest.created ≤ review.reviewedWallNs
  created : review.reviewedWallNs ≤ review.reviewArtifactCreatedWallNs
  early : ∀ binding ∈ manifest.bindings,
    review.reviewArtifactCreatedWallNs ≤ binding.scheduledStartWallNs
  built : review.postInit = .ok ()

theorem parseReview_read {value : Value} {payload : List UInt8} {evidence : String}
    {manifest : Manifest} {review : BindingReviewDecision}
    (accepted : parseReview value payload reviewPin manifestPin evidence manifest = .ok review) :
    ReviewRead review manifest manifestPin evidence := by
  simp only [parseReview, digestOf, bind_eq_ok, exists_unit, refuse_eq_ok, not_or, not_lt, not_not,
    pure_eq_ok, project_eq_ok] at accepted
  obtain ⟨_, -, -, _, -, _, -, _, -, _, ⟨_, -, shaped, rfl⟩, _, -, _, -, _, -, _, -,
    ⟨-, artifactId, artifactSha256⟩, -, same, _, -, _, -, -, ⟨later, early, created⟩, -, built, rfl⟩ :=
      accepted
  refine ⟨artifactSha256 ▸ shaped, artifactId, artifactSha256, same, later, created, ?_, built⟩
  intro binding inside
  refine not_lt.mp fun late => early ⟨binding.scheduledStartWallNs, ?_, late⟩
  exact List.mem_append_left _ (List.mem_map_of_mem inside)

/-! ## What can be digested -/

theorem ArtifactPin.encodes (pin : ArtifactPin) : Encodes pin.py := by
  simp only [ArtifactPin.py, Encodes, EncodesFields, encodes_text, true_and]

theorem MatchBinding.encodes {binding : MatchBinding} (built : binding.postInit = .ok ()) :
    Encodes binding.py := by
  simp only [MatchBinding.postInit, bind_eq_ok, exists_unit, integer_eq_ok] at built
  obtain ⟨-, -, -, -, -, -, -, -, -, -, -, -, -, start, tolerance, created, -⟩ := built
  simp only [MatchBinding.py, MatchFormat.py, Encodes, EncodesFields, encodes_text, encodes_nat,
    true_and]
  exact ⟨start, tolerance, created, trivial⟩

theorem BindingMarketMetadata.encodes {market : BindingMarketMetadata}
    (built : market.postInit = .ok ()) : Encodes market.py := by
  simp only [BindingMarketMetadata.postInit, bind_eq_ok, exists_unit, integer_eq_ok] at built
  obtain ⟨-, -, -, -, -, -, -, -, -, -, -, captured, -⟩ := built
  simp only [BindingMarketMetadata.py, SettlementSemantics.py, SettlementTerms.texts, PlayerSide.py,
    Encodes, EncodesFields, encodesFields_append, encodes_text, encodes_nat, List.map_cons,
    List.map_nil, true_and, and_true]
  exact captured

theorem BindingMetadata.encodes {item : BindingMetadata}
    (built : ∀ market ∈ item.markets, market.postInit = .ok ()) : Encodes item.py := by
  have markets : Encodes (.tuple (item.markets.map BindingMarketMetadata.py)) := by
    refine (encodesAll_iff _).mpr fun v inside => ?_
    obtain ⟨market, member, rfl⟩ := List.mem_map.mp inside
    exact BindingMarketMetadata.encodes (built market member)
  have routes : Encodes (.tuple (item.authorizedRoutes.map BindingRoute.py)) := by
    refine (encodesAll_iff _).mpr fun v inside => ?_
    obtain ⟨route, -, rfl⟩ := List.mem_map.mp inside
    simp only [BindingRoute.py, PlayerSide.py, ContractSide.py, Encodes, EncodesFields, encodes_text,
      true_and]
  simp only [BindingMetadata.py, Encodes, EncodesFields, encodes_text, true_and]
  exact ⟨markets, routes, trivial⟩

theorem BindingReviewDecision.encodes {review : BindingReviewDecision}
    (built : review.postInit = .ok ()) : Encodes review.py := by
  simp only [BindingReviewDecision.postInit, bind_eq_ok, exists_unit, integer_eq_ok] at built
  obtain ⟨-, -, created, -, -, -, -, reviewed, -⟩ := built
  simp only [BindingReviewDecision.py, Encodes, EncodesFields, encodes_text, encodes_nat, true_and]
  exact ⟨created, reviewed, trivial⟩

/-- The bindings and metadata of a manifest that was read can be digested. -/
theorem Manifest.Read.encodes {manifest : Manifest} (read : manifest.Read manifestPin) :
    Encodes (.tuple (manifest.bindings.map MatchBinding.py)) ∧
      Encodes (.tuple (manifest.metadata.map BindingMetadata.py)) := by
  have first : (manifest.bindings.zip manifest.metadata).map Prod.fst = manifest.bindings :=
    List.map_fst_zip (le_of_eq read.lengths.symm)
  have second : (manifest.bindings.zip manifest.metadata).map Prod.snd = manifest.metadata :=
    List.map_snd_zip (le_of_eq read.lengths)
  constructor
  · refine (encodesAll_iff _).mpr fun v inside => ?_
    rw [← first, List.map_map] at inside
    obtain ⟨pair, member, rfl⟩ := List.mem_map.mp inside
    obtain ⟨p, parsed, rfl⟩ := read.parsed pair member
    exact MatchBinding.encodes parsed.slim
  · refine (encodesAll_iff _).mpr fun v inside => ?_
    rw [← second, List.map_map] at inside
    obtain ⟨pair, member, rfl⟩ := List.mem_map.mp inside
    obtain ⟨p, parsed, rfl⟩ := read.parsed pair member
    exact BindingMetadata.encodes fun market listed => (parsed.captured market listed).2

/-! ## The constructor accepts what was read -/

/-- The decoder's loop stands for the constructor's, on pairs that were read. -/
theorem checkIdentities_checkBindings {u : BindingUniverse} {pairs : List Pair}
    (read : ∀ pair ∈ pairs, Projected pair ∧ pair.1.bindingArtifactSha256 = u.rawArtifactSha256 ∧
      (∀ market ∈ pair.2.markets, market.membershipCapturedWallNs ≤ pair.1.artifactCreatedWallNs) ∧
      pair.1.artifactCreatedWallNs ≤ u.review.reviewedWallNs ∧
      u.review.reviewedWallNs ≤ u.review.reviewArtifactCreatedWallNs ∧
      u.review.reviewArtifactCreatedWallNs ≤ pair.1.scheduledStartWallNs) :
    ∀ {previous : Option (List String)} {seen : GlobalSeen},
      checkIdentities previous seen pairs = .ok () → u.checkBindings previous seen pairs = .ok () := by
  induction pairs with
  | nil => exact fun _ => rfl
  | cons pair rest ih =>
      obtain ⟨binding, item⟩ := pair
      intro previous seen checked
      obtain ⟨⟨projected, pinned, captured, made, reviewed, early⟩, later⟩ := List.forall_mem_cons.mp read
      obtain ⟨home, away, markets, agree⟩ := projected.markets
      obtain ⟨homeProvider, awayProvider, homeEvent, awayEvent, homeTicker, awayTicker⟩ := agree
      have markets : item.markets = [home, away] := markets
      rw [checkIdentities, markets] at checked
      simp only [bind_eq_ok, exists_unit, refuse_eq_ok] at checked
      obtain ⟨ordered, next, added, after⟩ := checked
      simp only [markets, List.forall_mem_cons] at captured
      have here : u.checkBinding previous seen binding item = .ok next := by
        have matchId : item.canonicalMatchId = binding.canonicalMatchId := projected.matchId
        simp only [BindingUniverse.checkBinding, markets, bind_eq_ok, exists_unit, refuse_eq_ok, not_or,
          not_not, not_lt, pure_eq_ok]
        exact ⟨pinned, ⟨matchId, homeProvider, awayProvider, homeEvent, awayEvent, homeTicker,
          awayTicker⟩, ordered, next, added, ⟨captured.1, captured.2.1⟩, ⟨made, reviewed, early⟩, rfl⟩
      rw [BindingUniverse.checkBindings, here, ok_bind]
      exact ih later after

/-- A manifest and a review that were read make a universe. -/
theorem parsed_accepted {manifest : Manifest} {review : BindingReviewDecision} {evidence : String}
    (read : manifest.Read manifestPin)
    (computed : computeBindingReviewEvidenceSha256 manifestPin manifest.bindings manifest.metadata =
      .ok evidence)
    (reviewed : ReviewRead review manifest manifestPin evidence) :
    ∃ digest, computeBindingUniverseSha256 manifestPin review manifest.bindings manifest.metadata =
      .ok digest ∧ (manifest.universe_ manifestPin review digest).postInit = .ok () := by
  obtain ⟨bindings, metadata⟩ := read.encodes
  obtain ⟨digest, sealed⟩ : ∃ digest, computeBindingUniverseSha256 manifestPin review
      manifest.bindings manifest.metadata = .ok digest := by
    refine (domainSha256_total _ _).mpr ?_
    exact ⟨encodes_text _, BindingReviewDecision.encodes reviewed.built, bindings, metadata, trivial⟩
  refine ⟨digest, sealed, ?_⟩
  have pairs : (manifest.universe_ manifestPin review digest).checkBindings none .empty
      (manifest.bindings.zip manifest.metadata) = .ok () := by
    refine checkIdentities_checkBindings ?_ read.identities
    intro pair inside
    have binding : pair.1 ∈ manifest.bindings := (List.of_mem_zip inside).1
    obtain ⟨p, parsed, rfl⟩ := read.parsed pair inside
    have made : p.slim.artifactCreatedWallNs = manifest.created := parsed.artifact
    refine ⟨parsed.projected, parsed.pinned, ?_, ?_, reviewed.created, reviewed.early _ binding⟩
    · intro market listed
      exact made ▸ (parsed.captured market listed).1
    · exact made ▸ reviewed.later
  have pin : manifestPin.postInit = .ok () := by
    simp only [ArtifactPin.postInit, bind_eq_ok, exists_unit, safeId_eq_ok, sha256_eq_ok]
    exact ⟨read.pinned, reviewed.pinned⟩
  simp only [BindingUniverse.postInit, bind_eq_ok, exists_unit, refuse_eq_ok, safeId_eq_ok, sha256_eq_ok,
    not_or, not_lt, not_not]
  exact ⟨read.pinned, reviewed.pinned, domainSha256_isSha256 sealed, read.count, read.lengths,
    ⟨reviewed.artifactId, reviewed.artifactSha256⟩, pairs, read.players, pin, evidence, computed,
    reviewed.evidence, digest, sealed, rfl⟩

end Decoder

/-- Every key of a decoded universe has one place, and the constructor refuses
nothing that was read from a manifest and a review. -/
theorem decoded_unique (unicode : Unicode) (manifestPin reviewPin : ArtifactPin) :
    (∀ manifestPayload reviewPayload u,
      decodeBindingUniverse unicode manifestPayload reviewPayload manifestPin reviewPin = .ok u →
        u.Unique) ∧
    ∀ manifestValue manifest evidence reviewValue reviewPayload review,
      parseManifest unicode manifestValue manifestPin = .ok manifest →
      computeBindingReviewEvidenceSha256 manifestPin manifest.bindings manifest.metadata =
        .ok evidence →
      parseReview reviewValue reviewPayload reviewPin manifestPin evidence manifest = .ok review →
        ∃ digest, computeBindingUniverseSha256 manifestPin review manifest.bindings
          manifest.metadata = .ok digest ∧
            (manifest.universe_ manifestPin review digest).postInit = .ok () := by
  constructor
  · intro manifestPayload reviewPayload u decoded
    simp only [decodeBindingUniverse, bind_eq_ok, exists_unit, project_eq_ok] at decoded
    obtain ⟨-, -, -, -, _, -, manifest, parsed, evidence, -, _, -, review, -, digest, -, accepted, rfl⟩ :=
      decoded
    have read := parseManifest_read parsed
    refine unique_of_accepted accepted fun item inside => ?_
    have second : (manifest.bindings.zip manifest.metadata).map Prod.snd = manifest.metadata :=
      List.map_snd_zip (le_of_eq read.lengths)
    have inside : item ∈ manifest.metadata := inside
    rw [← second] at inside
    obtain ⟨pair, member, rfl⟩ := List.mem_map.mp inside
    obtain ⟨p, made, rfl⟩ := read.parsed pair member
    exact made.metadata
  · intro manifestValue manifest evidence reviewValue reviewPayload review parsed computed reviewed
    exact parsed_accepted (parseManifest_read parsed) computed (parseReview_read reviewed)

/-! ## A manifest of one match that is decoded -/

theorem str_text (s : String) : str (text s) = s := by
  have back : ∀ c : Char, Char.ofNat c.toNat = c := Char.ofNat_toNat
  simp [str, text, Function.comp_def, back]

theorem text_injective {s t : String} : text s = text t ↔ s = t :=
  ⟨fun same => by rw [← str_text s, same, str_text], fun same => congrArg text same⟩

/-- The members of an object, named by strings. -/
def named (entries : List (String × Value)) : Members :=
  entries.map fun entry => (text entry.1, entry.2)

def told (s : String) : Value := .str (text s)

theorem shapeObject_named {entries : List (String × Value)} {keys : List String} {error : String}
    (same : entries.map Prod.fst = keys) :
    shapeObject (.obj (named entries)) keys error = .ok (named entries) := by
  have listed : (named entries).map Prod.fst = keys.map text := by
    rw [← same, named, List.map_map, List.map_map]
    rfl
  rw [shapeObject]
  refine bind_eq_ok.mpr ⟨(), refuse_ok _ (not_not.mpr ?_), rfl⟩
  rw [Journal.SameKeys, listed]
  exact ⟨fun _ inside => inside, fun _ inside => inside⟩

theorem field_named (entries : List (String × Value)) (key : String) :
    field (named entries) key =
      ((entries.find? fun entry => entry.1 == key).map Prod.snd).getD .null := by
  unfold field
  congr 1
  induction entries with
  | nil => rfl
  | cons entry rest ih =>
      have next : named (entry :: rest) = (text entry.1, entry.2) :: named rest := rfl
      rw [next, lookup, List.find?_cons]
      by_cases same : entry.1 = key
      · rw [if_pos (congrArg text same), beq_iff_eq.mpr same]
        rfl
      · rw [if_neg (fun equal => same (text_injective.mp equal)), beq_eq_false_iff_ne.mpr same]
        exact ih

theorem stringOf_told (s error : String) : stringOf (told s) error = .ok (text s) := rfl

theorem safeIdOf_told {s error : String} (safe : SafeId s) : safeIdOf (told s) error = .ok s := by
  simp only [safeIdOf, stringOf_told, ok_bind, str_text]
  exact bind_eq_ok.mpr ⟨(), refuse_ok _ (not_not.mpr safe), rfl⟩

theorem tickerOf_told {s error : String} (fits : Ticker s) : tickerOf (told s) error = .ok s := by
  simp only [tickerOf, stringOf_told, ok_bind, str_text]
  exact bind_eq_ok.mpr ⟨(), refuse_ok _ (not_not.mpr fits), rfl⟩

theorem digestOf_told {s error : String} (shaped : IsSha256 s) : digestOf (told s) error = .ok s := by
  simp only [digestOf, stringOf_told, ok_bind, str_text]
  exact bind_eq_ok.mpr ⟨(), refuse_ok _ (not_not.mpr shaped), rfl⟩

/-! ### Plain values survive being written -/

mutual
/-- Short ASCII strings, short integers and distinct keys. -/
def Plain : Value → Prop
  | .str s => Utf8.Ascii s ∧ s.length ≤ 64
  | .int n => n.natAbs < 10 ^ 19
  | .arr items => PlainItems items
  | .obj members => (members.map Prod.fst).Nodup ∧ PlainMembers members
  | _ => True
def PlainItems : List Value → Prop
  | [] => True
  | v :: rest => Plain v ∧ PlainItems rest
def PlainMembers : Members → Prop
  | [] => True
  | (k, v) :: rest => (Utf8.Ascii k ∧ k.length ≤ 32) ∧ Plain v ∧ PlainMembers rest
end

mutual
/-- The parts of a value, its members' keys included. -/
def parts : Value → Nat
  | .arr items => partsItems items + 1
  | .obj members => partsMembers members + 1
  | _ => 1
def partsItems : List Value → Nat
  | [] => 0
  | v :: rest => parts v + partsItems rest + 1
def partsMembers : Members → Nat
  | [] => 0
  | (_, v) :: rest => parts v + partsMembers rest + 1
end

mutual
theorem plain_written : ∀ {v : Value}, Plain v →
    Json.Readable v ∧ shortIntegers v = true ∧ Json.size v ≤ 800 * parts v
  | .null, _ => ⟨trivial, rfl, by simp [Json.size, parts]⟩
  | .bool _, _ => ⟨trivial, rfl, by simp [Json.size, parts]⟩
  | .int n, plain => by
      have digits : (Json.decimal n.natAbs).length ≤ 19 := Json.decimal_length (by decide) plain
      have written : (Json.integer n).length ≤ 20 := by
        cases n with
        | ofNat k => exact digits.trans (by decide)
        | negSucc k => exact Nat.succ_le_succ digits
      refine ⟨digits.trans (by decide), decide_eq_true plain, ?_⟩
      show (Json.integer n).length ≤ 800 * 1
      omega
  | .str s, ⟨low, short⟩ => by
      refine ⟨Utf8.ascii_survives low, rfl, ?_⟩
      show 12 * s.length + 2 ≤ 800 * 1
      omega
  | .arr items, plain => by
      obtain ⟨readable, integers, small⟩ := plainItems_written plain
      refine ⟨readable, integers, ?_⟩
      rw [Json.size, parts]
      omega
  | .obj members, ⟨distinct, plain⟩ => by
      obtain ⟨readable, integers, small⟩ := plainMembers_written plain
      refine ⟨⟨distinct, readable⟩, integers, ?_⟩
      rw [Json.size, parts]
      omega
theorem plainItems_written : ∀ {items : List Value}, PlainItems items →
    Json.ReadableItems items ∧ shortIntegersItems items = true ∧
      Json.sizeItems items ≤ 800 * partsItems items
  | [], _ => ⟨trivial, rfl, le_rfl⟩
  | _ :: _, ⟨first, later⟩ => by
      obtain ⟨readable, integers, small⟩ := plain_written first
      obtain ⟨readables, others, rest⟩ := plainItems_written later
      refine ⟨⟨readable, readables⟩, ?_, ?_⟩
      · rw [shortIntegersItems, integers, others]
        rfl
      · rw [Json.sizeItems, partsItems]
        omega
theorem plainMembers_written : ∀ {members : Members}, PlainMembers members →
    Json.ReadableMembers members ∧ shortIntegersMembers members = true ∧
      Json.sizeMembers members ≤ 800 * partsMembers members
  | [], _ => ⟨trivial, rfl, le_rfl⟩
  | (_, _) :: _, ⟨⟨low, short⟩, first, later⟩ => by
      obtain ⟨readable, integers, small⟩ := plain_written first
      obtain ⟨readables, others, rest⟩ := plainMembers_written later
      refine ⟨⟨Utf8.ascii_survives low, readable, readables⟩, ?_, ?_⟩
      · rw [shortIntegersMembers, integers, others]
        rfl
      · rw [Json.sizeMembers, partsMembers]
        omega
end

/-- A plain object is decoded from its rendering. -/
theorem decodeJson_plain {members : Members} (plain : Plain (.obj members)) (domain : String) :
    decodeJson (Utf8.ascii (Json.render (.obj members))) domain = .ok (.obj members) := by
  obtain ⟨readable, integers, -⟩ := plain_written plain
  have opened : ∃ rest, Json.render (.obj members) = 123 :: rest := by
    cases members with
    | nil => exact ⟨[125], rfl⟩
    | cons m rest => exact ⟨_, rfl⟩
  obtain ⟨rest, shape⟩ := opened
  have unmarked : ¬Journal.byteOrderMark <+: Utf8.ascii (Json.render (.obj members)) := by
    rw [shape]
    rintro ⟨more, same⟩
    exact absurd (List.cons.inj same).1 (by decide)
  have written : Utf8.decode (Utf8.ascii (Json.render (.obj members))) =
      some (Json.render (.obj members)) := Utf8.decode_ascii (Utf8.render_ascii _)
  rw [decodeJson, refuse_ok _ unmarked, ok_bind, written]
  simp only [Json.loads_render readable]
  show (refuse (shortIntegers (.obj members) = false) _ >>= fun _ => pure (Value.obj members)) = _
  rw [refuse_ok _ (by rw [integers]; decide)]
  rfl

theorem plain_length {members : Members} (plain : Plain (.obj members)) :
    1 ≤ (Utf8.ascii (Json.render (.obj members))).length ∧
      (Utf8.ascii (Json.render (.obj members))).length ≤ 800 * parts (.obj members) := by
  obtain ⟨-, -, small⟩ := plain_written plain
  rw [Utf8.ascii, List.length_map]
  refine ⟨?_, (Json.render_length _).trans small⟩
  cases members with
  | nil => decide
  | cons m rest => exact Nat.succ_le_succ (Nat.zero_le _)

/-- Names that are keys of a plain object. -/
def plainNames (names : List String) : Bool :=
  decide names.Nodup && names.all fun name =>
    (text name).all (fun c => decide (c < 128)) && decide ((text name).length ≤ 32)

theorem plain_named {entries : List (String × Value)} {keys : List String}
    (same : entries.map Prod.fst = keys) (names : plainNames keys = true)
    (values : ∀ entry ∈ entries, Plain entry.2) : Plain (.obj (named entries)) := by
  subst same
  rw [plainNames, Bool.and_eq_true, decide_eq_true_eq, List.all_eq_true] at names
  obtain ⟨distinct, each⟩ := names
  refine ⟨?_, ?_⟩
  · have keys : (named entries).map Prod.fst = (entries.map Prod.fst).map text := by
      rw [named, List.map_map, List.map_map]
      rfl
    rw [keys]
    exact distinct.map fun _ _ same => text_injective.mp same
  · clear distinct
    induction entries with
    | nil => trivial
    | cons entry rest ih =>
        rw [List.map_cons, List.forall_mem_cons, Bool.and_eq_true, decide_eq_true_eq,
          List.all_eq_true] at each
        obtain ⟨⟨low, short⟩, later⟩ := each
        exact ⟨⟨fun c inside => of_decide_eq_true (low c inside), short⟩,
          values entry List.mem_cons_self,
          ih (fun e inside => values e (List.mem_cons_of_mem _ inside)) later⟩

/-- A string of a plain value. -/
def plainString (s : String) : Bool :=
  (text s).all (fun c => decide (c < 128)) && decide ((text s).length ≤ 64)

theorem plain_told {s : String} (short : plainString s = true) : Plain (told s) := by
  rw [plainString, Bool.and_eq_true, decide_eq_true_eq, List.all_eq_true] at short
  exact ⟨fun c inside => of_decide_eq_true (short.1 c inside), short.2⟩

theorem plain_digest {s : String} (shaped : IsSha256 s) : Plain (told s) := by
  rw [IsSha256, matchesSha256, Bool.and_eq_true, decide_eq_true_eq, List.all_eq_true] at shaped
  have hex : Sha256.hexDigits.all (fun c => decide (c.toNat < 128)) = true := by decide
  refine ⟨?_, ?_⟩
  · intro c inside
    obtain ⟨d, member, rfl⟩ := List.mem_map.mp inside
    exact of_decide_eq_true
      (List.all_eq_true.mp hex d (List.contains_iff_mem.mp (shaped.2 d member)))
  · rw [text, List.length_map, shaped.1]

/-! ### The sample -/

def blank : String := "0000000000000000000000000000000000000000000000000000000000000000"

theorem blank_isSha256 : IsSha256 blank := by decide

theorem small_int {n : Nat} (small : n ≤ 10) : n < integerBound :=
  lt_of_le_of_lt small (by unfold integerBound; norm_num)

/-- The tables on ASCII texts. -/
def asciiTables : Unicode :=
  ⟨id, id, fun t => t.map fun c => if 65 ≤ c ∧ c ≤ 90 then c + 32 else c⟩

def samplePlayer (provider canonical name : String) : Value :=
  .obj (named [("provider_player_id", told provider), ("canonical_player_id", told canonical),
    ("display_name", told name), ("participant_type", told "player"),
    ("participant_status", told "confirmed")])

def sampleProvider : Value :=
  .obj (named [("sport", told "tennis"), ("competition_kind", told "real"),
    ("competitor_count", .int 2), ("source_id", told "provider"),
    ("revision_domain_id", told "points"), ("source_lineage_sha256", told blank),
    ("match_id", told "pm-1"), ("home_player", samplePlayer "ph-1" "ch-1" "A. Home"),
    ("away_player", samplePlayer "pa-1" "ca-1" "B. Away"), ("scheduled_start_wall_ns", .int 10),
    ("snapshot_sha256", told blank), ("snapshot_captured_wall_ns", .int 1)])

def sampleHome : Player := ⟨"ph-1", "ch-1", text "A. Home"⟩

def sampleAway : Player := ⟨"pa-1", "ca-1", text "B. Away"⟩

theorem one_integer (error : String) : integerOf (.int 1) error = .ok 1 := rfl

theorem sampleProvider_read : parseProvider asciiTables sampleProvider =
    .ok ⟨"provider", "points", blank, "pm-1", sampleHome, sampleAway, 10, blank, 1⟩ := by
  have home : parsePlayer asciiTables (samplePlayer "ph-1" "ch-1" "A. Home") = .ok sampleHome := by
    decide
  have away : parsePlayer asciiTables (samplePlayer "pa-1" "ca-1" "B. Away") = .ok sampleAway := by
    decide
  have source : ∀ e, safeIdOf (told "provider") e = .ok "provider" := fun _ => safeIdOf_told (by decide)
  have domain : ∀ e, safeIdOf (told "points") e = .ok "points" := fun _ => safeIdOf_told (by decide)
  have match_ : ∀ e, safeIdOf (told "pm-1") e = .ok "pm-1" := fun _ => safeIdOf_told (by decide)
  have two : ∀ e, integerOf (.int 2) e = .ok 2 := fun _ => rfl
  have ten : ∀ e, integerOf (.int 10) e = .ok 10 := fun _ => rfl
  rw [sampleProvider, parseProvider, @shapeObject_named _ providerKeys _ rfl, ok_bind]
  simp only [field_named, List.find?_cons, String.reduceBEq, Option.map_some, Option.getD_some,
    stringOf_told, ok_bind, source, domain, match_, home, away, one_integer, two, ten,
    digestOf_told blank_isSha256]
  exact bind_eq_ok.mpr ⟨(), refuse_ok _ (by simp), bind_eq_ok.mpr ⟨(), refuse_ok _ (by decide),
    bind_eq_ok.mpr ⟨(), refuse_ok _ (by decide), rfl⟩⟩⟩

def sampleCompetition : Value :=
  .obj (named [("tournament_id", told "tournament"), ("season_id", told "season"),
    ("draw_id", told "draw"), ("round_id", told "round"), ("tour_id", told "atp"),
    ("tier_id", told "tier"), ("surface", told "hard"), ("tournament_name", told "Open")])

theorem sampleCompetition_read : parseCompetition asciiTables sampleCompetition =
    .ok ⟨"tournament", "season", "draw", "round", "atp", "tier", "hard"⟩ := by
  decide

def sampleMatch : Value :=
  .obj (named [("match_type", told "singles"), ("product", told "match_winner"),
    ("format", told "standard_advantage_bo3_tb7_all_sets"), ("start_tolerance_ns", .int 1)])

theorem sampleMatch_read : parseMatch sampleMatch = .ok ⟨.standardAdvantageBo3Tb7AllSets, 1⟩ := by
  decide

/-- The settlement terms under a digest of their rules. -/
def sampleTerms (rules : String) : SettlementTerms where
  resultAuthority := "kalshi_finalized_market_result"
  naturalCompletion := "yes_if_named_player_final_winner"
  retirementAfterPoint := "void"
  walkoverBeforePoint := "void"
  defaultAfterPoint := "void"
  disqualificationAfterPoint := "void"
  cancellation := "void"
  postponement := "defer"
  abandonment := "void"
  amendment := "await_latest_finalized_result"
  voidTreatment := "no_directional_settlement"
  rawRulesSha256 := rules

def sampleSettlement (rules projection : String) : Members :=
  named (((sampleTerms rules).texts ++ [("projection_sha256", projection)]).map fun entry =>
    (entry.1, told entry.2))

theorem sampleTerms_valid {rules : String} (shaped : IsSha256 rules) :
    validateSettlementValues (sampleTerms rules) = .ok () := by
  simp [validateSettlementValues, sampleTerms, oneOf, settlementBinaryChoices,
    settlementAbandonmentChoices, shaped]

theorem sampleSettlement_read {rules : String} (shaped : IsSha256 rules) : ∃ projection,
    IsSha256 projection ∧ marketSemantics (sampleSettlement rules projection) =
      .ok ⟨sampleTerms rules, projection⟩ := by
  obtain ⟨projection, computed⟩ := (domainSha256_total "INCI-BINDING-SETTLEMENT-PROJECTION-SHA256-V1"
    (.tuple ((sampleTerms rules).texts.map fun entry => .text entry.2))).mpr (by
      simp [SettlementTerms.texts, Encodes, EncodesAll])
  have digest := domainSha256_isSha256 computed
  have projected : computeSettlementProjectionSha256 (sampleTerms rules) = .ok projection := by
    rw [computeSettlementProjectionSha256, sampleTerms_valid shaped]
    exact computed
  have built : SettlementSemantics.postInit ⟨sampleTerms rules, projection⟩ = .ok () := by
    simp only [SettlementSemantics.postInit, bind_eq_ok, exists_unit, sha256_eq_ok]
    exact ⟨sampleTerms_valid shaped, digest, projection, projected, refuse_ok _ (not_not.mpr rfl)⟩
  refine ⟨projection, digest, ?_⟩
  rw [marketSemantics, sampleSettlement, @shapeObject_named _ settlementKeys _ rfl, ok_bind]
  simp only [SettlementTerms.texts, sampleTerms, List.cons_append, List.nil_append, List.map_cons,
    List.map_nil, field_named, List.find?_cons, String.reduceBEq, Option.map_some, Option.getD_some,
    stringOf_told, ok_bind, digestOf_told shaped, digestOf_told digest, str_text]
  have terms : (⟨"kalshi_finalized_market_result", "yes_if_named_player_final_winner", "void", "void",
    "void", "void", "void", "defer", "void", "await_latest_finalized_result",
    "no_directional_settlement", rules⟩ : SettlementTerms) = sampleTerms rules := rfl
  rw [terms, projected]
  exact bind_eq_ok.mpr ⟨projection, rfl, bind_eq_ok.mpr ⟨(), refuse_ok _ (not_not.mpr rfl),
    project_eq_ok.mpr ⟨built, rfl⟩⟩⟩

def sampleText : Text := text "The named player wins the match."

def sampleRules : Text := text "A finished match settles."

def sampleTextSha256 : String := Sha256.hexdigest (utf8 sampleText)

def sampleRulesSha256 : String := Sha256.hexdigest (utf8 sampleRules)

theorem sampleTextSha256_isSha256 : IsSha256 sampleTextSha256 := hexdigest_isSha256 _

theorem sampleRulesSha256_isSha256 : IsSha256 sampleRulesSha256 := hexdigest_isSha256 _

def sampleEvidence : Value :=
  .obj (named [("source_id", told "catalog"), ("source_version", told "v1"),
    ("captured_wall_ns", .int 1), ("market_text", .str sampleText),
    ("market_text_sha256", told sampleTextSha256), ("settlement_rule_text", .str sampleRules),
    ("settlement_rule_text_sha256", told sampleRulesSha256)])

theorem catalog_safe (error : String) : safeIdOf (told "catalog") error = .ok "catalog" :=
  safeIdOf_told (by decide)

theorem version_safe (error : String) : safeIdOf (told "v1") error = .ok "v1" :=
  safeIdOf_told (by decide)

theorem sampleEvidence_read : parseEvidence asciiTables sampleEvidence =
    .ok ⟨1, sampleText, sampleTextSha256, sampleRules, sampleRulesSha256⟩ := by
  have market : displayLines asciiTables (.str sampleText) "binding_manifest_value" 8192 =
      .ok sampleText := by decide
  have rules : displayLines asciiTables (.str sampleRules) "binding_manifest_value" 32768 =
      .ok sampleRules := by decide
  rw [sampleEvidence, parseEvidence, @shapeObject_named _ evidenceKeys _ rfl, ok_bind]
  simp [field_named, catalog_safe, version_safe, one_integer, market, rules,
    digestOf_told sampleTextSha256_isSha256, digestOf_told sampleRulesSha256_isSha256]

def sampleRoute (side marketTicker : String) : Value :=
  .obj (named [("player_side", told side), ("market_ticker", told marketTicker),
    ("contract_side", told "yes")])

def sampleRoutes : Value := .arr [sampleRoute "home" "EV-1-H", sampleRoute "away" "EV-1-A"]

theorem sampleRoute_read {side : PlayerSide} {market : BindingMarketMetadata}
    (listed : Ticker market.marketTicker) :
    parseRoute side market (sampleRoute side.value market.marketTicker) =
      .ok ⟨side, market.marketTicker, .yes⟩ := by
  rw [parseRoute, sampleRoute, @shapeObject_named _ routeKeys _ rfl, ok_bind]
  simp only [field_named, List.find?_cons, String.reduceBEq, Option.map_some, Option.getD_some,
    stringOf_told, ok_bind]
  refine bind_eq_ok.mpr ⟨(), refuse_ok _ (not_not.mpr rfl), ?_⟩
  simp [authorizedRoute, BindingRoute.postInit, listed]

/-- The event of the sample, before its markets. -/
def sampleEvent (homeMarket awayMarket : Value) : EventPart :=
  ⟨"KXATP", "EV-1", "event-1", 10, blank, 1, blank, homeMarket, awayMarket, sampleRoutes⟩

def sampleKalshi (homeMarket awayMarket : Value) : Value :=
  .obj (named [("series_ticker", told "KXATP"), ("event_ticker", told "EV-1"),
    ("event_id", told "event-1"), ("scheduled_start_wall_ns", .int 10), ("event_sha256", told blank),
    ("event_captured_wall_ns", .int 1), ("event_catalog_sha256", told blank),
    ("route_authority", told "direct_yes_only"), ("markets", .arr [homeMarket, awayMarket]),
    ("authorized_routes", sampleRoutes)])

theorem sampleKalshi_read (homeMarket awayMarket : Value) :
    parseEvent (sampleKalshi homeMarket awayMarket) = .ok (sampleEvent homeMarket awayMarket) := by
  have series : ∀ e, tickerOf (told "KXATP") e = .ok "KXATP" := fun _ => tickerOf_told (by decide)
  have event : ∀ e, tickerOf (told "EV-1") e = .ok "EV-1" := fun _ => tickerOf_told (by decide)
  have eventId : ∀ e, safeIdOf (told "event-1") e = .ok "event-1" := fun _ => safeIdOf_told (by decide)
  have start : ∀ e, integerOf (.int 10) e = .ok 10 := fun _ => rfl
  have pair : ∀ e, shapePair (.arr [homeMarket, awayMarket]) e = .ok (homeMarket, awayMarket) :=
    fun _ => rfl
  rw [sampleKalshi, parseEvent, @shapeObject_named _ kalshiKeys _ rfl, ok_bind]
  simp only [field_named, List.find?_cons, String.reduceBEq, Option.map_some, Option.getD_some,
    stringOf_told, ok_bind, series, event, eventId, one_integer, start, pair,
    digestOf_told blank_isSha256]
  exact bind_eq_ok.mpr ⟨(), refuse_ok _ (not_not.mpr rfl), rfl⟩

/-- The membership of a market of the sample event. -/
def sampleMembership (marketTicker marketId projection : String) : Value :=
  .obj (named [("series_ticker", told "KXATP"), ("event_ticker", told "EV-1"),
    ("event_id", told "event-1"), ("market_ticker", told marketTicker),
    ("market_id", told marketId), ("product", told "match_winner"),
    ("event_catalog_sha256", told blank), ("source_id", told "catalog"),
    ("source_version", told "v1"), ("captured_wall_ns", .int 1),
    ("membership_evidence_sha256", told blank), ("membership_projection_sha256", told projection)])

def membershipPart (projection : String) : MembershipPart := ⟨"catalog", "v1", 1, blank, projection⟩

def sampleMarket (side : PlayerSide) (player : Player)
    (marketTicker marketId membership settlement : String) : Value :=
  .obj (named [("market_ticker", told marketTicker), ("market_id", told marketId),
    ("yes_player_side", told side.value), ("yes_provider_player_id", told player.providerPlayerId),
    ("yes_canonical_player_id", told player.canonicalPlayerId), ("yes_outcome", told "wins_match"),
    ("membership", sampleMembership marketTicker marketId membership),
    ("settlement", .obj (sampleSettlement sampleRulesSha256 settlement)),
    ("market_evidence", sampleEvidence)])

section Market

variable {homeMarket awayMarket : Value} {side : PlayerSide} {player : Player}
  {marketTicker marketId : String}

theorem sampleMembership_read {projection : String} (shaped : IsSha256 projection) :
    parseMembership (sampleEvent homeMarket awayMarket) marketTicker marketId
      (sampleMembership marketTicker marketId projection) = .ok (membershipPart projection) := by
  have agrees : ∀ (members : Members) (key s : String), field members key = told s →
      checkMembershipField members key s = .ok () := by
    intro members key s held
    rw [checkMembershipField, held]
    exact refuse_ok _ (not_not.mpr rfl)
  rw [sampleMembership, parseMembership, @shapeObject_named _ membershipKeys _ rfl, ok_bind]
  simp [field_named, agrees, sampleEvent, membershipPart, catalog_safe, version_safe, one_integer,
    digestOf_told blank_isSha256, digestOf_told shaped]

/-- The sample market's metadata. -/
def marketOf (side : PlayerSide) (player : Player)
    (marketTicker marketId membership settlement : String) : BindingMarketMetadata :=
  marketMetadata (sampleEvent .null .null) side player marketTicker marketId
    (membershipPart membership) sampleTextSha256 sampleRulesSha256
    ⟨sampleTerms sampleRulesSha256, settlement⟩

theorem sampleMembership_digest (listed : Ticker marketTicker) (known : SafeId marketId) :
    ∃ membership, IsSha256 membership ∧ ∀ t u s, computeMembershipProjectionSha256
      (marketMetadata (sampleEvent homeMarket awayMarket) side player marketTicker marketId
        (membershipPart membership) t u s) = .ok membership := by
  obtain ⟨membership, computed⟩ := (domainSha256_total "INCI-BINDING-MEMBERSHIP-PROJECTION-SHA256-V1"
    (.tuple [.text "KXATP", .text "EV-1", .text "event-1", .text marketTicker, .text marketId,
      .text "match_winner", .text blank, .text "catalog", .text "v1", .nat 1, .text blank])).mpr (by
        simp [Encodes, EncodesAll, small_int])
  refine ⟨membership, domainSha256_isSha256 computed, fun t u s => ?_⟩
  simp only [computeMembershipProjectionSha256, marketMetadata, sampleEvent, membershipPart, bind_eq_ok,
    exists_unit, ticker_eq_ok, safeId_eq_ok, sha256_eq_ok, integer_eq_ok]
  exact ⟨by decide, by decide, by decide, listed, known, refuse_ok _ (not_not.mpr rfl), blank_isSha256,
    by decide, by decide, small_int (by decide), blank_isSha256, computed⟩

/-- A market of the sample is read to its metadata. -/
theorem sampleMarket_read {settlement : String} (listed : Ticker marketTicker)
    (known : SafeId marketId) (provider : SafeId player.providerPlayerId)
    (canonical : SafeId player.canonicalPlayerId)
    (settled : marketSemantics (sampleSettlement sampleRulesSha256 settlement) =
      .ok ⟨sampleTerms sampleRulesSha256, settlement⟩) :
    ∃ membership, IsSha256 membership ∧ ∀ homeMarket awayMarket,
      parseMarket asciiTables (sampleEvent homeMarket awayMarket) 2 side player
        (sampleMarket side player marketTicker marketId membership settlement) =
          .ok ⟨marketOf side player marketTicker marketId membership settlement, [1, 1]⟩ := by
  obtain ⟨membership, digest, projected⟩ :=
    @sampleMembership_digest .null .null side player _ _ listed known
  have built : (marketOf side player marketTicker marketId membership settlement).postInit = .ok () := by
    simp only [BindingMarketMetadata.postInit, marketOf, projected, ok_bind]
    simp only [marketMetadata, sampleEvent, membershipPart, bind_eq_ok, exists_unit, ticker_eq_ok,
      safeId_eq_ok, sha256_eq_ok, integer_eq_ok]
    exact ⟨by decide, by decide, by decide, listed, known, provider, canonical,
      refuse_ok _ (not_not.mpr rfl), blank_isSha256, by decide, by decide, small_int (by decide),
      blank_isSha256, digest, sampleTextSha256_isSha256, sampleRulesSha256_isSha256,
      refuse_ok _ (not_not.mpr rfl), refuse_ok _ (not_not.mpr rfl)⟩
  refine ⟨membership, digest, fun homeMarket awayMarket => ?_⟩
  have read : parseMembership (sampleEvent homeMarket awayMarket) marketTicker marketId
      (sampleMembership marketTicker marketId membership) = .ok (membershipPart membership) :=
    sampleMembership_read digest
  rw [parseMarket, sampleMarket, @shapeObject_named _ marketKeys _ rfl, ok_bind]
  simp only [field_named, List.find?_cons, String.reduceBEq, Option.map_some, Option.getD_some]
  refine bind_eq_ok.mpr ⟨_, tickerOf_told listed, bind_eq_ok.mpr ⟨_, safeIdOf_told known, ?_⟩⟩
  refine bind_eq_ok.mpr ⟨_, rfl, bind_eq_ok.mpr ⟨_, rfl, bind_eq_ok.mpr ⟨_, rfl, bind_eq_ok.mpr
    ⟨_, rfl, bind_eq_ok.mpr ⟨(), refuse_ok _ (by simp), bind_eq_ok.mpr ⟨_, read, ?_⟩⟩⟩⟩⟩⟩
  have projected : ∀ t u s, computeMembershipProjectionSha256 (marketMetadata
      (sampleEvent homeMarket awayMarket) side player marketTicker marketId (membershipPart membership)
      t u s) = .ok membership := projected
  refine bind_eq_ok.mpr ⟨_, projected _ _ _, bind_eq_ok.mpr ⟨(), refuse_ok _ (not_not.mpr rfl), ?_⟩⟩
  refine bind_eq_ok.mpr ⟨_, @shapeObject_named _ settlementKeys _ rfl, bind_eq_ok.mpr ⟨_, settled, ?_⟩⟩
  refine bind_eq_ok.mpr ⟨_, sampleEvidence_read, bind_eq_ok.mpr ⟨(), refuse_ok _ ?_, ?_⟩⟩
  · simp [sampleTerms, sampleTextSha256, sampleRulesSha256, membershipPart]
  · exact bind_eq_ok.mpr ⟨_, project_eq_ok.mpr ⟨built, rfl⟩, rfl⟩

end Market

def sampleBinding (homeMarket awayMarket : Value) : Value :=
  .obj (named [("canonical_match_id", told "match-1"), ("provider", sampleProvider),
    ("competition", sampleCompetition), ("match", sampleMatch),
    ("kalshi", sampleKalshi homeMarket awayMarket)])

/-- The binding of the sample under the digest of its manifest. -/
def sampleSlim (digest : String) : MatchBinding where
  providerMatchId := "pm-1"
  canonicalMatchId := "match-1"
  providerSourceId := "provider"
  revisionDomainId := "points"
  sourceLineageSha256 := blank
  providerHomePlayerId := "ph-1"
  providerAwayPlayerId := "pa-1"
  kalshiEventTicker := "EV-1"
  homeMarketTicker := "EV-1-H"
  awayMarketTicker := "EV-1-A"
  matchFormat := .standardAdvantageBo3Tb7AllSets
  scheduledStartWallNs := 10
  startToleranceNs := 1
  artifactCreatedWallNs := 2
  bindingArtifactSha256 := digest

/-- The metadata of the sample under the digests of its markets. -/
def sampleMetadata (first second settlement : String) : BindingMetadata where
  canonicalMatchId := "match-1"
  canonicalHomePlayerId := "ch-1"
  canonicalAwayPlayerId := "ca-1"
  tournamentId := "tournament"
  seasonId := "season"
  drawId := "draw"
  roundId := "round"
  tourId := "atp"
  tierId := "tier"
  surface := "hard"
  providerSnapshotSha256 := blank
  kalshiEventSha256 := blank
  markets := [marketOf .home sampleHome "EV-1-H" "market-1h" first settlement,
    marketOf .away sampleAway "EV-1-A" "market-1a" second settlement]
  authorizedRoutes := [⟨.home, "EV-1-H", .yes⟩, ⟨.away, "EV-1-A", .yes⟩]

def sampleParsed (digest first second settlement : String) : ParsedBinding where
  slim := sampleSlim digest
  metadata := sampleMetadata first second settlement
  kalshiStart := 10
  occurrences := occurrencesOf (sampleSlim digest, sampleMetadata first second settlement)

theorem sampleTickers : Ticker "EV-1" ∧ Ticker "EV-1-H" ∧ Ticker "EV-1-A" := by decide

theorem sampleSlim_valid {digest : String} (pinned : IsSha256 digest) :
    (sampleSlim digest).postInit = .ok () := by
  obtain ⟨event, home, away⟩ := sampleTickers
  simp only [MatchBinding.postInit, sampleSlim, bind_eq_ok, exists_unit, safeId_eq_ok, ticker_eq_ok,
    sha256_eq_ok, integer_eq_ok]
  exact ⟨by decide, by decide, by decide, by decide, blank_isSha256, by decide, by decide,
    refuse_ok _ (by decide), event, home, away, refuse_ok _ (by decide), refuse_ok _ (by decide),
    small_int (by decide), small_int (by decide), small_int (by decide), refuse_ok _ (by decide), pinned⟩

theorem sampleMetadata_valid (first second settlement : String) :
    (sampleMetadata first second settlement).postInit = .ok () := by
  obtain ⟨-, home, away⟩ := sampleTickers
  simp only [BindingMetadata.postInit, sampleMetadata, bind_eq_ok, exists_unit, safeId_eq_ok,
    sha256_eq_ok, oneOf, authorizedRoute, BindingRoute.postInit, ticker_eq_ok]
  refine ⟨by decide, by decide, by decide, refuse_ok _ (by decide), by decide, by decide, by decide,
    by decide, by decide, by decide, refuse_ok _ (by decide), blank_isSha256, blank_isSha256,
    refuse_ok _ (not_not.mpr rfl), refuse_ok _ ?_, ?_⟩
  · simp [marketOf, marketMetadata, sampleHome, sampleAway, sampleEvent]
  · simp [marketOf, marketMetadata, home, away]

theorem sampleParsed_identity (digest first second settlement : String) :
    validateGlobalIdentity [(sampleParsed digest first second settlement).slim]
      [(sampleParsed digest first second settlement).metadata]
      (sampleParsed digest first second settlement).occurrences = .ok () := by
  simp [validateGlobalIdentity, checkIdentities, GlobalSeen.add, GlobalSeen.empty, insertNew,
    validatePlayerBijection, checkFunctional, marketOf, marketMetadata, sampleHome, sampleAway,
    sampleParsed, sampleSlim, sampleMetadata, occurrencesOf]

theorem sampleBinding_read {homeMarket awayMarket : Value} {digest first second settlement : String}
    (pinned : IsSha256 digest)
    (homeRead : parseMarket asciiTables (sampleEvent homeMarket awayMarket) 2 .home sampleHome
      homeMarket = .ok ⟨marketOf .home sampleHome "EV-1-H" "market-1h" first settlement, [1, 1]⟩)
    (awayRead : parseMarket asciiTables (sampleEvent homeMarket awayMarket) 2 .away sampleAway
      awayMarket = .ok ⟨marketOf .away sampleAway "EV-1-A" "market-1a" second settlement, [1, 1]⟩) :
    parseBinding asciiTables 2 ⟨"artifact", digest⟩ (sampleBinding homeMarket awayMarket) =
      .ok (sampleParsed digest first second settlement) := by
  have match_ : ∀ e, safeIdOf (told "match-1") e = .ok "match-1" := fun _ => safeIdOf_told (by decide)
  have homeRoute : parseRoute .home (marketOf .home sampleHome "EV-1-H" "market-1h" first settlement)
      (sampleRoute "home" "EV-1-H") = _ := sampleRoute_read sampleTickers.2.1
  have awayRoute : parseRoute .away (marketOf .away sampleAway "EV-1-A" "market-1a" second settlement)
      (sampleRoute "away" "EV-1-A") = _ := sampleRoute_read sampleTickers.2.2
  have routes : parseRoutes (marketOf .home sampleHome "EV-1-H" "market-1h" first settlement)
      (marketOf .away sampleAway "EV-1-A" "market-1a" second settlement) sampleRoutes =
        .ok [⟨.home, "EV-1-H", .yes⟩, ⟨.away, "EV-1-A", .yes⟩] :=
    bind_eq_ok.mpr ⟨_, rfl, bind_eq_ok.mpr ⟨_, homeRoute, bind_eq_ok.mpr ⟨_, awayRoute, rfl⟩⟩⟩
  rw [sampleBinding, parseBinding, @shapeObject_named _ bindingKeys _ rfl, ok_bind]
  simp only [field_named, List.find?_cons, String.reduceBEq, Option.map_some, Option.getD_some,
    ok_bind, match_, sampleProvider_read, sampleCompetition_read, sampleMatch_read, sampleKalshi_read]
  have homeRead : parseMarket asciiTables (sampleEvent homeMarket awayMarket) 2 .home sampleHome
    (sampleEvent homeMarket awayMarket).homeMarket = _ := homeRead
  have awayRead : parseMarket asciiTables (sampleEvent homeMarket awayMarket) 2 .away sampleAway
    (sampleEvent homeMarket awayMarket).awayMarket = _ := awayRead
  rw [homeRead, ok_bind, awayRead, ok_bind,
    show (sampleEvent homeMarket awayMarket).routes = sampleRoutes from rfl, routes, ok_bind]
  exact bind_eq_ok.mpr ⟨(), refuse_ok _ (by simp [sampleEvent]), bind_eq_ok.mpr ⟨(),
    refuse_ok _ (by simp [sampleEvent]), bind_eq_ok.mpr ⟨sampleSlim digest,
      project_eq_ok.mpr ⟨sampleSlim_valid pinned, rfl⟩, bind_eq_ok.mpr
        ⟨sampleMetadata first second settlement,
          project_eq_ok.mpr ⟨sampleMetadata_valid first second settlement, rfl⟩, rfl⟩⟩⟩⟩

/-- A manifest of one match. -/
def sampleManifest (homeMarket awayMarket : Value) : Members :=
  named [("schema_version", .int 1), ("artifact_id", told "artifact"),
    ("artifact_created_wall_ns", .int 2), ("bindings", .arr [sampleBinding homeMarket awayMarket])]

theorem artifact_safe (error : String) : safeIdOf (told "artifact") error = .ok "artifact" :=
  safeIdOf_told (by decide)

theorem sampleManifest_read {homeMarket awayMarket : Value} {digest : String} {parsed : ParsedBinding}
    (read : parseBinding asciiTables 2 ⟨"artifact", digest⟩ (sampleBinding homeMarket awayMarket) =
      .ok parsed)
    (known : validateGlobalIdentity [parsed.slim] [parsed.metadata] parsed.occurrences = .ok ()) :
    parseManifest asciiTables (.obj (sampleManifest homeMarket awayMarket)) ⟨"artifact", digest⟩ =
      .ok ⟨2, [parsed.slim], [parsed.metadata], [parsed.kalshiStart]⟩ := by
  have created : ∀ e, integerOf (.int 2) e = .ok 2 := fun _ => rfl
  have listed : ∀ e, shapeList (.arr [sampleBinding homeMarket awayMarket]) e =
      .ok [sampleBinding homeMarket awayMarket] := fun _ => rfl
  have collected : collect (parseBinding asciiTables 2 ⟨"artifact", digest⟩)
      [sampleBinding homeMarket awayMarket] = .ok [parsed] := by
    rw [collect, read]
    rfl
  rw [parseManifest, sampleManifest, @shapeObject_named _ rootKeys _ rfl, ok_bind]
  simp only [checkVersion, field_named, List.find?_cons, String.reduceBEq, Option.map_some,
    Option.getD_some]
  refine bind_eq_ok.mpr ⟨(), refuse_ok _ (by decide), bind_eq_ok.mpr ⟨_, artifact_safe _, ?_⟩⟩
  refine bind_eq_ok.mpr ⟨(), refuse_ok _ (not_not.mpr rfl), bind_eq_ok.mpr ⟨_, created _, ?_⟩⟩
  refine bind_eq_ok.mpr ⟨_, listed _, bind_eq_ok.mpr ⟨(), refuse_ok _ (by simp), ?_⟩⟩
  refine bind_eq_ok.mpr ⟨_, collected, ?_⟩
  rw [List.map_singleton, List.map_singleton, List.map_singleton, List.flatMap_singleton, known]
  rfl

/-- The review terms of the sample manifest. -/
def sampleReviewTerms (digest evidence : String) : ReviewTerms where
  reviewArtifactId := "review"
  reviewArtifactCreatedWallNs := 4
  bindingArtifactId := "artifact"
  bindingArtifactSha256 := digest
  decision := "approved"
  reviewerId := "reviewer"
  reviewedWallNs := 3
  reviewEvidenceSha256 := evidence

def sampleReview (digest evidence : String) : Members :=
  named [("schema_version", .int 1), ("artifact_id", told "review"),
    ("artifact_created_wall_ns", .int 4), ("binding_artifact_id", told "artifact"),
    ("binding_artifact_sha256", told digest), ("decision", told "approved"),
    ("reviewer_id", told "reviewer"), ("reviewed_wall_ns", .int 3),
    ("review_evidence_sha256", told evidence)]

def sampleReviewPayload (digest evidence : String) : List UInt8 :=
  Utf8.ascii (Json.render (.obj (sampleReview digest evidence)))

theorem sampleReview_canonical {digest evidence : String} (pinned : IsSha256 digest)
    (sealed : IsSha256 evidence) :
    canonicalBindingReviewArtifactBytes (sampleReviewTerms digest evidence) =
      .ok (sampleReviewPayload digest evidence) := by
  simp only [canonicalBindingReviewArtifactBytes, sampleReviewTerms, bind_eq_ok, exists_unit,
    safeId_eq_ok, sha256_eq_ok, integer_eq_ok]
  exact ⟨by decide, small_int (by decide), by decide, pinned, by decide, by decide, small_int (by decide),
    sealed, rfl⟩

theorem sampleReview_read {digest evidence : String} {slim : MatchBinding} {item : BindingMetadata}
    (pinned : IsSha256 digest) (sealed : IsSha256 evidence) (start : slim.scheduledStartWallNs = 10)
    (created : slim.artifactCreatedWallNs = 2)
    (captured : ∀ market ∈ item.markets, market.membershipCapturedWallNs = 1) :
    ∃ review, parseReview (.obj (sampleReview digest evidence)) (sampleReviewPayload digest evidence)
      ⟨"review", Sha256.hexdigest (sampleReviewPayload digest evidence)⟩ ⟨"artifact", digest⟩ evidence
        ⟨2, [slim], [item], [10]⟩ = .ok review := by
  have canonical := sampleReview_canonical pinned sealed
  have computed : computeBindingReviewArtifactSha256 (sampleReviewTerms digest evidence) =
      .ok (Sha256.hexdigest (sampleReviewPayload digest evidence)) := by
    rw [computeBindingReviewArtifactSha256, canonical]
    rfl
  have review : ∀ e, safeIdOf (told "review") e = .ok "review" := fun _ => safeIdOf_told (by decide)
  have reviewer : ∀ e, safeIdOf (told "reviewer") e = .ok "reviewer" :=
    fun _ => safeIdOf_told (by decide)
  have four : ∀ e, integerOf (.int 4) e = .ok 4 := fun _ => rfl
  have three : ∀ e, integerOf (.int 3) e = .ok 3 := fun _ => rfl
  have built : BindingReviewDecision.postInit { sampleReviewTerms digest evidence with
      reviewArtifactSha256 := Sha256.hexdigest (sampleReviewPayload digest evidence) } = .ok () := by
    simp only [BindingReviewDecision.postInit, bind_eq_ok, exists_unit, safeId_eq_ok, sha256_eq_ok,
      integer_eq_ok, sampleReviewTerms]
    exact ⟨by decide, hexdigest_isSha256 _, small_int (by decide), by decide, pinned,
      refuse_ok _ (by decide), by decide, small_int (by decide), sealed, refuse_ok _ (by decide), _,
      computed, refuse_ok _ (not_not.mpr rfl)⟩
  rw [parseReview, sampleReview, @shapeObject_named _ reviewKeys _ rfl, ok_bind]
  simp only [checkVersion, field_named, List.find?_cons, String.reduceBEq, Option.map_some,
    Option.getD_some, review, reviewer, artifact_safe, four, three, stringOf_told, digestOf_told pinned,
    digestOf_told sealed, str_text, ok_bind]
  have terms : (⟨"review", 4, "artifact", digest, "approved", "reviewer", 3, evidence⟩ : ReviewTerms) =
    sampleReviewTerms digest evidence := rfl
  rw [terms, canonical, computed]
  refine ⟨{ sampleReviewTerms digest evidence with
    reviewArtifactSha256 := Sha256.hexdigest (sampleReviewPayload digest evidence) }, ?_⟩
  refine bind_eq_ok.mpr ⟨(), refuse_ok _ (by decide), ?_⟩
  refine bind_eq_ok.mpr ⟨(), refuse_ok _ (by simp), bind_eq_ok.mpr ⟨(), refuse_ok _ (by simp), ?_⟩⟩
  refine bind_eq_ok.mpr ⟨(), refuse_ok _ (by simp), bind_eq_ok.mpr ⟨_, rfl, bind_eq_ok.mpr ⟨_, rfl, ?_⟩⟩⟩
  refine bind_eq_ok.mpr ⟨(), refuse_ok _ (by simp), ?_⟩
  refine bind_eq_ok.mpr ⟨(), refuse_ok _ (by simp [start]), ?_⟩
  refine bind_eq_ok.mpr ⟨(), refuse_ok _ ?_, project_eq_ok.mpr ⟨built, rfl⟩⟩
  simp only [List.zip_cons_cons, List.zip_nil_right, List.mem_singleton, exists_eq_left, created, not_or,
    not_exists, not_and, not_lt]
  exact ⟨fun market inside => by rw [captured market inside]; decide, by decide⟩

/-- The strings the sample is written with. -/
def sampleWords : List String :=
  ["tennis", "real", "provider", "points", "pm-1", "ph-1", "ch-1", "A. Home", "pa-1", "ca-1", "B. Away",
    "player", "confirmed", "tournament", "season", "draw", "round", "atp", "tier", "hard", "Open",
    "singles", "match_winner", "standard_advantage_bo3_tb7_all_sets", "home", "away", "EV-1-H", "EV-1-A",
    "market-1h", "market-1a", "yes", "KXATP", "EV-1", "event-1", "catalog", "v1", "direct_yes_only",
    "wins_match", "kalshi_finalized_market_result", "yes_if_named_player_final_winner", "void", "defer",
    "await_latest_finalized_result", "no_directional_settlement", "The named player wins the match.",
    "A finished match settles.", "match-1", "artifact", "review", "approved", "reviewer"]

theorem sampleWords_plain : sampleWords.all plainString = true := by
  simp only [sampleWords, plainString, List.all_cons, List.all_nil, Json.text_ofList]
  decide

theorem word_told : ∀ s ∈ sampleWords, Plain (told s) :=
  fun s used => plain_told (List.all_eq_true.mp sampleWords_plain s used)

/-- The keys of the objects of a manifest and of a review. -/
def schemaKeys : List (List String) :=
  [rootKeys, bindingKeys, providerKeys, playerKeys, competitionKeys, matchKeys, kalshiKeys, marketKeys,
    membershipKeys, settlementKeys, evidenceKeys, routeKeys, reviewKeys]

theorem schemaKeys_plain : schemaKeys.all plainNames = true := by
  simp only [schemaKeys, plainNames, rootKeys, bindingKeys, providerKeys, playerKeys,
    competitionKeys, matchKeys, kalshiKeys, marketKeys, membershipKeys, settlementKeys,
    evidenceKeys, routeKeys, reviewKeys, List.all_cons, List.all_nil, Json.text_ofList]
  decide

theorem plain_keys {keys : List String} (used : keys ∈ schemaKeys) : plainNames keys = true :=
  List.all_eq_true.mp schemaKeys_plain keys used

theorem plain_blank : Plain (told blank) := plain_digest blank_isSha256

theorem plain_int (n : Int) : Plain (.int n) ↔ n.natAbs < 10 ^ 19 := Iff.rfl

/-- The parts of the sample that hold no computed digest are plain. -/
theorem samplePlayer_plain {provider canonical name : String} (first : Plain (told provider))
    (second : Plain (told canonical)) (third : Plain (told name)) :
    Plain (samplePlayer provider canonical name) := by
  have words := word_told
  simp only [sampleWords, List.forall_mem_cons] at words
  refine @plain_named _ playerKeys rfl (plain_keys (by simp [schemaKeys])) ?_
  simp [words, first, second, third]

theorem sampleProvider_plain : Plain sampleProvider := by
  have words := word_told
  simp only [sampleWords, List.forall_mem_cons] at words
  refine @plain_named _ providerKeys rfl (plain_keys (by simp [schemaKeys])) ?_
  simp [words, plain_blank, plain_int, samplePlayer_plain]

theorem sampleCompetition_plain : Plain sampleCompetition := by
  have words := word_told
  simp only [sampleWords, List.forall_mem_cons] at words
  refine @plain_named _ competitionKeys rfl (plain_keys (by simp [schemaKeys])) ?_
  simp [words]

theorem sampleMatch_plain : Plain sampleMatch := by
  have words := word_told
  simp only [sampleWords, List.forall_mem_cons] at words
  refine @plain_named _ matchKeys rfl (plain_keys (by simp [schemaKeys])) ?_
  simp [words, plain_int]

theorem sampleRoutes_plain : Plain sampleRoutes := by
  have words := word_told
  simp only [sampleWords, List.forall_mem_cons] at words
  have route : ∀ {side marketTicker}, Plain (told side) → Plain (told marketTicker) →
      Plain (sampleRoute side marketTicker) := by
    intro side marketTicker first second
    refine @plain_named _ routeKeys rfl (plain_keys (by simp [schemaKeys])) ?_
    simp [words, first, second]
  exact ⟨route (by simp [words]) (by simp [words]), route (by simp [words]) (by simp [words]), trivial⟩

theorem sampleMarket_plain {side : PlayerSide} {player : Player}
    {marketTicker marketId membership settlement : String} (sided : Plain (told side.value))
    (provider : Plain (told player.providerPlayerId))
    (canonical : Plain (told player.canonicalPlayerId)) (listed : Plain (told marketTicker))
    (known : Plain (told marketId)) (projected : IsSha256 membership)
    (settled : IsSha256 settlement) :
    Plain (sampleMarket side player marketTicker marketId membership settlement) := by
  have words := word_told
  simp only [sampleWords, List.forall_mem_cons] at words
  have member : Plain (sampleMembership marketTicker marketId membership) := by
    refine @plain_named _ membershipKeys rfl (plain_keys (by simp [schemaKeys])) ?_
    simp [words, listed, known, plain_blank, plain_int, plain_digest projected]
  have terms : Plain (.obj (sampleSettlement sampleRulesSha256 settlement)) := by
    refine @plain_named _ settlementKeys rfl (plain_keys (by simp [schemaKeys])) ?_
    simp [SettlementTerms.texts, sampleTerms, words, plain_digest sampleRulesSha256_isSha256,
      plain_digest settled]
  have evidence : Plain sampleEvidence := by
    have market : Plain (.str sampleText) := word_told _ (by simp [sampleWords])
    have rules : Plain (.str sampleRules) := word_told _ (by simp [sampleWords])
    refine @plain_named _ evidenceKeys rfl (plain_keys (by simp [schemaKeys])) ?_
    simp [words, market, rules, plain_int, plain_digest sampleTextSha256_isSha256,
      plain_digest sampleRulesSha256_isSha256]
  refine @plain_named _ marketKeys rfl (plain_keys (by simp [schemaKeys])) ?_
  simp [words, listed, known, sided, provider, canonical, member, terms, evidence]

theorem sampleHomeMarket_plain {membership settlement : String} (projected : IsSha256 membership)
    (settled : IsSha256 settlement) :
    Plain (sampleMarket .home sampleHome "EV-1-H" "market-1h" membership settlement) :=
  sampleMarket_plain (word_told "home" (by simp [sampleWords]))
    (word_told "ph-1" (by simp [sampleWords])) (word_told "ch-1" (by simp [sampleWords]))
    (word_told _ (by simp [sampleWords])) (word_told _ (by simp [sampleWords])) projected settled

theorem sampleAwayMarket_plain {membership settlement : String} (projected : IsSha256 membership)
    (settled : IsSha256 settlement) :
    Plain (sampleMarket .away sampleAway "EV-1-A" "market-1a" membership settlement) :=
  sampleMarket_plain (word_told "away" (by simp [sampleWords]))
    (word_told "pa-1" (by simp [sampleWords])) (word_told "ca-1" (by simp [sampleWords]))
    (word_told _ (by simp [sampleWords])) (word_told _ (by simp [sampleWords])) projected settled

theorem sampleManifest_plain {homeMarket awayMarket : Value} (first : Plain homeMarket)
    (second : Plain awayMarket) : Plain (.obj (sampleManifest homeMarket awayMarket)) := by
  have words := word_told
  simp only [sampleWords, List.forall_mem_cons] at words
  have markets : Plain (.arr [homeMarket, awayMarket]) := ⟨first, second, trivial⟩
  have kalshi : Plain (sampleKalshi homeMarket awayMarket) := by
    refine @plain_named _ kalshiKeys rfl (plain_keys (by simp [schemaKeys])) ?_
    simp [words, plain_blank, plain_int, markets, sampleRoutes_plain]
  have binding : Plain (sampleBinding homeMarket awayMarket) := by
    refine @plain_named _ bindingKeys rfl (plain_keys (by simp [schemaKeys])) ?_
    simp [words, sampleProvider_plain, sampleCompetition_plain, sampleMatch_plain, kalshi]
  have bindings : Plain (.arr [sampleBinding homeMarket awayMarket]) := ⟨binding, trivial⟩
  refine @plain_named _ rootKeys rfl (plain_keys (by simp [schemaKeys])) ?_
  simp [words, plain_int, bindings]

theorem sampleReview_plain {digest evidence : String} (pinned : IsSha256 digest)
    (sealed : IsSha256 evidence) : Plain (.obj (sampleReview digest evidence)) := by
  have words := word_told
  simp only [sampleWords, List.forall_mem_cons] at words
  refine @plain_named _ reviewKeys rfl (plain_keys (by simp [schemaKeys])) ?_
  simp [words, plain_int, plain_digest pinned, plain_digest sealed]

theorem sampleMarket_parts (side : PlayerSide) (player : Player)
    (marketTicker marketId membership settlement : String) :
    parts (sampleMarket side player marketTicker marketId membership settlement) ≤ 100 := by
  simp only [sampleMarket, sampleMembership, sampleSettlement, sampleEvidence, SettlementTerms.texts,
    named, told, List.cons_append, List.nil_append, List.map_cons, List.map_nil, parts, partsMembers]
  decide

theorem sampleManifest_parts (homeMarket awayMarket : Value) :
    parts (.obj (sampleManifest homeMarket awayMarket)) ≤
      parts homeMarket + parts awayMarket + 200 := by
  simp only [sampleManifest, sampleBinding, sampleProvider, samplePlayer, sampleCompetition, sampleMatch,
    sampleKalshi, sampleRoutes, sampleRoute, named, told, List.map_cons, List.map_nil, parts,
    partsMembers, partsItems]
  omega

/-- A manifest of one match and its review are decoded to a universe, which is unique. -/
theorem decoded_unique_sample : ∃ manifestPayload reviewPayload manifestPin reviewPin u,
    decodeBindingUniverse asciiTables manifestPayload reviewPayload manifestPin reviewPin = .ok u ∧
      u.bindings.length = 1 ∧ u.Unique ∧ u.postInit = .ok () := by
  obtain ⟨settlement, settledShape, settled⟩ := sampleSettlement_read sampleRulesSha256_isSha256
  obtain ⟨first, firstShape, homeRead⟩ := @sampleMarket_read .home sampleHome "EV-1-H" "market-1h"
    settlement (by decide) (by decide) (by decide) (by decide) settled
  obtain ⟨second, secondShape, awayRead⟩ := @sampleMarket_read .away sampleAway "EV-1-A" "market-1a"
    settlement (by decide) (by decide) (by decide) (by decide) settled
  let homeMarket := sampleMarket .home sampleHome "EV-1-H" "market-1h" first settlement
  let awayMarket := sampleMarket .away sampleAway "EV-1-A" "market-1a" second settlement
  have plain : Plain (.obj (sampleManifest homeMarket awayMarket)) :=
    sampleManifest_plain (sampleHomeMarket_plain firstShape settledShape)
      (sampleAwayMarket_plain secondShape settledShape)
  let payload := Utf8.ascii (Json.render (.obj (sampleManifest homeMarket awayMarket)))
  let digest := Sha256.hexdigest payload
  have pinned : IsSha256 digest := hexdigest_isSha256 payload
  let parsed := sampleParsed digest first second settlement
  have bindingRead : parseBinding asciiTables 2 ⟨"artifact", digest⟩
      (sampleBinding homeMarket awayMarket) = .ok parsed :=
    sampleBinding_read pinned (homeRead homeMarket awayMarket) (awayRead homeMarket awayMarket)
  have captured : ∀ market ∈ parsed.metadata.markets, market.membershipCapturedWallNs = 1 := by
    simp [parsed, sampleParsed, sampleMetadata, marketOf, marketMetadata, membershipPart]
  have manifestRead := sampleManifest_read bindingRead (sampleParsed_identity ..)
  have read := parseManifest_read manifestRead
  obtain ⟨bindings, metadata⟩ := read.encodes
  obtain ⟨evidence, computed⟩ : ∃ evidence, computeBindingReviewEvidenceSha256 ⟨"artifact", digest⟩
      [parsed.slim] [parsed.metadata] = .ok evidence :=
    (domainSha256_total _ _).mpr ⟨ArtifactPin.encodes _, bindings, metadata, trivial⟩
  have sealed : IsSha256 evidence := domainSha256_isSha256 computed
  obtain ⟨review, reviewRead⟩ := @sampleReview_read digest evidence parsed.slim parsed.metadata pinned sealed rfl rfl captured
  obtain ⟨universeSha256, digested, accepted⟩ := (decoded_unique asciiTables ⟨"artifact", digest⟩
    ⟨"review", Sha256.hexdigest (sampleReviewPayload digest evidence)⟩).2 _ _ _ _ _ _ manifestRead computed
      reviewRead
  have reviewPlain := sampleReview_plain pinned sealed
  let u := Manifest.universe_ ⟨2, [parsed.slim], [parsed.metadata], [parsed.kalshiStart]⟩
    ⟨"artifact", digest⟩ review universeSha256
  have decoded : decodeBindingUniverse asciiTables payload (sampleReviewPayload digest evidence)
      ⟨"artifact", digest⟩ ⟨"review", Sha256.hexdigest (sampleReviewPayload digest evidence)⟩ =
        .ok u := by
    have manifestSize := plain_length plain
    have reviewSize := plain_length reviewPlain
    have manifestParts : 800 * parts (.obj (sampleManifest homeMarket awayMarket)) ≤ 1048576 := by
      have whole := sampleManifest_parts homeMarket awayMarket
      have home : parts homeMarket ≤ 100 := sampleMarket_parts ..
      have away : parts awayMarket ≤ 100 := sampleMarket_parts ..
      omega
    have reviewParts : 800 * parts (.obj (sampleReview digest evidence)) ≤ 16384 := by
      simp only [sampleReview, named, told, List.map_cons, List.map_nil, parts, partsMembers]
      decide
    refine bind_eq_ok.mpr ⟨(), refuse_ok _ ?_, bind_eq_ok.mpr ⟨(), refuse_ok _ ?_, ?_⟩⟩
    · exact not_or.mpr ⟨not_lt.mpr manifestSize.1, not_lt.mpr (manifestSize.2.trans manifestParts)⟩
    · exact not_or.mpr ⟨not_lt.mpr reviewSize.1, not_lt.mpr (reviewSize.2.trans reviewParts)⟩
    refine bind_eq_ok.mpr ⟨(), refuse_ok _ (not_not.mpr rfl), bind_eq_ok.mpr ⟨(),
      refuse_ok _ (not_not.mpr rfl), ?_⟩⟩
    refine bind_eq_ok.mpr ⟨_, decodeJson_plain plain "manifest", bind_eq_ok.mpr ⟨_, manifestRead, ?_⟩⟩
    refine bind_eq_ok.mpr ⟨_, computed, bind_eq_ok.mpr ⟨_, decodeJson_plain reviewPlain "review", ?_⟩⟩
    exact bind_eq_ok.mpr ⟨_, reviewRead, bind_eq_ok.mpr ⟨_, digested, project_eq_ok.mpr ⟨accepted, rfl⟩⟩⟩
  have one : u.bindings.length = 1 := List.length_singleton
  exact ⟨payload, sampleReviewPayload digest evidence, ⟨"artifact", digest⟩,
    ⟨"review", Sha256.hexdigest (sampleReviewPayload digest evidence)⟩, u, decoded, one,
    (decoded_unique asciiTables ⟨"artifact", digest⟩ _).1 _ _ _ decoded, accepted⟩

end Inci.Binding
