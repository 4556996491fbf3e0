/-
# Sportradar.SnapshotFields -- reading a snapshot

`snapshotFromFields` reads the raw fields of a snapshot under the context of its capture,
builds it and asks the score rule of it.  Whatever it answers the core accepts.  The core
accepts more: the adapter's readers take an event id of their own, narrower pattern and
counts that fit a signed 64-bit integer (`Readable`), and of the snapshots the core accepts
they refuse those that are not so and no others (`adapter_admits`).
-/
import Inci.Binding.Reading
import Inci.Journal.Canonical
import Inci.Sportradar.Admission

namespace Inci.Sportradar

open Inci.Theory Inci.Expert Inci.Tennis
open Inci.Theory.Json (Text Value text)
open Inci.Journal (Bytes Members SameKeys matchesSafeIdentifier)
open Inci.Binding (str field maxSigned64 told named str_text text_injective field_named)

set_option autoImplicit false

/-! ## The context of a capture -/

def bindingInvalid : String := "candidate_binding_invalid"
def payloadInvalid : String := "candidate_payload_invalid"
def schemaUnknown : String := "candidate_schema_unknown"

/-- The values of `_ProviderNormalizationContextV1`. -/
structure ContextValues extends MatchIdentity where
  matchBindingUniverseSha256 : String
  canonicalMatchId : String
  rawEventType : String
  rawEventVersion : Nat
  rawIngestSeq : Nat
  rawRecordSha256 : String
  capturedLocalWallNs : Nat
  capturedLocalMonotonicNs : Nat
  capturedClockUncertaintyNs : Nat
  capturedSourceWallNs : Option Nat
  capturedSourceGeneratedNs : Option Nat
  capturedProviderSequence : Option String
  capturedPayloadSha256 : String
  capturedPayload : Bytes

/-- `_binding_safe_id` -/
def bindingSafeId (value : String) : Except String Unit :=
  refuse (matchesSafeIdentifier (text value) = false) bindingInvalid

/-- `_digest(value, binding=True)` -/
def bindingDigest (value : String) : Except String Unit := refuse (¬IsSha256 value) bindingInvalid

/-- `_validate_context` -/
def validateContext (context : ContextValues) : Except String Unit := do
  checkAll bindingSafeId [context.providerSourceId, context.revisionDomainId,
    context.canonicalMatchId, context.providerMatchId, context.homePlayerId, context.awayPlayerId,
    context.rawEventType]
  refuse (context.providerSourceId ≠ "sportradar") bindingInvalid
  checkAll bindingDigest [context.sourceLineageSha256, context.matchBindingUniverseSha256,
    context.rawRecordSha256, context.capturedPayloadSha256]
  refuse (context.homePlayerId = context.awayPlayerId ∨ context.matchFormat ∉ supportedFormats ∨
    context.rawEventVersion ≠ 1 ∨
    Sha256.hexdigest context.capturedPayload ≠ context.capturedPayloadSha256) bindingInvalid
  checkSome (fun time => refuse (maxSigned64 < time) bindingInvalid) context.capturedSourceWallNs
  checkSome (fun time => refuse (maxSigned64 < time) bindingInvalid)
    context.capturedSourceGeneratedNs
  checkSome bindingSafeId context.capturedProviderSequence

/-- A context: `_build_context` validates the values it stores. -/
structure NormalizationContext extends ContextValues where
  validated : validateContext toContextValues = .ok ()

/-! ## Readers -/

/-- `_safe_id` -/
def safeIdOf : Value → Except String String
  | .str t => do
      refuse (matchesSafeIdentifier t = false) payloadInvalid
      pure (str t)
  | _ => .error payloadInvalid

/-- `_integer` with its default bounds -/
def integerOf : Value → Except String Nat
  | .int n => do
      refuse (n < 0 ∨ (maxSigned64 : Int) < n) payloadInvalid
      pure n.toNat
  | _ => .error payloadInvalid

/-- `_optional_integer` -/
def optionalIntegerOf : Value → Except String (Option Nat)
  | .null => .ok none
  | value => some <$> integerOf value

/-- `_boolean` -/
def booleanOf : Value → Except String Bool
  | .bool b => .ok b
  | _ => .error payloadInvalid

/-- `_string` -/
def stringOf : Value → Except String Text
  | .str t => .ok t
  | _ => .error payloadInvalid

/-- `_object` -/
def objectOf (keys : List String) : Value → Except String Members
  | .obj members => do
      refuse (∃ key ∈ keys, text key ∉ members.map Prod.fst) payloadInvalid
      refuse (¬SameKeys (keys.map text) members) schemaUnknown
      pure members
  | _ => .error payloadInvalid

/-- `_array` -/
def arrayOf (minimum maximum : Nat) : Value → Except String (List Value)
  | .arr items => do
      refuse (items.length < minimum ∨ maximum < items.length) payloadInvalid
      pure items
  | _ => .error payloadInvalid

/-- The member of an enumeration that a word of the provider names. -/
def wordOf {α : Type} (words : List (String × α)) (value : Value) : Except String α := do
  let t ← stringOf value
  match words.find? fun entry => text entry.1 = t with
  | some entry => .ok entry.2
  | none => .error schemaUnknown

/-- `_status` -/
def statusOf : Value → Except String MatchStatus :=
  wordOf [("SCHEDULED", .scheduled), ("LIVE", .live), ("SUSPENDED", .suspended), ("ENDED", .ended),
    ("CANCELLED", .cancelled)]

/-- `_termination` -/
def terminationOf : Value → Except String TerminationKind :=
  wordOf [("NONE", .none), ("NATURAL", .natural), ("WALKOVER", .walkover),
    ("RETIREMENT", .retirement), ("CANCELLATION", .cancellation)]

/-- `_score_value` -/
def scoreValueOf : Value → Except String ScoreValue :=
  wordOf [("LOVE", .love), ("FIFTEEN", .fifteen), ("THIRTY", .thirty), ("FORTY", .forty),
    ("ADVANTAGE", .advantage)]

/-- The side of a player's id. -/
def sideOfId (context : NormalizationContext) (value : Value) : Except String PlayerSide := do
  let identifier ← safeIdOf value
  if identifier = context.homePlayerId then pure .home
  else if identifier = context.awayPlayerId then pure .away
  else .error payloadInvalid

/-- `_side_from_id` with `optional=True` -/
def sideFromId (context : NormalizationContext) : Value → Except String (Option PlayerSide)
  | .null => .ok none
  | value => some <$> sideOfId context value

def setScoreKeys : List String :=
  ["games_home", "games_away", "tiebreak_points_home", "tiebreak_points_away"]

/-- `_set_score` -/
def setScoreOf (value : Value) : Except String SetScore := do
  let item ← objectOf setScoreKeys value
  let gamesHome ← integerOf (field item "games_home")
  let gamesAway ← integerOf (field item "games_away")
  let tiebreakPointsHome ← optionalIntegerOf (field item "tiebreak_points_home")
  let tiebreakPointsAway ← optionalIntegerOf (field item "tiebreak_points_away")
  let score : SetScore := { gamesHome, gamesAway, tiebreakPointsHome, tiebreakPointsAway }
  refuse (score.postInit ≠ .ok ()) payloadInvalid
  pure score

/-- The members of a status object; the callers have checked its keys. -/
structure StatusFields where
  status : Value
  termination : Value
  winnerId : Value
  retiredId : Value
  completedSets : Value
  gamesHome : Value
  gamesAway : Value
  pointsHome : Value
  pointsAway : Value
  inTiebreak : Value
  tiebreakPointsHome : Value
  tiebreakPointsAway : Value
  tiebreakFirstServerId : Value
  serverId : Value

/-- `_snapshot_from_fields`; the callers have read the coordinate and the times. -/
def snapshotFromFields (context : NormalizationContext) (providerEventId : Value)
    (correctionEpoch revision sourceWallNs sourceGeneratedWallNs : Nat) (snapshotComplete : Value)
    (statusFields : StatusFields) : Except String ProviderSnapshot := do
  let complete ← booleanOf snapshotComplete
  refuse (complete = false) payloadInvalid
  let status ← statusOf statusFields.status
  let terminationKind ← terminationOf statusFields.termination
  let winner ← sideFromId context statusFields.winnerId
  let retiredSide ← sideFromId context statusFields.retiredId
  let serverForNextPoint ← sideFromId context statusFields.serverId
  let tiebreakFirstServer ← sideFromId context statusFields.tiebreakFirstServerId
  let completedRaw ← arrayOf 0 5 statusFields.completedSets
  let completedSets ← collect setScoreOf completedRaw
  let providerEventId ← safeIdOf providerEventId
  let gamesHome ← integerOf statusFields.gamesHome
  let gamesAway ← integerOf statusFields.gamesAway
  let pointsHome ← scoreValueOf statusFields.pointsHome
  let pointsAway ← scoreValueOf statusFields.pointsAway
  let inTiebreak ← booleanOf statusFields.inTiebreak
  let tiebreakPointsHome ← integerOf statusFields.tiebreakPointsHome
  let tiebreakPointsAway ← integerOf statusFields.tiebreakPointsAway
  let snapshot : ProviderSnapshot :=
    { context.toMatchIdentity with
      status, terminationKind, winner, retiredSide, completedSets, gamesHome, gamesAway, pointsHome,
      pointsAway, inTiebreak, tiebreakPointsHome, tiebreakPointsAway, tiebreakFirstServer,
      serverForNextPoint, providerEventId, correctionEpoch, revision, sourceWallNs,
      sourceGeneratedWallNs
      receivedMonotonicNs := context.capturedLocalMonotonicNs
      clockUncertaintyNs := context.capturedClockUncertaintyNs
      snapshotComplete := true }
  refuse (snapshot.postInit ≠ .ok ()) payloadInvalid
  refuse (snapshotReachable snapshot = false) payloadInvalid
  pure snapshot

/-! ## The fields of a snapshot as the provider writes them -/

def statusWord : MatchStatus → String
  | .scheduled => "SCHEDULED"
  | .live => "LIVE"
  | .suspended => "SUSPENDED"
  | .ended => "ENDED"
  | .cancelled => "CANCELLED"

def terminationWord : TerminationKind → String
  | .none => "NONE"
  | .natural => "NATURAL"
  | .walkover => "WALKOVER"
  | .retirement => "RETIREMENT"
  | .cancellation => "CANCELLATION"

def scoreWord : ScoreValue → String
  | .love => "LOVE"
  | .fifteen => "FIFTEEN"
  | .thirty => "THIRTY"
  | .forty => "FORTY"
  | .advantage => "ADVANTAGE"

def sideId (context : NormalizationContext) : Option PlayerSide → Value
  | none => .null
  | some .home => told context.homePlayerId
  | some .away => told context.awayPlayerId

def optionalInteger : Option Nat → Value
  | none => .null
  | some n => .int n

def setEntries (score : SetScore) : List (String × Value) :=
  [("games_home", .int score.gamesHome), ("games_away", .int score.gamesAway),
    ("tiebreak_points_home", optionalInteger score.tiebreakPointsHome),
    ("tiebreak_points_away", optionalInteger score.tiebreakPointsAway)]

def setFields (score : SetScore) : Value := .obj (named (setEntries score))

def statusFieldsOf (context : NormalizationContext) (e : ProviderSnapshot) : StatusFields where
  status := told (statusWord e.status)
  termination := told (terminationWord e.terminationKind)
  winnerId := sideId context e.winner
  retiredId := sideId context e.retiredSide
  completedSets := .arr (e.completedSets.map setFields)
  gamesHome := .int e.gamesHome
  gamesAway := .int e.gamesAway
  pointsHome := told (scoreWord e.pointsHome)
  pointsAway := told (scoreWord e.pointsAway)
  inTiebreak := .bool e.inTiebreak
  tiebreakPointsHome := .int e.tiebreakPointsHome
  tiebreakPointsAway := .int e.tiebreakPointsAway
  tiebreakFirstServerId := sideId context e.tiebreakFirstServer
  serverId := sideId context e.serverForNextPoint

/-- The adapter's answer to the fields of a snapshot. -/
def normalizeFieldsOf (context : NormalizationContext) (e : ProviderSnapshot) :
    Except String ProviderSnapshot :=
  snapshotFromFields context (told e.providerEventId) e.correctionEpoch e.revision e.sourceWallNs
    e.sourceGeneratedWallNs (.bool e.snapshotComplete) (statusFieldsOf context e)

/-! ## What the readers answer -/

theorem integerOf_eq_ok {value : Value} {n : Nat} :
    integerOf value = .ok n ↔ value = .int n ∧ n ≤ maxSigned64 := by
  cases value with
  | int k =>
      simp only [integerOf, bind_eq_ok, exists_unit, refuse_eq_ok, not_or, not_lt, pure_eq_ok,
        Value.int.injEq]
      omega
  | null => simp [integerOf]
  | bool b => simp [integerOf]
  | str t => simp [integerOf]
  | arr items => simp [integerOf]
  | obj members => simp [integerOf]

theorem integerOf_int {n answer : Nat} :
    integerOf (.int n) = .ok answer ↔ n ≤ maxSigned64 ∧ n = answer := by
  rw [integerOf_eq_ok, Value.int.injEq, Nat.cast_inj]
  constructor
  · rintro ⟨rfl, bound⟩
    exact ⟨bound, rfl⟩
  · rintro ⟨bound, rfl⟩
    exact ⟨rfl, bound⟩

theorem optionalIntegerOf_bound {value : Value} {answer : Option Nat}
    (read : optionalIntegerOf value = .ok answer) : ∀ n ∈ answer, n ≤ maxSigned64 := by
  have some_read : ∀ {v : Value}, some <$> integerOf v = .ok answer →
      ∀ n ∈ answer, n ≤ maxSigned64 := by
    intro v read
    obtain ⟨m, known, rfl⟩ := map_eq_ok.mp read
    intro n inside
    obtain rfl := Option.mem_some_iff.mp inside
    exact (integerOf_eq_ok.mp known).2
  cases value with
  | null =>
      obtain rfl : none = answer := Except.ok.inj read
      exact fun n inside => absurd inside (Option.not_mem_none n)
  | int k => exact some_read read
  | bool b => exact some_read read
  | str t => exact some_read read
  | arr items => exact some_read read
  | obj members => exact some_read read

theorem optionalIntegerOf_optionalInteger {count answer : Option Nat} :
    optionalIntegerOf (optionalInteger count) = .ok answer ↔
      (∀ n ∈ count, n ≤ maxSigned64) ∧ count = answer := by
  cases count with
  | none => simp [optionalInteger, optionalIntegerOf]
  | some n =>
      simp only [optionalInteger, optionalIntegerOf, map_eq_ok, integerOf_int, Option.mem_some_iff,
        forall_eq']
      constructor
      · rintro ⟨m, ⟨bound, rfl⟩, rfl⟩
        exact ⟨bound, rfl⟩
      · rintro ⟨bound, rfl⟩
        exact ⟨n, ⟨bound, rfl⟩, rfl⟩

theorem safeIdOf_told {s answer : String} :
    safeIdOf (told s) = .ok answer ↔ matchesSafeIdentifier (text s) = true ∧ s = answer := by
  simp only [told, safeIdOf, bind_eq_ok, exists_unit, refuse_eq_ok, Bool.not_eq_false, pure_eq_ok,
    str_text]

/-- An identifier is plain text, so as a string it has the points that were read. -/
theorem text_str {t : Text} (ascii : Utf8.Ascii t) : text (str t) = t := by
  have back : ∀ c ∈ t, (Char.ofNat c).toNat = c := by
    intro c inside
    have small : c < 128 := ascii c inside
    rw [Char.ofNat, dif_pos (Or.inl (by omega))]
    rfl
  rw [text, str, String.toList_ofList, List.map_map]
  exact (List.map_congr_left back).trans (List.map_id t)

theorem safeIdOf_pattern {value : Value} {answer : String} (read : safeIdOf value = .ok answer) :
    matchesSafeIdentifier (text answer) = true := by
  cases value with
  | str t =>
      simp only [safeIdOf, bind_eq_ok, exists_unit, refuse_eq_ok, Bool.not_eq_false,
        pure_eq_ok] at read
      obtain ⟨fits, rfl⟩ := read
      have safe : Journal.safeIdentifier t "" = .ok () := refuse_ok _ (by simp [fits])
      rw [text_str (Journal.safeIdentifier_ascii safe)]
      exact fits
  | null => simp [safeIdOf] at read
  | bool b => simp [safeIdOf] at read
  | int n => simp [safeIdOf] at read
  | arr items => simp [safeIdOf] at read
  | obj members => simp [safeIdOf] at read

theorem wordOf_told {α : Type} {words : List (String × α)} {word : String} {a : α}
    (listed : words.find? (fun entry => entry.1 = word) = some (word, a)) :
    wordOf words (told word) = .ok a := by
  have same : (fun entry : String × α => decide (text entry.1 = text word)) =
      fun entry => decide (entry.1 = word) := by
    funext entry
    simp only [text_injective]
  simp only [wordOf, told, stringOf, ok_bind, same, listed]

theorem statusOf_told (status : MatchStatus) :
    statusOf (told (statusWord status)) = .ok status := by
  cases status <;> exact wordOf_told (by decide)

theorem terminationOf_told (kind : TerminationKind) :
    terminationOf (told (terminationWord kind)) = .ok kind := by
  cases kind <;> exact wordOf_told (by decide)

theorem scoreValueOf_told (value : ScoreValue) :
    scoreValueOf (told (scoreWord value)) = .ok value := by
  cases value <;> exact wordOf_told (by decide)

/-! ### Sides -/

theorem NormalizationContext.checks (context : NormalizationContext) :
    matchesSafeIdentifier (text context.homePlayerId) = true ∧
      matchesSafeIdentifier (text context.awayPlayerId) = true ∧
      context.homePlayerId ≠ context.awayPlayerId ∧ context.matchFormat ∈ supportedFormats := by
  have checked := context.validated
  simp only [validateContext, bindingSafeId, bind_eq_ok, exists_unit, checkAll_eq_ok, refuse_eq_ok,
    Bool.not_eq_false, List.forall_mem_cons, not_or, not_not] at checked
  obtain ⟨⟨-, -, -, -, home, away, -⟩, -, -, ⟨differ, supported, -⟩, -⟩ := checked
  exact ⟨home, away, differ, supported⟩

theorem sideFromId_sideId (context : NormalizationContext) (side : Option PlayerSide) :
    sideFromId context (sideId context side) = .ok side := by
  obtain ⟨home, away, differ, -⟩ := context.checks
  cases side with
  | none => rfl
  | some side =>
      cases side with
      | home =>
          have read := safeIdOf_told.mpr ⟨home, rfl⟩
          show some <$> sideOfId context (told context.homePlayerId) = _
          rw [sideOfId, read, ok_bind, if_pos rfl]
          rfl
      | away =>
          have read := safeIdOf_told.mpr ⟨away, rfl⟩
          show some <$> sideOfId context (told context.awayPlayerId) = _
          rw [sideOfId, read, ok_bind, if_neg differ.symm, if_pos rfl]
          rfl

/-! ### Sets -/

/-- The counts of a set that the adapter reads. -/
structure ReadableSet (score : SetScore) : Prop where
  gamesHome : score.gamesHome ≤ maxSigned64
  gamesAway : score.gamesAway ≤ maxSigned64
  tiebreakPointsHome : ∀ n ∈ score.tiebreakPointsHome, n ≤ maxSigned64
  tiebreakPointsAway : ∀ n ∈ score.tiebreakPointsAway, n ≤ maxSigned64

theorem setScoreOf_reads {value : Value} {score : SetScore} (read : setScoreOf value = .ok score) :
    ReadableSet score ∧ score.postInit = .ok () := by
  simp only [setScoreOf, bind_eq_ok, exists_unit, refuse_eq_ok, not_not, pure_eq_ok] at read
  obtain ⟨_, -, home, readHome, away, readAway, tieHome, readTie, tieAway, readTieAway, built,
    rfl⟩ := read
  exact ⟨⟨(integerOf_eq_ok.mp readHome).2, (integerOf_eq_ok.mp readAway).2,
    optionalIntegerOf_bound readTie, optionalIntegerOf_bound readTieAway⟩, built⟩

theorem objectOf_named {entries : List (String × Value)} {keys : List String}
    (same : entries.map Prod.fst = keys) :
    objectOf keys (.obj (named entries)) = .ok (named entries) := by
  have listed : (named entries).map Prod.fst = keys.map text := by
    rw [← same, named, List.map_map, List.map_map]
    rfl
  have known : ¬∃ key ∈ keys, text key ∉ (named entries).map Prod.fst := by
    rintro ⟨key, inside, missing⟩
    exact missing (listed ▸ List.mem_map_of_mem inside)
  have sameKeys : SameKeys (keys.map text) (named entries) :=
    ⟨fun _ inside => listed ▸ inside, fun _ inside => listed ▸ inside⟩
  rw [objectOf, refuse_ok _ known, refuse_ok _ (not_not.mpr sameKeys)]
  rfl

theorem setScoreOf_setFields {score answer : SetScore} :
    setScoreOf (setFields score) = .ok answer ↔
      (ReadableSet score ∧ score.postInit = .ok ()) ∧ score = answer := by
  have object : objectOf setScoreKeys (setFields score) = .ok (named (setEntries score)) :=
    objectOf_named rfl
  have home : field (named (setEntries score)) "games_home" = .int score.gamesHome := by
    rw [field_named]
    rfl
  have away : field (named (setEntries score)) "games_away" = .int score.gamesAway := by
    rw [field_named]
    rfl
  have tieHome : field (named (setEntries score)) "tiebreak_points_home" =
      optionalInteger score.tiebreakPointsHome := by
    rw [field_named]
    rfl
  have tieAway : field (named (setEntries score)) "tiebreak_points_away" =
      optionalInteger score.tiebreakPointsAway := by
    rw [field_named]
    rfl
  simp only [setScoreOf, object, ok_bind, home, away, tieHome, tieAway, bind_eq_ok, exists_unit,
    integerOf_int, optionalIntegerOf_optionalInteger, refuse_eq_ok, not_not, pure_eq_ok]
  constructor
  · rintro ⟨_, ⟨h1, rfl⟩, _, ⟨h2, rfl⟩, _, ⟨h3, rfl⟩, _, ⟨h4, rfl⟩, built, rfl⟩
    exact ⟨⟨⟨h1, h2, h3, h4⟩, built⟩, rfl⟩
  · rintro ⟨⟨⟨h1, h2, h3, h4⟩, built⟩, rfl⟩
    exact ⟨_, ⟨h1, rfl⟩, _, ⟨h2, rfl⟩, _, ⟨h3, rfl⟩, _, ⟨h4, rfl⟩, built, rfl⟩

theorem collect_setFields {sets answers : List SetScore} :
    collect setScoreOf (sets.map setFields) = .ok answers ↔
      (∀ score ∈ sets, ReadableSet score ∧ score.postInit = .ok ()) ∧ sets = answers := by
  induction sets generalizing answers with
  | nil => simp [collect]
  | cons score rest ih =>
      simp only [List.map_cons, collect, bind_eq_ok, setScoreOf_setFields, ih, pure_eq_ok,
        List.forall_mem_cons]
      constructor
      · rintro ⟨_, ⟨first, rfl⟩, _, ⟨others, rfl⟩, rfl⟩
        exact ⟨⟨first, others⟩, rfl⟩
      · rintro ⟨⟨first, others⟩, rfl⟩
        exact ⟨score, ⟨first, rfl⟩, rest, ⟨others, rfl⟩, rfl⟩

/-! ## Accepted scores are short -/

theorem completedSetWinner_few {score : SetScore} {side : PlayerSide}
    (won : Tennis.completedSetWinner score = some side) :
    score.gamesHome ≤ 7 ∧ score.gamesAway ≤ 7 := by
  unfold Tennis.completedSetWinner at won
  cases home : score.tiebreakPointsHome with
  | none =>
      simp only [home] at won
      split_ifs at won <;> omega
  | some n =>
      cases away : score.tiebreakPointsAway with
      | none => simp [home, away] at won
      | some m =>
          simp only [home, away] at won
          split_ifs at won <;> omega

theorem completedPrefixFrom_few {required home away : Nat} {sets : List SetScore}
    {clinched : Option PlayerSide}
    (legal : completedPrefixFrom required home away sets = some clinched)
    (homeShort : home < required) (awayShort : away < required) :
    home + away + sets.length < 2 * required ∧
      ∀ score ∈ sets, score.gamesHome ≤ 7 ∧ score.gamesAway ≤ 7 := by
  induction sets generalizing home away with
  | nil =>
      refine ⟨?_, fun _ inside => absurd inside List.not_mem_nil⟩
      rw [List.length_nil]
      omega
  | cons score rest ih =>
      rw [completedPrefixFrom] at legal
      rw [List.length_cons, List.forall_mem_cons]
      cases won : Tennis.completedSetWinner score with
      | none => simp [won] at legal
      | some side =>
          have games := completedSetWinner_few won
          cases side with
          | home =>
              simp only [won] at legal
              split_ifs at legal with clinch last
              · subst last
                exact ⟨by simp only [List.length_nil]; omega, games, by simp⟩
              · obtain ⟨few, others⟩ := ih legal (by omega) awayShort
                exact ⟨by omega, games, others⟩
          | away =>
              simp only [won] at legal
              split_ifs at legal with clinch last
              · subst last
                exact ⟨by simp only [List.length_nil]; omega, games, by simp⟩
              · obtain ⟨few, others⟩ := ih legal homeShort (by omega)
                exact ⟨by omega, games, others⟩

theorem unfinished_few {format : MatchFormat} {v : Score} {active : Bool}
    (unfinished : Unfinished format v active) : v.gamesHome ≤ 6 ∧ v.gamesAway ≤ 6 := by
  cases tied : v.inTiebreak with
  | true =>
      obtain ⟨home, away, -⟩ := unfinished.tiebreak tied
      omega
  | false =>
      obtain ⟨home, away, -⟩ := unfinished.games tied
      exact ⟨home, away⟩

/-- The games of an accepted score, and its sets: five at most. -/
theorem reachable_few {format : MatchFormat} {v : Score} (legal : reachable format v = true) :
    v.gamesHome ≤ 6 ∧ v.gamesAway ≤ 6 ∧ v.completedSets.length ≤ 5 ∧
      ∀ score ∈ v.completedSets, score.gamesHome ≤ 7 ∧ score.gamesAway ≤ 7 := by
  have sets : ∀ {clinched}, completedPrefix format v = some clinched →
      v.completedSets.length ≤ 5 ∧
        ∀ score ∈ v.completedSets, score.gamesHome ≤ 7 ∧ score.gamesAway ≤ 7 := by
    intro clinched known
    have required : 2 ≤ setsRequired format ∧ setsRequired format ≤ 3 := by
      cases format <;> decide
    obtain ⟨few, games⟩ := completedPrefixFrom_few known (by omega) (by omega)
    exact ⟨by omega, games⟩
  have unfinished : ∀ {active}, incompleteScoreIsReachable format v active = true →
      v.gamesHome ≤ 6 ∧ v.gamesAway ≤ 6 ∧ v.completedSets.length ≤ 5 ∧
        ∀ score ∈ v.completedSets, score.gamesHome ≤ 7 ∧ score.gamesAway ≤ 7 := by
    intro active incomplete
    have running := incompleteScore_iff.mp incomplete
    obtain ⟨home, away⟩ := unfinished_few running
    exact ⟨home, away, sets running.going⟩
  have zero : scoreIsZero v = true → v.gamesHome ≤ 6 ∧ v.gamesAway ≤ 6 ∧
      v.completedSets.length ≤ 5 ∧
        ∀ score ∈ v.completedSets, score.gamesHome ≤ 7 ∧ score.gamesAway ≤ 7 := by
    intro zero
    simp only [scoreIsZero, decide_eq_true_eq] at zero
    simp [zero]
  unfold reachable at legal
  split_ifs at legal
  cases status : v.status with
  | scheduled =>
      simp only [status, Bool.and_eq_true] at legal
      exact zero legal.2
  | live =>
      simp only [status, Bool.and_eq_true] at legal
      exact unfinished legal.2
  | suspended =>
      simp only [status, Bool.and_eq_true] at legal
      exact unfinished legal.2
  | cancelled =>
      simp only [status, Bool.and_eq_true] at legal
      exact unfinished legal.2
  | ended =>
      cases kind : v.terminationKind with
      | walkover =>
          simp only [status, kind, Bool.and_eq_true] at legal
          exact zero legal.2
      | retirement =>
          simp only [status, kind, Bool.and_eq_true] at legal
          exact unfinished legal.2
      | natural =>
          simp only [status, kind] at legal
          cases known : completedPrefix format v with
          | none => simp [known] at legal
          | some clinched =>
              cases clinched with
              | none => simp [known] at legal
              | some side =>
                  simp only [known, decide_eq_true_eq] at legal
                  exact ⟨by omega, by omega, sets known⟩
      | none => simp [status, kind] at legal
      | cancellation => simp [status, kind] at legal

/-! ## Admission -/

/-- What the adapter's readers ask of a snapshot past what the core asks. -/
structure Readable (e : ProviderSnapshot) : Prop where
  eventId : matchesSafeIdentifier (text e.providerEventId) = true
  tiebreakPointsHome : e.tiebreakPointsHome ≤ maxSigned64
  tiebreakPointsAway : e.tiebreakPointsAway ≤ maxSigned64
  sets : ∀ score ∈ e.completedSets, (∀ n ∈ score.tiebreakPointsHome, n ≤ maxSigned64) ∧
    ∀ n ∈ score.tiebreakPointsAway, n ≤ maxSigned64

/-- A snapshot of the context's match, received when its capture was. -/
structure Captured (context : NormalizationContext) (e : ProviderSnapshot) : Prop where
  identity : e.toMatchIdentity = context.toMatchIdentity
  received : e.receivedMonotonicNs = context.capturedLocalMonotonicNs
  uncertainty : e.clockUncertaintyNs = context.capturedClockUncertaintyNs

theorem snapshotFromFields_reads {context : NormalizationContext} {eventId complete : Value}
    {correctionEpoch revision sourceWallNs sourceGeneratedWallNs : Nat} {fields : StatusFields}
    {e : ProviderSnapshot}
    (answer : snapshotFromFields context eventId correctionEpoch revision sourceWallNs
      sourceGeneratedWallNs complete fields = .ok e) :
    e.Valid ∧ Readable e ∧ e.matchFormat ∈ supportedFormats ∧ e.snapshotComplete = true ∧
      snapshotReachable e = true := by
  simp only [snapshotFromFields, bind_eq_ok, exists_unit, refuse_eq_ok, not_not, Bool.not_eq_false,
    pure_eq_ok] at answer
  obtain ⟨_, -, -, _, -, _, -, _, -, _, -, _, -, _, -, raw, -, sets, readSets, id, readId, _, -,
    _, -, _, -, _, -, _, -, home, readHome, away, readAway, built, legal, rfl⟩ := answer
  have each : ∀ score ∈ sets, ReadableSet score ∧ score.postInit = .ok () := by
    intro score inside
    obtain ⟨value, -, read⟩ := collect_mem readSets inside
    exact setScoreOf_reads read
  refine ⟨⟨built, fun score inside => (each score inside).2⟩, ?_, context.checks.2.2.2, rfl, legal⟩
  exact ⟨safeIdOf_pattern readId, (integerOf_eq_ok.mp readHome).2, (integerOf_eq_ok.mp readAway).2,
    fun score inside => ⟨(each score inside).1.tiebreakPointsHome,
      (each score inside).1.tiebreakPointsAway⟩⟩

theorem normalizeFieldsOf_eq_ok {context : NormalizationContext} {e answer : ProviderSnapshot}
    (captured : Captured context e) : normalizeFieldsOf context e = .ok answer ↔
      e.snapshotComplete = true ∧ e.completedSets.length ≤ 5 ∧
      (∀ score ∈ e.completedSets, ReadableSet score ∧ score.postInit = .ok ()) ∧
      matchesSafeIdentifier (text e.providerEventId) = true ∧
      e.gamesHome ≤ maxSigned64 ∧ e.gamesAway ≤ maxSigned64 ∧
      e.tiebreakPointsHome ≤ maxSigned64 ∧ e.tiebreakPointsAway ≤ maxSigned64 ∧
      e.postInit = .ok () ∧ snapshotReachable e = true ∧ e = answer := by
  obtain ⟨identity, score, times, id, epoch, revision, complete⟩ := e
  obtain ⟨source, generated, received, uncertainty⟩ := times
  obtain ⟨rfl, rfl, rfl⟩ := captured
  have array : arrayOf 0 5 (.arr (score.completedSets.map setFields)) =
      refuse (5 < score.completedSets.length) payloadInvalid >>= fun _ =>
        pure (score.completedSets.map setFields) := by
    simp [arrayOf]
  simp only [normalizeFieldsOf, snapshotFromFields, statusFieldsOf, booleanOf, ok_bind,
    statusOf_told, terminationOf_told, sideFromId_sideId, scoreValueOf_told, array, bind_eq_ok,
    exists_unit, refuse_eq_ok, pure_eq_ok, safeIdOf_told, integerOf_int, not_not,
    Bool.not_eq_false, not_lt]
  constructor
  · rintro ⟨rfl, _, ⟨few, rfl⟩, _, collected, _, ⟨fits, rfl⟩, _, ⟨home, rfl⟩, _, ⟨away, rfl⟩, _,
      ⟨tieHome, rfl⟩, _, ⟨tieAway, rfl⟩, built, legal, rfl⟩
    obtain ⟨sets, rfl⟩ := collect_setFields.mp collected
    exact ⟨rfl, few, sets, fits, home, away, tieHome, tieAway, built, legal, rfl⟩
  · rintro ⟨rfl, few, sets, fits, home, away, tieHome, tieAway, built, legal, rfl⟩
    exact ⟨rfl, _, ⟨few, rfl⟩, _, collect_setFields.mpr ⟨sets, rfl⟩, _, ⟨fits, rfl⟩, _,
      ⟨home, rfl⟩, _, ⟨away, rfl⟩, _, ⟨tieHome, rfl⟩, _, ⟨tieAway, rfl⟩, built, legal, rfl⟩

theorem accepted_complete {e : ProviderSnapshot} {s : TennisState}
    (accepted : stateFromSnapshot e = .ok s) : e.snapshotComplete = true := by
  simp only [stateFromSnapshot, bind_eq_ok, exists_unit, refuse_eq_ok, Prod.exists, not_or,
    Bool.not_eq_false] at accepted
  obtain ⟨_, _, -, -, ⟨complete, -⟩, -⟩ := accepted
  exact complete

theorem snapshotReachable_valid {e : ProviderSnapshot} (valid : e.Valid)
    (supported : e.matchFormat ∈ supportedFormats) :
    snapshotReachable e = reachable e.matchFormat e.toScore := by
  have built := valid.constructed
  simp only [ProviderSnapshot.postInit, bind_eq_ok, exists_unit] at built
  obtain ⟨-, -, status, -⟩ := built
  exact snapshotReachable_eq status supported

/-- The adapter's score rule is the core's on every snapshot that its constructor admits.
Whatever the adapter normalizes the core accepts; and a snapshot given in the provider's own
words the adapter normalizes to itself exactly when the core accepts it and it is readable. -/
theorem adapter_admits :
    (∀ e : ProviderSnapshot, e.Valid → e.matchFormat ∈ supportedFormats →
      snapshotReachable e = reachable e.matchFormat e.toScore) ∧
    (∀ (context : NormalizationContext) (eventId : Value)
      (correctionEpoch revision sourceWallNs sourceGeneratedWallNs : Nat) (complete : Value)
      (fields : StatusFields) (e : ProviderSnapshot),
      snapshotFromFields context eventId correctionEpoch revision sourceWallNs
        sourceGeneratedWallNs complete fields = .ok e →
      e.Valid ∧ Readable e ∧ ∃ s, stateFromSnapshot e = .ok s) ∧
    ∀ (context : NormalizationContext) (e : ProviderSnapshot), e.Valid → Captured context e →
      ∀ answer, normalizeFieldsOf context e = .ok answer ↔
        answer = e ∧ Readable e ∧ ∃ s, stateFromSnapshot e = .ok s := by
  refine ⟨fun e => snapshotReachable_valid, ?_, ?_⟩
  · intro context eventId correctionEpoch revision sourceWallNs sourceGeneratedWallNs complete
      fields e answer
    obtain ⟨valid, readable, supported, complete, legal⟩ := snapshotFromFields_reads answer
    rw [snapshotReachable_valid valid supported] at legal
    exact ⟨valid, readable, (stateFromSnapshot_admits valid complete).mpr legal⟩
  · intro context e valid captured answer
    have supported : e.matchFormat ∈ supportedFormats := by
      rw [captured.identity]
      exact context.checks.2.2.2
    rw [normalizeFieldsOf_eq_ok captured, snapshotReachable_valid valid supported]
    constructor
    · rintro ⟨complete, -, sets, fits, -, -, tieHome, tieAway, -, legal, rfl⟩
      exact ⟨rfl, ⟨fits, tieHome, tieAway, fun score inside =>
        ⟨(sets score inside).1.tiebreakPointsHome, (sets score inside).1.tiebreakPointsAway⟩⟩,
        (stateFromSnapshot_admits valid complete).mpr legal⟩
    · rintro ⟨rfl, readable, s, accepted⟩
      have complete := accepted_complete accepted
      have legal := (stateFromSnapshot_admits valid complete).mp ⟨s, accepted⟩
      have large : 7 ≤ maxSigned64 := by decide
      obtain ⟨home, away, few, games⟩ := reachable_few legal
      refine ⟨complete, few, fun score inside => ⟨⟨?_, ?_, (readable.sets score inside).1,
        (readable.sets score inside).2⟩, valid.sets score inside⟩, readable.eventId, by omega,
        by omega, readable.tiebreakPointsHome, readable.tiebreakPointsAway, valid.constructed,
        legal, rfl⟩
      · exact (games score inside).1.trans large
      · exact (games score inside).2.trans large

/-! ## A match of the provider -/

def trialMatch : MatchIdentity :=
  { openingMatch with providerSourceId := "sportradar", revisionDomainId := "main" }

def trialContext : NormalizationContext where
  toMatchIdentity := trialMatch
  matchBindingUniverseSha256 := trialMatch.sourceLineageSha256
  canonicalMatchId := "match-1"
  rawEventType := "sportradar_tennis_summary_v3"
  rawEventVersion := 1
  rawIngestSeq := 3
  rawRecordSha256 := trialMatch.sourceLineageSha256
  capturedLocalWallNs := 0
  capturedLocalMonotonicNs := 0
  capturedClockUncertaintyNs := 0
  capturedSourceWallNs := none
  capturedSourceGeneratedNs := none
  capturedProviderSequence := none
  capturedPayloadSha256 := Sha256.hexdigest []
  capturedPayload := []
  validated := by
    simp only [validateContext, bindingSafeId, bindingDigest, bind_eq_ok, exists_unit,
      checkAll_eq_ok, refuse_eq_ok, Bool.not_eq_false, List.forall_mem_cons, not_or, not_not,
      checkSome_eq_ok]
    refine ⟨by decide, rfl, ⟨by decide, by decide, by decide, hexdigest_isSha256 [], by simp⟩,
      ⟨by decide, by decide, trivial, trivial⟩, by simp, by simp, by simp⟩

/-- The second set, at three games to two and thirty to forty. -/
def secondSet : ProviderSnapshot :=
  { openingSnapshot with
    toMatchIdentity := trialMatch
    completedSets := [⟨7, 6, some 9, some 7⟩]
    gamesHome := 3
    gamesAway := 2
    pointsHome := .thirty
    pointsAway := .forty }

theorem secondSet_valid : secondSet.Valid :=
  ⟨by decide, fun score inside => by
    rw [List.mem_singleton.mp inside]
    decide⟩

theorem secondSet_readable : Readable secondSet :=
  ⟨by decide, by decide, by decide, fun score inside => by
    rw [List.mem_singleton.mp inside]
    decide⟩

/-- The second set goes from the provider's fields to a snapshot and from there to a state. -/
theorem adapter_admits_secondSet :
    snapshotReachable secondSet =
        reachable secondSet.matchFormat secondSet.toScore ∧
      normalizeFieldsOf trialContext secondSet = .ok secondSet ∧
      ∃ s, stateFromSnapshot secondSet = .ok s := by
  obtain ⟨rules, accepted, admits⟩ := adapter_admits
  have started := stateFromSnapshot_total secondSet_valid.constructed secondSet_valid.sets
    rfl (by decide)
  have normalized := (admits trialContext secondSet secondSet_valid ⟨rfl, rfl, rfl⟩
    secondSet).mpr ⟨rfl, secondSet_readable, started⟩
  obtain ⟨-, -, state⟩ := accepted _ _ _ _ _ _ _ _ _ normalized
  exact ⟨rules secondSet secondSet_valid (by decide), normalized, state⟩

/-- The same snapshot under an event id that is safe for the core alone. -/
def colonSnapshot : ProviderSnapshot := { secondSet with providerEventId := "sr:event:1" }

theorem colonSnapshot_core_only :
    colonSnapshot.Valid ∧ colonSnapshot.matchFormat ∈ supportedFormats ∧
      (∃ s, stateFromSnapshot colonSnapshot = .ok s) ∧
      ∀ (context : NormalizationContext) (eventId : Value)
        (correctionEpoch revision sourceWallNs sourceGeneratedWallNs : Nat) (complete : Value)
        (fields : StatusFields),
        snapshotFromFields context eventId correctionEpoch revision sourceWallNs
          sourceGeneratedWallNs complete fields ≠ .ok colonSnapshot := by
  have valid : colonSnapshot.Valid := ⟨by decide, secondSet_valid.sets⟩
  refine ⟨valid, by decide,
    stateFromSnapshot_total valid.constructed valid.sets rfl (by decide), ?_⟩
  intro context eventId correctionEpoch revision sourceWallNs sourceGeneratedWallNs complete fields
    answer
  obtain ⟨-, readable, -⟩ := snapshotFromFields_reads answer
  exact absurd readable.eventId (by decide)

end Inci.Sportradar
