/-
# Companion.Requirements -- the validator's passes against the constructors

Each requirement of the diagnostic validator asks of a raw value what a constructor
asks of the decoded one (`requireDigest_iff` and its siblings), and the raw digest
is the self digest of the fields (`rawSelfDigest_iff`).  So a pass over a contract
accepts exactly the raw values that are the projection of one its constructor
accepts: `parent_sound` and `parent_complete`, and so on for descriptors, trace
steps and records.
-/
import Inci.Companion.Diagnostic
import Inci.Companion.GroupReading

namespace Inci.Companion

open Inci.Theory
open Inci.Theory.Json (Text text Value lookup sortKeys Readable)
open Inci.Expert (integerBound)
open Inci.Journal (Bytes Members SameKeys canonicalJsonBytes member string matchesSha256
  isAlphanumeric isCanonicalUuid)

set_option autoImplicit false

variable {others : Registry} {levels : Nat} {v : Value} {raw : Members}

/-! ## Field requirements -/

theorem integer_iff {n : Int} {name : String} :
    Replay.integer n name = .ok () ↔ 0 ≤ n ∧ n.natAbs < integerBound := by
  simp only [Replay.integer, bind_eq_ok, exists_unit, refuse_eq_ok, not_le, not_lt, and_comm]

theorem positive_iff {n : Int} {name : String} :
    positive n name = .ok () ↔ 1 ≤ n ∧ n.natAbs < integerBound := by
  simp only [positive, bind_eq_ok, exists_unit, refuse_eq_ok, not_le]
  exact and_comm

theorem schemaVersion_iff {n : Int} : Replay.schemaVersion n = .ok () ↔ n = 1 := by
  simp only [Replay.schemaVersion, bind_eq_ok, exists_unit, integer_iff, refuse_eq_ok, not_not]
  constructor
  · exact fun checked => checked.2
  · rintro rfl
    exact ⟨⟨by decide, by decide⟩, rfl⟩

theorem sha256_iff {s : Text} {name : String} : sha256 s name = .ok () ↔ isDigest s = true := by
  rw [sha256, refuse_eq_ok, Bool.not_eq_false, isDigest]

theorem safeId_iff {s : Text} {name : String} :
    safeId s name = .ok () ↔ matchesSafeId s = true ∧ looksLikeLink s = false := by
  simp only [safeId, bind_eq_ok, exists_unit, refuse_eq_ok, Bool.not_eq_false, Bool.not_eq_true]

theorem sessionId_iff {s : Text} {name : String} : sessionId s name = .ok () ↔
    (matchesSafeId s = true ∧ looksLikeLink s = false) ∧ isCanonicalUuid s = true := by
  simp only [sessionId, bind_eq_ok, exists_unit, safeId_iff, refuse_eq_ok, Bool.not_eq_false]

theorem string_iff {s : Text} : string v = some s ↔ v = .str s :=
  ⟨Journal.string_eq_some, fun same => same ▸ rfl⟩

theorem integerValue_iff {n : Int} : integer v = some n ↔ v = .int n :=
  ⟨integer_eq_some, fun same => same ▸ rfl⟩

theorem requireInteger_iff {least n : Int} : requireInteger least v = some n ↔
    v = .int n ∧ least ≤ n ∧ n.natAbs < integerBound := by
  simp only [requireInteger, Option.bind_eq_bind, Option.bind_eq_some_iff, integerValue_iff]
  constructor
  · rintro ⟨k, rfl, read⟩
    rw [ite_eq_iff] at read
    rcases read with ⟨-, none⟩ | ⟨fits, same⟩
    · cases none
    · obtain rfl := Option.some.inj same
      obtain ⟨least, below⟩ := not_or.mp fits
      exact ⟨rfl, not_lt.mp least, not_le.mp below⟩
  · rintro ⟨rfl, least, below⟩
    exact ⟨n, rfl, if_neg (not_or.mpr ⟨not_lt.mpr least, not_le.mpr below⟩)⟩

theorem requireString_iff {s : Text} : requireString v = some s ↔ v = .str s ∧ s ≠ [] := by
  simp only [requireString, Option.bind_eq_bind, Option.bind_eq_some_iff, string_iff]
  constructor
  · rintro ⟨t, rfl, read⟩
    rw [ite_eq_iff] at read
    rcases read with ⟨-, none⟩ | ⟨held, same⟩
    · cases none
    · obtain rfl := Option.some.inj same
      exact ⟨rfl, held⟩
  · rintro ⟨rfl, held⟩
    exact ⟨s, rfl, if_neg held⟩

theorem requireDigest_iff {s : Text} :
    requireDigest v = some s ↔ v = .str s ∧ isDigest s = true := by
  simp only [requireDigest, Option.bind_eq_bind, Option.bind_eq_some_iff, string_iff]
  constructor
  · rintro ⟨t, rfl, read⟩
    rw [ite_eq_iff] at read
    rcases read with ⟨digest, same⟩ | ⟨-, none⟩
    · obtain rfl := Option.some.inj same
      exact ⟨rfl, digest⟩
    · cases none
  · rintro ⟨rfl, digest⟩
    exact ⟨s, rfl, if_pos digest⟩

/-- The spelled out grammar is the pattern. -/
theorem matchesSafeId_iff {s : Text} : matchesSafeId s = true ↔
    1 ≤ s.length ∧ s.length ≤ 128 ∧ s.head?.any isAlphanumeric = true ∧
      s.all (fun c => isAlphanumeric c || (text "._:-").contains c) = true := by
  cases s with
  | nil => simp [matchesSafeId, Journal.matchesClass]
  | cons c cs =>
      simp only [matchesSafeId, Journal.matchesClass, Bool.and_eq_true, decide_eq_true_eq,
        List.length_cons, List.head?_cons, Option.any_some, List.all_cons, Bool.or_eq_true]
      constructor
      · rintro ⟨⟨first, short⟩, rest⟩
        exact ⟨by omega, by omega, first, .inl first, rest⟩
      · rintro ⟨-, short, first, -, rest⟩
        exact ⟨⟨first, by omega⟩, rest⟩

theorem requireSafeId_iff {s : Text} : requireSafeId v = some s ↔
    v = .str s ∧ matchesSafeId s = true ∧ looksLikeLink s = false := by
  simp only [requireSafeId, Option.bind_eq_bind, Option.bind_eq_some_iff, requireString_iff,
    matchesSafeId_iff]
  constructor
  · rintro ⟨t, ⟨rfl, -⟩, read⟩
    rw [ite_eq_iff] at read
    rcases read with ⟨⟨least, short, first, every, link⟩, same⟩ | ⟨-, none⟩
    · obtain rfl := Option.some.inj same
      exact ⟨rfl, ⟨least, short, first, every⟩, link⟩
    · cases none
  · rintro ⟨rfl, ⟨least, short, first, every⟩, link⟩
    exact ⟨s, ⟨rfl, List.length_pos_iff.mp least⟩, if_pos ⟨least, short, first, every, link⟩⟩

theorem requireSessionId_iff {s : Text} : requireSessionId v = some s ↔
    v = .str s ∧ (matchesSafeId s = true ∧ looksLikeLink s = false) ∧
      isCanonicalUuid s = true := by
  simp only [requireSessionId, Option.bind_eq_bind, Option.bind_eq_some_iff, requireSafeId_iff]
  constructor
  · rintro ⟨t, ⟨rfl, safe⟩, read⟩
    rw [ite_eq_iff] at read
    rcases read with ⟨uuid, same⟩ | ⟨-, none⟩
    · obtain rfl := Option.some.inj same
      exact ⟨rfl, safe, uuid⟩
    · cases none
  · rintro ⟨rfl, safe, uuid⟩
    exact ⟨s, ⟨rfl, safe⟩, if_pos uuid⟩

/-! ## Members -/

theorem member_iff {α : Type} {name : String} {reader : Value → Option α} {a : α} :
    member raw name reader = some a ↔ ∃ w, lookup (text name) raw = some w ∧ reader w = some a :=
  Option.bind_eq_some_iff

/-- A member that is required to be a number, a digest or an identifier. -/
theorem member_integer {name : String} {least n : Int} :
    member raw name (requireInteger least) = some n ↔
      lookup (text name) raw = some (.int n) ∧ least ≤ n ∧ n.natAbs < integerBound := by
  simp only [member_iff, requireInteger_iff]
  exact ⟨fun ⟨w, found, same, fits⟩ => ⟨same ▸ found, fits⟩,
    fun ⟨found, fits⟩ => ⟨_, found, rfl, fits⟩⟩

theorem member_string {name : String} {s : Text} : member raw name requireString = some s ↔
    lookup (text name) raw = some (.str s) ∧ s ≠ [] := by
  simp only [member_iff, requireString_iff]
  exact ⟨fun ⟨w, found, same, fits⟩ => ⟨same ▸ found, fits⟩,
    fun ⟨found, fits⟩ => ⟨_, found, rfl, fits⟩⟩

theorem member_digest {name : String} {s : Text} : member raw name requireDigest = some s ↔
    lookup (text name) raw = some (.str s) ∧ isDigest s = true := by
  simp only [member_iff, requireDigest_iff]
  exact ⟨fun ⟨w, found, same, fits⟩ => ⟨same ▸ found, fits⟩,
    fun ⟨found, fits⟩ => ⟨_, found, rfl, fits⟩⟩

theorem member_safeId {name : String} {s : Text} : member raw name requireSafeId = some s ↔
    lookup (text name) raw = some (.str s) ∧ matchesSafeId s = true ∧
      looksLikeLink s = false := by
  simp only [member_iff, requireSafeId_iff]
  exact ⟨fun ⟨w, found, same, fits⟩ => ⟨same ▸ found, fits⟩,
    fun ⟨found, fits⟩ => ⟨_, found, rfl, fits⟩⟩

theorem member_sessionId {name : String} {s : Text} : member raw name requireSessionId = some s ↔
    lookup (text name) raw = some (.str s) ∧ (matchesSafeId s = true ∧
      looksLikeLink s = false) ∧ isCanonicalUuid s = true := by
  simp only [member_iff, requireSessionId_iff]
  exact ⟨fun ⟨w, found, same, fits⟩ => ⟨same ▸ found, fits⟩,
    fun ⟨found, fits⟩ => ⟨_, found, rfl, fits⟩⟩

/-- A required member is read before something else. -/
theorem read_integer {β : Type} {name : String} {least : Int} {next : Int → Option β} {b : β}
    (read : (member raw name (requireInteger least) >>= next) = some b) :
    ∃ n, lookup (text name) raw = some (.int n) ∧ (least ≤ n ∧ n.natAbs < integerBound) ∧
      next n = some b := by
  obtain ⟨n, found, rest⟩ := Option.bind_eq_some_iff.mp read
  exact ⟨n, (member_integer.mp found).1, (member_integer.mp found).2, rest⟩

theorem read_digest {β : Type} {name : String} {next : Text → Option β} {b : β}
    (read : (member raw name requireDigest >>= next) = some b) :
    ∃ s, lookup (text name) raw = some (.str s) ∧ isDigest s = true ∧ next s = some b := by
  obtain ⟨s, found, rest⟩ := Option.bind_eq_some_iff.mp read
  exact ⟨s, (member_digest.mp found).1, (member_digest.mp found).2, rest⟩

theorem read_sessionId {β : Type} {name : String} {next : Text → Option β} {b : β}
    (read : (member raw name requireSessionId >>= next) = some b) :
    ∃ s, lookup (text name) raw = some (.str s) ∧ ((matchesSafeId s = true ∧
      looksLikeLink s = false) ∧ isCanonicalUuid s = true) ∧ next s = some b := by
  obtain ⟨s, found, rest⟩ := Option.bind_eq_some_iff.mp read
  exact ⟨s, (member_sessionId.mp found).1, (member_sessionId.mp found).2, rest⟩

/-! ## Contracts -/

/-- The raw fields of a contract whose form was checked. -/
theorem contractFields_sound {r : Registry} {className : Text} {names : List Text}
    {fieldValues : Members} (shaped : diagnosticShape r (levels + 1) v = true)
    (registered : r.contract className = some names)
    (read : contractFields v className = some fieldValues) :
    IsContract v className names fieldValues ∧
      ∀ name ∈ names, ∃ w, lookup name fieldValues = some w ∧ diagnosticShape r levels w = true := by
  obtain ⟨raw, isObject, read⟩ := Option.bind_eq_some_iff.mp read
  obtain ⟨found, isFields, read⟩ := Option.bind_eq_some_iff.mp read
  rw [ite_eq_iff] at read
  rcases read with ⟨⟨named, -⟩, same⟩ | ⟨-, none⟩
  on_goal 2 => exact nomatch none
  obtain rfl := Option.some.inj same
  obtain rfl := object_eq_some isObject
  obtain ⟨keys, version, fieldValues, names', held, known, same, each⟩ :=
    shape_contract_spec shaped named
  obtain rfl := Option.some.inj (registered.symm.trans known)
  obtain ⟨w, stored, value⟩ := member_iff.mp isFields
  obtain rfl : found = fieldValues := by
    rw [object_eq_some value] at stored
    exact Value.obj.inj (Option.some.inj (stored.symm.trans held))
  obtain ⟨w, isName, name⟩ := member_iff.mp named
  rw [Journal.string_eq_some name] at isName
  exact ⟨⟨⟨raw, rfl, keys, isName, version, held⟩, same⟩, each⟩

theorem contractFields_complete {className : Text} {names : List Text} {fieldValues : Members}
    (contract : IsContract v className names fieldValues) :
    contractFields v className = some fieldValues := by
  obtain ⟨⟨raw, rfl, -, isName, isVersion, isFields⟩, -⟩ := contract
  simp only [contractFields, Option.bind_eq_bind, Option.bind_eq_some_iff]
  refine ⟨raw, rfl, fieldValues, member_of_lookup isFields object, if_pos ⟨?_, ?_⟩⟩
  · exact member_of_lookup isName string
  · rw [isVersion]
    rfl

theorem lookupAll_project {fields : List (Text × Decoded)} (each : FieldsProject fields raw) :
    ∃ ordered, (fields.map Prod.fst).mapM (fun name => lookup name raw) = some ordered ∧
      List.Forall₂ Decoded.Projects (fields.map Prod.snd) ordered ∧
      ∀ w ∈ ordered, ∃ k, lookup k raw = some w := by
  induction fields with
  | nil => exact ⟨[], rfl, .nil, fun _ none => absurd none List.not_mem_nil⟩
  | cons f rest ih =>
      obtain ⟨⟨w, found, projects⟩, later⟩ := List.forall_mem_cons.mp each
      obtain ⟨ordered, all, related, held⟩ := ih later
      refine ⟨w :: ordered, ?_, .cons projects related,
        List.forall_mem_cons.mpr ⟨⟨f.1, found⟩, held⟩⟩
      rw [List.map_cons, List.mapM_cons, found]
      exact Option.bind_eq_some_iff.mpr ⟨_, rfl, Option.bind_eq_some_iff.mpr ⟨_, all, rfl⟩⟩

/-- The digest over raw values is the digest over the fields they are projections of. -/
theorem rawSelfDigest_eq {fields : List (Text × Decoded)} {label : String}
    (readable : Readable (.obj raw)) (each : FieldsProject fields raw) :
    rawSelfDigest raw (fields.map Prod.fst) label =
      domainSha256 label (.tuple (fields.map Prod.snd)) := by
  obtain ⟨ordered, all, related, held⟩ := lookupAll_project each
  have items : Json.ReadableItems ordered := (Json.readableItems_iff ordered).mpr fun w inside => by
    obtain ⟨k, found⟩ := held w inside
    exact readable_member readable found
  have whole : Readable (.obj [(text "$tuple", .arr ordered)]) :=
    ⟨List.nodup_singleton _, Expert.text_survives _, items, trivial⟩
  have projects : (Decoded.tuple (fields.map Prod.snd)).Projects
      (.obj [(text "$tuple", .arr ordered)]) := by
    refine (projects_tuple whole).mpr ⟨ordered, ⟨_, rfl, Journal.sameKeys_of_eq rfl, ?_⟩, related⟩
    rfl
  rw [rawSelfDigest, domainSha256, projects.canonicalBytes, all, Option.map_eq_bind]
  rfl

/-- The raw digest of a contract is the digest its constructor checks. -/
theorem rawSelfDigest_iff {fields : List (Text × Decoded)} {names : List Text} {digest : Text}
    {label name : String} (readable : Readable (.obj raw)) (named : fields.map Prod.fst = names)
    (each : FieldsProject fields raw) : rawSelfDigest raw names.dropLast label = some digest ↔
      selfDigest fields digest label name = .ok () := by
  have some : FieldsProject fields.dropLast raw := fun f inside => each f (List.mem_of_mem_dropLast inside)
  rw [selfDigest, refuse_eq_ok, not_not, ← rawSelfDigest_eq readable some, List.map_dropLast, named]

theorem field_str {k s : Text} :
    (∃ w, lookup k raw = some w ∧ (Decoded.str s).Projects w) ↔ lookup k raw = some (.str s) := by
  simp only [projects_str, exists_eq_right]

theorem field_int {k : Text} {n : Int} :
    (∃ w, lookup k raw = some w ∧ (Decoded.int n).Projects w) ↔
      lookup k raw = some (.int n) ∧ n.natAbs < integerBound := by
  simp only [projects_int]
  exact ⟨fun ⟨w, found, same, below⟩ => ⟨same ▸ found, below⟩,
    fun ⟨found, below⟩ => ⟨_, found, rfl, below⟩⟩

/-! ## Parents -/

theorem parent_fields {p : ParentEvidence} : FieldsProject p.fields raw ↔
    lookup (text "session_id") raw = some (.str p.sessionId) ∧
    (lookup (text "ingest_seq") raw = some (.int p.ingestSeq) ∧
      p.ingestSeq.natAbs < integerBound) ∧
    lookup (text "record_sha256") raw = some (.str p.recordSha256) ∧
    lookup (text "event_type") raw = some (.str p.eventType) ∧
    (lookup (text "event_version") raw = some (.int p.eventVersion) ∧
      p.eventVersion.natAbs < integerBound) ∧
    (lookup (text "local_wall_ns") raw = some (.int p.localWallNs) ∧
      p.localWallNs.natAbs < integerBound) ∧
    (lookup (text "local_monotonic_ns") raw = some (.int p.localMonotonicNs) ∧
      p.localMonotonicNs.natAbs < integerBound) ∧
    (lookup (text "clock_uncertainty_ns") raw = some (.int p.clockUncertaintyNs) ∧
      p.clockUncertaintyNs.natAbs < integerBound) := by
  rw [FieldsProject, ← List.forall_iff_forall_mem]
  simp only [ParentEvidence.fields, List.Forall, field_str, field_int]

theorem parent_contract {p : ParentEvidence} (readable : Readable v) :
    p.contract.Projects v ↔ ∃ fieldValues,
      IsContract v parentName ParentEvidence.fieldNames fieldValues ∧
        FieldsProject p.fields fieldValues := by
  have named := ParentEvidence.fields_keys p
  rw [ParentEvidence.contract, projects_contract (named ▸ names_nodup (by decide)) readable, named]

theorem parent_sound {fieldValues : Members}
    (shaped : diagnosticShape (withGroup others) (levels + 1) v = true) (readable : Readable v)
    (read : validateParent v = some fieldValues) :
    ∃ p : ParentEvidence, p.postInit = .ok () ∧ p.contract.Projects v := by
  simp only [validateParent, Option.bind_eq_bind, Option.bind_eq_some_iff, member_integer,
    member_digest, member_safeId, member_sessionId] at read
  obtain ⟨fieldValues, contract, session, ⟨hasSession, isSession⟩, ingest, ⟨hasIngest, isIngest⟩,
    record, ⟨hasRecord, isRecord⟩, event, ⟨hasEvent, isEvent⟩, version, ⟨hasVersion, isVersion⟩,
    wall, ⟨hasWall, isWall⟩, monotonic, ⟨hasMonotonic, isMonotonic⟩, clock,
    ⟨hasClock, isClock⟩, -⟩ := read
  obtain ⟨isContract, -⟩ := contractFields_sound shaped (withGroup_parent others).1 contract
  refine ⟨⟨session, ingest, record, event, version, wall, monotonic, clock⟩, ?_, ?_⟩
  · simp only [ParentEvidence.postInit, bind_eq_ok, exists_unit, sessionId_iff, positive_iff,
      sha256_iff, safeId_iff, integer_iff]
    exact ⟨isSession, isIngest, isRecord, isEvent, isVersion, isWall, isMonotonic, isClock⟩
  · refine (parent_contract readable).mpr ⟨fieldValues, isContract, parent_fields.mpr ?_⟩
    exact ⟨hasSession, ⟨hasIngest, isIngest.2⟩, hasRecord, hasEvent, ⟨hasVersion, isVersion.2⟩,
      ⟨hasWall, isWall.2⟩, ⟨hasMonotonic, isMonotonic.2⟩, ⟨hasClock, isClock.2⟩⟩

theorem parent_complete {p : ParentEvidence} (valid : p.postInit = .ok ()) (readable : Readable v)
    (projects : p.contract.Projects v) : ∃ fieldValues, validateParent v = some fieldValues := by
  obtain ⟨fieldValues, isContract, each⟩ := (parent_contract readable).mp projects
  obtain ⟨hasSession, ⟨hasIngest, -⟩, hasRecord, hasEvent, ⟨hasVersion, -⟩, ⟨hasWall, -⟩,
    ⟨hasMonotonic, -⟩, ⟨hasClock, -⟩⟩ := parent_fields.mp each
  simp only [ParentEvidence.postInit, bind_eq_ok, exists_unit, sessionId_iff, positive_iff,
    sha256_iff, safeId_iff, integer_iff] at valid
  obtain ⟨isSession, isIngest, isRecord, isEvent, isVersion, isWall, isMonotonic, isClock⟩ := valid
  simp only [validateParent, Option.bind_eq_bind, Option.bind_eq_some_iff, member_integer,
    member_digest, member_safeId, member_sessionId]
  exact ⟨fieldValues, fieldValues, contractFields_complete isContract,
    _, ⟨hasSession, isSession⟩, _, ⟨hasIngest, isIngest⟩, _, ⟨hasRecord, isRecord⟩,
    _, ⟨hasEvent, isEvent⟩, _, ⟨hasVersion, isVersion⟩, _, ⟨hasWall, isWall⟩,
    _, ⟨hasMonotonic, isMonotonic⟩, _, ⟨hasClock, isClock⟩, rfl⟩

/-! ## Payload descriptors -/

theorem expectedPayloadContract_eq (kind : ExpertEventKind) :
    expectedPayloadContract kind = kind.payloadContract := by
  cases kind <;> rfl

theorem payload_fields {p : PayloadDescriptor} : FieldsProject p.fields raw ↔
    (lookup (text "schema_version") raw = some (.int p.schemaVersion) ∧
      p.schemaVersion.natAbs < integerBound) ∧
    lookup (text "content_type") raw = some (.str p.contentType) ∧
    lookup (text "payload_encoding") raw = some (.str p.payloadEncoding) ∧
    lookup (text "payload_contract_name") raw = some (.str p.payloadContractName) ∧
    (lookup (text "payload_length") raw = some (.int p.payloadLength) ∧
      p.payloadLength.natAbs < integerBound) ∧
    lookup (text "payload_sha256") raw = some (.str p.payloadSha256) := by
  rw [FieldsProject, ← List.forall_iff_forall_mem]
  simp only [PayloadDescriptor.fields, List.Forall, field_str, field_int]

theorem payload_contract {p : PayloadDescriptor} (readable : Readable v) :
    p.contract.Projects v ↔ ∃ fieldValues,
      IsContract v payloadName PayloadDescriptor.fieldNames fieldValues ∧
        FieldsProject p.fields fieldValues := by
  have named := PayloadDescriptor.fields_keys p
  rw [PayloadDescriptor.contract, projects_contract (named ▸ names_nodup (by decide)) readable,
    named]

theorem payload_sound {kind : ExpertEventKind} {length : Int} {digest : Text}
    (shaped : diagnosticShape (withGroup others) (levels + 1) v = true) (readable : Readable v)
    (read : validatePayload v kind = some (length, digest)) :
    ∃ p : PayloadDescriptor, p.postInit = .ok () ∧ p.contract.Projects v ∧
      p.payloadContractName = text kind.payloadContract ∧ p.payloadLength = length ∧
      p.payloadSha256 = digest := by
  simp only [validatePayload, Option.bind_eq_bind, Option.bind_eq_some_iff, member_integer,
    member_string, member_digest] at read
  obtain ⟨fieldValues, contract, version, ⟨hasVersion, isVersion⟩, content, ⟨hasContent, -⟩,
    encoding, ⟨hasEncoding, -⟩, name, ⟨hasName, -⟩, size, ⟨hasLength, isLength⟩, sha,
    ⟨hasDigest, isDigest⟩, read⟩ := read
  rw [ite_eq_iff] at read
  rcases read with ⟨⟨rfl, rfl, rfl, rfl, short⟩, same⟩ | ⟨-, none⟩
  on_goal 2 => cases none
  obtain ⟨rfl, rfl⟩ := Prod.mk.inj (Option.some.inj same)
  obtain ⟨isContract, -⟩ := contractFields_sound shaped (withGroup_payload others).1 contract
  rw [expectedPayloadContract_eq] at hasName
  refine ⟨⟨1, contentType, payloadEncoding, text kind.payloadContract, size, sha⟩, ?_, ?_, rfl,
    rfl, rfl⟩
  · simp only [PayloadDescriptor.postInit, bind_eq_ok, exists_unit, schemaVersion_iff,
      refuse_eq_ok, not_not, integer_iff, sha256_iff, not_lt, true_and]
    exact ⟨List.mem_map_of_mem (ExpertEventKind.mem_all kind), isLength, short, isDigest⟩
  · refine (payload_contract readable).mpr ⟨fieldValues, isContract, payload_fields.mpr ?_⟩
    exact ⟨⟨hasVersion, isVersion.2⟩, hasContent, hasEncoding, hasName, ⟨hasLength, isLength.2⟩,
      hasDigest⟩

theorem payload_complete {p : PayloadDescriptor} {kind : ExpertEventKind}
    (valid : p.postInit = .ok ()) (expected : p.payloadContractName = text kind.payloadContract)
    (readable : Readable v) (projects : p.contract.Projects v) :
    validatePayload v kind = some (p.payloadLength, p.payloadSha256) := by
  obtain ⟨fieldValues, isContract, each⟩ := (payload_contract readable).mp projects
  obtain ⟨⟨hasVersion, -⟩, hasContent, hasEncoding, hasName, ⟨hasLength, -⟩, hasDigest⟩ :=
    payload_fields.mp each
  simp only [PayloadDescriptor.postInit, bind_eq_ok, exists_unit, schemaVersion_iff, refuse_eq_ok,
    not_not, integer_iff, sha256_iff, not_lt] at valid
  obtain ⟨version, content, encoding, -, isLength, short, isDigest⟩ := valid
  rw [version] at hasVersion
  rw [content] at hasContent
  rw [encoding] at hasEncoding
  rw [expected, ← expectedPayloadContract_eq] at hasName
  have named : text (expectedPayloadContract kind) ≠ [] := by cases kind <;> decide
  simp only [validatePayload, Option.bind_eq_bind, Option.bind_eq_some_iff, member_integer,
    member_string, member_digest]
  exact ⟨fieldValues, contractFields_complete isContract, 1, ⟨hasVersion, by decide⟩,
    contentType, ⟨hasContent, by decide⟩, payloadEncoding, ⟨hasEncoding, by decide⟩,
    _, ⟨hasName, named⟩, _, ⟨hasLength, isLength⟩, _, ⟨hasDigest, isDigest⟩,
    if_pos ⟨rfl, rfl, rfl, rfl, short⟩⟩

/-! ## Trace steps -/

theorem trace_fields {t : TraceStep} : FieldsProject t.fields raw ↔
    (lookup (text "schema_version") raw = some (.int t.schemaVersion) ∧
      t.schemaVersion.natAbs < integerBound) ∧
    (lookup (text "expert_seq") raw = some (.int t.expertSeq) ∧
      t.expertSeq.natAbs < integerBound) ∧
    lookup (text "prior_trace_sha256") raw = some (.str t.priorTraceSha256) ∧
    lookup (text "expert_record_sha256") raw = some (.str t.expertRecordSha256) ∧
    lookup (text "post_expert_state_sha256") raw = some (.str t.postExpertStateSha256) ∧
    lookup (text "post_trace_sha256") raw = some (.str t.postTraceSha256) := by
  rw [FieldsProject, ← List.forall_iff_forall_mem]
  simp only [TraceStep.fields, List.Forall, field_str, field_int]

theorem trace_contract {t : TraceStep} (readable : Readable v) :
    t.contract.Projects v ↔ ∃ fieldValues,
      IsContract v traceName TraceStep.fieldNames fieldValues ∧
        FieldsProject t.fields fieldValues := by
  have named := TraceStep.fields_keys t
  rw [TraceStep.contract, projects_contract (named ▸ names_nodup (by decide)) readable, named]

theorem trace_sound {t : TraceStep}
    (shaped : diagnosticShape (withGroup others) (levels + 1) v = true) (readable : Readable v)
    (read : validateTrace v = some t) : t.postInit = .ok () ∧ t.contract.Projects v := by
  simp only [validateTrace, Option.bind_eq_bind, Option.bind_eq_some_iff, member_integer,
    member_digest] at read
  obtain ⟨fieldValues, contract, version, ⟨hasVersion, isVersion⟩, seq, ⟨hasSeq, isSeq⟩,
    prior, ⟨hasPrior, isPrior⟩, record, ⟨hasRecord, isRecord⟩, state, ⟨hasState, isState⟩,
    post, ⟨hasPost, isPost⟩, read⟩ := read
  rw [ite_eq_iff] at read
  rcases read with ⟨⟨rfl, digest⟩, same⟩ | ⟨-, none⟩
  on_goal 2 => cases none
  obtain rfl := Option.some.inj same
  obtain ⟨isContract, -⟩ := contractFields_sound shaped (withGroup_trace others).1 contract
  have each : FieldsProject (TraceStep.fields ⟨1, seq, prior, record, state, post⟩) fieldValues :=
    trace_fields.mpr ⟨⟨hasVersion, isVersion.2⟩, ⟨hasSeq, isSeq.2⟩, hasPrior, hasRecord, hasState,
      hasPost⟩
  refine ⟨?_, (trace_contract readable).mpr ⟨fieldValues, isContract, each⟩⟩
  simp only [TraceStep.postInit, bind_eq_ok, exists_unit, schemaVersion_iff, positive_iff,
    sha256_iff, true_and]
  exact ⟨isSeq, isPrior, isRecord, isState, isPost,
    (rawSelfDigest_iff (isContract.readable readable) (TraceStep.fields_keys _) each).mp digest⟩

theorem trace_complete {t : TraceStep} (valid : t.postInit = .ok ()) (readable : Readable v)
    (projects : t.contract.Projects v) : validateTrace v = some t := by
  obtain ⟨fieldValues, isContract, each⟩ := (trace_contract readable).mp projects
  obtain ⟨⟨hasVersion, -⟩, ⟨hasSeq, -⟩, hasPrior, hasRecord, hasState, hasPost⟩ :=
    trace_fields.mp each
  simp only [TraceStep.postInit, bind_eq_ok, exists_unit, schemaVersion_iff, positive_iff,
    sha256_iff] at valid
  obtain ⟨version, isSeq, isPrior, isRecord, isState, isPost, digest⟩ := valid
  have raw := (rawSelfDigest_iff (isContract.readable readable) (TraceStep.fields_keys _)
    each).mpr digest
  simp only [validateTrace, Option.bind_eq_bind, Option.bind_eq_some_iff, member_integer,
    member_digest]
  exact ⟨fieldValues, contractFields_complete isContract,
    _, ⟨hasVersion, by rw [version]; decide⟩, _, ⟨hasSeq, isSeq⟩, _, ⟨hasPrior, isPrior⟩,
    _, ⟨hasRecord, isRecord⟩, _, ⟨hasState, isState⟩, _, ⟨hasPost, isPost⟩,
    if_pos ⟨version, raw⟩⟩

end Inci.Companion
