/-
# Journal.RecordIdentity -- one byte pair for each record

`encodeRecord_decodeRecord` is the other round trip of the codec: whatever the
decoder accepts is what the encoder writes of the answer, so two byte pairs never
decode to one record.  `decodeRecord_of_encoded` says which valid events come
back: all but a session start whose payload is no manifest.  `record_codec` puts
the two together with the digest that identifies a record.
-/
import Inci.Journal.Acceptance
import Inci.Journal.WriteRead
import Inci.Theory.JsonReading

namespace Inci.Journal

open Inci.Theory
open Inci.Theory.Json (Text text Value lookup)

set_option autoImplicit false

/-! ## Objects in any order -/

/-- Objects with distinct keys that answer every key alike have the same members. -/
theorem SameMembers.perm {raw members : Members} (same : SameMembers raw members)
    (distinct : (raw.map Prod.fst).Nodup) (distinct' : (members.map Prod.fst).Nodup) :
    raw.Perm members := by
  refine (List.perm_ext_iff_of_nodup distinct.of_map distinct'.of_map).mpr ?_
  rintro ⟨k, v⟩
  constructor
  · intro inside
    exact Json.mem_of_lookup ((same k).symm.trans (Json.lookup_of_mem distinct inside))
  · intro inside
    exact Json.mem_of_lookup ((same k).trans (Json.lookup_of_mem distinct' inside))

/-- Sorting by key forgets the order the members were in. -/
theorem mergeSort_members {one other : Members} (perm : one.Perm other)
    (distinct : (one.map Prod.fst).Nodup) :
    one.mergeSort Json.keyLe = other.mergeSort Json.keyLe := by
  have sorted := List.mergeSort_perm one Json.keyLe
  have sorted' := List.mergeSort_perm other Json.keyLe
  refine @List.Perm.eq_of_pairwise _ (fun a b => Json.keyLe a b = true) _ _ ?_
    (List.pairwise_mergeSort Json.keyLe_trans Json.keyLe_total _)
    (List.pairwise_mergeSort Json.keyLe_trans Json.keyLe_total _)
    (sorted.trans (perm.trans sorted'.symm))
  rintro ⟨k, v⟩ ⟨l, w⟩ inside inside' before after
  have keys : k = l := le_antisymm (of_decide_eq_true before) (of_decide_eq_true after)
  subst keys
  have first := Json.lookup_of_mem distinct (sorted.mem_iff.mp inside)
  have second := Json.lookup_of_mem distinct (perm.mem_iff.mpr (sorted'.mem_iff.mp inside'))
  rw [Option.some.inj (first.symm.trans second)]

/-- The canonical bytes of an object depend on what it answers alone. -/
theorem canonicalJsonBytes_congr {raw members : Members} (same : SameMembers raw members)
    (distinct : (raw.map Prod.fst).Nodup) (distinct' : (members.map Prod.fst).Nodup) :
    canonicalJsonBytes (.obj raw) = canonicalJsonBytes (.obj members) := by
  have perm := same.perm distinct distinct'
  have sorted : Json.sortKeys (.obj raw) = Json.sortKeys (.obj members) := by
    rw [Json.sortKeys, Json.sortKeys, Json.sortMembers_eq_map, Json.sortMembers_eq_map]
    congr 1
    refine mergeSort_members (perm.map _) ?_
    rw [List.map_map]
    exact distinct
  have prints : Json.printable (.obj raw) = Json.printable (.obj members) := by
    rw [Bool.eq_iff_iff]
    exact (printableMembers_iff raw).trans ((forall_congr' fun m => by rw [perm.mem_iff]).trans
      (printableMembers_iff members).symm)
  rw [canonicalJsonBytes, canonicalJsonBytes, Json.encode_eq, Json.encode_eq, Json.dumps,
    Json.dumps, prints, sorted]

/-- A strict reading has distinct keys. -/
theorem strictObject_distinct {content : Bytes} {expected : List Text} {raw : Members}
    (read : strictObject content expected = some raw) : (raw.map Prod.fst).Nodup := by
  unfold strictObject at read
  by_cases mark : byteOrderMark <+: content
  · rw [if_pos mark] at read
    exact nomatch read
  · rw [if_neg mark] at read
    obtain ⟨members, loaded, checked⟩ := Option.bind_eq_some_iff.mp read
    obtain rfl : members = raw := by
      by_cases fine : SameKeys expected members ∧ canonicalJsonBytes (.obj members) = some content
      · rw [if_pos fine] at checked
        exact Option.some.inj checked
      · rw [if_neg fine] at checked
        exact nomatch checked
    obtain ⟨decoded, utf8, loaded⟩ := Option.bind_eq_some_iff.mp loaded
    obtain ⟨v, json, object⟩ := Option.bind_eq_some_iff.mp loaded
    have readable := Json.loads_readable (Json.decode_points utf8) json
    cases v with
    | obj found =>
        obtain rfl := Option.some.inj object
        rw [Json.Readable] at readable
        exact readable.1
    | null => exact nomatch object
    | bool b => exact nomatch object
    | int n => exact nomatch object
    | str s => exact nomatch object
    | arr items => exact nomatch object

/-! ## Fields as they were written -/

theorem natural_eq_some {v : Value} {n : Nat} (read : natural v = some n) : v = .int n := by
  rcases v with _ | b | (k | k) | s | items | members <;> simp_all [natural]

theorem string_eq_some {v : Value} {s : Text} (read : string v = some s) : v = .str s := by
  cases v <;> simp_all [string]

theorem optional_natural_eq_some {v : Value} {n : Option Nat}
    (read : optional natural v = some n) : v = optionalNumber n := by
  rcases v with _ | b | (k | k) | s | items | members <;>
    simp_all [optional, natural, optionalNumber, eq_comm]

theorem optional_string_eq_some {v : Value} {s : Option Text}
    (read : optional string v = some s) : v = optionalString s := by
  cases v <;> simp_all [optional, string, optionalString, eq_comm]

theorem decodeEnum_eq_some {α : Type} {all : List α} {value : α → Text} {v : Value} {a : α}
    (read : decodeEnum all value v = some a) : v = .str (value a) := by
  obtain ⟨s, isString, found⟩ := Option.bind_eq_some_iff.mp read
  have named := List.find?_some found
  rw [string_eq_some isString, of_decide_eq_true named]

/-- A member is what its reader answered, written back. -/
theorem member_written {α β : Type} {raw : Members} {name : String} {reader : Value → Option α}
    {write : α → Value} {next : α → Option β} {b : β}
    (read : (member raw name reader >>= next) = some b)
    (inverse : ∀ {v a}, reader v = some a → v = write a) :
    ∃ a, lookup (text name) raw = some (write a) ∧ next a = some b := by
  obtain ⟨a, found, rest⟩ := Option.bind_eq_some_iff.mp read
  obtain ⟨v, held, value⟩ := Option.bind_eq_some_iff.mp found
  exact ⟨a, by rw [held, inverse value], rest⟩

/-- Every member of an accepted object is the one its field is written as. -/
theorem eventFields_written {raw : Members} {payload : Bytes} {e : PersistedEvent}
    (digest : member raw "payload_sha256" string = some (hexdigest payload))
    (read : eventFields raw payload = some e) :
    e.payload = payload ∧ ∀ m ∈ e.metadataProjection, lookup m.1 raw = some m.2 := by
  obtain ⟨_, version, read⟩ := member_written read natural_eq_some
  obtain ⟨_, kind, read⟩ := member_written read decodeEnum_eq_some
  obtain ⟨_, seq, read⟩ := member_written read natural_eq_some
  obtain ⟨_, session, read⟩ := member_written read string_eq_some
  obtain ⟨_, event, read⟩ := member_written read string_eq_some
  obtain ⟨_, eventVersion, read⟩ := member_written read natural_eq_some
  obtain ⟨_, source, read⟩ := member_written read decodeEnum_eq_some
  obtain ⟨_, sourceId, read⟩ := member_written read string_eq_some
  obtain ⟨_, entity, read⟩ := member_written read string_eq_some
  obtain ⟨_, endpoint, read⟩ := member_written read optional_string_eq_some
  obtain ⟨_, endpointState, read⟩ := member_written read decodeEnum_eq_some
  obtain ⟨_, channel, read⟩ := member_written read optional_string_eq_some
  obtain ⟨_, channelState, read⟩ := member_written read decodeEnum_eq_some
  obtain ⟨_, request, read⟩ := member_written read optional_string_eq_some
  obtain ⟨_, requestState, read⟩ := member_written read decodeEnum_eq_some
  obtain ⟨_, sourceWall, read⟩ := member_written read optional_natural_eq_some
  obtain ⟨_, generated, read⟩ := member_written read optional_natural_eq_some
  obtain ⟨_, localWall, read⟩ := member_written read natural_eq_some
  obtain ⟨_, monotonic, read⟩ := member_written read natural_eq_some
  obtain ⟨_, uncertainty, read⟩ := member_written read natural_eq_some
  obtain ⟨_, epoch, read⟩ := member_written read natural_eq_some
  obtain ⟨_, sequence, read⟩ := member_written read optional_string_eq_some
  obtain ⟨_, parent, read⟩ := member_written read optional_natural_eq_some
  obtain ⟨_, content, read⟩ := member_written read string_eq_some
  obtain ⟨_, encoding, read⟩ := member_written read string_eq_some
  obtain ⟨_, transform, read⟩ := member_written read string_eq_some
  obtain ⟨_, retention, read⟩ := member_written read optional_natural_eq_some
  obtain ⟨_, -, read⟩ := Option.bind_eq_some_iff.mp read
  obtain ⟨v, stored, value⟩ := Option.bind_eq_some_iff.mp digest
  rw [string_eq_some value] at stored
  obtain rfl := Option.some.inj read
  refine ⟨rfl, ?_⟩
  refine List.forall_iff_forall_mem.mp ?_
  exact And.intro version <| And.intro kind <| And.intro seq <| And.intro session <|
    And.intro event <| And.intro eventVersion <| And.intro source <| And.intro sourceId <|
    And.intro entity <| And.intro endpoint <| And.intro endpointState <| And.intro channel <|
    And.intro channelState <| And.intro request <| And.intro requestState <|
    And.intro sourceWall <| And.intro generated <| And.intro localWall <| And.intro monotonic <|
    And.intro uncertainty <| And.intro epoch <| And.intro sequence <| And.intro parent <|
    And.intro content <| And.intro encoding <| And.intro transform <| And.intro retention <| stored

/-- The accepted object is the event's own, in some order. -/
theorem eventFields_sameMembers {raw : Members} {payload : Bytes} {e : PersistedEvent}
    (keys : SameKeys metadataKeys raw)
    (digest : member raw "payload_sha256" string = some (hexdigest payload))
    (read : eventFields raw payload = some e) : SameMembers raw e.metadataProjection := by
  obtain ⟨-, written⟩ := eventFields_written digest read
  have distinct : (e.metadataProjection.map Prod.fst).Nodup := metadata_keys e ▸ metadataKeys_nodup
  intro k
  by_cases known : k ∈ metadataKeys
  · rw [← metadata_keys e] at known
    obtain ⟨⟨_, v⟩, inside, rfl⟩ := List.mem_map.mp known
    rw [written _ inside, Json.lookup_of_mem distinct inside]
  · have absent : lookup k raw = none := by
      rw [← Option.not_isSome_iff_eq_none, Json.lookup_isSome]
      exact fun inside => known (keys.1 k inside)
    have absent' : lookup k e.metadataProjection = none := by
      rw [← Option.not_isSome_iff_eq_none, Json.lookup_isSome, metadata_keys]
      exact known
    rw [absent, absent']

/-! ## The round trips -/

/-- What the decoder accepts is what the encoder writes of its answer. -/
theorem encodeRecord_decodeRecord {metadata payload : Bytes} {e : PersistedEvent}
    (decoded : decodeRecord metadata payload = some e) :
    e.validate = .ok () ∧ SessionStartPayload e ∧ encodeRecord e = some (metadata, payload) := by
  obtain ⟨raw, read, rest⟩ := Option.bind_eq_some_iff.mp decoded
  by_cases digest : member raw "payload_sha256" string = some (hexdigest payload)
  · rw [if_neg (not_not.mpr digest)] at rest
    obtain ⟨event, fields, checked⟩ := Option.bind_eq_some_iff.mp rest
    by_cases fine : event.validate = .ok () ∧ SessionStartPayload event
    · rw [if_pos fine] at checked
      obtain rfl := Option.some.inj checked
      obtain ⟨keys, canonical⟩ := strictObject_spec read
      have same := eventFields_sameMembers keys digest fields
      rw [canonicalJsonBytes_congr same (strictObject_distinct read)
        (metadata_keys event ▸ metadataKeys_nodup)] at canonical
      refine ⟨fine.1, fine.2, ?_⟩
      rw [encodeRecord, if_neg (not_not.mpr (valid_digest fine.1)), canonicalMetadata, canonical,
        (eventFields_written digest fields).1]
      rfl
    · rw [if_neg fine] at checked
      cases checked
  · rw [if_pos digest] at rest
    cases rest

/-- The fields of a valid event, read from the bytes it was written as. -/
theorem eventFields_of_encoded {e : PersistedEvent} (valid : e.validate = .ok ())
    {metadata payload : Bytes} (encoded : encodeRecord e = some (metadata, payload)) :
    payload = e.payload ∧ ∃ raw, strictObject metadata metadataKeys = some raw ∧
      member raw "payload_sha256" string = some (hexdigest e.payload) ∧
      eventFields raw e.payload = some e := by
  have digest := valid_digest valid
  have terse := metadata_terse valid
  rw [encodeRecord, if_neg (not_not.mpr digest)] at encoded
  obtain ⟨found, written, pair⟩ := Option.map_eq_some_iff.mp encoded
  obtain ⟨rfl, rfl⟩ := Prod.mk.inj pair
  have ascii : ∀ m ∈ e.metadataProjection, Utf8.Ascii m.1 := fun m inside =>
    metadataKeys_ascii _ (metadata_keys e ▸ List.mem_map_of_mem inside)
  obtain ⟨raw, read, same⟩ := strictObject_canonical (metadata_keys e ▸ metadataKeys_nodup)
    (sameKeys_of_eq (metadata_keys e)) ascii (fun m inside => (terse m inside).scalar) written
  refine ⟨rfl, raw, read, ?_, ?_⟩
  · rw [member_congr same]
    rfl
  · rw [eventFields_congr same, eventFields_projection, PersistedEvent.digested, ← digest]

/-- A valid event comes back exactly when its payload is a manifest where one is asked for. -/
theorem decodeRecord_of_encoded {e : PersistedEvent} (valid : e.validate = .ok ())
    {metadata payload : Bytes} (encoded : encodeRecord e = some (metadata, payload)) :
    decodeRecord metadata payload = some e ↔ SessionStartPayload e :=
  ⟨fun decoded => (encodeRecord_decodeRecord decoded).2.1,
    fun manifest => decodeRecord_encodeRecord valid manifest encoded⟩

/-- A valid event is written exactly when its numbers print. -/
theorem encodeRecord_iff {e : PersistedEvent} (valid : e.validate = .ok ()) :
    (∃ metadata payload, encodeRecord e = some (metadata, payload)) ↔ Prints e := by
  constructor
  · rintro ⟨metadata, payload, encoded⟩
    rw [encodeRecord, if_neg (not_not.mpr (valid_digest valid))] at encoded
    obtain ⟨found, written, -⟩ := Option.map_eq_some_iff.mp encoded
    obtain ⟨t, dumped, -⟩ := canonicalJsonBytes_eq_some.mp written
    exact dumps_printable dumped
  · intro prints
    obtain ⟨metadata, encoded, -⟩ := encodeRecord_total valid prints
    exact ⟨metadata, _, encoded⟩

/-- Valid events written alike are equal. -/
theorem encodeRecord_injective {e f : PersistedEvent} (valid : e.validate = .ok ())
    (valid' : f.validate = .ok ()) {metadata payload : Bytes}
    (first : encodeRecord e = some (metadata, payload))
    (second : encodeRecord f = some (metadata, payload)) : e = f := by
  obtain ⟨same, raw, read, -, fields⟩ := eventFields_of_encoded valid first
  obtain ⟨same', raw', read', -, fields'⟩ := eventFields_of_encoded valid' second
  obtain rfl := Option.some.inj (read.symm.trans read')
  rw [← same] at fields
  rw [← same'] at fields'
  exact Option.some.inj (fields.symm.trans fields')

/-! ## The digest of a record -/

/-- The hashed bytes of a record fix its metadata and its payload. -/
theorem canonicalRecordBytes_injective {e f : PersistedEvent} {content : Bytes}
    (first : canonicalRecordBytes e = some content)
    (second : canonicalRecordBytes f = some content) :
    ∃ pair, encodeRecord e = some pair ∧ encodeRecord f = some pair := by
  obtain ⟨⟨metadata, payload⟩, encoded, first⟩ := Option.bind_eq_some_iff.mp first
  obtain ⟨size, sized, first⟩ := Option.bind_eq_some_iff.mp first
  obtain ⟨size', sized', first⟩ := Option.bind_eq_some_iff.mp first
  obtain ⟨⟨metadata', payload'⟩, encoded', second⟩ := Option.bind_eq_some_iff.mp second
  obtain ⟨other, sizedOther, second⟩ := Option.bind_eq_some_iff.mp second
  obtain ⟨other', sizedOther', second⟩ := Option.bind_eq_some_iff.mp second
  have bytes := (Option.some.inj first).trans (Option.some.inj second).symm
  have eight : ∀ {n : Nat} {b : Bytes}, lengthBytes n = some b → b.length = 8 :=
    fun packed => Layout.pack_length packed
  have fixes : ∀ {n k : Nat} {b : Bytes}, lengthBytes n = some b → lengthBytes k = some b →
      n = k := fun one two =>
    (Prod.mk.inj (Option.some.inj ((Layout.unpack_pack one).symm.trans (Layout.unpack_pack two)))).1
  simp only [List.append_assoc] at bytes
  obtain ⟨heads, rest⟩ := List.append_inj (List.append_cancel_left bytes)
    ((eight sized).trans (eight sizedOther).symm)
  obtain ⟨same, tail⟩ := List.append_inj rest (fixes sized (heads ▸ sizedOther))
  obtain ⟨-, same'⟩ := List.append_inj tail ((eight sized').trans (eight sizedOther').symm)
  subst same same'
  exact ⟨_, encoded, encoded'⟩

/-- The record codec.  A valid event is written and read back exactly when its numbers
print and, if it is a session start, its payload is a manifest.  What the decoder accepts
is a valid event whose encoding are exactly those bytes, so no two byte pairs denote one
record, and a digest denotes one valid event when SHA-256 does not collide on the two. -/
theorem record_codec :
    (∀ e : PersistedEvent, e.validate = .ok () →
      ((∃ metadata payload, encodeRecord e = some (metadata, payload) ∧
        decodeRecord metadata payload = some e) ↔ Prints e ∧ SessionStartPayload e)) ∧
    (∀ (metadata payload : Bytes) (e : PersistedEvent), decodeRecord metadata payload = some e →
      e.validate = .ok () ∧ canonicalMetadata e = some metadata ∧
        encodeRecord e = some (metadata, payload)) ∧
    (∀ (metadata payload metadata' payload' : Bytes) (e : PersistedEvent),
      decodeRecord metadata payload = some e → decodeRecord metadata' payload' = some e →
      metadata = metadata' ∧ payload = payload') ∧
    (∀ (e f : PersistedEvent) (content content' : Bytes), e.validate = .ok () →
      f.validate = .ok () → canonicalRecordBytes e = some content →
      canonicalRecordBytes f = some content' → (hexdigest content = hexdigest content' →
        content = content') → canonicalRecordSha256 e = canonicalRecordSha256 f → e = f) := by
  refine ⟨fun e valid => ?_, fun metadata payload e decoded => ?_,
    fun metadata payload metadata' payload' e first second => ?_,
    fun e f content content' valid valid' first second free same => ?_⟩
  · constructor
    · rintro ⟨metadata, payload, encoded, decoded⟩
      exact ⟨(encodeRecord_iff valid).mp ⟨_, _, encoded⟩,
        (decodeRecord_of_encoded valid encoded).mp decoded⟩
    · rintro ⟨prints, manifest⟩
      obtain ⟨metadata, payload, encoded⟩ := (encodeRecord_iff valid).mpr prints
      exact ⟨metadata, payload, encoded, (decodeRecord_of_encoded valid encoded).mpr manifest⟩
  · obtain ⟨valid, -, encoded⟩ := encodeRecord_decodeRecord decoded
    refine ⟨valid, ?_, encoded⟩
    rw [encodeRecord, if_neg (not_not.mpr (valid_digest valid))] at encoded
    obtain ⟨found, written, pair⟩ := Option.map_eq_some_iff.mp encoded
    rw [written, (Prod.mk.inj pair).1]
  · have encoded := (encodeRecord_decodeRecord first).2.2
    exact Prod.mk.inj (Option.some.inj
      (encoded.symm.trans (encodeRecord_decodeRecord second).2.2))
  · simp only [canonicalRecordSha256, first, second, Option.map_some, Option.some.injEq] at same
    obtain ⟨pair, encoded, encoded'⟩ := canonicalRecordBytes_injective first (free same ▸ second)
    exact encodeRecord_injective valid valid' encoded encoded'

/-- The raw record of the sample capture. -/
theorem record_codec_sample :
    ∃ metadata payload, encodeRecord (sampleCapture.rawRecord 2) = some (metadata, payload) ∧
      decodeRecord metadata payload = some (sampleCapture.rawRecord 2) ∧
      canonicalMetadata (sampleCapture.rawRecord 2) = some metadata := by
  have valid : (sampleCapture.rawRecord 2).validate = .ok () := by
    have checked := sampleCapture_valid
    simp only [validateCapturedInput, bind_eq_ok, exists_unit] at checked
    obtain ⟨-, -, -, first, -⟩ := checked
    exact rawRecord_valid (recover_eq_ok.mp first) (by decide)
  obtain ⟨returns, reads, -, -⟩ := record_codec
  obtain ⟨metadata, payload, encoded, decoded⟩ := (returns (sampleCapture.rawRecord 2) valid).mpr
    ⟨by decide +kernel, fun control => by cases control⟩
  exact ⟨metadata, payload, encoded, decoded, (reads metadata payload _ decoded).2.1⟩

/-- A session start with an empty object for a manifest. -/
def emptyStart : PersistedEvent := startEvent sampleManifest (Utf8.ascii (text "\x7b\x7d"))

/-- It is valid and is written, but its bytes are refused. -/
theorem emptyStart_refused :
    emptyStart.validate = .ok () ∧ ∃ metadata payload,
      encodeRecord emptyStart = some (metadata, payload) ∧
        decodeRecord metadata payload = none := by
  have valid : emptyStart.validate = .ok () :=
    controlEvent_valid sampleManifest_valid le_rfl rfl _
  refine ⟨valid, ?_⟩
  obtain ⟨metadata, payload, encoded⟩ := (encodeRecord_iff valid).mpr (by decide +kernel)
  refine ⟨metadata, payload, encoded, ?_⟩
  have refused : ¬SessionStartPayload emptyStart := by
    intro manifest
    have read := manifest rfl rfl
    revert read
    decide +kernel
  cases decoded : decodeRecord metadata payload with
  | none => rfl
  | some f =>
      obtain ⟨valid', manifest, encoded'⟩ := encodeRecord_decodeRecord decoded
      exact absurd (encodeRecord_injective valid valid' encoded encoded' ▸ manifest) refused

end Inci.Journal
