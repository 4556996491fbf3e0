/-
# Journal.CodecRoundTrip -- a valid event has one record, and it is read back

`decodeRecord_encodeRecord` is the codec's round trip: the canonical metadata of
a valid event decodes to the event.  `encodeFrame_total` adds the size: the
metadata of a valid event is short whatever its fields hold, so the frame of any
payload below the capture limit fits, and encoding it cannot fail.
-/
import Inci.Journal.Frames
import Inci.Journal.Canonical

namespace Inci.Journal

open Inci.Theory
open Inci.Theory.Json (Text text Value lookup)

set_option autoImplicit false

/-! ## Fields -/

@[simp] theorem optional_string (value : Option Text) :
    optional string (optionalString value) = some value := by
  cases value <;> rfl

@[simp] theorem optional_natural (value : Option Nat) :
    optional natural (optionalNumber value) = some value := by
  cases value <;> rfl

@[simp] theorem decode_recordKind (kind : RecordKind) :
    decodeEnum RecordKind.all RecordKind.value (.str kind.value) = some kind := by
  cases kind <;> decide

@[simp] theorem decode_sourceKind (kind : SourceKind) :
    decodeEnum SourceKind.all SourceKind.value (.str kind.value) = some kind := by
  cases kind <;> decide

@[simp] theorem decode_provenanceState (state : ProvenanceState) :
    decodeEnum ProvenanceState.all ProvenanceState.value (.str state.value) = some state := by
  cases state <;> decide

/-- The event with the digest its payload has. -/
def PersistedEvent.digested (e : PersistedEvent) : PersistedEvent :=
  { e with payloadSha256 := hexdigest e.payload }

theorem metadata_keys (e : PersistedEvent) :
    e.metadataProjection.map Prod.fst = metadataKeys := by
  simp only [PersistedEvent.metadataProjection, metadataKeys, List.map_cons, List.map_nil]

theorem metadataKeys_nodup : metadataKeys.Nodup := by
  simp only [metadataKeys, List.map_cons, List.map_nil, Json.text_ofList]
  decide

theorem metadataKeys_ascii : ∀ k ∈ metadataKeys, Utf8.Ascii k := by
  simp only [Utf8.Ascii, metadataKeys, List.map_cons, List.map_nil, Json.text_ofList]
  decide

theorem eventFields_congr {raw members : Members} (same : SameMembers raw members)
    (payload : Bytes) : eventFields raw payload = eventFields members payload := by
  unfold eventFields
  simp only [member_congr same]

section Fields

variable (e : PersistedEvent)

/-- Each member of the projection is read as the field it was written from. -/
theorem eventFields_projection : eventFields e.metadataProjection e.payload = some e.digested := by
  have found : ∀ {α : Type} (name : String) (read : Value → Option α) (v : Value) (a : α),
      lookup (text name) e.metadataProjection = some v → read v = some a →
        member e.metadataProjection name read = some a := by
    intro α name read v a written value
    rw [member, written]
    exact value
  unfold eventFields
  rw [found "journal_version" natural _ e.journalVersion rfl rfl,
    found "record_kind" _ _ e.recordKind rfl (decode_recordKind _),
    found "ingest_seq" natural _ e.ingestSeq rfl rfl,
    found "session_id" string _ e.sessionId rfl rfl,
    found "event_type" string _ e.eventType rfl rfl,
    found "event_version" natural _ e.eventVersion rfl rfl,
    found "source_kind" _ _ e.sourceKind rfl (decode_sourceKind _),
    found "source_id" string _ e.sourceId rfl rfl,
    found "source_entity_id" string _ e.sourceEntityId rfl rfl,
    found "endpoint_id" _ _ e.endpointId rfl (optional_string _),
    found "endpoint_state" _ _ e.endpointState rfl (decode_provenanceState _),
    found "channel_id" _ _ e.channelId rfl (optional_string _),
    found "channel_state" _ _ e.channelState rfl (decode_provenanceState _),
    found "request_id" _ _ e.requestId rfl (optional_string _),
    found "request_id_state" _ _ e.requestIdState rfl (decode_provenanceState _),
    found "source_wall_ns" _ _ e.sourceWallNs rfl (optional_natural _),
    found "source_generated_ns" _ _ e.sourceGeneratedNs rfl (optional_natural _),
    found "local_wall_ns" natural _ e.localWallNs rfl rfl,
    found "local_monotonic_ns" natural _ e.localMonotonicNs rfl rfl,
    found "clock_uncertainty_ns" natural _ e.clockUncertaintyNs rfl rfl,
    found "connection_epoch" natural _ e.connectionEpoch rfl rfl,
    found "provider_sequence" _ _ e.providerSequence rfl (optional_string _),
    found "parent_ingest_seq" _ _ e.parentIngestSeq rfl (optional_natural _),
    found "content_type" string _ e.contentType rfl rfl,
    found "payload_encoding" string _ e.payloadEncoding rfl rfl,
    found "payload_transform" string _ e.payloadTransform rfl rfl,
    found "retention_delete_by_ns" _ _ e.retentionDeleteByNs rfl (optional_natural _),
    found "payload_sha256" string _ (hexdigest e.payload) rfl rfl]
  rfl

end Fields

/-! ## Short fields -/

/-- A scalar whose text is ASCII and no longer than the longest grammar admits. -/
def Terse : Value → Prop
  | .null | .bool _ | .int _ => True
  | .str s => Utf8.Ascii s ∧ s.length ≤ 193
  | _ => False

theorem Terse.scalar {v : Value} (terse : Terse v) : Utf8.Scalar v := by
  cases v with
  | null => trivial
  | bool b => trivial
  | int n => trivial
  | str s => exact terse.1
  | arr items => exact terse.elim
  | obj members => exact terse.elim

theorem escapePoint_length (c : Nat) : (Json.escapePoint c).length ≤ 12 := by
  unfold Json.escapePoint
  repeat' split
  all_goals simp [Json.unicodeEscape, Json.hex4]

theorem quote_length (s : Text) : (Json.quote s).length ≤ 12 * s.length + 2 := by
  have escaped : (s.flatMap Json.escapePoint).length ≤ 12 * s.length := by
    induction s with
    | nil => simp
    | cons c rest ih =>
        have first := escapePoint_length c
        rw [List.flatMap_cons, List.length_append, List.length_cons]
        omega
  rw [Json.quote, List.length_cons, List.length_append, List.length_singleton]
  omega

theorem integer_length (n : Int) : (Json.integer n).length ≤ (Json.decimal n.natAbs).length + 1 := by
  cases n with
  | ofNat n =>
      show (Json.decimal n).length ≤ (Json.decimal n).length + 1
      omega
  | negSucc n =>
      show (Json.decimal (n + 1)).length + 1 ≤ (Json.decimal (n + 1)).length + 1
      omega

/-- A terse value that prints is short. -/
theorem Terse.render_length {v : Value} (terse : Terse v) (fits : Json.printable v = true) :
    (Json.render v).length ≤ 4301 := by
  cases v with
  | null => rw [Json.render]; decide
  | bool b => cases b <;> (rw [Json.render]; decide)
  | int n =>
      have short := integer_length n
      have limit : (Json.decimal n.natAbs).length ≤ 4300 := of_decide_eq_true fits
      rw [Json.render]
      omega
  | str s =>
      have short := quote_length s
      have bound := terse.2
      rw [Json.render]
      omega
  | arr items => exact terse.elim
  | obj members => exact terse.elim

theorem renderMembers_length {members : Members} {bound : Nat}
    (each : ∀ m ∈ members, (Json.quote m.1).length + (Json.render m.2).length + 2 ≤ bound) :
    (Json.renderMembers members).length ≤ members.length * bound + 1 := by
  induction members with
  | nil => simp [Json.renderMembers]
  | cons m rest ih =>
      have first := each m List.mem_cons_self
      have others := ih fun m inside => each m (List.mem_cons_of_mem _ inside)
      rw [Json.renderMembers, List.length_cons, List.length_append, List.length_cons,
        List.length_append, List.length_cons, Nat.add_mul]
      omega

theorem renderObject_length {members : Members} {bound : Nat}
    (each : ∀ m ∈ members, (Json.quote m.1).length + (Json.render m.2).length + 2 ≤ bound) :
    (Json.render (.obj members)).length ≤ members.length * bound + 2 := by
  cases members with
  | nil => simp [Json.render]
  | cons m rest =>
      have first := each m List.mem_cons_self
      have others := renderMembers_length fun m inside => each m (List.mem_cons_of_mem _ inside)
      rw [Json.render, List.length_cons, List.length_append, List.length_cons, List.length_append,
        List.length_cons, Nat.add_mul]
      omega

/-! ## The strings of a valid event -/

theorem matchesClass_length {first rest : Nat → Bool} {bound : Nat} {value : Text}
    (fits : matchesClass first rest bound value = true) : value.length ≤ bound + 1 := by
  cases value with
  | nil => exact Nat.zero_le _
  | cons c cs =>
      simp only [matchesClass, Bool.and_eq_true, decide_eq_true_eq] at fits
      rw [List.length_cons]
      omega

theorem safeIdentifier_terse {value : Text} {fieldName : String}
    (safe : safeIdentifier value fieldName = .ok ()) : Terse (.str value) := by
  refine ⟨safeIdentifier_ascii safe, ?_⟩
  rw [safeIdentifier, refuse_eq_ok, Bool.not_eq_false] at safe
  exact (matchesClass_length safe).trans (by decide)

theorem optionalSafeIdentifier_terse {value : Option Text} {fieldName : String}
    (safe : optionalSafeIdentifier value fieldName = .ok ()) : Terse (optionalString value) := by
  cases value with
  | none => trivial
  | some value => exact safeIdentifier_terse safe

theorem validateProvenance_terse {value : Option Text} {state : ProvenanceState}
    {fieldName : String} (valid : validateProvenance value state fieldName = .ok ()) :
    Terse (optionalString value) := by
  cases state with
  | absent =>
      rw [validateProvenance, refuse_eq_ok, not_not] at valid
      exact valid ▸ trivial
  | redacted =>
      rw [validateProvenance, refuse_eq_ok, not_not] at valid
      subst valid
      exact ⟨by unfold Utf8.Ascii; decide, by decide⟩
  | safeOriginal =>
      cases value with
      | none => exact nomatch valid
      | some value => exact safeIdentifier_terse valid

theorem sha256_terse {value : Text} {fieldName : String} (digest : sha256 value fieldName = .ok ()) :
    Terse (.str value) := by
  refine ⟨sha256_ascii digest, ?_⟩
  rw [sha256, refuse_eq_ok, Bool.not_eq_false, matchesSha256, Bool.and_eq_true,
    decide_eq_true_eq] at digest
  omega

theorem validatePayloadEncoding_terse {value : Text}
    (valid : validatePayloadEncoding value = .ok ()) : Terse (.str value) := by
  rw [validatePayloadEncoding, refuse_eq_ok, Bool.not_eq_false] at valid
  refine ⟨matchesClass_ascii valid (fun c => isAlphanumeric_low) fun c fits => ?_,
    (matchesClass_length valid).trans (by decide)⟩
  rcases (Bool.or_eq_true _ _).mp fits with letter | sign
  · exact isAlphanumeric_low letter
  · have signs : ∀ d ∈ text "._+-", d < 128 := by decide
    exact signs c (by simpa using sign)

theorem isMediaPoint_low {c : Nat} (fits : isMediaPoint c = true) : c < 128 := by
  rcases (Bool.or_eq_true _ _).mp fits with initial | sign
  · simp only [isMediaInitial, Json.isDigit, isLower, Bool.or_eq_true, decide_eq_true_eq] at initial
    omega
  · have signs : ∀ d ∈ text "!#$&^_.+-", d < 128 := by decide
    exact signs c (by simpa using sign)

theorem isMediaInitial_low {c : Nat} (fits : isMediaInitial c = true) : c < 128 :=
  isMediaPoint_low ((Bool.or_eq_true _ _).mpr (Or.inl fits))

theorem validateContentType_terse {value : Text} (valid : validateContentType value = .ok ()) :
    Terse (.str value) := by
  rw [validateContentType, refuse_eq_ok, Bool.not_eq_false, matchesContentType] at valid
  have whole := List.takeWhile_append_dropWhile (p := fun c => c != 47) (l := value)
  cases after : value.dropWhile fun c => c != 47 with
  | nil =>
      rw [after] at valid
      exact nomatch valid
  | cons slash rest =>
      simp only [after, Bool.and_eq_true] at valid
      have mark : slash < 128 := by
        have stopped := List.head?_dropWhile_not (fun c => c != 47) value
        rw [after] at stopped
        have equal : slash = 47 := by simpa using stopped
        omega
      rw [after] at whole
      rw [← whole]
      have major := matchesClass_length valid.1
      have minor := matchesClass_length valid.2
      refine ⟨Utf8.ascii_append.mpr ⟨matchesClass_ascii valid.1 (fun c => isMediaInitial_low)
        fun c => isMediaPoint_low, Utf8.ascii_cons.mpr ⟨mark, matchesClass_ascii valid.2
          (fun c => isMediaInitial_low) fun c => isMediaPoint_low⟩⟩, ?_⟩
      rw [List.length_append, List.length_cons]
      omega

theorem optionalNumber_terse (value : Option Nat) : Terse (optionalNumber value) := by
  cases value <;> trivial

/-- Every field of a valid event's metadata is terse. -/
theorem metadata_terse {e : PersistedEvent} (valid : e.validate = .ok ()) :
    ∀ entry ∈ e.metadataProjection, Terse entry.2 := by
  simp only [PersistedEvent.validate, validateSessionId, bind_eq_ok, exists_unit] at valid
  obtain ⟨-, -, ⟨session, -⟩, event, source, entity, -, endpoint, channel, request, provider,
    content, encoding, transform, -, digest, same, -⟩ := valid
  rw [refuse_eq_ok, not_not] at same
  have kinds : ∀ kind : RecordKind, Terse (.str kind.value) := by
    intro kind
    unfold Terse Utf8.Ascii
    cases kind <;> decide
  have sources : ∀ kind : SourceKind, Terse (.str kind.value) := by
    intro kind
    unfold Terse Utf8.Ascii
    cases kind <;> decide
  have states : ∀ state : ProvenanceState, Terse (.str state.value) := by
    intro state
    unfold Terse Utf8.Ascii
    cases state <;> decide
  simp only [PersistedEvent.metadataProjection, List.mem_cons, List.not_mem_nil, or_false,
    forall_eq_or_imp, forall_eq]
  exact ⟨trivial, kinds _, trivial, safeIdentifier_terse session, safeIdentifier_terse event,
    trivial, sources _, safeIdentifier_terse source, safeIdentifier_terse entity,
    validateProvenance_terse endpoint, states _, validateProvenance_terse channel, states _,
    validateProvenance_terse request, states _, optionalNumber_terse _, optionalNumber_terse _,
    trivial, trivial, trivial, trivial, optionalSafeIdentifier_terse provider,
    optionalNumber_terse _, validateContentType_terse content,
    validatePayloadEncoding_terse encoding, safeIdentifier_terse transform,
    optionalNumber_terse _, same ▸ sha256_terse digest⟩

/-! ## The round trip -/

/-- The numbers of the event's metadata print. -/
def Prints (e : PersistedEvent) : Prop := Json.printable (.obj e.metadataProjection) = true

instance (e : PersistedEvent) : Decidable (Prints e) := inferInstanceAs (Decidable (_ = _))

theorem valid_digest {e : PersistedEvent} (valid : e.validate = .ok ()) :
    e.payloadSha256 = hexdigest e.payload := by
  simp only [PersistedEvent.validate, bind_eq_ok, exists_unit] at valid
  obtain ⟨-, -, -, -, -, -, -, -, -, -, -, -, -, -, -, -, same, -⟩ := valid
  rw [refuse_eq_ok, not_not] at same
  exact same.symm

theorem printableMembers_iff (members : Members) : Json.printableMembers members = true ↔
    ∀ m ∈ members, Json.printable m.2 = true := by
  induction members with
  | nil => simp [Json.printableMembers]
  | cons m rest ih => simp [Json.printableMembers, ih]

/-- An object of terse values that print is written, and its text is short. -/
theorem terse_written {members : Members} (terse : ∀ m ∈ members, Terse m.2)
    (keys : ∀ m ∈ members, m.1.length ≤ 36) (prints : Json.printable (.obj members) = true) :
    ∃ content, canonicalJsonBytes (.obj members) = some content ∧
      content.length ≤ members.length * 4800 + 2 := by
  have dumped : Json.dumps (.obj members) = some (Json.render (Json.sortKeys (.obj members))) :=
    if_pos prints
  refine ⟨Utf8.ascii (Json.render (Json.sortKeys (.obj members))),
    canonicalJsonBytes_eq_some.mpr ⟨_, dumped, rfl⟩, ?_⟩
  have perm := List.mergeSort_perm members Json.keyLe
  have each : ∀ m ∈ members.mergeSort Json.keyLe,
      (Json.quote m.1).length + (Json.render m.2).length + 2 ≤ 4800 := by
    intro m inside
    have original : m ∈ members := perm.mem_iff.mp inside
    have key := keys m original
    have quoted := quote_length m.1
    have value := (terse m original).render_length ((printableMembers_iff _).mp prints m original)
    omega
  have length := renderObject_length each
  rw [perm.length_eq] at length
  rw [Utf8.ascii, List.length_map, Json.sortKeys,
    scalar_sortMembers fun m inside => (terse m inside).scalar]
  exact length

/-- A valid event is written, and its metadata is short. -/
theorem encodeRecord_total {e : PersistedEvent} (valid : e.validate = .ok ()) (prints : Prints e) :
    ∃ metadata, encodeRecord e = some (metadata, e.payload) ∧ metadata.length ≤ 135000 := by
  have keys : ∀ k ∈ metadataKeys, k.length ≤ 36 := by
    simp only [metadataKeys, List.map_cons, List.map_nil, Json.text_ofList]
    decide
  obtain ⟨metadata, written, short⟩ := terse_written (metadata_terse valid)
    (fun m inside => keys m.1 (metadata_keys e ▸ List.mem_map_of_mem inside)) prints
  refine ⟨metadata, ?_, short.trans ?_⟩
  · rw [encodeRecord, if_neg (not_not.mpr (valid_digest valid)), canonicalMetadata, written]
    rfl
  · show 28 * 4800 + 2 ≤ 135000
    omega

/-- What the codec wrote of a valid event it reads back. -/
theorem decodeRecord_encodeRecord {e : PersistedEvent} (valid : e.validate = .ok ())
    (manifest : SessionStartPayload e) {metadata payload : Bytes}
    (encoded : encodeRecord e = some (metadata, payload)) :
    decodeRecord metadata payload = some e := by
  have digest := valid_digest valid
  have terse := metadata_terse valid
  rw [encodeRecord, if_neg (not_not.mpr digest)] at encoded
  obtain ⟨found, written, pair⟩ := Option.map_eq_some_iff.mp encoded
  obtain ⟨rfl, rfl⟩ := Prod.mk.inj pair
  have ascii : ∀ m ∈ e.metadataProjection, Utf8.Ascii m.1 := fun m inside =>
    metadataKeys_ascii _ (metadata_keys e ▸ List.mem_map_of_mem inside)
  obtain ⟨raw, read, same⟩ := strictObject_canonical (metadata_keys e ▸ metadataKeys_nodup)
    (sameKeys_of_eq (metadata_keys e)) ascii (fun m inside => (terse m inside).scalar) written
  have payloadDigest : member raw "payload_sha256" string = some (hexdigest e.payload) := by
    rw [member_congr same]
    rfl
  have fields : eventFields raw e.payload = some e := by
    rw [eventFields_congr same, eventFields_projection, PersistedEvent.digested, ← digest]
  rw [decodeRecord, read]
  simp only [Option.bind_eq_bind, Option.bind_some, payloadDigest, ne_eq, not_true, if_false,
    fields, valid, manifest, and_self, if_true]

/-- Encoding a valid event below the capture limit cannot fail. -/
theorem encodeFrame_total {e : PersistedEvent} (valid : e.validate = .ok ()) (prints : Prints e)
    (manifest : SessionStartPayload e) (numbered : e.ingestSeq < 2 ^ 64)
    (small : e.payload.length ≤ 8388608) : ∃ frame, encodeFrame e = .ok frame := by
  obtain ⟨metadata, encoded, short⟩ := encodeRecord_total valid prints
  have decoded := decodeRecord_encodeRecord valid manifest encoded
  have fixed : frameFixedBytes = 76 := by decide
  have limit : maxFrameBytes = 16777216 := rfl
  have kind : frameKind e.recordKind < 256 := by cases e.recordKind <;> decide
  have bounded : frameFixedBytes + metadata.length + e.payload.length ≤ maxFrameBytes := by
    rw [fixed, limit]
    omega
  have eight : frameFixedBytes + metadata.length + e.payload.length < 256 ^ 8 := by
    rw [fixed]
    omega
  obtain ⟨prefixBytes, prefixed⟩ := Layout.pack_isSome.mpr
    (show Layout.Fits framePrefix (frameMagic, frameVersion, frameKind e.recordKind, frameFlags,
      e.ingestSeq, frameFixedBytes + metadata.length + e.payload.length, metadata.length,
      e.payload.length, ()) by
      refine ⟨by decide, by decide, kind, by decide, ?_, eight, ?_, ?_, trivial⟩
      · show e.ingestSeq < 256 ^ 8
        omega
      · show metadata.length < 256 ^ 4
        omega
      · show e.payload.length < 256 ^ 4
        omega)
  obtain ⟨trailer, trailed⟩ := Layout.pack_isSome.mpr
    (show Layout.Fits frameTrailer (frameFixedBytes + metadata.length + e.payload.length,
      trailerMagic, ()) from ⟨eight, by decide, trivial⟩)
  have framed : Framed e prefixBytes metadata trailer :=
    ⟨encoded, decoded, bounded, prefixed, trailed⟩
  refine ⟨frameBytes e prefixBytes metadata trailer, ?_⟩
  rw [encodeFrame, encoded]
  refine bind_eq_ok.mpr ⟨(), refuse_ok _ (not_not.mpr decoded), bind_eq_ok.mpr
    ⟨(), refuse_ok _ (not_lt.mpr bounded), ?_⟩⟩
  rw [prefixed, trailed]
  exact bind_eq_ok.mpr ⟨(), refuse_ok _ (not_not.mpr framed.length), rfl⟩

end Inci.Journal
