/-
# Companion.GroupAgreement -- the validator and the strict reading agree

`record_sound` and `record_complete` are the pass over a record: all its constructor
checks, but for the place of the record in its group, which the chain checks.
Loaded parents are equal exactly when the parents are (`equal_parents`), so the two
chains go on from the same heads (`chain_agrees`).  Hence the validator accepts the
canonical bytes of the groups that the constructor accepts, as the strict reading
does, and answers with the group's sequence, its number of records and its payloads
(`validator_agrees`).
-/
import Inci.Companion.Requirements

namespace Inci.Companion

open Inci.Theory
open Inci.Theory.Json (Text text Value lookup sortKeys Readable)
open Inci.Expert (integerBound)
open Inci.Journal (Bytes Members SameKeys canonicalJsonBytes member string)

set_option autoImplicit false

variable {others : Registry} {levels : Nat} {v : Value} {raw : Members}

/-! ## Records -/

/-- What the pass over a record keeps of it. -/
def JournalRecord.kept (r : JournalRecord) (parent : Value) : RecordFields where
  sessionId := r.sessionId
  expertManifestSha256 := r.expertManifestSha256
  expertSeq := r.expertSeq
  parent := parent
  parentOutputIndex := r.parentOutputIndex
  parentOutputCount := r.parentOutputCount
  priorExpertRecordSha256 := r.priorExpertRecordSha256
  priorExpertStateSha256 := r.priorExpertStateSha256
  payloadLength := r.payload.payloadLength
  payloadSha256 := r.payload.payloadSha256
  postExpertStateSha256 := r.postExpertStateSha256
  recordSha256 := r.recordSha256

/-- The fields kept of a record, with a raw parent that is the projection of its parent. -/
def Keeps (kept : RecordFields) (r : JournalRecord) : Prop :=
  ∃ parent, kept = r.kept parent ∧ Readable parent ∧ r.parent.contract.Projects parent

/-- The place of a record among the records of its parent. -/
def JournalRecord.Placed (r : JournalRecord) : Prop :=
  r.parentOutputIndex < r.parentOutputCount ∧ r.parentOutputCount ≤ 64

theorem eventKindOf_sound {kind : ExpertEventKind} (readable : Readable v)
    (shaped : diagnosticShape (withGroup others) (levels + 1) v = true)
    (read : eventKindOf v = some kind) :
    (Decoded.enum eventKindName (text kind.value)).Projects v := by
  obtain ⟨raw, isObject, chosen⟩ := Option.bind_eq_some_iff.mp read
  obtain rfl := object_eq_some isObject
  rcases ite_eq_iff.mp chosen with ⟨named, found⟩ | ⟨-, none⟩
  on_goal 2 => exact nomatch none
  obtain ⟨w, isName, name⟩ := member_iff.mp named
  obtain ⟨value, held, known⟩ := Option.bind_eq_some_iff.mp found
  obtain ⟨w', isValue, same⟩ := member_iff.mp held
  rw [Journal.string_eq_some name] at isName
  rw [Journal.string_eq_some same, eventKind_spec known] at isValue
  have keys := shape_enumKeys shaped (Json.lookup_isSome.mp (by rw [isName]; rfl))
  exact (projects_enum readable).mpr ⟨raw, rfl, keys, isName, isValue⟩

theorem eventKindOf_complete {kind : ExpertEventKind} (readable : Readable v)
    (projects : (Decoded.enum eventKindName (text kind.value)).Projects v) :
    eventKindOf v = some kind := by
  obtain ⟨raw, rfl, -, isName, isValue⟩ := (projects_enum readable).mp projects
  have named : member raw "$enum" string = some eventKindName := member_of_lookup isName string
  have value : member raw "value" string = some (text kind.value) := member_of_lookup isValue string
  simp only [eventKindOf, object, Option.bind_eq_bind, Option.bind_some]
  rw [if_pos named, value]
  exact eventKind_value kind

theorem record_fields {r : JournalRecord} : FieldsProject r.fields raw ↔
    (lookup (text "schema_version") raw = some (.int r.schemaVersion) ∧
      r.schemaVersion.natAbs < integerBound) ∧
    lookup (text "session_id") raw = some (.str r.sessionId) ∧
    lookup (text "expert_manifest_sha256") raw = some (.str r.expertManifestSha256) ∧
    lookup (text "provider_request_binding_sha256") raw =
      some (.str r.providerRequestBindingSha256) ∧
    lookup (text "match_binding_universe_sha256") raw =
      some (.str r.matchBindingUniverseSha256) ∧
    lookup (text "retention_binding_sha256") raw = some (.str r.retentionBindingSha256) ∧
    (lookup (text "expert_seq") raw = some (.int r.expertSeq) ∧
      r.expertSeq.natAbs < integerBound) ∧
    (∃ w, lookup (text "parent") raw = some w ∧ r.parent.contract.Projects w) ∧
    (lookup (text "parent_output_index") raw = some (.int r.parentOutputIndex) ∧
      r.parentOutputIndex.natAbs < integerBound) ∧
    (lookup (text "parent_output_count") raw = some (.int r.parentOutputCount) ∧
      r.parentOutputCount.natAbs < integerBound) ∧
    (∃ w, lookup (text "event_kind") raw = some w ∧
      (Decoded.enum eventKindName (text r.eventKind.value)).Projects w) ∧
    (lookup (text "event_version") raw = some (.int r.eventVersion) ∧
      r.eventVersion.natAbs < integerBound) ∧
    lookup (text "event_schema_sha256") raw = some (.str r.eventSchemaSha256) ∧
    lookup (text "prior_expert_record_sha256") raw = some (.str r.priorExpertRecordSha256) ∧
    lookup (text "prior_expert_state_sha256") raw = some (.str r.priorExpertStateSha256) ∧
    (∃ w, lookup (text "payload") raw = some w ∧ r.payload.contract.Projects w) ∧
    lookup (text "post_expert_state_sha256") raw = some (.str r.postExpertStateSha256) ∧
    lookup (text "record_sha256") raw = some (.str r.recordSha256) := by
  rw [FieldsProject, ← List.forall_iff_forall_mem]
  simp only [JournalRecord.fields, List.Forall, field_str, field_int]

theorem record_contract {r : JournalRecord} (readable : Readable v) :
    r.contract.Projects v ↔ ∃ fieldValues,
      IsContract v recordName JournalRecord.fieldNames fieldValues ∧
        FieldsProject r.fields fieldValues := by
  have named := JournalRecord.fields_keys r
  rw [JournalRecord.contract, projects_contract (named ▸ names_nodup (by decide)) readable, named]

/-- What the constructor of a record checks. -/
theorem record_postInit {r : JournalRecord} : r.postInit = .ok () ↔
    r.schemaVersion = 1 ∧
    ((matchesSafeId r.sessionId = true ∧ looksLikeLink r.sessionId = false) ∧
      Journal.isCanonicalUuid r.sessionId = true) ∧
    isDigest r.expertManifestSha256 = true ∧ isDigest r.providerRequestBindingSha256 = true ∧
    isDigest r.matchBindingUniverseSha256 = true ∧ isDigest r.retentionBindingSha256 = true ∧
    isDigest r.eventSchemaSha256 = true ∧ isDigest r.priorExpertRecordSha256 = true ∧
    isDigest r.priorExpertStateSha256 = true ∧ isDigest r.postExpertStateSha256 = true ∧
    (1 ≤ r.expertSeq ∧ r.expertSeq.natAbs < integerBound) ∧ r.parent.postInit = .ok () ∧
    ((0 ≤ r.parentOutputIndex ∧ r.parentOutputIndex.natAbs < integerBound) ∧
      (1 ≤ r.parentOutputCount ∧ r.parentOutputCount.natAbs < integerBound) ∧ r.Placed) ∧
    r.eventVersion = 1 ∧ r.eventSchemaSha256 = text r.eventKind.schemaResourceSha256 ∧
    r.payload.postInit = .ok () ∧
    r.payload.payloadContractName = text r.eventKind.payloadContract ∧
    isDigest r.recordSha256 = true ∧
    selfDigest r.fields r.recordSha256 "INCI-EXPERT-JOURNAL-RECORD-V1" "record_sha256" =
      .ok () := by
  have placed : ¬(64 < r.parentOutputCount ∨ r.parentOutputCount ≤ r.parentOutputIndex) ↔
      r.Placed := by
    rw [JournalRecord.Placed]
    omega
  simp only [JournalRecord.postInit, JournalRecord.observationBinding, bind_eq_ok, exists_unit,
    schemaVersion_iff, sessionId_iff, sha256_iff, positive_iff, integer_iff, refuse_eq_ok, placed,
    not_not]
  constructor
  · rintro ⟨version, session, manifest, request, binding, retention, schema, priorRecord,
      priorState, postState, seq, parent, ⟨-, place⟩, rest⟩
    exact ⟨version, session, manifest, request, binding, retention, schema, priorRecord,
      priorState, postState, seq, parent, place, rest⟩
  · rintro ⟨version, session, manifest, request, binding, retention, schema, priorRecord,
      priorState, postState, seq, parent, place, rest⟩
    exact ⟨version, session, manifest, request, binding, retention, schema, priorRecord,
      priorState, postState, seq, parent, ⟨parent, place⟩, rest⟩

/-- A record that passes is accepted by its constructor, once it is in its place. -/
theorem record_sound {kept : RecordFields}
    (shaped : diagnosticShape (withGroup others) (levels + 2) v = true) (readable : Readable v)
    (read : validateRecord v = some kept) :
    ∃ r : JournalRecord, Keeps kept r ∧ r.contract.Projects v ∧
      (r.Placed → r.postInit = .ok ()) := by
  obtain ⟨fieldValues, contract, read⟩ := Option.bind_eq_some_iff.mp read
  obtain ⟨version, hasVersion, isVersion, read⟩ := read_integer read
  obtain ⟨session, hasSession, isSession, read⟩ := read_sessionId read
  obtain ⟨manifest, hasManifest, isManifest, read⟩ := read_digest read
  obtain ⟨request, hasRequest, isRequest, read⟩ := read_digest read
  obtain ⟨binding, hasBinding, isBinding, read⟩ := read_digest read
  obtain ⟨retention, hasRetention, isRetention, read⟩ := read_digest read
  obtain ⟨schema, hasSchema, isSchema, read⟩ := read_digest read
  obtain ⟨priorRecord, hasPriorRecord, isPriorRecord, read⟩ := read_digest read
  obtain ⟨priorState, hasPriorState, isPriorState, read⟩ := read_digest read
  obtain ⟨postState, hasPostState, isPostState, read⟩ := read_digest read
  obtain ⟨record, hasRecord, isRecord, read⟩ := read_digest read
  obtain ⟨seq, hasSeq, isSeq, read⟩ := read_integer read
  obtain ⟨parent, hasParent, read⟩ := Option.bind_eq_some_iff.mp read
  obtain ⟨_, readParent, read⟩ := Option.bind_eq_some_iff.mp read
  obtain ⟨index, hasIndex, isIndex, read⟩ := read_integer read
  obtain ⟨count, hasCount, isCount, read⟩ := read_integer read
  obtain ⟨kind, kindRead, read⟩ := Option.bind_eq_some_iff.mp read
  obtain ⟨eventVersion, hasEventVersion, isEventVersion, read⟩ := read_integer read
  obtain ⟨payload, hasPayload, read⟩ := Option.bind_eq_some_iff.mp read
  obtain ⟨⟨length, digest⟩, readPayload, read⟩ := Option.bind_eq_some_iff.mp read
  rw [ite_eq_iff] at read
  rcases read with ⟨⟨rfl, rfl, ofKind, self⟩, same⟩ | ⟨-, none⟩
  on_goal 2 => exact nomatch none
  obtain rfl := Option.some.inj same
  obtain ⟨isContract, shapes⟩ := contractFields_sound shaped (withGroup_record others).1 contract
  have inner := isContract.readable readable
  have shapeOf : ∀ {name : Text} {w : Value}, name ∈ JournalRecord.fieldNames →
      lookup name fieldValues = some w →
      diagnosticShape (withGroup others) (levels + 1) w = true := by
    intro name w known found
    obtain ⟨w', found', shape⟩ := shapes name known
    exact Option.some.inj (found'.symm.trans found) ▸ shape
  have readableParent := readable_member inner hasParent
  obtain ⟨p, validParent, ofParent⟩ :=
    parent_sound (shapeOf (by decide) hasParent) readableParent readParent
  obtain ⟨d, validPayload, ofPayload, named, rfl, rfl⟩ :=
    payload_sound (shapeOf (by decide) hasPayload) (readable_member inner hasPayload) readPayload
  obtain ⟨w, hasKind, readKind⟩ := member_iff.mp kindRead
  have ofKindValue := eventKindOf_sound (readable_member inner hasKind)
    (shapeOf (by decide) hasKind) readKind
  let r : JournalRecord := ⟨1, session, manifest, request, binding, retention, seq, p, index,
    count, kind, 1, schema, priorRecord, priorState, d, postState, record⟩
  have each : FieldsProject r.fields fieldValues := record_fields.mpr
    ⟨⟨hasVersion, isVersion.2⟩, hasSession, hasManifest, hasRequest, hasBinding, hasRetention,
      ⟨hasSeq, isSeq.2⟩, ⟨_, hasParent, ofParent⟩, ⟨hasIndex, isIndex.2⟩, ⟨hasCount, isCount.2⟩,
      ⟨_, hasKind, ofKindValue⟩, ⟨hasEventVersion, isEventVersion.2⟩, hasSchema, hasPriorRecord,
      hasPriorState, ⟨_, hasPayload, ofPayload⟩, hasPostState, hasRecord⟩
  refine ⟨r, ⟨parent, rfl, readableParent, ofParent⟩,
    (record_contract readable).mpr ⟨fieldValues, isContract, each⟩, fun placed => ?_⟩
  exact record_postInit.mpr ⟨rfl, isSession, isManifest, isRequest, isBinding, isRetention,
    isSchema, isPriorRecord, isPriorState, isPostState, isSeq, validParent,
    ⟨isIndex, isCount, placed⟩, rfl, ofKind, validPayload, named, isRecord,
    (rawSelfDigest_iff inner (JournalRecord.fields_keys r) each).mp self⟩

/-- A record its constructor accepts passes. -/
theorem record_complete {r : JournalRecord} (valid : r.postInit = .ok ()) (readable : Readable v)
    (projects : r.contract.Projects v) : ∃ kept, validateRecord v = some kept ∧ Keeps kept r := by
  obtain ⟨fieldValues, isContract, each⟩ := (record_contract readable).mp projects
  have inner := isContract.readable readable
  obtain ⟨⟨hasVersion, -⟩, hasSession, hasManifest, hasRequest, hasBinding, hasRetention,
    ⟨hasSeq, -⟩, ⟨parent, hasParent, ofParent⟩, ⟨hasIndex, -⟩, ⟨hasCount, -⟩,
    ⟨kind, hasKind, ofKind⟩, ⟨hasEventVersion, -⟩, hasSchema, hasPriorRecord, hasPriorState,
    ⟨payload, hasPayload, ofPayload⟩, hasPostState, hasRecord⟩ := record_fields.mp each
  obtain ⟨version, isSession, isManifest, isRequest, isBinding, isRetention, isSchema,
    isPriorRecord, isPriorState, isPostState, isSeq, validParent, ⟨isIndex, isCount, -⟩,
    eventVersion, schema, validPayload, named, isRecord, self⟩ := record_postInit.mp valid
  have readableParent := readable_member inner hasParent
  obtain ⟨_, readParent⟩ := parent_complete validParent readableParent ofParent
  have readPayload := payload_complete validPayload named (readable_member inner hasPayload)
    ofPayload
  have readKind := eventKindOf_complete (readable_member inner hasKind) ofKind
  have digest := (rawSelfDigest_iff inner (JournalRecord.fields_keys r) each).mpr self
  refine ⟨r.kept parent, ?_, parent, rfl, readableParent, ofParent⟩
  refine Option.bind_eq_some_iff.mpr ⟨fieldValues, contractFields_complete isContract, ?_⟩
  refine Option.bind_eq_some_iff.mpr ⟨_, member_integer.mpr ⟨hasVersion, ?_⟩, ?_⟩
  · rw [version]
    decide
  refine Option.bind_eq_some_iff.mpr ⟨_, member_sessionId.mpr ⟨hasSession, isSession⟩, ?_⟩
  refine Option.bind_eq_some_iff.mpr ⟨_, member_digest.mpr ⟨hasManifest, isManifest⟩, ?_⟩
  refine Option.bind_eq_some_iff.mpr ⟨_, member_digest.mpr ⟨hasRequest, isRequest⟩, ?_⟩
  refine Option.bind_eq_some_iff.mpr ⟨_, member_digest.mpr ⟨hasBinding, isBinding⟩, ?_⟩
  refine Option.bind_eq_some_iff.mpr ⟨_, member_digest.mpr ⟨hasRetention, isRetention⟩, ?_⟩
  refine Option.bind_eq_some_iff.mpr ⟨_, member_digest.mpr ⟨hasSchema, isSchema⟩, ?_⟩
  refine Option.bind_eq_some_iff.mpr ⟨_, member_digest.mpr ⟨hasPriorRecord, isPriorRecord⟩, ?_⟩
  refine Option.bind_eq_some_iff.mpr ⟨_, member_digest.mpr ⟨hasPriorState, isPriorState⟩, ?_⟩
  refine Option.bind_eq_some_iff.mpr ⟨_, member_digest.mpr ⟨hasPostState, isPostState⟩, ?_⟩
  refine Option.bind_eq_some_iff.mpr ⟨_, member_digest.mpr ⟨hasRecord, isRecord⟩, ?_⟩
  refine Option.bind_eq_some_iff.mpr ⟨_, member_integer.mpr ⟨hasSeq, isSeq⟩, ?_⟩
  refine Option.bind_eq_some_iff.mpr ⟨parent, hasParent, ?_⟩
  refine Option.bind_eq_some_iff.mpr ⟨_, readParent, ?_⟩
  refine Option.bind_eq_some_iff.mpr ⟨_, member_integer.mpr ⟨hasIndex, isIndex⟩, ?_⟩
  refine Option.bind_eq_some_iff.mpr ⟨_, member_integer.mpr ⟨hasCount, isCount⟩, ?_⟩
  refine Option.bind_eq_some_iff.mpr ⟨_, member_iff.mpr ⟨kind, hasKind, readKind⟩, ?_⟩
  refine Option.bind_eq_some_iff.mpr ⟨_, member_integer.mpr ⟨hasEventVersion, ?_⟩, ?_⟩
  · rw [eventVersion]
    decide
  refine Option.bind_eq_some_iff.mpr ⟨payload, hasPayload, ?_⟩
  refine Option.bind_eq_some_iff.mpr ⟨_, readPayload, ?_⟩
  exact if_pos ⟨version, eventVersion, schema, digest⟩

/-! ## Equal parents -/

theorem equalMembers_iff (members others : Members) : equalMembers members others = true ↔
    ∀ m ∈ members, ∃ w, lookup m.1 others = some w ∧ equal m.2 w = true := by
  induction members with
  | nil => simp [equalMembers]
  | cons m rest ih =>
      obtain ⟨k, v⟩ := m
      rw [equalMembers, Bool.and_eq_true, ih, List.forall_mem_cons]
      cases lookup k others with
      | none => simp
      | some w => simp

/-- Objects of one set of keys are equal when they are so under each key. -/
theorem equal_obj {names : List Text} {other : Members} (distinct : (raw.map Prod.fst).Nodup)
    (distinct' : (other.map Prod.fst).Nodup) (keys : SameKeys names raw)
    (keys' : SameKeys names other) : equal (.obj raw) (.obj other) = true ↔
      ∀ k ∈ names, ∃ v w, lookup k raw = some v ∧ lookup k other = some w ∧
        equal v w = true := by
  have lengths : raw.length = other.length := by
    have perm : (raw.map Prod.fst).Perm (other.map Prod.fst) :=
      (List.perm_ext_iff_of_nodup distinct distinct').mpr fun k =>
        ⟨fun inside => keys'.2 k (keys.1 k inside), fun inside => keys.2 k (keys'.1 k inside)⟩
    simpa using perm.length_eq
  rw [equal, Bool.and_eq_true, lengths, beq_self_eq_true, equalMembers_iff]
  constructor
  · rintro ⟨-, each⟩ k known
    obtain ⟨⟨_, v⟩, inside, rfl⟩ := List.mem_map.mp (keys.2 k known)
    obtain ⟨w, found, same⟩ := each _ inside
    exact ⟨v, w, Json.lookup_of_mem distinct inside, found, same⟩
  · refine fun each => ⟨rfl, fun m inside => ?_⟩
    obtain ⟨v, w, found, found', same⟩ := each m.1 (keys.1 _ (List.mem_map_of_mem inside))
    obtain rfl := Option.some.inj ((Json.lookup_of_mem distinct inside).symm.trans found)
    exact ⟨w, found', same⟩

theorem equal_at {k : Text} {other : Members} {w : Value} (found : lookup k raw = some v)
    (found' : lookup k other = some w) :
    (∃ v w, lookup k raw = some v ∧ lookup k other = some w ∧ equal v w = true) ↔
      equal v w = true := by
  rw [found, found']
  exact ⟨fun ⟨_, _, same, same', both⟩ => Option.some.inj same ▸ Option.some.inj same' ▸ both,
    fun both => ⟨_, _, rfl, rfl, both⟩⟩

theorem equal_int {m n : Int} : equal (.int m) (.int n) = true ↔ m = n := by
  rw [equal, beq_iff_eq]

theorem equal_str {s t : Text} : equal (.str s) (.str t) = true ↔ s = t := by
  rw [equal, beq_iff_eq]

/-- Raw parents are equal exactly when the parents are. -/
theorem equal_parents {p q : ParentEvidence} {w : Value} (readable : Readable v)
    (readable' : Readable w) (projects : p.contract.Projects v) (projects' : q.contract.Projects w) :
    equal v w = true ↔ p = q := by
  obtain ⟨fieldsV, contractV, eachV⟩ := (parent_contract readable).mp projects
  obtain ⟨fieldsW, contractW, eachW⟩ := (parent_contract readable').mp projects'
  have innerV := contractV.readable readable
  have innerW := contractW.readable readable'
  obtain ⟨⟨rawV, rfl, keysV, nameV, versionV, heldV⟩, namesV⟩ := contractV
  obtain ⟨⟨rawW, rfl, keysW, nameW, versionW, heldW⟩, namesW⟩ := contractW
  obtain ⟨session, ⟨ingest, -⟩, record, event, ⟨version, -⟩, ⟨wall, -⟩, ⟨monotonic, -⟩, clock, -⟩ :=
    parent_fields.mp eachV
  obtain ⟨session', ⟨ingest', -⟩, record', event', ⟨version', -⟩, ⟨wall', -⟩, ⟨monotonic', -⟩,
    clock', -⟩ := parent_fields.mp eachW
  rw [equal_obj readable.1 readable'.1 keysV keysW]
  simp only [contractKeys, List.forall_mem_cons, List.not_mem_nil, false_implies, implies_true,
    and_true, equal_at nameV nameW, equal_at versionV versionW, equal_at heldV heldW, equal_int,
    equal_str, true_and]
  rw [equal_obj innerV.1 innerW.1 namesV namesW]
  simp only [ParentEvidence.fieldNames, List.map_cons, List.map_nil, List.forall_mem_cons,
    List.not_mem_nil, false_implies, implies_true, and_true, equal_at session session',
    equal_at ingest ingest', equal_at record record', equal_at event event',
    equal_at version version', equal_at wall wall', equal_at monotonic monotonic',
    equal_at clock clock', equal_int, equal_str]
  rw [ParentEvidence.ext_iff]

/-! ## The chain -/

/-- A group's fields that the validator compares the chain with. -/
def JournalGroup.compared (g : JournalGroup) (parent : Value) : GroupFields :=
  ⟨g.sessionId, g.expertManifestSha256, parent, g.parentOutputCount, g.firstExpertSeq⟩

/-- The two chains go on alike over the records the fields are kept of. -/
theorem chain_agrees {g : JournalGroup} {parent : Value} (readable : Readable parent)
    (projects : g.parent.contract.Projects parent) {kept : List RecordFields}
    {records : List JournalRecord} (keeps : List.Forall₂ Keeps kept records)
    (each : ∀ r ∈ records, r.Placed → r.postInit = .ok ()) {traces : List TraceStep}
    (steps : ∀ t ∈ traces, t.postInit = .ok ()) {offset : Int} {heads final : ChainHeads} :
    diagnosticChain (g.compared parent) offset heads (kept.zip traces) = some final ↔
      g.chain offset heads (records.zip traces) = .ok final := by
  induction keeps generalizing traces offset heads with
  | nil => simp [diagnosticChain, JournalGroup.chain]
  | @cons fields r kept records one more ih =>
      cases traces with
      | nil => simp [diagnosticChain, JournalGroup.chain]
      | cons t traces =>
          obtain ⟨own, rfl, readableOwn, projectsOwn⟩ := one
          obtain ⟨here, later⟩ := List.forall_mem_cons.mp each
          obtain ⟨step, steps⟩ := List.forall_mem_cons.mp steps
          have next : ∀ heads, diagnosticChain (g.compared parent) (offset + 1) heads
              (kept.zip traces) = some final ↔
                g.chain (offset + 1) heads (records.zip traces) = .ok final :=
            fun heads => ih later steps
          simp only [List.zip_cons_cons, diagnosticChain, JournalGroup.chain, bind_eq_ok,
            exists_unit, refuse_eq_ok, not_not, JournalRecord.kept, JournalGroup.compared,
            equal_parents readableOwn readable projectsOwn projects]
          rw [ite_eq_iff]
          constructor
          · rintro (⟨⟨session, manifest, parent, count, index, less, most, rest⟩, onward⟩ | ⟨-, none⟩)
            · exact ⟨here ⟨less, most⟩, step, ⟨session, manifest, parent, count, index, rest⟩,
                (next _).mp onward⟩
            · cases none
          · rintro ⟨valid, -, ⟨session, manifest, parent, count, index, rest⟩, onward⟩
            obtain ⟨less, most⟩ := (record_postInit.mp valid).2.2.2.2.2.2.2.2.2.2.2.2.1.2.2
            exact .inl ⟨⟨session, manifest, parent, count, index, less, most, rest⟩,
              (next _).mpr onward⟩

/-! ## Items -/

theorem tupleItems_iff {items : List Value} : tupleItems v = some items ↔ IsTuple v items := by
  constructor
  · intro read
    obtain ⟨raw, isObject, chosen⟩ := Option.bind_eq_some_iff.mp read
    obtain rfl := object_eq_some isObject
    rcases ite_eq_iff.mp chosen with ⟨keys, found⟩ | ⟨-, none⟩
    on_goal 2 => exact nomatch none
    obtain ⟨w, held, value⟩ := member_iff.mp found
    refine ⟨raw, rfl, keys, ?_⟩
    cases w with
    | arr found => rw [held, Option.some.inj value]
    | null => exact nomatch value
    | bool b => exact nomatch value
    | int n => exact nomatch value
    | str s => exact nomatch value
    | obj members => exact nomatch value
  · rintro ⟨raw, rfl, keys, held⟩
    exact (if_pos keys).trans (member_of_lookup held array)

theorem tuple_shapes {items : List Value} (tuple : IsTuple v items)
    (shaped : diagnosticShape (withGroup others) (levels + 1) v = true) :
    ∀ w ∈ items, diagnosticShape (withGroup others) levels w = true := by
  obtain ⟨raw, rfl, keys, held⟩ := tuple
  rw [shape_tuple keys, member_of_lookup held] at shaped
  exact List.all_eq_true.mp shaped

theorem records_sound {items : List Value} {kept : List RecordFields}
    (shaped : ∀ w ∈ items, diagnosticShape (withGroup others) (levels + 2) w = true)
    (readable : ∀ w ∈ items, Readable w) (read : items.mapM validateRecord = some kept) :
    ∃ records : List JournalRecord, List.Forall₂ Keeps kept records ∧
      List.Forall₂ Decoded.Projects (records.map JournalRecord.contract) items ∧
      ∀ r ∈ records, r.Placed → r.postInit = .ok () := by
  induction mapM_eq_some.mp read with
  | nil => exact ⟨[], .nil, .nil, fun _ none => absurd none List.not_mem_nil⟩
  | cons one more ih =>
      obtain ⟨shape, shapes⟩ := List.forall_mem_cons.mp shaped
      obtain ⟨legible, legibles⟩ := List.forall_mem_cons.mp readable
      obtain ⟨r, keeps, projects, valid⟩ := record_sound shape legible one
      obtain ⟨records, others, related, each⟩ := ih shapes legibles (mapM_eq_some.mpr more)
      exact ⟨r :: records, .cons keeps others, .cons projects related,
        List.forall_mem_cons.mpr ⟨valid, each⟩⟩

theorem records_complete {items : List Value} {records : List JournalRecord}
    (valid : ∀ r ∈ records, r.postInit = .ok ()) (readable : ∀ w ∈ items, Readable w)
    (projects : List.Forall₂ Decoded.Projects (records.map JournalRecord.contract) items) :
    ∃ kept, items.mapM validateRecord = some kept ∧ List.Forall₂ Keeps kept records := by
  induction List.forall₂_map_left_iff.mp projects with
  | nil => exact ⟨[], rfl, .nil⟩
  | cons one more ih =>
      obtain ⟨accepted, valid⟩ := List.forall_mem_cons.mp valid
      obtain ⟨legible, legibles⟩ := List.forall_mem_cons.mp readable
      obtain ⟨fields, here, keeps⟩ := record_complete accepted legible one
      obtain ⟨kept, others, related⟩ := ih valid legibles (List.forall₂_map_left_iff.mpr more)
      exact ⟨fields :: kept, mapM_eq_some.mpr (.cons here (mapM_eq_some.mp others)),
        .cons keeps related⟩

theorem traces_sound {items : List Value} {traces : List TraceStep}
    (shaped : ∀ w ∈ items, diagnosticShape (withGroup others) (levels + 1) w = true)
    (readable : ∀ w ∈ items, Readable w) (read : items.mapM validateTrace = some traces) :
    List.Forall₂ Decoded.Projects (traces.map TraceStep.contract) items ∧
      ∀ t ∈ traces, t.postInit = .ok () := by
  induction mapM_eq_some.mp read with
  | nil => exact ⟨.nil, fun _ none => absurd none List.not_mem_nil⟩
  | cons one more ih =>
      obtain ⟨shape, shapes⟩ := List.forall_mem_cons.mp shaped
      obtain ⟨legible, legibles⟩ := List.forall_mem_cons.mp readable
      obtain ⟨valid, projects⟩ := trace_sound shape legible one
      obtain ⟨related, each⟩ := ih shapes legibles (mapM_eq_some.mpr more)
      exact ⟨.cons projects related, List.forall_mem_cons.mpr ⟨valid, each⟩⟩

theorem traces_complete {items : List Value} {traces : List TraceStep}
    (valid : ∀ t ∈ traces, t.postInit = .ok ()) (readable : ∀ w ∈ items, Readable w)
    (projects : List.Forall₂ Decoded.Projects (traces.map TraceStep.contract) items) :
    items.mapM validateTrace = some traces := by
  induction List.forall₂_map_left_iff.mp projects with
  | nil => rfl
  | cons one more ih =>
      obtain ⟨accepted, valid⟩ := List.forall_mem_cons.mp valid
      obtain ⟨legible, legibles⟩ := List.forall_mem_cons.mp readable
      have others := ih valid legibles (List.forall₂_map_left_iff.mpr more)
      exact mapM_eq_some.mpr (.cons (trace_complete accepted legible one) (mapM_eq_some.mp others))

/-! ## Groups -/

/-- What the validator answers about a group. -/
def JournalGroup.summary (g : JournalGroup) : GroupSummary where
  groupSequence := g.groupSequence
  recordCount := g.records.length
  payloads := g.records.map fun r => (r.payload.payloadLength, r.payload.payloadSha256)

theorem keeps_payloads {kept : List RecordFields} {records : List JournalRecord}
    (keeps : List.Forall₂ Keeps kept records) :
    kept.map (fun record => (record.payloadLength, record.payloadSha256)) =
      records.map fun r => (r.payload.payloadLength, r.payload.payloadSha256) := by
  induction keeps with
  | nil => rfl
  | cons one more ih =>
      obtain ⟨parent, rfl, -⟩ := one
      rw [List.map_cons, List.map_cons, ih]
      rfl

theorem group_fields {g : JournalGroup} : FieldsProject g.fields raw ↔
    (lookup (text "schema_version") raw = some (.int g.schemaVersion) ∧
      g.schemaVersion.natAbs < integerBound) ∧
    lookup (text "session_id") raw = some (.str g.sessionId) ∧
    lookup (text "expert_manifest_sha256") raw = some (.str g.expertManifestSha256) ∧
    (lookup (text "group_sequence") raw = some (.int g.groupSequence) ∧
      g.groupSequence.natAbs < integerBound) ∧
    (∃ w, lookup (text "parent") raw = some w ∧ g.parent.contract.Projects w) ∧
    (lookup (text "parent_output_count") raw = some (.int g.parentOutputCount) ∧
      g.parentOutputCount.natAbs < integerBound) ∧
    (lookup (text "first_expert_seq") raw = some (.int g.firstExpertSeq) ∧
      g.firstExpertSeq.natAbs < integerBound) ∧
    lookup (text "prior_expert_record_sha256") raw = some (.str g.priorExpertRecordSha256) ∧
    lookup (text "prior_expert_state_sha256") raw = some (.str g.priorExpertStateSha256) ∧
    (∃ w, lookup (text "records") raw = some w ∧
      (Decoded.tuple (g.records.map JournalRecord.contract)).Projects w) ∧
    (∃ w, lookup (text "trace_steps") raw = some w ∧
      (Decoded.tuple (g.traceSteps.map TraceStep.contract)).Projects w) ∧
    lookup (text "final_expert_record_sha256") raw = some (.str g.finalExpertRecordSha256) ∧
    lookup (text "post_expert_state_sha256") raw = some (.str g.postExpertStateSha256) ∧
    lookup (text "post_trace_sha256") raw = some (.str g.postTraceSha256) ∧
    lookup (text "group_sha256") raw = some (.str g.groupSha256) := by
  rw [FieldsProject, ← List.forall_iff_forall_mem]
  simp only [JournalGroup.fields, List.Forall, field_str, field_int]

theorem group_contract {g : JournalGroup} (readable : Readable v) :
    g.contract.Projects v ↔ ∃ fieldValues,
      IsContract v groupName JournalGroup.fieldNames fieldValues ∧
        FieldsProject g.fields fieldValues := by
  rw [JournalGroup.contract, projects_contract (JournalGroup.fields_nodup g) readable,
    JournalGroup.fields_keys g]

/-- Fields that pass are those of a group its constructor accepts. -/
theorem group_sound {fieldValues : Members} {summary : GroupSummary}
    (shapes : ∀ name ∈ JournalGroup.fieldNames, ∃ w, lookup name fieldValues = some w ∧
      diagnosticShape (withGroup others) (levels + 3) w = true)
    (readable : Readable (.obj fieldValues)) (read : validateGroupFields fieldValues = some summary) :
    ∃ g : JournalGroup, g.postInit = .ok () ∧ FieldsProject g.fields fieldValues ∧
      summary = g.summary := by
  have shapeOf : ∀ {name : Text} {w : Value}, name ∈ JournalGroup.fieldNames →
      lookup name fieldValues = some w →
      diagnosticShape (withGroup others) (levels + 3) w = true := by
    intro name w known found
    obtain ⟨w', found', shape⟩ := shapes name known
    exact Option.some.inj (found'.symm.trans found) ▸ shape
  obtain ⟨items, recordsRead, read⟩ := Option.bind_eq_some_iff.mp read
  obtain ⟨traceItems, tracesRead, read⟩ := Option.bind_eq_some_iff.mp read
  obtain ⟨count, countRead, read⟩ := Option.bind_eq_some_iff.mp read
  obtain ⟨sequence, sequenceRead, read⟩ := Option.bind_eq_some_iff.mp read
  rw [ite_eq_iff] at read
  rcases read with ⟨-, none⟩ | ⟨sizes, read⟩
  · exact nomatch none
  obtain ⟨version, hasVersion, isVersion, read⟩ := read_integer read
  obtain ⟨session, hasSession, isSession, read⟩ := read_sessionId read
  obtain ⟨manifest, hasManifest, isManifest, read⟩ := read_digest read
  obtain ⟨sequence', hasSequence, isSequence, read⟩ := read_integer read
  obtain ⟨parent, hasParent, read⟩ := Option.bind_eq_some_iff.mp read
  obtain ⟨_, readParent, read⟩ := Option.bind_eq_some_iff.mp read
  obtain ⟨count', hasCount, isCount, read⟩ := read_integer read
  obtain ⟨first, hasFirst, isFirst, read⟩ := read_integer read
  obtain ⟨priorRecord, hasPriorRecord, isPriorRecord, read⟩ := read_digest read
  obtain ⟨priorState, hasPriorState, isPriorState, read⟩ := read_digest read
  obtain ⟨finalRecord, hasFinalRecord, isFinalRecord, read⟩ := read_digest read
  obtain ⟨postState, hasPostState, isPostState, read⟩ := read_digest read
  obtain ⟨postTrace, hasPostTrace, isPostTrace, read⟩ := read_digest read
  obtain ⟨digest, hasDigest, isDigest, read⟩ := read_digest read
  obtain ⟨kept, keptRead, read⟩ := Option.bind_eq_some_iff.mp read
  obtain ⟨traces, tracesKept, read⟩ := Option.bind_eq_some_iff.mp read
  obtain ⟨trace, isFirstTrace, read⟩ := Option.bind_eq_some_iff.mp read
  obtain ⟨heads, chained, read⟩ := Option.bind_eq_some_iff.mp read
  rw [ite_eq_iff] at read
  rcases read with ⟨⟨rfl, total, -, rfl, self⟩, same⟩ | ⟨-, none⟩
  on_goal 2 => exact nomatch none
  obtain rfl := Option.some.inj same
  obtain ⟨w, found, value⟩ := member_iff.mp countRead
  obtain rfl : count' = count := by
    rw [integer_eq_some value] at found
    exact Value.int.inj (Option.some.inj (hasCount.symm.trans found))
  obtain ⟨w, found, value⟩ := member_iff.mp sequenceRead
  obtain rfl : sequence' = sequence := by
    rw [integer_eq_some value] at found
    exact Value.int.inj (Option.some.inj (hasSequence.symm.trans found))
  obtain ⟨recordTuple, hasRecords, isRecords⟩ := member_iff.mp recordsRead
  obtain ⟨traceTuple, hasTraces, isTraces⟩ := member_iff.mp tracesRead
  rw [tupleItems_iff] at isRecords isTraces
  have readableRecords := readable_member readable hasRecords
  have readableTraces := readable_member readable hasTraces
  have readableParent := readable_member readable hasParent
  obtain ⟨p, validParent, ofParent⟩ :=
    parent_sound (shapeOf (by decide) hasParent) readableParent readParent
  obtain ⟨records, keeps, ofRecords, validRecords⟩ := records_sound
    (tuple_shapes isRecords (shapeOf (by decide) hasRecords)) (isRecords.readable readableRecords)
    keptRead
  obtain ⟨ofTraces, validTraces⟩ := traces_sound
    (tuple_shapes isTraces (shapeOf (by decide) hasTraces)) (isTraces.readable readableTraces)
    tracesKept
  let g : JournalGroup := ⟨1, session, manifest, sequence', p, count', first, priorRecord,
    priorState, records, traces, finalRecord, postState, postTrace, digest⟩
  have each : FieldsProject g.fields fieldValues := group_fields.mpr
    ⟨⟨hasVersion, isVersion.2⟩, hasSession, hasManifest, ⟨hasSequence, isSequence.2⟩,
      ⟨_, hasParent, ofParent⟩, ⟨hasCount, isCount.2⟩, ⟨hasFirst, isFirst.2⟩, hasPriorRecord,
      hasPriorState, ⟨_, hasRecords, (projects_tuple readableRecords).mpr ⟨_, isRecords, ofRecords⟩⟩,
      ⟨_, hasTraces, (projects_tuple readableTraces).mpr ⟨_, isTraces, ofTraces⟩⟩,
      hasFinalRecord, hasPostState, hasPostTrace, hasDigest⟩
  have lengths : items.length = records.length := by
    simpa using ofRecords.length_eq.symm
  have traceLengths : traceItems.length = traces.length := by
    simpa using ofTraces.length_eq.symm
  have chain := (chain_agrees (g := g) readableParent ofParent keeps validRecords validTraces).mp
    chained
  refine ⟨g, JournalGroup.postInit_iff.mpr ⟨⟨schemaVersion_iff.mpr rfl, sessionId_iff.mpr isSession,
    sha256_iff.mpr isManifest, positive_iff.mpr isSequence, validParent, positive_iff.mpr isCount,
    positive_iff.mpr isFirst, ?_, sha256_iff.mpr isPriorRecord, sha256_iff.mpr isPriorState,
    sha256_iff.mpr isFinalRecord, sha256_iff.mpr isPostState, sha256_iff.mpr isPostTrace⟩, ?_,
    sha256_iff.mpr isDigest, ?_⟩, each, ?_⟩
  · show 1 ≤ records.length ∧ records.length ≤ 64 ∧ count' = records.length ∧
      traces.length = records.length
    omega
  · show g.chain 0 ⟨priorRecord, priorState, (traces.head?.map _).getD []⟩ _ = _
    rw [isFirstTrace]
    exact chain
  · exact (rawSelfDigest_iff readable (JournalGroup.fields_keys g) each).mp self
  · rw [JournalGroup.summary, keeps_payloads keeps, lengths]

/-- The fields of a group its constructor accepts pass. -/
theorem group_complete {g : JournalGroup} {fieldValues : Members} (valid : g.postInit = .ok ())
    (readable : Readable (.obj fieldValues)) (each : FieldsProject g.fields fieldValues) :
    validateGroupFields fieldValues = some g.summary := by
  obtain ⟨⟨hasVersion, -⟩, hasSession, hasManifest, ⟨hasSequence, -⟩, ⟨parent, hasParent, ofParent⟩,
    ⟨hasCount, -⟩, ⟨hasFirst, -⟩, hasPriorRecord, hasPriorState, ⟨recordTuple, hasRecords, ofRecords⟩,
    ⟨traceTuple, hasTraces, ofTraces⟩, hasFinalRecord, hasPostState, hasPostTrace, hasDigest⟩ :=
    group_fields.mp each
  obtain ⟨validRecords, validTraces⟩ := JournalGroup.postInit_members valid
  obtain ⟨⟨version, session, manifest, sequence, validParent, count, first,
    ⟨least, most, total, lengths⟩, priorRecord, priorState, finalRecord, postState, postTrace⟩,
    chained, digest, self⟩ := JournalGroup.postInit_iff.mp valid
  rw [schemaVersion_iff] at version
  rw [sessionId_iff] at session
  rw [sha256_iff] at manifest priorRecord priorState finalRecord postState postTrace digest
  rw [positive_iff] at sequence count first
  have readableRecords := readable_member readable hasRecords
  have readableTraces := readable_member readable hasTraces
  have readableParent := readable_member readable hasParent
  obtain ⟨items, isRecords, relatedRecords⟩ := (projects_tuple readableRecords).mp ofRecords
  obtain ⟨traceItems, isTraces, relatedTraces⟩ := (projects_tuple readableTraces).mp ofTraces
  obtain ⟨_, readParent⟩ := parent_complete validParent readableParent ofParent
  obtain ⟨kept, keptRead, keeps⟩ := records_complete validRecords
    (isRecords.readable readableRecords) relatedRecords
  have tracesRead := traces_complete validTraces (isTraces.readable readableTraces) relatedTraces
  have recordCount : items.length = g.records.length := by
    simpa using relatedRecords.length_eq.symm
  have traceCount : traceItems.length = g.traceSteps.length := by
    simpa using relatedTraces.length_eq.symm
  obtain ⟨trace, firstTrace⟩ : ∃ trace, g.traceSteps.head? = some trace :=
    Option.isSome_iff_exists.mp (by rw [List.isSome_head?]; exact List.length_pos_iff.mp (by omega))
  rw [firstTrace] at chained
  have goesOn := (chain_agrees (g := g) readableParent ofParent keeps
    (fun r inside _ => validRecords r inside) validTraces).mpr chained
  have raw := (rawSelfDigest_iff readable (JournalGroup.fields_keys g) each).mpr self
  refine Option.bind_eq_some_iff.mpr
    ⟨items, member_iff.mpr ⟨_, hasRecords, tupleItems_iff.mpr isRecords⟩, ?_⟩
  refine Option.bind_eq_some_iff.mpr
    ⟨traceItems, member_iff.mpr ⟨_, hasTraces, tupleItems_iff.mpr isTraces⟩, ?_⟩
  refine Option.bind_eq_some_iff.mpr ⟨_, member_of_lookup hasCount integer, ?_⟩
  refine Option.bind_eq_some_iff.mpr ⟨_, member_of_lookup hasSequence integer, ?_⟩
  rw [if_neg (by omega)]
  refine Option.bind_eq_some_iff.mpr ⟨_, member_integer.mpr ⟨hasVersion, ?_⟩, ?_⟩
  · rw [version]
    decide
  refine Option.bind_eq_some_iff.mpr ⟨_, member_sessionId.mpr ⟨hasSession, session⟩, ?_⟩
  refine Option.bind_eq_some_iff.mpr ⟨_, member_digest.mpr ⟨hasManifest, manifest⟩, ?_⟩
  refine Option.bind_eq_some_iff.mpr ⟨_, member_integer.mpr ⟨hasSequence, sequence⟩, ?_⟩
  refine Option.bind_eq_some_iff.mpr ⟨parent, hasParent, ?_⟩
  refine Option.bind_eq_some_iff.mpr ⟨_, readParent, ?_⟩
  refine Option.bind_eq_some_iff.mpr ⟨_, member_integer.mpr ⟨hasCount, count⟩, ?_⟩
  refine Option.bind_eq_some_iff.mpr ⟨_, member_integer.mpr ⟨hasFirst, first⟩, ?_⟩
  refine Option.bind_eq_some_iff.mpr ⟨_, member_digest.mpr ⟨hasPriorRecord, priorRecord⟩, ?_⟩
  refine Option.bind_eq_some_iff.mpr ⟨_, member_digest.mpr ⟨hasPriorState, priorState⟩, ?_⟩
  refine Option.bind_eq_some_iff.mpr ⟨_, member_digest.mpr ⟨hasFinalRecord, finalRecord⟩, ?_⟩
  refine Option.bind_eq_some_iff.mpr ⟨_, member_digest.mpr ⟨hasPostState, postState⟩, ?_⟩
  refine Option.bind_eq_some_iff.mpr ⟨_, member_digest.mpr ⟨hasPostTrace, postTrace⟩, ?_⟩
  refine Option.bind_eq_some_iff.mpr ⟨_, member_digest.mpr ⟨hasDigest, digest⟩, ?_⟩
  refine Option.bind_eq_some_iff.mpr ⟨kept, keptRead, ?_⟩
  refine Option.bind_eq_some_iff.mpr ⟨_, tracesRead, ?_⟩
  refine Option.bind_eq_some_iff.mpr ⟨trace, firstTrace, ?_⟩
  refine Option.bind_eq_some_iff.mpr ⟨_, goesOn, ?_⟩
  rw [if_pos ⟨version, by rw [keeps.length_eq, total], by omega, rfl, raw⟩, JournalGroup.summary,
    keeps_payloads keeps, recordCount]

/-- The validator accepts the canonical bytes of the groups their constructor accepts. -/
theorem validator_iff {metadata : Bytes} {summary : GroupSummary} :
    validateExpertGroupMetadataDiagnostic others metadata = some summary ↔
      ∃ g : JournalGroup, g.postInit = .ok () ∧ g.contract.canonicalBytes = some metadata ∧
        g.summary = summary := by
  constructor
  · intro read
    rw [validateExpertGroupMetadataDiagnostic, ite_eq_iff] at read
    rcases read with ⟨-, none⟩ | ⟨-, read⟩
    · exact nomatch none
    obtain ⟨raw, loaded, read⟩ := Option.bind_eq_some_iff.mp read
    rw [ite_eq_iff] at read
    rcases read with ⟨⟨keys, version, domain⟩, read⟩ | ⟨-, none⟩
    on_goal 2 => exact nomatch none
    obtain ⟨v, value, read⟩ := Option.bind_eq_some_iff.mp read
    rw [ite_eq_iff] at read
    rcases read with ⟨shaped, read⟩ | ⟨-, none⟩
    on_goal 2 => exact nomatch none
    obtain ⟨group, isObject, read⟩ := Option.bind_eq_some_iff.mp read
    obtain ⟨groupFields, isFields, read⟩ := Option.bind_eq_some_iff.mp read
    rw [ite_eq_iff] at read
    rcases read with ⟨named, read⟩ | ⟨-, none⟩
    on_goal 2 => exact nomatch none
    obtain ⟨found, valid, read⟩ := Option.bind_eq_some_iff.mp read
    rw [ite_eq_iff] at read
    rcases read with ⟨written, same⟩ | ⟨-, none⟩
    on_goal 2 => exact nomatch none
    obtain rfl := Option.some.inj same
    obtain rfl := object_eq_some isObject
    have readable := (loadDocument_fixed loaded written).1
    have readableValue := readable_member readable value
    have fields : contractFields (.obj group) groupName = some groupFields := by
      have one := (shape_contract_spec shaped named).2.1
      simp only [contractFields, Option.bind_eq_bind, Option.bind_eq_some_iff]
      exact ⟨group, rfl, groupFields, isFields, if_pos ⟨named, by rw [one]; rfl⟩⟩
    obtain ⟨contract, shapes⟩ := contractFields_sound shaped (withGroup_group others).1 fields
    obtain ⟨g, accepted, each, rfl⟩ := group_sound shapes (contract.readable readableValue) valid
    have projects := (group_contract readableValue).mpr ⟨groupFields, contract, each⟩
    refine ⟨g, accepted, ?_, rfl⟩
    have distinct : ((documentMembers (.int 1) (.obj group)).map Prod.fst).Nodup :=
      (by decide : documentKeys.Nodup)
    obtain ⟨w, hasVersion, isOne⟩ := member_iff.mp version
    obtain ⟨u, hasDomain, isDomain⟩ := member_iff.mp domain
    rw [integer_eq_some isOne] at hasVersion
    rw [Journal.string_eq_some isDomain] at hasDomain
    have alike : sortKeys (.obj raw) = sortKeys (document (.int 1) (.obj group)) :=
      (alike_obj_iff readable.1 distinct).mpr ⟨keys, List.forall_iff_forall_mem.mp
        ⟨⟨_, hasVersion, rfl⟩, ⟨_, hasDomain, rfl⟩, _, value, rfl⟩⟩
    rw [projects.canonicalBytes, ← canonicalJsonBytes_alike alike, written]
  · rintro ⟨g, valid, canonical, rfl⟩
    have registered : g.contract.Registered (withGroup others) projectionLevels :=
      JournalGroup.registered valid
    obtain ⟨mark, raw, v, loaded, written, keys, version, domain, value, readable, projects⟩ :=
      loadDocument_registered registered canonical
    obtain ⟨groupFields, contract, each⟩ := (group_contract readable).mp projects
    have passes := group_complete valid (contract.readable readable) each
    have shaped := shape_projects registered readable projects
    obtain ⟨⟨group, rfl, -, isName, -, isFields⟩, -⟩ := contract
    have named : member group "$contract" string = some groupName := member_of_lookup isName string
    rw [validateExpertGroupMetadataDiagnostic, if_neg mark]
    refine Option.bind_eq_some_iff.mpr ⟨raw, loaded, ?_⟩
    rw [if_pos ⟨keys, version, domain⟩]
    refine Option.bind_eq_some_iff.mpr ⟨_, value, ?_⟩
    rw [if_pos shaped]
    simp only [object, Option.bind_eq_bind, Option.bind_some]
    refine Option.bind_eq_some_iff.mpr ⟨groupFields, member_of_lookup isFields object, ?_⟩
    rw [if_pos named]
    exact Option.bind_eq_some_iff.mpr ⟨_, passes, if_pos written⟩

/-- The validator accepts what the strict reading accepts as a group, and answers with the
sequence of the group, the number of its records and the descriptors of their payloads. -/
theorem validator_agrees (others : Registry) (metadata : Bytes) :
    validateExpertGroupMetadataDiagnostic others metadata =
      (decodeGroup others metadata).map JournalGroup.summary := by
  refine Option.ext fun summary => ?_
  simp only [validator_iff, Option.map_eq_some_iff, decodeGroup_iff, and_assoc]

end Inci.Companion
