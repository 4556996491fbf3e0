/-
# Companion.GroupReading -- what the strict reading of a group accepts

A group and everything it holds is registered once its constructor accepts it
(`JournalGroup.registered`), so its canonical bytes are read back as the group.
`decodeGroup_iff` says that nothing else is read: the strict reading accepts the
canonical bytes of the groups that the constructor accepts.
-/
import Inci.Companion.Group
import Inci.Companion.Projects

namespace Inci.Companion

open Inci.Theory
open Inci.Theory.Json (Text text Value lookup sortKeys sortedMembers Readable)
open Inci.Expert (integerBound)
open Inci.Journal (Bytes Members SameKeys byteOrderMark canonicalJsonBytes member string)

set_option autoImplicit false

variable {others : Registry} {levels : Nat}

/-! ## Field names -/

theorem names_nodup {names : List String} (distinct : names.Nodup) : (names.map text).Nodup :=
  distinct.map fun _ _ => Expert.text_inj

theorem names_survive {names : List String} {fields : List (Text × Decoded)}
    (named : fields.map Prod.fst = names.map text) : ∀ f ∈ fields, Json.Survives f.1 := by
  intro f inside
  have known : f.1 ∈ names.map text := named ▸ List.mem_map_of_mem inside
  obtain ⟨s, -, same⟩ := List.mem_map.mp known
  exact same ▸ Expert.text_survives s

/-- A contract of some names is registered when each of its fields is. -/
theorem registered_contract {r : Registry} {className : String} {names : List String}
    {fields : List (Text × Decoded)} (named : fields.map Prod.fst = names.map text)
    (known : r.contract (text className) = some (names.map text)) (distinct : names.Nodup)
    (accepted : r.postInit (text className) (fields.map Prod.snd) = true)
    (each : ∀ f ∈ fields, f.2.Registered r levels) :
    (Decoded.contract (text className) fields).Registered r (levels + 1) :=
  ⟨Expert.text_survives _, named ▸ known, named ▸ names_nodup distinct, accepted,
    fun f inside => ⟨names_survive named f inside, each f inside⟩⟩

/-! ## The registry -/

theorem withGroup_parent (others : Registry) :
    (withGroup others).contract parentName = some ParentEvidence.fieldNames ∧
      ∀ values, (withGroup others).postInit parentName values =
        (ParentEvidence.ofValues values).any fun p => decide (p.postInit = .ok ()) := by
  simp only [withGroup, if_true, implies_true, and_self]

theorem withGroup_payload (others : Registry) :
    (withGroup others).contract payloadName = some PayloadDescriptor.fieldNames ∧
      ∀ values, (withGroup others).postInit payloadName values =
        (PayloadDescriptor.ofValues values).any fun p => decide (p.postInit = .ok ()) := by
  have parent : payloadName ≠ parentName := by decide
  simp only [withGroup, if_neg parent, if_true, implies_true, and_self]

theorem withGroup_record (others : Registry) :
    (withGroup others).contract recordName = some JournalRecord.fieldNames ∧
      ∀ values, (withGroup others).postInit recordName values =
        (JournalRecord.ofValues values).any fun r => decide (r.postInit = .ok ()) := by
  have parent : recordName ≠ parentName := by decide
  have payload : recordName ≠ payloadName := by decide
  simp only [withGroup, if_neg parent, if_neg payload, if_true, implies_true, and_self]

theorem withGroup_trace (others : Registry) :
    (withGroup others).contract traceName = some TraceStep.fieldNames ∧
      ∀ values, (withGroup others).postInit traceName values =
        (TraceStep.ofValues values).any fun t => decide (t.postInit = .ok ()) := by
  have parent : traceName ≠ parentName := by decide
  have payload : traceName ≠ payloadName := by decide
  have record : traceName ≠ recordName := by decide
  simp only [withGroup, if_neg parent, if_neg payload, if_neg record, if_true, implies_true,
    and_self]

theorem withGroup_group (others : Registry) :
    (withGroup others).contract groupName = some JournalGroup.fieldNames ∧
      ∀ values, (withGroup others).postInit groupName values =
        (JournalGroup.ofValues values).any fun g => decide (g.postInit = .ok ()) := by
  have parent : groupName ≠ parentName := by decide
  have payload : groupName ≠ payloadName := by decide
  have record : groupName ≠ recordName := by decide
  have trace : groupName ≠ traceName := by decide
  simp only [withGroup, if_neg parent, if_neg payload, if_neg record, if_neg trace, if_true,
    implies_true, and_self]

theorem withGroup_eventKind (others : Registry) :
    (withGroup others).enumeration eventKindName =
      some (ExpertEventKind.all.map fun kind => text kind.value) := by
  simp only [withGroup, if_true]

/-! ## Parents -/

namespace ParentEvidence

variable {p : ParentEvidence}

theorem fields_keys (p : ParentEvidence) : p.fields.map Prod.fst = fieldNames := by
  simp only [fields, fieldNames, List.map_cons, List.map_nil]

theorem ofDecoded_contract (p : ParentEvidence) : ofDecoded p.contract = some p := by
  rw [contract, ofDecoded, if_pos ⟨rfl, fields_keys p⟩]
  rfl

/-- What has the type of a parent is the contract of the parent. -/
theorem ofDecoded_spec {d : Decoded} (made : ofDecoded d = some p) : d = p.contract := by
  unfold ofDecoded at made
  split at made
  · rw [ite_eq_iff] at made
    rcases made with ⟨⟨rfl, named⟩, made⟩ | ⟨-, none⟩
    on_goal 2 => exact nomatch none
    unfold ofValues at made
    split at made
    · next values =>
        obtain rfl := Option.some.inj made
        exact congrArg (Decoded.contract parentName)
          (pairs_ext (named.trans (fields_keys _).symm) values)
    · exact nomatch made
  · exact nomatch made

theorem registered (valid : p.postInit = .ok ()) :
    p.contract.Registered (withGroup others) (levels + 2) := by
  obtain ⟨known, accepts⟩ := withGroup_parent others
  refine registered_contract (fields_keys p) known (by decide) ?_ ?_
  · exact (accepts _).trans (decide_eq_true valid)
  simp only [postInit, bind_eq_ok, exists_unit] at valid
  obtain ⟨session, -, record, event, -⟩ := valid
  refine List.forall_iff_forall_mem.mp ?_
  simp only [fields, List.Forall, Decoded.Registered, true_and, and_true]
  exact ⟨sessionId_survives session, sha256_survives record, safeId_survives event⟩

end ParentEvidence

/-! ## Payload descriptors -/

namespace PayloadDescriptor

variable {p : PayloadDescriptor}

theorem fields_keys (p : PayloadDescriptor) : p.fields.map Prod.fst = fieldNames := by
  simp only [fields, fieldNames, List.map_cons, List.map_nil]

theorem ofDecoded_contract (p : PayloadDescriptor) : ofDecoded p.contract = some p := by
  rw [contract, ofDecoded, if_pos ⟨rfl, fields_keys p⟩]
  rfl

/-- What has the type of a descriptor is the contract of the descriptor. -/
theorem ofDecoded_spec {d : Decoded} (made : ofDecoded d = some p) : d = p.contract := by
  unfold ofDecoded at made
  split at made
  · rw [ite_eq_iff] at made
    rcases made with ⟨⟨rfl, named⟩, made⟩ | ⟨-, none⟩
    on_goal 2 => exact nomatch none
    unfold ofValues at made
    split at made
    · next values =>
        obtain rfl := Option.some.inj made
        exact congrArg (Decoded.contract payloadName)
          (pairs_ext (named.trans (fields_keys _).symm) values)
    · exact nomatch made
  · exact nomatch made

theorem registered (valid : p.postInit = .ok ()) :
    p.contract.Registered (withGroup others) (levels + 2) := by
  obtain ⟨known, accepts⟩ := withGroup_payload others
  refine registered_contract (fields_keys p) known (by decide) ?_ ?_
  · exact (accepts _).trans (decide_eq_true valid)
  simp only [postInit, bind_eq_ok, exists_unit, refuse_eq_ok, not_not] at valid
  obtain ⟨-, content, encoding, name, -, -, digest⟩ := valid
  obtain ⟨kind, -, named⟩ := List.mem_map.mp name
  refine List.forall_iff_forall_mem.mp ?_
  simp only [fields, List.Forall, Decoded.Registered, true_and]
  exact ⟨content ▸ Expert.text_survives _, encoding ▸ Expert.text_survives _,
    named ▸ Expert.text_survives _, sha256_survives digest⟩

end PayloadDescriptor

/-! ## Records -/

theorem eventKind_value (kind : ExpertEventKind) : eventKind (text kind.value) = some kind := by
  cases kind <;> decide

theorem eventKind_spec {value : Text} {kind : ExpertEventKind} (found : eventKind value = some kind) :
    value = text kind.value := by
  have named := List.find?_some found
  exact (of_decide_eq_true named).symm

theorem ExpertEventKind.mem_all (kind : ExpertEventKind) : kind ∈ ExpertEventKind.all := by
  cases kind <;> decide

namespace JournalRecord

variable {r : JournalRecord}

theorem fields_keys (r : JournalRecord) : r.fields.map Prod.fst = fieldNames := by
  simp only [fields, fieldNames, List.map_cons, List.map_nil]

theorem ofValues_fields (r : JournalRecord) : ofValues (r.fields.map Prod.snd) = some r := by
  simp only [fields, List.map_cons, List.map_nil, ofValues, ParentEvidence.ofDecoded_contract,
    eventKindMember, if_true, eventKind_value, PayloadDescriptor.ofDecoded_contract,
    Option.bind_eq_bind, Option.bind_some]

theorem ofDecoded_contract (r : JournalRecord) : ofDecoded r.contract = some r := by
  rw [contract, ofDecoded, if_pos ⟨rfl, fields_keys r⟩]
  exact ofValues_fields r

/-- What has the type of a record is the contract of the record. -/
theorem ofDecoded_spec {d : Decoded} (made : ofDecoded d = some r) : d = r.contract := by
  unfold ofDecoded at made
  split at made
  · rw [ite_eq_iff] at made
    rcases made with ⟨⟨rfl, named⟩, made⟩ | ⟨-, none⟩
    on_goal 2 => exact nomatch none
    unfold ofValues at made
    split at made
    · next values =>
        obtain ⟨parent, isParent, made⟩ := Option.bind_eq_some_iff.mp made
        obtain ⟨kind, isKind, made⟩ := Option.bind_eq_some_iff.mp made
        obtain ⟨payload, isPayload, made⟩ := Option.bind_eq_some_iff.mp made
        rw [eventKindMember, ite_eq_iff] at isKind
        rcases isKind with ⟨className, isKind⟩ | ⟨-, none⟩
        on_goal 2 => exact nomatch none
        obtain rfl := Option.some.inj made
        rw [ParentEvidence.ofDecoded_spec isParent, PayloadDescriptor.ofDecoded_spec isPayload,
          className, eventKind_spec isKind] at values
        exact congrArg (Decoded.contract recordName)
          (pairs_ext (named.trans (fields_keys _).symm) values)
    · exact nomatch made
  · exact nomatch made

theorem registered (valid : r.postInit = .ok ()) :
    r.contract.Registered (withGroup others) (levels + 3) := by
  obtain ⟨known, accepts⟩ := withGroup_record others
  refine registered_contract (fields_keys r) known (by decide) ?_ ?_
  · refine (accepts _).trans ?_
    rw [ofValues_fields]
    exact decide_eq_true valid
  simp only [postInit, bind_eq_ok, exists_unit, refuse_eq_ok, not_not] at valid
  obtain ⟨-, session, manifest, request, binding, retention, schema, priorRecord, priorState,
    postState, -, parent, -, -, -, payload, -, record, -⟩ := valid
  refine List.forall_iff_forall_mem.mp ?_
  simp only [fields, List.Forall, true_and, Decoded.Registered]
  exact ⟨sessionId_survives session, sha256_survives manifest, sha256_survives request,
    sha256_survives binding, sha256_survives retention, ParentEvidence.registered parent,
    ⟨Expert.text_survives _, Expert.text_survives _, _, withGroup_eventKind others,
      List.mem_map_of_mem (ExpertEventKind.mem_all _)⟩,
    sha256_survives schema, sha256_survives priorRecord, sha256_survives priorState,
    PayloadDescriptor.registered payload, sha256_survives postState, sha256_survives record⟩

end JournalRecord

/-! ## Trace steps -/

namespace TraceStep

variable {t : TraceStep}

theorem fields_keys (t : TraceStep) : t.fields.map Prod.fst = fieldNames := by
  simp only [fields, fieldNames, List.map_cons, List.map_nil]

theorem ofDecoded_contract (t : TraceStep) : ofDecoded t.contract = some t := by
  rw [contract, ofDecoded, if_pos ⟨rfl, fields_keys t⟩]
  rfl

/-- What has the type of a trace step is the contract of the step. -/
theorem ofDecoded_spec {d : Decoded} (made : ofDecoded d = some t) : d = t.contract := by
  unfold ofDecoded at made
  split at made
  · rw [ite_eq_iff] at made
    rcases made with ⟨⟨rfl, named⟩, made⟩ | ⟨-, none⟩
    on_goal 2 => exact nomatch none
    unfold ofValues at made
    split at made
    · next values =>
        obtain rfl := Option.some.inj made
        exact congrArg (Decoded.contract traceName)
          (pairs_ext (named.trans (fields_keys _).symm) values)
    · exact nomatch made
  · exact nomatch made

theorem registered (valid : t.postInit = .ok ()) :
    t.contract.Registered (withGroup others) (levels + 2) := by
  obtain ⟨known, accepts⟩ := withGroup_trace others
  refine registered_contract (fields_keys t) known (by decide) ?_ ?_
  · exact (accepts _).trans (decide_eq_true valid)
  simp only [postInit, bind_eq_ok, exists_unit] at valid
  obtain ⟨-, -, priorTrace, record, postState, postTrace, -⟩ := valid
  refine List.forall_iff_forall_mem.mp ?_
  simp only [fields, List.Forall, Decoded.Registered, true_and]
  exact ⟨sha256_survives priorTrace, sha256_survives record, sha256_survives postState,
    sha256_survives postTrace⟩

end TraceStep

/-! ## Groups -/

namespace JournalGroup

variable {g : JournalGroup}

theorem fields_keys (g : JournalGroup) : g.fields.map Prod.fst = fieldNames := by
  simp only [fields, fieldNames, List.map_cons, List.map_nil]

theorem fields_nodup (g : JournalGroup) : (g.fields.map Prod.fst).Nodup :=
  fields_keys g ▸ names_nodup (by decide)

/-- Items that are each read back are read back as a list. -/
theorem mapM_contracts {α : Type} {contract : α → Decoded} {read : Decoded → Option α}
    (back : ∀ a, read (contract a) = some a) (items : List α) :
    (items.map contract).mapM read = some items :=
  mapM_eq_some.mpr (List.forall₂_map_left_iff.mpr (List.forall₂_same.mpr fun a _ => back a))

/-- Items that are each read as a contract are the contracts of what is read. -/
theorem contracts_of_mapM {α : Type} {contract : α → Decoded} {read : Decoded → Option α}
    (spec : ∀ d a, read d = some a → d = contract a) {ds : List Decoded} {items : List α}
    (made : ds.mapM read = some items) : ds = items.map contract := by
  have each := (mapM_eq_some.mp made).imp fun d a found => spec d a found
  exact List.forall₂_eq_eq_eq ▸ List.forall₂_map_right_iff.mpr each

theorem ofValues_fields (g : JournalGroup) : ofValues (g.fields.map Prod.snd) = some g := by
  simp only [fields, List.map_cons, List.map_nil, ofValues, ParentEvidence.ofDecoded_contract,
    mapM_contracts JournalRecord.ofDecoded_contract, mapM_contracts TraceStep.ofDecoded_contract,
    Option.bind_eq_bind, Option.bind_some]

/-- A group is made of the values of its fields only. -/
theorem ofValues_spec {values : List Decoded} (made : ofValues values = some g) :
    values = g.fields.map Prod.snd := by
  unfold ofValues at made
  split at made
  · obtain ⟨parent, isParent, made⟩ := Option.bind_eq_some_iff.mp made
    obtain ⟨records, areRecords, made⟩ := Option.bind_eq_some_iff.mp made
    obtain ⟨traces, areTraces, made⟩ := Option.bind_eq_some_iff.mp made
    obtain rfl := Option.some.inj made
    rw [ParentEvidence.ofDecoded_spec isParent,
      contracts_of_mapM (fun _ _ => JournalRecord.ofDecoded_spec) areRecords,
      contracts_of_mapM (fun _ _ => TraceStep.ofDecoded_spec) areTraces]
    rfl
  · exact nomatch made

/-- A chain that is accepted runs every constructor. -/
theorem chain_valid {offset : Int} {heads final : ChainHeads}
    {pairs : List (JournalRecord × TraceStep)} (accepted : g.chain offset heads pairs = .ok final) :
    ∀ pair ∈ pairs, pair.1.postInit = .ok () ∧ pair.2.postInit = .ok () := by
  induction pairs generalizing offset heads with
  | nil => exact fun _ none => absurd none List.not_mem_nil
  | cons pair rest ih =>
      obtain ⟨record, trace⟩ := pair
      simp only [chain, bind_eq_ok, exists_unit] at accepted
      obtain ⟨ofRecord, ofTrace, -, rest⟩ := accepted
      exact List.forall_mem_cons.mpr ⟨⟨ofRecord, ofTrace⟩, ih rest⟩

/-- What the constructor of a group checks. -/
theorem postInit_iff : g.postInit = .ok () ↔
    (Replay.schemaVersion g.schemaVersion = .ok () ∧
      Companion.sessionId g.sessionId "session_id" = .ok () ∧
      sha256 g.expertManifestSha256 "expert_manifest_sha256" = .ok () ∧
      positive g.groupSequence "group_sequence" = .ok () ∧ g.parent.postInit = .ok () ∧
      positive g.parentOutputCount "parent_output_count" = .ok () ∧
      positive g.firstExpertSeq "first_expert_seq" = .ok () ∧
      (1 ≤ g.records.length ∧ g.records.length ≤ 64 ∧
        g.parentOutputCount = g.records.length ∧ g.traceSteps.length = g.records.length) ∧
      sha256 g.priorExpertRecordSha256 "prior_expert_record_sha256" = .ok () ∧
      sha256 g.priorExpertStateSha256 "prior_expert_state_sha256" = .ok () ∧
      sha256 g.finalExpertRecordSha256 "final_expert_record_sha256" = .ok () ∧
      sha256 g.postExpertStateSha256 "post_expert_state_sha256" = .ok () ∧
      sha256 g.postTraceSha256 "post_trace_sha256" = .ok ()) ∧
    g.chain 0 ⟨g.priorExpertRecordSha256, g.priorExpertStateSha256,
        (g.traceSteps.head?.map TraceStep.priorTraceSha256).getD []⟩ (g.records.zip g.traceSteps) =
      .ok ⟨g.finalExpertRecordSha256, g.postExpertStateSha256, g.postTraceSha256⟩ ∧
    sha256 g.groupSha256 "group_sha256" = .ok () ∧
    selfDigest g.fields g.groupSha256 "INCI-EXPERT-JOURNAL-GROUP-V1" "group_sha256" = .ok () := by
  have shape : ¬(g.records = [] ∨ 64 < g.records.length ∨
      (g.records.length : Int) ≠ g.parentOutputCount ∨ g.traceSteps.length ≠ g.records.length) ↔
      1 ≤ g.records.length ∧ g.records.length ≤ 64 ∧
        g.parentOutputCount = g.records.length ∧ g.traceSteps.length = g.records.length := by
    rw [← List.length_eq_zero_iff]
    omega
  simp only [postInit, bind_eq_ok, exists_unit, refuse_eq_ok, shape, not_not]
  constructor
  · rintro ⟨version, session, manifest, sequence, parent, count, first, sizes, priorRecord,
      priorState, finalRecord, postState, postTrace, heads, chained, rfl, digest, self⟩
    exact ⟨⟨version, session, manifest, sequence, parent, count, first, sizes, priorRecord,
      priorState, finalRecord, postState, postTrace⟩, chained, digest, self⟩
  · rintro ⟨⟨version, session, manifest, sequence, parent, count, first, sizes, priorRecord,
      priorState, finalRecord, postState, postTrace⟩, chained, digest, self⟩
    exact ⟨version, session, manifest, sequence, parent, count, first, sizes, priorRecord,
      priorState, finalRecord, postState, postTrace, _, chained, rfl, digest, self⟩

/-- Every record and every trace step of an accepted group is accepted. -/
theorem postInit_members (valid : g.postInit = .ok ()) :
    (∀ r ∈ g.records, r.postInit = .ok ()) ∧ ∀ t ∈ g.traceSteps, t.postInit = .ok () := by
  obtain ⟨⟨-, -, -, -, -, -, -, ⟨-, -, -, lengths⟩, -⟩, chained, -⟩ := postInit_iff.mp valid
  have each := chain_valid chained
  constructor
  · intro r inside
    obtain ⟨i, below, rfl⟩ := List.getElem_of_mem inside
    exact (each (g.records[i], g.traceSteps[i]) (List.mem_iff_getElem.mpr
      ⟨i, by rw [List.length_zip]; omega, List.getElem_zip⟩)).1
  · intro t inside
    obtain ⟨i, below, rfl⟩ := List.getElem_of_mem inside
    exact (each (g.records[i], g.traceSteps[i]) (List.mem_iff_getElem.mpr
      ⟨i, by rw [List.length_zip]; omega, List.getElem_zip⟩)).2

theorem registered (valid : g.postInit = .ok ()) :
    g.contract.Registered (withGroup others) (levels + 5) := by
  obtain ⟨known, accepts⟩ := withGroup_group others
  refine registered_contract (fields_keys g) known (by decide) ?_ ?_
  · refine (accepts _).trans ?_
    rw [ofValues_fields]
    exact decide_eq_true valid
  obtain ⟨ofRecords, ofTraces⟩ := postInit_members valid
  obtain ⟨⟨-, session, manifest, -, parent, -, -, -, priorRecord, priorState, finalRecord,
    postState, postTrace⟩, -, digest, -⟩ := postInit_iff.mp valid
  refine List.forall_iff_forall_mem.mp ?_
  simp only [fields, List.Forall, true_and, Decoded.Registered, List.forall_mem_map]
  exact ⟨sessionId_survives session, sha256_survives manifest, ParentEvidence.registered parent,
    sha256_survives priorRecord, sha256_survives priorState,
    fun r inside => JournalRecord.registered (ofRecords r inside),
    fun t inside => TraceStep.registered (ofTraces t inside), sha256_survives finalRecord,
    sha256_survives postState, sha256_survives postTrace, sha256_survives digest⟩

end JournalGroup

/-! ## The strict reading -/

theorem byteOrderMark_absent {raw : Members} {metadata : Bytes}
    (written : canonicalJsonBytes (.obj raw) = some metadata) : ¬byteOrderMark <+: metadata := by
  obtain ⟨t, dumped, rfl⟩ := Journal.canonicalJsonBytes_eq_some.mp written
  exact Journal.no_byteOrderMark dumped

/-- What is loaded of the canonical bytes of a registered value: a document of a value that is
its projection. -/
theorem loadDocument_registered {r : Registry} {d : Decoded} {metadata : Bytes}
    (registered : d.Registered r levels) (canonical : d.canonicalBytes = some metadata) :
    ¬byteOrderMark <+: metadata ∧ ∃ raw v, loadDocument metadata = some raw ∧
      canonicalJsonBytes (.obj raw) = some metadata ∧ SameKeys documentKeys raw ∧
      member raw "canonical_version" integer = some 1 ∧
      member raw "domain" string = some documentDomain ∧ lookup (text "value") raw = some v ∧
      Readable v ∧ d.Projects v := by
  obtain ⟨p, projected, written⟩ := Option.bind_eq_some_iff.mp canonical
  have readable := readable_projection registered projected
  have distinct : ((documentMembers (.int 1) p).map Prod.fst).Nodup :=
    (by decide : documentKeys.Nodup)
  have whole : Readable (.obj (documentMembers (.int 1) p)) :=
    ⟨distinct, Expert.text_survives _, readable_bounded (by decide), Expert.text_survives _,
      Expert.text_survives _, Expert.text_survives _, readable, trivial⟩
  have again := canonicalJsonBytes_alike (Json.sortKeys_sortKeys (document (.int 1) p))
  rw [written, document, Json.sortKeys_obj] at again
  refine ⟨byteOrderMark_absent written, _, sortKeys p, loadDocument_written whole written, again,
    sameKeys_sorted.mpr (Journal.sameKeys_of_eq rfl), (member_sorted distinct _ _).trans rfl,
    (member_sorted distinct _ _).trans rfl, ?_, Json.readable_sortKeys p readable, p, projected,
    Json.sortKeys_sortKeys p⟩
  rw [Json.lookup_sortedMembers distinct]
  rfl

/-- The strict reading accepts the canonical bytes of the groups their constructor accepts. -/
theorem decodeGroup_iff {metadata : Bytes} {g : JournalGroup} :
    decodeGroup others metadata = some g ↔
      g.postInit = .ok () ∧ g.contract.canonicalBytes = some metadata := by
  constructor
  · intro decoded
    obtain ⟨fields, contract, made⟩ := Option.bind_eq_some_iff.mp decoded
    obtain ⟨known, accepted, canonical⟩ := decodeContractMetadata_spec contract
    obtain ⟨registered, accepts⟩ := withGroup_group others
    have named := Option.some.inj (registered.symm.trans known)
    have whole : fields = g.fields :=
      pairs_ext (named.symm.trans (JournalGroup.fields_keys g).symm)
        (JournalGroup.ofValues_spec made)
    rw [accepts, made, Option.any_some, decide_eq_true_eq] at accepted
    rw [JournalGroup.contract, ← whole]
    exact ⟨accepted, canonical⟩
  · rintro ⟨valid, canonical⟩
    have registered : g.contract.Registered (withGroup others) projectionLevels :=
      JournalGroup.registered valid
    obtain ⟨mark, raw, v, loaded, -, keys, version, domain, value, readable, projects⟩ :=
      loadDocument_registered registered canonical
    have decoded := decode_projects registered readable projects
    refine Option.bind_eq_some_iff.mpr ⟨g.fields, ?_, JournalGroup.ofValues_fields g⟩
    rw [decodeContractMetadata, if_neg mark]
    refine Option.bind_eq_some_iff.mpr ⟨raw, loaded, ?_⟩
    rw [if_pos ⟨keys, version, domain⟩]
    refine Option.bind_eq_some_iff.mpr ⟨v, value, ?_⟩
    exact Option.bind_eq_some_iff.mpr ⟨g.contract, decoded, if_pos ⟨rfl, canonical⟩⟩

end Inci.Companion
