/-
# Companion.ReplayMaterial -- the reading for a replay extends the structural one

The reading for a replay accepts the canonical text of a document with any typed
fields, whose version may be written as the number one or as a true flag, and
nothing else (`material_sound`, `material_complete`).  A terminal the structural
reading accepts is such a document (`structural_spec`).  The text is the canonical
encoding of its fields unless the version is the flag or an integer is past the
encoder's bound (`replay_material`).
-/
import Inci.Companion.Reading
import Inci.Companion.Terminals
import Inci.Expert.FrameRoundTrip
import Inci.Expert.Injectivity

namespace Inci.Companion

open Inci.Theory
open Inci.Theory.Json (Text text Value lookup sortKeys sortedMembers Readable)
open Inci.Expert (decodeExpertCompleteFrame encodeExpertFrame expertFrameKindTerminal integerBound
  FrameParts DecodedFrame)
open Inci.Journal (Bytes Members SameKeys SameMembers canonicalJsonBytes member string boolean)
open Inci.Replay (ExpertTerminalReason)

set_option autoImplicit false

/-! ## Flat values -/

/-- A value that is projected to one JSON value, or to the object of an enumeration member. -/
def Decoded.Flat : Decoded → Prop
  | .bool _ => True
  | .int _ => True
  | .str _ => True
  | .enum _ _ => True
  | _ => False

/-- The projection of a flat value, of any size. -/
def Decoded.plain : Decoded → Value
  | .bool b => .bool b
  | .int n => .int n
  | .str s => .str s
  | .enum className value => enumValue className value
  | _ => .null

/-- An integer is below the encoder's bound. -/
def Decoded.Bounded (d : Decoded) : Prop := ∀ n, d = .int n → n.natAbs < integerBound

def plainFields (fields : List (Text × Decoded)) : Members :=
  fields.map fun m => (m.1, m.2.plain)

theorem project_flat {d : Decoded} {v : Value} (flat : d.Flat) :
    d.project = some v ↔ d.Bounded ∧ v = d.plain := by
  cases d with
  | int n =>
      have bounded : (Decoded.int n).Bounded ↔ n.natAbs < integerBound :=
        ⟨fun each => each n rfl, fun below m same => by cases same; exact below⟩
      rw [Decoded.project, bounded]
      by_cases below : n.natAbs < integerBound
      · rw [if_pos below]
        simp [below, Decoded.plain, eq_comm]
      · rw [if_neg below]
        simp [below]
  | bool b => simp [Decoded.project, Decoded.Bounded, Decoded.plain, eq_comm]
  | str s => simp [Decoded.project, Decoded.Bounded, Decoded.plain, eq_comm]
  | enum c w => simp [Decoded.project, Decoded.Bounded, Decoded.plain, eq_comm]
  | none => exact flat.elim
  | decimal d => exact flat.elim
  | tuple items => exact flat.elim
  | list items => exact flat.elim
  | dict entries => exact flat.elim
  | contract c fields => exact flat.elim

theorem projectFields_flat {fields : List (Text × Decoded)} {members : Members}
    (flat : ∀ m ∈ fields, m.2.Flat) : projectFields fields = some members ↔
      (∀ m ∈ fields, m.2.Bounded) ∧ members = plainFields fields := by
  induction fields generalizing members with
  | nil => simp [projectFields, plainFields, eq_comm]
  | cons m rest ih =>
      obtain ⟨name, d⟩ := m
      have here := flat _ List.mem_cons_self
      have later := fun others => @ih others fun m inside => flat m (List.mem_cons_of_mem _ inside)
      simp only [projectFields, Option.bind_eq_bind, Option.bind_eq_some_iff, project_flat here,
        later, List.forall_mem_cons]
      constructor
      · rintro ⟨_, ⟨below, rfl⟩, _, ⟨each, rfl⟩, same⟩
        exact ⟨⟨below, each⟩, (Option.some.inj same).symm⟩
      · rintro ⟨⟨below, each⟩, rfl⟩
        exact ⟨_, ⟨below, rfl⟩, _, ⟨each, rfl⟩, rfl⟩

theorem plain_sorted {d : Decoded} : sortKeys d.plain = d.plain := by
  cases d with
  | enum c v => exact sortKeys_enumValue c v
  | none => rfl
  | bool b => rfl
  | int n => rfl
  | str s => rfl
  | decimal d => rfl
  | tuple items => rfl
  | list items => rfl
  | dict entries => rfl
  | contract c fields => rfl

/-! ## The document of a terminal -/

namespace SessionTerminal

variable {t : SessionTerminal}

def members (t : SessionTerminal) : Members := plainFields t.fields

/-- The document of a terminal whose version is written in some way. -/
def document (version : Value) (t : SessionTerminal) : Value :=
  Companion.document version (contractValue terminalName t.members)

/-- What the reading for a replay asks of the fields. -/
structure Loose (t : SessionTerminal) : Prop where
  version : t.schemaVersion = 1
  nonnegative : ∀ m ∈ t.fields, ∀ n, m.2 = .int n → 0 ≤ n
  survives : ∀ m ∈ t.fields, ∀ s, m.2 = .str s → Json.Survives s

theorem fields_keys (t : SessionTerminal) : t.fields.map Prod.fst = fieldNames := by
  simp only [fields, fieldNames, List.map_cons, List.map_nil]

theorem members_keys (t : SessionTerminal) : t.members.map Prod.fst = fieldNames := by
  rw [← fields_keys t, members, plainFields, List.map_map]
  rfl

theorem fieldNames_nodup : fieldNames.Nodup :=
  List.Nodup.map (fun _ _ => Expert.text_inj) (by decide)

theorem fieldNames_survive : ∀ k ∈ fieldNames, Json.Survives k := by
  intro k inside
  obtain ⟨s, -, rfl⟩ := List.mem_map.mp inside
  exact Expert.text_survives s

theorem fields_flat : ∀ m ∈ t.fields, m.2.Flat :=
  List.forall_iff_forall_mem.mp (by simp [fields, Decoded.Flat])

theorem contract_bytes {metadata : Bytes} : t.contract.canonicalBytes = some metadata ↔
    (∀ m ∈ t.fields, m.2.Bounded) ∧ canonicalJsonBytes (document (.int 1) t) = some metadata := by
  simp only [Decoded.canonicalBytes, contract, Decoded.project, Option.bind_eq_some_iff,
    Option.map_eq_some_iff, projectFields_flat fields_flat]
  constructor
  · rintro ⟨_, ⟨_, ⟨each, rfl⟩, rfl⟩, written⟩
    exact ⟨each, written⟩
  · rintro ⟨each, written⟩
    exact ⟨_, ⟨_, ⟨each, rfl⟩, rfl⟩, written⟩

theorem terminalReason_spec {value : Text} {reason : ExpertTerminalReason}
    (found : terminalReason value = some reason) : value = text reason.value := by
  have named := List.find?_some found
  exact (of_decide_eq_true named).symm

theorem terminalReason_value (reason : ExpertTerminalReason) :
    terminalReason (text reason.value) = some reason := by
  cases reason <;> decide

/-! ## Reading the fields -/

theorem nonnegative_spec {v : Value} {n : Int} (read : nonnegative v = some n) :
    v = .int n ∧ 0 ≤ n := by
  cases v with
  | int k =>
      rw [nonnegative, ite_eq_iff] at read
      rcases read with ⟨-, none⟩ | ⟨least, same⟩
      · exact nomatch none
      · obtain rfl := Option.some.inj same
        exact ⟨rfl, not_lt.mp least⟩
  | null => exact nomatch read
  | bool b => exact nomatch read
  | str s => exact nomatch read
  | arr items => exact nomatch read
  | obj members => exact nomatch read

theorem boolean_spec {v : Value} {b : Bool} (read : boolean v = some b) : v = .bool b := by
  cases v with
  | bool c => rw [Option.some.inj read]
  | null => exact nomatch read
  | int n => exact nomatch read
  | str s => exact nomatch read
  | arr items => exact nomatch read
  | obj members => exact nomatch read

/-- An integer member that is not negative is read as it stands. -/
theorem member_nonnegative {β : Type} {raw : Members} {name : String} {next : Int → Option β}
    {b : β} (read : (member raw name nonnegative >>= next) = some b) :
    ∃ n, lookup (text name) raw = some (.int n) ∧ 0 ≤ n ∧ next n = some b := by
  obtain ⟨v, n, found, value, rest⟩ := member_read read
  obtain ⟨rfl, least⟩ := nonnegative_spec value
  exact ⟨n, found, least, rest⟩

/-- Every field is read as it stands, but for the reason. -/
theorem looseFields_spec {raw : Members} (read : looseFields raw = some t) :
    (∀ m ∈ t.members, ∃ v, lookup m.1 raw = some v ∧
      (v = m.2 ∨ m.2 = enumValue reasonName (text t.reason.value) ∧
        reasonOf v = some t.reason)) ∧
    ∀ m ∈ t.fields, ∀ n, m.2 = .int n → 0 ≤ n := by
  obtain ⟨_, version, leastVersion, read⟩ := member_nonnegative read
  obtain ⟨_, session, read⟩ := Journal.member_written read Journal.string_eq_some
  obtain ⟨_, manifest, read⟩ := Journal.member_written read Journal.string_eq_some
  obtain ⟨_, request, read⟩ := Journal.member_written read Journal.string_eq_some
  obtain ⟨_, binding, read⟩ := Journal.member_written read Journal.string_eq_some
  obtain ⟨_, retention, read⟩ := Journal.member_written read Journal.string_eq_some
  obtain ⟨_, ingest, leastIngest, read⟩ := member_nonnegative read
  obtain ⟨_, evidence, read⟩ := Journal.member_written read Journal.string_eq_some
  obtain ⟨_, evidenceClean, read⟩ := Journal.member_written read boolean_spec
  obtain ⟨_, evidenceReason, read⟩ := Journal.member_written read Journal.string_eq_some
  obtain ⟨_, raws, leastRaws, read⟩ := member_nonnegative read
  obtain ⟨_, derived, leastDerived, read⟩ := member_nonnegative read
  obtain ⟨_, groups, leastGroups, read⟩ := member_nonnegative read
  obtain ⟨_, records, leastRecords, read⟩ := member_nonnegative read
  obtain ⟨_, parent, leastParent, read⟩ := member_nonnegative read
  obtain ⟨_, parentRecord, read⟩ := Journal.member_written read Journal.string_eq_some
  obtain ⟨_, final, leastFinal, read⟩ := member_nonnegative read
  obtain ⟨_, finalRecord, read⟩ := Journal.member_written read Journal.string_eq_some
  obtain ⟨_, finalState, read⟩ := Journal.member_written read Journal.string_eq_some
  obtain ⟨_, finalTrace, read⟩ := Journal.member_written read Journal.string_eq_some
  obtain ⟨_, clean, read⟩ := Journal.member_written read boolean_spec
  obtain ⟨_, _, reason, member, read⟩ := member_read read
  obtain ⟨_, evaluable, read⟩ := Journal.member_written read boolean_spec
  obtain ⟨_, digest, read⟩ := Journal.member_written read Journal.string_eq_some
  obtain rfl := Option.some.inj read
  constructor
  · refine List.forall_iff_forall_mem.mp ?_
    exact ⟨⟨_, version, .inl rfl⟩, ⟨_, session, .inl rfl⟩, ⟨_, manifest, .inl rfl⟩,
      ⟨_, request, .inl rfl⟩, ⟨_, binding, .inl rfl⟩, ⟨_, retention, .inl rfl⟩,
      ⟨_, ingest, .inl rfl⟩, ⟨_, evidence, .inl rfl⟩, ⟨_, evidenceClean, .inl rfl⟩,
      ⟨_, evidenceReason, .inl rfl⟩, ⟨_, raws, .inl rfl⟩, ⟨_, derived, .inl rfl⟩,
      ⟨_, groups, .inl rfl⟩, ⟨_, records, .inl rfl⟩, ⟨_, parent, .inl rfl⟩,
      ⟨_, parentRecord, .inl rfl⟩, ⟨_, final, .inl rfl⟩, ⟨_, finalRecord, .inl rfl⟩,
      ⟨_, finalState, .inl rfl⟩, ⟨_, finalTrace, .inl rfl⟩, ⟨_, clean, .inl rfl⟩,
      ⟨_, reason, .inr ⟨rfl, member⟩⟩, ⟨_, evaluable, .inl rfl⟩, ⟨_, digest, .inl rfl⟩⟩
  · refine List.forall_iff_forall_mem.mp ?_
    simp only [fields, List.Forall, Decoded.int.injEq, forall_eq', reduceCtorEq, false_implies,
      implies_true, true_and, and_true]
    exact ⟨leastVersion, leastIngest, leastRaws, leastDerived, leastGroups, leastRecords,
      leastParent, leastFinal⟩

/-- A terminal is made of the values of its fields only. -/
theorem ofValues_spec {values : List Decoded} (made : ofValues values = some t) :
    values = t.fields.map Prod.snd := by
  unfold ofValues at made
  split at made
  · obtain ⟨reason, found, rfl⟩ := Option.map_eq_some_iff.mp made
    rw [ite_eq_iff] at found
    rcases found with ⟨named, found⟩ | ⟨-, none⟩
    · rw [named, terminalReason_spec found]
      rfl
    · exact nomatch none
  · exact nomatch made

variable {others : Registry}

/-- A reason whose form was checked is the object of its member. -/
theorem reasonOf_spec {v : Value} {levels : Nat} {reason : ExpertTerminalReason}
    (read : reasonOf v = some reason) (readable : Readable v)
    (shaped : diagnosticShape (withTerminal others) (levels + 1) v = true) :
    sortKeys v = sortKeys (enumValue reasonName (text reason.value)) := by
  obtain ⟨raw, isObject, rest⟩ := Option.bind_eq_some_iff.mp read
  obtain rfl := object_eq_some isObject
  rw [ite_eq_iff] at rest
  rcases rest with ⟨named, found⟩ | ⟨-, none⟩
  · obtain ⟨name, held, isName⟩ := Option.bind_eq_some_iff.mp named
    obtain ⟨value, holds, known⟩ := Option.bind_eq_some_iff.mp found
    obtain ⟨w, held', isValue⟩ := Option.bind_eq_some_iff.mp holds
    rw [Journal.string_eq_some isName] at held
    rw [Journal.string_eq_some isValue, terminalReason_spec known] at held'
    have keys := shape_enumKeys shaped (Json.lookup_isSome.mp (by rw [held]; rfl))
    refine Json.alike_obj readable.1 ?_ keys.1 ?_
    · exact (by decide : enumKeys.Nodup)
    · exact List.forall_iff_forall_mem.mp ⟨⟨_, held, rfl⟩, _, held', rfl⟩
  · exact nomatch none

theorem mem_members {name : Text} {d : Decoded} (inside : (name, d) ∈ t.fields) :
    (name, d.plain) ∈ t.members := List.mem_map.mpr ⟨_, inside, rfl⟩

theorem fields_some (name : Text) (known : name ∈ fieldNames) : ∃ d, (name, d) ∈ t.fields := by
  rw [← fields_keys t] at known
  obtain ⟨⟨_, d⟩, inside, rfl⟩ := List.mem_map.mp known
  exact ⟨d, inside⟩

/-- What the reading for a replay accepts is the canonical text of a document of the fields. -/
theorem material_sound {metadata : Bytes} (read : decodeTerminalMaterial others metadata = some t) :
    ∃ version, equalsOne version = true ∧ t.Loose ∧
      canonicalJsonBytes (t.document version) = some metadata := by
  obtain ⟨raw, loaded, read⟩ := Option.bind_eq_some_iff.mp read
  obtain ⟨version, hasVersion, read⟩ := Option.bind_eq_some_iff.mp read
  rw [ite_eq_iff] at read
  rcases read with ⟨⟨keys, one, domain⟩, read⟩ | ⟨-, none⟩
  on_goal 2 => exact nomatch none
  obtain ⟨value, hasValue, read⟩ := Option.bind_eq_some_iff.mp read
  rw [ite_eq_iff] at read
  rcases read with ⟨shaped, read⟩ | ⟨-, none⟩
  on_goal 2 => exact nomatch none
  obtain ⟨contract, isObject, read⟩ := Option.bind_eq_some_iff.mp read
  obtain ⟨fieldValues, hasFields, read⟩ := Option.bind_eq_some_iff.mp read
  rw [ite_eq_iff] at read
  rcases read with ⟨⟨named, names, canonical⟩, read⟩ | ⟨-, none⟩
  on_goal 2 => exact nomatch none
  obtain ⟨found, fields, read⟩ := Option.bind_eq_some_iff.mp read
  rw [ite_eq_iff] at read
  rcases read with ⟨first, same⟩ | ⟨-, none⟩
  on_goal 2 => exact nomatch none
  obtain rfl := Option.some.inj same
  obtain rfl := object_eq_some isObject
  -- every part of the loaded document is readable
  have readable := (loadDocument_fixed loaded canonical).1
  have readableValue := ((Json.readableMembers_iff raw).mp readable.2 _
    (Json.mem_of_lookup hasValue)).2
  obtain ⟨contractKeys, hasOne, fieldValues', names', hasFields', registered, -, each⟩ :=
    shape_contract_spec shaped named
  obtain ⟨v, held, isFields⟩ := Option.bind_eq_some_iff.mp hasFields
  rw [object_eq_some isFields] at held
  obtain rfl := Value.obj.inj (Option.some.inj (held.symm.trans hasFields'))
  obtain rfl : SessionTerminal.fieldNames = names' := Option.some.inj registered
  have readableFields := ((Json.readableMembers_iff contract).mp readableValue.2 _
    (Json.mem_of_lookup held)).2
  obtain ⟨written, nonnegative⟩ := looseFields_spec fields
  have survives : ∀ m ∈ found.fields, ∀ s, m.2 = .str s → Json.Survives s := by
    rintro ⟨name, d⟩ inside s rfl
    obtain ⟨v, found, here | ⟨unlike, -⟩⟩ := written _ (mem_members inside)
    · rw [here] at found
      exact ((Json.readableMembers_iff fieldValues).mp readableFields.2 _
        (Json.mem_of_lookup found)).2
    · exact nomatch unlike
  -- the fields, the contract and the document differ in the order of their keys only
  have alikeFields : sortKeys (.obj fieldValues) = sortKeys (.obj found.members) := by
    refine Json.alike_obj readableFields.1 (members_keys found ▸ fieldNames_nodup) ?_ ?_
    · rw [members_keys]
      exact names.1
    · intro m inside
      obtain ⟨v, held, here | ⟨reason, read⟩⟩ := written m inside
      · exact ⟨v, held, by rw [here]⟩
      · have known : m.1 ∈ fieldNames := members_keys found ▸ List.mem_map_of_mem inside
        obtain ⟨v', held', shaped⟩ := each m.1 known
        obtain rfl := Option.some.inj (held.symm.trans held')
        have readable := ((Json.readableMembers_iff fieldValues).mp readableFields.2 _
          (Json.mem_of_lookup held)).2
        exact ⟨v, held, by rw [reason, reasonOf_spec read readable shaped]⟩
  obtain ⟨w, hasName, isName⟩ := Option.bind_eq_some_iff.mp named
  rw [Journal.string_eq_some isName] at hasName
  have alikeValue : sortKeys (.obj contract) = sortKeys (contractValue terminalName found.members) :=
    Json.alike_obj readableValue.1 (by decide : Companion.contractKeys.Nodup) contractKeys.1
      (List.forall_iff_forall_mem.mp ⟨⟨_, hasName, rfl⟩, ⟨_, hasOne, rfl⟩, _, held, alikeFields⟩)
  obtain ⟨w, hasDomain, isDomain⟩ := Option.bind_eq_some_iff.mp domain
  rw [Journal.string_eq_some isDomain] at hasDomain
  have alike : sortKeys (.obj raw) = sortKeys (found.document version) :=
    Json.alike_obj readable.1 (by decide : documentKeys.Nodup) keys.1
      (List.forall_iff_forall_mem.mp ⟨⟨_, hasVersion, rfl⟩, ⟨_, hasDomain, rfl⟩, _, hasValue,
        alikeValue⟩)
  exact ⟨version, one, ⟨first, nonnegative, survives⟩, by
    rw [← canonicalJsonBytes_alike alike, canonical]⟩

/-! ## Every such document is accepted -/

theorem readable_int {n : Int} (prints : Json.printable (.int n) = true) : Readable (.int n) := by
  simpa only [Readable, Json.printable, decide_eq_true_eq] using prints

theorem readable_enumValue (className value : String) :
    Readable (enumValue (text className) (text value)) :=
  ⟨(by decide : enumKeys.Nodup), Expert.text_survives _, Expert.text_survives _,
    Expert.text_survives _, Expert.text_survives _, trivial⟩

theorem document_readable {version : Value} (one : equalsOne version = true) (loose : t.Loose)
    {metadata : Bytes} (written : canonicalJsonBytes (t.document version) = some metadata) :
    Readable (t.document version) := by
  obtain ⟨_, dumped, -⟩ := Journal.canonicalJsonBytes_eq_some.mp written
  have prints := Journal.dumps_printable dumped
  simp only [document, Companion.document, documentMembers, contractValue, contractMembers,
    Json.printable, Json.printableMembers, Bool.and_eq_true] at prints
  obtain ⟨printsVersion, -, ⟨-, -, printsFields, -⟩, -⟩ := prints
  have ofVersion : Readable version := by
    cases version with
    | int n => exact readable_int printsVersion
    | null => trivial
    | bool b => trivial
    | str s => exact nomatch one
    | arr items => exact nomatch one
    | obj members => exact nomatch one
  have ofFields : Readable (.obj t.members) := by
    refine ⟨members_keys t ▸ fieldNames_nodup, (Json.readableMembers_iff _).mpr ?_⟩
    intro m inside
    have print := (Json.printableMembers_all _).mp printsFields m inside
    refine ⟨fieldNames_survive _ (members_keys t ▸ List.mem_map_of_mem inside), ?_⟩
    obtain ⟨⟨name, d⟩, field, rfl⟩ := List.mem_map.mp inside
    have flat := fields_flat _ field
    cases d with
    | bool b => trivial
    | int n => exact readable_int print
    | str s => exact loose.survives _ field s rfl
    | enum c w =>
        obtain ⟨-, rfl, rfl⟩ : name = text "reason" ∧ c = reasonName ∧ w = text t.reason.value := by
          simpa [fields] using field
        exact readable_enumValue _ _
    | none => exact flat.elim
    | decimal d => exact flat.elim
    | tuple items => exact flat.elim
    | list items => exact flat.elim
    | dict entries => exact flat.elim
    | contract c fields => exact flat.elim
  have ofValue : Readable (contractValue terminalName t.members) :=
    ⟨(by decide : Companion.contractKeys.Nodup), Expert.text_survives _, Expert.text_survives _,
      Expert.text_survives _, readable_int rfl, Expert.text_survives _, ofFields, trivial⟩
  exact ⟨(by decide : documentKeys.Nodup), Expert.text_survives _, ofVersion,
    Expert.text_survives _, Expert.text_survives _, Expert.text_survives _, ofValue, trivial⟩

/-- The fields of a loose terminal are read from their members in any order. -/
theorem looseFields_members (loose : t.Loose) : looseFields (sortedMembers t.members) = some t := by
  have sorted : ∀ m ∈ t.members, sortKeys m.2 = m.2 := by
    intro m inside
    obtain ⟨f, -, rfl⟩ := List.mem_map.mp inside
    exact plain_sorted
  have same := sameMembers_sorted (members_keys t ▸ fieldNames_nodup) sorted
  have number : ∀ {name : String} {n : Int}, (text name, Decoded.int n) ∈ t.fields →
      member (sortedMembers t.members) name nonnegative = some n := by
    intro name n inside
    rw [member, same, Json.lookup_of_mem (members_keys t ▸ fieldNames_nodup) (mem_members inside)]
    exact if_neg (not_lt.mpr (loose.nonnegative _ inside n rfl))
  have string : ∀ {name : String} {s : Text}, (text name, Decoded.str s) ∈ t.fields →
      member (sortedMembers t.members) name string = some s := by
    intro name s inside
    rw [member, same, Json.lookup_of_mem (members_keys t ▸ fieldNames_nodup) (mem_members inside)]
    rfl
  have flag : ∀ {name : String} {b : Bool}, (text name, Decoded.bool b) ∈ t.fields →
      member (sortedMembers t.members) name boolean = some b := by
    intro name b inside
    rw [member, same, Json.lookup_of_mem (members_keys t ▸ fieldNames_nodup) (mem_members inside)]
    rfl
  have reason : member (sortedMembers t.members) "reason" reasonOf = some t.reason := by
    have inside : (text "reason", Decoded.enum reasonName (text t.reason.value)) ∈ t.fields := by
      simp [fields]
    rw [member, same, Json.lookup_of_mem (members_keys t ▸ fieldNames_nodup) (mem_members inside)]
    show (if some reasonName = some reasonName then _ else none) = _
    rw [if_pos rfl]
    exact terminalReason_value t.reason
  refine Option.bind_eq_some_iff.mpr ⟨t.schemaVersion, number (by simp [fields]), ?_⟩
  refine Option.bind_eq_some_iff.mpr ⟨t.sessionId, string (by simp [fields]), ?_⟩
  refine Option.bind_eq_some_iff.mpr ⟨t.expertManifestSha256, string (by simp [fields]), ?_⟩
  refine Option.bind_eq_some_iff.mpr ⟨t.providerRequestBindingSha256, string (by simp [fields]), ?_⟩
  refine Option.bind_eq_some_iff.mpr ⟨t.matchBindingUniverseSha256, string (by simp [fields]), ?_⟩
  refine Option.bind_eq_some_iff.mpr ⟨t.retentionBindingSha256, string (by simp [fields]), ?_⟩
  refine Option.bind_eq_some_iff.mpr ⟨t.evidenceTerminalIngestSeq, number (by simp [fields]), ?_⟩
  refine Option.bind_eq_some_iff.mpr ⟨t.evidenceTerminalRecordSha256, string (by simp [fields]), ?_⟩
  refine Option.bind_eq_some_iff.mpr ⟨t.evidenceTerminalClean, flag (by simp [fields]), ?_⟩
  refine Option.bind_eq_some_iff.mpr ⟨t.evidenceTerminalReason, string (by simp [fields]), ?_⟩
  refine Option.bind_eq_some_iff.mpr ⟨t.evidenceRawCount, number (by simp [fields]), ?_⟩
  refine Option.bind_eq_some_iff.mpr ⟨t.evidenceDerivedCount, number (by simp [fields]), ?_⟩
  refine Option.bind_eq_some_iff.mpr ⟨t.expertGroupCount, number (by simp [fields]), ?_⟩
  refine Option.bind_eq_some_iff.mpr ⟨t.expertRecordCount, number (by simp [fields]), ?_⟩
  refine Option.bind_eq_some_iff.mpr ⟨t.lastParentIngestSeq, number (by simp [fields]), ?_⟩
  refine Option.bind_eq_some_iff.mpr ⟨t.lastParentRecordSha256, string (by simp [fields]), ?_⟩
  refine Option.bind_eq_some_iff.mpr ⟨t.finalExpertSeq, number (by simp [fields]), ?_⟩
  refine Option.bind_eq_some_iff.mpr ⟨t.finalExpertRecordSha256, string (by simp [fields]), ?_⟩
  refine Option.bind_eq_some_iff.mpr ⟨t.finalExpertStateSha256, string (by simp [fields]), ?_⟩
  refine Option.bind_eq_some_iff.mpr ⟨t.finalExpertTraceSha256, string (by simp [fields]), ?_⟩
  refine Option.bind_eq_some_iff.mpr ⟨t.clean, flag (by simp [fields]), ?_⟩
  refine Option.bind_eq_some_iff.mpr ⟨t.reason, reason, ?_⟩
  refine Option.bind_eq_some_iff.mpr ⟨t.researchEvaluable, flag (by simp [fields]), ?_⟩
  refine Option.bind_eq_some_iff.mpr ⟨t.terminalSha256, string (by simp [fields]), ?_⟩
  rfl

theorem contractMembers_nodup (className : Text) (fields : Members) :
    ((contractMembers className fields).map Prod.fst).Nodup := (by decide : contractKeys.Nodup)

theorem documentMembers_nodup (version value : Value) :
    ((documentMembers version value).map Prod.fst).Nodup := (by decide : documentKeys.Nodup)

/-- What is read of a contract whose keys were sorted. -/
theorem contract_sorted (className : Text) (fields : Members) :
    SameKeys contractKeys (sortedMembers (contractMembers className fields)) ∧
      member (sortedMembers (contractMembers className fields)) "$contract" string =
        some className ∧
      member (sortedMembers (contractMembers className fields)) "$version" integer = some 1 ∧
      member (sortedMembers (contractMembers className fields)) "fields" object =
        some (sortedMembers fields) := by
  have distinct := contractMembers_nodup className fields
  refine ⟨sameKeys_sorted.mpr (Journal.sameKeys_of_eq rfl), (member_sorted distinct _ _).trans rfl,
    (member_sorted distinct _ _).trans rfl, ?_⟩
  rw [member_sorted distinct]
  show object (sortKeys (.obj fields)) = _
  rw [Json.sortKeys_obj]
  rfl

/-- The form of a terminal's contract is accepted, in any order of its keys. -/
theorem contract_shape (t : SessionTerminal) :
    diagnosticShape (withTerminal others) projectionLevels
      (sortKeys (contractValue terminalName t.members)) = true := by
  have named : SameKeys fieldNames (sortedMembers t.members) :=
    sameKeys_sorted.mpr (Journal.sameKeys_of_eq (members_keys t))
  have registered : (withTerminal others).contract terminalName = some fieldNames := by
    simp only [withTerminal, if_true]
  have each : ∀ name ∈ fieldNames, (lookup name (sortedMembers t.members)).any
      (diagnosticShape (withTerminal others) 128) = true := by
    intro name known
    obtain ⟨d, inside⟩ := fields_some (t := t) name known
    rw [Json.lookup_sortedMembers (members_keys t ▸ fieldNames_nodup),
      Json.lookup_of_mem (members_keys t ▸ fieldNames_nodup) (mem_members inside),
      Option.map_some, Option.any_some, plain_sorted]
    have flat := fields_flat _ inside
    cases d with
    | bool b => rfl
    | int n => rfl
    | str s => rfl
    | enum c w =>
        obtain ⟨-, rfl, rfl⟩ : name = text "reason" ∧ c = reasonName ∧ w = text t.reason.value := by
          simpa [fields] using inside
        have enumerated : (withTerminal others).enumeration reasonName =
            some (terminalReasons.map fun reason => text reason.value) := by
          simp only [withTerminal, if_true]
        have isName : member (enumMembers reasonName (text t.reason.value)) "$enum" string =
            some reasonName := rfl
        have isValue : member (enumMembers reasonName (text t.reason.value)) "value" string =
            some (text t.reason.value) := rfl
        rw [Decoded.plain, enumValue, shape_enum (Journal.sameKeys_of_eq rfl), isName,
          Option.any_some, isValue, Option.any_some, enumerated, Option.any_some]
        cases t.reason <;> decide
    | none => exact flat.elim
    | decimal d => exact flat.elim
    | tuple items => exact flat.elim
    | list items => exact flat.elim
    | dict entries => exact flat.elim
    | contract c fields => exact flat.elim
  obtain ⟨keys, name, version, values⟩ := contract_sorted terminalName t.members
  rw [contractValue, Json.sortKeys_obj, projectionLevels, shape_contract keys, name,
    Option.any_some, version, Option.any_some, values, Option.any_some, registered,
    Option.any_some, Bool.and_eq_true, Bool.and_eq_true]
  exact ⟨rfl, decide_eq_true named, List.all_eq_true.mpr each⟩

/-- Every canonical text of a document of loose fields is accepted. -/
theorem material_complete {version : Value} {metadata : Bytes} (one : equalsOne version = true)
    (loose : t.Loose) (written : canonicalJsonBytes (t.document version) = some metadata) :
    decodeTerminalMaterial others metadata = some t := by
  have readable := document_readable one loose written
  have loaded := loadDocument_written readable written
  have distinct := documentMembers_nodup version (contractValue terminalName t.members)
  have sorted : sortKeys version = version := by
    cases version with
    | arr items => exact nomatch one
    | obj members => exact nomatch one
    | null => rfl
    | bool b => rfl
    | int n => rfl
    | str s => rfl
  have again := canonicalJsonBytes_alike (Json.sortKeys_sortKeys (t.document version))
  rw [written, document, Companion.document, Json.sortKeys_obj] at again
  obtain ⟨-, name, -, values⟩ := contract_sorted terminalName t.members
  refine Option.bind_eq_some_iff.mpr ⟨_, loaded, ?_⟩
  refine Option.bind_eq_some_iff.mpr ⟨version, ?_, ?_⟩
  · rw [Json.lookup_sortedMembers distinct]
    exact congrArg some sorted
  rw [if_pos ⟨sameKeys_sorted.mpr (Journal.sameKeys_of_eq rfl), one,
    (member_sorted distinct _ _).trans rfl⟩]
  refine Option.bind_eq_some_iff.mpr ⟨sortKeys (contractValue terminalName t.members), ?_, ?_⟩
  · rw [Json.lookup_sortedMembers distinct]
    rfl
  rw [if_pos (contract_shape t), contractValue, Json.sortKeys_obj]
  refine Option.bind_eq_some_iff.mpr ⟨_, rfl, ?_⟩
  refine Option.bind_eq_some_iff.mpr ⟨_, values, ?_⟩
  rw [if_pos ⟨name, sameKeys_sorted.mpr (Journal.sameKeys_of_eq (members_keys t)), again⟩]
  exact Option.bind_eq_some_iff.mpr ⟨t, looseFields_members loose, if_pos loose.version⟩

/-! ## What the constructor accepts is loose -/

theorem integer_nonnegative {value : Int} {name : String}
    (fits : Replay.integer value name = .ok ()) : 0 ≤ value := by
  simp only [Replay.integer, bind_eq_ok, exists_unit, refuse_eq_ok, not_lt] at fits
  exact fits.2

theorem postInit_loose (valid : t.postInit = .ok ()) : t.Loose := by
  simp only [postInit, Companion.sessionId, Replay.schemaVersion, bind_eq_ok, exists_unit] at valid
  obtain ⟨⟨version, one⟩, ⟨session, -⟩, manifest, request, binding, retention, evidence, parent,
    final, state, trace, ingest, raws, derived, groups, records, last, seq, reason, -, -, digest,
    -⟩ := valid
  refine ⟨by rwa [refuse_eq_ok, not_not] at one, List.forall_iff_forall_mem.mp ?_,
    List.forall_iff_forall_mem.mp ?_⟩
  · simp only [fields, List.Forall, Decoded.int.injEq, forall_eq', reduceCtorEq, false_implies,
      implies_true, true_and, and_true]
    exact ⟨integer_nonnegative version, integer_nonnegative ingest, integer_nonnegative raws,
      integer_nonnegative derived, integer_nonnegative groups, integer_nonnegative records,
      integer_nonnegative last, integer_nonnegative seq⟩
  · simp only [fields, List.Forall, Decoded.str.injEq, forall_eq', reduceCtorEq, false_implies,
      implies_true, true_and]
    exact ⟨safeId_survives session, sha256_survives manifest, sha256_survives request,
      sha256_survives binding, sha256_survives retention, sha256_survives evidence,
      safeId_survives reason, sha256_survives parent, sha256_survives final, sha256_survives state,
      sha256_survives trace, sha256_survives digest⟩

end SessionTerminal

/-! ## The frame -/

variable {others : Registry} {frame : Bytes} {t : SessionTerminal}

/-- A frame that is read for a replay is a terminal frame of accepted metadata. -/
theorem replayMaterial_iff :
    decodeExpertTerminalFrameReplayMaterial others frame = some t ↔ ∃ sequence metadata,
      encodeExpertFrame ⟨3, sequence, metadata, []⟩ = .ok frame ∧
        decodeTerminalMaterial others metadata = some t := by
  constructor
  · intro read
    obtain ⟨complete, decoded, read⟩ := Option.bind_eq_some_iff.mp read
    rw [ite_eq_iff] at read
    rcases read with ⟨-, none⟩ | ⟨shape, read⟩
    · exact nomatch none
    obtain ⟨kind, area⟩ := not_or.mp shape
    have encoded := Expert.encode_decodeFrame (toOption_eq_some decoded)
    rw [DecodedFrame.parts, not_not.mp kind, not_not.mp area] at encoded
    exact ⟨complete.frameSequence, complete.metadata, encoded, read⟩
  · rintro ⟨sequence, metadata, encoded, read⟩
    obtain ⟨decoded, parts⟩ := Expert.decode_encodeFrame encoded
    refine Option.bind_eq_some_iff.mpr ⟨_, by rw [decoded]; rfl, ?_⟩
    rw [if_neg]
    · exact read
    · rintro (kind | area)
      · exact kind rfl
      · exact area rfl

/-- What is read of a frame as structurally sound was accepted by the constructor, and its
metadata are the canonical bytes of the terminal. -/
theorem structural_spec (read : decodeExpertTerminalFrameStructural others frame = some t) :
    t.postInit = .ok () ∧ ∃ sequence metadata,
      encodeExpertFrame ⟨3, sequence, metadata, []⟩ = .ok frame ∧
        t.contract.canonicalBytes = some metadata := by
  obtain ⟨complete, decoded, read⟩ := Option.bind_eq_some_iff.mp read
  rw [ite_eq_iff] at read
  rcases read with ⟨-, none⟩ | ⟨shape, read⟩
  · exact nomatch none
  obtain ⟨kind, area⟩ := not_or.mp shape
  obtain ⟨fields, contract, read⟩ := Option.bind_eq_some_iff.mp read
  obtain ⟨found, made, read⟩ := Option.bind_eq_some_iff.mp read
  rw [ite_eq_iff] at read
  rcases read with ⟨-, none⟩ | ⟨-, same⟩
  · exact nomatch none
  obtain rfl := Option.some.inj same
  obtain ⟨registered, accepted, canonical⟩ := decodeContractMetadata_spec contract
  simp only [withTerminal, if_true, Option.some.injEq] at registered
  simp only [withTerminal, if_true, made, Option.any_some, decide_eq_true_eq] at accepted
  have whole : fields = found.fields :=
    pairs_ext (registered.symm.trans (SessionTerminal.fields_keys found).symm)
      (SessionTerminal.ofValues_spec made)
  have encoded := Expert.encode_decodeFrame (toOption_eq_some decoded)
  rw [DecodedFrame.parts, not_not.mp kind, not_not.mp area] at encoded
  refine ⟨accepted, complete.frameSequence, complete.metadata, encoded, ?_⟩
  rw [SessionTerminal.contract, ← whole]
  exact canonical

/-- A frame is the encoding of one list of parts. -/
theorem encodeFrame_injective {parts parts' : FrameParts}
    (encoded : encodeExpertFrame parts = .ok frame)
    (encoded' : encodeExpertFrame parts' = .ok frame) : parts = parts' := by
  obtain ⟨decoded, same⟩ := Expert.decode_encodeFrame encoded
  obtain ⟨decoded', same'⟩ := Expert.decode_encodeFrame encoded'
  rw [← same, ← same', Except.ok.inj (decoded.symm.trans decoded')]

/-- A frame is the canonical encoding of a terminal, under some sequence number. -/
def CanonicalEncoding (frame : Bytes) (t : SessionTerminal) : Prop :=
  ∃ sequence metadata, t.contract.canonicalBytes = some metadata ∧
    encodeExpertFrame ⟨3, sequence, metadata, []⟩ = .ok frame

/-- A frame whose metadata are the canonical text of a document of terminal fields, but with a
true flag for its version or an integer past the encoder's bound. -/
def OddVersionOrInteger (frame : Bytes) : Prop :=
  ∃ (version : Value) (t : SessionTerminal) (sequence : Int) (metadata : Bytes),
    t.Loose ∧ canonicalJsonBytes (t.document version) = some metadata ∧
      encodeExpertFrame ⟨3, sequence, metadata, []⟩ = .ok frame ∧
      (version = .bool true ∨ version = .int 1 ∧ ∃ m ∈ t.fields, ¬m.2.Bounded)

/-- Documents with different versions have different texts. -/
theorem version_fixed {u : SessionTerminal} {version version' : Value} {metadata : Bytes}
    (one : equalsOne version = true) (one' : equalsOne version' = true) (loose : t.Loose)
    (loose' : u.Loose) (written : canonicalJsonBytes (t.document version) = some metadata)
    (written' : canonicalJsonBytes (u.document version') = some metadata) :
    sortKeys version = sortKeys version' := by
  have loaded := loadDocument_written (SessionTerminal.document_readable one loose written) written
  have loaded' := loadDocument_written
    (SessionTerminal.document_readable one' loose' written') written'
  have same := Option.some.inj (loaded.symm.trans loaded')
  have read := congrArg (lookup (text "canonical_version")) same
  rw [Json.lookup_sortedMembers (SessionTerminal.documentMembers_nodup _ _),
    Json.lookup_sortedMembers (SessionTerminal.documentMembers_nodup _ _)] at read
  exact Option.some.inj read

/-- Whatever the structural reading accepts, the reading for a replay accepts with an equal
terminal; and what that reading accepts of a frame is the frame's canonical encoding exactly
when the frame has no flag for a version and no integer past the bound. -/
theorem replay_material (others : Registry) :
    (∀ (frame : Bytes) (t : SessionTerminal),
      decodeExpertTerminalFrameStructural others frame = some t →
        decodeExpertTerminalFrameReplayMaterial others frame = some t) ∧
    ∀ frame : Bytes, (∀ t : SessionTerminal,
      decodeExpertTerminalFrameReplayMaterial others frame = some t →
        CanonicalEncoding frame t) ↔ ¬OddVersionOrInteger frame := by
  refine ⟨fun frame t read => ?_, fun frame => ⟨fun each odd => ?_, fun regular t read => ?_⟩⟩
  · obtain ⟨valid, sequence, metadata, encoded, canonical⟩ := structural_spec read
    have written := (SessionTerminal.contract_bytes.mp canonical).2
    exact replayMaterial_iff.mpr ⟨sequence, metadata, encoded,
      SessionTerminal.material_complete rfl (SessionTerminal.postInit_loose valid) written⟩
  · obtain ⟨version, t, sequence, metadata, loose, written, encoded, why⟩ := odd
    have one : equalsOne version = true := by
      rcases why with rfl | ⟨rfl, -⟩ <;> rfl
    have read := replayMaterial_iff.mpr ⟨sequence, metadata, encoded,
      @SessionTerminal.material_complete _ others _ _ one loose written⟩
    obtain ⟨sequence', metadata', canonical, encoded'⟩ := each t read
    have parts := encodeFrame_injective encoded encoded'
    obtain ⟨bounded, written'⟩ := SessionTerminal.contract_bytes.mp canonical
    rw [← (FrameParts.mk.inj parts).2.2.1] at written'
    have fixed := version_fixed one rfl loose loose written written'
    rcases why with rfl | ⟨rfl, m, inside, past⟩
    · exact nomatch fixed
    · exact past (bounded m inside)
  · obtain ⟨sequence, metadata, encoded, read⟩ := replayMaterial_iff.mp read
    obtain ⟨version, one, loose, written⟩ := SessionTerminal.material_sound read
    have isOne : version = .int 1 := by
      cases version with
      | int n => rw [of_decide_eq_true (p := n = 1) (by simpa [equalsOne] using one)]
      | bool b =>
          obtain rfl : b = true := one
          exact absurd ⟨_, t, sequence, metadata, loose, written, encoded, .inl rfl⟩ regular
      | null => exact nomatch one
      | str s => exact nomatch one
      | arr items => exact nomatch one
      | obj members => exact nomatch one
    subst isOne
    have bounded : ∀ m ∈ t.fields, m.2.Bounded := by
      intro m inside
      by_contra past
      exact regular ⟨_, t, sequence, metadata, loose, written, encoded, .inr ⟨rfl, m, inside, past⟩⟩
    exact ⟨sequence, metadata, SessionTerminal.contract_bytes.mpr ⟨bounded, written⟩, encoded⟩

/-- A terminal with the right types whose values no constructor accepts. -/
def uncheckedTerminal : SessionTerminal where
  schemaVersion := 1
  sessionId := text "s"
  expertManifestSha256 := text "m"
  providerRequestBindingSha256 := text "p"
  matchBindingUniverseSha256 := text "b"
  retentionBindingSha256 := text "r"
  evidenceTerminalIngestSeq := 0
  evidenceTerminalRecordSha256 := text "e"
  evidenceTerminalClean := true
  evidenceTerminalReason := text "session_end"
  evidenceRawCount := 0
  evidenceDerivedCount := 0
  expertGroupCount := 0
  expertRecordCount := 0
  lastParentIngestSeq := 0
  lastParentRecordSha256 := text "l"
  finalExpertSeq := 0
  finalExpertRecordSha256 := text "f"
  finalExpertStateSha256 := text "s"
  finalExpertTraceSha256 := text "t"
  clean := true
  reason := .sessionEnd
  researchEvaluable := false
  terminalSha256 := text "d"

theorem uncheckedTerminal_loose : uncheckedTerminal.Loose := by
  refine ⟨rfl, List.forall_iff_forall_mem.mp ?_, List.forall_iff_forall_mem.mp ?_⟩
  · simp [SessionTerminal.fields, uncheckedTerminal, List.Forall]
  · simp only [SessionTerminal.fields, uncheckedTerminal, List.Forall, Decoded.str.injEq,
      forall_eq', reduceCtorEq, false_implies, implies_true, Expert.text_survives, and_self]

/-- A terminal frame whose version is the flag `true` is read for a replay, and is not the
canonical encoding of the terminal that is read. -/
theorem flag_version_read : ∃ (others : Registry) (frame : Bytes) (t : SessionTerminal),
    decodeExpertTerminalFrameReplayMaterial others frame = some t ∧
      ¬CanonicalEncoding frame t := by
  have one : equalsOne (.bool true) = true := rfl
  obtain ⟨written, dumped⟩ : ∃ written,
      Json.dumps (uncheckedTerminal.document (.bool true)) = some written :=
    ⟨_, if_pos (by decide +kernel)⟩
  have metadata := Journal.canonicalJsonBytes_eq_some.mpr ⟨written, dumped, rfl⟩
  have small : (Utf8.ascii written).length ≤ Expert.maxExpertTerminalMetadataBytes := by
    rw [Utf8.ascii, List.length_map]
    exact (Json.dumps_length dumped).trans (by decide +kernel)
  obtain ⟨frame, encoded⟩ := (Expert.encodeFrame_total ⟨3, 1, Utf8.ascii written, []⟩).mpr
    (.inr (.inr ⟨rfl, le_rfl, (by decide : (1 : Int) < 2 ^ 64), rfl, small⟩))
  refine ⟨⟨fun _ => none, fun _ => none, fun _ => none, fun _ _ => false⟩, frame,
    uncheckedTerminal, replayMaterial_iff.mpr ⟨1, _, encoded,
      SessionTerminal.material_complete one uncheckedTerminal_loose metadata⟩, ?_⟩
  rintro ⟨sequence, metadata', canonical, encoded'⟩
  have parts := encodeFrame_injective encoded encoded'
  have same := (SessionTerminal.contract_bytes.mp canonical).2
  rw [← (FrameParts.mk.inj parts).2.2.1] at same
  exact nomatch version_fixed one rfl uncheckedTerminal_loose uncheckedTerminal_loose metadata same

end Inci.Companion
