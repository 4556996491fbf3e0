/-
# Companion.Reading -- what the readers see of a canonical document

A canonical document is loaded as its members in key order (`loadDocument_written`),
and a loaded document that is its own canonical text was in key order
(`loadDocument_fixed`).  A reader that finds members by key sees no difference
(`lookup_sortedMembers`, `sameKeys_sorted`).  `shape_contract` and `shape_enum` are
the branches of the form check that a key set decides.
-/
import Inci.Companion.Terminals
import Inci.Journal.RecordIdentity
import Inci.Theory.JsonAlike

namespace Inci.Companion

open Inci.Theory
open Inci.Theory.Json (Text text Value lookup sortKeys sortedMembers Readable)
open Inci.Journal (Bytes Members SameKeys SameMembers canonicalJsonBytes member string)

set_option autoImplicit false

/-! ## ASCII -/

theorem decodeAscii_ascii {t : Text} (low : Utf8.Ascii t) : decodeAscii (Utf8.ascii t) = some t := by
  have points : (Utf8.ascii t).map UInt8.toNat = t := by
    rw [Utf8.ascii, List.map_map]
    conv_rhs => rw [← List.map_id t]
    exact List.map_congr_left fun c inside => Utf8.toNat_ofNat (low c inside)
  have fits : (Utf8.ascii t).all (fun byte => byte.toNat < 128) = true := by
    refine List.all_eq_true.mpr fun byte inside => ?_
    obtain ⟨c, member, rfl⟩ := List.mem_map.mp inside
    rw [Utf8.toNat_ofNat (low c member)]
    exact decide_eq_true (low c member)
  rw [decodeAscii, if_pos fits, points]

theorem decodeAscii_spec {content : Bytes} {t : Text} (decoded : decodeAscii content = some t) :
    Utf8.Ascii t ∧ Utf8.ascii t = content := by
  unfold decodeAscii at decoded
  by_cases fits : content.all (fun byte => byte.toNat < 128) = true
  · rw [if_pos fits] at decoded
    obtain rfl := Option.some.inj decoded
    constructor
    · intro c inside
      obtain ⟨byte, member, rfl⟩ := List.mem_map.mp inside
      exact of_decide_eq_true (List.all_eq_true.mp fits byte member)
    · rw [Utf8.ascii, List.map_map]
      conv_rhs => rw [← List.map_id content]
      exact List.map_congr_left fun byte _ => UInt8.ofNat_toNat
  · rw [if_neg fits] at decoded
    cases decoded

theorem ascii_points {t : Text} (low : Utf8.Ascii t) : Json.Points t := fun c inside => by
  have small := low c inside
  omega

/-! ## Texts of the grammars -/

theorem safeId_ascii {value : Text} {name : String} (safe : safeId value name = .ok ()) :
    Utf8.Ascii value := by
  simp only [safeId, bind_eq_ok, exists_unit, refuse_eq_ok, Bool.not_eq_false] at safe
  refine Journal.matchesClass_ascii safe.1 (fun c => Journal.isAlphanumeric_low) fun c fits => ?_
  rcases (Bool.or_eq_true _ _).mp fits with letter | sign
  · exact Journal.isAlphanumeric_low letter
  · have signs : ∀ d ∈ text "._:-", d < 128 := by decide
    exact signs c (by simpa using sign)

theorem safeId_survives {value : Text} {name : String} (safe : safeId value name = .ok ()) :
    Json.Survives value := Utf8.ascii_survives (safeId_ascii safe)

theorem sessionId_survives {value : Text} {name : String}
    (session : sessionId value name = .ok ()) : Json.Survives value := by
  simp only [sessionId, bind_eq_ok, exists_unit] at session
  exact safeId_survives session.1

theorem sha256_survives {value : Text} {name : String} (digest : sha256 value name = .ok ()) :
    Json.Survives value := by
  have fits : Journal.sha256 value name = .ok () := by
    rw [Companion.sha256, refuse_eq_ok] at digest
    exact refuse_ok _ digest
  exact Utf8.ascii_survives (Journal.sha256_ascii fits)

/-! ## Documents -/

theorem integer_eq_some {v : Value} {n : Int} (read : integer v = some n) : v = .int n := by
  cases v with
  | int k => rw [Option.some.inj read]
  | null => exact nomatch read
  | bool b => exact nomatch read
  | str s => exact nomatch read
  | arr items => exact nomatch read
  | obj members => exact nomatch read

theorem object_eq_some {v : Value} {members : Members} (read : object v = some members) :
    v = .obj members := by
  cases v with
  | obj found => rw [Option.some.inj read]
  | null => exact nomatch read
  | bool b => exact nomatch read
  | int n => exact nomatch read
  | str s => exact nomatch read
  | arr items => exact nomatch read

theorem canonicalJsonBytes_alike {v w : Value} (alike : sortKeys v = sortKeys w) :
    canonicalJsonBytes v = canonicalJsonBytes w := by
  rw [canonicalJsonBytes, canonicalJsonBytes, Json.encode_eq, Json.encode_eq,
    Json.dumps_congr alike]

theorem loadDocument_written {members : Members} {metadata : Bytes}
    (readable : Readable (.obj members)) (written : canonicalJsonBytes (.obj members) = some metadata) :
    loadDocument metadata = some (sortedMembers members) := by
  obtain ⟨t, dumped, rfl⟩ := Journal.canonicalJsonBytes_eq_some.mp written
  have loaded := Json.loads_dumps readable dumped
  rw [Json.sortKeys_obj] at loaded
  rw [loadDocument, decodeAscii_ascii (Utf8.dumps_ascii dumped), Option.bind_some, loaded]
  rfl

theorem loadDocument_fixed {raw : Members} {metadata : Bytes}
    (loaded : loadDocument metadata = some raw)
    (canonical : canonicalJsonBytes (.obj raw) = some metadata) :
    Readable (.obj raw) ∧ sortedMembers raw = raw := by
  obtain ⟨v, found, isObject⟩ := Option.bind_eq_some_iff.mp loaded
  obtain ⟨t, decoded, parsed⟩ := Option.bind_eq_some_iff.mp found
  obtain ⟨t', dumped, same⟩ := Journal.canonicalJsonBytes_eq_some.mp canonical
  obtain rfl := object_eq_some isObject
  obtain ⟨low, bytes⟩ := decodeAscii_spec decoded
  obtain rfl : t' = t := Utf8.ascii_injective (Utf8.dumps_ascii dumped) low (same.trans bytes.symm)
  obtain ⟨readable, fixed⟩ := Json.canonical_fixed (ascii_points low) parsed dumped
  rw [Json.sortKeys_obj] at fixed
  exact ⟨readable, Value.obj.inj fixed⟩

/-! ## Members in key order -/

theorem sameKeys_sorted {names : List Text} {members : Members} :
    SameKeys names (sortedMembers members) ↔ SameKeys names members := by
  have perm := Json.sortedMembers_keys members
  unfold SameKeys
  constructor
  · rintro ⟨inside, held⟩
    exact ⟨fun k member => inside k (perm.mem_iff.mpr member),
      fun k name => perm.mem_iff.mp (held k name)⟩
  · rintro ⟨inside, held⟩
    exact ⟨fun k member => inside k (perm.mem_iff.mp member),
      fun k name => perm.mem_iff.mpr (held k name)⟩

theorem member_sorted {members : Members} (distinct : (members.map Prod.fst).Nodup) {α : Type}
    (name : String) (read : Value → Option α) :
    member (sortedMembers members) name read =
      (lookup (text name) members).bind fun v => read (sortKeys v) := by
  rw [member, Json.lookup_sortedMembers distinct, Option.bind_map]
  rfl

/-- Members whose values are sorted already are found as they are. -/
theorem sameMembers_sorted {members : Members} (distinct : (members.map Prod.fst).Nodup)
    (sorted : ∀ m ∈ members, sortKeys m.2 = m.2) : SameMembers (sortedMembers members) members := by
  intro k
  rw [Json.lookup_sortedMembers distinct]
  cases found : lookup k members with
  | none => rfl
  | some v => exact congrArg some (sorted _ (Json.mem_of_lookup found))

/-- One set of keys is another only where each holds the other. -/
theorem sameKeys_mem_iff {names names' : List Text} {raw : Members} (one : SameKeys names raw)
    (other : SameKeys names' raw) (k : Text) : k ∈ names ↔ k ∈ names' :=
  ⟨fun inside => other.1 k (one.2 k inside), fun inside => one.1 k (other.2 k inside)⟩

/-- A member read before something else. -/
theorem member_read {α β : Type} {raw : Members} {name : String} {reader : Value → Option α}
    {next : α → Option β} {b : β} (read : (member raw name reader >>= next) = some b) :
    ∃ v a, lookup (text name) raw = some v ∧ reader v = some a ∧ next a = some b := by
  obtain ⟨a, found, rest⟩ := Option.bind_eq_some_iff.mp read
  obtain ⟨v, held, value⟩ := Option.bind_eq_some_iff.mp found
  exact ⟨v, a, held, value, rest⟩

/-! ## Enumeration members and contracts -/

theorem sortKeys_enumValue (className value : Text) :
    sortKeys (enumValue className value) = enumValue className value := by
  rw [enumValue, enumMembers, Json.sortKeys_obj, sortedMembers, Json.sortMembers_eq_map]
  congr 1
  have ordered : [(text "$enum", Value.str className), (text "value", Value.str value)].Pairwise
      (fun a b => Json.keyLe a b = true) :=
    List.pairwise_pair.mpr (decide_eq_true (by decide : text "$enum" ≤ text "value"))
  exact List.mergeSort_of_pairwise ordered

variable {r : Registry} {raw : Members} {levels : Nat}

theorem shape_enum (keys : SameKeys enumKeys raw) :
    diagnosticShape r (levels + 1) (.obj raw) =
      (member raw "$enum" string).any fun className =>
        (member raw "value" string).any fun value =>
          (r.enumeration className).any fun values => decide (value ∈ values) := by
  have decimal : ¬SameKeys [text "$decimal"] raw := fun other =>
    absurd ((sameKeys_mem_iff keys other (text "value")).mp (by decide)) (by decide)
  rw [diagnosticShape, if_neg decimal]
  exact if_pos keys

theorem shape_contract (keys : SameKeys contractKeys raw) :
    diagnosticShape r (levels + 1) (.obj raw) =
      (member raw "$contract" string).any fun className =>
        (member raw "$version" integer).any fun version =>
          (member raw "fields" object).any fun fieldValues =>
            decide (version = 1) && (r.contract className).any fun names =>
              decide (SameKeys names fieldValues) && names.all fun name =>
                (lookup name fieldValues).any (diagnosticShape r levels) := by
  have other : ∀ names : List Text, text "$contract" ∉ names → ¬SameKeys names raw :=
    fun names absent same => absent ((sameKeys_mem_iff keys same _).mp (by decide))
  rw [diagnosticShape, if_neg (other _ (by decide)), if_neg (other _ (by decide)),
    if_neg (other _ (by decide)), if_neg (other _ (by decide)), if_neg (other _ (by decide)),
    if_neg (other _ (by decide)), if_neg (other _ (by decide)), if_neg (other _ (by decide))]
  exact if_pos keys

/-- Only an enumeration member has the key of one. -/
theorem shape_enumKeys (shaped : diagnosticShape r (levels + 1) (.obj raw) = true)
    (named : text "$enum" ∈ raw.map Prod.fst) : SameKeys enumKeys raw := by
  by_contra unlike
  have other : ∀ names : List Text, text "$enum" ∉ names → ¬SameKeys names raw :=
    fun names absent same => absent (same.1 _ named)
  rw [diagnosticShape, if_neg (other _ (by decide)), if_neg unlike, if_neg (other _ (by decide)),
    if_neg (other _ (by decide)), if_neg (other _ (by decide)), if_neg (other _ (by decide)),
    if_neg (other _ (by decide)), if_neg (other _ (by decide)), if_neg (other _ (by decide))]
    at shaped
  exact nomatch shaped

/-- Only a contract has the key of one. -/
theorem shape_contractKeys (shaped : diagnosticShape r (levels + 1) (.obj raw) = true)
    (named : text "$contract" ∈ raw.map Prod.fst) : SameKeys contractKeys raw := by
  by_contra unlike
  have other : ∀ names : List Text, text "$contract" ∉ names → ¬SameKeys names raw :=
    fun names absent same => absent (same.1 _ named)
  rw [diagnosticShape, if_neg (other _ (by decide)), if_neg (other _ (by decide)),
    if_neg (other _ (by decide)), if_neg (other _ (by decide)), if_neg (other _ (by decide)),
    if_neg (other _ (by decide)), if_neg (other _ (by decide)), if_neg (other _ (by decide)),
    if_neg unlike] at shaped
  exact nomatch shaped

/-- What the form check says of a contract. -/
theorem shape_contract_spec (shaped : diagnosticShape r (levels + 1) (.obj raw) = true)
    {className : Text} (named : member raw "$contract" string = some className) :
    SameKeys contractKeys raw ∧ lookup (text "$version") raw = some (.int 1) ∧
      ∃ fieldValues names, lookup (text "fields") raw = some (.obj fieldValues) ∧
        r.contract className = some names ∧ SameKeys names fieldValues ∧
        ∀ name ∈ names, ∃ v, lookup name fieldValues = some v ∧
          diagnosticShape r levels v = true := by
  have known : text "$contract" ∈ raw.map Prod.fst := by
    obtain ⟨v, found, -⟩ := Option.bind_eq_some_iff.mp named
    rw [← Json.lookup_isSome, found]
    rfl
  have keys := shape_contractKeys shaped known
  simp only [shape_contract keys, named, Option.any_some, Option.any_eq_true, Bool.and_eq_true,
    decide_eq_true_eq, List.all_eq_true] at shaped
  obtain ⟨version, held, fieldValues, found, one, names, registered, same, each⟩ := shaped
  subst one
  refine ⟨keys, ?_, fieldValues, names, ?_, registered, same, each⟩
  · obtain ⟨v, stored, value⟩ := Option.bind_eq_some_iff.mp held
    rw [stored, integer_eq_some value]
  · obtain ⟨v, stored, value⟩ := Option.bind_eq_some_iff.mp found
    rw [stored, object_eq_some value]

/-! ## Decoded contracts -/

theorem toOption_eq_some {ε α : Type} {attempt : Except ε α} {a : α}
    (answered : attempt.toOption = some a) : attempt = .ok a := by
  cases attempt with
  | ok b => exact congrArg Except.ok (Option.some.inj answered)
  | error e => exact nomatch answered

theorem pairs_ext {α β : Type} {one other : List (α × β)}
    (first : one.map Prod.fst = other.map Prod.fst)
    (second : one.map Prod.snd = other.map Prod.snd) : one = other :=
  (List.zip_of_prod first second).trans (List.zip_of_prod rfl rfl).symm

/-- Answers that name what they answer keep the order of the names. -/
theorem mapM_names {α β : Type} {answer : α → Option (α × β)} {names : List α}
    {answers : List (α × β)} (named : ∀ a b, answer a = some b → b.1 = a)
    (all : names.mapM answer = some answers) : answers.map Prod.fst = names := by
  induction names generalizing answers with
  | nil =>
      obtain rfl := Option.some.inj all
      rfl
  | cons name rest ih =>
      rw [List.mapM_cons] at all
      obtain ⟨first, here, all⟩ := Option.bind_eq_some_iff.mp all
      obtain ⟨later, others, same⟩ := Option.bind_eq_some_iff.mp all
      obtain rfl := Option.some.inj same
      rw [List.map_cons, named name first here, ih others]

/-- A decoded contract has the registered fields and was accepted by its constructor. -/
theorem decodeProjection_contract {v : Value} {className : Text} {fields : List (Text × Decoded)}
    (decoded : decodeProjection r levels v = some (.contract className fields)) :
    r.contract className = some (fields.map Prod.fst) ∧
      r.postInit className (fields.map Prod.snd) = true := by
  cases levels with
  | zero => exact nomatch decoded
  | succ levels =>
      cases v with
      | null => exact nomatch decoded
      | bool b => exact nomatch decoded
      | int n => exact nomatch decoded
      | str s => exact nomatch decoded
      | arr items => exact nomatch decoded
      | obj raw =>
          rw [decodeProjection, ite_eq_iff] at decoded
          rcases decoded with ⟨-, decimal⟩ | ⟨-, decoded⟩
          · obtain ⟨_, -, read⟩ := Option.bind_eq_some_iff.mp decimal
            obtain ⟨_, -, wrong⟩ := Option.map_eq_some_iff.mp read
            exact nomatch wrong
          rw [ite_eq_iff] at decoded
          rcases decoded with ⟨-, enumeration⟩ | ⟨-, decoded⟩
          · obtain ⟨_, -, read⟩ := Option.bind_eq_some_iff.mp enumeration
            obtain ⟨_, -, read⟩ := Option.bind_eq_some_iff.mp read
            obtain ⟨_, -, read⟩ := Option.bind_eq_some_iff.mp read
            rw [ite_eq_iff] at read
            rcases read with ⟨-, wrong⟩ | ⟨-, none⟩
            · exact nomatch wrong
            · exact nomatch none
          rw [ite_eq_iff] at decoded
          rcases decoded with ⟨-, tuple⟩ | ⟨-, decoded⟩
          · obtain ⟨_, -, read⟩ := Option.bind_eq_some_iff.mp tuple
            obtain ⟨_, -, wrong⟩ := Option.map_eq_some_iff.mp read
            exact nomatch wrong
          rw [ite_eq_iff] at decoded
          rcases decoded with ⟨-, list⟩ | ⟨-, decoded⟩
          · obtain ⟨_, -, read⟩ := Option.bind_eq_some_iff.mp list
            obtain ⟨_, -, wrong⟩ := Option.map_eq_some_iff.mp read
            exact nomatch wrong
          rw [ite_eq_iff] at decoded
          rcases decoded with ⟨-, dict⟩ | ⟨-, decoded⟩
          · obtain ⟨_, -, read⟩ := Option.bind_eq_some_iff.mp dict
            obtain ⟨_, -, read⟩ := Option.bind_eq_some_iff.mp read
            rw [ite_eq_iff] at read
            rcases read with ⟨-, wrong⟩ | ⟨-, none⟩
            · exact nomatch wrong
            · exact nomatch none
          rw [ite_eq_iff] at decoded
          rcases decoded with ⟨-, contract⟩ | ⟨-, none⟩
          on_goal 2 => exact nomatch none
          obtain ⟨name, -, read⟩ := Option.bind_eq_some_iff.mp contract
          obtain ⟨version, -, read⟩ := Option.bind_eq_some_iff.mp read
          obtain ⟨fieldValues, -, read⟩ := Option.bind_eq_some_iff.mp read
          rw [ite_eq_iff] at read
          rcases read with ⟨-, none⟩ | ⟨-, read⟩
          · exact nomatch none
          obtain ⟨names, registered, read⟩ := Option.bind_eq_some_iff.mp read
          rw [ite_eq_iff] at read
          rcases read with ⟨-, read⟩ | ⟨-, none⟩
          on_goal 2 => exact nomatch none
          obtain ⟨found, all, read⟩ := Option.bind_eq_some_iff.mp read
          rw [ite_eq_iff] at read
          rcases read with ⟨accepted, same⟩ | ⟨-, none⟩
          on_goal 2 => exact nomatch none
          obtain ⟨rfl, rfl⟩ := Decoded.contract.inj (Option.some.inj same)
          refine ⟨?_, accepted⟩
          rw [registered, mapM_names ?_ all]
          intro a b read
          obtain ⟨_, -, read⟩ := Option.bind_eq_some_iff.mp read
          obtain ⟨_, -, same⟩ := Option.bind_eq_some_iff.mp read
          rw [← Option.some.inj same]

/-- What `decodeContractMetadata` answers. -/
theorem decodeContractMetadata_spec {metadata : Bytes} {expected : Text}
    {fields : List (Text × Decoded)}
    (decoded : decodeContractMetadata r metadata expected = some fields) :
    r.contract expected = some (fields.map Prod.fst) ∧
      r.postInit expected (fields.map Prod.snd) = true ∧
      (Decoded.contract expected fields).canonicalBytes = some metadata := by
  rw [decodeContractMetadata, ite_eq_iff] at decoded
  rcases decoded with ⟨-, none⟩ | ⟨-, decoded⟩
  · exact nomatch none
  obtain ⟨raw, -, decoded⟩ := Option.bind_eq_some_iff.mp decoded
  rw [ite_eq_iff] at decoded
  rcases decoded with ⟨-, decoded⟩ | ⟨-, none⟩
  on_goal 2 => exact nomatch none
  obtain ⟨value, -, decoded⟩ := Option.bind_eq_some_iff.mp decoded
  obtain ⟨d, projected, answer⟩ := Option.bind_eq_some_iff.mp decoded
  cases d with
  | contract className found =>
      obtain ⟨registered, accepted⟩ := decodeProjection_contract projected
      replace answer := ite_eq_iff.mp answer
      rcases answer with ⟨⟨rfl, canonical⟩, same⟩ | ⟨-, none⟩
      · obtain rfl := Option.some.inj same
        exact ⟨registered, accepted, canonical⟩
      · exact nomatch none
  | none => exact nomatch answer
  | bool b => exact nomatch answer
  | int n => exact nomatch answer
  | str s => exact nomatch answer
  | decimal d => exact nomatch answer
  | enum c w => exact nomatch answer
  | tuple items => exact nomatch answer
  | list items => exact nomatch answer
  | dict entries => exact nomatch answer

end Inci.Companion
