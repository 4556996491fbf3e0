/-
# Companion.Projects -- values that are a projection but for the order of their keys

`Decoded.Projects` relates a decoded value to the raw values whose canonical text is
its own.  `projects_int` to `projects_contract` say, constructor by constructor,
what such a raw value looks like to a reader that finds members by key.  A value of
registered types is read back from each of them (`decode_projects`), and its form
is accepted (`shape_projects`).
-/
import Inci.Companion.Reading
import Inci.Expert.Injectivity
import Inci.Theory.JsonSize

namespace Inci.Companion

open Inci.Theory
open Inci.Theory.Json (Text text Value lookup sortKeys sortedMembers Readable)
open Inci.Expert (integerBound)
open Inci.Journal (Bytes Members SameKeys canonicalJsonBytes member string)

set_option autoImplicit false

/-- The value is the projection of `d`, but for the order of its keys. -/
def Decoded.Projects (d : Decoded) (v : Value) : Prop :=
  ∃ p, d.project = some p ∧ sortKeys v = sortKeys p

variable {r : Registry} {v : Value} {raw : Members}

/-! ## Scalars -/

theorem sortKeys_int {n : Int} (sorted : sortKeys v = .int n) : v = .int n := by
  cases v with
  | int k => exact sorted
  | null => exact nomatch sorted
  | bool b => exact nomatch sorted
  | str s => exact nomatch sorted
  | arr items => exact nomatch sorted
  | obj members => exact nomatch sorted

theorem sortKeys_str {s : Text} (sorted : sortKeys v = .str s) : v = .str s := by
  cases v with
  | str t => exact sorted
  | null => exact nomatch sorted
  | bool b => exact nomatch sorted
  | int n => exact nomatch sorted
  | arr items => exact nomatch sorted
  | obj members => exact nomatch sorted

theorem sortKeys_arr_inv {items : List Value} (sorted : sortKeys v = sortKeys (.arr items)) :
    ∃ found, v = .arr found ∧ found.map sortKeys = items.map sortKeys := by
  cases v with
  | arr found =>
      rw [Json.sortKeys_arr, Json.sortKeys_arr] at sorted
      exact ⟨found, rfl, Value.arr.inj sorted⟩
  | null => exact nomatch sorted
  | bool b => exact nomatch sorted
  | int n => exact nomatch sorted
  | str s => exact nomatch sorted
  | obj members => exact nomatch sorted

theorem sortKeys_obj_inv {members : Members} (sorted : sortKeys v = sortKeys (.obj members)) :
    ∃ raw, v = .obj raw ∧ sortKeys (.obj raw) = sortKeys (.obj members) := by
  cases v with
  | obj raw => exact ⟨raw, rfl, sorted⟩
  | null => exact nomatch sorted
  | bool b => exact nomatch sorted
  | int n => exact nomatch sorted
  | str s => exact nomatch sorted
  | arr items => exact nomatch sorted

theorem projects_int {n : Int} :
    (Decoded.int n).Projects v ↔ v = .int n ∧ n.natAbs < integerBound := by
  rw [Decoded.Projects, Decoded.project]
  constructor
  · rintro ⟨p, projected, sorted⟩
    rw [ite_eq_iff] at projected
    rcases projected with ⟨below, same⟩ | ⟨-, none⟩
    · obtain rfl := Option.some.inj same
      exact ⟨sortKeys_int sorted, below⟩
    · exact nomatch none
  · rintro ⟨rfl, below⟩
    exact ⟨_, if_pos below, rfl⟩

theorem projects_str {s : Text} : (Decoded.str s).Projects v ↔ v = .str s := by
  constructor
  · rintro ⟨p, projected, sorted⟩
    obtain rfl := Option.some.inj projected
    exact sortKeys_str sorted
  · rintro rfl
    exact ⟨_, rfl, rfl⟩

/-! ## Objects -/

/-- Objects that differ in the order of their keys have the same keys, and values that differ
so under each. -/
theorem alike_obj_iff {members : Members} (distinct : (raw.map Prod.fst).Nodup)
    (distinct' : (members.map Prod.fst).Nodup) :
    sortKeys (.obj raw) = sortKeys (.obj members) ↔ SameKeys (members.map Prod.fst) raw ∧
      ∀ m ∈ members, ∃ v, lookup m.1 raw = some v ∧ sortKeys v = sortKeys m.2 := by
  constructor
  · intro alike
    rw [Json.sortKeys_obj, Json.sortKeys_obj] at alike
    have found : ∀ k, (lookup k raw).map sortKeys = (lookup k members).map sortKeys := fun k => by
      rw [← Json.lookup_sortedMembers distinct, ← Json.lookup_sortedMembers distinct',
        Value.obj.inj alike]
    have known : ∀ k, k ∈ raw.map Prod.fst ↔ k ∈ members.map Prod.fst := fun k => by
      rw [← Json.lookup_isSome, ← Json.lookup_isSome, ← Option.isSome_map (f := sortKeys), found,
        Option.isSome_map]
    refine ⟨⟨fun k => (known k).mp, fun k => (known k).mpr⟩, fun m inside => ?_⟩
    have here := found m.1
    rw [Json.lookup_of_mem distinct' inside, Option.map_some, Option.map_eq_some_iff] at here
    exact here
  · rintro ⟨keys, each⟩
    exact Json.alike_obj distinct distinct' keys.1 each

/-- The object of a contract of some class, with its fields. -/
structure IsContract (v : Value) (className : Text) (names : List Text) (fieldValues : Members) :
    Prop where
  shown : ∃ raw, v = .obj raw ∧ SameKeys contractKeys raw ∧
    lookup (text "$contract") raw = some (.str className) ∧
    lookup (text "$version") raw = some (.int 1) ∧
    lookup (text "fields") raw = some (.obj fieldValues)
  keys : SameKeys names fieldValues

/-- The object of a tuple, with its items. -/
def IsTuple (v : Value) (items : List Value) : Prop :=
  ∃ raw, v = .obj raw ∧ SameKeys [text "$tuple"] raw ∧ lookup (text "$tuple") raw = some (.arr items)

/-- The object of a member of an enumeration. -/
def IsEnum (v : Value) (className value : Text) : Prop :=
  ∃ raw, v = .obj raw ∧ SameKeys enumKeys raw ∧ lookup (text "$enum") raw = some (.str className) ∧
    lookup (text "value") raw = some (.str value)

theorem readable_member {k : Text} (readable : Readable (.obj raw)) (found : lookup k raw = some v) :
    Readable v :=
  ((Json.readableMembers_iff raw).mp readable.2 _ (Json.mem_of_lookup found)).2

theorem IsContract.readable {className : Text} {names : List Text} {fieldValues : Members}
    (contract : IsContract v className names fieldValues) (readable : Readable v) :
    Readable (.obj fieldValues) := by
  obtain ⟨⟨raw, rfl, -, -, -, found⟩, -⟩ := contract
  exact readable_member readable found

theorem IsTuple.readable {items : List Value} (tuple : IsTuple v items) (readable : Readable v) :
    ∀ w ∈ items, Readable w := by
  obtain ⟨raw, rfl, -, found⟩ := tuple
  exact (Json.readableItems_iff items).mp (readable_member readable found)

theorem projects_enum {className value : Text} (readable : Readable v) :
    (Decoded.enum className value).Projects v ↔ IsEnum v className value := by
  have distinct : ((enumMembers className value).map Prod.fst).Nodup :=
    (by decide : enumKeys.Nodup)
  constructor
  · rintro ⟨p, projected, sorted⟩
    obtain rfl := Option.some.inj projected
    obtain ⟨raw, rfl, alike⟩ := sortKeys_obj_inv sorted
    obtain ⟨keys, each⟩ := (alike_obj_iff readable.1 distinct).mp alike
    obtain ⟨c, isName, name⟩ := each (text "$enum", .str className) (by simp [enumMembers])
    obtain ⟨w, isValue, same⟩ := each (text "value", .str value) (by simp [enumMembers])
    rw [sortKeys_str name] at isName
    rw [sortKeys_str same] at isValue
    exact ⟨raw, rfl, keys, isName, isValue⟩
  · rintro ⟨raw, rfl, keys, isName, isValue⟩
    refine ⟨_, rfl, (alike_obj_iff readable.1 distinct).mpr ⟨keys, ?_⟩⟩
    exact List.forall_iff_forall_mem.mp ⟨⟨_, isName, rfl⟩, _, isValue, rfl⟩

/-! ## Tuples -/

theorem projectItems_iff {ds : List Decoded} {items : List Value} :
    (∃ projected, projectItems ds = some projected ∧
      items.map sortKeys = projected.map sortKeys) ↔ List.Forall₂ Decoded.Projects ds items := by
  induction ds generalizing items with
  | nil =>
      simp only [projectItems, Option.some.injEq, exists_eq_left', List.map_nil, List.map_eq_nil_iff,
        List.forall₂_nil_left_iff]
  | cons d rest ih =>
      constructor
      · rintro ⟨projected, all, same⟩
        obtain ⟨first, here, all⟩ := Option.bind_eq_some_iff.mp all
        obtain ⟨others, later, all⟩ := Option.bind_eq_some_iff.mp all
        obtain rfl := Option.some.inj all
        cases items with
        | nil => exact nomatch same
        | cons v items =>
            obtain ⟨one, more⟩ := List.cons.inj same
            exact .cons ⟨first, here, one⟩ (ih.mp ⟨others, later, more⟩)
      · rintro (_ | ⟨⟨first, here, one⟩, more⟩)
        obtain ⟨others, later, same⟩ := ih.mpr more
        refine ⟨first :: others, ?_, congrArg₂ List.cons one same⟩
        exact Option.bind_eq_some_iff.mpr ⟨first, here,
          Option.bind_eq_some_iff.mpr ⟨others, later, rfl⟩⟩

theorem projects_tuple {ds : List Decoded} (readable : Readable v) :
    (Decoded.tuple ds).Projects v ↔
      ∃ items, IsTuple v items ∧ List.Forall₂ Decoded.Projects ds items := by
  have distinct : ∀ items : List Value, ([(text "$tuple", Value.arr items)].map Prod.fst).Nodup :=
    fun items => List.nodup_singleton _
  constructor
  · rintro ⟨p, whole, sorted⟩
    obtain ⟨projected, all, rfl⟩ := Option.map_eq_some_iff.mp whole
    obtain ⟨raw, rfl, alike⟩ := sortKeys_obj_inv sorted
    obtain ⟨keys, each⟩ := (alike_obj_iff readable.1 (distinct _)).mp alike
    obtain ⟨w, held, sorted⟩ := each _ List.mem_cons_self
    obtain ⟨items, rfl, same⟩ := sortKeys_arr_inv sorted
    exact ⟨items, ⟨raw, rfl, keys, held⟩, projectItems_iff.mp ⟨projected, all, same⟩⟩
  · rintro ⟨items, ⟨raw, rfl, keys, held⟩, each⟩
    obtain ⟨projected, all, same⟩ := projectItems_iff.mpr each
    refine ⟨_, Option.map_eq_some_iff.mpr ⟨projected, all, rfl⟩,
      (alike_obj_iff readable.1 (distinct _)).mpr ⟨keys, ?_⟩⟩
    refine List.forall_mem_singleton.mpr ⟨_, held, ?_⟩
    rw [Json.sortKeys_arr, Json.sortKeys_arr, same]

/-! ## Contracts -/

theorem projectFields_keys {fields : List (Text × Decoded)} {members : Members}
    (projected : projectFields fields = some members) :
    members.map Prod.fst = fields.map Prod.fst := by
  induction fields generalizing members with
  | nil =>
      obtain rfl := Option.some.inj projected
      rfl
  | cons f rest ih =>
      obtain ⟨first, -, projected⟩ := Option.bind_eq_some_iff.mp projected
      obtain ⟨others, later, projected⟩ := Option.bind_eq_some_iff.mp projected
      obtain rfl := Option.some.inj projected
      rw [List.map_cons, List.map_cons, ih later]

/-- The fields are each a projection of the value under their name. -/
def FieldsProject (fields : List (Text × Decoded)) (raw : Members) : Prop :=
  ∀ f ∈ fields, ∃ w, lookup f.1 raw = some w ∧ f.2.Projects w

theorem projectFields_iff {fields : List (Text × Decoded)} :
    (∃ members, projectFields fields = some members ∧
      ∀ m ∈ members, ∃ w, lookup m.1 raw = some w ∧ sortKeys w = sortKeys m.2) ↔
    FieldsProject fields raw := by
  induction fields with
  | nil => simp [projectFields, FieldsProject]
  | cons f rest ih =>
      obtain ⟨name, d⟩ := f
      rw [FieldsProject, List.forall_mem_cons, ← FieldsProject, ← ih]
      constructor
      · rintro ⟨members, projected, each⟩
        obtain ⟨first, here, projected⟩ := Option.bind_eq_some_iff.mp projected
        obtain ⟨others, later, projected⟩ := Option.bind_eq_some_iff.mp projected
        obtain rfl := Option.some.inj projected
        obtain ⟨⟨w, found, same⟩, each⟩ := List.forall_mem_cons.mp each
        exact ⟨⟨w, found, first, here, same⟩, others, later, each⟩
      · rintro ⟨⟨w, found, first, here, same⟩, others, later, each⟩
        refine ⟨(name, first) :: others, ?_, List.forall_mem_cons.mpr ⟨⟨w, found, same⟩, each⟩⟩
        exact Option.bind_eq_some_iff.mpr ⟨first, here,
          Option.bind_eq_some_iff.mpr ⟨others, later, rfl⟩⟩

theorem projects_contract {className : Text} {fields : List (Text × Decoded)}
    (distinct : (fields.map Prod.fst).Nodup) (readable : Readable v) :
    (Decoded.contract className fields).Projects v ↔ ∃ fieldValues,
      IsContract v className (fields.map Prod.fst) fieldValues ∧
        FieldsProject fields fieldValues := by
  have outer : ∀ members, ((contractMembers className members).map Prod.fst).Nodup :=
    fun members => (by decide : contractKeys.Nodup)
  constructor
  · rintro ⟨p, projected, sorted⟩
    obtain ⟨members, all, rfl⟩ := Option.map_eq_some_iff.mp projected
    obtain ⟨raw, rfl, alike⟩ := sortKeys_obj_inv sorted
    obtain ⟨keys, each⟩ := (alike_obj_iff readable.1 (outer members)).mp alike
    obtain ⟨c, isName, name⟩ := each (text "$contract", .str className)
      (by simp [contractMembers])
    obtain ⟨n, isVersion, one⟩ := each (text "$version", .int 1) (by simp [contractMembers])
    obtain ⟨w, isFields, same⟩ := each (text "fields", .obj members) (by simp [contractMembers])
    rw [sortKeys_str name] at isName
    rw [sortKeys_int one] at isVersion
    obtain ⟨fieldValues, rfl, inner⟩ := sortKeys_obj_inv same
    have named := projectFields_keys all
    obtain ⟨known, found⟩ := (alike_obj_iff (readable_member readable isFields).1
      (named ▸ distinct)).mp inner
    exact ⟨fieldValues, ⟨⟨raw, rfl, keys, isName, isVersion, isFields⟩, named ▸ known⟩,
      projectFields_iff.mp ⟨members, all, found⟩⟩
  · rintro ⟨fieldValues, ⟨⟨raw, rfl, keys, isName, isVersion, isFields⟩, known⟩, each⟩
    obtain ⟨members, all, found⟩ := projectFields_iff.mpr each
    have named := projectFields_keys all
    have inner := (alike_obj_iff (readable_member readable isFields).1 (named ▸ distinct)).mpr
      ⟨named ▸ known, found⟩
    refine ⟨_, Option.map_eq_some_iff.mpr ⟨members, all, rfl⟩,
      (alike_obj_iff readable.1 (outer members)).mpr ⟨keys, ?_⟩⟩
    exact List.forall_iff_forall_mem.mp ⟨⟨_, isName, rfl⟩, ⟨_, isVersion, rfl⟩, _, isFields, inner⟩

/-! ## Documents -/

theorem document_alike {v w : Value} (alike : sortKeys v = sortKeys w) (version : Value) :
    sortKeys (document version v) = sortKeys (document version w) := by
  have distinct : ∀ u : Value, ((documentMembers version u).map Prod.fst).Nodup :=
    fun u => (by decide : documentKeys.Nodup)
  refine Json.alike_obj (distinct v) (distinct w) (fun k inside => inside) ?_
  exact List.forall_iff_forall_mem.mp ⟨⟨_, rfl, rfl⟩, ⟨_, rfl, rfl⟩, _, rfl, alike⟩

/-- The canonical text of a document is that of any value it holds the projection of. -/
theorem Decoded.Projects.canonicalBytes {d : Decoded} (projects : d.Projects v) :
    d.canonicalBytes = canonicalJsonBytes (document (.int 1) v) := by
  obtain ⟨p, projected, alike⟩ := projects
  rw [Decoded.canonicalBytes, projected, Option.bind_some]
  exact (canonicalJsonBytes_alike (document_alike alike _)).symm

/-! ## Registered values -/

/-- A value of flags, numbers, texts, members of registered enumerations, tuples and registered
contracts that their constructors accept, at most so many levels deep.  Its texts survive being
written and read. -/
def Decoded.Registered (r : Registry) : Nat → Decoded → Prop
  | 0, _ => False
  | _ + 1, .bool _ => True
  | _ + 1, .int _ => True
  | _ + 1, .str s => Json.Survives s
  | _ + 1, .enum className value => Json.Survives className ∧ Json.Survives value ∧
      ∃ values, r.enumeration className = some values ∧ value ∈ values
  | levels + 1, .tuple ds => ∀ d ∈ ds, Registered r levels d
  | levels + 1, .contract className fields => Json.Survives className ∧
      r.contract className = some (fields.map Prod.fst) ∧ (fields.map Prod.fst).Nodup ∧
      r.postInit className (fields.map Prod.snd) = true ∧
      ∀ f ∈ fields, Json.Survives f.1 ∧ Registered r levels f.2
  | _ + 1, _ => False

theorem decode_enum {levels : Nat} (keys : SameKeys enumKeys raw) :
    decodeProjection r (levels + 1) (.obj raw) = (do
      let className ← member raw "$enum" string
      let value ← member raw "value" string
      let values ← r.enumeration className
      if value ∈ values then some (.enum className value) else none) := by
  have decimal : ¬SameKeys [text "$decimal"] raw := fun other =>
    absurd ((sameKeys_mem_iff keys other (text "value")).mp (by decide)) (by decide)
  rw [decodeProjection, if_neg decimal]
  exact if_pos keys

theorem decode_tuple {levels : Nat} (keys : SameKeys [text "$tuple"] raw) :
    decodeProjection r (levels + 1) (.obj raw) = (do
      let items ← member raw "$tuple" array
      (items.mapM (decodeProjection r levels)).map .tuple) := by
  have other : ∀ names : List Text, text "$tuple" ∉ names → ¬SameKeys names raw :=
    fun names absent same => absent ((sameKeys_mem_iff keys same _).mp (by decide))
  rw [decodeProjection, if_neg (other _ (by decide)), if_neg (other _ (by decide))]
  exact if_pos keys

theorem decode_contract {levels : Nat} (keys : SameKeys contractKeys raw) :
    decodeProjection r (levels + 1) (.obj raw) = (do
      let className ← member raw "$contract" string
      let version ← member raw "$version" integer
      let fieldValues ← member raw "fields" object
      if version ≠ 1 then none
      else
        let names ← r.contract className
        if SameKeys names fieldValues then do
          let fields ← names.mapM fun name => do
            let value ← lookup name fieldValues
            let d ← decodeProjection r levels value
            some (name, d)
          if r.postInit className (fields.map Prod.snd) then some (.contract className fields)
          else none
        else none) := by
  have other : ∀ names : List Text, text "$contract" ∉ names → ¬SameKeys names raw :=
    fun names absent same => absent ((sameKeys_mem_iff keys same _).mp (by decide))
  rw [decodeProjection, if_neg (other _ (by decide)), if_neg (other _ (by decide)),
    if_neg (other _ (by decide)), if_neg (other _ (by decide)), if_neg (other _ (by decide))]
  exact if_pos keys

theorem shape_tuple {levels : Nat} (keys : SameKeys [text "$tuple"] raw) :
    diagnosticShape r (levels + 1) (.obj raw) =
      (member raw "$tuple" array).any fun items => items.all (diagnosticShape r levels) := by
  have other : ∀ names : List Text, text "$tuple" ∉ names → ¬SameKeys names raw :=
    fun names absent same => absent ((sameKeys_mem_iff keys same _).mp (by decide))
  rw [diagnosticShape, if_neg (other _ (by decide)), if_neg (other _ (by decide))]
  exact if_pos keys

/-- A member that is looked up is read by its reader. -/
theorem member_of_lookup {α : Type} {name : String} (found : lookup (text name) raw = some v)
    (reader : Value → Option α) : member raw name reader = reader v := by
  rw [member, found]
  rfl

theorem mapM_eq_some {α β : Type} {answer : α → Option β} {names : List α} {answers : List β} :
    names.mapM answer = some answers ↔ List.Forall₂ (fun a b => answer a = some b) names answers := by
  induction names generalizing answers with
  | nil => cases answers <;> simp
  | cons name rest ih =>
      rw [List.mapM_cons]
      constructor
      · intro all
        obtain ⟨first, here, all⟩ := Option.bind_eq_some_iff.mp all
        obtain ⟨later, others, same⟩ := Option.bind_eq_some_iff.mp all
        obtain rfl := Option.some.inj same
        exact .cons here (ih.mp others)
      · rintro (_ | ⟨here, others⟩)
        exact Option.bind_eq_some_iff.mpr ⟨_, here,
          Option.bind_eq_some_iff.mpr ⟨_, ih.mpr others, rfl⟩⟩

/-- A registered value is decoded from every raw value that is its projection. -/
theorem decode_projects {levels : Nat} {d : Decoded} (registered : d.Registered r levels)
    (readable : Readable v) (projects : d.Projects v) : decodeProjection r levels v = some d := by
  induction levels generalizing d v with
  | zero => exact registered.elim
  | succ levels ih =>
      cases d with
      | bool b =>
          obtain ⟨p, projected, sorted⟩ := projects
          obtain rfl := Option.some.inj projected
          cases v with
          | bool c => rw [Value.bool.inj sorted, decodeProjection]
          | null => cases sorted
          | int n => cases sorted
          | str s => cases sorted
          | arr items => cases sorted
          | obj members => cases sorted
      | int n => rw [(projects_int.mp projects).1, decodeProjection]
      | str s => rw [projects_str.mp projects, decodeProjection]
      | enum className value =>
          obtain ⟨raw, rfl, keys, isName, isValue⟩ := (projects_enum readable).mp projects
          obtain ⟨-, -, values, known, inside⟩ := registered
          rw [decode_enum keys, member_of_lookup isName, member_of_lookup isValue]
          exact Option.bind_eq_some_iff.mpr ⟨_, rfl, Option.bind_eq_some_iff.mpr ⟨_, rfl,
            Option.bind_eq_some_iff.mpr ⟨values, known, if_pos inside⟩⟩⟩
      | tuple ds =>
          obtain ⟨items, isTuple, each⟩ := (projects_tuple readable).mp projects
          have inner := isTuple.readable readable
          obtain ⟨raw, rfl, keys, held⟩ := isTuple
          have all : items.mapM (decodeProjection r levels) = some ds := by
            refine mapM_eq_some.mpr ?_
            refine List.forall₂_iff_get.mpr ⟨each.length_eq.symm, fun i below below' => ?_⟩
            exact ih (registered _ (List.get_mem _ _)) (inner _ (List.get_mem _ _))
              (each.get below' below)
          rw [decode_tuple keys, member_of_lookup held]
          exact Option.bind_eq_some_iff.mpr ⟨items, rfl, by rw [all]; rfl⟩
      | contract className fields =>
          obtain ⟨-, known, distinct, accepted, inside⟩ := registered
          obtain ⟨fieldValues, isContract, each⟩ := (projects_contract distinct readable).mp projects
          have inner := isContract.readable readable
          obtain ⟨⟨raw, rfl, keys, isName, isVersion, isFields⟩, names⟩ := isContract
          have all : (fields.map Prod.fst).mapM (fun name => do
              let value ← lookup name fieldValues
              let d ← decodeProjection r levels value
              some (name, d)) = some fields := by
            refine mapM_eq_some.mpr (List.forall₂_map_left_iff.mpr (List.forall₂_same.mpr ?_))
            intro f member
            obtain ⟨w, found, projects⟩ := each f member
            exact Option.bind_eq_some_iff.mpr ⟨w, found, Option.bind_eq_some_iff.mpr ⟨f.2,
              ih (inside f member).2 (readable_member inner found) projects, rfl⟩⟩
          rw [decode_contract keys, member_of_lookup isName, member_of_lookup isVersion,
            member_of_lookup isFields]
          refine Option.bind_eq_some_iff.mpr ⟨_, rfl, Option.bind_eq_some_iff.mpr ⟨_, rfl,
            Option.bind_eq_some_iff.mpr ⟨_, rfl, ?_⟩⟩⟩
          rw [if_neg (not_not.mpr rfl)]
          refine Option.bind_eq_some_iff.mpr ⟨_, known, ?_⟩
          rw [if_pos names]
          exact Option.bind_eq_some_iff.mpr ⟨_, all, if_pos accepted⟩
      | none => exact registered.elim
      | decimal d => exact registered.elim
      | list items => exact registered.elim
      | dict entries => exact registered.elim

/-- The form of a registered value is accepted on every raw value that is its projection. -/
theorem shape_projects {levels : Nat} {d : Decoded} (registered : d.Registered r levels)
    (readable : Readable v) (projects : d.Projects v) : diagnosticShape r levels v = true := by
  induction levels generalizing d v with
  | zero => exact registered.elim
  | succ levels ih =>
      cases d with
      | bool b =>
          obtain ⟨p, projected, sorted⟩ := projects
          obtain rfl := Option.some.inj projected
          cases v with
          | bool c => rw [diagnosticShape]
          | null => cases sorted
          | int n => cases sorted
          | str s => cases sorted
          | arr items => cases sorted
          | obj members => cases sorted
      | int n => rw [(projects_int.mp projects).1, diagnosticShape]
      | str s => rw [projects_str.mp projects, diagnosticShape]
      | enum className value =>
          obtain ⟨raw, rfl, keys, isName, isValue⟩ := (projects_enum readable).mp projects
          obtain ⟨-, -, values, known, inside⟩ := registered
          rw [shape_enum keys, member_of_lookup isName, member_of_lookup isValue]
          simp only [string, Option.any_some, known, decide_eq_true_eq]
          exact inside
      | tuple ds =>
          obtain ⟨items, isTuple, each⟩ := (projects_tuple readable).mp projects
          have inner := isTuple.readable readable
          obtain ⟨raw, rfl, keys, held⟩ := isTuple
          rw [shape_tuple keys, member_of_lookup held]
          refine List.all_eq_true.mpr fun w inside => ?_
          obtain ⟨i, below, rfl⟩ := List.getElem_of_mem inside
          exact ih (registered _ (List.get_mem ds ⟨i, each.length_eq ▸ below⟩))
            (inner _ inside) (each.get (each.length_eq ▸ below) below)
      | contract className fields =>
          obtain ⟨-, known, distinct, -, inside⟩ := registered
          obtain ⟨fieldValues, isContract, each⟩ := (projects_contract distinct readable).mp projects
          have inner := isContract.readable readable
          obtain ⟨⟨raw, rfl, keys, isName, isVersion, isFields⟩, names⟩ := isContract
          rw [shape_contract keys, member_of_lookup isName, member_of_lookup isVersion,
            member_of_lookup isFields]
          simp only [string, integer, object, Option.any_some, known, Bool.and_eq_true,
            decide_eq_true_eq, List.all_eq_true, true_and]
          refine ⟨names, List.forall_mem_map.mpr fun f member => ?_⟩
          obtain ⟨w, found, projects⟩ := each f member
          rw [found]
          exact ih (inside f member).2 (readable_member inner found) projects
      | none => exact registered.elim
      | decimal d => exact registered.elim
      | list items => exact registered.elim
      | dict entries => exact registered.elim

theorem readable_bounded {n : Int} (below : n.natAbs < integerBound) : Readable (.int n) := by
  have length : (Json.decimal n.natAbs).length ≤ 256 := Json.decimal_length (by decide) below
  exact length.trans (by decide)

theorem projectItems_mem {ds : List Decoded} {items : List Value}
    (projected : projectItems ds = some items) : ∀ w ∈ items, ∃ d ∈ ds, d.project = some w := by
  induction ds generalizing items with
  | nil =>
      obtain rfl := Option.some.inj projected
      exact fun w inside => nomatch inside
  | cons d rest ih =>
      obtain ⟨first, here, projected⟩ := Option.bind_eq_some_iff.mp projected
      obtain ⟨others, later, same⟩ := Option.bind_eq_some_iff.mp projected
      obtain rfl := Option.some.inj same
      refine List.forall_mem_cons.mpr ⟨⟨d, List.mem_cons_self, here⟩, fun w inside => ?_⟩
      obtain ⟨e, known, found⟩ := ih later w inside
      exact ⟨e, List.mem_cons_of_mem _ known, found⟩

theorem projectFields_mem {fields : List (Text × Decoded)} {members : Members}
    (projected : projectFields fields = some members) :
    ∀ m ∈ members, ∃ f ∈ fields, f.1 = m.1 ∧ f.2.project = some m.2 := by
  induction fields generalizing members with
  | nil =>
      obtain rfl := Option.some.inj projected
      exact fun m inside => nomatch inside
  | cons f rest ih =>
      obtain ⟨first, here, projected⟩ := Option.bind_eq_some_iff.mp projected
      obtain ⟨others, later, same⟩ := Option.bind_eq_some_iff.mp projected
      obtain rfl := Option.some.inj same
      refine List.forall_mem_cons.mpr ⟨⟨f, List.mem_cons_self, rfl, here⟩, fun m inside => ?_⟩
      obtain ⟨e, known, found⟩ := ih later m inside
      exact ⟨e, List.mem_cons_of_mem _ known, found⟩

/-- The projection of a registered value can be written and read. -/
theorem readable_projection {levels : Nat} {d : Decoded} {p : Value}
    (registered : d.Registered r levels) (projected : d.project = some p) : Readable p := by
  induction levels generalizing d p with
  | zero => exact registered.elim
  | succ levels ih =>
      cases d with
      | bool b =>
          obtain rfl := Option.some.inj projected
          trivial
      | int n =>
          have projects : (Decoded.int n).Projects p := ⟨p, projected, rfl⟩
          obtain ⟨rfl, below⟩ := projects_int.mp projects
          exact readable_bounded below
      | str s =>
          obtain rfl := Option.some.inj projected
          exact registered
      | enum className value =>
          obtain ⟨name, known, -⟩ := registered
          obtain rfl := Option.some.inj projected
          exact ⟨(by decide : enumKeys.Nodup), Expert.text_survives _, name,
            Expert.text_survives _, known, trivial⟩
      | tuple ds =>
          obtain ⟨items, all, rfl⟩ := Option.map_eq_some_iff.mp projected
          refine ⟨List.nodup_singleton _, Expert.text_survives _,
            (Json.readableItems_iff items).mpr fun w inside => ?_, trivial⟩
          obtain ⟨d, known, found⟩ := projectItems_mem all w inside
          exact ih (registered d known) found
      | contract className fields =>
          obtain ⟨name, -, distinct, -, inside⟩ := registered
          obtain ⟨members, all, rfl⟩ := Option.map_eq_some_iff.mp projected
          have ofFields : Readable (.obj members) := by
            refine ⟨projectFields_keys all ▸ distinct,
              (Json.readableMembers_iff members).mpr fun m member => ?_⟩
            obtain ⟨f, known, same, found⟩ := projectFields_mem all m member
            exact ⟨same ▸ (inside f known).1, ih (inside f known).2 found⟩
          exact ⟨(by decide : contractKeys.Nodup), Expert.text_survives _, name,
            Expert.text_survives _, readable_bounded (by decide), Expert.text_survives _,
            ofFields, trivial⟩
      | none => exact registered.elim
      | decimal d => exact registered.elim
      | list items => exact registered.elim
      | dict entries => exact registered.elim

end Inci.Companion
