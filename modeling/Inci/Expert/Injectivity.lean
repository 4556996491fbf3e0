/-
# Expert.Injectivity -- what the canonical bytes fix

Two values with one canonical encoding have projections that differ in the order
of their keys only (`canonicalExpertBytes_same`).  `Same` is that relation, and
the lemmas under it read it off the shape of a value: a text, an integer, a flag
and an enumeration member are fixed, and two tuples or two records with the same
field names agree part by part.
-/
import Inci.Expert.Canonical
import Inci.Theory.JsonReading
import Inci.Theory.JsonSize
import Inci.Theory.Utf8

namespace Inci.Expert

open Inci.Theory
open Inci.Theory.Json (Text text Value Survives Readable sortKeys)

set_option autoImplicit false

/-! ## Strings -/

theorem text_inj {s t : String} (same : text s = text t) : s = t :=
  String.toList_injective ((List.map_injective_iff.mpr fun _ _ equal =>
    Char.toNat_inj.mp equal) same)

/-- The characters of a string are no surrogates. -/
theorem char_notSurrogate (c : Char) : Json.isHigh c.toNat = false := by
  simp only [Json.isHigh, decide_eq_false_iff_not]
  intro high
  have valid := c.valid
  simp only [UInt32.isValidChar, Nat.isValidChar] at valid
  have here : c.toNat = c.val.toNat := rfl
  omega

theorem text_joined : ∀ cs : List Char, Json.Joined (cs.map Char.toNat)
  | [] => trivial
  | [_] => trivial
  | c :: d :: rest => ⟨by rw [char_notSurrogate, Bool.false_and], text_joined (d :: rest)⟩

/-- Every string of the source is read back from its rendering. -/
theorem text_survives (s : String) : Survives (text s) := by
  refine Json.joined_survives (fun point member => ?_) (text_joined s.toList)
  obtain ⟨c, -, rfl⟩ := List.mem_map.mp member
  have valid := c.valid
  simp only [UInt32.isValidChar, Nat.isValidChar] at valid
  show c.val.toNat < 1114112
  omega

/-! ## Values that are read back -/

mutual
/-- Every text survives its rendering and no record or dictionary repeats a name. -/
def Spelled : PyValue → Prop
  | .str s => Survives s
  | .tuple items => SpelledAll items
  | .dict entries => SpelledFields entries
  | .contract _ fields => (fields.map Prod.fst).Nodup ∧ SpelledFields fields
  | _ => True
def SpelledAll : List PyValue → Prop
  | [] => True
  | v :: rest => Spelled v ∧ SpelledAll rest
def SpelledFields : List (String × PyValue) → Prop
  | [] => True
  | (_, v) :: rest => Spelled v ∧ SpelledFields rest
end

attribute [local simp] Spelled SpelledAll SpelledFields

theorem spelledAll_iff (vs : List PyValue) : SpelledAll vs ↔ ∀ v ∈ vs, Spelled v := by
  induction vs with
  | nil => simp [SpelledAll]
  | cons v rest ih => simp [SpelledAll, ih]

@[simp] theorem spelled_text (s : String) : Spelled (.text s) := by
  rw [PyValue.text, Spelled]
  exact text_survives s

@[simp] theorem spelled_nat (n : Nat) : Spelled (.nat n) := by
  simp [PyValue.nat, Spelled]

@[simp] theorem spelled_enum (className value : String) : Spelled (.enum className value) := by
  simp [Spelled]

@[simp] theorem spelled_option {α : Type} (encode : α → PyValue) (value : Option α) :
    Spelled (.option encode value) ↔ ∀ a, value = some a → Spelled (encode a) := by
  cases value with
  | none => simp [PyValue.option, Spelled]
  | some a => simp [PyValue.option]

/-- The names of the fields are kept by the projection. -/
theorem projectFields_names : ∀ {fs : List (String × PyValue)} {js : List (String × Value)},
    projectFields fs = .ok js → js.map Prod.fst = fs.map Prod.fst
  | [], js, projected => by
      simp only [projectFields, Except.ok.injEq] at projected
      rw [← projected]
      rfl
  | (name, v) :: rest, js, projected => by
      rw [projectFields] at projected
      obtain ⟨first, -, projected⟩ := bind_eq_ok.mp projected
      obtain ⟨others, tail, projected⟩ := bind_eq_ok.mp projected
      rw [← (pure_eq_ok _ _).mp projected, List.map_cons, List.map_cons, projectFields_names tail]

theorem plainDecimal_ascii (d : Decimal) : Utf8.Ascii (plainDecimal d) := by
  have sign : Utf8.Ascii (if (d.value * 10 ^ places d).num < 0 then [45] else []) := by
    split <;> simp [Utf8.Ascii]
  have digits := Utf8.decimal_ascii (d.value * 10 ^ places d).num.natAbs
  unfold plainDecimal
  by_cases whole : places d = 0
  · rw [if_pos whole]
    exact Utf8.ascii_append.mpr ⟨sign, digits⟩
  · rw [if_neg whole]
    have padded : Utf8.Ascii (List.replicate (places d + 1 -
        (Json.decimal (d.value * 10 ^ places d).num.natAbs).length) 48 ++
        Json.decimal (d.value * 10 ^ places d).num.natAbs) :=
      Utf8.ascii_append.mpr ⟨fun c zero => by rw [List.eq_of_mem_replicate zero]; decide, digits⟩
    exact Utf8.ascii_append.mpr ⟨Utf8.ascii_append.mpr ⟨sign, fun c inside =>
      padded c (List.take_subset _ _ inside)⟩, Utf8.ascii_cons.mpr ⟨by decide, fun c inside =>
      padded c (List.drop_subset _ _ inside)⟩⟩

theorem readable_tagged {k : String} {j : Value} (inside : Readable j) :
    Readable (.obj [(text k, j)]) := by
  simp only [Readable, Json.ReadableMembers, and_true]
  exact ⟨List.nodup_singleton _, text_survives k, inside⟩

theorem texts_nodup {names : List String} (distinct : names.Nodup) :
    (names.map text).Nodup :=
  distinct.map fun _ _ => text_inj

mutual
/-- A projection that succeeds is read back from its rendering. -/
theorem project_readable : ∀ {v : PyValue} {j : Value}, Spelled v → project v = .ok j → Readable j
  | .none, j, _, projected => by
      simp only [project, Except.ok.injEq] at projected
      simp [← projected, Readable]
  | .bool b, j, _, projected => by
      simp only [project, Except.ok.injEq] at projected
      simp [← projected, Readable]
  | .int n, j, _, projected => by
      rw [project] at projected
      obtain ⟨_, small, projected⟩ := bind_eq_ok.mp projected
      rw [← (pure_eq_ok _ _).mp projected, Readable]
      have digits : (Json.decimal n.natAbs).length ≤ 256 :=
        Json.decimal_length (by norm_num) (not_le.mp ((refuse_eq_ok _ _ _).mp small))
      exact digits.trans (by decide)
  | .str s, j, spelled, projected => by
      simp only [project, Except.ok.injEq] at projected
      rw [Spelled] at spelled
      rw [← projected, Readable]
      exact spelled
  | .decimal d, j, _, projected => by
      rw [project] at projected
      obtain ⟨rendered, canonical, projected⟩ := bind_eq_ok.mp projected
      rw [← (pure_eq_ok _ _).mp projected]
      refine readable_tagged ?_
      obtain ⟨_, -, canonical⟩ := bind_eq_ok.mp canonical
      rw [← (pure_eq_ok _ _).mp canonical, Readable]
      exact Utf8.ascii_survives (plainDecimal_ascii d)
  | .enum className value, j, _, projected => by
      simp only [project, Except.ok.injEq] at projected
      rw [← projected]
      simp only [Readable, Json.ReadableMembers, and_true, List.map_cons, List.map_nil]
      exact ⟨by decide, text_survives _, text_survives _, text_survives _, text_survives _⟩
  | .tuple items, j, spelled, projected => by
      rw [project] at projected
      rw [Spelled] at spelled
      obtain ⟨js, all, projected⟩ := bind_eq_ok.mp projected
      rw [← (pure_eq_ok _ _).mp projected]
      refine readable_tagged ?_
      rw [Readable, Json.readableItems_iff]
      exact projectAll_readable spelled all
  | .dict entries, j, spelled, projected => by
      rw [project] at projected
      rw [Spelled] at spelled
      obtain ⟨js, all, projected⟩ := bind_eq_ok.mp projected
      rw [← (pure_eq_ok _ _).mp projected]
      refine readable_tagged ?_
      rw [Readable, Json.readableItems_iff]
      intro item member
      obtain ⟨entry, inside, rfl⟩ := List.mem_map.mp member
      simp only [Readable, Json.ReadableItems, and_true]
      exact ⟨text_survives _,
        projectFields_readable spelled all entry ((List.mergeSort_perm _ _).subset inside)⟩
  | .contract className fields, j, spelled, projected => by
      rw [project] at projected
      rw [Spelled] at spelled
      obtain ⟨js, all, projected⟩ := bind_eq_ok.mp projected
      rw [← (pure_eq_ok _ _).mp projected]
      simp only [Readable, Json.ReadableMembers, and_true, List.map_cons, List.map_nil]
      refine ⟨by decide, text_survives _, text_survives _, text_survives _, by decide,
        text_survives _, ?_, ?_⟩
      · rw [List.map_map]
        show (js.map (text ∘ Prod.fst)).Nodup
        rw [← List.map_map, projectFields_names all]
        exact texts_nodup spelled.1
      · rw [Json.readableMembers_iff]
        intro m member
        obtain ⟨entry, inside, rfl⟩ := List.mem_map.mp member
        exact ⟨text_survives _, projectFields_readable spelled.2 all entry inside⟩
theorem projectAll_readable : ∀ {vs : List PyValue} {js : List Value}, SpelledAll vs →
    projectAll vs = .ok js → ∀ j ∈ js, Readable j
  | [], js, _, projected => by
      simp only [projectAll, Except.ok.injEq] at projected
      rw [← projected]
      exact fun _ none => absurd none List.not_mem_nil
  | v :: rest, js, spelled, projected => by
      rw [projectAll] at projected
      rw [SpelledAll] at spelled
      obtain ⟨first, head, projected⟩ := bind_eq_ok.mp projected
      obtain ⟨others, tail, projected⟩ := bind_eq_ok.mp projected
      rw [← (pure_eq_ok _ _).mp projected]
      intro j member
      rcases List.mem_cons.mp member with rfl | later
      · exact project_readable spelled.1 head
      · exact projectAll_readable spelled.2 tail j later
theorem projectFields_readable : ∀ {fs : List (String × PyValue)} {js : List (String × Value)},
    SpelledFields fs → projectFields fs = .ok js → ∀ j ∈ js, Readable j.2
  | [], js, _, projected => by
      simp only [projectFields, Except.ok.injEq] at projected
      rw [← projected]
      exact fun _ none => absurd none List.not_mem_nil
  | (name, v) :: rest, js, spelled, projected => by
      rw [projectFields] at projected
      rw [SpelledFields] at spelled
      obtain ⟨first, head, projected⟩ := bind_eq_ok.mp projected
      obtain ⟨others, tail, projected⟩ := bind_eq_ok.mp projected
      rw [← (pure_eq_ok _ _).mp projected]
      intro j member
      rcases List.mem_cons.mp member with rfl | later
      · exact project_readable spelled.1 head
      · exact projectFields_readable spelled.2 tail j later
end

/-! ## Members in the order of their names -/

/-- Two lists of entries under the same distinct names that hold the same entries are equal. -/
theorem entries_perm {κ V : Type} : ∀ {one other : List (κ × V)},
    one.map Prod.fst = other.map Prod.fst → (one.map Prod.fst).Nodup → one.Perm other → one = other
  | [], [], _, _, _ => rfl
  | [], _ :: _, names, _, _ => nomatch names
  | _ :: _, [], names, _, _ => nomatch names
  | (k, v) :: one, (l, w) :: other, names, distinct, perm => by
      obtain ⟨rfl, rest⟩ := List.cons.inj names
      obtain ⟨fresh, distinct⟩ := List.nodup_cons.mp distinct
      have first : (k, v) ∈ (k, w) :: other := perm.subset List.mem_cons_self
      rcases List.mem_cons.mp first with same | later
      · rw [same, entries_perm rest distinct ((List.perm_cons _).mp (same ▸ perm))]
      · exact absurd (rest ▸ List.mem_map_of_mem (f := Prod.fst) later) fresh

theorem sorted_members {one other : List (Text × Value)}
    (same : Json.sortKeys (.obj one) = Json.sortKeys (.obj other))
    (names : one.map Prod.fst = other.map Prod.fst) (distinct : (one.map Prod.fst).Nodup) :
    one.map (fun m => (m.1, sortKeys m.2)) = other.map (fun m => (m.1, sortKeys m.2)) := by
  simp only [Json.sortKeys, Value.obj.injEq, Json.sortMembers_eq_map] at same
  refine entries_perm ?_ ?_ ?_
  · rw [List.map_map, List.map_map]
    exact names
  · rw [List.map_map]
    exact distinct
  · have back := List.mergeSort_perm (other.map fun m => (m.1, sortKeys m.2)) Json.keyLe
    rw [← same] at back
    exact (List.mergeSort_perm _ _).symm.trans back

/-! ## Equal encodings -/

/-- The projections of the two values differ in the order of their keys only. -/
def Same (v w : PyValue) : Prop :=
  ∃ p q, project v = .ok p ∧ project w = .ok q ∧ sortKeys p = sortKeys q

theorem canonicalExpertBytes_same {v w : PyValue} {bytes : List UInt8} (spelled : Spelled v)
    (spelled' : Spelled w) (first : canonicalExpertBytes v = .ok bytes)
    (second : canonicalExpertBytes w = .ok bytes) : Same v w := by
  obtain ⟨p, projected, written⟩ := bind_eq_ok.mp first
  obtain ⟨q, projected', written'⟩ := bind_eq_ok.mp second
  have texts := Utf8.ascii_injective (Utf8.render_ascii _) (Utf8.render_ascii _)
    (((pure_eq_ok _ _).mp written).trans ((pure_eq_ok _ _).mp written').symm)
  have readable : ∀ {j : Value}, Readable j → Readable (sortKeys (.obj [
      (text "canonical_version", .int 1), (text "domain", .str (text "inci-tennis-expert")),
      (text "value", j)])) := by
    intro j inside
    refine Json.readable_sortKeys _ ?_
    simp only [Readable, Json.ReadableMembers, and_true, List.map_cons, List.map_nil]
    exact ⟨by decide, text_survives _, by decide, text_survives _, text_survives _,
      text_survives _, inside⟩
  have back := Json.loads_render (readable (project_readable spelled projected))
  rw [texts, Json.loads_render (readable (project_readable spelled' projected'))] at back
  have members := sorted_members (Option.some.inj back) rfl (by
    simp only [List.map_cons, List.map_nil]; decide)
  simp only [List.map_cons, List.map_nil, List.cons.injEq, Prod.mk.injEq, true_and, and_true]
    at members
  exact ⟨p, q, projected, projected', members.symm⟩

theorem same_text {s t : String} (same : Same (.text s) (.text t)) : s = t := by
  obtain ⟨p, q, first, second, equal⟩ := same
  simp only [PyValue.text, project, Except.ok.injEq] at first second
  rw [← first, ← second] at equal
  simp only [Json.sortKeys, Value.str.injEq] at equal
  exact text_inj equal

theorem project_nat {n : Nat} {j : Value} (projected : project (.nat n) = .ok j) :
    j = .int n := by
  rw [PyValue.nat, project] at projected
  obtain ⟨_, -, projected⟩ := bind_eq_ok.mp projected
  exact ((pure_eq_ok _ _).mp projected).symm

theorem same_nat {m n : Nat} (same : Same (.nat m) (.nat n)) : m = n := by
  obtain ⟨p, q, first, second, equal⟩ := same
  rw [project_nat first, project_nat second] at equal
  simp only [Json.sortKeys, Value.int.injEq] at equal
  omega

theorem same_bool {b c : Bool} (same : Same (.bool b) (.bool c)) : b = c := by
  obtain ⟨p, q, first, second, equal⟩ := same
  simp only [project, Except.ok.injEq] at first second
  rw [← first, ← second] at equal
  simpa only [Json.sortKeys, Value.bool.injEq] using equal

theorem same_enum {c d a b : String} (same : Same (.enum c a) (.enum d b)) : c = d ∧ a = b := by
  obtain ⟨p, q, first, second, equal⟩ := same
  simp only [project, Except.ok.injEq] at first second
  rw [← first, ← second] at equal
  have members := sorted_members equal rfl (by simp only [List.map_cons, List.map_nil]; decide)
  simp only [List.map_cons, List.map_nil, List.cons.injEq, Prod.mk.injEq, true_and, and_true,
    Json.sortKeys, Value.str.injEq] at members
  exact ⟨text_inj members.1, text_inj members.2⟩

/-- An optional field is fixed when its values are, and none of them is written as `None`. -/
theorem same_option {α : Type} {encode : α → PyValue}
    (fixed : ∀ a b, Same (encode a) (encode b) → a = b)
    (present : ∀ a p, project (encode a) = .ok p → sortKeys p ≠ .null) {x y : Option α}
    (same : Same (.option encode x) (.option encode y)) : x = y := by
  cases x with
  | none =>
      cases y with
      | none => rfl
      | some b =>
          obtain ⟨p, q, first, second, equal⟩ := same
          simp only [PyValue.option, project, Except.ok.injEq] at first
          rw [← first, Json.sortKeys] at equal
          · exact absurd equal.symm (present b q second)
          all_goals
            intro inner wrong
            cases wrong
  | some a =>
      cases y with
      | none =>
          obtain ⟨p, q, first, second, equal⟩ := same
          simp only [PyValue.option, project, Except.ok.injEq] at second
          rw [← second] at equal
          exact absurd (equal.trans (by simp [Json.sortKeys])) (present a p first)
      | some b => rw [fixed a b same]

theorem nat_present (n : Nat) (p : Value) (projected : project (.nat n) = .ok p) :
    sortKeys p ≠ .null := by
  rw [project_nat projected]
  simp [Json.sortKeys]

theorem enum_present (className value : String) (p : Value)
    (projected : project (.enum className value) = .ok p) : sortKeys p ≠ .null := by
  simp only [project, Except.ok.injEq] at projected
  rw [← projected]
  simp [Json.sortKeys]

theorem projectAll_same : ∀ {vs ws : List PyValue} {ps qs : List Value},
    projectAll vs = .ok ps → projectAll ws = .ok qs → ps.map sortKeys = qs.map sortKeys →
    List.Forall₂ Same vs ws
  | [], [], _, _, _, _, _ => .nil
  | [], w :: ws, ps, qs, first, second, equal => by
      simp only [projectAll, Except.ok.injEq] at first
      rw [projectAll] at second
      obtain ⟨q, -, second⟩ := bind_eq_ok.mp second
      obtain ⟨qs, -, second⟩ := bind_eq_ok.mp second
      rw [← first, ← (pure_eq_ok _ _).mp second] at equal
      exact nomatch equal
  | v :: vs, [], ps, qs, first, second, equal => by
      simp only [projectAll, Except.ok.injEq] at second
      rw [projectAll] at first
      obtain ⟨p, -, first⟩ := bind_eq_ok.mp first
      obtain ⟨ps, -, first⟩ := bind_eq_ok.mp first
      rw [← second, ← (pure_eq_ok _ _).mp first] at equal
      exact nomatch equal
  | v :: vs, w :: ws, ps, qs, first, second, equal => by
      rw [projectAll] at first second
      obtain ⟨p, head, first⟩ := bind_eq_ok.mp first
      obtain ⟨ps, tail, first⟩ := bind_eq_ok.mp first
      obtain ⟨q, head', second⟩ := bind_eq_ok.mp second
      obtain ⟨qs, tail', second⟩ := bind_eq_ok.mp second
      rw [← (pure_eq_ok _ _).mp first, ← (pure_eq_ok _ _).mp second] at equal
      obtain ⟨here, rest⟩ := List.cons.inj equal
      exact .cons ⟨p, q, head, head', here⟩ (projectAll_same tail tail' rest)

theorem same_tuple {vs ws : List PyValue} (same : Same (.tuple vs) (.tuple ws)) :
    List.Forall₂ Same vs ws := by
  obtain ⟨p, q, first, second, equal⟩ := same
  rw [project] at first second
  obtain ⟨ps, all, first⟩ := bind_eq_ok.mp first
  obtain ⟨qs, all', second⟩ := bind_eq_ok.mp second
  rw [← (pure_eq_ok _ _).mp first, ← (pure_eq_ok _ _).mp second] at equal
  have members := sorted_members equal rfl (List.nodup_singleton _)
  simp only [List.map_cons, List.map_nil, List.cons.injEq, Prod.mk.injEq, true_and, and_true,
    Json.sortKeys, Value.arr.injEq, Json.sortItems_eq_map] at members
  exact projectAll_same all all' members

/-- Entries that agree in their names and in the order of their values' keys. -/
theorem projectFields_same : ∀ {fs gs : List (String × PyValue)} {ps qs : List (String × Value)},
    projectFields fs = .ok ps → projectFields gs = .ok qs →
    ps.map (fun e => (e.1, sortKeys e.2)) = qs.map (fun e => (e.1, sortKeys e.2)) →
    List.Forall₂ (fun f g => Same f.2 g.2) fs gs
  | [], [], _, _, _, _, _ => .nil
  | [], (name, w) :: ws, ps, qs, first, second, equal => by
      simp only [projectFields, Except.ok.injEq] at first
      rw [projectFields] at second
      obtain ⟨q, -, second⟩ := bind_eq_ok.mp second
      obtain ⟨qs, -, second⟩ := bind_eq_ok.mp second
      rw [← first, ← (pure_eq_ok _ _).mp second] at equal
      exact nomatch equal
  | (name, v) :: vs, [], ps, qs, first, second, equal => by
      simp only [projectFields, Except.ok.injEq] at second
      rw [projectFields] at first
      obtain ⟨p, -, first⟩ := bind_eq_ok.mp first
      obtain ⟨ps, -, first⟩ := bind_eq_ok.mp first
      rw [← second, ← (pure_eq_ok _ _).mp first] at equal
      exact nomatch equal
  | (name, v) :: vs, (other, w) :: ws, ps, qs, first, second, equal => by
      rw [projectFields] at first second
      obtain ⟨p, head, first⟩ := bind_eq_ok.mp first
      obtain ⟨ps, tail, first⟩ := bind_eq_ok.mp first
      obtain ⟨q, head', second⟩ := bind_eq_ok.mp second
      obtain ⟨qs, tail', second⟩ := bind_eq_ok.mp second
      rw [← (pure_eq_ok _ _).mp first, ← (pure_eq_ok _ _).mp second] at equal
      obtain ⟨here, rest⟩ := List.cons.inj equal
      exact .cons ⟨p, q, head, head', (Prod.mk.inj here).2⟩ (projectFields_same tail tail' rest)

/-- Two records with the same field names agree field by field. -/
theorem same_contract {c d : String} {fs gs : List (String × PyValue)}
    (same : Same (.contract c fs) (.contract d gs))
    (names : fs.map Prod.fst = gs.map Prod.fst) (distinct : (fs.map Prod.fst).Nodup) :
    c = d ∧ List.Forall₂ (fun f g => Same f.2 g.2) fs gs := by
  obtain ⟨p, q, first, second, equal⟩ := same
  rw [project] at first second
  obtain ⟨ps, all, first⟩ := bind_eq_ok.mp first
  obtain ⟨qs, all', second⟩ := bind_eq_ok.mp second
  rw [← (pure_eq_ok _ _).mp first, ← (pure_eq_ok _ _).mp second] at equal
  have outer := sorted_members equal rfl (by simp only [List.map_cons, List.map_nil]; decide)
  simp only [List.map_cons, List.map_nil, List.cons.injEq, Prod.mk.injEq, true_and, and_true] at outer
  have named := projectFields_names all
  have named' := projectFields_names all'
  have tagged : ∀ js : List (String × Value), (js.map fun e => (text e.1, e.2)).map Prod.fst =
      (js.map Prod.fst).map text := fun js => by rw [List.map_map, List.map_map]; rfl
  have inner := sorted_members outer.2 (by rw [tagged, tagged, named, named', names])
    (by rw [tagged, named]; exact texts_nodup distinct)
  rw [List.map_map, List.map_map] at inner
  refine ⟨text_inj (by simpa [Json.sortKeys] using outer.1), projectFields_same all all' ?_⟩
  have named : Function.Injective fun e : String × Value => (text e.1, e.2) := by
    rintro ⟨k, v⟩ ⟨l, w⟩ same
    obtain ⟨keys, held⟩ := Prod.mk.inj same
    exact Prod.ext (text_inj keys) held
  refine named.list_map ?_
  rw [List.map_map, List.map_map]
  exact inner

/-- Two dictionaries with the same keys agree key by key. -/
theorem same_dict {fs gs : List (String × PyValue)} (same : Same (.dict fs) (.dict gs))
    (names : fs.map Prod.fst = gs.map Prod.fst) (distinct : (fs.map Prod.fst).Nodup) :
    List.Forall₂ (fun f g => Same f.2 g.2) fs gs := by
  obtain ⟨p, q, first, second, equal⟩ := same
  rw [project] at first second
  obtain ⟨ps, all, first⟩ := bind_eq_ok.mp first
  obtain ⟨qs, all', second⟩ := bind_eq_ok.mp second
  rw [← (pure_eq_ok _ _).mp first, ← (pure_eq_ok _ _).mp second] at equal
  have outer := sorted_members equal rfl (List.nodup_singleton _)
  simp only [List.map_cons, List.map_nil, List.cons.injEq, Prod.mk.injEq, true_and, and_true,
    Json.sortKeys, Value.arr.injEq, Json.sortItems_eq_map, List.map_map] at outer
  have sorted : (ps.mergeSort entryLe).map (fun e => (e.1, sortKeys e.2)) =
      (qs.mergeSort entryLe).map (fun e => (e.1, sortKeys e.2)) := by
    have paired : Function.Injective fun e : String × Value =>
        Value.arr [.str (text e.1), e.2] := by
      rintro ⟨k, v⟩ ⟨l, w⟩ same
      simp only [Value.arr.injEq, List.cons.injEq, Value.str.injEq, and_true] at same
      rw [text_inj same.1, same.2]
    refine paired.list_map ?_
    rw [List.map_map, List.map_map]
    refine Eq.trans (List.map_congr_left fun e _ => ?_)
      (outer.trans (List.map_congr_left fun e _ => ?_))
    all_goals simp [Json.sortKeys, Json.sortItems_eq_map]
  have keys : ∀ js : List (String × Value), (js.map fun e => (e.1, sortKeys e.2)).map Prod.fst =
      js.map Prod.fst := fun js => by rw [List.map_map]; rfl
  refine projectFields_same all all' (entries_perm ?_ ?_ ?_)
  · rw [keys, keys, projectFields_names all, projectFields_names all', names]
  · rw [keys, projectFields_names all]
    exact distinct
  · have back := (List.mergeSort_perm qs entryLe).map fun e => (e.1, sortKeys e.2)
    rw [← sorted] at back
    exact ((List.mergeSort_perm ps entryLe).map _).symm.trans back

end Inci.Expert
