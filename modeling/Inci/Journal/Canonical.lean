/-
# Journal.Canonical -- what the codec wrote, it reads back

`strictObject_canonical` is the round trip of a canonical object whose keys are
ASCII and whose values are scalars: the strict reading succeeds and answers every
key as the writer did.  `manifest_read` is its instance for session manifests.
-/
import Inci.Journal.Codec

namespace Inci.Journal

open Inci.Theory
open Inci.Theory.Json (Text text Value lookup)

set_option autoImplicit false

/-! ## Strict objects -/

/-- The members answer every key alike. -/
def SameMembers (raw members : Members) : Prop := ∀ k, lookup k raw = lookup k members

theorem member_congr {raw members : Members} (same : SameMembers raw members) {α : Type}
    (name : String) (read : Value → Option α) : member raw name read = member members name read := by
  rw [member, same, member]

theorem scalar_sortKeys {v : Value} (scalar : Utf8.Scalar v) : Json.sortKeys v = v := by
  cases v with
  | null => rfl
  | bool b => rfl
  | int n => rfl
  | str s => rfl
  | arr items => exact scalar.elim
  | obj members => exact scalar.elim

theorem scalar_sortMembers {members : Members} (scalars : ∀ m ∈ members, Utf8.Scalar m.2) :
    Json.sortMembers members = members := by
  rw [Json.sortMembers_eq_map]
  conv_rhs => rw [← List.map_id members]
  apply List.map_congr_left
  intro m inside
  rw [scalar_sortKeys (scalars m inside)]
  rfl

theorem canonicalJsonBytes_eq_some {v : Value} {content : Bytes} :
    canonicalJsonBytes v = some content ↔ ∃ t, Json.dumps v = some t ∧ Utf8.ascii t = content := by
  rw [canonicalJsonBytes, Json.encode_eq, Option.map_eq_some_iff]

theorem dumps_printable {v : Value} {t : Text} (dumped : Json.dumps v = some t) :
    Json.printable v = true := by
  unfold Json.dumps at dumped
  by_cases fits : Json.printable v = true
  · exact fits
  · rw [if_neg fits] at dumped
    exact nomatch dumped

/-- A canonical text of an object starts with a brace, so it has no byte order mark. -/
theorem no_byteOrderMark {members : Members} {t : Text}
    (dumped : Json.dumps (.obj members) = some t) : ¬byteOrderMark <+: Utf8.ascii t := by
  have shape : ∃ rest, t = 123 :: rest := by
    have fits := dumps_printable dumped
    rw [Json.dumps, if_pos fits, Json.sortKeys] at dumped
    obtain rfl := Option.some.inj dumped
    cases (Json.sortMembers members).mergeSort Json.keyLe with
    | nil => exact ⟨_, by rw [Json.render]⟩
    | cons m rest => exact ⟨_, by rw [Json.render]⟩
  obtain ⟨rest, rfl⟩ := shape
  intro mark
  obtain ⟨tail, joined⟩ := mark
  have first := (List.cons.inj joined).1
  exact absurd first (by decide)

/-- The round trip of a canonical object of scalars. -/
theorem strictObject_canonical {members : Members} {expected : List Text} {content : Bytes}
    (distinct : (members.map Prod.fst).Nodup) (keys : SameKeys expected members)
    (ascii : ∀ m ∈ members, Utf8.Ascii m.1) (scalars : ∀ m ∈ members, Utf8.Scalar m.2)
    (written : canonicalJsonBytes (.obj members) = some content) :
    ∃ raw, strictObject content expected = some raw ∧ SameMembers raw members := by
  obtain ⟨t, dumped, rfl⟩ := canonicalJsonBytes_eq_some.mp written
  have readable := Utf8.readable_object distinct ascii scalars (dumps_printable dumped)
  have loaded := Json.loads_dumps readable dumped
  rw [Json.sortKeys, scalar_sortMembers scalars] at loaded
  have perm : List.Perm members (members.mergeSort Json.keyLe) :=
    (List.mergeSort_perm members Json.keyLe).symm
  have same : SameMembers (members.mergeSort Json.keyLe) members :=
    fun k => Json.lookup_perm distinct perm
  refine ⟨members.mergeSort Json.keyLe, ?_, same⟩
  have named : SameKeys expected (members.mergeSort Json.keyLe) := by
    have mapped := perm.map Prod.fst
    exact ⟨fun k inside => keys.1 k (mapped.mem_iff.mpr inside),
      fun k inside => mapped.mem_iff.mp (keys.2 k inside)⟩
  have again : canonicalJsonBytes (.obj (members.mergeSort Json.keyLe)) =
      some (Utf8.ascii t) := by
    have sorted := Json.dumps_sortKeys readable
    rw [Json.sortKeys, scalar_sortMembers scalars, dumped] at sorted
    exact canonicalJsonBytes_eq_some.mpr ⟨t, sorted, rfl⟩
  have object : loadObject (Utf8.ascii t) = some (members.mergeSort Json.keyLe) := by
    rw [loadObject, Utf8.decode_ascii (Utf8.dumps_ascii dumped)]
    simp only [Option.bind_eq_bind, Option.bind_some, loaded]
  rw [strictObject, if_neg (no_byteOrderMark dumped), object, Option.bind_some,
    if_pos ⟨named, again⟩]

/-- A strict reading is the canonical text of what it answers. -/
theorem strictObject_spec {content : Bytes} {expected : List Text} {raw : Members}
    (read : strictObject content expected = some raw) :
    SameKeys expected raw ∧ canonicalJsonBytes (.obj raw) = some content := by
  unfold strictObject at read
  by_cases mark : byteOrderMark <+: content
  · rw [if_pos mark] at read
    exact nomatch read
  · rw [if_neg mark] at read
    obtain ⟨members, -, checked⟩ := Option.bind_eq_some_iff.mp read
    by_cases fine : SameKeys expected members ∧ canonicalJsonBytes (.obj members) = some content
    · rw [if_pos fine] at checked
      exact Option.some.inj checked ▸ fine
    · rw [if_neg fine] at checked
      exact nomatch checked

/-! ## Grammars are ASCII -/

theorem isAlphanumeric_low {c : Nat} (fits : isAlphanumeric c = true) : c < 128 := by
  simp only [isAlphanumeric, Json.isDigit, isLower, Bool.or_eq_true, decide_eq_true_eq] at fits
  omega

theorem matchesClass_ascii {first rest : Nat → Bool} {bound : Nat} {value : Text}
    (fits : matchesClass first rest bound value = true) (initial : ∀ c, first c = true → c < 128)
    (others : ∀ c, rest c = true → c < 128) : Utf8.Ascii value := by
  cases value with
  | nil => exact nomatch fits
  | cons c cs =>
      simp only [matchesClass, Bool.and_eq_true, List.all_eq_true] at fits
      exact Utf8.ascii_cons.mpr ⟨initial c fits.1.1, fun d inside => others d (fits.2 d inside)⟩

theorem safeIdentifier_ascii {value : Text} {fieldName : String}
    (safe : safeIdentifier value fieldName = .ok ()) : Utf8.Ascii value := by
  rw [safeIdentifier, refuse_eq_ok, Bool.not_eq_false] at safe
  refine matchesClass_ascii safe (fun c => isAlphanumeric_low) fun c fits => ?_
  rcases (Bool.or_eq_true _ _).mp fits with letter | sign
  · exact isAlphanumeric_low letter
  · have signs : ∀ d ∈ text "._-", d < 128 := by decide
    exact signs c (by simpa using sign)

theorem sha256_ascii {value : Text} {fieldName : String} (digest : sha256 value fieldName = .ok ()) :
    Utf8.Ascii value := by
  rw [sha256, refuse_eq_ok, Bool.not_eq_false, matchesSha256, Bool.and_eq_true] at digest
  intro c inside
  have hex := List.all_eq_true.mp digest.2 c inside
  simp only [isLowerHex, Json.isDigit, Bool.or_eq_true, decide_eq_true_eq] at hex
  omega

/-! ## Session manifests -/

theorem projection_keys (m : SessionManifest) :
    m.projection.map Prod.fst = sessionManifestKeys := by
  simp only [SessionManifest.projection, sessionManifestKeys, List.map_cons, List.map_nil]

theorem sessionManifestKeys_nodup : sessionManifestKeys.Nodup := by
  simp only [sessionManifestKeys, List.map_cons, List.map_nil, Json.text_ofList]
  decide

theorem sessionManifestKeys_ascii : ∀ k ∈ sessionManifestKeys, Utf8.Ascii k := by
  simp only [Utf8.Ascii, sessionManifestKeys, List.map_cons, List.map_nil, Json.text_ofList]
  decide

theorem sameKeys_of_eq {expected : List Text} {members : Members}
    (keys : members.map Prod.fst = expected) : SameKeys expected members := by
  subst keys
  exact ⟨fun _ inside => inside, fun _ inside => inside⟩

theorem projection_scalars {m : SessionManifest} (valid : m.validate = .ok ()) :
    ∀ entry ∈ m.projection, Utf8.Scalar entry.2 := by
  simp only [SessionManifest.validate, validateSessionId, bind_eq_ok, exists_unit] at valid
  obtain ⟨-, ⟨session, -⟩, -, d1, d2, d3, d4, d5, d6, d7, d8, d9, d10, d11, d12, d13, i1, i2, i3,
    i4, -⟩ := valid
  simp only [SessionManifest.projection, List.mem_cons, List.not_mem_nil, or_false,
    forall_eq_or_imp, forall_eq, Utf8.Scalar, true_and, and_true]
  exact ⟨safeIdentifier_ascii session, sha256_ascii d1, sha256_ascii d2, sha256_ascii d3,
    sha256_ascii d4, safeIdentifier_ascii i1, safeIdentifier_ascii i2, safeIdentifier_ascii i3,
    sha256_ascii d5, sha256_ascii d6, sha256_ascii d7, safeIdentifier_ascii i4, sha256_ascii d8,
    sha256_ascii d9, sha256_ascii d10, sha256_ascii d11, sha256_ascii d12, sha256_ascii d13⟩

theorem manifestFields_congr {raw members : Members} (same : SameMembers raw members) :
    manifestFields raw = manifestFields members := by
  unfold manifestFields
  simp only [member_congr same]

theorem manifestFields_projection (m : SessionManifest) :
    manifestFields m.projection = some m := by
  simp only [manifestFields, member, SessionManifest.projection, Json.text_ofList, List.map_cons,
    List.map_nil]
  rfl

/-- A written manifest is read back. -/
theorem manifest_read {m : SessionManifest} {content : Bytes} (valid : m.validate = .ok ())
    (written : canonicalSessionManifestBytes m = some content) :
    (strictObject content sessionManifestKeys).bind manifestOf = some m := by
  have distinct : (m.projection.map Prod.fst).Nodup :=
    projection_keys m ▸ sessionManifestKeys_nodup
  have ascii : ∀ entry ∈ m.projection, Utf8.Ascii entry.1 := fun entry inside =>
    sessionManifestKeys_ascii _ (projection_keys m ▸ List.mem_map_of_mem inside)
  obtain ⟨raw, read, same⟩ := strictObject_canonical distinct (sameKeys_of_eq (projection_keys m))
    ascii (projection_scalars valid) written
  rw [read, Option.bind_some, manifestOf, manifestFields_congr same, manifestFields_projection,
    Option.bind_some, if_pos valid]

end Inci.Journal
