/-
# Theory.JsonPlaces -- references to the parts of a JSON value

A program that walks a parsed value with a stack of references changes the value
under them.  A reference is the list of child positions that leads to the part
(`Place`); `part` reads it and `replace` puts another value there.  A replacement
below a part is a replacement of that part (`replace_append`), which is how a walk
over an inner part is seen from outside.
-/
import Inci.Theory.Json

namespace Inci.Theory.Json

set_option autoImplicit false

/-- Child positions, from the outside in. -/
abbrev Place := List Nat

namespace Value

/-- The child at a position of an array or an object. -/
def child : Value → Nat → Option Value
  | .arr items, i => items[i]?
  | .obj members, i => members[i]?.map Prod.snd
  | _, _ => none

def setChild : Value → Nat → Value → Value
  | .arr items, i, w => .arr (items.set i w)
  | .obj members, i, w => .obj (members.modify i fun m => (m.1, w))
  | v, _, _ => v

/-- What the reference points at. -/
def part (v : Value) : Place → Option Value
  | [] => some v
  | i :: place => (v.child i).bind fun inner => inner.part place

/-- The value with `w` where the reference points. -/
def replace (v : Value) (place : Place) (w : Value) : Value :=
  match place with
  | [] => w
  | i :: place =>
      match v.child i with
      | none => v
      | some inner => v.setChild i (inner.replace place w)

@[simp] theorem part_nil (v : Value) : v.part [] = some v := rfl

@[simp] theorem replace_nil (v w : Value) : v.replace [] w = w := rfl

theorem replace_cons {v inner : Value} {i : Nat} (held : v.child i = some inner) (place : Place)
    (w : Value) : v.replace (i :: place) w = v.setChild i (inner.replace place w) := by
  rw [replace, held]

theorem child_setChild {v inner : Value} {i : Nat} (held : v.child i = some inner) (w : Value) :
    (v.setChild i w).child i = some w := by
  cases v with
  | arr items =>
      obtain ⟨within, -⟩ := List.getElem?_eq_some_iff.mp held
      simp [setChild, child, within]
  | obj members =>
      obtain ⟨m, at_, -⟩ := Option.map_eq_some_iff.mp held
      simp [setChild, child, at_]
  | _ => exact nomatch held

theorem setChild_setChild (v : Value) (i : Nat) (w u : Value) :
    (v.setChild i w).setChild i u = v.setChild i u := by
  cases v with
  | arr items => simp [setChild]
  | obj members =>
      simp only [setChild, List.modify_modify_eq]
      rfl
  | _ => rfl

theorem part_append (v : Value) (place rest : Place) :
    v.part (place ++ rest) = (v.part place).bind fun inner => inner.part rest := by
  induction place generalizing v with
  | nil => rfl
  | cons i place ih =>
      simp only [List.cons_append, part]
      cases v.child i with
      | none => rfl
      | some inner => exact ih inner

/-- A replacement below a part replaces that part. -/
theorem replace_append {v inner : Value} {place : Place} (held : v.part place = some inner)
    (rest : Place) (w : Value) :
    v.replace (place ++ rest) w = v.replace place (inner.replace rest w) := by
  induction place generalizing v with
  | nil =>
      cases held
      rfl
  | cons i place ih =>
      obtain ⟨outer, first, deeper⟩ := Option.bind_eq_some_iff.mp held
      rw [List.cons_append, replace_cons first, replace_cons first, ih deeper]

theorem part_replace {v inner : Value} {place : Place} (held : v.part place = some inner)
    (w : Value) : (v.replace place w).part place = some w := by
  induction place generalizing v with
  | nil => rfl
  | cons i place ih =>
      obtain ⟨outer, first, deeper⟩ := Option.bind_eq_some_iff.mp held
      rw [replace_cons first, part, child_setChild first, Option.bind_some, ih deeper]

theorem replace_replace {v inner : Value} {place : Place} (held : v.part place = some inner)
    (w u : Value) : (v.replace place w).replace place u = v.replace place u := by
  induction place generalizing v with
  | nil => rfl
  | cons i place ih =>
      obtain ⟨outer, first, deeper⟩ := Option.bind_eq_some_iff.mp held
      rw [replace_cons first, replace_cons first, replace_cons (child_setChild first _),
        setChild_setChild, ih deeper]

theorem setChild_self {v inner : Value} {i : Nat} (held : v.child i = some inner) :
    v.setChild i inner = v := by
  cases v with
  | arr items =>
      obtain ⟨within, rfl⟩ := List.getElem?_eq_some_iff.mp held
      simp [setChild]
  | obj members =>
      obtain ⟨m, at_, rfl⟩ := Option.map_eq_some_iff.mp held
      obtain ⟨within, rfl⟩ := List.getElem?_eq_some_iff.mp at_
      have same : (members.modify i fun m => (m.1, members[i].2)) = members := by
        refine List.ext_getElem (List.length_modify _ _ _) fun j _ _ => ?_
        rw [List.getElem_modify]
        by_cases here : i = j
        · subst here
          rw [if_pos rfl]
        · rw [if_neg here]
      exact congrArg obj same
  | _ => exact nomatch held

/-- Replacing a part by itself changes nothing. -/
theorem replace_self {v inner : Value} {place : Place} (held : v.part place = some inner) :
    v.replace place inner = v := by
  induction place generalizing v with
  | nil =>
      cases held
      rfl
  | cons i place ih =>
      obtain ⟨outer, first, deeper⟩ := Option.bind_eq_some_iff.mp held
      rw [replace_cons first, ih deeper, setChild_self first]

theorem part_item (before after : List Value) (v : Value) :
    (arr (before ++ v :: after)).part [before.length] = some v := by
  simp [part, child]

theorem replace_item (before after : List Value) (v w : Value) :
    (arr (before ++ v :: after)).replace [before.length] w = arr (before ++ w :: after) := by
  simp [replace, child, setChild]

theorem part_member (before after : List (Text × Value)) (m : Text × Value) :
    (obj (before ++ m :: after)).part [before.length] = some m.2 := by
  simp [part, child]

theorem replace_member (before after : List (Text × Value)) (m : Text × Value) (w : Value) :
    (obj (before ++ m :: after)).replace [before.length] w = obj (before ++ (m.1, w) :: after) := by
  have here : (before ++ m :: after).modify before.length (fun m => (m.1, w)) =
      before ++ (m.1, w) :: after := by
    induction before with
    | nil => rfl
    | cons n rest ih => exact congrArg (n :: ·) ih
  simp [replace, child, setChild, here]

end Value

end Inci.Theory.Json
