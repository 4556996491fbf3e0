/-
# Journal.Redaction -- the walk that redacts a captured value in place

`_validate_and_redact_json` keeps a stack of references into the parsed value and
overwrites the secret members of each object it pops.  `walkStack` is that loop over the
value and the places on its stack; `redactInPlace_eq` says that it answers what the
recursion `scrub` answers, the parts it skips and the limit on its count included.

`scrub` then leaves exactly the value with every secret-shaped member replaced by
the marker (`scrub_redacted`).  Redaction is idempotent, does not depend on what
the secret members held, commutes with the order of the keys, and its result reads
back from its canonical text.
-/
import Inci.Journal.Capture
import Inci.Theory.JsonPlaces
import Inci.Theory.JsonReading

namespace Inci.Journal

open Inci.Theory
open Inci.Theory.Json (Text text Value lookup Place)

set_option autoImplicit false

/-- A part that waits on the stack, under the key it was found at. -/
structure Work where
  place : Place
  parentKey : Option Text

section Walk

variable (lib : TextLibrary) (redact : Bool)

/-! ## The loop -/

/-- `normalized_parent` -/
def normalizedParent (parentKey : Option Text) : Text :=
  match parentKey with
  | none => []
  | some key => if key = [] then [] else lib.normalizedKey key

/-- The items of a list go on the stack in their order, the last one on top. -/
def pushItems (work : Work) (count : Nat) (stack : List Work) : List Work :=
  (List.range count).foldl (fun stack i => ⟨work.place ++ [i], work.parentKey⟩ :: stack) stack

/-- The loop over the members of one object: its members after redaction, the count
and the stack with the members that survive. -/
def visitMembers (place : Place) : Nat → List (Text × Value) → Nat → List Work →
    Except String (List (Text × Value) × Nat × List Work)
  | _, [], count, stack => .ok ([], count, stack)
  | i, (key, item) :: rest, count, stack => do
      refuse (maxJsonNodes < count + 1) "json_nodes_exceeded"
      refuse (lib.normalizedKey key ∈ forbiddenObjects) "forbidden_structured_object"
      if lib.secretShapedKey key then do
        refuse (redact = false) "secret_shaped_content"
        let (members, count, stack) ← visitMembers place (i + 1) rest (count + 1) stack
        pure ((key, .str redactedText) :: members, count, stack)
      else do
        let (members, count, stack) ←
          visitMembers place (i + 1) rest (count + 1) (⟨place ++ [i], some key⟩ :: stack)
        pure ((key, item) :: members, count, stack)

theorem visitMembers_count {place : Place} {i count : Nat} {members : List (Text × Value)}
    {stack : List Work} {answer : List (Text × Value) × Nat × List Work}
    (visited : visitMembers lib redact place i members count stack = .ok answer) :
    answer.2.1 = count + members.length := by
  induction members generalizing i count stack answer with
  | nil =>
      cases visited
      rfl
  | cons m rest ih =>
      obtain ⟨key, item⟩ := m
      rw [visitMembers] at visited
      simp only [bind_eq_ok, exists_unit, refuse_eq_ok] at visited
      obtain ⟨-, -, visited⟩ := visited
      split at visited
      · simp only [bind_eq_ok, exists_unit] at visited
        obtain ⟨-, inner, more, same⟩ := visited
        cases same
        rw [ih more, List.length_cons]
        omega
      · simp only [bind_eq_ok] at visited
        obtain ⟨inner, more, same⟩ := visited
        cases same
        rw [ih more, List.length_cons]
        omega

/-- `_validate_and_redact_json`, from a stack and a count. -/
def walkStack (root : Value) (stack : List Work) (count : Nat) : Except String Value :=
  match stack with
  | [] => .ok root
  | work :: stack =>
      if maxJsonNodes < count + 1 then .error "json_nodes_exceeded"
      else
        match root.part work.place with
        | some (.str s) =>
            if lib.unsafeString s then .error "unsafe_structured_content"
            else walkStack root stack (count + 1)
        | some (.arr items) => walkStack root (pushItems work items.length stack) (count + 1)
        | some (.obj members) =>
            if normalizedParent lib work.parentKey ∈ forbiddenObjects then
              .error "forbidden_structured_object"
            else if normalizedParent lib work.parentKey ∈ environmentNames ∧
                members.any (fun m => isEnvironmentName m.1) = true then
              .error "credential_environment_forbidden"
            else
              match _visited : visitMembers lib redact work.place 0 members (count + 1) stack with
              | .error reason => .error reason
              | .ok (members, visits, stack) =>
                  walkStack (root.replace work.place (.obj members)) stack visits
        -- `None`, `bool` and `int` have nothing to check
        | _ => walkStack root stack (count + 1)
termination_by maxJsonNodes + 1 - count
decreasing_by
  all_goals try omega
  have visits := visitMembers_count lib redact _visited
  simp only at visits
  omega

/-- `_validate_and_redact_json` -/
def redactInPlace (value : Value) : Except String Value := walkStack lib redact value [⟨[], none⟩] 0

/-! ## The loop is the recursion -/

/-- The walk from a count that the limit allows. -/
def resume (root : Value) (stack : List Work) (count : Nat) : Option Value :=
  if maxJsonNodes < count then none else (walkStack lib redact root stack count).toOption

theorem resume_past {root : Value} {stack : List Work} {count : Nat} (past : maxJsonNodes < count) :
    resume lib redact root stack count = none := if_pos past

/-- A part walks as the recursion does: the rest of the stack sees its result. -/
def Walks (v : Value) : Prop :=
  ∀ (root : Value) (work : Work) (stack : List Work) (count : Nat),
    root.part work.place = some v →
    resume lib redact root (work :: stack) count =
      (scrub lib redact (work.parentKey.getD []) v).bind fun r =>
        resume lib redact (root.replace work.place r.1) stack (count + r.2)

/-- What a member becomes. -/
def mask (m : Text × Value) : Text × Value :=
  if lib.secretShapedKey m.1 then (m.1, .str redactedText) else m

/-- A member that the loop does not refuse by its key. -/
def Fine (m : Text × Value) : Prop :=
  lib.normalizedKey m.1 ∉ forbiddenObjects ∧ (lib.secretShapedKey m.1 = true → redact = true)

instance (m : Text × Value) : Decidable (Fine lib redact m) := inferInstanceAs (Decidable (_ ∧ _))

/-- The members that survive go on the stack, the last one on top. -/
def pushMembers (place : Place) : Nat → List (Text × Value) → List Work → List Work
  | _, [], stack => stack
  | i, m :: rest, stack =>
      pushMembers place (i + 1) rest
        (if lib.secretShapedKey m.1 then stack else ⟨place ++ [i], some m.1⟩ :: stack)

/-- Members of fine keys that the limit leaves room for are visited. -/
theorem visitMembers_ok (place : Place) {members : List (Text × Value)} {i count : Nat}
    (stack : List Work) (fine : ∀ m ∈ members, Fine lib redact m)
    (within : count + members.length ≤ maxJsonNodes) :
    visitMembers lib redact place i members count stack =
      .ok (members.map (mask lib), count + members.length, pushMembers lib place i members stack) := by
  induction members generalizing i count stack with
  | nil => rfl
  | cons m rest ih =>
      obtain ⟨key, item⟩ := m
      obtain ⟨⟨allowed, on⟩, others⟩ := List.forall_mem_cons.mp fine
      have shift : count + 1 + rest.length = count + ((key, item) :: rest).length := by
        rw [List.length_cons]
        omega
      have next := fun stack => @ih (i + 1) (count + 1) stack others (shift ▸ within)
      rw [visitMembers, refuse_ok _ (by rw [List.length_cons] at within; omega), ok_bind,
        refuse_ok _ allowed, ok_bind, pushMembers, List.map_cons, mask]
      by_cases secret : lib.secretShapedKey key = true
      · rw [if_pos secret, if_pos secret, if_pos secret,
          refuse_ok _ fun off => Bool.false_ne_true (off.symm.trans (on secret)), ok_bind, next,
          ok_bind, shift]
        rfl
      · rw [if_neg secret, if_neg secret, if_neg secret, next, ok_bind, shift]
        rfl

theorem visitMembers_fine {place : Place} {members : List (Text × Value)} {i count : Nat}
    {stack : List Work} {answer : List (Text × Value) × Nat × List Work}
    (within : count ≤ maxJsonNodes)
    (visited : visitMembers lib redact place i members count stack = .ok answer) :
    (∀ m ∈ members, Fine lib redact m) ∧ count + members.length ≤ maxJsonNodes := by
  induction members generalizing i count stack answer with
  | nil => exact ⟨fun _ none => absurd none List.not_mem_nil, within⟩
  | cons m rest ih =>
      obtain ⟨key, item⟩ := m
      rw [visitMembers] at visited
      simp only [bind_eq_ok, exists_unit, refuse_eq_ok] at visited
      obtain ⟨room, allowed, visited⟩ := visited
      rw [List.forall_mem_cons, List.length_cons]
      by_cases secret : lib.secretShapedKey key = true
      · rw [if_pos secret] at visited
        simp only [bind_eq_ok, exists_unit, refuse_eq_ok] at visited
        obtain ⟨on, inner, more, -⟩ := visited
        obtain ⟨others, limit⟩ := ih (by omega) more
        exact ⟨⟨⟨allowed, fun _ => Bool.eq_true_of_not_eq_false on⟩, others⟩, by omega⟩
      · rw [if_neg secret] at visited
        obtain ⟨inner, more, -⟩ := bind_eq_ok.mp visited
        obtain ⟨others, limit⟩ := ih (by omega) more
        exact ⟨⟨⟨allowed, fun yes => absurd yes secret⟩, others⟩, by omega⟩

theorem pushItems_succ (work : Work) (count : Nat) (stack : List Work) :
    pushItems work (count + 1) stack =
      ⟨work.place ++ [count], work.parentKey⟩ :: pushItems work count stack := by
  rw [pushItems, List.range_succ, List.foldl_append]
  rfl

theorem pushMembers_append (place : Place) (i : Nat) (members : List (Text × Value))
    (m : Text × Value) (stack : List Work) :
    pushMembers lib place i (members ++ [m]) stack =
      if lib.secretShapedKey m.1 then pushMembers lib place i members stack
      else ⟨place ++ [i + members.length], some m.1⟩ :: pushMembers lib place i members stack := by
  induction members generalizing i stack with
  | nil => rfl
  | cons n rest ih =>
      rw [List.cons_append, pushMembers, ih, pushMembers, List.length_cons, Nat.add_right_comm,
        Nat.add_assoc]

theorem scrubItems_append (parentKey : Text) (items : List Value) (v : Value) :
    scrubItems lib redact parentKey (items ++ [v]) =
      (scrub lib redact parentKey v).bind fun last =>
        (scrubItems lib redact parentKey items).map fun r => (r.1 ++ [last.1], r.2 + last.2) := by
  induction items with
  | nil => cases one : scrub lib redact parentKey v <;> simp [scrubItems, one]
  | cons w rest ih =>
      rw [List.cons_append, scrubItems, ih, scrubItems]
      cases scrub lib redact parentKey w with
      | none => cases scrub lib redact parentKey v <;> rfl
      | some first =>
          cases scrub lib redact parentKey v with
          | none => rfl
          | some last =>
              cases scrubItems lib redact parentKey rest with
              | none => rfl
              | some others => simp [Nat.add_assoc]

/-- What the recursion makes of one member. -/
def scrubMember (m : Text × Value) : Option ((Text × Value) × Nat) :=
  if lib.secretShapedKey m.1 then some ((m.1, .str redactedText), 1)
  else (scrub lib redact m.1 m.2).map fun r => ((m.1, r.1), r.2 + 1)

theorem scrubMembers_cons {m : Text × Value} (fine : Fine lib redact m)
    (rest : List (Text × Value)) :
    scrubMembers lib redact (m :: rest) = (scrubMember lib redact m).bind fun first =>
      (scrubMembers lib redact rest).map fun r => (first.1 :: r.1, first.2 + r.2) := by
  obtain ⟨key, item⟩ := m
  obtain ⟨allowed, on⟩ := fine
  rw [scrubMembers, if_neg allowed, scrubMember]
  by_cases secret : lib.secretShapedKey key = true
  · rw [if_pos secret, if_pos (on secret), if_pos secret, Option.bind_some]
    simp only [Nat.add_comm]
  · rw [if_neg secret, if_neg secret]
    cases scrub lib redact key item with
    | none => rfl
    | some r =>
        cases scrubMembers lib redact rest with
        | none => rfl
        | some others => simp [Nat.add_right_comm]

theorem scrubMembers_append {members : List (Text × Value)} {m : Text × Value}
    (fine : ∀ n ∈ members, Fine lib redact n) (last : Fine lib redact m) :
    scrubMembers lib redact (members ++ [m]) = (scrubMember lib redact m).bind fun last =>
      (scrubMembers lib redact members).map fun r => (r.1 ++ [last.1], r.2 + last.2) := by
  induction members with
  | nil =>
      rw [List.nil_append, scrubMembers_cons lib redact last]
      simp [scrubMembers]
  | cons n rest ih =>
      obtain ⟨first, others⟩ := List.forall_mem_cons.mp fine
      rw [List.cons_append, scrubMembers_cons lib redact first, ih others,
        scrubMembers_cons lib redact first]
      cases scrubMember lib redact n with
      | none => cases scrubMember lib redact m <;> rfl
      | some one =>
          cases scrubMember lib redact m with
          | none => rfl
          | some two =>
              cases scrubMembers lib redact rest with
              | none => rfl
              | some r => simp [Nat.add_assoc]

/-- A member that the loop refuses by its key, the recursion refuses. -/
theorem scrubMembers_unfit {members : List (Text × Value)}
    (unfit : ¬∀ m ∈ members, Fine lib redact m) : scrubMembers lib redact members = none := by
  induction members with
  | nil => exact absurd (fun _ none => absurd none List.not_mem_nil) unfit
  | cons m rest ih =>
      by_cases fine : Fine lib redact m
      · have others : ¬∀ m ∈ rest, Fine lib redact m :=
          fun all => unfit (List.forall_mem_cons.mpr ⟨fine, all⟩)
        rw [scrubMembers_cons lib redact fine, ih others]
        cases scrubMember lib redact m <;> rfl
      · obtain ⟨key, item⟩ := m
        rw [scrubMembers]
        by_cases allowed : lib.normalizedKey key ∈ forbiddenObjects
        · rw [if_pos allowed]
        · have exposed : lib.secretShapedKey key = true ∧ redact = false := by
            by_contra other
            refine fine ⟨allowed, fun secret => ?_⟩
            exact Bool.eq_true_of_not_eq_false fun off => other ⟨secret, off⟩
          rw [if_neg allowed, if_pos exposed.1, exposed.2, if_neg Bool.false_ne_true]

/-- The recursion counts every member once at least. -/
theorem scrubMembers_count {members : List (Text × Value)} {r : List (Text × Value) × Nat}
    (scrubbed : scrubMembers lib redact members = some r) : members.length ≤ r.2 := by
  induction members generalizing r with
  | nil => exact Nat.zero_le _
  | cons m rest ih =>
      have fine : Fine lib redact m := by
        by_contra other
        have unfit : ¬∀ n ∈ m :: rest, Fine lib redact n := fun all => other (all m List.mem_cons_self)
        rw [scrubMembers_unfit lib redact unfit] at scrubbed
        exact nomatch scrubbed
      rw [scrubMembers_cons lib redact fine] at scrubbed
      obtain ⟨first, one, more⟩ := Option.bind_eq_some_iff.mp scrubbed
      obtain ⟨others, tail, rfl⟩ := Option.map_eq_some_iff.mp more
      have counted : 1 ≤ first.2 := by
        unfold scrubMember at one
        split at one
        · cases one
          exact Nat.le_refl 1
        · obtain ⟨inner, -, rfl⟩ := Option.map_eq_some_iff.mp one
          exact Nat.le_add_left 1 inner.2
      have := ih tail
      simp only [List.length_cons]
      omega

theorem walks_items {items : List Value} (each : ∀ v ∈ items, Walks lib redact v)
    {root : Value} {done : List Value} {work : Work} {stack : List Work} {count : Nat}
    (held : root.part work.place = some (.arr (items ++ done))) :
    resume lib redact root (pushItems work items.length stack) count =
      (scrubItems lib redact (work.parentKey.getD []) items).bind fun r =>
        resume lib redact (root.replace work.place (.arr (r.1 ++ done))) stack (count + r.2) := by
  induction items using List.reverseRecOn generalizing root done count with
  | nil =>
      rw [List.nil_append] at held
      rw [scrubItems, Option.bind_some, List.nil_append, Value.replace_self held]
      rfl
  | append_singleton items v ih =>
      rw [List.append_assoc, List.singleton_append] at held
      have last : root.part (work.place ++ [items.length]) = some v := by
        rw [Value.part_append, held, Option.bind_some, Value.part_item]
      rw [List.length_append, List.length_singleton, pushItems_succ,
        each v (List.mem_append_right _ List.mem_cons_self) root
          ⟨work.place ++ [items.length], work.parentKey⟩ _ count last,
        scrubItems_append]
      cases scrub lib redact (work.parentKey.getD []) v with
      | none => rfl
      | some r =>
          simp only [Option.bind_some]
          rw [Value.replace_append held, Value.replace_item,
            ih (fun w inside => each w (List.mem_append_left _ inside)) (Value.part_replace held _)]
          cases scrubItems lib redact (work.parentKey.getD []) items with
          | none => rfl
          | some others =>
              simp only [Option.bind_some, Option.map_some]
              rw [Value.replace_replace held, List.append_assoc, List.singleton_append,
                Nat.add_assoc, Nat.add_comm r.2]

/-- The members of an object after its loop: those on the stack are walked last to
first.  `count` leaves out the visits of the members themselves. -/
theorem walks_members {place : Place} {members : List (Text × Value)}
    (fine : ∀ m ∈ members, Fine lib redact m) (each : ∀ m ∈ members, Walks lib redact m.2)
    {root : Value} {done : List (Text × Value)} {stack : List Work} {count : Nat}
    (held : root.part place = some (.obj (members.map (mask lib) ++ done))) :
    resume lib redact root (pushMembers lib place 0 members stack) (count + members.length) =
      (scrubMembers lib redact members).bind fun r =>
        resume lib redact (root.replace place (.obj (r.1 ++ done))) stack (count + r.2) := by
  induction members using List.reverseRecOn generalizing root done count with
  | nil =>
      rw [List.map_nil, List.nil_append] at held
      rw [scrubMembers, Option.bind_some, List.nil_append, Value.replace_self held]
      rfl
  | append_singleton members m ih =>
      have first := fun n inside => fine n (List.mem_append_left _ inside)
      have others := fun n inside => each n (List.mem_append_left _ inside)
      have last := fine m (List.mem_append_right _ List.mem_cons_self)
      rw [List.map_append, List.append_assoc, List.map_singleton, List.singleton_append] at held
      rw [pushMembers_append, scrubMembers_append lib redact first last, scrubMember,
        List.length_append, List.length_singleton, ← Nat.add_assoc, Nat.add_right_comm]
      by_cases secret : lib.secretShapedKey m.1 = true
      · rw [if_pos secret, if_pos secret, ih first others held, mask, if_pos secret]
        cases scrubMembers lib redact members with
        | none => rfl
        | some r =>
            simp only [Option.bind_some, Option.map_some]
            rw [List.append_assoc, List.singleton_append, Nat.add_assoc, Nat.add_comm 1]
      · rw [mask, if_neg secret] at held
        have pointed : root.part (place ++ [0 + members.length]) = some m.2 := by
          rw [Value.part_append, held, Option.bind_some, Nat.zero_add,
            ← List.length_map (mask lib), Value.part_member]
        rw [if_neg secret, if_neg secret,
          each m (List.mem_append_right _ List.mem_cons_self) root
            ⟨place ++ [0 + members.length], some m.1⟩ _ _ pointed, Option.getD_some]
        cases scrub lib redact m.1 m.2 with
        | none => rfl
        | some r =>
            simp only [Option.bind_some, Option.map_some]
            rw [Value.replace_append held, Nat.zero_add, ← List.length_map (mask lib),
              Value.replace_member, List.length_map, Nat.add_right_comm, Nat.add_assoc count,
              ih first others (Value.part_replace held _)]
            cases scrubMembers lib redact members with
            | none => rfl
            | some q =>
                simp only [Option.bind_some, Option.map_some]
                rw [Value.replace_replace held, List.append_assoc, List.singleton_append]
                congr 1
                omega

/-- One turn of the loop, from a count that leaves room for it. -/
theorem resume_cons {root : Value} {work : Work} {stack : List Work} {count : Nat}
    (room : count + 1 ≤ maxJsonNodes) :
    resume lib redact root (work :: stack) count =
      match root.part work.place with
      | some (.str s) =>
          if lib.unsafeString s then none else resume lib redact root stack (count + 1)
      | some (.arr items) =>
          resume lib redact root (pushItems work items.length stack) (count + 1)
      | some (.obj members) =>
          if normalizedParent lib work.parentKey ∈ forbiddenObjects then none
          else if normalizedParent lib work.parentKey ∈ environmentNames ∧
              members.any (fun m => isEnvironmentName m.1) = true then none
          else
            match visitMembers lib redact work.place 0 members (count + 1) stack with
            | .error _ => none
            | .ok (members, visits, stack) =>
                resume lib redact (root.replace work.place (.obj members)) stack visits
      | _ => resume lib redact root stack (count + 1) := by
  rw [resume, if_neg (by omega), walkStack, if_neg (by omega)]
  have next : ∀ root stack, resume lib redact root stack (count + 1) =
      (walkStack lib redact root stack (count + 1)).toOption := fun _ _ => if_neg (by omega)
  split
  · split
    · rfl
    · exact (next _ _).symm
  · exact (next _ _).symm
  · split
    · rfl
    · split
      · rfl
      · split
        · rename_i reason failed
          rw [failed]
          rfl
        · rename_i after visits pushed visited
          obtain ⟨-, limit⟩ := visitMembers_fine lib redact room visited
          have counted := visitMembers_count lib redact visited
          rw [visited]
          simp only at counted ⊢
          rw [resume, if_neg (by omega)]
  · exact (next _ _).symm

theorem normalizedParent_eq (parentKey : Option Text) :
    normalizedParent lib parentKey =
      if parentKey.getD [] = [] then [] else lib.normalizedKey (parentKey.getD []) := by
  cases parentKey <;> rfl

/-- An object that is not refused is the object of its scrubbed members. -/
theorem scrub_obj {parentKey : Text} {members : List (Text × Value)} {r : Value × Nat}
    (scrubbed : scrub lib redact parentKey (.obj members) = some r) :
    ∃ inner, scrubMembers lib redact members = some inner ∧ (.obj inner.1, inner.2 + 1) = r := by
  rw [scrub] at scrubbed
  obtain ⟨-, mapped⟩ := Option.ite_none_left_eq_some.mp scrubbed
  exact Option.map_eq_some_iff.mp mapped

/-- The recursion counts the value itself. -/
theorem scrub_count {parentKey : Text} {v : Value} {r : Value × Nat}
    (scrubbed : scrub lib redact parentKey v = some r) : 1 ≤ r.2 := by
  cases v with
  | arr items =>
      rw [scrub] at scrubbed
      obtain ⟨inner, -, rfl⟩ := Option.map_eq_some_iff.mp scrubbed
      exact Nat.le_add_left 1 inner.2
  | obj members =>
      obtain ⟨inner, -, rfl⟩ := scrub_obj lib redact scrubbed
      exact Nat.le_add_left 1 inner.2
  | str s =>
      rw [scrub] at scrubbed
      split at scrubbed
      · exact nomatch scrubbed
      · cases scrubbed
        exact Nat.le_refl 1
  | null | bool _ | int _ =>
      rw [scrub] at scrubbed
      · cases scrubbed
        exact Nat.le_refl 1
      all_goals exact nofun

/-- Past the limit neither goes on. -/
theorem walks_past {root : Value} {work : Work} {stack : List Work} {count : Nat}
    {parentKey : Text} {v : Value} {next : Value → Value} (full : ¬count + 1 ≤ maxJsonNodes) :
    resume lib redact root (work :: stack) count =
      (scrub lib redact parentKey v).bind fun r =>
        resume lib redact (next r.1) stack (count + r.2) := by
  have left : resume lib redact root (work :: stack) count = none := by
    rw [resume]
    split
    · rfl
    · rw [walkStack, if_pos (by omega)]
      rfl
  rw [left]
  cases scrubbed : scrub lib redact parentKey v with
  | none => rfl
  | some r =>
      have counted := scrub_count lib redact scrubbed
      rw [Option.bind_some, resume_past lib redact (by omega)]

/-- The object's own loop, then its members. -/
theorem walks_object {members : List (Text × Value)} (each : ∀ m ∈ members, Walks lib redact m.2)
    {root : Value} {work : Work} {stack : List Work} {count : Nat}
    (held : root.part work.place = some (.obj members)) (room : count + 1 ≤ maxJsonNodes) :
    (match visitMembers lib redact work.place 0 members (count + 1) stack with
      | .error _ => none
      | .ok (members, visits, stack) =>
          resume lib redact (root.replace work.place (.obj members)) stack visits) =
      ((scrubMembers lib redact members).map fun r => (Value.obj r.1, r.2 + 1)).bind fun r =>
        resume lib redact (root.replace work.place r.1) stack (count + r.2) := by
  by_cases fine : ∀ m ∈ members, Fine lib redact m
  · by_cases within : count + 1 + members.length ≤ maxJsonNodes
    · have masked : (root.replace work.place (.obj (members.map (mask lib)))).part work.place =
          some (.obj (members.map (mask lib) ++ [])) := by
        rw [List.append_nil, Value.part_replace held]
      rw [visitMembers_ok lib redact work.place stack fine within]
      simp only
      rw [walks_members lib redact fine each masked]
      cases scrubMembers lib redact members with
      | none => rfl
      | some r =>
          simp only [Option.bind_some, Option.map_some, List.append_nil]
          rw [Value.replace_replace held, Nat.add_assoc, Nat.add_comm 1]
    · have exceeds : ∀ answer, visitMembers lib redact work.place 0 members (count + 1) stack ≠
          .ok answer := fun answer visited =>
        within (visitMembers_fine lib redact room visited).2
      cases visited : visitMembers lib redact work.place 0 members (count + 1) stack with
      | ok answer => exact absurd visited (exceeds answer)
      | error reason =>
          cases scrubbed : scrubMembers lib redact members with
          | none => rfl
          | some r =>
              have counted := scrubMembers_count lib redact scrubbed
              rw [Option.map_some, Option.bind_some, resume_past lib redact (by simp only; omega)]
  · cases visited : visitMembers lib redact work.place 0 members (count + 1) stack with
    | ok answer => exact absurd (visitMembers_fine lib redact room visited).1 fine
    | error reason =>
        rw [scrubMembers_unfit lib redact fine]
        rfl

mutual
theorem walks : ∀ v : Value, Walks lib redact v
  | .null => fun root work stack count held => by
      by_cases room : count + 1 ≤ maxJsonNodes
      · rw [resume_cons lib redact room, held, scrub, Option.bind_some, Value.replace_self held]
        all_goals exact nofun
      · exact walks_past lib redact room
  | .bool b => fun root work stack count held => by
      by_cases room : count + 1 ≤ maxJsonNodes
      · rw [resume_cons lib redact room, held, scrub, Option.bind_some, Value.replace_self held]
        all_goals exact nofun
      · exact walks_past lib redact room
  | .int n => fun root work stack count held => by
      by_cases room : count + 1 ≤ maxJsonNodes
      · rw [resume_cons lib redact room, held, scrub, Option.bind_some, Value.replace_self held]
        all_goals exact nofun
      · exact walks_past lib redact room
  | .str s => fun root work stack count held => by
      by_cases room : count + 1 ≤ maxJsonNodes
      · rw [resume_cons lib redact room, held, scrub]
        by_cases unsafe_ : lib.unsafeString s = true
        · simp only [if_pos unsafe_]
          rfl
        · simp only [if_neg unsafe_]
          rw [Option.bind_some, Value.replace_self held]
      · exact walks_past lib redact room
  | .arr items => fun root work stack count held => by
      by_cases room : count + 1 ≤ maxJsonNodes
      · have whole : root.part work.place = some (.arr (items ++ [])) := by
          rw [List.append_nil, held]
        rw [resume_cons lib redact room, held, scrub]
        simp only
        rw [walks_items lib redact (walksItems items) whole]
        cases scrubItems lib redact (work.parentKey.getD []) items with
        | none => rfl
        | some r =>
            simp only [Option.bind_some, Option.map_some, List.append_nil, Nat.add_assoc,
              Nat.add_comm 1]
      · exact walks_past lib redact room
  | .obj members => fun root work stack count held => by
      by_cases room : count + 1 ≤ maxJsonNodes
      · rw [resume_cons lib redact room, held, scrub]
        simp only [← normalizedParent_eq]
        by_cases forbidden : normalizedParent lib work.parentKey ∈ forbiddenObjects
        · rw [if_pos forbidden, if_pos (.inl forbidden)]
          rfl
        by_cases environment : normalizedParent lib work.parentKey ∈ environmentNames ∧
            members.any (fun m => isEnvironmentName m.1) = true
        · rw [if_neg forbidden, if_pos environment, if_pos (.inr environment)]
          rfl
        rw [if_neg forbidden, if_neg environment, if_neg (not_or.mpr ⟨forbidden, environment⟩)]
        exact walks_object lib redact (walksMembers members) held room
      · exact walks_past lib redact room
theorem walksItems : ∀ items : List Value, ∀ v ∈ items, Walks lib redact v
  | [] => fun _ none => absurd none List.not_mem_nil
  | v :: rest => fun w inside => by
      rcases List.mem_cons.mp inside with same | later
      · exact same ▸ walks v
      · exact walksItems rest w later
theorem walksMembers : ∀ members : List (Text × Value), ∀ m ∈ members, Walks lib redact m.2
  | [] => fun _ none => absurd none List.not_mem_nil
  | (k, v) :: rest => fun m inside => by
      rcases List.mem_cons.mp inside with same | later
      · exact same ▸ walks v
      · exact walksMembers rest m later
end

/-- The loop in place answers what the recursion answers. -/
theorem redactInPlace_eq (v : Value) :
    (redactInPlace lib redact v).toOption = validateAndRedactJson lib redact v := by
  have begun : resume lib redact v [⟨[], none⟩] 0 = (redactInPlace lib redact v).toOption :=
    if_neg (Nat.not_lt_zero _)
  rw [← begun, walks lib redact v v ⟨[], none⟩ [] 0 rfl, validateAndRedactJson]
  congr 1
  funext r
  rw [Nat.zero_add, resume, walkStack]
  rfl

end Walk

/-! ## What redaction leaves -/

section Redacted

variable (lib : TextLibrary)

mutual
/-- The value with every secret-shaped member replaced by the marker, at any depth. -/
def redacted : Value → Value
  | .arr items => .arr (redactedItems items)
  | .obj members => .obj (redactedMembers members)
  | v => v
def redactedItems : List Value → List Value
  | [] => []
  | v :: rest => redacted v :: redactedItems rest
def redactedMembers : List (Text × Value) → List (Text × Value)
  | [] => []
  | (key, item) :: rest =>
      (key, if lib.secretShapedKey key then .str redactedText else redacted item) ::
        redactedMembers rest
end

/-- A member of the value or of one of its parts, at any depth. -/
inductive Holds : Value → Text → Value → Prop where
  | member {members : List (Text × Value)} {key : Text} {item : Value}
      (here : (key, item) ∈ members) : Holds (.obj members) key item
  | deeper {members : List (Text × Value)} {m : Text × Value} {key : Text} {item : Value}
      (here : m ∈ members) (inside : Holds m.2 key item) : Holds (.obj members) key item
  | item {items : List Value} {v : Value} {key : Text} {item : Value}
      (here : v ∈ items) (inside : Holds v key item) : Holds (.arr items) key item

mutual
/-- The values differ only inside secret-shaped members. -/
def SameOutsideSecrets : Value → Value → Prop
  | .arr items, .arr others => SameItems items others
  | .obj members, .obj others => SameMembersOutside members others
  | v, w => v = w
def SameItems : List Value → List Value → Prop
  | [], [] => True
  | v :: rest, w :: others => SameOutsideSecrets v w ∧ SameItems rest others
  | _, _ => False
def SameMembersOutside : List (Text × Value) → List (Text × Value) → Prop
  | [], [] => True
  | (key, v) :: rest, (other, w) :: others =>
      key = other ∧ (lib.secretShapedKey key = true ∨ SameOutsideSecrets v w) ∧
        SameMembersOutside rest others
  | _, _ => False
end

mutual
/-- The redacting recursion changes nothing else. -/
theorem scrub_redacted : ∀ (v : Value) {parentKey : Text} {r : Value × Nat},
    scrub lib true parentKey v = some r → r.1 = redacted lib v
  | .null, _, _, scrubbed => by
      rw [scrub] at scrubbed
      · cases scrubbed
        rfl
      all_goals exact nofun
  | .bool b, _, _, scrubbed => by
      rw [scrub] at scrubbed
      · cases scrubbed
        rfl
      all_goals exact nofun
  | .int n, _, _, scrubbed => by
      rw [scrub] at scrubbed
      · cases scrubbed
        rfl
      all_goals exact nofun
  | .str s, _, _, scrubbed => by
      rw [scrub] at scrubbed
      split at scrubbed
      · exact nomatch scrubbed
      · cases scrubbed
        rfl
  | .arr items, _, _, scrubbed => by
      rw [scrub] at scrubbed
      obtain ⟨r, inner, rfl⟩ := Option.map_eq_some_iff.mp scrubbed
      rw [redacted, scrubItems_redacted items inner]
  | .obj members, _, _, scrubbed => by
      obtain ⟨r, inner, rfl⟩ := scrub_obj lib true scrubbed
      rw [redacted, scrubMembers_redacted members inner]
theorem scrubItems_redacted : ∀ (items : List Value) {parentKey : Text} {r : List Value × Nat},
    scrubItems lib true parentKey items = some r → r.1 = redactedItems lib items
  | [], _, _, scrubbed => by
      cases scrubbed
      rfl
  | v :: rest, _, _, scrubbed => by
      rw [scrubItems] at scrubbed
      simp only [Option.bind_eq_bind, Option.bind_eq_some_iff] at scrubbed
      obtain ⟨first, one, others, more, same⟩ := scrubbed
      cases same
      rw [redactedItems, ← scrub_redacted v one, ← scrubItems_redacted rest more]
theorem scrubMembers_redacted : ∀ (members : List (Text × Value))
    {r : List (Text × Value) × Nat}, scrubMembers lib true members = some r →
    r.1 = redactedMembers lib members
  | [], _, scrubbed => by
      cases scrubbed
      rfl
  | (key, item) :: rest, _, scrubbed => by
      rw [scrubMembers] at scrubbed
      by_cases forbidden : lib.normalizedKey key ∈ forbiddenObjects
      · rw [if_pos forbidden] at scrubbed
        exact nomatch scrubbed
      rw [if_neg forbidden] at scrubbed
      by_cases secret : lib.secretShapedKey key = true
      · rw [if_pos secret, if_pos rfl] at scrubbed
        obtain ⟨r, more, rfl⟩ := Option.map_eq_some_iff.mp scrubbed
        rw [redactedMembers, if_pos secret, ← scrubMembers_redacted rest more]
      · rw [if_neg secret] at scrubbed
        simp only [Option.bind_eq_bind, Option.bind_eq_some_iff] at scrubbed
        obtain ⟨first, one, others, more, same⟩ := scrubbed
        cases same
        rw [redactedMembers, if_neg secret, ← scrub_redacted item one,
          ← scrubMembers_redacted rest more]
end

mutual
theorem redacted_redacted : ∀ v : Value, redacted lib (redacted lib v) = redacted lib v
  | .null => rfl
  | .bool _ => rfl
  | .int _ => rfl
  | .str _ => rfl
  | .arr items => by rw [redacted, redacted, redactedItems_twice items]
  | .obj members => by rw [redacted, redacted, redactedMembers_twice members]
theorem redactedItems_twice : ∀ items : List Value,
    redactedItems lib (redactedItems lib items) = redactedItems lib items
  | [] => rfl
  | v :: rest => by
      rw [redactedItems, redactedItems, redacted_redacted v, redactedItems_twice rest]
theorem redactedMembers_twice : ∀ members : List (Text × Value),
    redactedMembers lib (redactedMembers lib members) = redactedMembers lib members
  | [] => rfl
  | (key, item) :: rest => by
      rw [redactedMembers, redactedMembers, redactedMembers_twice rest]
      by_cases secret : lib.secretShapedKey key = true
      · rw [if_pos secret, if_pos secret]
      · rw [if_neg secret, if_neg secret, redacted_redacted item]
end

mutual
/-- What the secret members held does not show. -/
theorem redacted_same : ∀ v w : Value, SameOutsideSecrets lib v w →
    redacted lib v = redacted lib w
  | .null, w, same => by
      rw [SameOutsideSecrets] at same
      · rw [same]
      all_goals exact nofun
  | .bool b, w, same => by
      rw [SameOutsideSecrets] at same
      · rw [same]
      all_goals exact nofun
  | .int n, w, same => by
      rw [SameOutsideSecrets] at same
      · rw [same]
      all_goals exact nofun
  | .str s, w, same => by
      rw [SameOutsideSecrets] at same
      · rw [same]
      all_goals exact nofun
  | .arr items, w, same => by
      cases w with
      | arr others => rw [redacted, redacted, redactedItems_same items others same]
      | _ => exact nomatch same
  | .obj members, w, same => by
      cases w with
      | obj others => rw [redacted, redacted, redactedMembers_same members others same]
      | _ => exact nomatch same
theorem redactedItems_same : ∀ items others : List Value, SameItems lib items others →
    redactedItems lib items = redactedItems lib others
  | [], [], _ => rfl
  | v :: rest, w :: others, same => by
      rw [redactedItems, redactedItems, redacted_same v w same.1,
        redactedItems_same rest others same.2]
theorem redactedMembers_same : ∀ members others : List (Text × Value),
    SameMembersOutside lib members others →
    redactedMembers lib members = redactedMembers lib others
  | [], [], _ => rfl
  | (key, v) :: rest, (other, w) :: others, same => by
      obtain ⟨rfl, value, tail⟩ := same
      rw [redactedMembers, redactedMembers, redactedMembers_same rest others tail]
      by_cases secret : lib.secretShapedKey key = true
      · rw [if_pos secret, if_pos secret]
      · rw [if_neg secret, if_neg secret, redacted_same v w (value.resolve_left secret)]
end

/-! ## What a payload may hold -/

/-- A secret-shaped member of a redacted value is the marker. -/
theorem holds_redacted {u : Value} {key : Text} {item : Value} (holds : Holds u key item) :
    ∀ v : Value, u = redacted lib v → lib.secretShapedKey key = true → item = .str redactedText := by
  have members_spec : ∀ members : List (Text × Value), ∀ m ∈ redactedMembers lib members,
      (lib.secretShapedKey m.1 = true ∧ m.2 = .str redactedText) ∨
        (lib.secretShapedKey m.1 = false ∧ ∃ inner, m.2 = redacted lib inner) := by
    intro members
    induction members with
    | nil => exact fun _ none => absurd none List.not_mem_nil
    | cons first rest ih =>
        obtain ⟨k, inner⟩ := first
        rw [redactedMembers]
        refine List.forall_mem_cons.mpr ⟨?_, ih⟩
        by_cases secret : lib.secretShapedKey k = true
        · exact .inl ⟨secret, if_pos secret⟩
        · exact .inr ⟨Bool.eq_false_iff.mpr secret, inner, if_neg secret⟩
  have items_spec : ∀ items : List Value, ∀ w ∈ redactedItems lib items,
      ∃ inner, w = redacted lib inner := by
    intro items
    induction items with
    | nil => exact fun _ none => absurd none List.not_mem_nil
    | cons first rest ih => exact List.forall_mem_cons.mpr ⟨⟨first, rfl⟩, ih⟩
  induction holds with
  | member here =>
      intro v same secret
      cases v with
      | obj members =>
          cases same
          rcases members_spec members _ here with ⟨-, marker⟩ | ⟨plain, -⟩
          · exact marker
          · exact absurd (plain.symm.trans secret) Bool.false_ne_true
      | _ => exact nomatch same
  | deeper here inside ih =>
      intro v same secret
      cases v with
      | obj members =>
          cases same
          rcases members_spec members _ here with ⟨-, marker⟩ | ⟨-, inner, shape⟩
          · rw [marker] at inside
            exact nomatch inside
          · exact ih inner shape secret
      | _ => exact nomatch same
  | item here inside ih =>
      intro v same secret
      cases v with
      | arr items =>
          cases same
          obtain ⟨inner, shape⟩ := items_spec items _ here
          exact ih inner shape secret
      | _ => exact nomatch same

/-- Without redaction a value that passes holds no secret-shaped member. -/
theorem holds_plain {v : Value} {key : Text} {item : Value} (holds : Holds v key item) :
    ∀ {parentKey : Text} {r : Value × Nat}, scrub lib false parentKey v = some r →
      lib.secretShapedKey key = false := by
  have members_spec : ∀ (members : List (Text × Value)) {r : List (Text × Value) × Nat},
      scrubMembers lib false members = some r → ∀ m ∈ members,
        lib.secretShapedKey m.1 = false ∧ ∃ q, scrub lib false m.1 m.2 = some q := by
    intro members
    induction members with
    | nil => exact fun _ _ none => absurd none List.not_mem_nil
    | cons m rest ih =>
        intro r scrubbed
        have fine : Fine lib false m := by
          by_contra other
          have unfit : ¬∀ n ∈ m :: rest, Fine lib false n := fun all => other (all m List.mem_cons_self)
          exact nomatch (scrubMembers_unfit lib false unfit).symm.trans scrubbed
        have plain : lib.secretShapedKey m.1 = false :=
          Bool.eq_false_iff.mpr fun secret => Bool.false_ne_true (fine.2 secret)
        rw [scrubMembers_cons lib false fine, scrubMember, plain, if_neg Bool.false_ne_true] at scrubbed
        obtain ⟨first, one, more⟩ := Option.bind_eq_some_iff.mp scrubbed
        obtain ⟨inner, visited, -⟩ := Option.map_eq_some_iff.mp one
        obtain ⟨others, tail, -⟩ := Option.map_eq_some_iff.mp more
        exact List.forall_mem_cons.mpr ⟨⟨plain, inner, visited⟩, ih tail⟩
  have items_spec : ∀ (items : List Value) {parentKey : Text} {r : List Value × Nat},
      scrubItems lib false parentKey items = some r → ∀ w ∈ items,
        ∃ q, scrub lib false parentKey w = some q := by
    intro items
    induction items with
    | nil => exact fun _ _ none => absurd none List.not_mem_nil
    | cons w rest ih =>
        intro parentKey r scrubbed
        rw [scrubItems] at scrubbed
        simp only [Option.bind_eq_bind, Option.bind_eq_some_iff] at scrubbed
        obtain ⟨first, one, others, more, -⟩ := scrubbed
        exact List.forall_mem_cons.mpr ⟨⟨first, one⟩, ih more⟩
  induction holds with
  | member here =>
      intro parentKey r scrubbed
      obtain ⟨inner, members, -⟩ := scrub_obj lib false scrubbed
      exact (members_spec _ members _ here).1
  | deeper here inside ih =>
      intro parentKey r scrubbed
      obtain ⟨inner, members, -⟩ := scrub_obj lib false scrubbed
      obtain ⟨-, q, visited⟩ := members_spec _ members _ here
      exact ih visited
  | item here inside ih =>
      intro parentKey r scrubbed
      rw [scrub] at scrubbed
      obtain ⟨inner, items, -⟩ := Option.map_eq_some_iff.mp scrubbed
      obtain ⟨q, visited⟩ := items_spec _ items _ here
      exact ih visited

/-! ## Redaction and the canonical text -/

theorem redactedText_survives : Json.Survives redactedText :=
  Utf8.ascii_survives (by unfold Utf8.Ascii; decide)

theorem redactedMembers_keys (members : List (Text × Value)) :
    (redactedMembers lib members).map Prod.fst = members.map Prod.fst := by
  induction members with
  | nil => rfl
  | cons m rest ih => rw [redactedMembers, List.map_cons, List.map_cons, ih]

mutual
theorem readable_redacted : ∀ v : Value, Json.Readable v → Json.Readable (redacted lib v)
  | .null, readable => readable
  | .bool _, readable => readable
  | .int _, readable => readable
  | .str _, readable => readable
  | .arr items, readable => readable_redactedItems items readable
  | .obj members, readable =>
      ⟨(redactedMembers_keys lib members).symm ▸ readable.1,
        readable_redactedMembers members readable.2⟩
theorem readable_redactedItems : ∀ items : List Value, Json.ReadableItems items →
    Json.ReadableItems (redactedItems lib items)
  | [], _ => trivial
  | v :: rest, readable =>
      ⟨readable_redacted v readable.1, readable_redactedItems rest readable.2⟩
theorem readable_redactedMembers : ∀ members : List (Text × Value), Json.ReadableMembers members →
    Json.ReadableMembers (redactedMembers lib members)
  | [], _ => trivial
  | (key, item) :: rest, readable => by
      refine ⟨readable.1, ?_, readable_redactedMembers rest readable.2.2⟩
      by_cases secret : lib.secretShapedKey key = true
      · rw [if_pos secret]
        exact redactedText_survives
      · rw [if_neg secret]
        exact readable_redacted item readable.2.1
end

/-- What redaction makes of one member. -/
def redactedMember (m : Text × Value) : Text × Value :=
  (m.1, if lib.secretShapedKey m.1 then .str redactedText else redacted lib m.2)

theorem redactedMembers_eq_map (members : List (Text × Value)) :
    redactedMembers lib members = members.map (redactedMember lib) := by
  induction members with
  | nil => rfl
  | cons m rest ih => rw [redactedMembers, ih, List.map_cons, redactedMember]

mutual
theorem redacted_sortKeys : ∀ v : Value,
    redacted lib (Json.sortKeys v) = Json.sortKeys (redacted lib v)
  | .null => rfl
  | .bool _ => rfl
  | .int _ => rfl
  | .str _ => rfl
  | .arr items => by
      rw [Json.sortKeys, redacted, redacted, Json.sortKeys, redacted_sortItems items]
  | .obj members => by
      have moved : ((Json.sortMembers members).mergeSort Json.keyLe).map (redactedMember lib) =
          ((Json.sortMembers members).map (redactedMember lib)).mergeSort Json.keyLe :=
        List.map_mergeSort fun _ _ _ _ => rfl
      rw [Json.sortKeys, redacted, redacted, Json.sortKeys, ← redacted_sortMembers members,
        redactedMembers_eq_map, redactedMembers_eq_map, moved]
theorem redacted_sortItems : ∀ items : List Value,
    redactedItems lib (Json.sortItems items) = Json.sortItems (redactedItems lib items)
  | [] => rfl
  | v :: rest => by
      rw [Json.sortItems, redactedItems, redactedItems, Json.sortItems, redacted_sortKeys v,
        redacted_sortItems rest]
theorem redacted_sortMembers : ∀ members : List (Text × Value),
    redactedMembers lib (Json.sortMembers members) = Json.sortMembers (redactedMembers lib members)
  | [] => rfl
  | (key, item) :: rest => by
      rw [Json.sortMembers, redactedMembers, redactedMembers, Json.sortMembers,
        redacted_sortMembers rest]
      by_cases secret : lib.secretShapedKey key = true
      · rw [if_pos secret, if_pos secret, Json.sortKeys]
        all_goals exact nofun
      · rw [if_neg secret, if_neg secret, redacted_sortKeys item]
end

end Redacted

end Inci.Journal
