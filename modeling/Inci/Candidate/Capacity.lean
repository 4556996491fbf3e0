/-
# Candidate.Capacity -- the factories build what fits their checks

The canonical text of every protocol value is far below the capacity, so the
digests exist: a factory refuses only what its semantic checks refuse, and two
valid states with the same contents are the same state.
-/
import Inci.Candidate.Protocol
import Inci.Journal.Terminal
import Inci.Theory.JsonSize

namespace Inci.Candidate

open Inci.Theory
open Inci.Theory.Json (Text text Value)
open Inci.Journal (Bytes Members canonicalJsonBytes hexdigest matchesSafeIdentifier matchesSha256)

set_option autoImplicit false

/-! ## Sizes -/

/-- A value that can be printed in at most so many bytes. -/
structure Fits (bound : Nat) (v : Value) : Prop where
  printable : Json.printable v = true
  size : Json.size v ≤ bound

/-- Members that can be printed in at most so many bytes. -/
structure FitsMembers (bound : Nat) (members : Members) : Prop where
  printable : Json.printableMembers members = true
  size : Json.sizeMembers members ≤ bound

theorem Fits.mono {bound more : Nat} {v : Value} (fits : Fits bound v) (less : bound ≤ more) :
    Fits more v :=
  ⟨fits.printable, fits.size.trans less⟩

theorem FitsMembers.nil : FitsMembers 0 [] := ⟨rfl, le_rfl⟩

theorem FitsMembers.cons (key : Text) {v : Value} {rest : Members} {bound more : Nat}
    (first : Fits bound v) (others : FitsMembers more rest) :
    FitsMembers (12 * key.length + 4 + bound + more) ((key, v) :: rest) := by
  refine ⟨?_, ?_⟩
  · rw [Json.printableMembers, first.printable, others.printable]
    rfl
  · have sizes := And.intro first.size others.size
    rw [Json.sizeMembers]
    omega

theorem FitsMembers.obj {members : Members} {bound : Nat} (fits : FitsMembers bound members) :
    Fits (bound + 2) (.obj members) := by
  refine ⟨?_, ?_⟩
  · rw [Json.printable, fits.printable]
  · rw [Json.size]
    exact Nat.add_le_add_right fits.size 2

theorem FitsMembers.append {members others : Members} {bound more : Nat}
    (first : FitsMembers bound members) (last : FitsMembers more others) :
    FitsMembers (bound + more) (members ++ others) := by
  induction members generalizing bound with
  | nil => exact ⟨last.printable, last.size.trans (Nat.le_add_left _ _)⟩
  | cons m rest ih =>
      obtain ⟨k, v⟩ := m
      obtain ⟨printable, size⟩ := first
      rw [Json.printableMembers, Bool.and_eq_true] at printable
      rw [Json.sizeMembers] at size
      have tail := ih ⟨printable.2, le_rfl⟩
      refine ⟨?_, ?_⟩
      · rw [List.cons_append, Json.printableMembers, printable.1, tail.printable]
        rfl
      · have sizes := tail.size
        rw [List.cons_append, Json.sizeMembers]
        omega

theorem Fits.canonical {value : Members} (fits : Fits maxCanonicalBytes (.obj value)) :
    ∃ encoded, canonical value = .ok encoded := by
  have dumped : Json.dumps (.obj value) = some (Json.render (Json.sortKeys (.obj value))) := by
    rw [Json.dumps, if_pos fits.printable]
  have length := (Json.dumps_length dumped).trans fits.size
  refine ⟨Utf8.ascii (Json.render (Json.sortKeys (.obj value))), ?_⟩
  rw [Candidate.canonical, Journal.canonicalJsonBytes_eq_some.mpr ⟨_, dumped, rfl⟩]
  simp only [Utf8.ascii, List.length_map, if_neg (not_lt.mpr length)]

theorem Fits.digest {value : Members} (fits : Fits maxCanonicalBytes (.obj value))
    (domain : Bytes) :
    ∃ identity, digest domain value = .ok identity ∧ matchesSha256 identity = true := by
  obtain ⟨encoded, written⟩ := fits.canonical
  refine ⟨hexdigest (domain ++ encoded), ?_, Journal.hexdigest_matches _⟩
  rw [Candidate.digest, written]
  rfl

theorem fits_int {n : Nat} (small : ValidGeneration n) : Fits 19 (.int n) := by
  have digits : (Json.decimal n).length ≤ 19 :=
    Json.decimal_length (by decide) (small.trans_lt (by decide))
  refine ⟨?_, ?_⟩
  · rw [Json.printable, Int.natAbs_natCast, decide_eq_true_iff]
    exact digits.trans (by decide)
  · rw [Json.size]
    exact digits

theorem fits_text {s : Text} {bound : Nat} (short : s.length ≤ bound) :
    Fits (12 * bound + 2) (.str s) := by
  refine ⟨rfl, ?_⟩
  rw [Json.size]
  omega

theorem nonce_length {nonce : Text} (fits : matchesSafeIdentifier nonce = true) :
    nonce.length ≤ 64 := by
  cases nonce with
  | nil => exact Nat.zero_le _
  | cons c rest =>
      simp only [matchesSafeIdentifier, Journal.matchesClass, Bool.and_eq_true,
        decide_eq_true_eq] at fits
      rw [List.length_cons]
      omega

theorem sha256_length {identity : Text} (fits : matchesSha256 identity = true) :
    identity.length ≤ 64 := by
  simp only [matchesSha256, Bool.and_eq_true, decide_eq_true_eq] at fits
  exact fits.1.le

/-! ## Barriers -/

theorem validateBarrier_eq_ok {b : Barrier} : validateBarrier b = .ok () ↔
    b.schemaVersion = 1 ∧ ValidGeneration b.physicalConnectionGeneration ∧
      matchesSafeIdentifier b.barrierNonce = true ∧ matchesSha256 b.identitySha256 = true ∧
      digest barrierDomain (barrierUnsigned b) = .ok b.identitySha256 := by
  simp only [validateBarrier, checkDigest, bind_eq_ok, exists_unit, refuse_eq_ok, not_not,
    Bool.not_eq_false, ne_eq]
  refine ⟨?_, ?_⟩
  · rintro ⟨schema, generation, nonce, sha, computed, digested, rfl⟩
    exact ⟨schema, generation, nonce, sha, digested⟩
  · rintro ⟨schema, generation, nonce, sha, digested⟩
    exact ⟨schema, generation, nonce, sha, _, digested, rfl⟩

theorem barrierUnsigned_fits {b : Barrier} (schema : b.schemaVersion = 1)
    (generation : ValidGeneration b.physicalConnectionGeneration)
    (nonce : matchesSafeIdentifier b.barrierNonce = true) :
    FitsMembers 2000 (barrierUnsigned b) := by
  have one := fits_int (show ValidGeneration b.schemaVersion by rw [schema]; decide)
  have members := FitsMembers.cons (text "schema_version") one
    (.cons (text "physical_connection_generation") (fits_int generation)
      (.cons (text "barrier_nonce") (fits_text (nonce_length nonce)) .nil))
  exact ⟨members.printable, members.size.trans (by decide)⟩

theorem barrierFull_total {b : Barrier} (valid : validateBarrier b = .ok ()) :
    ∃ full, barrierFull b = .ok full ∧ Fits 3000 full := by
  obtain ⟨schema, generation, nonce, sha, -⟩ := validateBarrier_eq_ok.mp valid
  have members := (barrierUnsigned_fits schema generation nonce).append
    (.cons (text "identity_sha256") (fits_text (sha256_length sha)) .nil)
  refine ⟨_, by rw [barrierFull, valid]; rfl, members.obj.mono (by decide)⟩

/-- A barrier is built of a generation and a nonce that fit. -/
theorem Barrier.create_total {generation : Nat} {nonce : Text} (small : ValidGeneration generation)
    (fits : matchesSafeIdentifier nonce = true) :
    ∃ b, Barrier.create generation nonce = .ok b ∧ validateBarrier b = .ok () ∧
      b.physicalConnectionGeneration = generation ∧ b.barrierNonce = nonce := by
  have members := barrierUnsigned_fits (b := ⟨1, generation, nonce, []⟩) rfl small fits
  obtain ⟨identity, digested, sha⟩ := (members.obj.mono (by decide)).digest barrierDomain
  have valid : validateBarrier ⟨1, generation, nonce, identity⟩ = .ok () :=
    validateBarrier_eq_ok.mpr ⟨rfl, small, fits, sha, digested⟩
  refine ⟨⟨1, generation, nonce, identity⟩, ?_, valid, rfl, rfl⟩
  have unrefused : ¬matchesSafeIdentifier nonce = false := by simp [fits]
  simp only [Barrier.create, refuse_ok _ (not_not.mpr small), refuse_ok _ unrefused, digested,
    ok_bind, valid]
  rfl

/-! ## States -/

theorem optionalBarrierFull_total {pending : Option Barrier}
    (valid : validateOptional pending = .ok ()) :
    ∃ full, optionalBarrierFull pending = .ok full ∧ Fits 3000 full := by
  cases pending with
  | none => exact ⟨.null, rfl, rfl, by decide⟩
  | some b => exact barrierFull_total valid

/-- What the semantics of a state allow, whether or not it may be absent. -/
theorem stateSemantics_optional {physical : PhysicalState} {generation : Nat} {active : Bool}
    {pending : Option Barrier} {allowAbsent : Bool}
    (fine : stateSemantics physical generation active pending allowAbsent = .ok ()) :
    ValidGeneration generation ∧ validateOptional pending = .ok () ∧
      ∀ barrier ∈ pending, barrier.physicalConnectionGeneration = generation := by
  simp only [stateSemantics, bind_eq_ok, exists_unit, refuse_eq_ok, not_not, not_exists,
    not_and] at fine
  exact ⟨fine.1, fine.2.1, fine.2.2.1⟩

theorem stateSemantics_absent {physical : PhysicalState} {generation : Nat} {active : Bool}
    {pending : Option Barrier} {allowAbsent : Bool}
    (fine : stateSemantics physical generation active pending allowAbsent = .ok ()) :
    stateSemantics physical generation active pending true = .ok () := by
  simp only [stateSemantics, bind_eq_ok, exists_unit] at fine ⊢
  obtain ⟨small, valid, belongs, rest⟩ := fine
  refine ⟨small, valid, belongs, ?_⟩
  cases physical with
  | absent =>
      simp only [refuse_eq_ok, not_or] at rest ⊢
      exact ⟨by simp, rest.2⟩
  | _ => exact rest

theorem stateUnsigned_total {physical : PhysicalState} {generation : Nat} {active : Bool}
    {pending : Option Barrier} {allowAbsent : Bool}
    (fine : stateSemantics physical generation active pending allowAbsent = .ok ()) :
    ∃ unsigned, stateUnsigned physical generation active pending = .ok unsigned ∧
      FitsMembers 5000 unsigned := by
  obtain ⟨small, valid, -⟩ := stateSemantics_optional fine
  obtain ⟨full, projected, fits⟩ := optionalBarrierFull_total valid
  have name : physical.value.length ≤ 10 := by cases physical <;> decide
  have members := FitsMembers.cons (text "schema_version")
    (fits_int (n := 1) (by decide)) (.cons (text "physical_state") (fits_text name)
      (.cons (text "physical_connection_generation") (fits_int small)
        (.cons (text "active_receive") (⟨rfl, le_rfl⟩ : Fits 5 (.bool active))
          (.cons (text "pending_barrier_identity") fits .nil))))
  refine ⟨_, by rw [stateUnsigned, projected]; rfl, ?_⟩
  exact ⟨members.printable, members.size.trans (by decide)⟩

theorem validateState_eq_ok {s : ProtocolState} : validateState s = .ok () ↔
    stateSemantics s.physicalState s.physicalConnectionGeneration s.activeReceive
      s.pendingBarrierIdentity true = .ok () ∧
    s.schemaVersion = 1 ∧ matchesSha256 s.stateSha256 = true ∧
    ∃ unsigned, s.unsigned = .ok unsigned ∧ digest stateDomain unsigned = .ok s.stateSha256 := by
  simp only [validateState, checkDigest, bind_eq_ok, exists_unit, refuse_eq_ok, not_not,
    Bool.not_eq_false, ne_eq]
  refine ⟨?_, ?_⟩
  · rintro ⟨fine, schema, sha, unsigned, projected, computed, digested, rfl⟩
    exact ⟨fine, schema, sha, unsigned, projected, digested⟩
  · rintro ⟨fine, schema, sha, unsigned, projected, digested⟩
    exact ⟨fine, schema, sha, unsigned, projected, _, digested, rfl⟩

/-- A state is built of everything the semantics allow. -/
theorem createState_total {physical : PhysicalState} {generation : Nat} {active : Bool}
    {pending : Option Barrier} {allowAbsent : Bool}
    (fine : stateSemantics physical generation active pending allowAbsent = .ok ()) :
    ∃ s, createState physical generation active pending allowAbsent = .ok s ∧
      validateState s = .ok () ∧ s.physicalState = physical ∧
      s.physicalConnectionGeneration = generation ∧ s.activeReceive = active ∧
      s.pendingBarrierIdentity = pending := by
  obtain ⟨unsigned, projected, fits⟩ := stateUnsigned_total fine
  obtain ⟨identity, digested, sha⟩ := (fits.obj.mono (by decide)).digest stateDomain
  have valid : validateState ⟨1, physical, generation, active, pending, identity⟩ = .ok () :=
    validateState_eq_ok.mpr
      ⟨stateSemantics_absent fine, rfl, sha, unsigned, projected, digested⟩
  refine ⟨⟨1, physical, generation, active, pending, identity⟩, ?_, valid, rfl, rfl, rfl, rfl⟩
  simp only [createState, fine, projected, digested, ok_bind, valid]
  rfl

/-- A valid state is its contents. -/
theorem validState_ext {s t : ProtocolState} (valid : validateState s = .ok ())
    (valid' : validateState t = .ok ()) (physical : s.physicalState = t.physicalState)
    (generation : s.physicalConnectionGeneration = t.physicalConnectionGeneration)
    (active : s.activeReceive = t.activeReceive)
    (pending : s.pendingBarrierIdentity = t.pendingBarrierIdentity) : s = t := by
  obtain ⟨-, schema, -, unsigned, projected, digested⟩ := validateState_eq_ok.mp valid
  obtain ⟨-, schema', -, unsigned', projected', digested'⟩ := validateState_eq_ok.mp valid'
  rw [ProtocolState.unsigned, physical, generation, active, pending] at projected
  cases Except.ok.inj (projected.symm.trans projected')
  have sha := Except.ok.inj (digested.symm.trans digested')
  cases s
  cases t
  simp only [ProtocolState.mk.injEq] at *
  exact ⟨schema.trans schema'.symm, physical, generation, active, pending, sha⟩

theorem stateFull_total {s : ProtocolState} (valid : validateState s = .ok ()) :
    ∃ full, stateFull s = .ok full ∧ Fits 6000 full := by
  obtain ⟨fine, -, sha, unsigned, projected, -⟩ := validateState_eq_ok.mp valid
  obtain ⟨known, same, fits⟩ := stateUnsigned_total fine
  cases Except.ok.inj (projected.symm.trans same)
  have members := fits.append
    (.cons (text "state_sha256") (fits_text (sha256_length sha)) .nil)
  refine ⟨_, ?_, members.obj.mono (by decide)⟩
  rw [stateFull, valid, ok_bind, projected]
  rfl

/-! ## Events -/

theorem validateEvent_eq_ok {e : ProtocolEvent} : validateEvent e = .ok () ↔
    validateOptional e.barrierIdentity = .ok () ∧ e.schemaVersion = 1 ∧
    e.kind.carriesBarrier = e.barrierIdentity.isSome ∧ matchesSha256 e.eventSha256 = true ∧
    ∃ unsigned, eventUnsigned e.kind e.barrierIdentity = .ok unsigned ∧
      digest eventDomain unsigned = .ok e.eventSha256 := by
  simp only [validateEvent, checkDigest, bind_eq_ok, exists_unit, refuse_eq_ok, not_not,
    Bool.not_eq_false, ne_eq]
  refine ⟨?_, ?_⟩
  · rintro ⟨fine, schema, carries, sha, unsigned, projected, computed, digested, rfl⟩
    exact ⟨fine, schema, carries, sha, unsigned, projected, digested⟩
  · rintro ⟨fine, schema, carries, sha, unsigned, projected, digested⟩
    exact ⟨fine, schema, carries, sha, unsigned, projected, _, digested, rfl⟩

theorem eventUnsigned_total (kind : EventKind) {barrier : Option Barrier}
    (valid : validateOptional barrier = .ok ()) :
    ∃ unsigned, eventUnsigned kind barrier = .ok unsigned ∧ FitsMembers 4000 unsigned := by
  obtain ⟨full, projected, fits⟩ := optionalBarrierFull_total valid
  have name : kind.value.length ≤ 17 := by cases kind <;> decide
  have members := FitsMembers.cons (text "schema_version")
    (fits_int (n := 1) (by decide)) (.cons (text "kind") (fits_text name)
      (.cons (text "barrier_identity") fits .nil))
  refine ⟨_, by rw [eventUnsigned, projected]; rfl, ?_⟩
  exact ⟨members.printable, members.size.trans (by decide)⟩

/-- An event is built of every kind with a barrier where the kind carries one. -/
theorem ProtocolEvent.create_total (kind : EventKind) (barrier : Option Barrier)
    (valid : validateOptional barrier = .ok ()) (carries : kind.carriesBarrier = barrier.isSome) :
    ∃ e, ProtocolEvent.create kind barrier = .ok e ∧ validateEvent e = .ok () ∧ e.kind = kind ∧
      e.barrierIdentity = barrier := by
  obtain ⟨unsigned, projected, fits⟩ := eventUnsigned_total kind valid
  obtain ⟨identity, digested, sha⟩ := (fits.obj.mono (by decide)).digest eventDomain
  have checked : validateEvent ⟨1, kind, barrier, identity⟩ = .ok () :=
    validateEvent_eq_ok.mpr ⟨valid, rfl, carries, sha, unsigned, projected, digested⟩
  refine ⟨⟨1, kind, barrier, identity⟩, ?_, checked, rfl, rfl⟩
  simp only [ProtocolEvent.create, valid, refuse_ok _ (not_not.mpr carries), projected, digested,
    ok_bind, checked, ne_eq]
  rfl

theorem eventFull_total {e : ProtocolEvent} (valid : validateEvent e = .ok ()) :
    ∃ full, eventFull e = .ok full ∧ Fits 5000 full := by
  obtain ⟨fine, -, -, sha, unsigned, projected, -⟩ := validateEvent_eq_ok.mp valid
  obtain ⟨known, same, fits⟩ := eventUnsigned_total e.kind fine
  cases Except.ok.inj (projected.symm.trans same)
  have members := fits.append
    (.cons (text "event_sha256") (fits_text (sha256_length sha)) .nil)
  refine ⟨_, ?_, members.obj.mono (by decide)⟩
  rw [eventFull, valid, ok_bind, projected]
  rfl

/-! ## Transitions -/

theorem transitionUnsigned_total {prior next : ProtocolState} {event : ProtocolEvent}
    (validPrior : validateState prior = .ok ()) (validEvent : validateEvent event = .ok ())
    (validNext : validateState next = .ok ()) (action : Action) (reason : Option Reason) :
    ∃ unsigned, transitionUnsigned prior event next action reason = .ok unsigned ∧
      FitsMembers 20000 unsigned := by
  obtain ⟨before, projectedBefore, fitsBefore⟩ := stateFull_total validPrior
  obtain ⟨happened, projectedEvent, fitsEvent⟩ := eventFull_total validEvent
  obtain ⟨after, projectedAfter, fitsAfter⟩ := stateFull_total validNext
  have name : action.value.length ≤ 19 := by cases action <;> decide
  have why : Fits (12 * 27 + 2) (reasonValue reason) := by
    cases reason with
    | none => exact ⟨rfl, by decide⟩
    | some r => exact fits_text (by cases r <;> decide)
  have members := FitsMembers.cons (text "schema_version")
    (fits_int (n := 1) (by decide)) (.cons (text "prior_state") fitsBefore
      (.cons (text "event") fitsEvent (.cons (text "state") fitsAfter
        (.cons (text "action") (fits_text name)
          (.cons (text "reason") why .nil)))))
  refine ⟨_, by rw [transitionUnsigned, projectedBefore, projectedEvent, projectedAfter]; rfl, ?_⟩
  exact ⟨members.printable, members.size.trans (by decide)⟩

/-- A transition of valid parts is built when the relation accepts it. -/
theorem transition_total {prior next : ProtocolState} {event : ProtocolEvent} (action : Action)
    (reason : Option Reason) (validPrior : validateState prior = .ok ())
    (validEvent : validateEvent event = .ok ()) (validNext : validateState next = .ok ())
    (legal : ∀ schema sha, transitionRelationMatches
      ⟨schema, prior, event, next, action, reason, sha⟩ = .ok true) :
    ∃ t, transition prior event next action reason = .ok t ∧ t.priorState = prior ∧
      t.event = event ∧ t.state = next ∧ t.action = action ∧ t.reason = reason := by
  obtain ⟨unsigned, projected, fits⟩ :=
    transitionUnsigned_total validPrior validEvent validNext action reason
  obtain ⟨identity, digested, sha⟩ := (fits.obj.mono (by decide)).digest transitionDomain
  have unrefused : ¬matchesSha256 identity = false := by simp [sha]
  have checked : validateTransition ⟨1, prior, event, next, action, reason, identity⟩ = .ok () := by
    simp only [validateTransition, checkDigest, validPrior, validEvent, validNext, projected,
      digested, legal, refuse_ok _ unrefused,
      ok_bind, ne_eq, not_true_eq_false, Bool.true_eq_false, refuse_ok _ not_false]
  refine ⟨⟨1, prior, event, next, action, reason, identity⟩, ?_, rfl, rfl, rfl, rfl, rfl⟩
  simp only [transition, validPrior, validEvent, validNext, projected, digested, ok_bind, checked]
  rfl

end Inci.Candidate
