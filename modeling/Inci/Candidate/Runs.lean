/-
# Candidate.Runs -- the reconnect discipline

A run hands its events one by one to the decider.  Between two openings of the
physical connection it closes exactly once, after a barrier, and every barrier
required in that stretch has been witnessed: a barrier stays pending until its
witness, and a closed connection opens only when nothing is pending (`Since`).
-/
import Inci.Candidate.Decisions
import Inci.Theory.Traces

namespace Inci.Candidate

open Inci.Theory

set_option autoImplicit false

/-! ## Runs -/

/-- The transitions of the events, each from the state the one before led to. -/
def runProtocol : ProtocolState → List ProtocolEvent → Except CandidateError (List Transition)
  | _, [] => pure []
  | state, event :: rest => do
      let t ← transitionKalshiCandidateProtocol state event
      let others ← runProtocol t.state rest
      pure (t :: others)

/-- A transition of valid parts that the table decides. -/
structure Step (t : Transition) : Prop where
  prior : validateState t.priorState = .ok ()
  event : validateEvent t.event = .ok ()
  state : validateState t.state = .ok ()
  judged : judged t (decision t.priorState t.event)

abbrev ProtocolTrace := Trace Transition.priorState Transition.state Step

theorem runProtocol_total {s : ProtocolState} {events : List ProtocolEvent}
    (valid : validateState s = .ok ()) (events_valid : ∀ e ∈ events, validateEvent e = .ok ()) :
    ∃ ts, runProtocol s events = .ok ts ∧ ts.map Transition.event = events ∧
      ∃ last, ProtocolTrace s ts last := by
  induction events generalizing s with
  | nil => exact ⟨[], rfl, rfl, s, .nil⟩
  | cons e rest ih =>
      obtain ⟨t, decided, rfl, rfl, next, judged⟩ :=
        transition_decision valid (events_valid e List.mem_cons_self)
      obtain ⟨ts, ran, same, last, trace⟩ :=
        ih next fun e' member => events_valid e' (List.mem_cons_of_mem _ member)
      refine ⟨t :: ts, ?_, by rw [List.map_cons, same], last, trace.cons ⟨valid, ?_, next, judged⟩⟩
      · rw [runProtocol, decided, ok_bind, ran]
        rfl
      · exact events_valid _ List.mem_cons_self

/-! ## Steps -/

section Steps

variable {t : Transition}

/-- A step is rejected, and changes nothing, or is a row of the table. -/
theorem Step.cases (step : Step t) :
    (t.state = t.priorState ∧ t.action = .transitionRejected) ∨
      ∃ o, Moves t.priorState t.event o ∧ o.Reached t.state ∧ t.action = o.action := by
  have judged := step.judged
  cases decided : decision t.priorState t.event with
  | none =>
      rw [decided] at judged
      exact .inl ⟨judged.1, judged.2.1⟩
  | some o =>
      rw [decided] at judged
      exact .inr ⟨o, decision_moves decided, judged.1, judged.2.1⟩

/-- No row is a rejection. -/
theorem Moves.accepted {s : ProtocolState} {e : ProtocolEvent} {o : Outcome}
    (moves : Moves s e o) : o.action ≠ .transitionRejected := by
  cases moves <;> exact nofun

theorem Step.unchanged (step : Step t) (rejected : t.action = .transitionRejected) :
    t.state = t.priorState := by
  rcases step.cases with ⟨same, -⟩ | ⟨o, moves, -, action⟩
  · exact same
  · exact absurd (action.symm.trans rejected) moves.accepted

theorem Step.halted (step : Step t) (halted : t.priorState.physicalState = .halted) :
    t.state = t.priorState := by
  rcases step.cases with ⟨same, -⟩ | ⟨o, moves, -, -⟩
  · exact same
  · cases moves with
    | halt running kind => exact absurd halted running
    | opening apart kind clear =>
        rcases apart with here | here <;> rw [here] at halted <;> cases halted
    | witnessed held kind waiting same =>
        rcases held with here | here | here <;> rw [here] at halted <;> cases halted
    | overflow here | opened here | failed here | armed here | completed here | receiveFailed here
    | required here | closing here | closed here | uncertain here =>
        rw [here] at halted
        cases halted

/-- The generation counts the openings. -/
theorem Step.generation (step : Step t) : t.state.physicalConnectionGeneration =
    t.priorState.physicalConnectionGeneration +
      if t.action = .connectionOpened then 1 else 0 := by
  rcases step.cases with ⟨same, action⟩ | ⟨o, moves, ⟨-, generation, -, -⟩, action⟩
  · rw [same, action]
    rfl
  · rw [generation, action]
    cases moves <;> rfl

/-- A receive is not armed while a barrier is pending. -/
theorem Step.armed (step : Step t) :
    (t.state.activeReceive = true → t.state.pendingBarrierIdentity = none) ∧
      (t.event.kind = .receiveArmed → t.action ≠ .transitionRejected →
        t.priorState.pendingBarrierIdentity = none) := by
  refine ⟨fun active => ?_, fun kind accepted => ?_⟩
  · obtain ⟨-, -, -, place⟩ := stateSemantics_eq_ok.mp (validateState_eq_ok.mp step.state).1
    cases physical : t.state.physicalState <;> rw [physical] at place
    · exact place.2.2.2
    · exact place.2
    · exact place.2 active
    · exact absurd (place.2.symm.trans active) nofun
    · exact absurd (place.symm.trans active) nofun
    · exact absurd (place.2.symm.trans active) nofun
    · exact absurd (place.symm.trans active) nofun
  · rcases step.cases with ⟨-, rejected⟩ | ⟨o, moves, -, -⟩
    · exact absurd rejected accepted
    · cases moves with
      | armed connected _ clear => exact clear
      | uncertain _ kind' => rcases kind' with here | here <;> rw [here] at kind <;> cases kind
      | _ => simp_all

end Steps

/-! ## Since the last opening -/

def Opens (t : Transition) : Prop := t.action = .connectionOpened

instance (t : Transition) : Decidable (Opens t) := inferInstanceAs (Decidable (_ = _))

/-- How often the connection was closed. -/
def closings (ts : List Transition) : Nat :=
  ts.countP fun t => decide (t.action = .connectionClosed)

/-- The barrier was witnessed under its generation. -/
def WitnessedIn (b : Barrier) (generation : Nat) (ts : List Transition) : Prop :=
  ∃ w ∈ ts, w.event.kind = .barrierWitnessed ∧ w.action ≠ .transitionRejected ∧
    w.event.barrierIdentity = some b ∧ w.priorState.physicalConnectionGeneration = generation

/-- What a stretch between two openings contains. -/
structure Reconnected (generation : Nat) (ts : List Transition) : Prop where
  closedOnce : closings ts = 1
  required : ∃ t ∈ ts, t.action = .barrierRequired
  witnessed : ∀ before t after, ts = before ++ t :: after → t.action = .barrierRequired →
    t.priorState.physicalConnectionGeneration = generation ∧
    ∃ b, t.event.barrierIdentity = some b ∧ b.physicalConnectionGeneration = generation ∧
      WitnessedIn b generation after

/-- Where a stretch that has not opened again stands. -/
def Stage (physical : PhysicalState) (ts : List Transition) : Prop :=
  match physical with
  | .absent => False
  | .connected => closings ts = 0
  | .closing => closings ts = 0 ∧ ∃ t ∈ ts, t.action = .barrierRequired
  | .closed | .connecting => closings ts = 1 ∧ ∃ t ∈ ts, t.action = .barrierRequired
  | .uncertain | .halted => True

/-- The invariant since an opening: each barrier required is witnessed or pending. -/
structure Since (generation : Nat) (ts : List Transition) (s : ProtocolState) : Prop where
  same : s.physicalConnectionGeneration = generation
  stage : Stage s.physicalState ts
  barriers : ∀ before t after, ts = before ++ t :: after → t.action = .barrierRequired →
    t.priorState.physicalConnectionGeneration = generation ∧
    ∃ b, t.event.barrierIdentity = some b ∧ b.physicalConnectionGeneration = generation ∧
      (WitnessedIn b generation after ∨ s.pendingBarrierIdentity = some b)

theorem closings_append (ts : List Transition) (t : Transition) :
    closings (ts ++ [t]) = closings ts + if t.action = .connectionClosed then 1 else 0 := by
  rw [closings, List.countP_append, List.countP_singleton]
  simp [closings]

theorem WitnessedIn.append {b : Barrier} {generation : Nat} {ts : List Transition}
    (witnessed : WitnessedIn b generation ts) (t : Transition) :
    WitnessedIn b generation (ts ++ [t]) := by
  obtain ⟨w, member, rest⟩ := witnessed
  exact ⟨w, List.mem_append_left _ member, rest⟩

/-- A barrier that is required becomes the pending one. -/
theorem Step.requires {t : Transition} (step : Step t) (required : t.action = .barrierRequired) :
    ∃ b, t.event.barrierIdentity = some b ∧
      b.physicalConnectionGeneration = t.priorState.physicalConnectionGeneration ∧
      t.state.pendingBarrierIdentity = some b := by
  have known (current : Current t.event.barrierIdentity t.priorState.physicalConnectionGeneration) :
      ∃ b, t.event.barrierIdentity = some b ∧
        b.physicalConnectionGeneration = t.priorState.physicalConnectionGeneration :=
    Option.map_eq_some_iff.mp current
  rcases step.cases with ⟨-, rejected⟩ | ⟨o, moves, ⟨-, -, -, pending⟩, action⟩
  · exact nomatch required.symm.trans rejected
  · rw [required] at action
    cases moves with
    | receiveFailed _ _ _ current | required _ _ _ current | closing _ _ current _ =>
        obtain ⟨b, barrier, belongs⟩ := known current
        exact ⟨b, barrier, belongs, pending.trans barrier⟩
    | _ => exact nomatch action

/-- A pending barrier stays until its witness. -/
theorem Step.pending {t : Transition} (step : Step t) {b : Barrier}
    (waiting : t.priorState.pendingBarrierIdentity = some b) :
    t.state.pendingBarrierIdentity = some b ∨
      (t.event.kind = .barrierWitnessed ∧ t.action ≠ .transitionRejected ∧
        t.event.barrierIdentity = some b) := by
  have idle (connecting : t.priorState.physicalState = .connecting) : False := by
    obtain ⟨-, -, -, place⟩ := stateSemantics_eq_ok.mp (validateState_eq_ok.mp step.prior).1
    rw [connecting] at place
    exact nomatch waiting.symm.trans place.2
  have nothing (clear : t.priorState.pendingBarrierIdentity = none) : False :=
    nomatch waiting.symm.trans clear
  rcases step.cases with ⟨same, -⟩ | ⟨o, moves, ⟨-, -, -, pending⟩, action⟩
  · exact .inl (by rw [same, waiting])
  · have accepted := moves.accepted
    rw [← action] at accepted
    cases moves with
    | halt _ _ | closed _ _ | uncertain _ _ => exact .inl (pending.trans waiting)
    | opening _ _ clear | armed _ _ clear | completed _ _ clear | receiveFailed _ _ clear _
    | required _ _ clear _ => exact (nothing clear).elim
    | overflow connecting _ _ | opened connecting _ _ | failed connecting _ =>
        exact (idle connecting).elim
    | closing _ _ _ clear =>
        rcases clear with clear | same
        · exact (nothing clear).elim
        · exact .inl (pending.trans (same.symm.trans waiting))
    | witnessed _ kind _ same => exact .inr ⟨kind, accepted, same.symm.trans waiting⟩

theorem Step.stage {t : Transition} (step : Step t) {ts : List Transition}
    (stage : Stage t.priorState.physicalState ts) (stays : ¬Opens t) :
    Stage t.state.physicalState (ts ++ [t]) := by
  have kept (required : ∃ u ∈ ts, u.action = .barrierRequired) :
      ∃ u ∈ ts ++ [t], u.action = .barrierRequired := by
    obtain ⟨u, member, action⟩ := required
    exact ⟨u, List.mem_append_left _ member, action⟩
  -- Without a closing the stage of the same physical state is kept.
  have still (action : t.action ≠ .connectionClosed) :
      Stage t.priorState.physicalState (ts ++ [t]) := by
    revert stage
    cases t.priorState.physicalState <;>
      simp only [Stage, closings_append, if_neg action, Nat.add_zero] <;>
      first
        | exact id
        | exact fun stage => ⟨stage.1, kept stage.2⟩
  rcases step.cases with ⟨same, action⟩ | ⟨o, moves, ⟨physical, -⟩, action⟩
  · rw [same]
    exact still (by rw [action]; exact nofun)
  · cases moves with
    | halt _ _ | overflow _ _ _ | failed _ _ | uncertain _ _ =>
        rw [physical]
        trivial
    | opened _ _ _ => exact absurd action stays
    | opening apart _ _ =>
        have held := still (by rw [action]; exact nofun)
        rw [physical]
        rcases apart with here | here <;> rw [here] at held
        · exact held.elim
        · exact held
    | armed connected _ _ | completed connected _ _ | required connected _ _ _ =>
        have held := still (by rw [action]; exact nofun)
        rw [physical]
        rwa [connected] at held
    | receiveFailed connected _ _ _ | closing connected _ _ _ =>
        have held := still (by rw [action]; exact nofun)
        rw [physical]
        rw [connected] at held
        exact ⟨held, t, List.mem_append_right _ (List.mem_singleton_self t), action⟩
    | witnessed _ _ _ _ =>
        rw [physical]
        exact still (by rw [action]; exact nofun)
    | closed closing _ =>
        rw [physical]
        rw [closing] at stage
        exact ⟨by rw [closings_append, stage.1, if_pos action], kept stage.2⟩

/-- A step that does not open keeps the invariant. -/
theorem Since.step {generation : Nat} {ts : List Transition} {t : Transition}
    (since : Since generation ts t.priorState) (step : Step t) (stays : ¬Opens t) :
    Since generation (ts ++ [t]) t.state := by
  refine ⟨?_, step.stage since.stage stays, ?_⟩
  · rw [step.generation, if_neg (show ¬t.action = .connectionOpened from stays)]
    exact since.same
  · intro before u after split required
    rcases List.eq_nil_or_concat after with rfl | ⟨front, w, rfl⟩
    · -- The barrier is required by this step.
      obtain ⟨rfl, same⟩ := List.append_inj' split rfl
      obtain rfl := List.singleton_inj.mp same
      obtain ⟨b, barrier, belongs, pending⟩ := step.requires required
      exact ⟨since.same, b, barrier, belongs.trans since.same, .inr pending⟩
    · rw [List.concat_eq_append, ← List.cons_append, ← List.append_assoc] at split
      obtain ⟨rfl, same⟩ := List.append_inj' split rfl
      obtain rfl := List.singleton_inj.mp same
      obtain ⟨prior, b, barrier, belongs, witnessed | pending⟩ :=
        since.barriers before u front rfl required
      · refine ⟨prior, b, barrier, belongs, .inl ?_⟩
        rw [List.concat_eq_append]
        exact witnessed.append t
      · refine ⟨prior, b, barrier, belongs, ?_⟩
        rcases step.pending pending with still | ⟨kind, accepted, witness⟩
        · exact .inr still
        · exact .inl ⟨t, by simp, kind, accepted, witness, since.same⟩

/-! ## The discipline of a run -/

/-- An opening starts a stretch. -/
theorem Step.opens {t : Transition} (step : Step t) (opens : Opens t) :
    t.state.physicalState = .connected ∧ t.priorState.physicalState = .connecting := by
  rcases step.cases with ⟨-, rejected⟩ | ⟨o, moves, ⟨physical, -⟩, action⟩
  · exact nomatch opens.symm.trans rejected
  · rw [show t.action = .connectionOpened from opens] at action
    cases moves with
    | opened connecting _ _ => exact ⟨physical, connecting⟩
    | _ => exact nomatch action

theorem since_opening {t : Transition} (step : Step t) (opens : Opens t) :
    Since t.state.physicalConnectionGeneration [] t.state := by
  refine ⟨rfl, ?_, ?_⟩
  · rw [(step.opens opens).1]
    rfl
  · intro before u after split
    exact absurd split (by simp)

/-- Between two openings everything required happened. -/
theorem Since.reconnected {t : Transition} {generation : Nat} {ts : List Transition}
    (since : Since generation ts t.priorState) (step : Step t) (opens : Opens t) :
    Reconnected generation ts := by
  obtain ⟨-, connecting⟩ := step.opens opens
  obtain ⟨-, -, -, place⟩ := stateSemantics_eq_ok.mp (validateState_eq_ok.mp step.prior).1
  rw [connecting] at place
  have stage := since.stage
  rw [connecting] at stage
  refine ⟨stage.1, stage.2, fun before u after split required => ?_⟩
  obtain ⟨prior, b, barrier, belongs, witnessed | pending⟩ :=
    since.barriers before u after split required
  · exact ⟨prior, b, barrier, belongs, witnessed⟩
  · exact nomatch pending.symm.trans place.2

/-- What holds of the transitions of a run. -/
structure Disciplined (ts : List Transition) : Prop where
  relation : ∀ t ∈ ts, ∀ next action reason schema sha, validateState next = .ok () →
    transitionRelationMatches ⟨schema, t.priorState, t.event, next, action, reason, sha⟩ =
      .ok (decide (next = t.state ∧ action = t.action ∧ reason = t.reason))
  generation : ∀ before t after, ts = before ++ t :: after →
    t.state.physicalConnectionGeneration = (before ++ [t]).countP fun u => decide (Opens u)
  reconnected : ∀ before opened between reopened after,
    ts = before ++ opened :: (between ++ reopened :: after) → Opens opened → Opens reopened →
    (∀ t ∈ between, ¬Opens t) → Reconnected opened.state.physicalConnectionGeneration between
  unarmed : ∀ t ∈ ts, (t.state.activeReceive = true → t.state.pendingBarrierIdentity = none) ∧
    (t.event.kind = .receiveArmed → t.action ≠ .transitionRejected →
      t.priorState.pendingBarrierIdentity = none)
  absorbing : ∀ before t after, ts = before ++ t :: after → t.priorState.physicalState = .halted →
    ∀ u ∈ t :: after, u.state = t.priorState
  unchanged : ∀ t ∈ ts, t.action = .transitionRejected → t.state = t.priorState

/-- The relation accepts the transition of a step and no other. -/
theorem Step.relation {t : Transition} (step : Step t) {next : ProtocolState} (action : Action)
    (reason : Option Reason) (schema : Nat) (sha : Json.Text)
    (valid : validateState next = .ok ()) :
    transitionRelationMatches ⟨schema, t.priorState, t.event, next, action, reason, sha⟩ =
      .ok (decide (next = t.state ∧ action = t.action ∧ reason = t.reason)) := by
  rw [relation_decision (t := ⟨schema, t.priorState, t.event, next, action, reason, sha⟩)
    step.prior step.event valid]
  congr 1
  have judged := step.judged
  refine decide_eq_decide.mpr ?_
  cases decided : decision t.priorState t.event with
  | none =>
      rw [decided] at judged
      simp only [Candidate.judged] at judged ⊢
      rw [judged.1, judged.2.1, judged.2.2]
  | some o =>
      rw [decided] at judged
      obtain ⟨⟨physical, generation, active, pending⟩, acts, why⟩ := judged
      simp only [Candidate.judged, acts, why]
      refine and_congr_left fun _ => ⟨fun reached => ?_, ?_⟩
      · exact validState_ext valid step.state (reached.1.trans physical.symm)
          (reached.2.1.trans generation.symm) (reached.2.2.1.trans active.symm)
          (reached.2.2.2.trans pending.symm)
      · rintro rfl
        exact ⟨physical, generation, active, pending⟩

theorem trace_generation {s last : ProtocolState} {ts : List Transition}
    (trace : ProtocolTrace s ts last) : last.physicalConnectionGeneration =
      s.physicalConnectionGeneration + ts.countP fun u => decide (Opens u) := by
  refine trace.invariant (P := fun ts last => last.physicalConnectionGeneration =
    s.physicalConnectionGeneration + ts.countP fun u => decide (Opens u)) (by simp) ?_
  intro before t known step
  rw [step.generation, known, List.countP_append, List.countP_singleton, Nat.add_assoc]
  by_cases opens : t.action = .connectionOpened <;> simp [Opens, opens]

theorem trace_since {generation : Nat} {s last : ProtocolState} {ts : List Transition}
    (trace : ProtocolTrace s ts last) (opened : Since generation [] s)
    (stays : ∀ t ∈ ts, ¬Opens t) : Since generation ts last := by
  refine trace.invariant (P := fun ts last => (∀ t ∈ ts, ¬Opens t) → Since generation ts last)
    (fun _ => opened) ?_ stays
  intro before t known step stays
  exact (known fun u member => stays u (List.mem_append_left _ member)).step step
    (stays t (by simp))

theorem trace_halted {s last : ProtocolState} {ts : List Transition}
    (trace : ProtocolTrace s ts last) (halted : s.physicalState = .halted) :
    last = s ∧ ∀ t ∈ ts, t.state = s := by
  refine trace.invariant (P := fun ts last => last = s ∧ ∀ t ∈ ts, t.state = s)
    ⟨rfl, fun t none => absurd none List.not_mem_nil⟩ ?_
  intro before t held step
  have still := step.halted (by rw [held.1, halted])
  refine ⟨still.trans held.1, fun u member => ?_⟩
  rcases List.mem_append.mp member with earlier | here
  · exact held.2 u earlier
  · rw [List.mem_singleton.mp here, still, held.1]

theorem trace_disciplined {s last : ProtocolState} {ts : List Transition}
    (trace : ProtocolTrace s ts last) (fresh : s.physicalConnectionGeneration = 0) :
    Disciplined ts where
  relation t member next action reason schema sha valid :=
    (trace.mem member).relation action reason schema sha valid
  generation before t after split := by
    rw [split, ← List.singleton_append, ← List.append_assoc] at trace
    obtain ⟨middle, first, -⟩ := trace.split
    obtain ⟨opened, earlier, here⟩ := first.split
    obtain ⟨-, -, rest⟩ := here.head
    obtain rfl := rest.eq_of_nil
    rw [trace_generation first, fresh, Nat.zero_add]
  reconnected before opened between reopened after split opens reopens stays := by
    rw [split] at trace
    obtain ⟨start, -, rest⟩ := trace.split
    obtain ⟨-, step, rest⟩ := rest.head
    obtain ⟨middle, stretch, tail⟩ := rest.split
    obtain ⟨rfl, again, -⟩ := tail.head
    exact (trace_since stretch (since_opening step opens) stays).reconnected again reopens
  unarmed t member := (trace.mem member).armed
  absorbing before t after split halted := by
    rw [split] at trace
    obtain ⟨start, -, rest⟩ := trace.split
    obtain ⟨rfl, -⟩ := rest.head
    exact (trace_halted rest halted).2
  unchanged t member := (trace.mem member).unchanged

/-- Every run from the initial state answers every event and keeps the discipline. -/
theorem protocol_disciplined (events : List ProtocolEvent)
    (valid : ∀ e ∈ events, validateEvent e = .ok ()) :
    ∃ initial ts, initialProtocolState = .ok initial ∧ runProtocol initial events = .ok ts ∧
      ts.map Transition.event = events ∧ Disciplined ts := by
  have semantics : stateSemantics .absent 0 false none true = .ok () := by decide
  obtain ⟨initial, created, known, -, fresh, -⟩ := createState_total semantics
  obtain ⟨ts, ran, same, last, trace⟩ := runProtocol_total known valid
  exact ⟨initial, ts, created, ran, same, trace_disciplined trace fresh⟩

/-- One reconnection after a close that is witnessed before it is proven. -/
theorem reconnection_disciplined : ∃ events initial ts,
    events.map ProtocolEvent.kind = [.openRequested, .openSucceeded, .closeRequested,
      .barrierWitnessed, .closeProven, .openRequested, .openSucceeded] ∧
    initialProtocolState = .ok initial ∧ runProtocol initial events = .ok ts ∧
      Disciplined ts := by
  obtain ⟨b, -, barrier, -⟩ := Barrier.create_total (show ValidGeneration 1 by decide)
    (show Journal.matchesSafeIdentifier (Json.text "close-1") = true by decide)
  have plain (kind : EventKind) (none : kind.carriesBarrier = false) :
      ∃ e, validateEvent e = .ok () ∧ e.kind = kind := by
    obtain ⟨e, -, valid, same, -⟩ :=
      ProtocolEvent.create_total kind .none rfl none
    exact ⟨e, valid, same⟩
  have carrying (kind : EventKind) (some : kind.carriesBarrier = true) :
      ∃ e, validateEvent e = .ok () ∧ e.kind = kind := by
    obtain ⟨e, -, valid, same, -⟩ :=
      ProtocolEvent.create_total kind (.some b) barrier some
    exact ⟨e, valid, same⟩
  obtain ⟨requested, v1, k1⟩ := plain .openRequested rfl
  obtain ⟨succeeded, v2, k2⟩ := plain .openSucceeded rfl
  obtain ⟨close, v3, k3⟩ := carrying .closeRequested rfl
  obtain ⟨witness, v4, k4⟩ := carrying .barrierWitnessed rfl
  obtain ⟨proven, v5, k5⟩ := plain .closeProven rfl
  obtain ⟨initial, ts, created, ran, -, disciplined⟩ := protocol_disciplined
    [requested, succeeded, close, witness, proven, requested, succeeded] (by simp [*])
  exact ⟨_, initial, ts, by simp [*], created, ran, disciplined⟩

end Inci.Candidate
