/-
# Journal.Sequencer -- the runtime that records before it reduces

`EventRuntime` takes captured inputs one at a time.  It appends the raw record, reduces it, appends
what the reducer derives and only then moves its state and its trace on.  A failure on the way ends
the session: with a halted terminal where one can still be written, else by closing the runtime or
poisoning it.

What the coordinator, the provider's gate and the disk answer is not the runtime's to decide.  It
asks them one after the other; `Surroundings` has the answers in the order of the questions.  A
coordinator that is shut or halted stays so, as the source latches both.
-/
import Inci.Journal.Trace
import Inci.Theory.Effects

namespace Inci.Journal

open Inci.Theory
open Inci.Theory.Json (Text text)

set_option autoImplicit false

/-! ## Surroundings -/

/-- What a call of the runtime raises. -/
inductive Raised where
  | runtimePoisoned (reason : String)
  | providerGate
  | captureValidation (reason : String)
  | journal (failure : JournalError)
  | retentionGlobalHalt
  | retention
  | reducer (failure : ReducerFailure)
  | value (reason : String)
  /-- Any other exception of the gate or the coordinator. -/
  | other
  deriving DecidableEq

/-- How the coordinator stands: open, closed or not ready, or globally halted. -/
inductive Standing where
  | ready
  | shut
  | halted
  deriving DecidableEq

def Standing.rank : Standing → Nat
  | .ready => 0
  | .shut => 1
  | .halted => 2

/-- The answers to one question; each question reads its own. -/
structure Moment where
  /-- How `require_provider_operation` finds the coordinator. -/
  coordinator : Standing
  /-- `require_control_halt_eligible` grants a last control record. -/
  eligible : Bool
  /-- What the gate raises, or the binding of its decision; `none` when it grants. -/
  gate : Option Raised
  /-- Until when the gate lets raw records be kept. -/
  allowed : Nat
  /-- The gate says that the session has ended. -/
  ended : Bool
  /-- What the coordinator raises where it claims the runtime or marks a clean terminal. -/
  bookkeeping : Option Raised
  write : Conditions
  closing : JournalWriter.Closing

structure Surroundings where
  answer : Nat → Moment
  latched : ∀ i, (answer i).coordinator.rank ≤ (answer (i + 1)).coordinator.rank

/-- A coordinator that was left does not come back. -/
theorem Surroundings.rank_mono (s : Surroundings) {i j : Nat} (later : i ≤ j) :
    (s.answer i).coordinator.rank ≤ (s.answer j).coordinator.rank := by
  induction later with
  | refl => exact le_rfl
  | step _ ih => exact ih.trans (s.latched _)

/-! ## The runtime -/

structure EventRuntime where
  writer : JournalWriter
  state : FoundationState
  trace : Bytes
  poisoned : Bool
  closed : Bool
  /-- How many questions were answered. -/
  moment : Nat

abbrev Runtime := Effect EventRuntime Raised

namespace EventRuntime

/-- The runtime takes no more calls. -/
def Sealed (rt : EventRuntime) : Prop :=
  rt.poisoned = true ∨ rt.closed = true ∨ rt.writer.poisoned = true

instance (rt : EventRuntime) : Decidable rt.Sealed := inferInstanceAs (Decidable (_ ∨ _))

def poison (rt : EventRuntime) : EventRuntime := { rt with poisoned := true, closed := true }

def close (rt : EventRuntime) : EventRuntime := { rt with closed := true }

end EventRuntime

section Calls

variable (lib : TextLibrary) (s : Surroundings)

/-- The answers to the next question. -/
def ask : Runtime Moment := do
  let rt ← get
  modify fun rt => { rt with moment := rt.moment + 1 }
  pure (s.answer rt.moment)

/-- `_require_owner_and_healthy`, in the process and the thread of the owner. -/
def requireOwnerAndHealthy : Runtime Unit := do
  let rt ← get
  if rt.Sealed then throw (.runtimePoisoned "runtime_permanently_unavailable") else pure ()

/-- A call of the writer. -/
def writing (call : JournalWriter → Conditions → JournalWriter.Closing →
    Except JournalError PersistedEvent × JournalWriter) : Runtime PersistedEvent := do
  let m ← ask s
  let rt ← get
  modify fun rt => { rt with writer := (call rt.writer m.write m.closing).2 }
  ofExcept ((call rt.writer m.write m.closing).1.mapError Raised.journal)

/-- `_witnesses`, and the writer's close with them. -/
def closeWriter (clean : Bool) (reason : Text) : Runtime PersistedEvent := do
  let rt ← get
  let content ← ofExcept ((canonicalStateBytes rt.state).mapError Raised.reducer)
  writing s fun w c closing => w.close clean reason (hexText rt.trace) (hexdigest content)
    rt.state.lastAppliedRawSeq c closing

/-! ## Halts -/

/-- `require_provider_operation` -/
def requireProviderOperation : Runtime Unit := do
  let m ← ask s
  match m.coordinator with
  | .ready => pure ()
  | .shut => throw .retention
  | .halted => throw .retentionGlobalHalt

/-- `except ...: handler; raise` -/
def reraising {α : Type} (m : Runtime α) (handler : Raised → Runtime Unit) : Runtime α :=
  Effect.handle m fun e => do
    handler e
    throw e

/-- `m`, then an answer of one's own. -/
def answering {α β : Type} (m : Runtime α) (answer : β) : Runtime β := do
  let _ ← m
  pure answer

def uncertainGlobalHalt : Raised → Runtime Unit
  | .journal (.durability reason) => do
      modify EventRuntime.poison
      throw (.journal (.durability reason))
  | _ => modify EventRuntime.close

def attemptPreobservedGlobalHalt : Runtime Unit := do
  let m ← ask s
  if m.eligible = false then modify EventRuntime.close
  else
    Effect.handle (do
      let _ ← closeWriter s false (text "retention_global_halt")
      modify EventRuntime.close) uncertainGlobalHalt

def preobserved (e : Raised) : Runtime Unit :=
  if e = .retentionGlobalHalt then attemptPreobservedGlobalHalt s else pure ()

def requireCoordinator : Runtime Unit := reraising (requireProviderOperation s) (preobserved s)

/-- A question to the gate. -/
def gate : Runtime Moment := do
  let m ← ask s
  match m.gate with
  | none => pure m
  | some e => throw e

/-- Whether the coordinator still operates; a global halt takes its own path. -/
def operating : Runtime Bool :=
  Effect.handle (answering (requireProviderOperation s) true) fun e =>
    if e = .retentionGlobalHalt then answering (attemptPreobservedGlobalHalt s) false else throw e

/-- Whether the halt goes on.  A refusal of the gate is passed over, as a halt is its fail-closed
outcome; only a global halt closes the runtime without a terminal. -/
def authorizeHalt : Runtime Bool :=
  Effect.handle (answering (gate s) true) fun e =>
    if e = .retentionGlobalHalt then answering (modify EventRuntime.close) false else pure true

/-- Every failure of a halt's write poisons the runtime. -/
def uncertainHalt : Raised → Runtime (Option PersistedEvent)
  | .journal (.durability reason) => do
      modify EventRuntime.poison
      throw (.journal (.durability reason))
  | _ => do
      modify EventRuntime.poison
      throw (.journal (.durability "journal_terminal_outcome_uncertain"))

def attemptHalt (reason : Text) : Runtime (Option PersistedEvent) := do
  let rt ← get
  if rt.Sealed then pure none
  else do
    let goesOn ← operating s
    if goesOn = false then pure none
    else do
      let authorized ← authorizeHalt s
      if authorized = false then pure none
      else
        Effect.handle (do
          let terminal ← closeWriter s false reason
          modify EventRuntime.close
          pure (some terminal)) uncertainHalt

/-- A halt behind a failure; the failure is raised again after it. -/
def halting (reason : String) : Runtime Unit := answering (attemptHalt s (text reason)) ()

/-- `if not self._closed: self._poison()` -/
def poisonUnlessClosed : Runtime Unit :=
  modify fun rt => if rt.closed then rt else rt.poison

/-- `except ProviderGateError` and `except RetentionGlobalHalt`. -/
def onDenial : Raised → Runtime Unit
  | .providerGate => halting s "provider_gate_denied"
  | .retentionGlobalHalt => poisonUnlessClosed
  | _ => pure ()

/-! ## The authorizer -/

/-- `authorize_ingest` -/
def authorizeIngest (captured : CapturedInput) : Runtime Unit := do
  let _ ← gate s
  let rt ← get
  ofExcept ((validateCapturedInput lib captured rt.writer.sessionManifest).mapError
    Raised.captureValidation)

/-- `authorize_persist`: the deadline until which a provider's record may be kept. -/
def authorizePersist (captured : CapturedInput) : Runtime (Option Nat) := do
  let rt ← get
  ofExcept ((validateCapturedInput lib captured rt.writer.sessionManifest).mapError
    Raised.captureValidation)
  if captured.sourceKind ≠ .provider then pure none
  else
    let m ← gate s
    let deadline := rt.writer.sessionManifest.requiredRetentionUntilNs
    if m.allowed < deadline then throw .providerGate else pure (some deadline)

/-- `authorize_transform` and `authorize_derived_persist`: a raw record of the session. -/
def authorizeRaw (raw : PersistedEvent) (refusal : String) : Runtime Unit := do
  let rt ← get
  if raw.recordKind ≠ .raw ∨ raw.sessionId ≠ rt.writer.sessionManifest.sessionId then
    throw (.captureValidation refusal)
  else answering (gate s) ()

/-! ## Ingesting -/

def onCapture : Raised → Runtime Unit
  | .providerGate => halting s "provider_gate_denied"
  | .captureValidation _ => halting s "capture_contract_violation"
  | .retentionGlobalHalt => poisonUnlessClosed
  | _ => pure ()

/-- What comes before the raw record. -/
def authorizeCapture (captured : CapturedInput) : Runtime Unit := do
  let deleteBy ← reraising (do
    requireCoordinator s
    authorizeIngest lib s captured
    authorizePersist lib s captured) (onCapture s)
  if captured.retentionDeleteByNs ≠ deleteBy then do
    halting s "capture_contract_violation"
    throw (.captureValidation "retention_deadline_mismatch")
  else pure ()

def onAppend : Raised → Runtime Unit
  | .journal (.validation _) => halting s "capture_contract_violation"
  | .journal .diskLow => halting s "disk_low"
  | .journal (.durability _) => modify EventRuntime.poison
  | .retentionGlobalHalt => poisonUnlessClosed
  | _ => pure ()

def appendRawRecord (captured : CapturedInput) : Runtime PersistedEvent :=
  reraising (do
    requireCoordinator s
    writing s fun w c _ => w.appendRaw lib captured c) (onAppend s)

/-- What fails, with the reason that a halt behind it would carry. -/
abbrev Step := Effect EventRuntime (Text × Raised)

def under {α : Type} (reason : String) (m : Runtime α) : Step α :=
  Effect.handle m fun e => throw (text reason, e)

/-- The derived records of the drafts, one behind the other. -/
def storeOutputs (raw : PersistedEvent) : List DerivedDraft → Step (List PersistedEvent)
  | [] => pure []
  | draft :: rest => do
      let stored ← under "derived_validation_failure" (do
        requireCoordinator s
        authorizeRaw s raw "derived_session_binding_invalid"
        writing s fun w c _ => w.appendDerived raw draft c)
      let others ← storeOutputs raw rest
      pure (stored :: others)

/-- What a durable raw record leads to: the state and the trace behind it. -/
def reduceDurable (raw : PersistedEvent) : Step (FoundationState × Bytes) := do
  let rt ← get
  let reduction ← under "reducer_exception" (do
    requireCoordinator s
    authorizeRaw s raw "raw_session_binding_invalid"
    ofExcept ((reduceEvent rt.state raw).mapError Raised.reducer))
  let stored ← storeOutputs s raw reduction.outputs
  under (if reduction.outputs = [] then "reducer_exception" else "derived_validation_failure") (do
    requireCoordinator s
    let m ← gate s
    if m.ended then throw .providerGate else pure ())
  let trace ← under "trace_exception"
    (ofExcept ((nextTrace rt.trace raw stored reduction.state).mapError Raised.reducer))
  pure (reduction.state, trace)

def onReduce (reason : Text) : Raised → Runtime Unit
  | .providerGate => halting s "provider_gate_denied"
  | .journal .diskLow => halting s "disk_low"
  | .journal (.durability _) => modify EventRuntime.poison
  | .retentionGlobalHalt => poisonUnlessClosed
  | _ => answering (attemptHalt s reason) ()

/-- The state and the trace behind a durable raw record; a failure halts under its reason. -/
def reducing (raw : PersistedEvent) : Runtime (FoundationState × Bytes) :=
  Effect.handle (reduceDurable s raw) fun failure => do
    onReduce s failure.1 failure.2
    throw failure.2

/-- `ingest`; `none` is an argument of another type. -/
def ingest (captured : Option CapturedInput) : Runtime PersistedEvent := do
  requireOwnerAndHealthy
  match captured with
  | none => do
      halting s "capture_contract_violation"
      throw (.captureValidation "captured_input_required")
  | some captured => do
      authorizeCapture lib s captured
      let raw ← appendRawRecord lib s captured
      let reduced ← reducing s raw
      modify fun rt => { rt with state := reduced.1, trace := reduced.2 }
      pure raw

/-! ## Closing -/

def onTerminal : Raised → Runtime Unit
  | .journal (.durability _) => modify EventRuntime.poison
  | _ => pure ()

/-- `mark_clean_terminal`: the terminal is durable whatever the coordinator raises here. -/
def markCleanTerminal (terminal : PersistedEvent) : Runtime PersistedEvent := do
  let m ← ask s
  match m.bookkeeping with
  | none => pure terminal
  | some e => do
      modify fun rt => { rt with poisoned := true }
      throw e

/-- `_close_clean_internal` -/
def closeCleanInternal (reason : Text) : Runtime PersistedEvent := do
  reraising (do
    requireCoordinator s
    answering (gate s) ()) (onDenial s)
  let terminal ← reraising (closeWriter s true reason) onTerminal
  modify EventRuntime.close
  markCleanTerminal s terminal

/-- `_check_ingress_session_end_internal` -/
def checkSessionEnd : Runtime Bool :=
  reraising (do
    requireCoordinator s
    let m ← gate s
    pure m.ended) (onDenial s)

def pollEntitlement : Runtime (Option PersistedEvent) := do
  requireOwnerAndHealthy
  let ended ← checkSessionEnd s
  if ended = true then do
    let terminal ← closeCleanInternal s (text "session_end")
    pure (some terminal)
  else pure none

def checkIngressSessionEnd : Runtime Bool := do
  requireOwnerAndHealthy
  checkSessionEnd s

def closeIngressSessionEnd : Runtime PersistedEvent := do
  requireOwnerAndHealthy
  let ended ← checkSessionEnd s
  if ended = false then do
    modify EventRuntime.poison
    throw (.runtimePoisoned "session_end_not_current")
  else closeCleanInternal s (text "session_end")

def closeClean (reason : Text) : Runtime PersistedEvent := do
  requireOwnerAndHealthy
  if reason ≠ text "operator_stop" then throw (.value "unsupported_public_clean_reason")
  else closeCleanInternal s reason

/-- A halt that must be durable. -/
def haltDurably (reason : Text) : Runtime PersistedEvent := do
  let terminal ← attemptHalt s reason
  match terminal with
  | none => throw (.runtimePoisoned "halt_terminal_not_durable")
  | some terminal => pure terminal

def closeHalted (reason : Text) : Runtime PersistedEvent := do
  requireOwnerAndHealthy
  if reason ≠ text "operator_halt" then throw (.value "unsupported_public_halt_reason")
  else haltDurably s reason

def closeIngressBackpressure : Runtime PersistedEvent := do
  requireOwnerAndHealthy
  haltDurably s (text "ingress_backpressure")

def closeIngressOwnerUnresponsive : Runtime PersistedEvent := do
  requireOwnerAndHealthy
  haltDurably s (text "ingress_owner_unresponsive")

/-! ## Opening -/

/-- `claim_runtime`: a refused claim poisons the writer, and the runtime is closed. -/
def claimRuntime : Runtime Unit := do
  let m ← ask s
  match m.bookkeeping with
  | none => pure ()
  | some e => do
      modify fun rt => { rt.close with writer := { rt.writer with poisoned := true } }
      throw e

/-- The failure of an opening halts the journal where its writer is not poisoned. -/
def onOpening : Runtime Unit := do
  let rt ← get
  if rt.writer.poisoned = false then
    Effect.handle (halting s "initialization_failure") fun _ => pure ()
  else pure ()

/-- What `EventRuntime.__init__` does with the claimed writer. -/
def authorizeSession : Runtime Unit := do
  claimRuntime s
  reraising (do
    requireCoordinator s
    answering (gate s) ()) fun _ => do
      onOpening s
      modify EventRuntime.close

end Calls

/-- `EventRuntime.__init__` up to the claim: the state and the trace of the session's start. -/
def EventRuntime.start (w : JournalWriter) : Except Raised EventRuntime :=
  match openingOf w.sessionManifest w.sessionStart with
  | .ok (state, trace) => .ok ⟨w, state, trace, false, false, 0⟩
  | .error _ => .error (.value "runtime_session_start_binding_mismatch")

/-! ## Runs -/

inductive Call where
  | ingest (captured : Option CapturedInput)
  | pollEntitlement
  | checkIngressSessionEnd
  | closeIngressSessionEnd
  | closeClean (reason : Text)
  | closeHalted (reason : Text)
  | closeIngressBackpressure
  | closeIngressOwnerUnresponsive

/-- A call, and the raw record that it returns where it is an ingest. -/
def performCall (lib : TextLibrary) (s : Surroundings) : Call → Runtime (List PersistedEvent)
  | .ingest captured => do
      let raw ← ingest lib s captured
      pure [raw]
  | .pollEntitlement => do
      let _ ← pollEntitlement s
      pure []
  | .checkIngressSessionEnd => do
      let _ ← checkIngressSessionEnd s
      pure []
  | .closeIngressSessionEnd => do
      let _ ← closeIngressSessionEnd s
      pure []
  | .closeClean reason => do
      let _ ← closeClean s reason
      pure []
  | .closeHalted reason => do
      let _ ← closeHalted s reason
      pure []
  | .closeIngressBackpressure => do
      let _ ← closeIngressBackpressure s
      pure []
  | .closeIngressOwnerUnresponsive => do
      let _ ← closeIngressOwnerUnresponsive s
      pure []

/-- A runtime and the raw records whose ingest has returned. -/
structure LiveRun where
  runtime : EventRuntime
  ingested : List PersistedEvent

/-- The caller goes on whether the call returns or raises. -/
def LiveRun.offer (lib : TextLibrary) (s : Surroundings) (run : LiveRun) (call : Call) : LiveRun :=
  match Effect.runFrom (performCall lib s call) run.runtime with
  | (.ok raws, rt) => ⟨rt, run.ingested ++ raws⟩
  | (.error _, rt) => ⟨rt, run.ingested⟩

/-- The runtime of a writer and the calls on it.  Where its opening fails it is closed and takes
no call. -/
def liveRun (lib : TextLibrary) (s : Surroundings) (w : JournalWriter) (calls : List Call) :
    Except Raised LiveRun := do
  let rt ← EventRuntime.start w
  pure (calls.foldl (LiveRun.offer lib s) ⟨(Effect.runFrom (authorizeSession s) rt).2, []⟩)

end Inci.Journal
