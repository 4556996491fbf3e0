/-
# Journal.ReplayCore -- exact and diagnostic replay of a journal

The replay reduces the raw records of a journal again.  For each it reconstructs the derived
records and the trace, and holds what is stored behind the record against them; the terminal is
compared last.  The first difference is the one it reports.

`Progress` is what the loop of `_replay` keeps, and `Progress.record` its body.  The read
capability and its coordinator have granted the file; what is left of them is its bytes.
-/
import Inci.Journal.ReplayWalk
import Inci.Journal.Trace

namespace Inci.Journal

open Inci.Theory
open Inci.Theory.Json (Text text)

set_option autoImplicit false

inductive ReplayMismatch where
  | sessionManifest
  | derivedMissing
  | derivedExtra
  | derivedOrder
  | derivedRecord
  | rawReduction
  | state
  | trace
  | terminalCounts
  | terminalProvenance
  | terminalReason
  deriving DecidableEq

structure ReplayResult where
  state : Option FoundationState
  traceSha256 : Option Text
  rawCount : Nat
  derivedCount : Nat
  terminalClean : Bool
  walValid : Bool
  exactReplay : Bool
  scanIssue : Option ScanIssue
  replayMismatch : Option ReplayMismatch

/-! ## Derived records -/

/-- `_derived_signature`: every field but the sequence number. -/
def derivedSignature (e : PersistedEvent) : PersistedEvent := { e with ingestSeq := 0 }

/-- `_compare_derived_sequences` -/
def compareDerivedSequences (expected stored : List PersistedEvent) : Option ReplayMismatch :=
  if stored.length < expected.length then some .derivedMissing
  else if expected.length < stored.length then some .derivedExtra
  else if expected.map encodeRecord = stored.map encodeRecord then none
  else if expected.map derivedSignature ≠ stored.map derivedSignature ∧
      (expected.map derivedSignature).Perm (stored.map derivedSignature) then some .derivedOrder
  else some .derivedRecord

/-- `_reconstruct_derived` -/
def reconstructDerived (raw : PersistedEvent) (draft : DerivedDraft) (ingestSeq : Nat) :
    Except ReducerFailure PersistedEvent :=
  match (derivedRecord raw draft ingestSeq).validate with
  | .ok () => .ok (derivedRecord raw draft ingestSeq)
  | .error reason => .error (.eventValidation reason)

/-- What a raw record leads to. -/
structure Reduced where
  state : FoundationState
  trace : Bytes
  derived : List PersistedEvent

/-- One raw record: reduced, its derived records numbered behind it, the trace extended. -/
def reduceRaw (state : FoundationState) (trace : Bytes) (raw : PersistedEvent) :
    Except ReducerFailure Reduced := do
  let reduction ← reduceEvent state raw
  let derived ← collect (fun (entry : DerivedDraft × Nat) =>
    reconstructDerived raw entry.1 (raw.ingestSeq + entry.2 + 1)) reduction.outputs.zipIdx
  let next ← nextTrace trace raw derived reduction.state
  pure ⟨reduction.state, next, derived⟩

/-! ## The loop -/

structure Progress where
  state : Option FoundationState
  trace : Option Bytes
  terminal : Option PersistedEvent
  mismatch : Option ReplayMismatch
  reductionFailed : Bool
  pendingExpected : List PersistedEvent
  pendingStored : List PersistedEvent
  pendingStoredCount : Nat

namespace Progress

/-- The loop before the first record. -/
def start : Progress := ⟨none, none, none, none, false, [], [], 0⟩

/-- The loop behind the session start. -/
def begun (state : FoundationState) (trace : Bytes) : Progress :=
  { start with state := some state, trace := some trace }

def withoutPending (p : Progress) : Progress :=
  { p with pendingExpected := [], pendingStored := [], pendingStoredCount := 0 }

/-- The first mismatch stays. -/
def report (p : Progress) (found : Option ReplayMismatch) : Progress :=
  { p with mismatch := p.mismatch <|> found }

/-- `finish_pending` -/
def finishPending (p : Progress) : Progress :=
  if p.reductionFailed = true ∨ (p.pendingExpected = [] ∧ p.pendingStoredCount = 0) then
    p.withoutPending
  else
    (p.report
      (if p.pendingExpected.length < p.pendingStoredCount then some .derivedExtra
      else compareDerivedSequences p.pendingExpected p.pendingStored)).withoutPending

/-- The branch of a raw record.  Unless a reduction failed there is a state and a trace. -/
def raw (p : Progress) (event : PersistedEvent) : Progress :=
  let p := p.finishPending
  if p.reductionFailed = true then p
  else match p.state, p.trace with
    | some state, some trace =>
        match reduceRaw state trace event with
        | .ok reduced =>
            { p with
              state := some reduced.state
              trace := some reduced.trace
              pendingExpected := reduced.derived
              pendingStored := []
              pendingStoredCount := 0 }
        | .error _ =>
            { (p.report (some .rawReduction)).withoutPending with
              state := none
              trace := none
              reductionFailed := true }
    | _, _ => p

/-- The branch of a derived record; one more than expected is kept. -/
def derived (p : Progress) (event : PersistedEvent) : Progress :=
  if p.reductionFailed = true then p
  else
    { p with
      pendingStoredCount := p.pendingStoredCount + 1
      pendingStored :=
        if p.pendingStored.length < p.pendingExpected.length + 1 then p.pendingStored ++ [event]
        else p.pendingStored }

/-- The loop's body for a record behind the session start. -/
def record (p : Progress) (event : PersistedEvent) : Progress :=
  match event.recordKind with
  | .raw => p.raw event
  | .derived => p.derived event
  | .control => { p.finishPending with terminal := some event }

end Progress

/-! ## The terminal -/

/-- What the terminal of a session is compared with, in the order of the comparisons. -/
def terminalMismatch (m : SessionManifest) (manifestSha256 : Text) (p : Progress)
    (summary : ScanSummary) (terminal : PersistedEvent) (payload : Members) :
    Option ReplayMismatch :=
  let counts : List (String × Option Nat) :=
    [("record_count_before_terminal", some (summary.recordCount - 1)),
     ("raw_count", some summary.rawCount), ("derived_count", some summary.derivedCount),
     ("last_applied_raw_seq", p.state.map FoundationState.lastAppliedRawSeq)]
  if ¬∀ entry ∈ counts, entry.2.isSome = true ∧ member payload entry.1 natural = entry.2 then
    some .terminalCounts
  else if ¬Carries payload (provenanceDigests m manifestSha256) (provenanceNumbers m) ∨
      terminal.localWallNs ≠ m.createdWallNs ∨ terminal.localMonotonicNs ≠ 0 then
    some .terminalProvenance
  else if member payload "clean" boolean ≠ some true ∨
      ¬∃ reason ∈ cleanTerminalReasons, member payload "reason" string = some reason then
    some .terminalReason
  else
    let stateSha256 := p.state.bind fun s =>
      (canonicalStateBytes s).toOption.map hexdigest
    if stateSha256 = none ∨ member payload "final_state_sha256" string ≠ stateSha256 then
      some .state
    else
      let traceSha256 := p.trace.map hexText
      if traceSha256 = none ∨ member payload "trace_sha256" string ≠ traceSha256 then some .trace
      else none

/-- `_terminal_payload` -/
def replayTerminalPayload (terminal : PersistedEvent) : Except String Members :=
  match strictObject terminal.payload terminalKeys with
  | none => .error "journal_terminal_contract_invalid"
  | some payload => .ok payload

/-- The mismatch of the terminal, where no other came before it. -/
def terminalReport (m : SessionManifest) (manifestSha256 : Text) (p : Progress)
    (summary : ScanSummary) : Except String (Option ReplayMismatch) :=
  match p.terminal with
  | none => .ok p.mismatch
  | some terminal => do
      let payload ← replayTerminalPayload terminal
      pure (p.mismatch <|> terminalMismatch m manifestSha256 p summary terminal payload)

/-! ## The replay -/

/-- The manifest of another session ends the replay. -/
def otherManifest : ReplayResult :=
  ⟨none, none, 0, 0, false, false, false, none, some .sessionManifest⟩

/-- `_manifest_from_start` of the replay -/
def replayManifest (start : PersistedEvent) : Except String SessionManifest :=
  match (strictObject start.payload sessionManifestKeys).bind manifestOf with
  | none => .error "journal_session_manifest_invalid"
  | some m => .ok m

/-- What the replay answers behind its loop. -/
def replayResult (m : SessionManifest) (manifestSha256 : Text) (p : Progress)
    (summary : ScanSummary) : Except String ReplayResult := do
  let mismatch ← terminalReport m manifestSha256 p summary
  pure
    { state := p.state
      traceSha256 := p.trace.map hexText
      rawCount := summary.rawCount
      derivedCount := summary.derivedCount
      terminalClean := summary.terminalClean
      walValid := summary.walValid
      exactReplay := p.state.isSome && p.trace.isSome && summary.terminalClean &&
        summary.walValid && decide (summary.issue = none) && decide (mismatch = none)
      scanIssue := summary.issue
      replayMismatch := mismatch }

/-- `_replay`, of the file that the read capability opens. -/
def replay (m : SessionManifest) (expectedSha256 : Text) (file : Bytes) :
    Except String ReplayResult := do
  refuse (matchesSha256 expectedSha256 = false) "expected_session_manifest_sha256_invalid"
  refuse (sessionManifestSha256 m ≠ some expectedSha256) "expected_session_manifest_mismatch"
  let (events, finished) := iterReplayRecords file
  match events with
  | [] => do
      let summary ← finished
      replayResult m expectedSha256 .start summary
  | start :: rest => do
      let persisted ← replayManifest start
      if sessionManifestSha256 persisted ≠ some expectedSha256 ∨ persisted ≠ m then
        pure otherManifest
      else match openingOf persisted start with
        | .error _ => .error "journal_session_start_binding_invalid"
        | .ok (state, trace) => do
            let summary ← finished
            replayResult m expectedSha256
              (rest.foldl Progress.record (.begun state trace)).finishPending summary

end Inci.Journal
