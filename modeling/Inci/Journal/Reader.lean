/-
# Journal.Reader -- scanning a journal file

The reader takes the file frame by frame.  `readFrame` cuts one frame out at an
offset and tells an absent or torn frame from a corrupt one; `admitRecord` is the body
of the loop for a record that was read and `summary` what the loop answers when
no record is left.

The scan and the replay iteration are one loop that differs in the check of the
terminal record.  Each turn of it moves past a whole frame, so the file's length
bounds the turns.
-/
import Inci.Journal.Terminal
import Inci.Journal.Frames

namespace Inci.Journal

open Inci.Theory
open Inci.Theory.Json (Text text)
open Inci.Theory.Layout (slice size unpack)

set_option autoImplicit false

inductive ScanIssue where
  | missingTerminal
  | haltedTerminal
  | tornTail
  | corruptTail
  deriving DecidableEq

structure ScanSummary where
  fileSize : Nat
  lastGoodOffset : Nat
  lastGoodIngestSeq : Nat
  recordCount : Nat
  rawCount : Nat
  derivedCount : Nat
  terminalClean : Bool
  issue : Option ScanIssue
  walValid : Bool
  deriving DecidableEq

structure FrameRead where
  event : Option PersistedEvent
  endOffset : Nat
  observedSize : Nat
  issue : Option ScanIssue
  deriving DecidableEq

/-! ## Reading one frame -/

/-- `_pread`: the bytes at an offset, fewer at the end of the file. -/
def pread (file : Bytes) (offset length : Nat) : Bytes := slice file offset (offset + length)

def readFileHeader (file : Bytes) : Except String (Option ScanIssue) :=
  let content := pread file 0 (size filePrefix)
  if content.length < size filePrefix then .ok (some .tornTail)
  else match unpack filePrefix content with
    | none => .error "journal_file_header_invalid"
    | some (magic, version, flags, headerLength, ()) => do
        refuse (magic ≠ fileMagic ∨ version ≠ fileVersion ∨ flags ≠ fileFlags ∨
          headerLength ≠ size filePrefix) "journal_file_header_invalid"
        pure none

/-- A frame that the end of the file cuts off. -/
def torn (offset observedSize : Nat) : FrameRead := ⟨none, offset, observedSize, some .tornTail⟩

/-- `_tail_or_interior_corruption` -/
def tailOrInteriorCorruption (file : Bytes) (nextOffset : Nat) : Except String FrameRead := do
  refuse (pread file nextOffset (size framePrefix) ≠ []) "journal_interior_corruption"
  pure ⟨none, nextOffset, nextOffset, some .corruptTail⟩

/-- `_read_frame` -/
def readFrame (file : Bytes) (offset : Nat) : Except String FrameRead :=
  let prefixBytes := pread file offset (size framePrefix)
  if prefixBytes = [] then .ok ⟨none, offset, offset, none⟩
  else if prefixBytes.length < size framePrefix then .ok (torn offset (offset + prefixBytes.length))
  else match unpack framePrefix prefixBytes with
    | none => .error "journal_frame_prefix_invalid"
    | some (magic, version, numericKind, flags, ingestSeq, total, metadataLength, payloadLength, ()) => do
      refuse (magic ≠ frameMagic ∨ version ≠ frameVersion ∨ flags ≠ frameFlags ∨
        numericKind ∉ [1, 2, 3] ∨ total ≠ frameFixedBytes + metadataLength + payloadLength ∨
        maxFrameBytes < total) "journal_frame_prefix_invalid"
      let metadataOffset := offset + size framePrefix
      let payloadOffset := metadataOffset + metadataLength
      let digestOffset := payloadOffset + payloadLength
      let trailerOffset := digestOffset + 32
      let endOffset := trailerOffset + size frameTrailer
      let metadata := pread file metadataOffset metadataLength
      if metadata.length < metadataLength then
        pure (torn offset (metadataOffset + metadata.length))
      else
        let payload := pread file payloadOffset payloadLength
        if payload.length < payloadLength then pure (torn offset (payloadOffset + payload.length))
        else
          let digest := pread file digestOffset 32
          if digest.length < 32 then pure (torn offset (digestOffset + digest.length))
          else
            let trailer := pread file trailerOffset (size frameTrailer)
            if trailer.length < size frameTrailer then
              pure (torn offset (trailerOffset + trailer.length))
            else match unpack frameTrailer trailer with
              | none => .error "journal_frame_trailer_invalid"
              | some (repeated, trailerMagic', ()) =>
                  if repeated ≠ total ∨ trailerMagic' ≠ trailerMagic ∨
                      digest ≠ frameDigest prefixBytes metadata payload then
                    tailOrInteriorCorruption file endOffset
                  else match decodeRecord metadata payload with
                    | none => .error "journal_record_invalid"
                    | some event => do
                        refuse (frameKind event.recordKind ≠ numericKind ∨
                          event.ingestSeq ≠ ingestSeq) "journal_frame_record_mismatch"
                        pure ⟨some event, endOffset, endOffset, none⟩

/-! ## Control records -/

/-- `_manifest_from_start` -/
def manifestFromStart (event : PersistedEvent) : Except String SessionManifest := do
  refuse (event.ingestSeq ≠ 1 ∨ event.recordKind ≠ .control ∨ event.eventType ≠ sessionStartType)
    "journal_session_start_missing"
  match (strictObject event.payload sessionManifestKeys).bind manifestOf with
  | none => .error "journal_session_manifest_invalid"
  | some manifest => do
      refuse (manifest.sessionId ≠ event.sessionId) "journal_session_manifest_mismatch"
      pure manifest

def journalTexts : TerminalRefusals where
  contract := "journal_terminal_contract_invalid"
  reason := "journal_terminal_reason_invalid"
  digest := "journal_terminal_digest_invalid"
  count := "journal_terminal_count_invalid"

/-- Where the loop stands between two frames. -/
structure WalkState where
  offset : Nat
  expectedSeq : Nat
  recordCount : Nat
  rawCount : Nat
  derivedCount : Nat
  lastGoodSeq : Nat
  lastRawSeq : Nat
  manifest : Option SessionManifest
  terminalClean : Bool
  terminalSeen : Bool
  deriving DecidableEq

def WalkState.start : WalkState := ⟨size filePrefix, 1, 0, 0, 0, 0, 0, none, false, false⟩

/-- A check of the terminal record, from the manifest and the loop's counts. -/
abbrev TerminalCheck := SessionManifest → WalkState → PersistedEvent → Except String Bool

/-- The terminal's record and its payload, under the grammar. -/
def terminalRecord (checksReason : Bool) (m : SessionManifest) (event : PersistedEvent) :
    Except String (Members × Bool) := do
  refuse (event.recordKind ≠ .control ∨ event.eventType ≠ sessionHaltType ∨
    event.sessionId ≠ m.sessionId) "journal_terminal_invalid"
  match strictObject event.payload terminalKeys with
  | none => .error "session_terminal_invalid"
  | some raw => do
      let clean ← terminalGrammar journalTexts checksReason raw
      pure (raw, clean)

/-- `_validate_terminal` -/
def validateTerminal : TerminalCheck := fun m st event => do
  let (raw, clean) ← terminalRecord true m event
  match sessionManifestSha256 m, member raw "last_applied_raw_seq" natural with
  | some manifestSha256, some lastApplied => do
      refuse (¬Carries raw (provenanceDigests m manifestSha256)
        ([("record_count_before_terminal", st.recordCount), ("raw_count", st.rawCount),
          ("derived_count", st.derivedCount)] ++ provenanceNumbers m))
        "journal_terminal_binding_invalid"
      refuse (clean = false ∧ st.lastRawSeq < lastApplied) "journal_terminal_count_invalid"
      refuse (clean = true ∧ lastApplied ≠ st.lastRawSeq) "journal_terminal_count_invalid"
      pure clean
  | _, _ => .error "journal_terminal_count_invalid"

/-- `_validate_replay_terminal_grammar` -/
def validateReplayTerminalGrammar : TerminalCheck := fun m _ event => do
  let (_, clean) ← terminalRecord false m event
  pure clean

/-! ## The loop -/

/-- The loop's counters after a record. -/
def WalkState.next (st : WalkState) (event : PersistedEvent) : WalkState :=
  { st with
    expectedSeq := st.expectedSeq + 1
    recordCount := st.recordCount + 1
    lastGoodSeq := event.ingestSeq }

/-- What a record after the first does to the loop's state. -/
def admitLater (check : TerminalCheck) (m : SessionManifest) (st : WalkState)
    (event : PersistedEvent) : Except String WalkState := do
  refuse (event.sessionId ≠ m.sessionId) "journal_session_mismatch"
  refuse (event.eventType = sessionStartType) "journal_duplicate_session_start"
  match event.recordKind with
  | .raw => pure { st with lastRawSeq := event.ingestSeq, rawCount := st.rawCount + 1 }
  | .derived => do
      refuse (event.parentIngestSeq ≠ some st.lastRawSeq) "journal_derived_parent_invalid"
      pure { st with derivedCount := st.derivedCount + 1 }
  | .control => do
      refuse (event.eventType ≠ sessionHaltType) "journal_control_record_invalid"
      let clean ← check m st event
      pure { st with terminalClean := clean, terminalSeen := true }

/-- The loop's body for a record. -/
def admitRecord (check : TerminalCheck) (st : WalkState) (event : PersistedEvent) :
    Except String WalkState := do
  refuse (event.ingestSeq ≠ st.expectedSeq) "journal_sequence_invalid"
  match st.manifest with
  | none => do
      let manifest ← manifestFromStart event
      pure (WalkState.next { st with manifest := some manifest } event)
  | some m => do
      let admitted ← admitLater check m st event
      pure (admitted.next event)

/-- What the loop answers when no record is left. -/
def summary (st : WalkState) (frame : FrameRead) : ScanSummary where
  fileSize := frame.observedSize
  lastGoodOffset := st.offset
  lastGoodIngestSeq := st.lastGoodSeq
  recordCount := st.recordCount
  rawCount := st.rawCount
  derivedCount := st.derivedCount
  terminalClean := st.terminalClean
  issue := match frame.issue with
    | some issue => some issue
    | none =>
        if st.terminalSeen then if st.terminalClean then none else some .haltedTerminal
        else some .missingTerminal
  walValid := frame.issue.isNone

/-- The records of the loop, and its summary or what it raises. -/
abbrev Walk := List PersistedEvent × Except String ScanSummary

def walkFrom (check : TerminalCheck) (file : Bytes) : Nat → WalkState → Walk
  | 0, _ => ([], .error "journal_scan_incomplete")
  | fuel + 1, st =>
      match readFrame file st.offset with
      | .error e => ([], .error e)
      | .ok frame =>
          if st.terminalSeen = true ∧
              ¬(frame.event = none ∧ frame.issue = none ∧ frame.observedSize = st.offset) then
            ([], .error "journal_bytes_after_terminal")
          else match frame.event with
            | none => ([], .ok (summary st frame))
            | some event =>
                match admitRecord check st event with
                | .error e => ([], .error e)
                | .ok admitted =>
                    let rest := walkFrom check file fuel { admitted with offset := frame.endOffset }
                    (event :: rest.1, rest.2)

/-- The summary of a file whose header is cut off. -/
def headerSummary (file : Bytes) (issue : ScanIssue) : ScanSummary :=
  ⟨(pread file 0 (size filePrefix)).length, 0, 0, 0, 0, 0, false, some issue, false⟩

def walk (check : TerminalCheck) (file : Bytes) : Walk :=
  match readFileHeader file with
  | .error e => ([], .error e)
  | .ok (some issue) => ([], .ok (headerSummary file issue))
  | .ok none => walkFrom check file (file.length + 1) .start

def scan (file : Bytes) (requireClean : Bool) : Except String ScanSummary := do
  let summary ← (walk validateTerminal file).2
  refuse (requireClean = true ∧ (summary.issue ≠ none ∨ summary.terminalClean = false))
    "journal_clean_terminal_required"
  pure summary

def iterRecords (file : Bytes) (diagnosticPrefix : Bool) :
    List PersistedEvent × Except String Unit :=
  let items := walk validateTerminal file
  (items.1, do
    let summary ← items.2
    refuse (diagnosticPrefix = false ∧ summary.issue ≠ none) "journal_incomplete")

def iterReplayRecords (file : Bytes) : Walk := walk validateReplayTerminalGrammar file

end Inci.Journal
