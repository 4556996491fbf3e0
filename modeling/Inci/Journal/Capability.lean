/-
# Journal.Capability -- the coordinator's write capability

A journal writes only through a capability that its retention coordinator
issued.  The capability reads each frame again before it lets the bytes through
(`frameRole`): an event under a control name is the session's own start or a
terminal bound to its manifest, or it is refused, and a halted terminal takes its
own path.

What the coordinator decides from its clock, its inventory, the authorizer and
the file system is a `Conditions` value for each write.  A refused frame leaves
the file as it is; an input-output failure may leave a part of it.
-/
import Inci.Journal.Frames
import Inci.Journal.Terminal

namespace Inci.Journal

open Inci.Theory
open Inci.Theory.Json (Text text)
open Inci.Theory.Layout (slice size unpack)

set_option autoImplicit false

/-! ## Reading a frame before it is written -/

/-- What a frame is to the capability. -/
inductive FrameRole where
  | ordinary
  | sessionStart
  | terminal (clean : Bool)
  deriving DecidableEq

def retentionTexts : TerminalRefusals where
  contract := "retention_terminal_payload_invalid"
  reason := "retention_terminal_reason_invalid"
  digest := "retention_terminal_digest_invalid"
  count := "retention_terminal_count_invalid"

/-- The checks of a terminal that name its frame's own sequence number. -/
def terminalRole (m : SessionManifest) (event : PersistedEvent) : Except String FrameRole := do
  refuse (event.recordKind ≠ .control ∨ event.sessionId ≠ m.sessionId)
    "retention_terminal_binding_invalid"
  match strictObject event.payload terminalKeys with
  | none => .error "retention_json_invalid"
  | some raw => do
      let clean ← terminalGrammar retentionTexts true raw
      match sessionManifestSha256 m, member raw "record_count_before_terminal" natural,
        member raw "raw_count" natural, member raw "derived_count" natural,
        member raw "last_applied_raw_seq" natural with
      | some manifestSha256, some recordCount, some rawCount, some derivedCount, some lastApplied => do
          refuse (¬Carries raw (provenanceDigests m manifestSha256) (provenanceNumbers m))
            "retention_terminal_binding_invalid"
          refuse (recordCount + 1 ≠ event.ingestSeq ∨ recordCount < rawCount + derivedCount + 1 ∨
            event.ingestSeq ≤ lastApplied) "retention_terminal_count_invalid"
          pure (.terminal clean)
      | _, _, _, _, _ => .error "retention_terminal_count_invalid"

def eventRole (m : SessionManifest) (event : PersistedEvent) : Except String FrameRole :=
  if event.eventType = sessionStartType then do
    refuse (event.recordKind ≠ .control ∨ event.ingestSeq ≠ 1 ∨ event.sessionId ≠ m.sessionId ∨
      event.localWallNs ≠ m.createdWallNs ∨ event.localMonotonicNs ≠ 0 ∨
      canonicalSessionManifestBytes m ≠ some event.payload)
      "retention_session_start_binding_invalid"
    pure .sessionStart
  else if event.eventType = sessionHaltType then terminalRole m event
  else .ok .ordinary

/-- `_terminal_frame_clean` -/
def frameRole (m : SessionManifest) (content : Bytes) : Except String FrameRole :=
  if content.take 4 ≠ frameMagic then .ok .ordinary
  else match unpack framePrefix (content.take (size framePrefix)) with
    | none => .error "retention_terminal_frame_invalid"
    | some (_, version, kind, flags, ingestSeq, total, metadataLength, payloadLength, ()) => do
      refuse (version ≠ frameVersion ∨ flags ≠ frameFlags ∨
        total ≠ frameFixedBytes + metadataLength + payloadLength ∨ total ≠ content.length ∨
        maxFrameBytes < total) "retention_terminal_frame_invalid"
      let payloadStart := size framePrefix + metadataLength
      let digestStart := payloadStart + payloadLength
      let trailerStart := digestStart + 32
      let prefixBytes := content.take (size framePrefix)
      let metadata := slice content (size framePrefix) payloadStart
      let payload := slice content payloadStart digestStart
      match unpack frameTrailer (content.drop trailerStart) with
      | none => .error "retention_terminal_frame_invalid"
      | some (repeated, magic, ()) => do
        refuse (repeated ≠ total ∨ magic ≠ trailerMagic ∨
          slice content digestStart trailerStart ≠ frameDigest prefixBytes metadata payload)
          "retention_terminal_frame_invalid"
        match decodeRecord metadata payload with
        | none => .error "retention_terminal_record_invalid"
        | some event => do
          refuse (kind ≠ frameKind event.recordKind ∨ event.ingestSeq ≠ ingestSeq)
            "retention_terminal_record_invalid"
          eventRole m event

/-! ## Writing -/

/-- What the coordinator and the disk answer to one write. -/
structure Conditions where
  /-- The clock, the inventory, the authorizer and the descriptors allow the write. -/
  grants : Bool
  /-- The free space is at most what an ordinary frame needs. -/
  lowDisk : Bool
  /-- The bytes that reach the file before a failure; `none` when all are durable. -/
  landed : Option Nat
  deriving DecidableEq

/-- The write that succeeds. -/
def Conditions.smooth : Conditions := ⟨true, false, none⟩

inductive WriteFailure where
  /-- `RetentionPrewriteCapacityError`: nothing was written. -/
  | capacity
  | other
  deriving DecidableEq

/-- A session's write authority and the file it appends to. -/
structure WriteCapability where
  file : Bytes
  walPrefixDurable : Bool
  sessionStartDurable : Bool
  terminalWritten : Bool
  terminalCleanDurable : Bool
  haltConsumed : Bool
  healthy : Bool
  closed : Bool
  deriving DecidableEq

namespace WriteCapability

def issued : WriteCapability := ⟨[], false, false, false, false, false, true, false⟩

/-- `_validate_write_capability` -/
def Usable (capability : WriteCapability) (c : Conditions) : Prop :=
  capability.closed = false ∧ capability.healthy = true ∧ capability.terminalWritten = false ∧
    c.grants = true

instance (capability : WriteCapability) (c : Conditions) : Decidable (capability.Usable c) :=
  inferInstanceAs (Decidable (_ ∧ _))

/-- `_reject_bootstrap_write` -/
def reject (capability : WriteCapability) : WriteCapability :=
  { capability with healthy := false, closed := true }

/-- Append the frame and record that it is durable, or keep what the failure left. -/
def append (capability : WriteCapability) (frame : Bytes) (c : Conditions)
    (durable : WriteCapability → WriteCapability) : Except WriteFailure Unit × WriteCapability :=
  match c.landed with
  | none => (.ok (), durable { capability with file := capability.file ++ frame })
  | some kept =>
      (.error .other,
        { capability with
          file := capability.file ++ frame.take kept, healthy := false, closed := true })

/-- `write_all`.  A frame that cannot be read closes the capability here at once; the
writer closes it after every refusal. -/
def writeAll (m : SessionManifest) (capability : WriteCapability) (frame : Bytes) (c : Conditions) :
    Except WriteFailure Unit × WriteCapability :=
  if ¬capability.Usable c then (.error .other, capability)
  else if capability.walPrefixDurable = false then
    if frame ≠ filePrefixBytes then (.error .other, capability.reject)
    else capability.append frame c fun s => { s with walPrefixDurable := true }
  else if frame = filePrefixBytes ∨ frame.take 4 ≠ frameMagic then
    (.error .other, capability.reject)
  else match frameRole m frame with
    | .error _ => (.error .other, capability.reject)
    | .ok role =>
        if capability.sessionStartDurable = decide (role = .sessionStart) then
          (.error .other, capability.reject)
        else match role with
          | .sessionStart =>
              capability.append frame c fun s => { s with sessionStartDurable := true }
          | .terminal false => (.error .other, capability)
          | .terminal true =>
              capability.append frame c fun s =>
                { s with terminalWritten := true, terminalCleanDurable := true }
          | .ordinary =>
              if c.lowDisk then (.error .capacity, capability)
              else capability.append frame c id

/-- `write_halt_control` -/
def writeHaltControl (m : SessionManifest) (capability : WriteCapability) (frame : Bytes)
    (c : Conditions) : Except WriteFailure Unit × WriteCapability :=
  if ¬capability.Usable c then (.error .other, capability)
  else if capability.walPrefixDurable = false ∨ capability.sessionStartDurable = false then
    (.error .other, capability.reject)
  else if capability.haltConsumed then (.error .other, capability)
  else
    let consumed := { capability with haltConsumed := true }
    match frameRole m frame with
    | .ok (.terminal false) =>
        consumed.append frame c fun s => { s with terminalWritten := true }
    | _ => (.error .other, consumed)

def close (capability : WriteCapability) : WriteCapability := { capability with closed := true }

end WriteCapability

/-! ## The role of an encoded frame -/

/-- The capability cuts out of a frame the event it was encoded from. -/
theorem frameRole_framed (m : SessionManifest) {event : PersistedEvent}
    {prefixBytes metadata trailer : Bytes} (framed : Framed event prefixBytes metadata trailer) :
    frameRole m (frameBytes event prefixBytes metadata trailer) = eventRole m event := by
  have p := framed.prefix_length
  have l := framed.length
  have magic : prefixBytes.take 4 = frameMagic := by
    have packed := framed.prefixed
    simp only [Layout.pack] at packed
    split at packed
    · next fits =>
        obtain ⟨tail, -, rfl⟩ := Option.map_eq_some_iff.mp packed
        exact List.take_left' fits
    · cases packed
  have lead : (frameBytes event prefixBytes metadata trailer).take (size framePrefix) =
      prefixBytes := List.take_left' p
  have named : (frameBytes event prefixBytes metadata trailer).take 4 = frameMagic := by
    rw [← magic]
    exact List.take_append_of_le_length (by rw [p]; decide)
  have metadataCut : slice (frameBytes event prefixBytes metadata trailer) (size framePrefix)
      (size framePrefix + metadata.length) = metadata := Layout.slice_mid _ _ _ p.symm rfl
  have payloadCut : slice (frameBytes event prefixBytes metadata trailer)
      (size framePrefix + metadata.length)
      (size framePrefix + metadata.length + event.payload.length) = event.payload := by
    have cut := Layout.slice_mid (prefixBytes ++ metadata) event.payload
      (frameDigest prefixBytes metadata event.payload ++ trailer)
      (p := size framePrefix + metadata.length) (by rw [List.length_append, p]) rfl
    rw [List.append_assoc] at cut
    exact cut
  have digestCut : slice (frameBytes event prefixBytes metadata trailer)
      (size framePrefix + metadata.length + event.payload.length)
      (size framePrefix + metadata.length + event.payload.length + 32) =
      frameDigest prefixBytes metadata event.payload := by
    have cut := Layout.slice_mid (prefixBytes ++ (metadata ++ event.payload))
      (frameDigest prefixBytes metadata event.payload) trailer
      (p := size framePrefix + metadata.length + event.payload.length)
      (by simp only [List.length_append, p]; omega) (by rw [frameDigest_length])
    rw [List.append_assoc, List.append_assoc] at cut
    exact cut
  have trailerCut : (frameBytes event prefixBytes metadata trailer).drop
      (size framePrefix + metadata.length + event.payload.length + 32) = trailer := by
    have length : (prefixBytes ++ (metadata ++ (event.payload ++
        frameDigest prefixBytes metadata event.payload))).length =
          size framePrefix + metadata.length + event.payload.length + 32 := by
      simp only [List.length_append, p, frameDigest_length]
      omega
    have cut : ((prefixBytes ++ (metadata ++ (event.payload ++
        frameDigest prefixBytes metadata event.payload))) ++ trailer).drop
          (size framePrefix + metadata.length + event.payload.length + 32) = trailer :=
      List.drop_left' length
    simp only [List.append_assoc] at cut
    exact cut
  rw [frameRole, if_neg (not_not.mpr named), lead, framed.unpack_prefix]
  simp only [metadataCut, payloadCut, digestCut, trailerCut, framed.unpack_trailer, framed.decoded]
  rw [refuse_ok, ok_bind, refuse_ok, ok_bind, refuse_ok, ok_bind]
  · simp
  · simp
  · have bounded := framed.bounded
    simp only [l, not_or, not_not, not_lt, true_and]
    exact bounded

end Inci.Journal
