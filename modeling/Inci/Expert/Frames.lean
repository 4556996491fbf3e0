/-
# Expert.Frames -- the companion journal's frame format

A frame is a fixed prefix, the metadata, the payload area and a trailer that
repeats the frame's length and carries a digest of everything before it.  The
prefix names the kind, the sequence number and the lengths of the parts; each
kind has its own bounds.  The payload area of a parent group is the group's
payloads, each behind its length.

`FrameParts.WithinLimits` states those bounds once, apart from the code.  The
encoder accepts exactly the parts within them, and the decoder inverts it.
-/
import Inci.Expert.Canonical
import Inci.Theory.Checks
import Inci.Theory.Layout

namespace Inci.Expert

open Inci.Theory
open Inci.Theory.Layout (Item Row slice size pack unpack)
open Inci.Theory.Sha256 (bigEndian)

set_option autoImplicit false

/-! ## Limits and layouts -/

def expertFrameMagic : List UInt8 := asciiBytes (Json.text "IXJF")
def expertFrameVersion : Nat := 1
def expertFrameFlags : Nat := 0
def expertFrameTrailerMagic : List UInt8 := asciiBytes (Json.text "FJXI")
def expertFrameKindManifest : Nat := 1
def expertFrameKindParentGroup : Nat := 2
def expertFrameKindTerminal : Nat := 3

/-- `_EXPERT_FRAME_PREFIX`, `>4sBBHQQII`. -/
abbrev expertFramePrefix : List Item :=
  [.raw 4, .unsigned 1, .unsigned 1, .unsigned 2, .unsigned 8, .unsigned 8, .unsigned 4,
    .unsigned 4]

/-- `_EXPERT_FRAME_TRAILER`, `>Q32s4s`. -/
abbrev expertFrameTrailer : List Item := [.unsigned 8, .raw 32, .raw 4]

def expertFramePrefixBytes : Nat := size expertFramePrefix
def expertFrameTrailerBytes : Nat := size expertFrameTrailer
def expertFrameFixedBytes : Nat := expertFramePrefixBytes + expertFrameTrailerBytes

def maxExpertFrameBytes : Nat := 16777216
def maxExpertManifestMetadataBytes : Nat := 1048576
def maxExpertTerminalMetadataBytes : Nat := 1048576
def maxExpertTerminalFrameBytes : Nat := 1048652
def maxExpertGroupMetadataBytes : Nat := 8388532
def maxExpertGroupPayloadAreaBytes : Nat := 8388608
def maxExpertEventPayloadBytes : Nat := 131064
def maxExpertOutcomesPerParent : Nat := 64

def expertFrameDigestDomain : List UInt8 := domain "INCI-EXPERT-JOURNAL-FRAME-V1"

/-- What the codec raises: its own error with a code, a `TypeError`, or `struct.error`. -/
inductive CodecFailure where
  | journal (code : String)
  | type (name : String)
  | packing
  deriving DecidableEq

def frameInvalid : CodecFailure := .journal "expert_journal_frame_invalid"
def areaInvalid : CodecFailure := .journal "expert_group_payload_area_invalid"

/-- The fields of a prefix that its decoder returns. -/
structure FramePrefix where
  kind : Nat
  frameSequence : Nat
  totalFrameBytes : Nat
  metadataBytes : Nat
  payloadAreaBytes : Nat
  deriving DecidableEq

/-- The bounds of the kind a prefix names. -/
def FramePrefix.validKindShape (p : FramePrefix) : Prop :=
  if p.kind = expertFrameKindManifest then
    p.frameSequence = 0 ∧ p.payloadAreaBytes = 0 ∧ p.metadataBytes ≤ maxExpertManifestMetadataBytes
  else if p.kind = expertFrameKindParentGroup then
    1 ≤ p.frameSequence ∧ p.metadataBytes ≤ maxExpertGroupMetadataBytes ∧
      p.payloadAreaBytes ≤ maxExpertGroupPayloadAreaBytes
  else
    1 ≤ p.frameSequence ∧ p.payloadAreaBytes = 0 ∧
      p.metadataBytes ≤ maxExpertTerminalMetadataBytes ∧
      p.totalFrameBytes ≤ maxExpertTerminalFrameBytes

instance (p : FramePrefix) : Decidable p.validKindShape := by
  unfold FramePrefix.validKindShape
  infer_instance

/-! ## Decoding a frame -/

def decodeExpertFramePrefix (content : List UInt8) : Except CodecFailure FramePrefix := do
  refuse (content.length ≠ expertFramePrefixBytes) frameInvalid
  match unpack expertFramePrefix content with
  | none => .error frameInvalid
  | some (magic, version, kind, flags, frameSequence, totalFrameBytes, metadataBytes,
      payloadAreaBytes, ()) => do
    refuse (magic ≠ expertFrameMagic ∨ version ≠ expertFrameVersion ∨ flags ≠ expertFrameFlags ∨
      kind ∉ [expertFrameKindManifest, expertFrameKindParentGroup, expertFrameKindTerminal] ∨
      totalFrameBytes ≠ expertFrameFixedBytes + metadataBytes + payloadAreaBytes ∨
      totalFrameBytes < expertFrameFixedBytes ∨ maxExpertFrameBytes < totalFrameBytes) frameInvalid
    let shape : FramePrefix :=
      ⟨kind, frameSequence, totalFrameBytes, metadataBytes, payloadAreaBytes⟩
    refuse (¬shape.validKindShape) frameInvalid
    pure shape

/-- The digest a trailer carries. -/
def expertFrameDigest (prefixBytes metadata payloadArea : List UInt8) : List UInt8 :=
  Sha256.digest (expertFrameDigestDomain ++ prefixBytes ++ metadata ++ payloadArea)

def validateExpertFrameParts (prefixBytes metadata payloadArea trailer : List UInt8) :
    Except CodecFailure String := do
  let shape ← decodeExpertFramePrefix prefixBytes
  refuse (metadata.length ≠ shape.metadataBytes ∨ payloadArea.length ≠ shape.payloadAreaBytes ∨
    trailer.length ≠ expertFrameTrailerBytes) frameInvalid
  match unpack expertFrameTrailer trailer with
  | none => .error frameInvalid
  | some (repeatedTotal, storedDigest, magic, ()) => do
    refuse (repeatedTotal ≠ shape.totalFrameBytes ∨ magic ≠ expertFrameTrailerMagic ∨
      storedDigest ≠ expertFrameDigest prefixBytes metadata payloadArea) frameInvalid
    pure (Sha256.hex storedDigest)

/-- What a complete frame decodes to. -/
structure DecodedFrame where
  kind : Nat
  frameSequence : Nat
  metadata : List UInt8
  payloadArea : List UInt8
  frameSha256 : String
  deriving DecidableEq

def decodeExpertCompleteFrame (frame : List UInt8) : Except CodecFailure DecodedFrame := do
  refuse (frame.length < expertFramePrefixBytes) frameInvalid
  let prefixBytes := slice frame 0 expertFramePrefixBytes
  let shape ← decodeExpertFramePrefix prefixBytes
  refuse (frame.length ≠ shape.totalFrameBytes) frameInvalid
  let metadataStart := expertFramePrefixBytes
  let payloadStart := metadataStart + shape.metadataBytes
  let trailerStart := payloadStart + shape.payloadAreaBytes
  let metadata := slice frame metadataStart payloadStart
  let payloadArea := slice frame payloadStart trailerStart
  let trailer := frame.drop trailerStart
  let frameSha256 ← validateExpertFrameParts prefixBytes metadata payloadArea trailer
  pure ⟨shape.kind, shape.frameSequence, metadata, payloadArea, frameSha256⟩

/-! ## Encoding a frame -/

/-- The arguments of the frame encoder.  Both numbers are Python integers. -/
structure FrameParts where
  kind : Int
  frameSequence : Int
  metadata : List UInt8
  payloadArea : List UInt8
  deriving DecidableEq

def FrameParts.totalFrameBytes (parts : FrameParts) : Nat :=
  expertFrameFixedBytes + parts.metadata.length + parts.payloadArea.length

/-- The packed prefix; `struct` refuses a negative number and one past its field. -/
def FrameParts.packPrefix (parts : FrameParts) : Option (List UInt8) := do
  let kind ← parts.kind.toNat?
  let frameSequence ← parts.frameSequence.toNat?
  pack expertFramePrefix
    (expertFrameMagic, expertFrameVersion, kind, expertFrameFlags, frameSequence,
      parts.totalFrameBytes, parts.metadata.length, parts.payloadArea.length, ())

def encodeExpertFrame (parts : FrameParts) : Except CodecFailure (List UInt8) :=
  match parts.packPrefix with
  | none => .error frameInvalid
  | some prefixBytes => do
    let _ ← decodeExpertFramePrefix prefixBytes
    let digest := expertFrameDigest prefixBytes parts.metadata parts.payloadArea
    match pack expertFrameTrailer
        (parts.totalFrameBytes, digest, expertFrameTrailerMagic, ()) with
    | none => .error .packing
    | some trailer => do
      let _ ← validateExpertFrameParts prefixBytes parts.metadata parts.payloadArea trailer
      pure (prefixBytes ++ parts.metadata ++ parts.payloadArea ++ trailer)

/-! ## The payload area of a group -/

def requirePayloadCount (value : Int) : Except CodecFailure Nat := do
  refuse (value < 1 ∨ (maxExpertOutcomesPerParent : Int) < value) (.type "expected_count")
  pure value.toNat

/-- The running total of the encoded payloads, each refused past its limit. -/
def payloadAreaTotal : Nat → List (List UInt8) → Except CodecFailure Nat
  | total, [] => pure total
  | total, payload :: rest => do
      refuse (maxExpertEventPayloadBytes < payload.length) areaInvalid
      let total := total + (8 + payload.length)
      refuse (maxExpertGroupPayloadAreaBytes < total) areaInvalid
      payloadAreaTotal total rest

/-- Every payload behind its length. -/
def payloadAreaBytes : List (List UInt8) → List UInt8
  | [] => []
  | payload :: rest => bigEndian 8 payload.length ++ (payload ++ payloadAreaBytes rest)

def encodeExpertGroupPayloadArea (payloads : List (List UInt8)) :
    Except CodecFailure (List UInt8) := do
  refuse (¬(1 ≤ payloads.length ∧ payloads.length ≤ maxExpertOutcomesPerParent)) areaInvalid
  let total ← payloadAreaTotal 0 payloads
  let encoded := payloadAreaBytes payloads
  refuse (encoded.length ≠ total) areaInvalid
  pure encoded

/-- The bounds of the next payloads from an offset, and the offset after them. -/
def payloadBounds (view : List UInt8) :
    Nat → Nat → Except CodecFailure (List (Nat × Nat) × Nat)
  | 0, offset => pure ([], offset)
  | n + 1, offset => do
      refuse (view.length - offset < 8) areaInvalid
      let payloadLength := Layout.bigEndianValue (slice view offset (offset + 8))
      let start := offset + 8
      refuse (maxExpertEventPayloadBytes < payloadLength) areaInvalid
      let stop := start + payloadLength
      refuse (view.length < stop) areaInvalid
      let (bounds, last) ← payloadBounds view n stop
      pure ((start, stop) :: bounds, last)

def decodeExpertGroupPayloadArea (payloadArea : List UInt8) (expectedCount : Int) :
    Except CodecFailure (List (List UInt8)) := do
  let count ← requirePayloadCount expectedCount
  refuse (maxExpertGroupPayloadAreaBytes < payloadArea.length) areaInvalid
  let (bounds, offset) ← payloadBounds payloadArea count 0
  refuse (offset ≠ payloadArea.length) areaInvalid
  pure (bounds.map fun bound => slice payloadArea bound.1 bound.2)

end Inci.Expert
