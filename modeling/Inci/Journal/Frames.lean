/-
# Journal.Frames -- the write-ahead journal's frame

A frame is a fixed prefix, the metadata, the payload, a digest of these three and
a trailer that repeats the length.  `encodeFrame` refuses an event that its own
codec does not read back, so a frame that was written can be read.  `Framed`
names the parts of a frame; the reader and the write capability cut the same
parts out again.
-/
import Inci.Journal.Codec
import Inci.Theory.Checks

namespace Inci.Journal

open Inci.Theory
open Inci.Theory.Json (Text text)
open Inci.Theory.Layout (Item pack unpack size)

set_option autoImplicit false

/-! ## Layouts and limits -/

/-- `FILE_PREFIX`, `>8sHHI` -/
abbrev filePrefix : List Item := [.raw 8, .unsigned 2, .unsigned 2, .unsigned 4]

def fileMagic : Bytes := Utf8.ascii (text "INCIWAL") ++ [0]
def fileVersion : Nat := 1
def fileFlags : Nat := 0

/-- `FRAME_PREFIX`, `>4sBBHQQII` -/
abbrev framePrefix : List Item :=
  [.raw 4, .unsigned 1, .unsigned 1, .unsigned 2, .unsigned 8, .unsigned 8, .unsigned 4,
    .unsigned 4]

def frameMagic : Bytes := Utf8.ascii (text "EVT1")
def frameVersion : Nat := 1
def frameFlags : Nat := 0

/-- `FRAME_KIND` -/
def frameKind : RecordKind → Nat
  | .raw => 1
  | .derived => 2
  | .control => 3

/-- `FRAME_TRAILER`, `>Q4s` -/
abbrev frameTrailer : List Item := [.unsigned 8, .raw 4]

def trailerMagic : Bytes := Utf8.ascii (text "1TVE")
def frameDigestDomain : Bytes := Utf8.ascii (text "INCI-FRAME-V1") ++ [0]
def maxFrameBytes : Nat := 16777216

/-- `_FRAME_FIXED_BYTES` -/
def frameFixedBytes : Nat := size framePrefix + 32 + size frameTrailer

/-- The bytes every journal file starts with. -/
def filePrefixBytes : Bytes :=
  (pack filePrefix (fileMagic, fileVersion, fileFlags, size filePrefix, ())).getD []

/-- The digest a frame carries. -/
def frameDigest (prefixBytes metadata payload : Bytes) : Bytes :=
  Sha256.digest (frameDigestDomain ++ prefixBytes ++ metadata ++ payload)

/-! ## Encoding -/

/-- `_encode_frame` -/
def encodeFrame (event : PersistedEvent) : Except String Bytes :=
  match encodeRecord event with
  | none => .error "journal_candidate_invalid"
  | some (metadata, payload) => do
    refuse (decodeRecord metadata payload ≠ some event) "journal_candidate_invalid"
    let total := frameFixedBytes + metadata.length + payload.length
    refuse (maxFrameBytes < total) "journal_frame_too_large"
    match pack framePrefix (frameMagic, frameVersion, frameKind event.recordKind, frameFlags,
        event.ingestSeq, total, metadata.length, payload.length, ()),
      pack frameTrailer (total, trailerMagic, ()) with
    | some prefixBytes, some trailer => do
      let frame := prefixBytes ++ (metadata ++ (payload ++
        (frameDigest prefixBytes metadata payload ++ trailer)))
      refuse (frame.length ≠ total) "journal_frame_length_invalid"
      pure frame
    | _, _ => .error "journal_candidate_invalid"

/-- The frame of an event, by its parts. -/
structure Framed (event : PersistedEvent) (prefixBytes metadata trailer : Bytes) : Prop where
  encoded : encodeRecord event = some (metadata, event.payload)
  decoded : decodeRecord metadata event.payload = some event
  bounded : frameFixedBytes + metadata.length + event.payload.length ≤ maxFrameBytes
  prefixed : pack framePrefix (frameMagic, frameVersion, frameKind event.recordKind, frameFlags,
    event.ingestSeq, frameFixedBytes + metadata.length + event.payload.length, metadata.length,
    event.payload.length, ()) = some prefixBytes
  trailed : pack frameTrailer (frameFixedBytes + metadata.length + event.payload.length,
    trailerMagic, ()) = some trailer

/-- The bytes of a frame in order. -/
def frameBytes (event : PersistedEvent) (prefixBytes metadata trailer : Bytes) : Bytes :=
  prefixBytes ++ (metadata ++ (event.payload ++
    (frameDigest prefixBytes metadata event.payload ++ trailer)))

theorem encodeRecord_payload {event : PersistedEvent} {metadata payload : Bytes}
    (encoded : encodeRecord event = some (metadata, payload)) : payload = event.payload := by
  unfold encodeRecord at encoded
  by_cases mismatch : event.payloadSha256 ≠ hexdigest event.payload
  · rw [if_pos mismatch] at encoded
    exact nomatch encoded
  · rw [if_neg mismatch] at encoded
    obtain ⟨found, -, pair⟩ := Option.map_eq_some_iff.mp encoded
    exact (congrArg Prod.snd pair).symm

theorem encodeFrame_ok {event : PersistedEvent} {frame : Bytes}
    (encoded : encodeFrame event = .ok frame) :
    ∃ prefixBytes metadata trailer, Framed event prefixBytes metadata trailer ∧
      frame = frameBytes event prefixBytes metadata trailer := by
  unfold encodeFrame at encoded
  cases record : encodeRecord event with
  | none =>
      rw [record] at encoded
      exact nomatch encoded
  | some pair =>
      obtain ⟨metadata, payload⟩ := pair
      obtain rfl := encodeRecord_payload record
      rw [record] at encoded
      obtain ⟨_, decoded, encoded⟩ := bind_eq_ok.mp encoded
      obtain ⟨_, bounded, encoded⟩ := bind_eq_ok.mp encoded
      rw [refuse_eq_ok, not_not] at decoded
      rw [refuse_eq_ok, not_lt] at bounded
      split at encoded
      · next prefixBytes trailer prefixed trailed =>
          obtain ⟨_, -, encoded⟩ := bind_eq_ok.mp encoded
          rw [pure_eq_ok] at encoded
          exact ⟨prefixBytes, metadata, trailer, ⟨record, decoded, bounded, prefixed, trailed⟩,
            encoded.symm⟩
      · exact nomatch encoded

section Parts

variable {event : PersistedEvent} {prefixBytes metadata trailer : Bytes}

theorem Framed.prefix_length (framed : Framed event prefixBytes metadata trailer) :
    prefixBytes.length = size framePrefix := Layout.pack_length framed.prefixed

theorem Framed.trailer_length (framed : Framed event prefixBytes metadata trailer) :
    trailer.length = size frameTrailer := Layout.pack_length framed.trailed

theorem frameDigest_length (a b c : Bytes) : (frameDigest a b c).length = 32 :=
  Sha256.digest_length _

theorem Framed.length (framed : Framed event prefixBytes metadata trailer) :
    (frameBytes event prefixBytes metadata trailer).length =
      frameFixedBytes + metadata.length + event.payload.length := by
  simp only [frameBytes, List.length_append, framed.prefix_length, framed.trailer_length,
    frameDigest_length, frameFixedBytes]
  omega

theorem Framed.unpack_prefix (framed : Framed event prefixBytes metadata trailer) :
    unpack framePrefix prefixBytes = some (frameMagic, frameVersion, frameKind event.recordKind,
      frameFlags, event.ingestSeq, frameFixedBytes + metadata.length + event.payload.length,
      metadata.length, event.payload.length, ()) := Layout.unpack_pack framed.prefixed

theorem Framed.unpack_trailer (framed : Framed event prefixBytes metadata trailer) :
    unpack frameTrailer trailer = some (frameFixedBytes + metadata.length + event.payload.length,
      trailerMagic, ()) := Layout.unpack_pack framed.trailed

end Parts

end Inci.Journal
