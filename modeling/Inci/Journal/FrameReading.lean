/-
# Journal.FrameReading -- what the reader finds at a frame's offset

At the start of a whole frame the reader finds the event the frame was encoded
from; at the end of the file it finds nothing; where the file ends inside a frame
it finds a torn tail, wherever the cut is.
-/
import Inci.Journal.Reader

namespace Inci.Journal

open Inci.Theory
open Inci.Theory.Layout (slice size unpack slice_mid)

set_option autoImplicit false

/-! ## Byte ranges of a file -/

theorem pread_length (file : Bytes) (offset length : Nat) :
    (pread file offset length).length = min length (file.length - offset) := by
  simp only [pread, slice, List.length_drop, List.length_take]
  omega

/-- The range of a part in the middle of a file. -/
theorem pread_part (lead rest : Bytes) {file part : Bytes} {offset length : Nat}
    (cut : file = lead ++ (part ++ rest)) (start : offset = lead.length)
    (whole : length = part.length) : pread file offset length = part := by
  subst cut
  exact slice_mid lead part rest start (by rw [whole])

theorem pread_end {file : Bytes} {offset : Nat} (length : Nat) (past : file.length ≤ offset) :
    pread file offset length = [] := by
  apply List.length_eq_zero_iff.mp
  rw [pread_length]
  omega

theorem header_whole (rest : Bytes) : readFileHeader (filePrefixBytes ++ rest) = .ok none := by
  have packed : Layout.pack filePrefix (fileMagic, fileVersion, fileFlags, size filePrefix, ()) =
      some filePrefixBytes := by decide
  have content : pread (filePrefixBytes ++ rest) 0 (size filePrefix) = filePrefixBytes :=
    pread_part [] _ rfl rfl (Layout.pack_length packed).symm
  rw [readFileHeader, content, if_neg (by rw [Layout.pack_length packed]; exact lt_irrefl _),
    Layout.unpack_pack packed]
  exact bind_eq_ok.mpr ⟨(), refuse_ok _ (by simp), rfl⟩

theorem header_torn {file : Bytes} (short : file.length < size filePrefix) :
    readFileHeader file = .ok (some .tornTail) := by
  have length := pread_length file 0 (size filePrefix)
  rw [readFileHeader, if_pos (by omega)]

/-! ## Frames -/

theorem readFrame_end {file : Bytes} {offset : Nat} (past : file.length ≤ offset) :
    readFrame file offset = .ok ⟨none, offset, offset, none⟩ := by
  rw [readFrame, pread_end _ past, if_pos rfl]

section Frames

variable {event : PersistedEvent} {prefixBytes metadata trailer : Bytes}

theorem framePrefix_ne_nil (framed : Framed event prefixBytes metadata trailer) :
    prefixBytes ≠ [] := by
  intro empty
  have length := framed.prefix_length
  rw [empty] at length
  exact absurd length (by decide)

theorem frameKind_known (kind : RecordKind) : frameKind kind ∈ [1, 2, 3] := by
  cases kind <;> decide

theorem framePrefix_accepted (framed : Framed event prefixBytes metadata trailer) :
    refuse (frameMagic ≠ frameMagic ∨ frameVersion ≠ frameVersion ∨ frameFlags ≠ frameFlags ∨
      frameKind event.recordKind ∉ [1, 2, 3] ∨
      frameFixedBytes + metadata.length + event.payload.length ≠
        frameFixedBytes + metadata.length + event.payload.length ∨
      maxFrameBytes < frameFixedBytes + metadata.length + event.payload.length)
      "journal_frame_prefix_invalid" = .ok () := by
  have bounded := framed.bounded
  have known := frameKind_known event.recordKind
  refine refuse_ok _ ?_
  rintro (other | other | other | other | other | other)
  · exact other rfl
  · exact other rfl
  · exact other rfl
  · exact other known
  · exact other rfl
  · omega

/-- The event of a whole frame. -/
theorem readFrame_whole (framed : Framed event prefixBytes metadata trailer) {file lead rest : Bytes}
    (cut : file = lead ++ (frameBytes event prefixBytes metadata trailer ++ rest)) {offset : Nat}
    (start : offset = lead.length) :
    readFrame file offset = .ok ⟨some event,
      offset + (frameBytes event prefixBytes metadata trailer).length,
      offset + (frameBytes event prefixBytes metadata trailer).length, none⟩ := by
  have p := framed.prefix_length
  have t := framed.trailer_length
  have d := frameDigest_length prefixBytes metadata event.payload
  have total := framed.length
  simp only [frameBytes, List.append_assoc] at cut
  have prefixCut : pread file offset (size framePrefix) = prefixBytes :=
    pread_part _ _ cut start p.symm
  have metadataCut : pread file (offset + size framePrefix) metadata.length = metadata :=
    pread_part (lead ++ prefixBytes) _ (by simp only [cut, List.append_assoc]; rfl)
      (by rw [List.length_append, start, p]) rfl
  have payloadCut : pread file (offset + size framePrefix + metadata.length)
      event.payload.length = event.payload :=
    pread_part (lead ++ prefixBytes ++ metadata) _
      (by simp only [cut, List.append_assoc]; rfl)
      (by simp only [List.length_append, start, p]) rfl
  have digestCut : pread file (offset + size framePrefix + metadata.length +
      event.payload.length) 32 = frameDigest prefixBytes metadata event.payload :=
    pread_part (lead ++ prefixBytes ++ metadata ++ event.payload) _
      (by simp only [cut, List.append_assoc]; rfl)
      (by simp only [List.length_append, start, p]) d.symm
  have trailerCut : pread file (offset + size framePrefix + metadata.length +
      event.payload.length + 32) (size frameTrailer) = trailer :=
    pread_part (lead ++ prefixBytes ++ metadata ++ event.payload ++
      frameDigest prefixBytes metadata event.payload) _
      (by simp only [cut, List.append_assoc]; rfl)
      (by simp only [List.length_append, start, p, d]) t.symm
  have finish : offset + size framePrefix + metadata.length + event.payload.length + 32 +
      size frameTrailer = offset + (frameBytes event prefixBytes metadata trailer).length := by
    rw [total, frameFixedBytes]
    omega
  rw [readFrame, prefixCut, if_neg (framePrefix_ne_nil framed), if_neg (by omega),
    framed.unpack_prefix]
  simp only [framePrefix_accepted framed, ok_bind, metadataCut, payloadCut, digestCut, trailerCut,
    d, t, lt_irrefl, if_false, framed.unpack_trailer, framed.decoded, finish]
  rw [if_neg (by simp), refuse_ok _ (by simp), ok_bind]
  rfl

/-- A frame the file ends in is a torn tail, and the reader saw the whole file. -/
theorem readFrame_torn (framed : Framed event prefixBytes metadata trailer) {file lead : Bytes}
    {kept : Nat} (cut : file = lead ++ (frameBytes event prefixBytes metadata trailer).take kept)
    (some : 0 < kept) (partly : kept < (frameBytes event prefixBytes metadata trailer).length)
    {offset : Nat} (start : offset = lead.length) :
    readFrame file offset = .ok (torn offset file.length) := by
  have p := framed.prefix_length
  have total := framed.length
  have fixed : frameFixedBytes = size framePrefix + 32 + size frameTrailer := rfl
  have sized : file.length = offset + kept := by
    rw [cut, List.length_append, List.length_take, start]
    omega
  have nonempty : pread file offset (size framePrefix) ≠ [] := by
    intro empty
    have length := pread_length file offset (size framePrefix)
    have positive : 0 < size framePrefix := by decide
    rw [empty, List.length_nil] at length
    omega
  rw [readFrame, if_neg nonempty]
  by_cases early : kept < size framePrefix
  · have length : (pread file offset (size framePrefix)).length = kept := by
      rw [pread_length]
      omega
    rw [if_pos (by omega), length, sized]
  · have prefixCut : pread file offset (size framePrefix) = prefixBytes := by
      refine pread_part _ ((metadata ++ (event.payload ++
        (frameDigest prefixBytes metadata event.payload ++ trailer))).take
          (kept - size framePrefix)) ?_ start p.symm
      rw [cut, frameBytes, List.take_append, List.take_of_length_le (by omega), p]
    rw [prefixCut, if_neg (by omega), framed.unpack_prefix]
    simp only [framePrefix_accepted framed, ok_bind, pread_length]
    by_cases inMetadata : kept < size framePrefix + metadata.length
    · rw [if_pos (by omega)]
      exact congrArg (fun seen => Except.ok (torn offset seen)) (by omega)
    · rw [if_neg (by omega)]
      by_cases inPayload : kept < size framePrefix + metadata.length + event.payload.length
      · rw [if_pos (by omega)]
        exact congrArg (fun seen => Except.ok (torn offset seen)) (by omega)
      · rw [if_neg (by omega)]
        by_cases inDigest :
            kept < size framePrefix + metadata.length + event.payload.length + 32
        · rw [if_pos (by omega)]
          exact congrArg (fun seen => Except.ok (torn offset seen)) (by omega)
        · rw [if_neg (by omega), if_pos (by omega)]
          exact congrArg (fun seen => Except.ok (torn offset seen)) (by omega)

end Frames

/-- A frame that was read moves the loop on. -/
theorem readFrame_advances {file : Bytes} {offset : Nat} {frame : FrameRead}
    {event : PersistedEvent} (read : readFrame file offset = .ok frame)
    (found : frame.event = some event) :
    offset < frame.endOffset ∧ frame.endOffset ≤ file.length := by
  unfold readFrame at read
  simp only at read
  split at read
  · obtain rfl := Except.ok.inj read
    exact nomatch found
  · split at read
    · obtain rfl := Except.ok.inj read
      exact nomatch found
    · split at read
      · exact nomatch read
      · obtain ⟨_, -, read⟩ := bind_eq_ok.mp read
        have tornEvent : ∀ a b, (torn a b).event = none := fun _ _ => rfl
        split at read
        · rw [pure_eq_ok] at read
          exact nomatch (read ▸ found)
        · split at read
          · rw [pure_eq_ok] at read
            exact nomatch (read ▸ found)
          · split at read
            · rw [pure_eq_ok] at read
              exact nomatch (read ▸ found)
            · split at read
              · rw [pure_eq_ok] at read
                exact nomatch (read ▸ found)
              · next trailerRead =>
                  rw [pread_length] at trailerRead
                  split at read
                  · exact nomatch read
                  · split at read
                    · obtain ⟨_, -, read⟩ := bind_eq_ok.mp read
                      rw [pure_eq_ok] at read
                      exact nomatch (read ▸ found)
                    · split at read
                      · exact nomatch read
                      · obtain ⟨_, -, read⟩ := bind_eq_ok.mp read
                        rw [pure_eq_ok] at read
                        subst read
                        have positive : 0 < size frameTrailer := by decide
                        simp only
                        omega

end Inci.Journal
