/-
# Expert.FrameRoundTrip -- one byte string for each frame

`decodePrefix_iff`, `validateParts_iff` and `decodeFrame_iff` describe the
decoder by what it accepts: the packed record of a legal prefix, the trailer of
those parts, and their concatenation.  The encoder writes the same strings
(`encodeFrame_iff`), so the two are inverse to each other on the parts within
the limits.
-/
import Inci.Expert.Frames

namespace Inci.Expert

open Inci.Theory
open Inci.Theory.Layout (Item Row slice size pack unpack pack_unpack unpack_pack pack_length)
open Inci.Theory.Sha256 (bigEndian)

set_option autoImplicit false

/-! ## Prefixes -/

def FramePrefix.row (p : FramePrefix) : Row expertFramePrefix :=
  (expertFrameMagic, expertFrameVersion, p.kind, expertFrameFlags, p.frameSequence,
    p.totalFrameBytes, p.metadataBytes, p.payloadAreaBytes, ())

/-- What the decoder asks of a prefix: a known kind, consistent lengths, the kind's bounds. -/
structure FramePrefix.Legal (p : FramePrefix) : Prop where
  kind : p.kind ∈ [expertFrameKindManifest, expertFrameKindParentGroup, expertFrameKindTerminal]
  total : p.totalFrameBytes = expertFrameFixedBytes + p.metadataBytes + p.payloadAreaBytes
  bounded : p.totalFrameBytes ≤ maxExpertFrameBytes
  shape : p.validKindShape

theorem decodePrefix_iff {content : List UInt8} {p : FramePrefix} :
    decodeExpertFramePrefix content = .ok p ↔
      pack expertFramePrefix p.row = some content ∧ p.Legal := by
  constructor
  · intro decoded
    obtain ⟨_, -, rest⟩ := bind_eq_ok.mp decoded
    cases unpacked : unpack expertFramePrefix content with
    | none => simp [unpacked] at rest
    | some row =>
        obtain ⟨magic, version, kind, flags, sequence, total, metadata, area, ⟨⟩⟩ := row
        simp only [unpacked, bind_eq_ok, refuse_eq_ok, not_or, not_not, exists_unit,
          pure_eq_ok] at rest
        obtain ⟨⟨rfl, rfl, rfl, known, sum, -, bounded⟩, shape, rfl⟩ := rest
        exact ⟨pack_unpack unpacked, known, sum, not_lt.mp bounded, shape⟩
  · rintro ⟨packed, legal⟩
    have length : content.length = expertFramePrefixBytes := pack_length packed
    unfold decodeExpertFramePrefix
    rw [refuse_ok _ (not_not.mpr length), ok_bind, unpack_pack packed]
    have sum := legal.total
    have enough : expertFrameFixedBytes ≤ p.totalFrameBytes := by omega
    show (refuse _ _ >>= _) = _
    rw [refuse_ok _ (by
      simp only [not_or, not_not, not_lt]
      exact ⟨trivial, trivial, trivial, legal.kind, sum, enough, legal.bounded⟩), ok_bind]
    show (refuse _ _ >>= _) = _
    rw [refuse_ok _ (not_not.mpr legal.shape)]
    rfl

theorem decodePrefix_length {content : List UInt8} {p : FramePrefix}
    (decoded : decodeExpertFramePrefix content = .ok p) : content.length = 32 :=
  pack_length (decodePrefix_iff.mp decoded).1

/-! ## Trailers -/

theorem validateParts_iff {prefixBytes metadata area trailer : List UInt8} {sha : String} :
    validateExpertFrameParts prefixBytes metadata area trailer = .ok sha ↔
      ∃ p, decodeExpertFramePrefix prefixBytes = .ok p ∧ metadata.length = p.metadataBytes ∧
        area.length = p.payloadAreaBytes ∧
        pack expertFrameTrailer (p.totalFrameBytes, expertFrameDigest prefixBytes metadata area,
          expertFrameTrailerMagic, ()) = some trailer ∧
        sha = Sha256.hex (expertFrameDigest prefixBytes metadata area) := by
  constructor
  · intro valid
    obtain ⟨p, decoded, rest⟩ := bind_eq_ok.mp valid
    obtain ⟨_, lengths, rest⟩ := bind_eq_ok.mp rest
    simp only [refuse_eq_ok, not_or, not_not] at lengths
    cases unpacked : unpack expertFrameTrailer trailer with
    | none => simp [unpacked] at rest
    | some row =>
        obtain ⟨total, digest, magic, ⟨⟩⟩ := row
        simp only [unpacked, bind_eq_ok, refuse_eq_ok, not_or, not_not, exists_unit,
          pure_eq_ok] at rest
        obtain ⟨⟨rfl, rfl, rfl⟩, rfl⟩ := rest
        exact ⟨p, decoded, lengths.1, lengths.2.1, pack_unpack unpacked, rfl⟩
  · rintro ⟨p, decoded, metadataLength, areaLength, packed, rfl⟩
    have length : trailer.length = expertFrameTrailerBytes := pack_length packed
    unfold validateExpertFrameParts
    rw [decoded, ok_bind, refuse_ok _ (by simp [metadataLength, areaLength, length]), ok_bind,
      unpack_pack packed]
    show (refuse _ _ >>= _) = _
    rw [refuse_ok _ (by simp)]
    rfl

/-! ## Frames -/

/-- The parts of a decoded frame, as the encoder takes them. -/
def DecodedFrame.parts (d : DecodedFrame) : FrameParts :=
  ⟨d.kind, d.frameSequence, d.metadata, d.payloadArea⟩

/-- The prefix of the parts under a kind and a sequence number. -/
def FrameParts.framePrefix (parts : FrameParts) (kind sequence : Nat) : FramePrefix :=
  ⟨kind, sequence, parts.totalFrameBytes, parts.metadata.length, parts.payloadArea.length⟩

theorem packPrefix_iff {parts : FrameParts} {prefixBytes : List UInt8} :
    parts.packPrefix = some prefixBytes ↔ ∃ kind sequence : Nat, parts.kind = kind ∧
      parts.frameSequence = sequence ∧
      pack expertFramePrefix (parts.framePrefix kind sequence).row = some prefixBytes := by
  unfold FrameParts.packPrefix
  simp only [Option.bind_eq_bind, Option.bind_eq_some_iff, Int.mem_toNat?]
  constructor
  · rintro ⟨kind, isKind, sequence, isSequence, packed⟩
    exact ⟨kind, sequence, isKind, isSequence, packed⟩
  · rintro ⟨kind, sequence, isKind, isSequence, packed⟩
    exact ⟨kind, isKind, sequence, isSequence, packed⟩

theorem encodeFrame_iff {parts : FrameParts} {frame : List UInt8} :
    encodeExpertFrame parts = .ok frame ↔ ∃ (kind sequence : Nat) (prefixBytes trailer : List UInt8),
      parts.kind = kind ∧ parts.frameSequence = sequence ∧
      decodeExpertFramePrefix prefixBytes = .ok (parts.framePrefix kind sequence) ∧
      pack expertFrameTrailer (parts.totalFrameBytes,
        expertFrameDigest prefixBytes parts.metadata parts.payloadArea,
        expertFrameTrailerMagic, ()) = some trailer ∧
      frame = prefixBytes ++ parts.metadata ++ parts.payloadArea ++ trailer := by
  unfold encodeExpertFrame
  constructor
  · intro encoded
    cases packed : parts.packPrefix with
    | none => simp [packed] at encoded
    | some prefixBytes =>
        obtain ⟨kind, sequence, isKind, isSequence, row⟩ := packPrefix_iff.mp packed
        simp only [packed] at encoded
        obtain ⟨p, decoded, rest⟩ := bind_eq_ok.mp encoded
        have same : p = parts.framePrefix kind sequence := by
          have unpacked := (unpack_pack (decodePrefix_iff.mp decoded).1).symm.trans (unpack_pack row)
          simp only [FramePrefix.row, Option.some.injEq, Prod.mk.injEq, true_and, and_true] at unpacked
          obtain ⟨k, s, t, m, a⟩ := unpacked
          cases p
          simp_all
        subst same
        cases trailed : pack expertFrameTrailer (parts.totalFrameBytes,
            expertFrameDigest prefixBytes parts.metadata parts.payloadArea,
            expertFrameTrailerMagic, ()) with
        | none => simp [trailed] at rest
        | some trailer =>
            simp only [trailed, bind_eq_ok, pure_eq_ok] at rest
            obtain ⟨_, -, rfl⟩ := rest
            exact ⟨kind, sequence, prefixBytes, trailer, isKind, isSequence, decoded, trailed, rfl⟩
  · rintro ⟨kind, sequence, prefixBytes, trailer, isKind, isSequence, decoded, trailed, rfl⟩
    have packed : parts.packPrefix = some prefixBytes :=
      packPrefix_iff.mpr ⟨kind, sequence, isKind, isSequence, (decodePrefix_iff.mp decoded).1⟩
    have valid := validateParts_iff.mpr ⟨_, decoded, rfl, rfl, trailed, rfl⟩
    simp [packed, decoded, trailed, valid]

/-- A frame is its prefix, its parts and its trailer, cut where the prefix says. -/
theorem decodeFrame_iff {frame : List UInt8} {d : DecodedFrame} :
    decodeExpertCompleteFrame frame = .ok d ↔ ∃ prefixBytes trailer,
      decodeExpertFramePrefix prefixBytes = .ok (d.parts.framePrefix d.kind d.frameSequence) ∧
      pack expertFrameTrailer (d.parts.totalFrameBytes,
        expertFrameDigest prefixBytes d.metadata d.payloadArea,
        expertFrameTrailerMagic, ()) = some trailer ∧
      frame = prefixBytes ++ d.metadata ++ d.payloadArea ++ trailer ∧
      d.frameSha256 = Sha256.hex (expertFrameDigest prefixBytes d.metadata d.payloadArea) := by
  constructor
  · intro decoded
    obtain ⟨_, -, rest⟩ := bind_eq_ok.mp decoded
    obtain ⟨p, shaped, rest⟩ := bind_eq_ok.mp rest
    obtain ⟨_, -, rest⟩ := bind_eq_ok.mp rest
    obtain ⟨sha, valid, rest⟩ := bind_eq_ok.mp rest
    have parts := Layout.slice_parts frame
      (Nat.le_add_right expertFramePrefixBytes p.metadataBytes)
      (Nat.le_add_right (expertFramePrefixBytes + p.metadataBytes) p.payloadAreaBytes)
    rw [pure_eq_ok] at rest
    subst rest
    revert valid shaped parts
    -- the cuts are named, so that the lengths below speak of the parts and not of the frame
    generalize slice frame 0 expertFramePrefixBytes = prefixBytes
    generalize slice frame expertFramePrefixBytes (expertFramePrefixBytes + p.metadataBytes) =
      metadata
    generalize slice frame (expertFramePrefixBytes + p.metadataBytes)
      (expertFramePrefixBytes + p.metadataBytes + p.payloadAreaBytes) = area
    generalize frame.drop (expertFramePrefixBytes + p.metadataBytes + p.payloadAreaBytes) = trailer
    intro shaped valid parts
    obtain ⟨q, again, metadataLength, areaLength, trailed, digest⟩ := validateParts_iff.mp valid
    obtain rfl : p = q := by rw [shaped] at again; exact Except.ok.inj again
    have total := (decodePrefix_iff.mp shaped).2.total
    have same : (DecodedFrame.parts ⟨p.kind, p.frameSequence, metadata, area, sha⟩).framePrefix
        p.kind p.frameSequence = p := by
      cases p
      simp_all [DecodedFrame.parts, FrameParts.framePrefix, FrameParts.totalFrameBytes]
    exact ⟨prefixBytes, trailer, same ▸ shaped, same ▸ trailed, parts.symm, digest⟩
  · rintro ⟨prefixBytes, trailer, shaped, trailed, rfl, digest⟩
    have prefixLength : prefixBytes.length = expertFramePrefixBytes := decodePrefix_length shaped
    have trailerLength : trailer.length = expertFrameTrailerBytes := pack_length trailed
    have valid := validateParts_iff.mpr ⟨_, shaped, rfl, rfl, trailed, rfl⟩
    obtain ⟨kind, sequence, metadata, area, sha⟩ := d
    have whole : (prefixBytes ++ metadata ++ area ++ trailer).length =
        expertFrameFixedBytes + metadata.length + area.length := by
      simp only [List.length_append, prefixLength, trailerLength, expertFrameFixedBytes]
      omega
    have head : slice (prefixBytes ++ metadata ++ area ++ trailer) 0 expertFramePrefixBytes =
        prefixBytes := by
      rw [List.append_assoc, List.append_assoc]
      exact Layout.slice_mid [] _ _ rfl (by simp [prefixLength])
    have middle : slice (prefixBytes ++ metadata ++ area ++ trailer) expertFramePrefixBytes
        (expertFramePrefixBytes + metadata.length) = metadata := by
      rw [List.append_assoc, List.append_assoc]
      exact Layout.slice_mid _ _ _ prefixLength.symm rfl
    have payload : slice (prefixBytes ++ metadata ++ area ++ trailer)
        (expertFramePrefixBytes + metadata.length)
        (expertFramePrefixBytes + metadata.length + area.length) = area := by
      rw [List.append_assoc (prefixBytes ++ metadata)]
      exact Layout.slice_mid _ _ _ (by simp [prefixLength]) rfl
    have tail : (prefixBytes ++ metadata ++ area ++ trailer).drop
        (expertFramePrefixBytes + metadata.length + area.length) = trailer := by
      apply List.drop_left'
      simp [prefixLength, Nat.add_assoc]
    have long : ¬(prefixBytes ++ metadata ++ area ++ trailer).length < expertFramePrefixBytes := by
      rw [whole, expertFrameFixedBytes]
      omega
    dsimp only [DecodedFrame.parts, FrameParts.framePrefix, FrameParts.totalFrameBytes]
      at shaped valid digest
    unfold decodeExpertCompleteFrame
    rw [refuse_ok _ long, ok_bind]
    dsimp only
    rw [head, shaped, ok_bind]
    dsimp only
    rw [refuse_ok _ (not_not.mpr whole), ok_bind, middle, payload, tail, valid, digest]
    rfl

/-! ## Limits -/

/-- The parts the format has room for: the bounds of each kind, and a sequence
number that fits its field. -/
def FrameParts.WithinLimits (parts : FrameParts) : Prop :=
  (parts.kind = 1 ∧ parts.frameSequence = 0 ∧ parts.payloadArea = [] ∧
    parts.metadata.length ≤ maxExpertManifestMetadataBytes) ∨
  (parts.kind = 2 ∧ 1 ≤ parts.frameSequence ∧ parts.frameSequence < 2 ^ 64 ∧
    parts.metadata.length ≤ maxExpertGroupMetadataBytes ∧
    parts.payloadArea.length ≤ maxExpertGroupPayloadAreaBytes) ∨
  (parts.kind = 3 ∧ 1 ≤ parts.frameSequence ∧ parts.frameSequence < 2 ^ 64 ∧
    parts.payloadArea = [] ∧ parts.metadata.length ≤ maxExpertTerminalMetadataBytes)

instance (parts : FrameParts) : Decidable parts.WithinLimits := by
  unfold FrameParts.WithinLimits
  infer_instance

section Shapes

variable (parts : FrameParts) (sequence : Nat)

theorem manifest_shape : (parts.framePrefix 1 sequence).validKindShape ↔
    sequence = 0 ∧ parts.payloadArea = [] ∧
      parts.metadata.length ≤ maxExpertManifestMetadataBytes := by
  simp [FramePrefix.validKindShape, FrameParts.framePrefix, expertFrameKindManifest]

theorem parentGroup_shape : (parts.framePrefix 2 sequence).validKindShape ↔
    1 ≤ sequence ∧ parts.metadata.length ≤ maxExpertGroupMetadataBytes ∧
      parts.payloadArea.length ≤ maxExpertGroupPayloadAreaBytes := by
  simp [FramePrefix.validKindShape, FrameParts.framePrefix, expertFrameKindManifest,
    expertFrameKindParentGroup]

theorem terminal_shape : (parts.framePrefix 3 sequence).validKindShape ↔
    1 ≤ sequence ∧ parts.payloadArea = [] ∧
      parts.metadata.length ≤ maxExpertTerminalMetadataBytes ∧
      parts.totalFrameBytes ≤ maxExpertTerminalFrameBytes := by
  simp [FramePrefix.validKindShape, FrameParts.framePrefix, expertFrameKindManifest,
    expertFrameKindParentGroup]

/-- Of the conditions on a prefix, its parts decide all but the length bound and the shape. -/
theorem framePrefix_legal {kind : Nat} (known : kind ∈ [1, 2, 3])
    (bounded : parts.totalFrameBytes ≤ maxExpertFrameBytes)
    (shape : (parts.framePrefix kind sequence).validKindShape) :
    (parts.framePrefix kind sequence).Legal :=
  ⟨known, rfl, bounded, shape⟩

end Shapes

/-- The parts are within the limits when their prefix is legal and its number fits. -/
theorem withinLimits_iff (parts : FrameParts) :
    parts.WithinLimits ↔ ∃ kind sequence : Nat, parts.kind = kind ∧
      parts.frameSequence = sequence ∧ sequence < 256 ^ 8 ∧
      (parts.framePrefix kind sequence).Legal := by
  have total : parts.totalFrameBytes = 76 + parts.metadata.length + parts.payloadArea.length := rfl
  constructor
  · rintro (⟨kind, sequence, area, metadata⟩ | ⟨kind, positive, small, metadata, area⟩ |
      ⟨kind, positive, small, area, metadata⟩)
    · refine ⟨1, 0, kind, sequence, by norm_num, framePrefix_legal _ _ (by decide) ?_
        ((manifest_shape parts 0).mpr ⟨rfl, area, metadata⟩)⟩
      simp only [maxExpertManifestMetadataBytes] at metadata
      rw [total, area, List.length_nil, maxExpertFrameBytes]
      omega
    · refine ⟨2, parts.frameSequence.toNat, kind, by omega, by omega,
        framePrefix_legal _ _ (by decide) ?_ ((parentGroup_shape parts _).mpr
          ⟨by omega, metadata, area⟩)⟩
      simp only [maxExpertGroupMetadataBytes] at metadata
      simp only [maxExpertGroupPayloadAreaBytes] at area
      rw [total, maxExpertFrameBytes]
      omega
    · have bounded : parts.totalFrameBytes ≤ maxExpertTerminalFrameBytes := by
        simp only [maxExpertTerminalMetadataBytes] at metadata
        rw [total, area, List.length_nil, maxExpertTerminalFrameBytes]
        omega
      refine ⟨3, parts.frameSequence.toNat, kind, by omega, by omega,
        framePrefix_legal _ _ (by decide) (bounded.trans (by decide)) ((terminal_shape parts _).mpr
          ⟨by omega, area, metadata, bounded⟩)⟩
  · rintro ⟨kind, sequence, isKind, isSequence, small, legal⟩
    have known : kind = 1 ∨ kind = 2 ∨ kind = 3 := by simpa [FrameParts.framePrefix,
      expertFrameKindManifest, expertFrameKindParentGroup, expertFrameKindTerminal]
      using legal.kind
    rcases known with rfl | rfl | rfl
    · obtain ⟨rfl, area, metadata⟩ := (manifest_shape parts sequence).mp legal.shape
      exact Or.inl ⟨isKind, isSequence, area, metadata⟩
    · obtain ⟨positive, metadata, area⟩ := (parentGroup_shape parts sequence).mp legal.shape
      exact Or.inr (Or.inl ⟨isKind, by omega, by omega, metadata, area⟩)
    · obtain ⟨positive, area, metadata, -⟩ := (terminal_shape parts sequence).mp legal.shape
      exact Or.inr (Or.inr ⟨isKind, by omega, by omega, area, metadata⟩)

/-- The encoder accepts exactly the parts within the limits. -/
theorem encodeFrame_total (parts : FrameParts) :
    (∃ frame, encodeExpertFrame parts = .ok frame) ↔ parts.WithinLimits := by
  rw [withinLimits_iff]
  constructor
  · rintro ⟨frame, encoded⟩
    obtain ⟨kind, sequence, prefixBytes, -, isKind, isSequence, decoded, -⟩ :=
      encodeFrame_iff.mp encoded
    obtain ⟨packed, legal⟩ := decodePrefix_iff.mp decoded
    have fits := Layout.pack_isSome.mp ⟨prefixBytes, packed⟩
    exact ⟨kind, sequence, isKind, isSequence, fits.2.2.2.2.1, legal⟩
  · rintro ⟨kind, sequence, isKind, isSequence, small, legal⟩
    have total := legal.total
    have bounded := legal.bounded
    have known := legal.kind
    simp only [FrameParts.framePrefix, maxExpertFrameBytes, List.mem_cons, List.not_mem_nil,
      or_false, expertFrameKindManifest, expertFrameKindParentGroup, expertFrameKindTerminal]
      at total bounded known
    have fits : Layout.Fits expertFramePrefix (parts.framePrefix kind sequence).row := by
      refine ⟨rfl, by decide, ?_, by decide, small, ?_, ?_, ?_, trivial⟩
      · show kind < 256 ^ 1
        omega
      · show parts.totalFrameBytes < 256 ^ 8
        omega
      · show parts.metadata.length < 256 ^ 4
        omega
      · show parts.payloadArea.length < 256 ^ 4
        omega
    obtain ⟨prefixBytes, packed⟩ := Layout.pack_isSome.mpr fits
    have trailing : Layout.Fits expertFrameTrailer (parts.totalFrameBytes,
        expertFrameDigest prefixBytes parts.metadata parts.payloadArea,
        expertFrameTrailerMagic, ()) := by
      refine ⟨?_, Sha256.digest_length _, rfl, trivial⟩
      show parts.totalFrameBytes < 256 ^ 8
      omega
    obtain ⟨trailer, trailed⟩ := Layout.pack_isSome.mpr trailing
    exact ⟨_, encodeFrame_iff.mpr ⟨kind, sequence, prefixBytes, trailer, isKind, isSequence,
      decodePrefix_iff.mpr ⟨packed, legal⟩, trailed, rfl⟩⟩

/-! ## Payload areas -/

/-- The payloads a group's area has room for. -/
def PayloadsWithinLimits (payloads : List (List UInt8)) : Prop :=
  1 ≤ payloads.length ∧ payloads.length ≤ maxExpertOutcomesPerParent ∧
    ∀ payload ∈ payloads, payload.length ≤ maxExpertEventPayloadBytes

/-- The full count of full payloads just fills an area. -/
theorem payloadAreaBytes_length {payloads : List (List UInt8)}
    (short : ∀ payload ∈ payloads, payload.length ≤ maxExpertEventPayloadBytes) :
    (payloadAreaBytes payloads).length ≤ 131072 * payloads.length := by
  induction payloads with
  | nil => simp [payloadAreaBytes]
  | cons payload rest ih =>
      have first := short payload (by simp)
      have later := ih fun p member => short p (by simp [member])
      simp only [maxExpertEventPayloadBytes] at first
      simp only [payloadAreaBytes, List.length_append, Layout.bigEndian_length, List.length_cons]
      omega

theorem payloadAreaTotal_iff {payloads : List (List UInt8)} {total sum : Nat}
    (room : total ≤ maxExpertGroupPayloadAreaBytes) :
    payloadAreaTotal total payloads = .ok sum ↔
      (∀ payload ∈ payloads, payload.length ≤ maxExpertEventPayloadBytes) ∧
      sum = total + (payloadAreaBytes payloads).length ∧ sum ≤ maxExpertGroupPayloadAreaBytes := by
  induction payloads generalizing total with
  | nil =>
      simp only [payloadAreaTotal, pure_eq_ok, payloadAreaBytes, List.length_nil, Nat.add_zero,
        List.not_mem_nil, false_implies, implies_true, true_and]
      constructor
      · rintro rfl
        exact ⟨rfl, room⟩
      · rintro ⟨rfl, -⟩
        rfl
  | cons payload rest ih =>
      have length : (payloadAreaBytes (payload :: rest)).length =
          8 + payload.length + (payloadAreaBytes rest).length := by
        simp [payloadAreaBytes, Nat.add_assoc]
      simp only [payloadAreaTotal, bind_eq_ok, refuse_eq_ok, not_lt, exists_unit,
        List.mem_cons, forall_eq_or_imp, length]
      constructor
      · rintro ⟨short, within, rest⟩
        obtain ⟨others, rfl, bounded⟩ := (ih within).mp rest
        exact ⟨⟨short, others⟩, by omega, bounded⟩
      · rintro ⟨⟨short, others⟩, rfl, bounded⟩
        have within : total + (8 + payload.length) ≤ maxExpertGroupPayloadAreaBytes := by omega
        exact ⟨short, within, (ih within).mpr ⟨others, by omega, bounded⟩⟩

/-- The encoder accepts exactly the payloads within the limits, and concatenates them. -/
theorem encodeArea_iff {payloads : List (List UInt8)} {area : List UInt8} :
    encodeExpertGroupPayloadArea payloads = .ok area ↔
      PayloadsWithinLimits payloads ∧ area = payloadAreaBytes payloads := by
  have room : 0 ≤ maxExpertGroupPayloadAreaBytes := Nat.zero_le _
  unfold encodeExpertGroupPayloadArea
  simp only [bind_eq_ok, refuse_eq_ok, not_not, exists_unit, pure_eq_ok, ne_eq]
  constructor
  · rintro ⟨count, total, summed, -, rfl⟩
    exact ⟨⟨count.1, count.2, ((payloadAreaTotal_iff room).mp summed).1⟩, rfl⟩
  · rintro ⟨⟨some, few, short⟩, rfl⟩
    have size := payloadAreaBytes_length short
    refine ⟨⟨some, few⟩, _, (payloadAreaTotal_iff room).mpr ⟨short, rfl, ?_⟩, by simp, rfl⟩
    simp only [maxExpertOutcomesPerParent] at few
    simp only [maxExpertGroupPayloadAreaBytes]
    omega

/-- What the bounds of `n` payloads cut out of the view, and where they end. -/
theorem payloadBounds_sound {view : List UInt8} {n offset last : Nat} {bounds : List (Nat × Nat)}
    (read : payloadBounds view n offset = .ok (bounds, last)) (inside : offset ≤ view.length) :
    let payloads := bounds.map fun bound => slice view bound.1 bound.2
    payloads.length = n ∧ (∀ payload ∈ payloads, payload.length ≤ maxExpertEventPayloadBytes) ∧
      offset ≤ last ∧ last ≤ view.length ∧ slice view offset last = payloadAreaBytes payloads := by
  induction n generalizing offset bounds with
  | zero =>
      simp only [payloadBounds, pure_eq_ok, Prod.mk.injEq] at read
      obtain ⟨rfl, rfl⟩ := read
      simp [payloadAreaBytes, slice, inside]
  | succ n ih =>
      simp only [payloadBounds, bind_eq_ok, refuse_eq_ok, not_lt, exists_unit, pure_eq_ok,
        Prod.exists, Prod.mk.injEq] at read
      obtain ⟨room, short, fits, later, stop, rest, rfl, rfl⟩ := read
      obtain ⟨count, others, order, bounded, cut⟩ := ih rest fits
      have eight : (slice view offset (offset + 8)).length = 8 := by
        rw [Layout.slice_length (by omega)]
        omega
      have written : bigEndian 8 (Layout.bigEndianValue (slice view offset (offset + 8))) =
          slice view offset (offset + 8) := by
        have inverse := Layout.bigEndian_bigEndianValue (slice view offset (offset + 8))
        rwa [eight] at inverse
      have length : ∀ n, offset + 8 + n ≤ view.length →
          (slice view (offset + 8) (offset + 8 + n)).length = n := by
        intro n inside
        rw [Layout.slice_length inside, Nat.add_sub_cancel_left]
      have length := length _ fits
      refine ⟨by simp [← count], ?_, by omega, bounded, ?_⟩
      · intro payload member
        rcases List.mem_cons.mp member with rfl | member
        · rw [length]
          exact short
        · exact others payload member
      · rw [List.map_cons, payloadAreaBytes, length, written, ← cut,
          Layout.slice_append view (by omega) order, Layout.slice_append view (by omega) (by omega)]

theorem payloadBounds_complete {payloads : List (List UInt8)} (before after : List UInt8)
    (short : ∀ payload ∈ payloads, payload.length ≤ maxExpertEventPayloadBytes) :
    ∃ bounds, payloadBounds (before ++ (payloadAreaBytes payloads ++ after)) payloads.length
        before.length = .ok (bounds, before.length + (payloadAreaBytes payloads).length) ∧
      (bounds.map fun bound =>
        slice (before ++ (payloadAreaBytes payloads ++ after)) bound.1 bound.2) = payloads := by
  induction payloads generalizing before with
  | nil => exact ⟨[], rfl, rfl⟩
  | cons payload rest ih =>
      have size : payload.length ≤ maxExpertEventPayloadBytes := short payload (by simp)
      obtain ⟨bounds, read, cut⟩ := ih (before ++ bigEndian 8 payload.length ++ payload)
        fun p member => short p (by simp [member])
      have view : before ++ bigEndian 8 payload.length ++ payload ++
          (payloadAreaBytes rest ++ after) =
          before ++ (payloadAreaBytes (payload :: rest) ++ after) := by
        simp [payloadAreaBytes]
      rw [view] at read cut
      have word : slice (before ++ (payloadAreaBytes (payload :: rest) ++ after)) before.length
          (before.length + 8) = bigEndian 8 payload.length := by
        simp only [payloadAreaBytes, List.append_assoc]
        exact Layout.slice_mid _ _ _ rfl (by simp)
      have body : slice (before ++ (payloadAreaBytes (payload :: rest) ++ after))
          (before.length + 8) (before.length + 8 + payload.length) = payload := by
        rw [← view, List.append_assoc _ payload]
        exact Layout.slice_mid _ _ _ (by simp) rfl
      have value : Layout.bigEndianValue (bigEndian 8 payload.length) = payload.length := by
        rw [Layout.bigEndianValue_bigEndian, Nat.mod_eq_of_lt]
        simp only [maxExpertEventPayloadBytes] at size
        omega
      have total : (before ++ (payloadAreaBytes (payload :: rest) ++ after)).length =
          before.length + 8 + payload.length + (payloadAreaBytes rest).length + after.length := by
        simp [payloadAreaBytes]
        omega
      have next : (before ++ bigEndian 8 payload.length ++ payload).length =
          before.length + 8 + payload.length := by
        simp only [List.length_append, Layout.bigEndian_length]
      have last : (payloadAreaBytes (payload :: rest)).length =
          8 + payload.length + (payloadAreaBytes rest).length := by
        simp [payloadAreaBytes, Nat.add_assoc]
      rw [next] at read
      refine ⟨(before.length + 8, before.length + 8 + payload.length) :: bounds, ?_, ?_⟩
      · rw [List.length_cons, payloadBounds, refuse_ok _ (by omega), ok_bind]
        dsimp only
        rw [word, value, refuse_ok _ (by omega), ok_bind, refuse_ok _ (by omega), ok_bind, read,
          last]
        simp only [ok_bind, pure_eq_ok, Prod.mk.injEq, true_and]
        omega
      · rw [List.map_cons, body, cut]

/-- The decoder accepts exactly the encodings of the expected number of payloads. -/
theorem decodeArea_iff {area : List UInt8} {count : Int} {payloads : List (List UInt8)} :
    decodeExpertGroupPayloadArea area count = .ok payloads ↔
      PayloadsWithinLimits payloads ∧ (payloads.length : Int) = count ∧
        area = payloadAreaBytes payloads := by
  unfold decodeExpertGroupPayloadArea requirePayloadCount
  simp only [bind_eq_ok, refuse_eq_ok, not_or, not_lt, exists_unit, pure_eq_ok, ne_eq, not_not]
  constructor
  · rintro ⟨n, ⟨⟨some, few⟩, rfl⟩, -, ⟨bounds, last⟩, read, rfl, rfl⟩
    obtain ⟨length, short, -, -, cut⟩ := payloadBounds_sound read (Nat.zero_le _)
    refine ⟨⟨?_, ?_, short⟩, ?_, ?_⟩
    · rw [length]
      omega
    · rw [length]
      simp only [maxExpertOutcomesPerParent] at few ⊢
      omega
    · rw [length]
      omega
    · rw [← cut]
      simp [slice]
  · rintro ⟨⟨some, few, short⟩, rfl, rfl⟩
    have size := payloadAreaBytes_length short
    have roomy : (payloadAreaBytes payloads).length ≤ maxExpertGroupPayloadAreaBytes := by
      simp only [maxExpertOutcomesPerParent] at few
      simp only [maxExpertGroupPayloadAreaBytes]
      omega
    obtain ⟨bounds, read, cut⟩ := payloadBounds_complete [] [] short
    simp only [List.nil_append, List.append_nil, List.length_nil, Nat.zero_add] at read cut
    exact ⟨_, ⟨⟨by omega, by exact_mod_cast few⟩, rfl⟩, roomy, (bounds, _), by simpa using read,
      rfl, cut⟩

/-! ## The format -/

/-- The parts as the decoder returns them, with the digest of their frame. -/
def FrameParts.decoded (parts : FrameParts) (prefixBytes : List UInt8) : DecodedFrame :=
  ⟨parts.kind.toNat, parts.frameSequence.toNat, parts.metadata, parts.payloadArea,
    Sha256.hex (expertFrameDigest prefixBytes parts.metadata parts.payloadArea)⟩

theorem decode_encodeFrame {parts : FrameParts} {frame : List UInt8}
    (encoded : encodeExpertFrame parts = .ok frame) :
    decodeExpertCompleteFrame frame = .ok (parts.decoded (slice frame 0 expertFramePrefixBytes)) ∧
      (parts.decoded (slice frame 0 expertFramePrefixBytes)).parts = parts := by
  obtain ⟨kind, sequence, prefixBytes, trailer, isKind, isSequence, decoded, trailed, rfl⟩ :=
    encodeFrame_iff.mp encoded
  have length : prefixBytes.length = expertFramePrefixBytes := decodePrefix_length decoded
  have head : slice (prefixBytes ++ parts.metadata ++ parts.payloadArea ++ trailer) 0
      expertFramePrefixBytes = prefixBytes := by
    rw [List.append_assoc, List.append_assoc]
    exact Layout.slice_mid [] _ _ rfl (by simp [length])
  rw [head]
  obtain ⟨k, s, metadata, area⟩ := parts
  obtain rfl : k = kind := isKind
  obtain rfl : s = sequence := isSequence
  exact ⟨decodeFrame_iff.mpr ⟨prefixBytes, trailer, decoded, trailed, rfl, rfl⟩, rfl⟩

theorem encode_decodeFrame {frame : List UInt8} {d : DecodedFrame}
    (decoded : decodeExpertCompleteFrame frame = .ok d) :
    encodeExpertFrame d.parts = .ok frame := by
  obtain ⟨prefixBytes, trailer, shaped, trailed, same, -⟩ := decodeFrame_iff.mp decoded
  exact encodeFrame_iff.mpr ⟨d.kind, d.frameSequence, prefixBytes, trailer, rfl, rfl, shaped,
    trailed, same⟩

theorem decodeFrame_length {frame : List UInt8} {d : DecodedFrame}
    (decoded : decodeExpertCompleteFrame frame = .ok d) :
    frame.length = d.parts.totalFrameBytes := by
  obtain ⟨prefixBytes, trailer, shaped, trailed, rfl, -⟩ := decodeFrame_iff.mp decoded
  have first : prefixBytes.length = expertFramePrefixBytes := decodePrefix_length shaped
  have last : trailer.length = expertFrameTrailerBytes := pack_length trailed
  simp only [List.length_append, first, last, FrameParts.totalFrameBytes, expertFrameFixedBytes,
    DecodedFrame.parts]
  omega

/-- An accepted frame that starts another accepted frame is all of it. -/
theorem decodeFrame_prefix {frame longer : List UInt8} {d e : DecodedFrame}
    (decoded : decodeExpertCompleteFrame frame = .ok d)
    (extended : decodeExpertCompleteFrame longer = .ok e) (starts : frame <+: longer) :
    frame = longer := by
  have length := decodeFrame_length decoded
  have length' := decodeFrame_length extended
  obtain ⟨prefixBytes, trailer, shaped, -, same, -⟩ := decodeFrame_iff.mp decoded
  obtain ⟨prefixBytes', trailer', shaped', -, same', -⟩ := decodeFrame_iff.mp extended
  have lead : prefixBytes = prefixBytes' := by
    obtain ⟨rest, whole⟩ := starts
    rw [same, same'] at whole
    simp only [List.append_assoc] at whole
    exact (List.append_inj whole
      ((decodePrefix_length shaped).trans (decodePrefix_length shaped').symm)).1
  subst lead
  have shapes := Except.ok.inj (shaped.symm.trans shaped')
  have total : d.parts.totalFrameBytes = e.parts.totalFrameBytes :=
    congrArg FramePrefix.totalFrameBytes shapes
  exact starts.eq_of_length (by omega)

/-- The frame code is a bijection between the parts within the limits and the
accepted frames, none of which starts another, and the payload area code one
between the payloads within the limits and the areas accepted for their count. -/
theorem expert_frame_format :
    (∀ parts : FrameParts, parts.WithinLimits → ∃ frame d, encodeExpertFrame parts = .ok frame ∧
      decodeExpertCompleteFrame frame = .ok d ∧ d.parts = parts) ∧
    (∀ frame d, decodeExpertCompleteFrame frame = .ok d →
      d.parts.WithinLimits ∧ encodeExpertFrame d.parts = .ok frame) ∧
    (∀ frame other d e, decodeExpertCompleteFrame frame = .ok d →
      decodeExpertCompleteFrame other = .ok e → d.parts = e.parts → frame = other) ∧
    (∀ frame longer d e, decodeExpertCompleteFrame frame = .ok d →
      decodeExpertCompleteFrame longer = .ok e → frame <+: longer → frame = longer) ∧
    (∀ payloads, PayloadsWithinLimits payloads → ∃ area,
      encodeExpertGroupPayloadArea payloads = .ok area ∧
      decodeExpertGroupPayloadArea area payloads.length = .ok payloads) ∧
    (∀ area count payloads, decodeExpertGroupPayloadArea area count = .ok payloads →
      PayloadsWithinLimits payloads ∧ (payloads.length : Int) = count ∧
        encodeExpertGroupPayloadArea payloads = .ok area) := by
  refine ⟨?_, ?_, ?_, fun _ _ _ _ => decodeFrame_prefix, ?_, ?_⟩
  · intro parts within
    obtain ⟨frame, encoded⟩ := (encodeFrame_total parts).mpr within
    have back := decode_encodeFrame encoded
    exact ⟨frame, _, encoded, back.1, back.2⟩
  · intro frame d decoded
    have encoded := encode_decodeFrame decoded
    exact ⟨(encodeFrame_total d.parts).mp ⟨frame, encoded⟩, encoded⟩
  · intro frame other d e decoded decoded' same
    have encoded := encode_decodeFrame decoded
    rw [same, encode_decodeFrame decoded'] at encoded
    exact (Except.ok.inj encoded).symm
  · intro payloads within
    exact ⟨_, encodeArea_iff.mpr ⟨within, rfl⟩, decodeArea_iff.mpr ⟨within, rfl, rfl⟩⟩
  · intro area count payloads decoded
    obtain ⟨within, length, same⟩ := decodeArea_iff.mp decoded
    exact ⟨within, length, encodeArea_iff.mpr ⟨within, same⟩⟩

theorem expert_frame_format_manifest :
    ∃ frame d, encodeExpertFrame ⟨1, 0, [123, 125], []⟩ = .ok frame ∧
      decodeExpertCompleteFrame frame = .ok d ∧ d.parts = ⟨1, 0, [123, 125], []⟩ :=
  expert_frame_format.1 ⟨1, 0, [123, 125], []⟩ (by decide)

end Inci.Expert
