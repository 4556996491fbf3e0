/-
# Journal.ReadExact -- what is read is what is in the file

A frame has one encoding, so a frame that is read is the frame of its record
(`readFrame_exact`).  A walk that ends with its bytes valid has read the whole file, and the file
is that of its records (`walk_exact`); with `walk_whole` reading and writing are inverse.
-/
import Inci.Journal.RecordIdentity
import Inci.Journal.ReplayWalk

namespace Inci.Journal

open Inci.Theory
open Inci.Theory.Layout (size slice slice_append unpack)

set_option autoImplicit false

/-! ## Frames -/

/-- The parts that the reader accepts are the frame of the record in them. -/
theorem framed_of_parts {event : PersistedEvent} {prefixBytes metadata payload trailer : Bytes}
    {kind seq total metadataLength payloadLength : Nat}
    (headed : unpack framePrefix prefixBytes = some (frameMagic, frameVersion, kind, frameFlags,
      seq, total, metadataLength, payloadLength, ()))
    (metadataFull : metadata.length = metadataLength) (payloadFull : payload.length = payloadLength)
    (sized : total = frameFixedBytes + metadataLength + payloadLength)
    (bounded : total ≤ maxFrameBytes)
    (trailed : unpack frameTrailer trailer = some (total, trailerMagic, ()))
    (decoded : decodeRecord metadata payload = some event)
    (same : frameKind event.recordKind = kind) (numbered : event.ingestSeq = seq) :
    Framed event prefixBytes metadata trailer ∧ payload = event.payload := by
  obtain ⟨-, -, encoded⟩ := encodeRecord_decodeRecord decoded
  obtain rfl := encodeRecord_payload encoded
  subst metadataFull payloadFull sized same numbered
  exact ⟨⟨encoded, decoded, bounded, Layout.pack_unpack headed, Layout.pack_unpack trailed⟩, rfl⟩

/-- The frame of its parts. -/
theorem Framed.frameOf_eq {event : PersistedEvent} {prefixBytes metadata trailer : Bytes}
    (framed : Framed event prefixBytes metadata trailer) :
    Encoded event ∧ frameOf event = frameBytes event prefixBytes metadata trailer := by
  refine encoded_of_ok ?_
  have total := framed.length
  rw [encodeFrame, framed.encoded]
  simp only [framed.decoded, ne_eq, not_true, framed.prefixed, framed.trailed]
  refine bind_eq_ok.mpr ⟨(), refuse_ok _ not_false, bind_eq_ok.mpr
    ⟨(), refuse_ok _ (not_lt.mpr framed.bounded), bind_eq_ok.mpr ⟨(), refuse_ok _ ?_, rfl⟩⟩⟩
  rw [not_not]
  exact total

theorem pread_slice (file : Bytes) (offset length : Nat) :
    pread file offset length = slice file offset (offset + length) := rfl

theorem pread_full {file : Bytes} {offset length : Nat}
    (enough : ¬(pread file offset length).length < length) :
    (pread file offset length).length = length := by
  have read := pread_length file offset length
  omega

/-- A frame that is read is the frame of its record, there in the file. -/
theorem readFrame_exact {file : Bytes} {offset : Nat} {frame : FrameRead} {event : PersistedEvent}
    (read : readFrame file offset = .ok frame) (found : frame.event = some event) :
    Encoded event ∧ frame.endOffset = offset + (frameOf event).length ∧
      slice file offset frame.endOffset = frameOf event := by
  unfold readFrame at read
  simp only at read
  split at read
  · obtain rfl := Except.ok.inj read
    cases found
  · split at read
    · obtain rfl := Except.ok.inj read
      cases found
    · next prefixRead =>
      split at read
      · cases read
      · next headed =>
        obtain ⟨_, accepted, read⟩ := bind_eq_ok.mp read
        split at read
        · rw [pure_eq_ok] at read
          subst read
          cases found
        · next metadataRead =>
          split at read
          · rw [pure_eq_ok] at read
            subst read
            cases found
          · next payloadRead =>
            split at read
            · rw [pure_eq_ok] at read
              subst read
              cases found
            · split at read
              · rw [pure_eq_ok] at read
                subst read
                cases found
              · split at read
                · cases read
                · next trailed =>
                  split at read
                  · obtain ⟨_, -, read⟩ := bind_eq_ok.mp read
                    rw [pure_eq_ok] at read
                    subst read
                    cases found
                  · next agreed =>
                    split at read
                    · cases read
                    · next decoded =>
                      obtain ⟨_, matched, read⟩ := bind_eq_ok.mp read
                      rw [pure_eq_ok] at read
                      subst read
                      obtain rfl := Option.some.inj found
                      simp only [refuse_eq_ok, not_or, not_not, not_lt] at accepted matched agreed
                      obtain ⟨rfl, rfl, rfl, -, sized, bounded⟩ := accepted
                      obtain ⟨same, magic, digested⟩ := agreed
                      subst same magic
                      obtain ⟨framed, payload⟩ := framed_of_parts headed (pread_full metadataRead)
                        (pread_full payloadRead) sized bounded trailed decoded matched.1 matched.2
                      obtain ⟨encoded, whole⟩ := framed.frameOf_eq
                      have length := framed.length
                      rw [← payload, pread_full metadataRead, pread_full payloadRead,
                        frameFixedBytes] at length
                      refine ⟨encoded, ?_, ?_⟩
                      · rw [whole, length]
                        simp only
                        omega
                      · rw [whole, frameBytes, ← payload, ← digested]
                        simp only [pread_slice]
                        rw [slice_append _ (by omega) (by omega),
                          slice_append _ (by omega) (by omega),
                          slice_append _ (by omega) (by omega),
                          slice_append _ (by omega) (by omega)]

/-- A reader that finds neither a record nor an issue is at the end of the file. -/
theorem readFrame_none {file : Bytes} {offset : Nat} {frame : FrameRead}
    (read : readFrame file offset = .ok frame) (found : frame.event = none)
    (fine : frame.issue = none) :
    frame = ⟨none, offset, offset, none⟩ ∧ file.length ≤ offset := by
  have torn_issue (a b : Nat) : (torn a b).issue ≠ none := by
    intro none
    cases none
  unfold readFrame at read
  simp only at read
  split at read
  · next empty =>
    have length := pread_length file offset (size framePrefix)
    have positive : 0 < size framePrefix := by decide
    rw [empty, List.length_nil] at length
    exact ⟨(Except.ok.inj read).symm, by omega⟩
  · split at read
    · obtain rfl := Except.ok.inj read
      exact absurd fine (torn_issue _ _)
    · split at read
      · cases read
      · obtain ⟨_, -, read⟩ := bind_eq_ok.mp read
        repeat
          split at read
          · rw [pure_eq_ok] at read
            subst read
            exact absurd fine (torn_issue _ _)
        split at read
        · cases read
        · split at read
          · obtain ⟨_, -, read⟩ := bind_eq_ok.mp read
            rw [pure_eq_ok] at read
            subst read
            cases fine
          · split at read
            · cases read
            · obtain ⟨_, -, read⟩ := bind_eq_ok.mp read
              rw [pure_eq_ok] at read
              subst read
              cases found

/-! ## Files -/

theorem drop_eq_slice (file : Bytes) {p q : Nat} (order : p ≤ q) :
    file.drop p = slice file p q ++ file.drop q := by
  apply (List.append_right_inj (file.take p)).mp
  rw [List.take_append_drop, ← List.append_assoc, Layout.take_slice file order,
    List.take_append_drop]

/-- A loop that ends with valid bytes has taken its turns at the records of the rest. -/
theorem walkFrom_exact {check : TerminalCheck} {file : Bytes} {fuel : Nat} {st : WalkState}
    {events : List PersistedEvent} {s : ScanSummary}
    (walked : walkFrom check file fuel st = (events, .ok s)) (valid : s.walValid = true)
    (inside : st.offset ≤ file.length) :
    ∃ last, (∀ event ∈ events, Encoded event) ∧ advanceAll check st events = .ok last ∧
      file.drop st.offset = events.flatMap frameOf ∧
      s = summary last ⟨none, last.offset, last.offset, none⟩ := by
  induction fuel generalizing st events with
  | zero => cases walked
  | succ fuel ih =>
      cases read : readFrame file st.offset with
      | error e =>
          rw [walkFrom, read] at walked
          cases walked
      | ok frame =>
          cases found : frame.event with
          | none =>
              rw [walkFrom_last read found] at walked
              split at walked
              · cases walked
              · obtain ⟨rfl, ended⟩ := Prod.mk.inj walked
                obtain rfl := Except.ok.inj ended
                obtain ⟨rfl, past⟩ := readFrame_none read found (Option.isNone_iff_eq_none.mp valid)
                refine ⟨st, ?_, rfl, List.drop_eq_nil_of_le past, rfl⟩
                intro event member
                cases member
          | some event =>
              by_cases ended : st.terminalSeen = true
              · rw [walkFrom_past read found ended] at walked
                cases walked
              · have reading := Bool.not_eq_true _ ▸ ended
                rw [walkFrom_record read found reading] at walked
                cases admission : admitRecord check st event with
                | error e =>
                    rw [admission] at walked
                    cases walked
                | ok admitted =>
                    rw [admission] at walked
                    obtain ⟨rfl, rest⟩ := Prod.mk.inj walked
                    obtain ⟨encoded, finish, bytes⟩ := readFrame_exact read found
                    have within := (readFrame_advances read found).2
                    obtain ⟨last, others, turns, dropped, summed⟩ :=
                      ih (Prod.ext rfl rest) within
                    refine ⟨last, List.forall_mem_cons.mpr ⟨encoded, others⟩, ?_, ?_, summed⟩
                    · refine bind_eq_ok.mpr ⟨_, bind_eq_ok.mpr ⟨(), refuse_ok _ ended,
                        bind_eq_ok.mpr ⟨_, admission, rfl⟩⟩, ?_⟩
                      rw [← finish]
                      exact turns
                    · rw [List.flatMap_cons, ← dropped, ← bytes]
                      exact drop_eq_slice file (readFrame_advances read found).1.le

/-- The header that the reader accepts is the one the writer writes. -/
theorem readFileHeader_exact {file : Bytes} (read : readFileHeader file = .ok none) :
    file.take (size filePrefix) = filePrefixBytes ∧ size filePrefix ≤ file.length := by
  have length := pread_length file 0 (size filePrefix)
  have lead : pread file 0 (size filePrefix) = file.take (size filePrefix) := by
    simp [pread, slice]
  unfold readFileHeader at read
  simp only at read
  split at read
  · cases read
  · next full =>
    split at read
    · cases read
    · next headed =>
      obtain ⟨_, accepted, -⟩ := bind_eq_ok.mp read
      simp only [refuse_eq_ok, not_or, not_not] at accepted
      obtain ⟨rfl, rfl, rfl, rfl⟩ := accepted
      have packed := Layout.pack_unpack headed
      refine ⟨?_, by omega⟩
      rw [← lead, filePrefixBytes, packed, Option.getD_some]

/-- A walk whose bytes are valid has read a whole journal, and the file is that of its records. -/
theorem walk_exact {check : TerminalCheck} {file : Bytes} {events : List PersistedEvent}
    {s : ScanSummary} (walked : walk check file = (events, .ok s)) (valid : s.walValid = true) :
    ∃ last, file = fileOf events ∧ (∀ event ∈ events, Encoded event) ∧
      advanceAll check .start events = .ok last ∧
      s = summary last ⟨none, last.offset, last.offset, none⟩ := by
  unfold walk at walked
  cases header : readFileHeader file with
  | error e =>
      rw [header] at walked
      cases walked
  | ok issue =>
      cases issue with
      | some issue =>
          rw [header] at walked
          obtain ⟨-, ended⟩ := Prod.mk.inj walked
          obtain rfl := Except.ok.inj ended
          cases valid
      | none =>
          rw [header] at walked
          obtain ⟨lead, long⟩ := readFileHeader_exact header
          obtain ⟨last, encoded, turns, dropped, summed⟩ := walkFrom_exact walked valid long
          refine ⟨last, ?_, encoded, turns, summed⟩
          rw [fileOf, ← dropped, ← lead]
          exact (List.take_append_drop _ _).symm

/-! ## Files of whole records -/

/-- Frames with the same first bytes are of the same record. -/
theorem frameOf_leads {one other : PersistedEvent} (encoded : Encoded one) (encoded' : Encoded other)
    {rest rest' : Bytes} (same : frameOf one ++ rest = frameOf other ++ rest') : one = other := by
  obtain ⟨prefixBytes, metadata, trailer, framed, shape⟩ := encoded.framed
  obtain ⟨prefixBytes', metadata', trailer', framed', shape'⟩ := encoded'.framed
  have start : (0 : Nat) = ([] : Bytes).length := rfl
  have cut : frameOf one ++ rest =
      [] ++ (frameBytes one prefixBytes metadata trailer ++ rest) := by rw [shape]; rfl
  have cut' : frameOf one ++ rest =
      [] ++ (frameBytes other prefixBytes' metadata' trailer' ++ rest') := by rw [same, shape']; rfl
  have events := (readFrame_whole framed cut start).symm.trans (readFrame_whole framed' cut' start)
  exact Option.some.inj (congrArg FrameRead.event (Except.ok.inj events))

theorem frameOf_nonempty {e : PersistedEvent} (encoded : Encoded e) : frameOf e ≠ [] := by
  intro empty
  have length := Encoded.length e encoded
  rw [empty, List.length_nil] at length
  exact absurd length (Nat.not_lt_zero _)

/-- Records that start with the frames of others start with the others. -/
theorem flatMap_frameOf_leads {read written : List PersistedEvent} {rest : Bytes}
    (encoded : ∀ e ∈ read, Encoded e) (encoded' : ∀ e ∈ written, Encoded e)
    (same : read.flatMap frameOf = written.flatMap frameOf ++ rest) :
    ∃ more, read = written ++ more ∧ rest = more.flatMap frameOf := by
  induction written generalizing read with
  | nil => exact ⟨read, rfl, same.symm⟩
  | cons e others ih =>
      obtain ⟨here, later⟩ := List.forall_mem_cons.mp encoded'
      rw [List.flatMap_cons, List.append_assoc] at same
      cases read with
      | nil => exact absurd (List.append_eq_nil_iff.mp same.symm).1 (frameOf_nonempty here)
      | cons f behind =>
          obtain ⟨here', later'⟩ := List.forall_mem_cons.mp encoded
          rw [List.flatMap_cons] at same
          obtain rfl := frameOf_leads here' here same
          obtain ⟨more, rfl, tail⟩ := ih later' later (List.append_cancel_left same)
          exact ⟨more, rfl, tail⟩

/-- A file of whole records that starts with a file of others. -/
theorem fileOf_leads {read written : List PersistedEvent} {rest : Bytes}
    (encoded : ∀ e ∈ read, Encoded e) (encoded' : ∀ e ∈ written, Encoded e)
    (same : fileOf read = fileOf written ++ rest) :
    ∃ more, read = written ++ more ∧ rest = more.flatMap frameOf := by
  rw [fileOf, fileOf, List.append_assoc] at same
  exact flatMap_frameOf_leads encoded encoded' (List.append_cancel_left same)

theorem fileOf_injective {read written : List PersistedEvent} (encoded : ∀ e ∈ read, Encoded e)
    (encoded' : ∀ e ∈ written, Encoded e) (same : fileOf read = fileOf written) : read = written := by
  obtain ⟨more, rfl, empty⟩ := fileOf_leads encoded encoded' (same.trans (List.append_nil _).symm)
  cases more with
  | nil => rw [List.append_nil]
  | cons e rest =>
      rw [List.flatMap_cons] at empty
      exact absurd (List.append_eq_nil_iff.mp empty.symm).1
        (frameOf_nonempty (encoded e (by simp)))

/-- A file of whole records that ends in a part of a record's frame has the record, or not. -/
theorem fileOf_torn {read written : List PersistedEvent} {last : PersistedEvent} {kept : Nat}
    (encoded : ∀ e ∈ read, Encoded e) (encoded' : ∀ e ∈ written, Encoded e) (fits : Encoded last)
    (same : fileOf read = fileOf written ++ (frameOf last).take kept) :
    read = written ∨ read = written ++ [last] := by
  obtain ⟨more, rfl, tail⟩ := fileOf_leads encoded encoded' same
  cases more with
  | nil => exact Or.inl (List.append_nil _)
  | cons e rest =>
      have here : Encoded e := encoded e (by simp)
      have whole : frameOf last ++ [] =
          frameOf e ++ (rest.flatMap frameOf ++ (frameOf last).drop kept) := by
        rw [← List.append_assoc, ← List.flatMap_cons, ← tail, List.take_append_drop, List.append_nil]
      obtain rfl := frameOf_leads fits here whole
      have nothing := (List.append_eq_nil_iff.mp (List.append_cancel_left whole).symm).1
      cases rest with
      | nil => exact Or.inr rfl
      | cons f others =>
          rw [List.flatMap_cons] at nothing
          exact absurd (List.append_eq_nil_iff.mp nothing).1
            (frameOf_nonempty (encoded f (by simp)))

end Inci.Journal
