/-
# Journal.Sessions -- the writer and the reader in step

`advance` is one turn of the reader's loop over a frame that is whole.  A
session's writer and the reader of its file go in step: whatever the writer
counted, the loop counts when it has read the same records (`InStep`).  Each
accepted operation of the writer keeps them in step.
-/
import Inci.Journal.FrameReading
import Inci.Journal.Writer

namespace Inci.Journal

open Inci.Theory
open Inci.Theory.Json (Text text)
open Inci.Theory.Layout (size)

set_option autoImplicit false

/-! ## Whole frames -/

/-- The frame of an event that has one. -/
def frameOf (event : PersistedEvent) : Bytes :=
  match encodeFrame event with
  | .ok frame => frame
  | .error _ => []

/-- The event has a frame. -/
def Encoded (event : PersistedEvent) : Prop := encodeFrame event = .ok (frameOf event)

theorem encoded_of_ok {event : PersistedEvent} {frame : Bytes}
    (encoded : encodeFrame event = .ok frame) : Encoded event ∧ frameOf event = frame := by
  have same : frameOf event = frame := by rw [frameOf, encoded]
  exact ⟨by rw [Encoded, same, encoded], same⟩

theorem Encoded.framed {event : PersistedEvent} (encoded : Encoded event) :
    ∃ prefixBytes metadata trailer, Framed event prefixBytes metadata trailer ∧
      frameOf event = frameBytes event prefixBytes metadata trailer := encodeFrame_ok encoded

theorem Encoded.length (event : PersistedEvent) (encoded : Encoded event) :
    size framePrefix < (frameOf event).length := by
  obtain ⟨prefixBytes, metadata, trailer, framed, same⟩ := encoded.framed
  rw [same, framed.length, frameFixedBytes]
  omega

/-- The bytes of a journal with these records. -/
def fileOf (events : List PersistedEvent) : Bytes := filePrefixBytes ++ events.flatMap frameOf

theorem fileOf_snoc (events : List PersistedEvent) (event : PersistedEvent) :
    fileOf (events ++ [event]) = fileOf events ++ frameOf event := by
  simp [fileOf]

/-- One turn of the reader's loop at a whole frame. -/
def advance (check : TerminalCheck) (st : WalkState) (event : PersistedEvent) :
    Except String WalkState := do
  refuse (st.terminalSeen = true) "journal_bytes_after_terminal"
  let admitted ← admitRecord check st event
  pure { admitted with offset := st.offset + (frameOf event).length }

/-- The turns at a run of whole frames. -/
def advanceAll (check : TerminalCheck) : WalkState → List PersistedEvent → Except String WalkState
  | st, [] => .ok st
  | st, event :: rest => advance check st event >>= fun next => advanceAll check next rest

theorem advanceAll_append (check : TerminalCheck) (st : WalkState)
    (first second : List PersistedEvent) :
    advanceAll check st (first ++ second) =
      advanceAll check st first >>= fun next => advanceAll check next second := by
  induction first generalizing st with
  | nil => rfl
  | cons event rest ih =>
      cases stepped : advance check st event with
      | error e => simp [advanceAll, stepped]
      | ok next => simp only [List.cons_append, advanceAll, stepped, ok_bind, ih]

theorem advance_offset {check : TerminalCheck} {st next : WalkState} {event : PersistedEvent}
    (stepped : advance check st event = .ok next) :
    next.offset = st.offset + (frameOf event).length := by
  obtain ⟨_, -, stepped⟩ := bind_eq_ok.mp stepped
  obtain ⟨admitted, -, stepped⟩ := bind_eq_ok.mp stepped
  rw [pure_eq_ok] at stepped
  exact stepped ▸ rfl

theorem advanceAll_offset {check : TerminalCheck} {st next : WalkState}
    {events : List PersistedEvent} (read : advanceAll check st events = .ok next) :
    next.offset = st.offset + (events.flatMap frameOf).length := by
  induction events generalizing st with
  | nil =>
      obtain rfl := Except.ok.inj read
      simp
  | cons event rest ih =>
      obtain ⟨middle, stepped, read⟩ := bind_eq_ok.mp read
      rw [ih read, advance_offset stepped, List.flatMap_cons, List.length_append, Nat.add_assoc]

/-- The loop's turn at a whole frame, inside a file. -/
theorem walkFrom_frame {check : TerminalCheck} {st next : WalkState} {event : PersistedEvent}
    (encoded : Encoded event) (stepped : advance check st event = .ok next)
    {file lead rest : Bytes} (cut : file = lead ++ (frameOf event ++ rest))
    (start : st.offset = lead.length) (fuel : Nat) :
    walkFrom check file (fuel + 1) st =
      (event :: (walkFrom check file fuel next).1, (walkFrom check file fuel next).2) := by
  obtain ⟨prefixBytes, metadata, trailer, framed, same⟩ := encoded.framed
  obtain ⟨_, reading, stepped⟩ := bind_eq_ok.mp stepped
  obtain ⟨admitted, admission, stepped⟩ := bind_eq_ok.mp stepped
  rw [refuse_eq_ok, Bool.not_eq_true] at reading
  rw [pure_eq_ok] at stepped
  subst stepped
  have read := readFrame_whole framed (same ▸ cut) start
  rw [walkFrom, read]
  simp only [reading, Bool.false_eq_true, false_and, if_false, admission]
  rw [same]

/-- The loop over a run of whole frames. -/
theorem walkFrom_frames {check : TerminalCheck} {file : Bytes} {events : List PersistedEvent} :
    ∀ {st next : WalkState} (lead rest : Bytes), (∀ event ∈ events, Encoded event) →
      advanceAll check st events = .ok next →
      file = lead ++ (events.flatMap frameOf ++ rest) → st.offset = lead.length → ∀ fuel,
      walkFrom check file (fuel + events.length) st =
        (events ++ (walkFrom check file fuel next).1, (walkFrom check file fuel next).2) := by
  induction events with
  | nil =>
      intro st next lead rest _ read _ _ fuel
      obtain rfl := Except.ok.inj read
      rfl
  | cons event tail ih =>
      intro st next lead rest encoded read cut start fuel
      obtain ⟨middle, stepped, read⟩ := bind_eq_ok.mp read
      rw [List.flatMap_cons, List.append_assoc] at cut
      have first := walkFrom_frame (encoded event List.mem_cons_self) stepped cut start
        (fuel + tail.length)
      have others := ih (lead ++ frameOf event) rest
        (fun e inside => encoded e (List.mem_cons_of_mem _ inside)) read
        (by rw [List.append_assoc]; exact cut)
        (by rw [advance_offset stepped, List.length_append, start]) fuel
      rw [List.length_cons, ← Nat.add_assoc, first, others]
      rfl

theorem frames_length {events : List PersistedEvent} (encoded : ∀ event ∈ events, Encoded event) :
    events.length ≤ (events.flatMap frameOf).length := by
  induction events with
  | nil => simp
  | cons event rest ih =>
      have long := Encoded.length event (encoded event List.mem_cons_self)
      have others := ih fun e inside => encoded e (List.mem_cons_of_mem _ inside)
      rw [List.flatMap_cons, List.length_append, List.length_cons]
      omega

/-- The walk of a file that starts with these records. -/
theorem walk_frames (rest : Bytes) {check : TerminalCheck} {events : List PersistedEvent}
    {st : WalkState} (encoded : ∀ event ∈ events, Encoded event)
    (read : advanceAll check .start events = .ok st) :
    ∃ fuel, walk check (fileOf events ++ rest) =
      (events ++ (walkFrom check (fileOf events ++ rest) (fuel + 1) st).1,
        (walkFrom check (fileOf events ++ rest) (fuel + 1) st).2) := by
  have header : readFileHeader (fileOf events ++ rest) = .ok none := by
    rw [fileOf, List.append_assoc]
    exact header_whole _
  have room := frames_length encoded
  have length : (fileOf events ++ rest).length + 1 =
      ((fileOf events ++ rest).length - events.length + 1) + events.length := by
    simp only [fileOf, List.length_append]
    omega
  refine ⟨(fileOf events ++ rest).length - events.length, ?_⟩
  rw [walk, header]
  simp only
  rw [length]
  refine walkFrom_frames filePrefixBytes rest encoded read ?_ rfl _
  rw [fileOf, List.append_assoc]

theorem fileOf_length (events : List PersistedEvent) :
    (fileOf events).length = size filePrefix + (events.flatMap frameOf).length := by
  rw [fileOf, List.length_append]
  rfl

/-- The walk of a file that ends with these records. -/
theorem walk_whole {check : TerminalCheck} {events : List PersistedEvent} {st : WalkState}
    (encoded : ∀ event ∈ events, Encoded event) (read : advanceAll check .start events = .ok st) :
    walk check (fileOf events) =
      (events, .ok (summary st ⟨none, st.offset, st.offset, none⟩)) := by
  have offset : st.offset = (fileOf events).length := by
    rw [advanceAll_offset read, fileOf_length]
    rfl
  obtain ⟨fuel, walked⟩ := walk_frames [] encoded read
  rw [List.append_nil] at walked
  rw [walked, walkFrom, readFrame_end offset.ge]
  simp

/-- The walk of a file that ends inside a frame after these records. -/
theorem walk_torn {check : TerminalCheck} {events : List PersistedEvent} {st : WalkState}
    (encoded : ∀ event ∈ events, Encoded event) (read : advanceAll check .start events = .ok st)
    (reading : st.terminalSeen = false) {event : PersistedEvent} (last : Encoded event) {kept : Nat}
    (some : 0 < kept) (partly : kept < (frameOf event).length) :
    walk check (fileOf events ++ (frameOf event).take kept) =
      (events, .ok (summary st (torn st.offset ((fileOf events).length + kept)))) := by
  have offset : st.offset = (fileOf events).length := by
    rw [advanceAll_offset read, fileOf_length]
    rfl
  obtain ⟨prefixBytes, metadata, trailer, framed, same⟩ := last.framed
  rw [same] at partly ⊢
  have found := readFrame_torn framed rfl some partly offset
  obtain ⟨fuel, walked⟩ := walk_frames
    ((frameBytes event prefixBytes metadata trailer).take kept) encoded read
  have length : (fileOf events ++ (frameBytes event prefixBytes metadata trailer).take kept).length =
      (fileOf events).length + kept := by
    rw [List.length_append, List.length_take, Nat.min_eq_left partly.le]
  rw [walked, walkFrom, found, length]
  simp [reading, torn]

end Inci.Journal
