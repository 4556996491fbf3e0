/-
# Journal.Closing -- the terminal in step

A terminal that the capability let through carries the writer's own counts and
the digests of the session's manifest.  The reader stands at the same counts, so
both of its terminal checks accept it; `InStep.terminal` ends the session.
-/
import Inci.Journal.Writing

namespace Inci.Journal

open Inci.Theory
open Inci.Theory.Json (Text text)
open Inci.Theory.Layout (size)

set_option autoImplicit false

/-! ## The terminal -/

theorem terminalPayload_ok {w : JournalWriter} {t : Terminal} {payload : Bytes}
    (built : w.terminalPayload t = .ok payload) : t.Valid ∧
      (t.clean = true → t.lastAppliedRawSeq = w.latestRawSeq) ∧
      (t.clean = false → t.lastAppliedRawSeq ≤ w.latestRawSeq) ∧
      ∃ manifestSha256, sessionManifestSha256 w.sessionManifest = some manifestSha256 ∧
        canonicalJsonBytes (.obj (t.members w.sessionManifest manifestSha256)) = some payload := by
  obtain ⟨_, reason, built⟩ := bind_eq_ok.mp built
  obtain ⟨_, trace, built⟩ := bind_eq_ok.mp built
  obtain ⟨_, finalState, built⟩ := bind_eq_ok.mp built
  obtain ⟨_, clean, built⟩ := bind_eq_ok.mp built
  obtain ⟨_, halted, built⟩ := bind_eq_ok.mp built
  rw [refuse_eq_ok, not_not] at reason
  rw [refuse_eq_ok, Bool.not_eq_false] at trace finalState
  rw [refuse_eq_ok, not_and, not_not] at clean
  rw [refuse_eq_ok, not_and, not_lt] at halted
  refine ⟨⟨reason, trace, finalState⟩, clean, halted, ?_⟩
  split at built
  · exact nomatch built
  · next manifestSha256 known =>
      split at built
      · exact nomatch built
      · next content written =>
          rw [pure_eq_ok] at built
          exact ⟨manifestSha256, known, built ▸ written⟩

theorem sessionManifestSha256_matches {m : SessionManifest} {digest : Text}
    (known : sessionManifestSha256 m = some digest) : matchesSha256 digest = true := by
  obtain ⟨content, -, rfl⟩ := Option.map_eq_some_iff.mp known
  exact hexdigest_matches content

theorem Carries.sub {raw : Members} {digests digests' : List (String × Text)}
    {numbers numbers' : List (String × Nat)} (carried : Carries raw digests numbers)
    (fewer : ∀ d ∈ digests', d ∈ digests) (fewer' : ∀ n ∈ numbers', n ∈ numbers) :
    Carries raw digests' numbers' :=
  ⟨fun d inside => carried.1 d (fewer d inside), fun n inside => carried.2 n (fewer' n inside)⟩

section Terminals

variable {m : SessionManifest} {t : Terminal} {manifestSha256 : Text} {payload : Bytes}

/-- A written terminal's payload, as every reader finds it. -/
theorem terminalRecord_written (seq : Nat) (checksReason : Bool) (valid : m.validate = .ok ()) (fits : t.Valid)
    (known : sessionManifestSha256 m = some manifestSha256)
    (written : canonicalJsonBytes (.obj (t.members m manifestSha256)) = some payload) :
    ∃ raw, terminalRecord checksReason m (haltEvent m seq payload) = .ok (raw, t.clean) ∧
      strictObject payload terminalKeys = some raw ∧
      SameMembers raw (t.members m manifestSha256) := by
  have digest := sessionManifestSha256_matches known
  obtain ⟨raw, read, same⟩ := terminal_read fits valid digest written
  have grammar := terminalGrammar_members journalTexts checksReason fits valid digest same
  refine ⟨raw, bind_eq_ok.mpr ⟨(), refuse_ok _ (by simp [haltEvent, controlEvent]), ?_⟩, read, same⟩
  simp only [haltEvent, controlEvent, read]
  exact bind_eq_ok.mpr ⟨_, grammar, rfl⟩

/-- The scan accepts the terminal at the writer's own counts. -/
theorem validateTerminal_written (seq : Nat) (st : WalkState) (valid : m.validate = .ok ()) (fits : t.Valid)
    (known : sessionManifestSha256 m = some manifestSha256)
    (written : canonicalJsonBytes (.obj (t.members m manifestSha256)) = some payload)
    (records : st.recordCount = t.recordCountBeforeTerminal)
    (raws : st.rawCount = t.rawCount) (derived : st.derivedCount = t.derivedCount)
    (clean : t.clean = true → t.lastAppliedRawSeq = st.lastRawSeq)
    (halted : t.clean = false → t.lastAppliedRawSeq ≤ st.lastRawSeq) :
    validateTerminal m st (haltEvent m seq payload) = .ok t.clean := by
  obtain ⟨raw, record, -, same⟩ := terminalRecord_written seq true valid fits known written
  obtain ⟨-, -, -, -, carried⟩ :=
    @Terminal.members_values t m manifestSha256
  have carried := carried.congr same
  have applied : member raw "last_applied_raw_seq" natural = some t.lastAppliedRawSeq :=
    carried.2 ("last_applied_raw_seq", _) (by simp)
  have bound : Carries raw (provenanceDigests m manifestSha256)
      ([("record_count_before_terminal", st.recordCount), ("raw_count", st.rawCount),
        ("derived_count", st.derivedCount)] ++ provenanceNumbers m) := by
    rw [records, raws, derived]
    refine carried.sub (fun d inside => List.mem_append_right _ inside) fun n inside => ?_
    rcases List.mem_append.mp inside with own | shared
    · refine List.mem_append_left _ ?_
      simp only [List.mem_cons, List.not_mem_nil, or_false] at own ⊢
      rcases own with rfl | rfl | rfl <;> simp
    · exact List.mem_append_right _ shared
  refine bind_eq_ok.mpr ⟨_, record, ?_⟩
  simp only [known, applied]
  refine bind_eq_ok.mpr ⟨(), refuse_ok _ (not_not.mpr bound), bind_eq_ok.mpr ⟨(), refuse_ok _ ?_,
    bind_eq_ok.mpr ⟨(), refuse_ok _ ?_, rfl⟩⟩⟩
  · rintro ⟨open_, late⟩
    exact absurd (halted open_) (not_le.mpr late)
  · rintro ⟨ended, other⟩
    exact other (clean ended)

/-- The replay iteration accepts it too. -/
theorem validateReplay_written (seq : Nat) (valid : m.validate = .ok ()) (fits : t.Valid)
    (known : sessionManifestSha256 m = some manifestSha256)
    (written : canonicalJsonBytes (.obj (t.members m manifestSha256)) = some payload)
    (st : WalkState) : validateReplayTerminalGrammar m st (haltEvent m seq payload) = .ok t.clean := by
  obtain ⟨raw, record, -⟩ := terminalRecord_written seq false valid fits known written
  exact bind_eq_ok.mpr ⟨_, record, rfl⟩

end Terminals

/-- Where the loop stands after the terminal of a closed writer. -/
def endedState (w : JournalWriter) (clean : Bool) : WalkState :=
  { readerState w with terminalClean := clean, terminalSeen := true }

/-- A writer whose terminal is durable, and the records of its file. -/
structure Ended (w : JournalWriter) (events : List PersistedEvent) (clean : Bool) : Prop where
  file : w.capability.file = fileOf events
  encoded : ∀ event ∈ events, Encoded event
  scanned : advanceAll validateTerminal .start events = .ok (endedState w clean)
  replayed : advanceAll validateReplayTerminalGrammar .start events = .ok (endedState w clean)

/-- What an accepted terminal is. -/
structure TerminalOf (w : JournalWriter) (t : Terminal) (event : PersistedEvent)
    (manifestSha256 : Text) (payload : Bytes) : Prop where
  record : event = haltEvent w.sessionManifest w.nextSeq payload
  valid : t.Valid
  clean : t.clean = true → t.lastAppliedRawSeq = w.latestRawSeq
  halted : t.clean = false → t.lastAppliedRawSeq ≤ w.latestRawSeq
  digest : sessionManifestSha256 w.sessionManifest = some manifestSha256
  written : canonicalJsonBytes (.obj (t.members w.sessionManifest manifestSha256)) = some payload

theorem haltCandidate_ok {w : JournalWriter} {t : Terminal} {event : PersistedEvent} {frame : Bytes}
    (built : w.haltCandidate t = .ok (event, frame)) :
    (∃ manifestSha256 payload, TerminalOf w t event manifestSha256 payload) ∧
      encodeFrame event = .ok frame := by
  obtain ⟨payload, known, built⟩ := bind_eq_ok.mp built
  obtain ⟨rfl, encoded⟩ := candidate_ok built
  obtain ⟨fits, clean, halted, manifestSha256, digest, written⟩ := terminalPayload_ok known
  exact ⟨⟨manifestSha256, payload, rfl, fits, clean, halted, digest, written⟩, encoded⟩

/-- A frame that the capability let through is in the file. -/
theorem JournalWriter.written_file {w : JournalWriter} {frame : Bytes} {halted : Bool}
    {c : Conditions} {capability : WriteCapability} (prefixed : w.capability.walPrefixDurable = true)
    (started : w.capability.sessionStartDurable = true)
    (landed : w.written frame halted c = (.ok (), capability)) :
    capability.file = w.capability.file ++ frame := by
  cases halted with
  | true =>
      obtain ⟨-, rfl⟩ := WriteCapability.writeHaltControl_ok landed
      rfl
  | false =>
      rcases WriteCapability.writeAll_ok prefixed started landed with ⟨-, rfl⟩ | ⟨-, rfl⟩
      · rfl
      · rfl

/-- An accepted terminal ends the two in step. -/
theorem InStep.terminal {w w' : JournalWriter} {events : List PersistedEvent}
    {event : PersistedEvent} {halted : Bool} {c : Conditions} {t : Terminal} (step : InStep w events)
    (counted : t.recordCountBeforeTerminal = w.recordCount ∧ t.rawCount = w.rawCount ∧
      t.derivedCount = w.derivedCount)
    (accepted : w.append (w.haltCandidate t) halted c = (.ok event, w')) :
    (∃ manifestSha256 payload, TerminalOf w t event manifestSha256 payload) ∧
      w'.sessionManifest = w.sessionManifest ∧ w'.rawCount = w.rawCount ∧
        w'.derivedCount = w.derivedCount ∧ w'.recordCount = w.recordCount + 1 ∧
          Ended w' (events ++ [event]) t.clean := by
  obtain ⟨frame, capability, built, sequence, landed, rfl⟩ := JournalWriter.append_ok accepted
  obtain ⟨⟨manifestSha256, payload, shape⟩, frame_ok⟩ := haltCandidate_ok built
  obtain ⟨encoded, rfl⟩ := encoded_of_ok frame_ok
  have file := JournalWriter.written_file step.prefixed step.started landed
  have kind : event.recordKind = .control := shape.record ▸ rfl
  refine ⟨⟨manifestSha256, payload, shape⟩, rfl, by simp [JournalWriter.recorded, kind],
    by simp [JournalWriter.recorded, kind], rfl, ?_⟩
  have turn : ∀ check : TerminalCheck,
      check w.sessionManifest (readerState w) event = .ok t.clean →
        advanceAll check .start (events ++ [event]) =
          .ok (endedState ({ w with capability := capability }.recorded event) t.clean) := by
    intro check checked
    rw [advanceAll_append, step.read check, ok_bind]
    have later : admitLater check w.sessionManifest (readerState w) event =
        .ok { readerState w with terminalClean := t.clean, terminalSeen := true } := by
      refine bind_eq_ok.mpr ⟨(), refuse_ok _ (by simp [shape.record, haltEvent, controlEvent]),
        bind_eq_ok.mpr ⟨(), refuse_ok _ ?_, ?_⟩⟩
      · rw [shape.record]
        exact (by decide : ¬sessionHaltType = sessionStartType)
      · rw [kind]
        refine bind_eq_ok.mpr ⟨(), refuse_ok _ (by simp [shape.record, haltEvent, controlEvent]), ?_⟩
        exact bind_eq_ok.mpr ⟨_, checked, rfl⟩
    have expected : event.ingestSeq = (readerState w).expectedSeq := sequence
    have admission : admitRecord check (readerState w) event = .ok (WalkState.next
        { readerState w with terminalClean := t.clean, terminalSeen := true } event) :=
      bind_eq_ok.mpr ⟨(), refuse_ok _ (not_not.mpr expected), bind_eq_ok.mpr ⟨_, later, rfl⟩⟩
    refine bind_eq_ok.mpr ⟨_, bind_eq_ok.mpr ⟨(), refuse_ok _ Bool.false_ne_true,
      bind_eq_ok.mpr ⟨_, admission, rfl⟩⟩, ?_⟩
    simp [advanceAll, endedState, readerState, WalkState.next, JournalWriter.recorded, kind,
      file, sequence, step.numbered, JournalWriter.latestRawSeq]
  have atCounts := validateTerminal_written w.nextSeq (readerState w) step.valid shape.valid
    shape.digest shape.written counted.1.symm counted.2.1.symm counted.2.2.symm shape.clean
    shape.halted
  have atReplay := validateReplay_written w.nextSeq step.valid shape.valid shape.digest
    shape.written (readerState w)
  rw [← shape.record] at atCounts atReplay
  refine ⟨?_, ?_, turn _ atCounts, turn _ atReplay⟩
  · rw [fileOf_snoc, ← step.file]
    exact file
  · intro e inside
    rcases List.mem_append.mp inside with before | last
    · exact step.encoded e before
    · rw [List.mem_singleton.mp last]
      exact encoded

end Inci.Journal
