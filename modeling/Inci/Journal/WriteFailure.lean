/-
# Journal.WriteFailure -- what a failed write leaves

A refused record leaves the writer as it is.  A write that failed poisons it, and a part of the
record's frame may be in the file behind the frames before it.  A terminal whose write went through
is in the file also where the close fails behind it.
-/
import Inci.Journal.WriteRead

namespace Inci.Journal

open Inci.Theory
open Inci.Theory.Json (Text text)

set_option autoImplicit false

/-! ## The capability -/

namespace WriteCapability

/-- A part of the frame came into the file, of a record whose role is known; what says that a
terminal is durable stays. -/
structure Torn (m : SessionManifest) (before after : WriteCapability) (frame : Bytes) (kept : Nat) :
    Prop where
  file : after.file = before.file ++ frame.take kept
  terminal : after.terminalWritten = before.terminalWritten
  clean : after.terminalCleanDurable = before.terminalCleanDurable
  judged : kept = 0 ∨ ∃ role, frameRole m frame = .ok role

variable {capability after : WriteCapability} {frame : Bytes} {c : Conditions}
  {m : SessionManifest} {failure : WriteFailure}

theorem Torn.none (frame : Bytes) (file : after.file = capability.file)
    (terminal : after.terminalWritten = capability.terminalWritten)
    (clean : after.terminalCleanDurable = capability.terminalCleanDurable) :
    Torn m capability after frame 0 :=
  ⟨by rw [file, List.take_zero, List.append_nil], terminal, clean, Or.inl rfl⟩

theorem append_error {durable : WriteCapability → WriteCapability}
    (judged : ∃ role, frameRole m frame = .ok role)
    (failed : capability.append frame c durable = (.error failure, after)) :
    failure = .other ∧ ∃ kept, Torn m capability after frame kept := by
  unfold append at failed
  cases ending : c.landed with
  | none =>
      rw [ending] at failed
      cases failed
  | some kept =>
      rw [ending] at failed
      cases failed
      exact ⟨rfl, kept, rfl, rfl, rfl, Or.inr judged⟩

theorem refused_torn (frame : Bytes) : Torn m capability capability frame 0 :=
  .none frame rfl rfl rfl

theorem reject_torn (frame : Bytes) : Torn m capability capability.reject frame 0 :=
  .none frame rfl rfl rfl

/-- A frame that `write_all` did not let through; without space the capability stays. -/
theorem writeAll_error (prefixed : capability.walPrefixDurable = true)
    (failed : capability.writeAll m frame c = (.error failure, after)) :
    (failure = .capacity → after = capability) ∧ ∃ kept, Torn m capability after frame kept := by
  have torn : failure = .other ∧ (∃ kept, Torn m capability after frame kept) →
      (failure = .capacity → after = capability) ∧ ∃ kept, Torn m capability after frame kept := by
    rintro ⟨rfl, torn⟩
    exact ⟨fun full => absurd full WriteFailure.noConfusion, torn⟩
  have rejected : ∀ {later : WriteCapability}, Torn m capability later frame 0 →
      ((.error .other, later) : Except WriteFailure Unit × WriteCapability) = (.error failure, after) →
        (failure = .capacity → after = capability) ∧
          ∃ kept, Torn m capability after frame kept := by
    intro later none same
    cases same
    exact ⟨fun full => absurd full WriteFailure.noConfusion, 0, none⟩
  unfold writeAll at failed
  split at failed
  · exact rejected (refused_torn frame) failed
  · split at failed
    · next fresh =>
      rw [prefixed] at fresh
      cases fresh
    · split at failed
      · exact rejected (reject_torn frame) failed
      · split at failed
        · exact rejected (reject_torn frame) failed
        · next role judged =>
          split at failed
          · exact rejected (reject_torn frame) failed
          · split at failed
            · exact torn (append_error ⟨_, judged⟩ failed)
            · exact rejected (refused_torn frame) failed
            · exact torn (append_error ⟨_, judged⟩ failed)
            · split at failed
              · cases failed
                exact ⟨fun _ => rfl, 0, refused_torn frame⟩
              · exact torn (append_error ⟨_, judged⟩ failed)

/-- A frame that `write_halt_control` did not let through. -/
theorem writeHaltControl_error
    (failed : capability.writeHaltControl m frame c = (.error failure, after)) :
    ∃ kept, Torn m capability after frame kept := by
  unfold writeHaltControl at failed
  split at failed
  · cases failed
    exact ⟨0, refused_torn frame⟩
  · split at failed
    · cases failed
      exact ⟨0, reject_torn frame⟩
    · split at failed
      · cases failed
        exact ⟨0, refused_torn frame⟩
      · simp only at failed
        split at failed
        · next judged =>
          obtain ⟨-, kept, torn⟩ := append_error ⟨_, judged⟩ failed
          exact ⟨kept, torn.file, torn.terminal, torn.clean, torn.judged⟩
        · cases failed
          exact ⟨0, .none frame rfl rfl rfl⟩

end WriteCapability

/-! ## The writer -/

namespace JournalWriter

variable {w w' : JournalWriter} {built : Candidate} {halted : Bool} {c : Conditions}
  {e : JournalError}

theorem written_error {frame : Bytes} {failure : WriteFailure} {capability : WriteCapability}
    (prefixed : w.capability.walPrefixDurable = true)
    (failed : w.written frame halted c = (.error failure, capability)) :
    (failure = .capacity ∧ halted = false → capability = w.capability) ∧
      ∃ kept, WriteCapability.Torn w.sessionManifest w.capability capability frame kept := by
  cases halted with
  | true =>
      exact ⟨fun full => absurd full.2 Bool.noConfusion, WriteCapability.writeHaltControl_error failed⟩
  | false =>
      obtain ⟨full, torn⟩ := WriteCapability.writeAll_error prefixed failed
      exact ⟨fun both => full both.1, torn⟩

theorem writeEncodedEvent_error {event : PersistedEvent} {frame : Bytes}
    (prefixed : w.capability.walPrefixDurable = true)
    (failed : w.writeEncodedEvent event frame halted c = (.error e, w')) :
    w' = w ∨ (w'.poisoned = true ∧ w'.sessionManifest = w.sessionManifest ∧
      ∃ kept, WriteCapability.Torn w.sessionManifest w.capability w'.capability frame kept) := by
  unfold writeEncodedEvent at failed
  cases writable : w.requireWritable with
  | error e =>
      rw [writable] at failed
      cases failed
      exact Or.inl rfl
  | ok u =>
      rw [writable] at failed
      by_cases other : event.ingestSeq ≠ w.nextSeq
      · simp only [if_pos other] at failed
        cases failed
        exact Or.inl rfl
      · simp only [if_neg other] at failed
        cases answer : w.written frame halted c with
        | mk result capability =>
            have unfolded := answer
            unfold written at unfolded
            rw [unfolded] at failed
            cases result with
            | ok u => cases failed
            | error failure =>
                obtain ⟨stays, kept, part⟩ := written_error prefixed answer
                by_cases full : failure = .capacity ∧ halted = false
                · simp only [if_pos full] at failed
                  cases failed
                  exact Or.inl (by rw [stays full])
                · simp only [if_neg full] at failed
                  cases failed
                  exact Or.inr ⟨rfl, rfl, kept, part.file, part.terminal, part.clean, part.judged⟩

/-- A record that was not written leaves the writer, or poisons it with a part of its frame in
the file. -/
theorem append_error (prefixed : w.capability.walPrefixDurable = true)
    (failed : w.append built halted c = (.error e, w')) :
    w' = w ∨ ∃ event frame kept, built = .ok (event, frame) ∧ w'.poisoned = true ∧
      w'.sessionManifest = w.sessionManifest ∧
        WriteCapability.Torn w.sessionManifest w.capability w'.capability frame kept := by
  unfold append at failed
  cases writable : w.requireWritable with
  | error e =>
      rw [writable] at failed
      cases failed
      exact Or.inl rfl
  | ok u =>
      rw [writable] at failed
      cases built with
      | error reason =>
          cases failed
          exact Or.inl rfl
      | ok pair =>
          obtain ⟨event, frame⟩ := pair
          rcases writeEncodedEvent_error prefixed failed with same | ⟨poisoned, session, kept, torn⟩
          · exact Or.inl same
          · exact Or.inr ⟨event, frame, kept, rfl, poisoned, session, torn⟩

end JournalWriter

/-! ## Closing -/

/-- The event is the terminal that the writer makes of `t`. -/
def Offers (w : JournalWriter) (t : Terminal) (event : PersistedEvent) : Prop :=
  ∃ manifestSha256 payload, TerminalOf w t event manifestSha256 payload

/-- How a close ends: refused, with the terminal torn, or with the terminal durable. -/
inductive Closed (w : JournalWriter) (t : Terminal) (events : List PersistedEvent)
    (result : Except JournalError PersistedEvent) (w' : JournalWriter) : Prop where
  | refused (same : w' = w) (raised : ∃ e, result = .error e)
  | torn (event : PersistedEvent) (kept : Nat) (offered : Offers w t event)
      (encoded : Encoded event) (session : w'.sessionManifest = w.sessionManifest)
      (poisoned : w'.poisoned = true)
      (part : WriteCapability.Torn w.sessionManifest w.capability w'.capability (frameOf event) kept)
      (raised : ∃ e, result = .error e)
  | durable (event : PersistedEvent) (offered : Offers w t event)
      (session : w'.sessionManifest = w.sessionManifest)
      (ended : Ended w' (events ++ [event]) t.clean)
      (written : w'.capability.terminalWritten = true)
      (cleanly : w'.capability.terminalCleanDurable = t.clean)
      (answered : result = .ok event ∨ (w'.poisoned = true ∧ ∃ e, result = .error e))

section Closing

variable {w w' : JournalWriter} {events : List PersistedEvent} {t : Terminal}
  {event : PersistedEvent} {c : Conditions}

/-- The marks of a terminal that went through. -/
theorem JournalWriter.written_terminal {halted : Bool} {capability : WriteCapability}
    (prefixed : w.capability.walPrefixDurable = true)
    (started : w.capability.sessionStartDurable = true)
    (fresh : w.capability.terminalCleanDurable = false) (encoded : Encoded event)
    (halt : event.eventType = sessionHaltType)
    (landed : w.written (frameOf event) halted c = (.ok (), capability)) :
    capability.terminalWritten = true ∧ capability.terminalCleanDurable = !halted := by
  cases halted with
  | true =>
      obtain ⟨-, rfl⟩ := WriteCapability.writeHaltControl_ok landed
      exact ⟨rfl, fresh⟩
  | false =>
      rcases WriteCapability.writeAll_ok prefixed started landed with ⟨ordinary, -⟩ | ⟨-, rfl⟩
      · rw [frameRole_frameOf _ encoded, eventRole, halt, if_neg (by decide), if_pos rfl] at ordinary
        obtain ⟨-, clean, role⟩ := terminalRole_ok ordinary
        cases role
      · exact ⟨rfl, rfl⟩

theorem haltCandidate_offers {frame : Bytes} (built : w.haltCandidate t = .ok (event, frame)) :
    Offers w t event ∧ Encoded event ∧ frameOf event = frame := by
  obtain ⟨offered, framed⟩ := haltCandidate_ok built
  obtain ⟨encoded, same⟩ := encoded_of_ok framed
  exact ⟨offered, encoded, same⟩

/-- Every way a close can end. -/
theorem JournalWriter.close_cases {clean : Bool} {reason traceSha256 finalStateSha256 : Text}
    {lastAppliedRawSeq : Nat} {closing : JournalWriter.Closing}
    {result : Except JournalError PersistedEvent} (step : InStep w events)
    (fresh : w.capability.terminalCleanDurable = false)
    (done : w.close clean reason traceSha256 finalStateSha256 lastAppliedRawSeq c closing =
      (result, w')) :
    Closed w (w.terminal clean reason traceSha256 finalStateSha256 lastAppliedRawSeq) events
      result w' := by
  unfold JournalWriter.close at done
  cases answer : w.append (w.haltCandidate (w.terminal clean reason traceSha256 finalStateSha256
      lastAppliedRawSeq)) (!clean) c with
  | mk stored after =>
      cases stored with
      | error e =>
          simp only [answer] at done
          cases done
          rcases append_error step.prefixed answer with
            same | ⟨event, frame, kept, built, poisoned, session, part⟩
          · exact .refused same ⟨e, rfl⟩
          · obtain ⟨offered, encoded, rfl⟩ := haltCandidate_offers built
            exact .torn event kept offered encoded session poisoned part ⟨e, rfl⟩
      | ok stored =>
          obtain ⟨offered, session, -, -, -, ended⟩ := step.terminal ⟨rfl, rfl, rfl⟩ answer
          obtain ⟨frame, capability, built, -, landed, rfl⟩ := append_ok answer
          obtain ⟨⟨_, _, shape⟩, encoded, rfl⟩ := haltCandidate_offers built
          have halt : stored.eventType = sessionHaltType := shape.record ▸ rfl
          obtain ⟨written, cleanly⟩ := JournalWriter.written_terminal step.prefixed step.started fresh
            encoded halt landed
          rw [Bool.not_not] at cleanly
          simp only [answer] at done
          split at done
          · cases done
            exact .durable stored offered session
              ⟨ended.file, ended.encoded, ended.scanned, ended.replayed⟩ written cleanly
              (Or.inr ⟨rfl, _, rfl⟩)
          · split at done
            · cases done
              exact .durable stored offered session
                ⟨ended.file, ended.encoded, ended.scanned, ended.replayed⟩ written cleanly
                (Or.inr ⟨rfl, _, rfl⟩)
            · cases done
              exact .durable stored offered session
                ⟨ended.file, ended.encoded, ended.scanned, ended.replayed⟩ written cleanly
                (Or.inl rfl)

end Closing

end Inci.Journal
