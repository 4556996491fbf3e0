/-
# Journal.CleanTerminal -- the terminal of a clean session

A clean session ends with a terminal that says what it was: its counts, its state, its trace and
the digests of its manifest.  `terminalMismatch_none` is what the replay compares there;
`terminal_payload` and `control_record` fix the terminal's bytes from what it says.
-/
import Inci.Journal.Recorded

namespace Inci.Journal

open Inci.Theory
open Inci.Theory.Json (Text text Value lookup)

set_option autoImplicit false

/-- The clean terminal of a session behind its records. -/
def cleanTerminal (reason : Text) (state : FoundationState) (trace stateBytes : Bytes)
    (records : List PersistedEvent) : Terminal where
  clean := true
  reason := reason
  traceSha256 := hexText trace
  finalStateSha256 := hexdigest stateBytes
  recordCountBeforeTerminal := records.length
  rawCount := records.countP fun e => decide (e.recordKind = .raw)
  derivedCount := records.countP fun e => decide (e.recordKind = .derived)
  lastAppliedRawSeq := state.lastAppliedRawSeq

/-! ## Control records -/

/-- A control record of a session is fixed by its type, its place and its payload. -/
theorem control_record {e : PersistedEvent} {m : SessionManifest} {contentType : Text}
    (valid : e.validate = .ok ()) (kind : e.recordKind = .control)
    (session : e.sessionId = m.sessionId) (wall : e.localWallNs = m.createdWallNs)
    (monotonic : e.localMonotonicNs = 0) (named : controlContentType e.eventType = some contentType) :
    e = controlEvent m e.ingestSeq e.eventType contentType e.payload := by
  have digest := valid_digest valid
  simp only [PersistedEvent.validate, PersistedEvent.validateParent, PersistedEvent.validateKind,
    kind, bind_eq_ok, exists_unit, refuse_eq_ok, not_not] at valid
  obtain ⟨version, -, -, -, -, -, -, -, -, -, -, -, -, -, -, -, -, parent, -, contract⟩ := valid
  obtain ⟨content, source, sourceId, entity, endpoint, endpointState, channel, channelState, request,
    requestState, wallNs, generated, uncertainty, epoch, sequence, retention, eventVersion, encoding,
    transform⟩ := contract
  rw [named] at content
  obtain rfl := Option.some.inj content
  rw [session] at entity
  cases e
  simp only at *
  subst_vars
  simp only [controlEvent, *]

/-! ## The reader's turns -/

/-- The first turn finds the session's manifest, and every later one keeps it. -/
theorem advanceAll_manifest {check : TerminalCheck} {start : PersistedEvent}
    {body : List PersistedEvent} {st : WalkState}
    (read : advanceAll check .start (start :: body) = .ok st) :
    ∃ m, manifestFromStart start = .ok m ∧ st.manifest = some m := by
  induction body using List.reverseRecOn generalizing st with
  | nil =>
      obtain ⟨next, stepped, read⟩ := bind_eq_ok.mp read
      obtain rfl := Except.ok.inj read
      obtain ⟨_, -, stepped⟩ := bind_eq_ok.mp stepped
      obtain ⟨admitted, admission, stepped⟩ := bind_eq_ok.mp stepped
      obtain rfl := Except.ok.inj stepped
      obtain ⟨_, -, admission⟩ := bind_eq_ok.mp admission
      obtain ⟨m, started, admission⟩ := bind_eq_ok.mp admission
      obtain rfl := Except.ok.inj admission
      exact ⟨m, started, rfl⟩
  | append_singleton front e ih =>
      rw [← List.cons_append, advanceAll_append] at read
      obtain ⟨before, earlier, read⟩ := bind_eq_ok.mp read
      obtain ⟨m, started, opened⟩ := ih earlier
      obtain ⟨next, stepped, read⟩ := bind_eq_ok.mp read
      obtain rfl := Except.ok.inj read
      obtain ⟨_, -, stepped⟩ := bind_eq_ok.mp stepped
      obtain ⟨admitted, admission, stepped⟩ := bind_eq_ok.mp stepped
      obtain rfl := Except.ok.inj stepped
      obtain ⟨_, -, admission⟩ := bind_eq_ok.mp admission
      rw [opened] at admission
      obtain ⟨later, accepted, admission⟩ := bind_eq_ok.mp admission
      obtain rfl := Except.ok.inj admission
      exact ⟨m, started, (admitLater_lastRaw accepted).1.trans opened⟩

/-- A later turn of the reader. -/
theorem advance_later {check : TerminalCheck} {st next : WalkState} {e : PersistedEvent}
    {m : SessionManifest} (opened : st.manifest = some m)
    (stepped : advance check st e = .ok next) :
    st.terminalSeen = false ∧ e.ingestSeq = st.expectedSeq ∧ e.sessionId = m.sessionId ∧
      (e.recordKind ≠ .control → next.terminalSeen = false) ∧
      (e.recordKind = .control → e.eventType = sessionHaltType ∧ next.terminalSeen = true ∧
        check m st e = .ok next.terminalClean) := by
  obtain ⟨_, reading, stepped⟩ := bind_eq_ok.mp stepped
  rw [refuse_eq_ok, Bool.not_eq_true] at reading
  obtain ⟨admitted, admission, stepped⟩ := bind_eq_ok.mp stepped
  obtain rfl := Except.ok.inj stepped
  obtain ⟨_, turn, admission⟩ := bind_eq_ok.mp admission
  rw [refuse_eq_ok, not_not] at turn
  rw [opened] at admission
  obtain ⟨later, accepted, admission⟩ := bind_eq_ok.mp admission
  obtain rfl := Except.ok.inj admission
  obtain ⟨_, session, accepted⟩ := bind_eq_ok.mp accepted
  obtain ⟨_, -, accepted⟩ := bind_eq_ok.mp accepted
  rw [refuse_eq_ok, not_not] at session
  refine ⟨reading, turn, session, ?_⟩
  cases kind : e.recordKind with
  | raw =>
      rw [kind] at accepted
      obtain rfl := Except.ok.inj accepted
      exact ⟨fun _ => reading, fun control => by cases control⟩
  | derived =>
      rw [kind] at accepted
      obtain ⟨_, -, accepted⟩ := bind_eq_ok.mp accepted
      obtain rfl := Except.ok.inj accepted
      exact ⟨fun _ => reading, fun control => by cases control⟩
  | control =>
      rw [kind] at accepted
      obtain ⟨_, halt, accepted⟩ := bind_eq_ok.mp accepted
      obtain ⟨clean, checked, accepted⟩ := bind_eq_ok.mp accepted
      obtain rfl := Except.ok.inj accepted
      rw [refuse_eq_ok, not_not] at halt
      exact ⟨fun other => absurd rfl other, fun _ => ⟨halt, rfl, checked⟩⟩

/-- A reader that has not met a terminal has read no control record but the first. -/
theorem advanceAll_ordinary {check : TerminalCheck} {start : PersistedEvent}
    {body : List PersistedEvent} {st : WalkState}
    (read : advanceAll check .start (start :: body) = .ok st) (reading : st.terminalSeen = false) :
    ∀ e ∈ body, e.recordKind ≠ .control := by
  induction body using List.reverseRecOn generalizing st with
  | nil =>
      intro e inside
      cases inside
  | append_singleton front e ih =>
      rw [← List.cons_append, advanceAll_append] at read
      obtain ⟨before, earlier, read⟩ := bind_eq_ok.mp read
      obtain ⟨m, -, opened⟩ := advanceAll_manifest earlier
      obtain ⟨next, stepped, read⟩ := bind_eq_ok.mp read
      obtain rfl := Except.ok.inj read
      obtain ⟨open_, -, -, -, ends⟩ := advance_later opened stepped
      intro f inside
      rcases List.mem_append.mp inside with front | here
      · exact ih earlier open_ f front
      · rw [List.mem_singleton.mp here]
        intro control
        rw [(ends control).2.1] at reading
        cases reading

/-- The records of a reader that has met a terminal: the start, the ordinary ones, the terminal. -/
theorem advanceAll_ended {check : TerminalCheck} {events : List PersistedEvent} {last : WalkState}
    (read : advanceAll check .start events = .ok last) (ended : last.terminalSeen = true) :
    ∃ start body terminal m st, events = start :: (body ++ [terminal]) ∧
      manifestFromStart start = .ok m ∧ advanceAll check .start (start :: body) = .ok st ∧
      (∀ e ∈ body, e.recordKind ≠ .control) ∧ terminal.recordKind = .control ∧
      terminal.eventType = sessionHaltType ∧ terminal.sessionId = m.sessionId ∧
      terminal.ingestSeq = body.length + 2 ∧ check m st terminal = .ok last.terminalClean := by
  cases events with
  | nil =>
      obtain rfl := Except.ok.inj read
      cases ended
  | cons start rest =>
      cases rest using List.reverseRecOn with
      | nil =>
          obtain ⟨next, stepped, read⟩ := bind_eq_ok.mp read
          obtain rfl := Except.ok.inj read
          obtain ⟨_, -, stepped⟩ := bind_eq_ok.mp stepped
          obtain ⟨admitted, admission, stepped⟩ := bind_eq_ok.mp stepped
          obtain rfl := Except.ok.inj stepped
          obtain ⟨_, -, admission⟩ := bind_eq_ok.mp admission
          obtain ⟨m, started, admission⟩ := bind_eq_ok.mp admission
          obtain rfl := Except.ok.inj admission
          cases ended
      | append_singleton body terminal =>
          rw [← List.cons_append, advanceAll_append] at read
          obtain ⟨st, earlier, read⟩ := bind_eq_ok.mp read
          obtain ⟨m, started, opened⟩ := advanceAll_manifest earlier
          obtain ⟨next, stepped, read⟩ := bind_eq_ok.mp read
          obtain rfl := Except.ok.inj read
          obtain ⟨reading, turn, session, stays, ends⟩ := advance_later opened stepped
          have control : terminal.recordKind = .control := by
            by_contra other
            rw [stays other] at ended
            cases ended
          obtain ⟨halt, -, checked⟩ := ends control
          have place := (start_counted.advanceAll earlier).expected
          rw [List.nil_append, List.length_cons] at place
          exact ⟨start, body, terminal, m, st, rfl, started, earlier,
            advanceAll_ordinary earlier reading, control, halt, session, turn.trans place, checked⟩

/-! ## Terminal payloads -/

theorem boolean_eq_some {v : Value} {b : Bool} (read : boolean v = some b) : v = .bool b := by
  cases v <;> simp_all [boolean]

/-- A member that was read, written back. -/
theorem member_held {α : Type} {raw : Members} {name : String} {reader : Value → Option α} {a : α}
    (write : α → Value) (inverse : ∀ {v a}, reader v = some a → v = write a)
    (read : member raw name reader = some a) : lookup (text name) raw = some (write a) := by
  obtain ⟨v, held, value⟩ := Option.bind_eq_some_iff.mp read
  rw [held, inverse value]

/-- A terminal payload whose members are those of a terminal is its canonical form. -/
theorem terminal_payload {payload : Bytes} {raw : Members} {t : Terminal} {m : SessionManifest}
    {manifestSha256 : Text} (read : strictObject payload terminalKeys = some raw)
    (version : member raw "terminal_version" natural = some 1)
    (clean : member raw "clean" boolean = some t.clean)
    (reason : member raw "reason" string = some t.reason)
    (evaluable : member raw "research_evaluable" boolean = some false)
    (carried : Carries raw
      ([("trace_sha256", t.traceSha256), ("final_state_sha256", t.finalStateSha256)] ++
        provenanceDigests m manifestSha256)
      ([("record_count_before_terminal", t.recordCountBeforeTerminal), ("raw_count", t.rawCount),
        ("derived_count", t.derivedCount), ("last_applied_raw_seq", t.lastAppliedRawSeq)] ++
        provenanceNumbers m)) :
    canonicalJsonBytes (.obj (t.members m manifestSha256)) = some payload := by
  obtain ⟨keys, canonical⟩ := strictObject_spec read
  obtain ⟨⟨known, complete⟩, distinct, -⟩ := @Terminal.members_keys t m manifestSha256
  have digest : ∀ d ∈ [("trace_sha256", t.traceSha256), ("final_state_sha256", t.finalStateSha256)] ++
      provenanceDigests m manifestSha256, lookup (text d.1) raw = some (.str d.2) :=
    fun d inside => member_held Value.str string_eq_some (carried.1 d inside)
  have number : ∀ n ∈ [("record_count_before_terminal", t.recordCountBeforeTerminal),
      ("raw_count", t.rawCount), ("derived_count", t.derivedCount),
      ("last_applied_raw_seq", t.lastAppliedRawSeq)] ++ provenanceNumbers m,
      lookup (text n.1) raw = some (.int n.2) :=
    fun n inside => member_held (fun k : Nat => .int k) natural_eq_some (carried.2 n inside)
  have written : ∀ entry ∈ t.members m manifestSha256, lookup entry.1 raw = some entry.2 := by
    intro entry inside
    simp only [Terminal.members, List.append_assoc, List.mem_append, List.mem_map] at inside
    rcases inside with first | ⟨d, shared, rfl⟩ | last
    · simp only [List.mem_cons, List.not_mem_nil, or_false] at first
      rcases first with rfl | rfl | rfl | rfl | rfl | rfl | rfl | rfl | rfl
      · exact member_held (fun k : Nat => .int k) natural_eq_some version
      · exact member_held Value.bool boolean_eq_some clean
      · exact member_held Value.str string_eq_some reason
      · exact digest ("trace_sha256", _) (by simp)
      · exact digest ("final_state_sha256", _) (by simp)
      · exact number ("record_count_before_terminal", _) (by simp)
      · exact number ("raw_count", _) (by simp)
      · exact number ("derived_count", _) (by simp)
      · exact number ("last_applied_raw_seq", _) (by simp)
    · exact digest d (List.mem_append_right _ shared)
    · simp only [List.mem_cons, List.not_mem_nil, or_false] at last
      rcases last with rfl | rfl
      · exact number ("required_retention_until_ns", _) (by simp [provenanceNumbers])
      · exact member_held Value.bool boolean_eq_some evaluable
  have same : SameMembers raw (t.members m manifestSha256) := by
    intro k
    by_cases inside : k ∈ (t.members m manifestSha256).map Prod.fst
    · obtain ⟨entry, held, rfl⟩ := List.mem_map.mp inside
      rw [written entry held, Json.lookup_of_mem distinct held]
    · have absent : lookup k (t.members m manifestSha256) = none := by
        rw [← Option.not_isSome_iff_eq_none, Json.lookup_isSome]
        exact inside
      have absent' : lookup k raw = none := by
        rw [← Option.not_isSome_iff_eq_none, Json.lookup_isSome]
        exact fun held => inside (complete k (keys.1 k held))
      rw [absent, absent']
  rw [← canonicalJsonBytes_congr same (strictObject_distinct read) distinct]
  exact canonical

/-- What the grammar accepts has the version, the reason and the label of every terminal. -/
theorem terminalRecord_ok {checksReason : Bool} {m : SessionManifest} {e : PersistedEvent}
    {raw : Members} {clean : Bool} (judged : terminalRecord checksReason m e = .ok (raw, clean)) :
    strictObject e.payload terminalKeys = some raw ∧
      member raw "terminal_version" natural = some 1 ∧ member raw "clean" boolean = some clean ∧
      member raw "research_evaluable" boolean = some false := by
  obtain ⟨_, -, judged⟩ := bind_eq_ok.mp judged
  split at judged
  · cases judged
  · next read =>
    obtain ⟨found, grammar, judged⟩ := bind_eq_ok.mp judged
    rw [pure_eq_ok, Prod.mk.injEq] at judged
    obtain ⟨rfl, rfl⟩ := judged
    refine ⟨read, ?_⟩
    unfold terminalGrammar at grammar
    split at grammar
    · next _ _ held _ =>
      obtain ⟨_, contract, grammar⟩ := bind_eq_ok.mp grammar
      obtain ⟨_, -, grammar⟩ := bind_eq_ok.mp grammar
      obtain ⟨_, -, grammar⟩ := bind_eq_ok.mp grammar
      obtain ⟨_, -, grammar⟩ := bind_eq_ok.mp grammar
      rw [pure_eq_ok] at grammar
      subst grammar
      simp only [refuse_eq_ok, not_or, not_not] at contract
      exact ⟨contract.1, held, contract.2.2⟩
    · cases grammar

/-! ## Traces -/

theorem initialTrace_digest {start : PersistedEvent} {trace : Bytes}
    (seeded : initialTrace start = .ok trace) : ∃ content, trace = Sha256.digest content := by
  simp only [initialTrace, bind_eq_ok, exists_unit, pure_eq_ok] at seeded
  obtain ⟨-, -, _, -, -, digest, -, rfl⟩ := seeded
  exact ⟨_, rfl⟩

theorem nextTrace_digest {prior trace : Bytes} {raw : PersistedEvent}
    {derived : List PersistedEvent} {state : FoundationState}
    (extended : nextTrace prior raw derived state = .ok trace) :
    ∃ content, trace = Sha256.digest content := by
  simp only [nextTrace, bind_eq_ok, exists_unit, pure_eq_ok] at extended
  obtain ⟨-, -, -, _, -, -, -, _, -, _, -, _, -, _, -, bytes, -, rfl⟩ := extended
  exact ⟨bytes, rfl⟩

theorem recordAll_digest {raws records : List PersistedEvent} {state last : FoundationState}
    {trace final : Bytes} (seeded : ∃ content, trace = Sha256.digest content)
    (recorded : recordAll state trace raws = .ok (records, last, final)) :
    ∃ content, final = Sha256.digest content := by
  induction raws generalizing state trace records with
  | nil =>
      obtain ⟨rfl, rfl, rfl⟩ := recorded
      exact seeded
  | cons e rest ih =>
      obtain ⟨reduced, done, recorded⟩ := bind_eq_ok.mp recorded
      obtain ⟨⟨others, last', final'⟩, behind, recorded⟩ := bind_eq_ok.mp recorded
      rw [pure_eq_ok] at recorded
      obtain ⟨rfl, rfl, rfl⟩ := recorded
      obtain ⟨-, -, -, -, extended⟩ := reduceRaw_ok done
      exact ih (nextTrace_digest extended) behind

theorem hexText_matches {trace : Bytes} (seeded : ∃ content, trace = Sha256.digest content) :
    matchesSha256 (hexText trace) = true := by
  obtain ⟨content, rfl⟩ := seeded
  exact hexdigest_matches content

/-- A session start that seeds the trace of a manifest is that manifest's own. -/
theorem start_record {start : PersistedEvent} {m : SessionManifest} {trace : Bytes}
    (seeded : initialTrace start = .ok trace) (held : replayManifest start = .ok m) :
    ∃ manifest, canonicalSessionManifestBytes m = some manifest ∧ start = startEvent m manifest := by
  simp only [initialTrace, bind_eq_ok, exists_unit, refuse_eq_ok, not_or, not_not] at seeded
  obtain ⟨known, ⟨first, kind, named⟩, found, read, ⟨session, -, wall, monotonic⟩, -⟩ := seeded
  unfold payloadManifest at read
  unfold replayManifest at held
  split at held
  · cases held
  · next loaded =>
    obtain rfl := Except.ok.inj held
    rw [loaded] at read
    obtain ⟨_, canonical, read⟩ := bind_eq_ok.mp read
    rw [pure_eq_ok] at read
    subst read
    rw [refuse_eq_ok, not_not] at canonical
    refine ⟨start.payload, canonical, ?_⟩
    have valid := (requireValidEvent_ok.mp known).1
    have fixed := control_record valid kind session.symm wall monotonic
      (by rw [named]; exact if_pos rfl)
    rw [first, named] at fixed
    exact fixed

/-! ## The terminal's comparison -/

theorem toOption_eq_some {ε α : Type} {attempt : Except ε α} {a : α} :
    attempt.toOption = some a ↔ attempt = .ok a := by
  cases attempt with
  | error e => simp [Except.toOption]
  | ok b => simp [Except.toOption]

/-- Nothing is reported of a terminal that says what was replayed. -/
theorem terminalMismatch_none {m : SessionManifest} {manifestSha256 : Text} {p : Progress}
    {summary : ScanSummary} {terminal : PersistedEvent} {payload : Members} :
    terminalMismatch m manifestSha256 p summary terminal payload = none ↔
      (∃ state trace content, p.state = some state ∧ p.trace = some trace ∧
        canonicalStateBytes state = .ok content ∧
        member payload "record_count_before_terminal" natural = some (summary.recordCount - 1) ∧
        member payload "raw_count" natural = some summary.rawCount ∧
        member payload "derived_count" natural = some summary.derivedCount ∧
        member payload "last_applied_raw_seq" natural = some state.lastAppliedRawSeq ∧
        member payload "final_state_sha256" string = some (hexdigest content) ∧
        member payload "trace_sha256" string = some (hexText trace)) ∧
      Carries payload (provenanceDigests m manifestSha256) (provenanceNumbers m) ∧
      terminal.localWallNs = m.createdWallNs ∧ terminal.localMonotonicNs = 0 ∧
      member payload "clean" boolean = some true ∧
      ∃ reason ∈ cleanTerminalReasons, member payload "reason" string = some reason := by
  simp only [terminalMismatch, first_eq_none, not_not, not_or, List.mem_cons, List.not_mem_nil,
    or_false, forall_eq_or_imp, forall_eq]
  constructor
  · rintro ⟨⟨⟨-, records⟩, ⟨-, raws⟩, ⟨-, derived⟩, -, applied⟩, ⟨carried, wall, monotonic⟩,
      ⟨clean, reason⟩, ⟨hashed, finalState⟩, ⟨chained, traced⟩, -⟩
    obtain ⟨digest, bound⟩ := Option.ne_none_iff_exists'.mp hashed
    obtain ⟨state, held, wrote⟩ := Option.bind_eq_some_iff.mp bound
    obtain ⟨content, written, rfl⟩ := Option.map_eq_some_iff.mp wrote
    obtain ⟨shown, found⟩ := Option.ne_none_iff_exists'.mp chained
    obtain ⟨trace, known, rfl⟩ := Option.map_eq_some_iff.mp found
    rw [bound] at finalState
    rw [found] at traced
    rw [held, Option.map_some] at applied
    exact ⟨⟨state, trace, content, held, known, toOption_eq_some.mp written, records, raws, derived,
      applied, finalState, traced⟩, carried, wall, monotonic, clean, reason⟩
  · rintro ⟨⟨state, trace, content, held, known, written, records, raws, derived, applied,
      finalState, traced⟩, carried, wall, monotonic, clean, reason⟩
    have bound : (p.state.bind fun s => Option.map hexdigest (canonicalStateBytes s).toOption) =
        some (hexdigest content) := by
      rw [held, Option.bind_some, toOption_eq_some.mpr written, Option.map_some]
    rw [bound, held, known]
    exact ⟨⟨⟨rfl, records⟩, ⟨rfl, raws⟩, ⟨rfl, derived⟩, rfl, applied⟩, ⟨carried, wall, monotonic⟩,
      ⟨clean, reason⟩, ⟨Option.some_ne_none _, finalState⟩, ⟨Option.some_ne_none _, traced⟩, trivial⟩

end Inci.Journal
