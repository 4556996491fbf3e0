/-
# Journal.TraceBinding -- the trace of a replay commits to its records

The trace is a chain of digests over the raw records, what they lead to and the states.  Two files
of one session that replay exactly with the same trace have the same raw and derived records, unless
SHA-256 collides on two of the strings that are hashed on the way (`exact_replay_binds`).
-/
import Inci.Journal.ExactReplay
import Inci.Theory.HashChain
import Inci.Theory.JsonAlike

namespace Inci.Journal

open Inci.Theory
open Inci.Theory.Json (Text text Value lookup)

set_option autoImplicit false

/-- How the trace is hashed: the seed has the digest of the start, a step has its entry behind the
trace before it. -/
def traceScheme : ChainScheme Bytes Bytes Bytes where
  hash := Sha256.digest
  seed link := traceSeedDomain ++ link
  step head link := traceStepDomain ++ head ++ link

theorem traceScheme_separates : traceScheme.Separates where
  tagged link x other := by
    intro same
    have heads : (traceSeedDomain ++ link).take 12 =
        (traceStepDomain ++ Sha256.digest x ++ other).take 12 := congrArg (List.take 12) same
    rw [List.append_assoc, List.take_append_of_le_length (by decide),
      List.take_append_of_le_length (by decide)] at heads
    exact absurd heads (by decide)
  seed one other same := List.append_cancel_left same
  step x y one other same := by
    have same' : traceStepDomain ++ (Sha256.digest x ++ one) =
        traceStepDomain ++ (Sha256.digest y ++ other) := by
      rw [← List.append_assoc, ← List.append_assoc]
      exact same
    exact List.append_inj (List.append_cancel_left same')
      ((Sha256.digest_length x).trans (Sha256.digest_length y).symm)

/-- What a step adds behind the trace before it: the entry and its length. -/
def traceLink (raw : PersistedEvent) (derived : List PersistedEvent) (state : FoundationState) :
    Except ReducerFailure Bytes := do
  let outputs ← outputDigests raw [] derived
  let record ← recordDigest raw
  let content ← canonicalStateBytes state
  let entry ← writeCanonical (traceEntry record outputs (Sha256.digest content))
  match lengthBytes entry.length with
  | some length => .ok (length ++ entry)
  | none => .error .integerConversion

/-- The links of the trace over raw records. -/
def traceLinks (state : FoundationState) (trace : Bytes) : List PersistedEvent → List Bytes
  | [] => []
  | raw :: rest =>
      match reduceRaw state trace raw with
      | .error _ => []
      | .ok reduced =>
          (traceLink raw reduced.derived reduced.state).toOption.toList ++
            traceLinks reduced.state reduced.trace rest

/-- The strings that are hashed for the trace over raw records, from the digest of the start. -/
def traceStrings (start : Bytes) (state : FoundationState) (trace : Bytes)
    (raws : List PersistedEvent) : List Bytes :=
  traceScheme.hashed start (traceLinks state trace raws) ++ raws.filterMap canonicalRecordBytes

/-- Two of the strings are different and have one digest. -/
def Collide (one other : List Bytes) : Prop :=
  ∃ x ∈ one, ∃ y ∈ other, x ≠ y ∧ Sha256.digest x = Sha256.digest y

/-! ## Links -/

section Links

variable {state last : FoundationState} {trace final : Bytes} {raw : PersistedEvent}
  {derived raws records : List PersistedEvent}

/-- A step of the trace hashes its link behind the trace before it. -/
theorem nextTrace_link (extended : nextTrace trace raw derived state = .ok final) :
    ∃ link, traceLink raw derived state = .ok link ∧
      final = traceScheme.hash (traceScheme.step trace link) := by
  simp only [nextTrace, bind_eq_ok, exists_unit, pure_eq_ok] at extended
  obtain ⟨-, -, -, _, -, -, -, outputs, outs, record, digested, content, written, entry, printed,
    bytes, stepped, rfl⟩ := extended
  unfold stepBytes at stepped
  split at stepped
  · next length packed =>
    obtain rfl := Except.ok.inj stepped
    refine ⟨length ++ entry, ?_, ?_⟩
    · simp only [traceLink, outs, digested, written, printed, packed, ok_bind]
    · show Sha256.digest _ = Sha256.digest (traceStepDomain ++ trace ++ (length ++ entry))
      rw [List.append_assoc (traceStepDomain ++ trace)]
  · cases stepped

/-- The trace of recorded records is the chain of its links. -/
theorem recordAll_links (recorded : recordAll state trace raws = .ok (records, last, final)) :
    final = traceScheme.extend trace (traceLinks state trace raws) := by
  induction raws generalizing state trace records with
  | nil =>
      obtain ⟨rfl, rfl, rfl⟩ := recorded
      rfl
  | cons e rest ih =>
      obtain ⟨reduced, done, recorded⟩ := bind_eq_ok.mp recorded
      obtain ⟨⟨others, last', final'⟩, behind, recorded⟩ := bind_eq_ok.mp recorded
      rw [pure_eq_ok] at recorded
      obtain ⟨rfl, rfl, rfl⟩ := recorded
      obtain ⟨_, -, -, -, extended⟩ := reduceRaw_ok done
      obtain ⟨link, linked, next⟩ := nextTrace_link extended
      rw [traceLinks, done]
      simp only [linked]
      rw [ih behind, next]
      rfl

end Links

/-! ## What a link fixes -/

theorem recordDigest_ok {e : PersistedEvent} {digest : Bytes} (digested : recordDigest e = .ok digest) :
    ∃ content, canonicalRecordBytes e = some content ∧ digest = Sha256.digest content := by
  unfold recordDigest at digested
  split at digested
  · next content known =>
    exact ⟨content, known, (Except.ok.inj digested).symm⟩
  · cases digested

theorem outputDigests_digest {parent : PersistedEvent} {items : List PersistedEvent} :
    ∀ {seen : List Nat} {outputs : List Bytes}, outputDigests parent seen items = .ok outputs →
      ∀ d ∈ outputs, ∃ content, d = Sha256.digest content := by
  induction items with
  | nil =>
      intro seen outputs done d inside
      obtain rfl := Except.ok.inj done
      cases inside
  | cons item rest ih =>
      intro seen outputs done d inside
      obtain ⟨_, -, done⟩ := bind_eq_ok.mp done
      obtain ⟨_, -, done⟩ := bind_eq_ok.mp done
      obtain ⟨_, -, done⟩ := bind_eq_ok.mp done
      obtain ⟨digest, digested, done⟩ := bind_eq_ok.mp done
      obtain ⟨digests, others, done⟩ := bind_eq_ok.mp done
      rw [pure_eq_ok] at done
      subst done
      rcases List.mem_cons.mp inside with rfl | later
      · obtain ⟨content, -, same⟩ := recordDigest_ok digested
        exact ⟨content, same⟩
      · exact ih others d later

theorem hexText_survives {bytes : Bytes} (digest : ∃ content, bytes = Sha256.digest content) :
    Json.Survives (hexText bytes) := by
  have matched : sha256 (hexText bytes) "" = .ok () :=
    refuse_ok _ (by rw [hexText_matches digest]; decide)
  exact Utf8.ascii_survives (sha256_ascii matched)

theorem hexText_injective {one other : Bytes} (same : hexText one = hexText other) : one = other := by
  have chars := List.map_injective_iff.mpr (fun _ _ equal => Char.toNat_inj.mp equal) same
  exact Sha256.hex_injective (String.toList_inj.mp chars)

/-- An entry of digests is read back. -/
theorem traceEntry_readable {record content : Bytes} {outputs : List Bytes}
    (digest : ∃ c, record = Sha256.digest c) (digest' : ∃ c, content = Sha256.digest c)
    (digests : ∀ d ∈ outputs, ∃ c, d = Sha256.digest c) :
    Json.Readable (.obj (traceEntry record outputs content)) := by
  have low : ∀ name ∈ ["v", "raw_record_sha256", "outputs", "state_sha256", "record_sha256"],
      Json.Survives (text name) := by
    have ascii : ∀ name ∈ ["v", "raw_record_sha256", "outputs", "state_sha256", "record_sha256"],
        Utf8.Ascii (text name) := by
      simp only [Utf8.Ascii, List.mem_cons, List.not_mem_nil, or_false, forall_eq_or_imp, forall_eq]
      decide
    exact fun name inside => Utf8.ascii_survives (ascii name inside)
  have items : ∀ v ∈ outputs.map outputObject, Json.Readable v := by
    intro v inside
    obtain ⟨d, known, rfl⟩ := List.mem_map.mp inside
    refine ⟨List.nodup_singleton _, low "record_sha256" (by simp), ?_, trivial⟩
    exact hexText_survives (digests d known)
  refine ⟨by simp only [traceEntry, List.map_cons, List.map_nil]; decide, low "v" (by simp), ?_,
    low "raw_record_sha256" (by simp), hexText_survives digest, low "outputs" (by simp),
    (Json.readableItems_iff _).mpr items, low "state_sha256" (by simp), hexText_survives digest',
    trivial⟩
  show (Json.decimal 1).length ≤ Json.maxIntDigits
  decide

/-- Steps with one link have raw records with one digest. -/
theorem traceLink_raw {raw raw' : PersistedEvent} {derived derived' : List PersistedEvent}
    {state state' : FoundationState} {link : Bytes} (linked : traceLink raw derived state = .ok link)
    (linked' : traceLink raw' derived' state' = .ok link) :
    ∃ content content', canonicalRecordBytes raw = some content ∧
      canonicalRecordBytes raw' = some content' ∧ Sha256.digest content = Sha256.digest content' := by
  have parts : ∀ {raw : PersistedEvent} {derived : List PersistedEvent} {state : FoundationState},
      traceLink raw derived state = .ok link → ∃ content members t length, 
        canonicalRecordBytes raw = some content ∧ Json.Readable (.obj members) ∧
        Json.dumps (.obj members) = some t ∧ length.length = 8 ∧ link = length ++ Utf8.ascii t ∧
        lookup (text "raw_record_sha256") members = some (.str (hexText (Sha256.digest content))) := by
    intro raw derived state done
    obtain ⟨outputs, outs, done⟩ := bind_eq_ok.mp done
    obtain ⟨record, digested, done⟩ := bind_eq_ok.mp done
    obtain ⟨bytes, written, done⟩ := bind_eq_ok.mp done
    obtain ⟨entry, printed, done⟩ := bind_eq_ok.mp done
    obtain ⟨content, known, rfl⟩ := recordDigest_ok digested
    unfold writeCanonical at printed
    split at printed
    · next found canonical =>
      obtain rfl := Except.ok.inj printed
      obtain ⟨t, dumped, rfl⟩ := canonicalJsonBytes_eq_some.mp canonical
      split at done
      · next length packed =>
        obtain rfl := Except.ok.inj done
        exact ⟨content, _, t, length, known,
          traceEntry_readable ⟨content, rfl⟩ ⟨bytes, rfl⟩ (outputDigests_digest outs), dumped,
          Layout.pack_length packed, rfl, rfl⟩
      · cases done
    · cases printed
  obtain ⟨content, members, t, length, known, readable, dumped, eight, rfl, held⟩ := parts linked
  obtain ⟨content', members', t', length', known', readable', dumped', eight', same, held'⟩ :=
    parts linked'
  obtain ⟨-, texts⟩ := List.append_inj same (eight.trans eight'.symm)
  obtain rfl := Utf8.ascii_injective (Utf8.dumps_ascii dumped) (Utf8.dumps_ascii dumped') texts
  have alike := Json.dumps_lookup readable readable' (dumped.trans dumped'.symm)
    (text "raw_record_sha256")
  rw [held, held', Option.map_some, Option.map_some, Option.some.injEq] at alike
  exact ⟨content, content', known, known', hexText_injective (Value.str.inj alike)⟩

/-! ## Chains of records -/

section Chains

variable {state last last' : FoundationState} {trace final final' : Bytes} {raw : PersistedEvent}
  {raws raws' records records' : List PersistedEvent}

/-- One step of recorded records, with its link. -/
theorem recordAll_cons (recorded : recordAll state trace (raw :: raws) = .ok (records, last, final)) :
    ∃ reduced link others, reduceRaw state trace raw = .ok reduced ∧ raw.validate = .ok () ∧
      traceLink raw reduced.derived reduced.state = .ok link ∧
      traceLinks state trace (raw :: raws) = link :: traceLinks reduced.state reduced.trace raws ∧
      recordAll reduced.state reduced.trace raws = .ok (others, last, final) := by
  obtain ⟨reduced, done, recorded⟩ := bind_eq_ok.mp recorded
  obtain ⟨⟨others, last', final'⟩, behind, recorded⟩ := bind_eq_ok.mp recorded
  rw [pure_eq_ok] at recorded
  obtain ⟨-, rfl, rfl⟩ := recorded
  obtain ⟨_, -, -, -, extended⟩ := reduceRaw_ok done
  obtain ⟨link, linked, -⟩ := nextTrace_link extended
  have valid : raw.validate = .ok () := by
    obtain ⟨_, -, extended⟩ := bind_eq_ok.mp extended
    obtain ⟨_, known, -⟩ := bind_eq_ok.mp extended
    exact (requireValidEvent_ok.mp known).1
  refine ⟨reduced, link, others, done, valid, linked, ?_, behind⟩
  rw [traceLinks, done]
  simp only [linked]
  rfl

/-- Raw records with one list of links are the same, where their digests do not collide. -/
theorem traceLinks_injective (recorded : recordAll state trace raws = .ok (records, last, final))
    (recorded' : recordAll state trace raws' = .ok (records', last', final'))
    (free : traceScheme.CollisionFree (raws.filterMap canonicalRecordBytes)
      (raws'.filterMap canonicalRecordBytes))
    (same : traceLinks state trace raws = traceLinks state trace raws') : raws = raws' := by
  induction raws generalizing raws' state trace records records' with
  | nil =>
      cases raws' with
      | nil => rfl
      | cons f others =>
          obtain ⟨_, _, _, -, -, -, shape, -⟩ := recordAll_cons recorded'
          rw [shape] at same
          cases same
  | cons e rest ih =>
      obtain ⟨reduced, link, _, done, valid, linked, shape, behind⟩ := recordAll_cons recorded
      cases raws' with
      | nil =>
          rw [shape] at same
          cases same
      | cons f others =>
          obtain ⟨reduced', link', _, done', valid', linked', shape', behind'⟩ :=
            recordAll_cons recorded'
          rw [shape, shape'] at same
          obtain ⟨rfl, later⟩ := List.cons.inj same
          obtain ⟨content, content', known, known', digests⟩ := traceLink_raw linked linked'
          obtain rfl : content = content' := free content (List.mem_filterMap.mpr ⟨e, by simp, known⟩)
            content' (List.mem_filterMap.mpr ⟨f, by simp, known'⟩) digests
          obtain ⟨pair, encoded, encoded'⟩ := canonicalRecordBytes_injective known known'
          obtain rfl : e = f := encodeRecord_injective valid valid' encoded encoded'
          obtain rfl := Except.ok.inj (done.symm.trans done')
          rw [ih behind behind' (fun x inside y inside' => free x (by
            rw [List.filterMap_cons_some known]
            exact List.mem_cons_of_mem _ inside) y (by
            rw [List.filterMap_cons_some known]
            exact List.mem_cons_of_mem _ inside')) later]

end Chains

/-! ## Exact replays -/

/-- The trace of a session starts with the digest of its start. -/
theorem initialTrace_seed {start : PersistedEvent} {trace : Bytes}
    (seeded : initialTrace start = .ok trace) : ∃ digest, recordDigest start = .ok digest ∧
      trace = traceScheme.hash (traceScheme.seed digest) := by
  simp only [initialTrace, bind_eq_ok, exists_unit, pure_eq_ok] at seeded
  obtain ⟨-, -, _, -, -, digest, known, rfl⟩ := seeded
  exact ⟨digest, known, rfl⟩

/-- What a file holds that replays exactly: its raw records lead to its records and to the trace that
the replay answers. -/
theorem exact_chain {m : SessionManifest} {digest : Text} {file : Bytes} {r : ReplayResult}
    (valid : m.validate = .ok ()) (done : replay m digest file = .ok r)
    (exactly : r.exactReplay = true) :
    ∃ manifest state trace records last final, canonicalSessionManifestBytes m = some manifest ∧
      openingOf m (startEvent m manifest) = .ok (state, trace) ∧
      recordAll state trace (rawsOf (iterReplayRecords file).1) = .ok (records, last, final) ∧
      (iterReplayRecords file).1.filter (fun e => decide (e.recordKind ≠ .control)) = records ∧
      r.traceSha256 = some (hexText final) := by
  obtain ⟨known, reason, listed, events, s, walked, whole, journal⟩ := exact_records ⟨r, done, exactly⟩
  obtain ⟨r', manifest, state, trace, records, last, final, done', -, canonical, opened, recorded, -,
    traced, -⟩ := journal_answer valid known listed walked whole journal
  obtain rfl := Except.ok.inj (done.symm.trans done')
  rw [walked]
  refine ⟨manifest, state, trace, records, last, final, canonical, opened, recorded, ?_, traced⟩
  obtain ⟨manifest', state', trace', records', _, _, _, _, canonical', opened', recorded', -, -,
    shape⟩ := journalRecords_ok journal
  obtain rfl := Option.some.inj (canonical.symm.trans canonical')
  obtain ⟨rfl, rfl⟩ := Prod.mk.inj (Except.ok.inj (opened.symm.trans opened'))
  obtain ⟨rfl, -⟩ := Prod.mk.inj (Except.ok.inj (recorded.symm.trans recorded'))
  have ordinary := (recordAll_raws recorded).2
  have kept : records.filter (fun e => decide (e.recordKind ≠ .control)) = records :=
    List.filter_eq_self.mpr fun e inside => decide_eq_true (ordinary e inside)
  show events.filter _ = _
  rw [shape, List.filter_cons_of_neg (by simp [startEvent, controlEvent]), List.filter_append, kept,
    List.filter_cons_of_neg (by simp [haltEvent, controlEvent]), List.filter_nil, List.append_nil]

/-- Two files of one session that replay exactly with one trace have the same raw and derived
records, or SHA-256 collides on two of the strings that are hashed for their traces. -/
theorem exact_replay_binds {m : SessionManifest} {digest : Text} {file file' : Bytes}
    {r r' : ReplayResult} (valid : m.validate = .ok ()) (done : replay m digest file = .ok r)
    (exactly : r.exactReplay = true) (done' : replay m digest file' = .ok r')
    (exactly' : r'.exactReplay = true) (same : r.traceSha256 = r'.traceSha256) :
    (iterReplayRecords file).1.filter (fun e => decide (e.recordKind ≠ .control)) =
        (iterReplayRecords file').1.filter (fun e => decide (e.recordKind ≠ .control)) ∨
      ∃ manifest start state trace, canonicalSessionManifestBytes m = some manifest ∧
        recordDigest (startEvent m manifest) = .ok start ∧
        openingOf m (startEvent m manifest) = .ok (state, trace) ∧
        Collide (traceStrings start state trace (rawsOf (iterReplayRecords file).1))
          (traceStrings start state trace (rawsOf (iterReplayRecords file').1)) := by
  obtain ⟨manifest, state, trace, records, last, final, canonical, opened, recorded, kept, traced⟩ :=
    exact_chain valid done exactly
  obtain ⟨manifest', state', trace', records', last', final', canonical', opened', recorded', kept',
    traced'⟩ := exact_chain valid done' exactly'
  obtain rfl := Option.some.inj (canonical.symm.trans canonical')
  obtain ⟨rfl, rfl⟩ := Prod.mk.inj (Except.ok.inj (opened.symm.trans opened'))
  obtain ⟨start, known, seed⟩ := initialTrace_seed (openingOf_trace opened)
  rw [traced, traced', Option.some.injEq] at same
  obtain rfl := hexText_injective same
  by_cases free : Collide (traceStrings start state trace (rawsOf (iterReplayRecords file).1))
      (traceStrings start state trace (rawsOf (iterReplayRecords file').1))
  · exact Or.inr ⟨manifest, start, state, trace, canonical, known, opened, free⟩
  · refine Or.inl ?_
    have apart : ∀ x ∈ traceStrings start state trace (rawsOf (iterReplayRecords file).1),
        ∀ y ∈ traceStrings start state trace (rawsOf (iterReplayRecords file').1),
        Sha256.digest x = Sha256.digest y → x = y := by
      intro x inside y inside' equal
      by_contra other
      exact free ⟨x, inside, y, inside', other, equal⟩
    have chains : traceScheme.chain start (traceLinks state trace (rawsOf (iterReplayRecords file).1)) =
        traceScheme.chain start (traceLinks state trace (rawsOf (iterReplayRecords file').1)) := by
      rw [ChainScheme.chain, ChainScheme.chain, ← seed]
      exact (recordAll_links recorded).symm.trans (recordAll_links recorded')
    obtain ⟨-, links⟩ := traceScheme.chain_injective traceScheme_separates
      (fun x inside y inside' => apart x (List.mem_append_left _ inside) y
        (List.mem_append_left _ inside')) chains
    have raws := traceLinks_injective recorded recorded' (fun x inside y inside' =>
      apart x (List.mem_append_right _ inside) y (List.mem_append_right _ inside')) links
    rw [raws, recorded'] at recorded
    rw [kept, kept', (Prod.mk.inj (Except.ok.inj recorded)).1]

/-- The sample session is closed at once, and its journal is replayed. -/
theorem sample_replays {reason : Text} (permitted : reason ∈ cleanTerminalReasons) :
    ∃ payload state trace events r, canonicalSessionManifestBytes sampleManifest = some payload ∧
      openingOf sampleManifest (startEvent sampleManifest payload) = .ok (state, trace) ∧
      journalRecords sampleManifest reason [] = some events ∧
      replay sampleManifest (hexdigest payload) (fileOf events) = .ok r ∧ r.exactReplay = true ∧
      r.traceSha256 = some (hexText trace) := by
  obtain ⟨payload, state, trace, content, halt, -, canonical, step, opened, written, closed⟩ :=
    sample_closes (show reason ∈ permittedReasons true from permitted)
  obtain ⟨after, appended, -⟩ := close_ok (Prod.ext closed rfl)
  obtain ⟨shape, -, -, -, -, ended⟩ := step.terminal ⟨rfl, rfl, rfl⟩ appended
  have nothing : recordAll state trace [] = .ok ([], state, trace) := rfl
  have journal := step.journal rfl canonical opened nothing written shape
  obtain ⟨r, done, exactly, -, traced, -⟩ := ended.replays sampleManifest_valid canonical opened
    nothing permitted journal rfl
  rw [ended.file] at done
  exact ⟨payload, state, trace, _, r, canonical, opened, journal, done, exactly, traced⟩

/-- The journals of the sample session for the two reasons to close it. -/
theorem exact_replay_binds_closed : ∃ digest events events' r r',
    journalRecords sampleManifest (text "operator_stop") [] = some events ∧
      journalRecords sampleManifest (text "session_end") [] = some events' ∧
      replay sampleManifest digest (fileOf events) = .ok r ∧ r.exactReplay = true ∧
      replay sampleManifest digest (fileOf events') = .ok r' ∧ r'.exactReplay = true ∧
      ((iterReplayRecords (fileOf events)).1.filter (fun e => decide (e.recordKind ≠ .control)) =
        (iterReplayRecords (fileOf events')).1.filter (fun e => decide (e.recordKind ≠ .control)) ∨
      ∃ manifest start state trace, canonicalSessionManifestBytes sampleManifest = some manifest ∧
        recordDigest (startEvent sampleManifest manifest) = .ok start ∧
        openingOf sampleManifest (startEvent sampleManifest manifest) = .ok (state, trace) ∧
        Collide (traceStrings start state trace (rawsOf (iterReplayRecords (fileOf events)).1))
          (traceStrings start state trace (rawsOf (iterReplayRecords (fileOf events')).1))) := by
  obtain ⟨payload, state, trace, events, r, canonical, opened, journal, done, exactly, traced⟩ :=
    sample_replays (show text "operator_stop" ∈ cleanTerminalReasons by decide)
  obtain ⟨payload', state', trace', events', r', canonical', opened', journal', done', exactly',
    traced'⟩ := sample_replays (show text "session_end" ∈ cleanTerminalReasons by decide)
  obtain rfl := Option.some.inj (canonical.symm.trans canonical')
  obtain ⟨rfl, rfl⟩ := Prod.mk.inj (Except.ok.inj (opened.symm.trans opened'))
  exact ⟨_, events, events', r, r', journal, journal', done, exactly, done', exactly',
    exact_replay_binds sampleManifest_valid done exactly done' exactly'
      (traced.trans traced'.symm)⟩

end Inci.Journal
