/-
# Journal.Terminal -- the terminal control record

A session ends with a control record whose payload counts the records before it
and names the digests it is bound to.  Three readers check that payload: the
journal's scan, its replay iteration and the write capability.  They share one
grammar (`terminalGrammar`), which each reads with its own texts, and differ in
what they compare it with.
-/
import Inci.Journal.Canonical
import Inci.Theory.Checks

namespace Inci.Journal

open Inci.Theory
open Inci.Theory.Json (Text text Value lookup)

set_option autoImplicit false

/-! ## The grammar -/

def cleanTerminalReasons : List Text := ["operator_stop", "session_end"].map text

def haltedTerminalReasons : List Text :=
  ["operator_halt", "initialization_failure", "capture_contract_violation", "provider_gate_denied",
    "retention_global_halt", "disk_low", "reducer_exception", "derived_validation_failure",
    "trace_exception", "ingress_backpressure", "ingress_owner_unresponsive"].map text

def permittedReasons (clean : Bool) : List Text :=
  if clean then cleanTerminalReasons else haltedTerminalReasons

/-- The digests of the payload that the manifest fixes. -/
def provenanceDigestNames : List String :=
  ["config_file_sha256", "config_canonical_sha256", "code_sha256", "session_manifest_sha256",
    "provider_manifest_file_sha256", "provider_manifest_canonical_sha256", "entitlement_id_sha256",
    "permission_artifact_sha256", "qualification_artifact_sha256", "qualification_trace_sha256",
    "adapter_code_sha256", "auth_contract_sha256", "quota_contract_sha256"]

def terminalDigestNames : List String :=
  ["trace_sha256", "final_state_sha256"] ++ provenanceDigestNames

def terminalCountNames : List String :=
  ["record_count_before_terminal", "raw_count", "derived_count", "last_applied_raw_seq",
    "required_retention_until_ns"]

/-- `_TERMINAL_KEYS` -/
def terminalKeys : List Text :=
  (["terminal_version", "clean", "reason"] ++ terminalDigestNames ++ terminalCountNames ++
    ["research_evaluable"]).map text

/-- The texts a reader of the grammar raises. -/
structure TerminalRefusals where
  contract : String
  reason : String
  digest : String
  count : String

/-- The shape of a terminal payload; the answer is whether the terminal is clean.
The replay iteration leaves the reason to the replay itself. -/
def terminalGrammar (texts : TerminalRefusals) (checksReason : Bool) (raw : Members) :
    Except String Bool :=
  match member raw "clean" boolean, member raw "reason" string with
  | some clean, some reason => do
      refuse (member raw "terminal_version" natural ≠ some 1 ∨ reason = [] ∨
        member raw "research_evaluable" boolean ≠ some false) texts.contract
      refuse (checksReason = true ∧ reason ∉ permittedReasons clean) texts.reason
      refuse (¬∀ name ∈ terminalDigestNames,
        (member raw name string).map matchesSha256 = some true) texts.digest
      refuse (¬∀ name ∈ terminalCountNames, (member raw name natural).isSome = true) texts.count
      pure clean
  | _, _ => .error texts.contract

/-- The payload has the digests and the numbers at their names. -/
def Carries (raw : Members) (digests : List (String × Text)) (numbers : List (String × Nat)) :
    Prop :=
  (∀ d ∈ digests, member raw d.1 string = some d.2) ∧
    ∀ n ∈ numbers, member raw n.1 natural = some n.2

instance (raw : Members) (digests : List (String × Text)) (numbers : List (String × Nat)) :
    Decidable (Carries raw digests numbers) := inferInstanceAs (Decidable (_ ∧ _))

/-- The digests a terminal shares with its session's manifest. -/
def provenanceDigests (m : SessionManifest) (manifestSha256 : Text) : List (String × Text) :=
  [("config_file_sha256", m.configFileSha256),
   ("config_canonical_sha256", m.configCanonicalSha256),
   ("code_sha256", m.codeSha256),
   ("session_manifest_sha256", manifestSha256),
   ("provider_manifest_file_sha256", m.providerManifestFileSha256),
   ("provider_manifest_canonical_sha256", m.providerManifestCanonicalSha256),
   ("entitlement_id_sha256", m.entitlementIdSha256),
   ("permission_artifact_sha256", m.permissionArtifactSha256),
   ("qualification_artifact_sha256", m.qualificationArtifactSha256),
   ("qualification_trace_sha256", m.qualificationTraceSha256),
   ("adapter_code_sha256", m.adapterCodeSha256),
   ("auth_contract_sha256", m.authContractSha256),
   ("quota_contract_sha256", m.quotaContractSha256)]

def provenanceNumbers (m : SessionManifest) : List (String × Nat) :=
  [("required_retention_until_ns", m.requiredRetentionUntilNs)]

/-! ## The payload -/

/-- What a closing session says beside its manifest's digests. -/
structure Terminal where
  clean : Bool
  reason : Text
  traceSha256 : Text
  finalStateSha256 : Text
  recordCountBeforeTerminal : Nat
  rawCount : Nat
  derivedCount : Nat
  lastAppliedRawSeq : Nat
  deriving DecidableEq

def Terminal.members (t : Terminal) (m : SessionManifest) (manifestSha256 : Text) : Members :=
  [(text "terminal_version", .int 1),
   (text "clean", .bool t.clean),
   (text "reason", .str t.reason),
   (text "trace_sha256", .str t.traceSha256),
   (text "final_state_sha256", .str t.finalStateSha256),
   (text "record_count_before_terminal", .int t.recordCountBeforeTerminal),
   (text "raw_count", .int t.rawCount),
   (text "derived_count", .int t.derivedCount),
   (text "last_applied_raw_seq", .int t.lastAppliedRawSeq)] ++
  (provenanceDigests m manifestSha256).map (fun d => (text d.1, .str d.2)) ++
  [(text "required_retention_until_ns", .int m.requiredRetentionUntilNs),
   (text "research_evaluable", .bool false)]

/-- What the writer checks of a terminal before it encodes one. -/
structure Terminal.Valid (t : Terminal) : Prop where
  reason : t.reason ∈ permittedReasons t.clean
  trace : matchesSha256 t.traceSha256 = true
  finalState : matchesSha256 t.finalStateSha256 = true

theorem permittedReasons_ascii : ∀ clean, ∀ reason ∈ permittedReasons clean,
    Utf8.Ascii reason ∧ reason ≠ [] := by
  simp only [Bool.forall_bool, permittedReasons, Bool.false_eq_true, if_false, if_true, Utf8.Ascii,
    cleanTerminalReasons, haltedTerminalReasons, List.map_cons, List.map_nil, Json.text_ofList]
  decide

theorem matchesSha256_ascii {value : Text} (digest : matchesSha256 value = true) :
    Utf8.Ascii value := by
  have accepted : sha256 value "" = .ok () := refuse_ok _ (by rw [digest]; exact nofun)
  exact sha256_ascii accepted

theorem hexdigest_matches (content : Bytes) : matchesSha256 (hexdigest content) = true := by
  have points : Sha256.hexDigits.all (fun d => isLowerHex d.toNat) = true := by decide
  have length : (hexdigest content).length = 64 := by
    rw [hexdigest, text, List.length_map, Sha256.hexdigest_length]
  rw [matchesSha256, length, decide_eq_true rfl, Bool.true_and, List.all_eq_true]
  intro c inside
  obtain ⟨d, digit, rfl⟩ := List.mem_map.mp inside
  exact List.all_eq_true.mp points d (by simpa [Sha256.isHexDigit] using Sha256.hexdigest_isHex content d digit)

/-- The keys in the order they are written. -/
def writtenKeys : List Text :=
  (["terminal_version", "clean", "reason", "trace_sha256", "final_state_sha256",
    "record_count_before_terminal", "raw_count", "derived_count", "last_applied_raw_seq"] ++
    provenanceDigestNames ++ ["required_retention_until_ns", "research_evaluable"]).map text

section Payload

variable {t : Terminal} {m : SessionManifest} {manifestSha256 : Text}

theorem Terminal.members_keys : SameKeys terminalKeys (t.members m manifestSha256) ∧
    ((t.members m manifestSha256).map Prod.fst).Nodup ∧
      ∀ entry ∈ t.members m manifestSha256, Utf8.Ascii entry.1 := by
  have keys : (t.members m manifestSha256).map Prod.fst = writtenKeys := by
    simp only [Terminal.members, writtenKeys, provenanceDigests, provenanceDigestNames, List.map_cons,
      List.map_nil, List.cons_append, List.nil_append]
  have facts : writtenKeys.Nodup ∧ (∀ k ∈ writtenKeys, k ∈ terminalKeys) ∧
      (∀ k ∈ terminalKeys, k ∈ writtenKeys) ∧ ∀ k ∈ writtenKeys, ∀ c ∈ k, c < 128 := by
    simp only [writtenKeys, terminalKeys, terminalDigestNames, terminalCountNames,
      provenanceDigestNames, List.cons_append, List.nil_append,
      List.map_cons, List.map_nil, Json.text_ofList]
    decide
  obtain ⟨distinct, known, complete, ascii⟩ := facts
  exact ⟨⟨keys ▸ known, keys ▸ complete⟩, keys ▸ distinct,
    fun entry inside => ascii _ (keys ▸ List.mem_map_of_mem inside)⟩

/-- A key of the payload is read as the value written there. -/
theorem Terminal.member_written {α : Type} {name : String} {v : Value} (read : Value → Option α)
    (inside : (text name, v) ∈ t.members m manifestSha256) :
    member (t.members m manifestSha256) name read = read v := by
  rw [member, Json.lookup_of_mem Terminal.members_keys.2.1 inside]
  rfl

theorem manifest_digests (valid : m.validate = .ok ())
    (digest : matchesSha256 manifestSha256 = true) :
    ∀ d ∈ provenanceDigests m manifestSha256, matchesSha256 d.2 = true := by
  simp only [SessionManifest.validate, bind_eq_ok, exists_unit, sha256, refuse_eq_ok,
    Bool.not_eq_false] at valid
  obtain ⟨-, -, -, d1, d2, d3, -, d5, d6, d7, d8, d9, d10, d11, d12, d13, -⟩ := valid
  simp only [provenanceDigests, List.mem_cons, List.not_mem_nil, or_false, forall_eq_or_imp,
    forall_eq]
  exact ⟨d1, d2, d3, digest, d5, d6, d7, d8, d9, d10, d11, d12, d13⟩

theorem Terminal.members_scalars (fits : t.Valid) (valid : m.validate = .ok ())
    (digest : matchesSha256 manifestSha256 = true) :
    ∀ entry ∈ t.members m manifestSha256, Utf8.Scalar entry.2 := by
  have strings := manifest_digests valid digest
  intro entry inside
  simp only [Terminal.members, List.append_assoc, List.mem_append, List.mem_map] at inside
  rcases inside with first | ⟨d, known, rfl⟩ | last
  · simp only [List.mem_cons, List.not_mem_nil, or_false] at first
    rcases first with rfl | rfl | rfl | rfl | rfl | rfl | rfl | rfl | rfl
    · trivial
    · trivial
    · exact (permittedReasons_ascii _ _ fits.reason).1
    · exact matchesSha256_ascii fits.trace
    · exact matchesSha256_ascii fits.finalState
    all_goals trivial
  · exact matchesSha256_ascii (strings d known)
  · simp only [List.mem_cons, List.not_mem_nil, or_false] at last
    rcases last with rfl | rfl <;> trivial

/-- A written terminal is read back. -/
theorem terminal_read (fits : t.Valid) (valid : m.validate = .ok ())
    (digest : matchesSha256 manifestSha256 = true) {content : Bytes}
    (written : canonicalJsonBytes (.obj (t.members m manifestSha256)) = some content) :
    ∃ raw, strictObject content terminalKeys = some raw ∧
      SameMembers raw (t.members m manifestSha256) :=
  strictObject_canonical Terminal.members_keys.2.1 Terminal.members_keys.1 Terminal.members_keys.2.2
    (Terminal.members_scalars fits valid digest) written

theorem Terminal.members_values :
    member (t.members m manifestSha256) "clean" boolean = some t.clean ∧
    member (t.members m manifestSha256) "reason" string = some t.reason ∧
    member (t.members m manifestSha256) "terminal_version" natural = some 1 ∧
    member (t.members m manifestSha256) "research_evaluable" boolean = some false ∧
    Carries (t.members m manifestSha256)
      ([("trace_sha256", t.traceSha256), ("final_state_sha256", t.finalStateSha256)] ++
        provenanceDigests m manifestSha256)
      ([("record_count_before_terminal", t.recordCountBeforeTerminal), ("raw_count", t.rawCount),
        ("derived_count", t.derivedCount), ("last_applied_raw_seq", t.lastAppliedRawSeq)] ++
        provenanceNumbers m) := by
  have own : ∀ entry ∈ [(text "terminal_version", Value.int 1), (text "clean", .bool t.clean),
      (text "reason", .str t.reason), (text "trace_sha256", .str t.traceSha256),
      (text "final_state_sha256", .str t.finalStateSha256),
      (text "record_count_before_terminal", .int t.recordCountBeforeTerminal),
      (text "raw_count", .int t.rawCount), (text "derived_count", .int t.derivedCount),
      (text "last_applied_raw_seq", .int t.lastAppliedRawSeq),
      (text "required_retention_until_ns", .int m.requiredRetentionUntilNs),
      (text "research_evaluable", .bool false)], entry ∈ t.members m manifestSha256 := by
    simp [Terminal.members]
  simp only [List.mem_cons, List.not_mem_nil, or_false, forall_eq_or_imp, forall_eq] at own
  obtain ⟨version, clean, reason, trace, finalState, records, raws, derived, applied, retention,
    evaluable⟩ := own
  refine ⟨member_written boolean clean, member_written string reason,
    member_written natural version, member_written boolean evaluable, ?_, ?_⟩
  · intro d inside
    rcases List.mem_append.mp inside with first | shared
    · simp only [List.mem_cons, List.not_mem_nil, or_false] at first
      rcases first with rfl | rfl
      · exact member_written string trace
      · exact member_written string finalState
    · have written : (text d.1, Value.str d.2) ∈ t.members m manifestSha256 := by
        simp only [Terminal.members, List.append_assoc, List.mem_append]
        exact Or.inr (Or.inl (List.mem_map_of_mem (f := fun d => (text d.1, Value.str d.2)) shared))
      exact member_written string written
  · simp only [provenanceNumbers, List.cons_append, List.nil_append, List.mem_cons,
      List.not_mem_nil, or_false, forall_eq_or_imp, forall_eq]
    exact ⟨member_written natural records, member_written natural raws,
      member_written natural derived, member_written natural applied,
      member_written natural retention⟩

theorem Carries.congr {raw members : Members} {digests : List (String × Text)}
    {numbers : List (String × Nat)} (same : SameMembers raw members)
    (carried : Carries members digests numbers) : Carries raw digests numbers :=
  ⟨fun d inside => (member_congr same d.1 string).trans (carried.1 d inside),
    fun n inside => (member_congr same n.1 natural).trans (carried.2 n inside)⟩

/-- Every reader's grammar accepts a written terminal. -/
theorem terminalGrammar_members {raw : Members} (texts : TerminalRefusals) (checksReason : Bool)
    (fits : t.Valid) (valid : m.validate = .ok ()) (digest : matchesSha256 manifestSha256 = true)
    (same : SameMembers raw (t.members m manifestSha256)) :
    terminalGrammar texts checksReason raw = .ok t.clean := by
  obtain ⟨clean, reason, version, evaluable, carried⟩ :=
    @Terminal.members_values t m manifestSha256
  have strings := manifest_digests valid digest
  have carried := carried.congr same
  rw [← member_congr same] at clean reason version evaluable
  rw [terminalGrammar, clean, reason]
  refine bind_eq_ok.mpr ⟨(), refuse_ok _ ?_, bind_eq_ok.mpr ⟨(), refuse_ok _ ?_,
    bind_eq_ok.mpr ⟨(), refuse_ok _ ?_, bind_eq_ok.mpr ⟨(), refuse_ok _ ?_, rfl⟩⟩⟩⟩
  · rintro (other | empty | other)
    · exact other version
    · exact (permittedReasons_ascii _ _ fits.reason).2 empty
    · exact other evaluable
  · rintro ⟨-, other⟩
    exact other fits.reason
  · rw [not_not]
    have named : ∀ name ∈ terminalDigestNames, ∃ value,
        (name, value) ∈ [("trace_sha256", t.traceSha256),
          ("final_state_sha256", t.finalStateSha256)] ++ provenanceDigests m manifestSha256 := by
      simp [terminalDigestNames, provenanceDigestNames, provenanceDigests]
    intro name inside
    obtain ⟨value, known⟩ := named name inside
    have fine : matchesSha256 value = true := by
      rcases List.mem_append.mp known with own | shared
      · simp only [List.mem_cons, Prod.mk.injEq, List.not_mem_nil, or_false] at own
        rcases own with ⟨-, rfl⟩ | ⟨-, rfl⟩
        · exact fits.trace
        · exact fits.finalState
      · exact strings _ shared
    rw [carried.1 _ known, Option.map_some, fine]
  · rw [not_not]
    have named : ∀ name ∈ terminalCountNames, ∃ value,
        (name, value) ∈ [("record_count_before_terminal", t.recordCountBeforeTerminal),
          ("raw_count", t.rawCount), ("derived_count", t.derivedCount),
          ("last_applied_raw_seq", t.lastAppliedRawSeq)] ++ provenanceNumbers m := by
      simp [terminalCountNames, provenanceNumbers]
    intro name inside
    obtain ⟨value, known⟩ := named name inside
    rw [carried.2 _ known]
    rfl

end Payload

end Inci.Journal
