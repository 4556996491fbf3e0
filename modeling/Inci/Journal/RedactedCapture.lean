/-
# Journal.RedactedCapture -- what `capture_redacted_json` stores

`captureRedactedJson` parses the bytes, redacts the value in place, writes its
canonical text and sends the envelope through the checks of every capture: the
envelope's own fields and clocks, the authority, the session and, twice, the whole
of `validateCapturedInput` around the authorizer's answer.

`redacted_capture` is the property: the stored payload is the canonical text of the
redacted value, it passes its own validation and redacts to itself, it does not
depend on what the secret members held, and no payload that validation accepts
under a JSON transform holds a secret-shaped member with another value.

A refused parse raises one of several texts in the source; it is `invalid_json`
here.
-/
import Inci.Journal.Canonical
import Inci.Journal.Redaction
import Inci.Journal.WriteRead

namespace Inci.Journal

open Inci.Theory
open Inci.Theory.Json (Text text Value)

set_option autoImplicit false

def maxContentTypes : Nat := 32

structure ProvenanceEvidence where
  value : Option Text
  state : ProvenanceState
  deriving DecidableEq

/-- The fields of an issued authority that its captures repeat or check. -/
structure CaptureAuthority where
  sessionId : Text
  sourceKind : SourceKind
  sourceId : Text
  sourceEntityId : Text
  endpointId : Option Text
  endpointState : ProvenanceState
  channelId : Option Text
  channelState : ProvenanceState
  connectionEpoch : Nat
  allowedContentTypes : List Text

/-- What the authority's authorizer and clocks answer to one capture; a clock that
raises or answers no integer answers `none`. -/
structure CaptureSurroundings where
  manifest : SessionManifest
  authorizeCapture : CapturedInput → Check
  wallClockNs : Option Int
  monotonicClockNs : Option Int
  clockUncertaintyNs : Option Int

/-- The arguments of a capture besides its bytes and its authority. -/
structure CaptureRequest where
  contentType : Text
  requestId : ProvenanceEvidence
  eventType : Text
  eventVersion : Int
  sourceWallNs : Option Int
  sourceGeneratedNs : Option Int
  providerSequence : Option Text

def envelopeInvalid : String := "capture_envelope_invalid"

/-- `_exact_nonnegative_integer` of a clock's answer. -/
def clockReading (answer : Option Int) : Except String Nat :=
  match answer with
  | none => .error envelopeInvalid
  | some n => if n < 0 then .error envelopeInvalid else .ok n.toNat

/-- `_exact_nonnegative_integer` of an optional argument. -/
def optionalReading (value : Option Int) : Except String (Option Nat) :=
  match value with
  | none => .ok none
  | some n => if n < 0 then .error envelopeInvalid else .ok (some n.toNat)

/-- `_require_provenance` -/
def requireProvenance (evidence : ProvenanceEvidence) (fieldName : String) : Check :=
  recover (validateProvenance evidence.value evidence.state fieldName) (fun _ => true)
    (fieldName ++ "_provenance_invalid")

/-- `_validated_content_type` -/
def validatedContentType (authority : CaptureAuthority) (contentType : Text) : Check := do
  recover (validateContentType contentType) (fun _ => true) "content_type_not_allowed"
  refuse (contentType ∉ authority.allowedContentTypes) "content_type_not_allowed"

/-- `validate_capture_against_authority`: the authority's own authorizer performs. -/
def validateCaptureAgainstAuthority (lib : TextLibrary) (authority : CaptureAuthority)
    (captured : CapturedInput) (m : SessionManifest) : Check := do
  refuse (authority.sessionId ≠ m.sessionId) "capture_authority_binding_invalid"
  let allowed := authority.allowedContentTypes
  refuse (allowed.length < 1 ∨ maxContentTypes < allowed.length) "capture_authority_invalid"
  recover (checkAll validateContentType allowed) (fun _ => true) "capture_authority_invalid"
  refuse (¬allowed.Nodup) "capture_authority_invalid"
  refuse (captured.contentType ≠ transportContentType ∧ captured.contentType ∉ allowed)
    "content_type_not_allowed"
  refuse (¬(authority.sessionId = captured.sessionId ∧ authority.sourceKind = captured.sourceKind ∧
    authority.sourceId = captured.sourceId ∧ authority.sourceEntityId = captured.sourceEntityId ∧
    authority.endpointId = captured.endpointId ∧ authority.endpointState = captured.endpointState ∧
    authority.channelId = captured.channelId ∧ authority.channelState = captured.channelState ∧
    authority.connectionEpoch = captured.connectionEpoch)) "capture_authority_envelope_mismatch"
  validateCapturedInput lib captured m

/-- `_capture_common` -/
def captureCommon (lib : TextLibrary) (authority : CaptureAuthority) (around : CaptureSurroundings)
    (request : CaptureRequest) (payloadEncoding payloadTransform : Text) (payload : Bytes) :
    Except String CapturedInput := do
  requireProvenance request.requestId "request_id"
  recover (safeIdentifier request.eventType "event_type") (fun _ => true) envelopeInvalid
  refuse (request.eventVersion < 1) envelopeInvalid
  let sourceWallNs ← optionalReading request.sourceWallNs
  let sourceGeneratedNs ← optionalReading request.sourceGeneratedNs
  recover (optionalSafeIdentifier request.providerSequence "provider_sequence") (fun _ => true)
    envelopeInvalid
  let localWallNs ← clockReading around.wallClockNs
  let localMonotonicNs ← clockReading around.monotonicClockNs
  let uncertaintyNs ← clockReading around.clockUncertaintyNs
  refuse (maxCaptureBytes < payload.length) invalidPayload
  let manifest := around.manifest
  refuse (manifest.sessionId ≠ authority.sessionId) "authority_session_binding_invalid"
  let deleteBy :=
    if authority.sourceKind = .provider then some manifest.requiredRetentionUntilNs else none
  let candidate : CapturedInput :=
    { sessionId := authority.sessionId
      eventType := request.eventType
      eventVersion := request.eventVersion.toNat
      sourceKind := authority.sourceKind
      sourceId := authority.sourceId
      sourceEntityId := authority.sourceEntityId
      endpointId := authority.endpointId
      endpointState := authority.endpointState
      channelId := authority.channelId
      channelState := authority.channelState
      requestId := request.requestId.value
      requestIdState := request.requestId.state
      sourceWallNs := sourceWallNs
      sourceGeneratedNs := sourceGeneratedNs
      localWallNs := localWallNs
      localMonotonicNs := localMonotonicNs
      clockUncertaintyNs := uncertaintyNs
      connectionEpoch := authority.connectionEpoch
      providerSequence := request.providerSequence
      contentType := request.contentType
      payloadEncoding := payloadEncoding
      payloadTransform := payloadTransform
      retentionDeleteByNs := deleteBy
      payload := payload }
  validateCaptureAgainstAuthority lib authority candidate manifest
  around.authorizeCapture candidate
  validateCaptureAgainstAuthority lib authority candidate manifest
  pure candidate

/-- `capture_redacted_json` -/
def captureRedactedJson (lib : TextLibrary) (authority : CaptureAuthority)
    (around : CaptureSurroundings) (request : CaptureRequest) (rawJson : Bytes) :
    Except String CapturedInput := do
  validatedContentType authority request.contentType
  match parseJson rawJson with
  | none => .error "invalid_json"
  | some value => do
      let value ← redactInPlace lib true value
      match canonicalJsonBytes value with
      | none => .error "canonical_json_invalid"
      | some payload =>
          captureCommon lib authority around request (text "canonical-json-v1")
            (text "json-secret-redaction-v1") payload

/-! ## What a capture went through -/

theorem validateCaptureAgainstAuthority_spec {lib : TextLibrary} {authority : CaptureAuthority}
    {captured : CapturedInput} {m : SessionManifest}
    (valid : validateCaptureAgainstAuthority lib authority captured m = .ok ()) :
    validateCapturedInput lib captured m = .ok () := by
  simp only [validateCaptureAgainstAuthority, bind_eq_ok, exists_unit] at valid
  exact valid.2.2.2.2.2.2

/-- An envelope that leaves the capture passed its own validation. -/
theorem captureCommon_spec {lib : TextLibrary} {authority : CaptureAuthority}
    {around : CaptureSurroundings} {request : CaptureRequest} {encoding transform : Text}
    {payload : Bytes} {captured : CapturedInput}
    (answered : captureCommon lib authority around request encoding transform payload =
      .ok captured) :
    captured.payload = payload ∧ captured.payloadTransform = transform ∧
      captured.payloadEncoding = encoding ∧
        validateCapturedInput lib captured around.manifest = .ok () := by
  simp only [captureCommon, bind_eq_ok, exists_unit] at answered
  obtain ⟨-, -, -, _, -, _, -, -, _, -, _, -, _, -, -, -, -, -, again, same⟩ := answered
  cases same
  exact ⟨rfl, rfl, rfl, validateCaptureAgainstAuthority_spec again⟩

theorem redactInPlace_ok {lib : TextLibrary} {redact : Bool} {v w : Value} :
    redactInPlace lib redact v = .ok w ↔ validateAndRedactJson lib redact v = some w := by
  rw [← redactInPlace_eq]
  cases redactInPlace lib redact v with
  | error reason => exact ⟨nofun, nofun⟩
  | ok u => exact ⟨fun same => congrArg some (Except.ok.inj same), fun same =>
      congrArg Except.ok (Option.some.inj same)⟩

theorem validateAndRedactJson_redacted {lib : TextLibrary} {v w : Value}
    (passed : validateAndRedactJson lib true v = some w) : w = redacted lib v := by
  obtain ⟨r, scrubbed, limited⟩ := Option.bind_eq_some_iff.mp passed
  obtain ⟨-, same⟩ := Option.ite_none_left_eq_some.mp limited
  cases same
  exact scrub_redacted lib v scrubbed

theorem captureRedactedJson_spec {lib : TextLibrary} {authority : CaptureAuthority}
    {around : CaptureSurroundings} {request : CaptureRequest} {rawJson : Bytes}
    {captured : CapturedInput}
    (answered : captureRedactedJson lib authority around request rawJson = .ok captured) :
    ∃ v, parseJson rawJson = some v ∧
      canonicalJsonBytes (redacted lib v) = some captured.payload ∧
        captured.payloadTransform = text "json-secret-redaction-v1" ∧
          validateCapturedInput lib captured around.manifest = .ok () := by
  obtain ⟨-, -, answered⟩ := bind_eq_ok.mp answered
  cases parsed : parseJson rawJson with
  | none =>
      rw [parsed] at answered
      exact nomatch answered
  | some v =>
      rw [parsed] at answered
      obtain ⟨w, walked, answered⟩ := bind_eq_ok.mp answered
      have left := validateAndRedactJson_redacted (redactInPlace_ok.mp walked)
      cases written : canonicalJsonBytes w with
      | none =>
          rw [written] at answered
          exact nomatch answered
      | some payload =>
          rw [written] at answered
          obtain ⟨stored, transform, -, valid⟩ := captureCommon_spec answered
          exact ⟨v, rfl, by rw [← left, written, stored], transform, valid⟩

/-! ## Payloads read back -/

theorem parseJson_spec {content : Bytes} {v : Value} (parsed : parseJson content = some v) :
    Json.Readable v ∧ (Utf8.decode content).bind Json.loads = some v := by
  unfold parseJson at parsed
  obtain ⟨-, read⟩ := Option.ite_none_left_eq_some.mp parsed
  obtain ⟨cs, decoded, loaded⟩ := Option.bind_eq_some_iff.mp read
  exact ⟨Json.loads_readable (Json.decode_points decoded) loaded, read⟩

/-- The canonical bytes of a readable value read back as it, its keys in order. -/
theorem canonicalJsonBytes_read {v : Value} {content : Bytes} (readable : Json.Readable v)
    (written : canonicalJsonBytes v = some content) :
    (Utf8.decode content).bind Json.loads = some (Json.sortKeys v) := by
  obtain ⟨t, dumped, rfl⟩ := canonicalJsonBytes_eq_some.mp written
  rw [Utf8.decode_ascii (Utf8.dumps_ascii dumped), Option.bind_some, Json.loads_dumps readable dumped]

/-- What validation under the redaction transform says of a payload: it parses to a
redacted value in key order and is that value's canonical text. -/
theorem redaction_payload {lib : TextLibrary} {captured : CapturedInput}
    (transform : captured.payloadTransform = text "json-secret-redaction-v1")
    (valid : validateCapturePayload lib captured = .ok ()) :
    ∃ w, parseJson captured.payload = some w ∧ redacted lib w = w ∧
      canonicalJsonBytes w = some captured.payload := by
  have other : captured.payloadTransform ≠ text "identity-public-market-v1" := by
    rw [transform]
    decide +kernel
  rw [validateCapturePayload, if_neg other, if_pos transform] at valid
  obtain ⟨-, -, valid⟩ := bind_eq_ok.mp valid
  rw [refuse_eq_ok, Decidable.not_not] at valid
  obtain ⟨u, passed, written⟩ := Option.bind_eq_some_iff.mp valid
  obtain ⟨w, parsed, walked⟩ := Option.bind_eq_some_iff.mp passed
  obtain rfl := validateAndRedactJson_redacted walked
  obtain ⟨readable, read⟩ := parseJson_spec parsed
  have back := canonicalJsonBytes_read (readable_redacted lib w readable) written
  have sorted : w = Json.sortKeys (redacted lib w) := Option.some.inj (read.symm.trans back)
  have fixed : redacted lib w = w := by
    conv_lhs => rw [sorted, redacted_sortKeys, redacted_redacted]
    exact sorted.symm
  exact ⟨w, parsed, fixed, fixed ▸ written⟩

theorem validateCapturedInput_payload {lib : TextLibrary} {captured : CapturedInput}
    {m : SessionManifest} (valid : validateCapturedInput lib captured m = .ok ()) :
    validateCapturePayload lib captured = .ok () := by
  simp only [validateCapturedInput, bind_eq_ok, exists_unit] at valid
  exact valid.2.2.1

/-! ## Secrets do not reach the journal -/

/-- The payload of a capture passes its own validation, and redaction leaves it alone. -/
theorem captured_idempotent {lib : TextLibrary} {authority : CaptureAuthority}
    {around : CaptureSurroundings} {request : CaptureRequest} {rawJson : Bytes}
    {captured : CapturedInput}
    (answered : captureRedactedJson lib authority around request rawJson = .ok captured) :
    validateCapturedInput lib captured around.manifest = .ok () ∧
      ∃ w, parseJson captured.payload = some w ∧
        canonicalJsonBytes (redacted lib w) = some captured.payload := by
  obtain ⟨-, -, -, transform, valid⟩ := captureRedactedJson_spec answered
  obtain ⟨w, parsed, fixed, written⟩ :=
    redaction_payload transform (validateCapturedInput_payload valid)
  exact ⟨valid, w, parsed, fixed.symm ▸ written⟩

/-- Inputs that differ only inside secret-shaped members are stored alike. -/
theorem captured_alike {lib : TextLibrary} {authority other : CaptureAuthority}
    {around before : CaptureSurroundings} {request asked : CaptureRequest} {rawJson hidden : Bytes}
    {captured stored : CapturedInput} {v w : Value}
    (answered : captureRedactedJson lib authority around request rawJson = .ok captured)
    (also : captureRedactedJson lib other before asked hidden = .ok stored)
    (first : parseJson rawJson = some v) (second : parseJson hidden = some w)
    (same : SameOutsideSecrets lib v w) : captured.payload = stored.payload := by
  obtain ⟨v', parsed, written, -⟩ := captureRedactedJson_spec answered
  obtain ⟨w', read, wrote, -⟩ := captureRedactedJson_spec also
  obtain rfl := Option.some.inj (first.symm.trans parsed)
  obtain rfl := Option.some.inj (second.symm.trans read)
  rw [redacted_same lib v w same] at written
  exact Option.some.inj (written.symm.trans wrote)

/-- No payload that passes under a JSON transform holds a secret that is not the marker. -/
theorem validated_secrets {lib : TextLibrary} {captured : CapturedInput}
    (valid : validateCapturePayload lib captured = .ok ())
    (transform : captured.payloadTransform = text "identity-public-market-v1" ∨
      captured.payloadTransform = text "json-secret-redaction-v1") :
    ∃ v, parseJson captured.payload = some v ∧ ∀ key item, Holds v key item →
      lib.secretShapedKey key = true → item = .str redactedText := by
  rcases transform with identity | redaction
  · rw [validateCapturePayload, if_pos identity] at valid
    obtain ⟨-, -, valid⟩ := bind_eq_ok.mp valid
    rw [refuse_eq_ok, Bool.not_eq_true, Option.isNone_eq_false_iff] at valid
    obtain ⟨u, passed⟩ := Option.isSome_iff_exists.mp valid
    obtain ⟨v, parsed, walked⟩ := Option.bind_eq_some_iff.mp passed
    obtain ⟨r, scrubbed, -⟩ := Option.bind_eq_some_iff.mp walked
    refine ⟨v, parsed, fun key item holds secret => ?_⟩
    exact absurd ((holds_plain lib holds scrubbed).symm.trans secret) Bool.false_ne_true
  · obtain ⟨w, parsed, fixed, -⟩ := redaction_payload redaction valid
    exact ⟨w, parsed, fun key item holds => holds_redacted lib holds w fixed.symm⟩

/-- Secret redaction at capture. -/
theorem redacted_capture (lib : TextLibrary) :
    (∀ (authority : CaptureAuthority) (around : CaptureSurroundings) (request : CaptureRequest)
      (rawJson : Bytes) (captured : CapturedInput),
      captureRedactedJson lib authority around request rawJson = .ok captured →
      ∃ v, parseJson rawJson = some v ∧
        canonicalJsonBytes (redacted lib v) = some captured.payload ∧
        validateCapturedInput lib captured around.manifest = .ok () ∧
        (∃ w, parseJson captured.payload = some w ∧
          canonicalJsonBytes (redacted lib w) = some captured.payload) ∧
        ∀ (other : CaptureAuthority) (before : CaptureSurroundings) (asked : CaptureRequest)
          (hidden : Bytes) (stored : CapturedInput) (w : Value),
          captureRedactedJson lib other before asked hidden = .ok stored →
          parseJson hidden = some w → SameOutsideSecrets lib v w →
          captured.payload = stored.payload) ∧
    ∀ (captured : CapturedInput) (m : SessionManifest),
      validateCapturedInput lib captured m = .ok () →
      captured.payloadTransform = text "identity-public-market-v1" ∨
        captured.payloadTransform = text "json-secret-redaction-v1" →
      ∃ v, parseJson captured.payload = some v ∧ ∀ key item, Holds v key item →
        lib.secretShapedKey key = true → item = .str redactedText := by
  refine ⟨fun authority around request rawJson captured answered => ?_,
    fun captured m valid transform => ?_⟩
  · obtain ⟨v, parsed, written, -, -⟩ := captureRedactedJson_spec answered
    obtain ⟨valid, again⟩ := captured_idempotent answered
    exact ⟨v, parsed, written, valid, again, fun other before asked hidden stored w also read same =>
      captured_alike answered also parsed read same⟩
  · exact validated_secrets (validateCapturedInput_payload valid) transform

/-! ## Two captures that differ in a secret -/

def sampleAuthority : CaptureAuthority where
  sessionId := sampleManifest.sessionId
  sourceKind := .kalshi
  sourceId := text "kalshi"
  sourceEntityId := text "market"
  endpointId := none
  endpointState := .absent
  channelId := some (text "orderbook")
  channelState := .safeOriginal
  connectionEpoch := 1
  allowedContentTypes := [text "application/json"]

def sampleSurroundings : CaptureSurroundings :=
  ⟨sampleManifest, fun _ => .ok (), some 12, some 5, some 0⟩

def sampleRequest : CaptureRequest :=
  ⟨text "application/json", ⟨none, .absent⟩, text "book", 1, none, none, none⟩

/-- A book whose second level carries a token. -/
def secretBook (token : Value) : Value :=
  .obj [(text "yes", .arr [.int 1, .obj [(text "Auth_Token", token), (text "qty", .int 2)]])]

def bookBytes (token : String) : Bytes :=
  Utf8.ascii (text "\x7b\"yes\":[1,\x7b\"Auth_Token\":" ++ text token ++ text ",\"qty\":2\x7d]\x7d")

def redactedSample : CapturedInput :=
  { sampleCapture with
    payloadEncoding := text "canonical-json-v1"
    payloadTransform := text "json-secret-redaction-v1"
    payload := bookBytes "\"<redacted>\"" }

theorem secretBook_scrubbed (token : Value) :
    validateAndRedactJson asciiLibrary true (secretBook token) =
      some (secretBook (.str redactedText)) := by
  have root : ([] : Text) ∉ forbiddenObjects ∧ ([] : Text) ∉ environmentNames := by decide +kernel
  have yes : asciiLibrary.normalizedKey (text "yes") ∉ forbiddenObjects ∧
      asciiLibrary.normalizedKey (text "yes") ∉ environmentNames := by decide +kernel
  have named : text "yes" ≠ [] := by decide +kernel
  have others : asciiLibrary.normalizedKey (text "Auth_Token") ∉ forbiddenObjects ∧
      asciiLibrary.normalizedKey (text "qty") ∉ forbiddenObjects := by decide +kernel
  have shapes : asciiLibrary.secretShapedKey (text "yes") = false ∧
      asciiLibrary.secretShapedKey (text "Auth_Token") = true ∧
        asciiLibrary.secretShapedKey (text "qty") = false := by decide +kernel
  have room : ¬maxJsonNodes < 8 := by decide
  simp only [validateAndRedactJson, secretBook, scrub, scrubMembers, scrubItems, root.1, root.2,
    yes.1, yes.2, others.1, others.2, shapes.1, shapes.2.1, shapes.2.2, if_true, if_false, named,
    false_and, or_false, Bool.false_eq_true, Option.bind_eq_bind, Option.bind_some,
    Option.map_some, Nat.reduceAdd, room]

/-- The sample book is read from its bytes, whatever scalar its token is. -/
theorem secretBook_parsed {token : Value} {content : Bytes} (readable : Json.Readable token)
    (sorted : Json.sortKeys token = token)
    (written : canonicalJsonBytes (secretBook token) = some content)
    (plain : ¬(maxCaptureBytes < content.length ∨ byteOrderMark <+: content ∨
      scanDepth 0 false false content = false)) :
    parseJson content = some (secretBook token) := by
  have names : Json.Survives (text "yes") ∧ Json.Survives (text "Auth_Token") ∧
      Json.Survives (text "qty") :=
    ⟨Utf8.ascii_survives (by unfold Utf8.Ascii; decide),
      Utf8.ascii_survives (by unfold Utf8.Ascii; decide),
      Utf8.ascii_survives (by unfold Utf8.Ascii; decide)⟩
  have one : (Json.decimal 1).length ≤ Json.maxIntDigits ∧
      (Json.decimal 2).length ≤ Json.maxIntDigits := by decide
  have distinct : [text "Auth_Token", text "qty"].Nodup := by decide +kernel
  have whole : Json.Readable (secretBook token) :=
    ⟨List.nodup_singleton _, names.1, ⟨one.1, ⟨distinct, names.2.1, readable, names.2.2, one.2,
      trivial⟩, trivial⟩, trivial⟩
  have before : Json.keyLe (text "Auth_Token", token) (text "qty", .int 2) = true :=
    decide_eq_true (by decide +kernel : text "Auth_Token" ≤ text "qty")
  have ordered : Json.sortKeys (secretBook token) = secretBook token := by
    rw [← Json.orderKeys_eq, secretBook]
    simp only [Json.orderKeys, Json.orderMembers, Json.orderItems, Json.orderKeys_eq token, sorted,
      List.insertionSort_cons, List.insertionSort_nil, List.orderedInsert_nil,
      List.orderedInsert_cons, before, if_true]
  rw [parseJson, if_neg plain, canonicalJsonBytes_read whole written, ordered]

/-- A token of the sample book leads to the sample envelope. -/
theorem redactedSample_captured {rawJson : Bytes} {token : Value}
    (parsed : parseJson rawJson = some (secretBook token)) :
    captureRedactedJson asciiLibrary sampleAuthority sampleSurroundings sampleRequest rawJson =
      .ok redactedSample := by
  have written : canonicalJsonBytes (secretBook (.str redactedText)) = some redactedSample.payload := by
    decide +kernel
  have typed : validatedContentType sampleAuthority sampleRequest.contentType = .ok () := by
    decide +kernel
  have common : captureCommon asciiLibrary sampleAuthority sampleSurroundings sampleRequest
      (text "canonical-json-v1") (text "json-secret-redaction-v1") redactedSample.payload =
        .ok redactedSample := by
    decide +kernel
  rw [captureRedactedJson, typed, ok_bind, parsed]
  simp only
  rw [redactInPlace_ok.mpr (secretBook_scrubbed token), ok_bind, written]
  exact common

theorem redacted_capture_tokens :
    (∃ v stored, parseJson (bookBytes "\"k-1\"") = some v ∧
      canonicalJsonBytes (redacted asciiLibrary v) = some redactedSample.payload ∧
      captureRedactedJson asciiLibrary sampleAuthority sampleSurroundings sampleRequest
        (bookBytes "null") = .ok stored ∧ redactedSample.payload = stored.payload) ∧
    ∃ v, parseJson redactedSample.payload = some v ∧ ∀ key item, Holds v key item →
      asciiLibrary.secretShapedKey key = true → item = .str redactedText := by
  have survives : Json.Survives (text "k-1") :=
    Utf8.ascii_survives (by unfold Utf8.Ascii; decide)
  have first : parseJson (bookBytes "\"k-1\"") = some (secretBook (.str (text "k-1"))) :=
    secretBook_parsed survives rfl (by decide +kernel) (by decide +kernel)
  have second : parseJson (bookBytes "null") = some (secretBook .null) :=
    secretBook_parsed trivial rfl (by decide +kernel) (by decide +kernel)
  have secret : asciiLibrary.secretShapedKey (text "Auth_Token") = true := by decide +kernel
  have same : SameOutsideSecrets asciiLibrary (secretBook (.str (text "k-1"))) (secretBook .null) := by
    refine ⟨rfl, .inr ⟨by rw [SameOutsideSecrets] <;> exact nofun, ?_, trivial⟩, trivial⟩
    exact ⟨rfl, .inl secret, rfl, .inr (by rw [SameOutsideSecrets] <;> exact nofun), trivial⟩
  obtain ⟨captures, payloads⟩ := redacted_capture asciiLibrary
  obtain ⟨v, parsed, written, -, -, alike⟩ :=
    captures sampleAuthority sampleSurroundings sampleRequest _ _ (redactedSample_captured first)
  obtain rfl := Option.some.inj (first.symm.trans parsed)
  refine ⟨⟨_, redactedSample, parsed, written, redactedSample_captured second, ?_⟩, ?_⟩
  · exact alike _ _ _ _ _ _ (redactedSample_captured second) second same
  · exact payloads redactedSample sampleManifest (by decide +kernel) (.inr rfl)

end Inci.Journal
