/-
# Journal.Capture -- the admission of captured inputs

`validateCapturedInput` revalidates an envelope: its session and transform, its
payload under the transform's contract, the scalar contract of the record it
would become, and the binding of its source.

What the payload checks ask the Unicode tables, the regular expressions and the
URL parser is a parameter (`TextLibrary`).  A payload is refused for one reason
whatever its parse or its content breaks, so these checks carry none; the order
in which a value's parts are visited then does not matter, and the walk of the
parts is a recursion on the value that counts them.
-/
import Inci.Journal.Codec
import Inci.Theory.Checks

namespace Inci.Journal

open Inci.Theory
open Inci.Theory.Json (Text text Value lookup)

set_option autoImplicit false

def maxCaptureBytes : Nat := 8388608
def maxJsonDepth : Nat := 64
def maxJsonNodes : Nat := 250000

/-- What `urlsplit` tells the safety check of a URL. -/
structure SplitUrl where
  username : Option Text
  password : Option Text
  query : Text
  fragment : Text

/-- The library functions the payload checks use. -/
structure TextLibrary where
  casefold : Text → Text
  isalnum : Nat → Bool
  upper : Text → Text
  /-- The matches of the URL pattern. -/
  urls : Text → List Text
  /-- `none` where the parser raises. -/
  urlsplit : Text → Option SplitUrl

def secretKeys : List Text :=
  ["authorization", "cookie", "setcookie", "apikey", "apitoken", "authtoken", "accesstoken",
    "refreshtoken", "bearer", "token", "secret", "secretkey", "password", "passwd", "privatekey",
    "signature", "credential", "clientsecret", "kalshiaccesskey", "kalshiaccesssignature"].map text

def forbiddenObjects : List Text := ["headers", "header", "request", "httprequest"].map text

def environmentNames : List Text := ["environment", "environ", "env"].map text

def redactedText : Text := text "<redacted>"

/-! ## Payload text -/

/-- One byte of the depth scan; `none` past the depth limit or below zero. -/
def scanDepth (depth : Nat) (inString escaped : Bool) : Bytes → Bool
  | [] => true
  | b :: rest =>
      if inString then
        if escaped then scanDepth depth true false rest
        else if b = 0x5C then scanDepth depth true true rest
        else scanDepth depth (b != 0x22) false rest
      else if b = 0x22 then scanDepth depth true false rest
      else if b = 0x7B ∨ b = 0x5B then
        decide (depth + 1 ≤ maxJsonDepth) && scanDepth (depth + 1) false false rest
      else if b = 0x7D ∨ b = 0x5D then
        decide (depth ≠ 0) && scanDepth (depth - 1) false false rest
      else scanDepth depth false false rest

/-- `_parse_json` -/
def parseJson (content : Bytes) : Option Value :=
  if maxCaptureBytes < content.length ∨ byteOrderMark <+: content ∨
      scanDepth 0 false false content = false then none
  else (Utf8.decode content).bind Json.loads

namespace TextLibrary

variable (lib : TextLibrary)

def normalizedKey (value : Text) : Text := (lib.casefold value).filter lib.isalnum

def secretShapedKey (value : Text) : Bool :=
  secretKeys.any fun suffix => decide (suffix <:+ lib.normalizedKey value)

/-- A URL that the parser refuses or that carries credentials, a query or a fragment. -/
def unsafeUrl (url : Text) : Bool :=
  match lib.urlsplit url with
  | none => true
  | some parsed =>
      parsed.username.isSome || parsed.password.isSome || decide (parsed.query ≠ []) ||
        decide (parsed.fragment ≠ [])

def unsafeString (value : Text) : Bool :=
  decide (text "-----BEGIN " <:+: lib.upper value) || decide (text "-----END " <:+: lib.upper value) ||
    (lib.urls value).any lib.unsafeUrl

end TextLibrary

/-- `_ENV_NAME`: `[A-Z][A-Z0-9_]{1,127}` -/
def isEnvironmentName (key : Text) : Bool :=
  decide (2 ≤ key.length) &&
    matchesClass (fun c => decide (65 ≤ c ∧ c ≤ 90))
      (fun c => decide (65 ≤ c ∧ c ≤ 90) || Json.isDigit c || c == 95) 127 key

section Redaction

variable (lib : TextLibrary) (redact : Bool)

mutual
/-- A value below a key: what it is after redaction and the parts that were visited. -/
def scrub (parentKey : Text) : Value → Option (Value × Nat)
  | .str s => if lib.unsafeString s then none else some (.str s, 1)
  | .arr items => (scrubItems parentKey items).map fun r => (.arr r.1, r.2 + 1)
  | .obj members =>
      let parent := if parentKey = [] then [] else lib.normalizedKey parentKey
      if parent ∈ forbiddenObjects ∨
          (parent ∈ environmentNames ∧ members.any (fun m => isEnvironmentName m.1) = true) then none
      else (scrubMembers members).map fun r => (.obj r.1, r.2 + 1)
  | v => some (v, 1)
def scrubItems (parentKey : Text) : List Value → Option (List Value × Nat)
  | [] => some ([], 0)
  | v :: rest => do
      let (v, n) ← scrub parentKey v
      let (vs, k) ← scrubItems parentKey rest
      some (v :: vs, n + k)
def scrubMembers : List (Text × Value) → Option (List (Text × Value) × Nat)
  | [] => some ([], 0)
  | (key, item) :: rest =>
      if lib.normalizedKey key ∈ forbiddenObjects then none
      else if lib.secretShapedKey key then
        if redact then
          (scrubMembers rest).map fun r => ((key, .str redactedText) :: r.1, r.2 + 1)
        else none
      else do
        let (item, n) ← scrub key item
        let (ms, k) ← scrubMembers rest
        some ((key, item) :: ms, n + k + 1)
end

/-- `_validate_and_redact_json`: the redacted value, when its parts are few and safe. -/
def validateAndRedactJson (value : Value) : Option Value :=
  (scrub lib redact [] value).bind fun r => if maxJsonNodes < r.2 then none else some r.1

end Redaction

/-! ## Payload contracts -/

def transportKeys : List Text := ["exception_type", "status_code", "error_code", "request_id"].map text

def requestKeys : List Text := ["value", "state"].map text

/-- A value that is none, or a safe identifier. -/
def isSafe (value : Option Text) : Prop := ∀ s, value = some s → matchesSafeIdentifier s = true

instance (value : Option Text) : Decidable (isSafe value) :=
  match value with
  | none => .isTrue nofun
  | some s => decidable_of_iff (matchesSafeIdentifier s = true) (by simp [isSafe])

/-- `None`, or an HTTP status. -/
def isStatus : Value → Bool
  | .null => true
  | .int n => decide (100 ≤ n ∧ n ≤ 599)
  | _ => false

/-- `_validate_transport_payload` -/
def ValidTransportPayload (captured : CapturedInput) : Prop :=
  match parseJson captured.payload with
  | some (.obj value) =>
      match lookup (text "request_id") value, lookup (text "status_code") value with
      | some (.obj request), some status =>
          SameKeys transportKeys value ∧ SameKeys requestKeys request ∧
            member request "value" (optional string) = some captured.requestId ∧
            member request "state" string = some captured.requestIdState.value ∧
            (member value "exception_type" string).map matchesSafeIdentifier = some true ∧
            isStatus status = true ∧
            (member value "error_code" (optional string)).isSome = true ∧
            isSafe (member value "error_code" (optional string)).join ∧
            canonicalJsonBytes (.obj value) = some captured.payload
      | _, _ => False
  | _ => False

instance (captured : CapturedInput) : Decidable (ValidTransportPayload captured) := by
  unfold ValidTransportPayload
  split
  · split <;> infer_instance
  · infer_instance

def invalidTransform : String := "capture_transform_invalid"
def invalidPayload : String := "capture_payload_invalid"

/-- `_validate_capture_payload` -/
def validateCapturePayload (lib : TextLibrary) (captured : CapturedInput) : Check :=
  let parsed (redact : Bool) :=
    (parseJson captured.payload).bind (validateAndRedactJson lib redact)
  if captured.payloadTransform = text "identity-public-market-v1" then do
    refuse (captured.payloadEncoding ≠ text "json") invalidTransform
    refuse ((parsed false).isNone = true) invalidPayload
  else if captured.payloadTransform = text "json-secret-redaction-v1" then do
    refuse (captured.payloadEncoding ≠ text "canonical-json-v1") invalidTransform
    refuse ((parsed true).bind canonicalJsonBytes ≠ some captured.payload) invalidPayload
  else if captured.payloadTransform = text "sanitized-transport-error-v1" then do
    refuse (captured.payloadEncoding ≠ text "canonical-json-v1" ∨
      captured.contentType ≠ transportContentType) invalidTransform
    refuse (¬ValidTransportPayload captured) invalidPayload
  else .error invalidTransform

/-! ## Envelopes -/

/-- The raw record of an envelope. -/
def CapturedInput.rawRecord (captured : CapturedInput) (ingestSeq : Nat) : PersistedEvent where
  journalVersion := 1
  recordKind := .raw
  ingestSeq := ingestSeq
  sessionId := captured.sessionId
  eventType := captured.eventType
  eventVersion := captured.eventVersion
  sourceKind := captured.sourceKind
  sourceId := captured.sourceId
  sourceEntityId := captured.sourceEntityId
  endpointId := captured.endpointId
  endpointState := captured.endpointState
  channelId := captured.channelId
  channelState := captured.channelState
  requestId := captured.requestId
  requestIdState := captured.requestIdState
  sourceWallNs := captured.sourceWallNs
  sourceGeneratedNs := captured.sourceGeneratedNs
  localWallNs := captured.localWallNs
  localMonotonicNs := captured.localMonotonicNs
  clockUncertaintyNs := captured.clockUncertaintyNs
  connectionEpoch := captured.connectionEpoch
  providerSequence := captured.providerSequence
  parentIngestSeq := none
  contentType := captured.contentType
  payloadEncoding := captured.payloadEncoding
  payloadTransform := captured.payloadTransform
  retentionDeleteByNs := captured.retentionDeleteByNs
  payloadSha256 := hexdigest captured.payload
  payload := captured.payload

/-- `_FIXED_NONPROVIDER_SOURCE_IDS` -/
def fixedSourceId : SourceKind → Option Text
  | .provider => none
  | .kalshi => some (text "kalshi")
  | .timer => some (text "timer")
  | .system => some (text "tennis-v1")

/-- `validate_captured_input` -/
def validateCapturedInput (lib : TextLibrary) (captured : CapturedInput) (m : SessionManifest) :
    Check := do
  refuse (captured.sessionId ≠ m.sessionId) "capture_session_binding_invalid"
  refuse (captured.payloadTransform ∉ capturePayloadTransforms) invalidTransform
  validateCapturePayload lib captured
  recover (captured.rawRecord 1).validate (fun _ => true) "capture_envelope_invalid"
  if captured.sourceKind = .provider then
    refuse (captured.sourceId ≠ m.providerId ∨
      captured.retentionDeleteByNs ≠ some m.requiredRetentionUntilNs)
      "capture_provider_binding_invalid"
  else
    refuse (some captured.sourceId ≠ fixedSourceId captured.sourceKind ∨
      captured.retentionDeleteByNs ≠ none) "capture_nonprovider_binding_invalid"

end Inci.Journal
