/-
# Companion.Projection -- reading the metadata of a companion journal

The metadata of a frame is the canonical document of one registered contract.
`decodeContractMetadata` builds the contract from it, running the constructors,
and asks that its canonical bytes are the metadata; `diagnosticShape` checks the
form of a projection without building anything.

Which enumerations and contracts are registered, and what their constructors
accept, is a `Registry`; so is the reading of a decimal.  The callers answer every
failure alike, so a failure is `none` here and carries no reason.
-/
import Inci.Expert.Canonical
import Inci.Journal.Codec

namespace Inci.Companion

open Inci.Theory
open Inci.Theory.Json (Text text Value lookup)
open Inci.Journal (Bytes Members SameKeys byteOrderMark canonicalJsonBytes member string)

set_option autoImplicit false

/-! ## Decoded values -/

inductive Decoded where
  | none
  | bool (b : Bool)
  | int (n : Int)
  | str (s : Text)
  | decimal (d : Decimal)
  | enum (className value : Text)
  | tuple (items : List Decoded)
  | list (items : List Decoded)
  | dict (entries : List (Text × Decoded))
  | contract (className : Text) (fields : List (Text × Decoded))

/-- The registered types.  A contract's fields are in the order of their declaration. -/
structure Registry where
  /-- The finite decimal that `Decimal(rendered)` is. -/
  decimal : Text → Option Decimal
  /-- The values of a registered enumeration. -/
  enumeration : Text → Option (List Text)
  /-- The field names of a registered contract. -/
  contract : Text → Option (List Text)
  /-- The constructor of a contract accepts the values of its fields. -/
  postInit : Text → List Decoded → Bool

/-! ## JSON values -/

def integer : Value → Option Int
  | .int n => some n
  | _ => none

def array : Value → Option (List Value)
  | .arr items => some items
  | _ => none

def object : Value → Option Members
  | .obj members => some members
  | _ => none

/-- `value == 1` of the source, which a true flag satisfies too. -/
def equalsOne : Value → Bool
  | .int n => n == 1
  | .bool b => b
  | _ => false

/-- `content.decode("ascii")` -/
def decodeAscii (content : Bytes) : Option Text :=
  if content.all (fun byte => byte.toNat < 128) then some (content.map UInt8.toNat) else none

/-- `json.loads` of the metadata, when it holds an object. -/
def loadDocument (metadata : Bytes) : Option Members :=
  ((decodeAscii metadata).bind Json.loads).bind object

def documentKeys : List Text := [text "canonical_version", text "domain", text "value"]

def documentDomain : Text := text "inci-tennis-expert"

def documentMembers (version value : Value) : Members :=
  [(text "canonical_version", version), (text "domain", .str documentDomain), (text "value", value)]

/-- The canonical document of a projected value. -/
def document (version value : Value) : Value := .obj (documentMembers version value)

/-! ## Projecting -/

def enumKeys : List Text := [text "$enum", text "value"]

def contractKeys : List Text := [text "$contract", text "$version", text "fields"]

def enumMembers (className value : Text) : Members :=
  [(text "$enum", .str className), (text "value", .str value)]

/-- The object of a member of an enumeration. -/
def enumValue (className value : Text) : Value := .obj (enumMembers className value)

def contractMembers (className : Text) (fields : Members) : Members :=
  [(text "$contract", .str className), (text "$version", .int 1), (text "fields", .obj fields)]

/-- The object of a contract. -/
def contractValue (className : Text) (fields : Members) : Value :=
  .obj (contractMembers className fields)

mutual
/-- `_project` of a decoded value -/
def Decoded.project : Decoded → Option Value
  | .none => some .null
  | .bool b => some (.bool b)
  | .int n => if n.natAbs < Expert.integerBound then some (.int n) else none
  | .str s => some (.str s)
  | .decimal d => (Expert.canonicalDecimal d).toOption.map fun rendered =>
      .obj [(text "$decimal", .str rendered)]
  | .enum className value => some (enumValue className value)
  | .tuple items => (projectItems items).map fun projected =>
      .obj [(text "$tuple", .arr projected)]
  | .list items => (projectItems items).map fun projected => .obj [(text "$list", .arr projected)]
  | .dict entries => (projectFields entries).map fun projected =>
      .obj [(text "$dict", .arr ((projected.mergeSort Json.keyLe).map fun entry =>
        .arr [.str entry.1, entry.2]))]
  | .contract className fields => (projectFields fields).map fun projected =>
      contractValue className projected
def projectItems : List Decoded → Option (List Value)
  | [] => some []
  | d :: rest => do
      let first ← d.project
      let others ← projectItems rest
      some (first :: others)
def projectFields : List (Text × Decoded) → Option Members
  | [] => some []
  | (name, d) :: rest => do
      let first ← d.project
      let others ← projectFields rest
      some ((name, first) :: others)
end

/-- `canonical_expert_bytes` of a decoded value -/
def Decoded.canonicalBytes (d : Decoded) : Option Bytes :=
  d.project.bind fun projected => canonicalJsonBytes (document (.int 1) projected)

/-! ## Decoding -/

/-- `_decode_projection`, with the levels that are left of those it goes down. -/
def decodeProjection (r : Registry) : Nat → Value → Option Decoded
  | 0, _ => none
  | _ + 1, .null => some .none
  | _ + 1, .bool b => some (.bool b)
  | _ + 1, .int n => some (.int n)
  | _ + 1, .str s => some (.str s)
  | _ + 1, .arr _ => none
  | levels + 1, .obj raw =>
      if SameKeys [text "$decimal"] raw then do
        let rendered ← member raw "$decimal" string
        (r.decimal rendered).map .decimal
      else if SameKeys enumKeys raw then do
        let className ← member raw "$enum" string
        let value ← member raw "value" string
        let values ← r.enumeration className
        if value ∈ values then some (.enum className value) else none
      else if SameKeys [text "$tuple"] raw then do
        let items ← member raw "$tuple" array
        (items.mapM (decodeProjection r levels)).map .tuple
      else if SameKeys [text "$list"] raw then do
        let items ← member raw "$list" array
        (items.mapM (decodeProjection r levels)).map .list
      else if SameKeys [text "$dict"] raw then do
        let items ← member raw "$dict" array
        let entries ← items.mapM fun item =>
          match item with
          | .arr [.str key, value] => (decodeProjection r levels value).map fun d => (key, d)
          | _ => none
        if (entries.map Prod.fst).Nodup then some (.dict entries) else none
      else if SameKeys contractKeys raw then do
        let className ← member raw "$contract" string
        let version ← member raw "$version" integer
        let fieldValues ← member raw "fields" object
        if version ≠ 1 then none
        else
          let names ← r.contract className
          if SameKeys names fieldValues then do
            let fields ← names.mapM fun name => do
              let value ← lookup name fieldValues
              let d ← decodeProjection r levels value
              some (name, d)
            if r.postInit className (fields.map Prod.snd) then some (.contract className fields)
            else none
          else none
      else none

/-- A projection goes down 128 levels below its root. -/
def projectionLevels : Nat := 129

/-- `_decode_contract_metadata`: the fields of the contract that is asked for. -/
def decodeContractMetadata (r : Registry) (metadata : Bytes) (expected : Text) :
    Option (List (Text × Decoded)) :=
  if byteOrderMark <+: metadata then none
  else do
    let raw ← loadDocument metadata
    if SameKeys documentKeys raw ∧ member raw "canonical_version" integer = some 1 ∧
        member raw "domain" string = some documentDomain then do
      let value ← lookup (text "value") raw
      let decoded ← decodeProjection r projectionLevels value
      match decoded with
      | .contract className fields =>
          if className = expected ∧
              (Decoded.contract className fields).canonicalBytes = some metadata then some fields
          else none
      | _ => none
    else none

/-! ## The form of a projection -/

/-- Sixty-four hexadecimal digits. -/
def isDigest (value : Text) : Bool := Journal.matchesSha256 value

/-- `_validate_diagnostic_projection_shape`, with the levels that are left. -/
def diagnosticShape (r : Registry) : Nat → Value → Bool
  | 0, _ => false
  | _ + 1, .null => true
  | _ + 1, .bool _ => true
  | _ + 1, .int _ => true
  | _ + 1, .str _ => true
  | _ + 1, .arr _ => false
  | levels + 1, .obj raw =>
      if SameKeys [text "$decimal"] raw then
        (member raw "$decimal" string).any fun rendered =>
          decide (1 ≤ rendered.length ∧ rendered.length ≤ 256) &&
            (r.decimal rendered).any fun d =>
              decide ((Expert.canonicalDecimal d).toOption = some rendered)
      else if SameKeys enumKeys raw then
        (member raw "$enum" string).any fun className =>
          (member raw "value" string).any fun value =>
            (r.enumeration className).any fun values => decide (value ∈ values)
      else if SameKeys [text "$tuple"] raw then
        (member raw "$tuple" array).any fun items => items.all (diagnosticShape r levels)
      else if SameKeys [text "$list"] raw then
        (member raw "$list" array).any fun items => items.all (diagnosticShape r levels)
      else if SameKeys [text "$dict"] raw then
        (member raw "$dict" array).any fun items =>
          (items.all fun item =>
            match item with
            | .arr [.str _, value] => diagnosticShape r levels value
            | _ => false) &&
          -- each key is past the one before it
          decide ((items.filterMap fun item =>
            match item with
            | .arr (.str key :: _) => some key
            | _ => none).Pairwise (· < ·))
      else if SameKeys [text "$phase1_session_manifest_sha256"] raw then
        (member raw "$phase1_session_manifest_sha256" string).any isDigest
      else if SameKeys [text "$phase1_record_sha256"] raw then
        (member raw "$phase1_record_sha256" string).any isDigest
      else if SameKeys [text "$phase1_replay_summary_sha256"] raw then
        (member raw "$phase1_replay_summary_sha256" string).any isDigest
      else if SameKeys contractKeys raw then
        (member raw "$contract" string).any fun className =>
          (member raw "$version" integer).any fun version =>
            (member raw "fields" object).any fun fieldValues =>
              decide (version = 1) && (r.contract className).any fun names =>
                decide (SameKeys names fieldValues) && names.all fun name =>
                  (lookup name fieldValues).any (diagnosticShape r levels)
      else false

end Inci.Companion
