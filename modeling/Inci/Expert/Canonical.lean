/-
# Expert.Canonical -- the canonical encoding and the contract digest

`PyValue` is a value the encoder accepts, with a registered dataclass reduced to
its class name and its fields in declaration order.  `project` is `_project`: it
refuses an integer at the bound and a decimal longer than 256 characters, and it
sorts the keys of a dictionary.  The value is a tree, so the cycle check of the
source has nothing to find.
-/
import Inci.Expert.Fields
import Inci.Theory.Json

namespace Inci.Expert

open Inci.Theory
open Inci.Theory.Json (Text text Value)

set_option autoImplicit false

inductive PyValue where
  | none
  | bool (b : Bool)
  | int (n : Int)
  | str (s : Text)
  | decimal (d : Decimal)
  | enum (className value : String)
  | tuple (items : List PyValue)
  | dict (entries : List (String × PyValue))
  | contract (className : String) (fields : List (String × PyValue))

namespace PyValue

/-- A `str` of the source. -/
def text (s : String) : PyValue := .str (Json.text s)

def nat (n : Nat) : PyValue := .int n

/-- An optional field: the value, or `None`. -/
def option {α : Type} (encode : α → PyValue) : Option α → PyValue
  | Option.none => .none
  | some a => encode a

end PyValue

/-! ## Registered enumerations -/

def PlayerSide.py (e : PlayerSide) : PyValue := .enum "PlayerSide" e.value
def ContractSide.py (e : ContractSide) : PyValue := .enum "ContractSide" e.value
def MatchStatus.py (e : MatchStatus) : PyValue := .enum "MatchStatus" e.value
def MatchFormat.py (e : MatchFormat) : PyValue := .enum "MatchFormat" e.value
def TerminationKind.py (e : TerminationKind) : PyValue := .enum "TerminationKind" e.value
def ProviderLifecycleKind.py (e : ProviderLifecycleKind) : PyValue := .enum "ProviderLifecycleKind" e.value
def ScoreValue.py (e : ScoreValue) : PyValue := .enum "ScoreValue" e.value
def TransitionDisposition.py (e : TransitionDisposition) : PyValue := .enum "TransitionDisposition" e.value
def TennisTransitionReason.py (e : TennisTransitionReason) : PyValue := .enum "TennisTransitionReason" e.value
def MarketStatus.py (e : MarketStatus) : PyValue := .enum "MarketStatus" e.value
def BookEventKind.py (e : BookEventKind) : PyValue := .enum "BookEventKind" e.value
def SyncInputKind.py (e : SyncInputKind) : PyValue := .enum "SyncInputKind" e.value

/-! ## Decimals -/

/-- The least number of places that makes `value * 10 ^ places` an integer. -/
def places (d : Decimal) : Nat :=
  Nat.find (p := fun k => ((d.value * 10 ^ k).den = 1)) (by
    obtain ⟨k, digits, exact⟩ := d.finite
    exact ⟨k, by rw [exact]; rfl⟩)

/-- The plain notation of a decimal: no exponent, no trailing zeros of a fraction. -/
def plainDecimal (d : Decimal) : Text :=
  let scaled := (d.value * 10 ^ places d).num
  let sign : Text := if scaled < 0 then [45] else []
  let digits := Json.decimal scaled.natAbs
  if places d = 0 then sign ++ digits
  else
    let padded := List.replicate (places d + 1 - digits.length) 48 ++ digits
    let whole := padded.length - places d
    sign ++ padded.take whole ++ 46 :: padded.drop whole

/-- `_canonical_decimal`; its length test compares the length of this notation. -/
def canonicalDecimal (d : Decimal) : Except ExpertError Text := do
  refuse (256 < (plainDecimal d).length) (.contract "decimal_length")
  pure (plainDecimal d)

/-! ## The projection -/

def entryLe (a b : String × Value) : Bool := decide (text a.1 ≤ text b.1)

mutual
def project : PyValue → Except ExpertError Value
  | .none => .ok .null
  | .bool b => .ok (.bool b)
  | .int n => do
      refuse (integerBound ≤ n.natAbs) (.contract "value")
      pure (.int n)
  | .str s => .ok (.str s)
  | .decimal d => do
      let rendered ← canonicalDecimal d
      pure (.obj [(text "$decimal", .str rendered)])
  | .enum className value =>
      .ok (.obj [(text "$enum", .str (text className)), (text "value", .str (text value))])
  | .tuple items => do
      let projected ← projectAll items
      pure (.obj [(text "$tuple", .arr projected)])
  | .dict entries => do
      let projected ← projectFields entries
      pure (.obj [(text "$dict", .arr ((projected.mergeSort entryLe).map fun entry =>
        .arr [.str (text entry.1), entry.2]))])
  | .contract className fields => do
      let projected ← projectFields fields
      pure (.obj [(text "$contract", .str (text className)), (text "$version", .int 1),
        (text "fields", .obj (projected.map fun entry => (text entry.1, entry.2)))])
def projectAll : List PyValue → Except ExpertError (List Value)
  | [] => .ok []
  | v :: rest => do
      let first ← project v
      let others ← projectAll rest
      pure (first :: others)
def projectFields : List (String × PyValue) → Except ExpertError (List (String × Value))
  | [] => .ok []
  | (name, v) :: rest => do
      let first ← project v
      let others ← projectFields rest
      pure ((name, first) :: others)
end

def asciiBytes (t : Text) : List UInt8 := t.map UInt8.ofNat

/-- `canonical_expert_bytes`; every integer is below the bound, so `json.dumps`
never meets its digit limit. -/
def canonicalExpertBytes (value : PyValue) : Except ExpertError (List UInt8) := do
  let projected ← project value
  pure (asciiBytes (Json.render (Json.sortKeys (.obj [
    (text "canonical_version", .int 1),
    (text "domain", .str (text "inci-tennis-expert")),
    (text "value", projected)]))))

/-- The bytes of a domain label, with its closing NUL. -/
def domain (label : String) : List UInt8 := asciiBytes (text label) ++ [0]

/-- SHA-256 of the canonical bytes behind a domain label. -/
def domainSha256 (label : String) (value : PyValue) : Except ExpertError String := do
  let bytes ← canonicalExpertBytes value
  pure (Sha256.hexdigest (domain label ++ bytes))

def expertContractSha256 (value : PyValue) : Except ExpertError String :=
  domainSha256 "INCI-EXPERT-CONTRACT-SHA256-V1" value

/-! ## Encodes values -/

mutual
/-- Every integer is below the bound and every decimal fits its 256 characters. -/
def Encodes : PyValue → Prop
  | .int n => n.natAbs < integerBound
  | .decimal d => (plainDecimal d).length ≤ 256
  | .tuple items => EncodesAll items
  | .dict entries => EncodesFields entries
  | .contract _ fields => EncodesFields fields
  | _ => True
def EncodesAll : List PyValue → Prop
  | [] => True
  | v :: rest => Encodes v ∧ EncodesAll rest
def EncodesFields : List (String × PyValue) → Prop
  | [] => True
  | (_, v) :: rest => Encodes v ∧ EncodesFields rest
end

mutual
theorem project_total : ∀ v : PyValue, (∃ j, project v = .ok j) ↔ Encodes v
  | .none => by simp [project, Encodes]
  | .bool _ => by simp [project, Encodes]
  | .int n => by simp [project, Encodes]
  | .str _ => by simp [project, Encodes]
  | .decimal d => by simp [project, canonicalDecimal, Encodes]
  | .enum _ _ => by simp [project, Encodes]
  | .tuple items => by simp [project, Encodes, ← projectAll_total items]
  | .dict entries => by simp [project, Encodes, ← projectFields_total entries]
  | .contract _ fields => by simp [project, Encodes, ← projectFields_total fields]
theorem projectAll_total : ∀ vs, (∃ js, projectAll vs = .ok js) ↔ EncodesAll vs
  | [] => by simp [projectAll, EncodesAll]
  | v :: rest => by
      simp [projectAll, EncodesAll, ← project_total v, ← projectAll_total rest]
theorem projectFields_total : ∀ fs, (∃ js, projectFields fs = .ok js) ↔ EncodesFields fs
  | [] => by simp [projectFields, EncodesFields]
  | (_, v) :: rest => by
      simp [projectFields, EncodesFields, ← project_total v, ← projectFields_total rest]
end

@[simp] theorem encodes_text (s : String) : Encodes (PyValue.text s) := by
  simp [PyValue.text, Encodes]

@[simp] theorem encodes_nat (n : Nat) : Encodes (PyValue.nat n) ↔ n < integerBound := by
  simp [PyValue.nat, Encodes]

@[simp] theorem encodes_option {α : Type} (encode : α → PyValue) (value : Option α) :
    Encodes (PyValue.option encode value) ↔ ∀ a, value = some a → Encodes (encode a) := by
  cases value <;> simp [PyValue.option, Encodes]

@[simp] theorem encodes_enum (className value : String) : Encodes (.enum className value) := by
  simp [Encodes]

@[simp] theorem encodes_bool (b : Bool) : Encodes (.bool b) := by simp [Encodes]

theorem encodesFields_append (xs ys : List (String × PyValue)) :
    EncodesFields (xs ++ ys) ↔ EncodesFields xs ∧ EncodesFields ys := by
  induction xs with
  | nil => simp [EncodesFields]
  | cons x rest ih => obtain ⟨name, v⟩ := x; simp [EncodesFields, ih, and_assoc]

theorem encodesAll_iff (vs : List PyValue) : EncodesAll vs ↔ ∀ v ∈ vs, Encodes v := by
  induction vs with
  | nil => simp [EncodesAll]
  | cons v rest ih => simp [EncodesAll, ih]

/-- A digest exists exactly for an encodable value, and it is a digest. -/
theorem domainSha256_total (label : String) (v : PyValue) :
    (∃ d, domainSha256 label v = .ok d) ↔ Encodes v := by
  rw [← project_total]
  simp [domainSha256, canonicalExpertBytes]

theorem domainSha256_isSha256 {label : String} {v : PyValue} {d : String}
    (computed : domainSha256 label v = .ok d) : IsSha256 d := by
  simp only [domainSha256, bind_eq_ok, pure_eq_ok] at computed
  obtain ⟨_, -, rfl⟩ := computed
  exact hexdigest_isSha256 _

end Inci.Expert
