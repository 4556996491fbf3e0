/-
# Expert.Failures -- the failures of field checks and digests

A field check raises a contract error, and so does a value that cannot be
encoded: the callers that catch `TypeError`, `ValueError` and `RuntimeError`
catch all of them.
-/
import Inci.Expert.Canonical
import Inci.Theory.Failures

namespace Inci.Expert

open Inci.Theory

set_option autoImplicit false

/-- Every failure is one that `except (TypeError, ValueError, RuntimeError)` catches. -/
abbrev Caught {α : Type} (attempt : Except ExpertError α) : Prop :=
  FailsOnly (fun e => e.isRuntimeError = true) attempt

/-! ## Field checks and digests -/

theorem caught_refuse_contract {broken : Prop} [Decidable broken] {name : String} :
    Caught (refuse broken (.contract name)) := failsOnly_refuse rfl

theorem caught_integer (value : Nat) (name : String) : Caught (integer value name) :=
  caught_refuse_contract

theorem caught_positiveInteger (value : Nat) (name : String) :
    Caught (positiveInteger value name) :=
  FailsOnly.bind caught_refuse_contract fun _ _ => caught_refuse_contract

theorem caught_safeId (value name : String) : Caught (safeId value name) :=
  FailsOnly.bind caught_refuse_contract fun _ _ => caught_refuse_contract

theorem caught_ticker (value name : String) : Caught (ticker value name) :=
  caught_refuse_contract

theorem caught_probability (value : Decimal) (name : String) : Caught (probability value name) :=
  caught_refuse_contract

theorem caught_sha256 (value name : String) : Caught (sha256 value name) :=
  caught_refuse_contract

mutual
theorem caught_project : ∀ v : PyValue, Caught (project v)
  | .none => failsOnly_ok _
  | .bool _ => failsOnly_ok _
  | .int _ => FailsOnly.bind caught_refuse_contract fun _ _ => failsOnly_pure _
  | .str _ => failsOnly_ok _
  | .decimal _ => FailsOnly.bind (FailsOnly.bind caught_refuse_contract fun _ _ => failsOnly_pure _)
      fun _ _ => failsOnly_pure _
  | .enum _ _ => failsOnly_ok _
  | .tuple items => FailsOnly.bind (caught_projectAll items) fun _ _ => failsOnly_pure _
  | .dict entries => FailsOnly.bind (caught_projectFields entries) fun _ _ => failsOnly_pure _
  | .contract _ fields => FailsOnly.bind (caught_projectFields fields) fun _ _ => failsOnly_pure _
theorem caught_projectAll : ∀ vs : List PyValue, Caught (projectAll vs)
  | [] => failsOnly_ok _
  | v :: rest => FailsOnly.bind (caught_project v) fun _ _ =>
      FailsOnly.bind (caught_projectAll rest) fun _ _ => failsOnly_pure _
theorem caught_projectFields : ∀ fs : List (String × PyValue), Caught (projectFields fs)
  | [] => failsOnly_ok _
  | (_, v) :: rest => FailsOnly.bind (caught_project v) fun _ _ =>
      FailsOnly.bind (caught_projectFields rest) fun _ _ => failsOnly_pure _
end

theorem caught_canonicalExpertBytes (v : PyValue) : Caught (canonicalExpertBytes v) :=
  FailsOnly.bind (caught_project v) fun _ _ => failsOnly_pure _

theorem caught_contractSha256 (v : PyValue) : Caught (expertContractSha256 v) :=
  FailsOnly.bind (caught_canonicalExpertBytes v) fun _ _ => failsOnly_pure _

end Inci.Expert
