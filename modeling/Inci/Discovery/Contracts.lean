/-
# Discovery.Contracts -- what the discovery of Games works on

The rows a client returns, the contracts selected from them, and the identity that a
scoreboard binds a contract to.  The opponent's contract is bound to the `mirror` of it.
-/
import Inci.Theory.Checks
import Inci.Theory.DecimalArithmetic
import Mathlib.Data.String.Basic

namespace Inci.Discovery

open Inci.Theory

set_option autoImplicit false

/-! ## Failures -/

inductive DiscoveryError where
  /-- `{field} must be a nonempty string` -/
  | identity (field : String)
  /-- `{field} must be a finite nonnegative timestamp` -/
  | timestamp (field : String)
  | unexpectedSeries (event series : String)
  | foreignMarket (ticker event : String)
  | invalidBook (ticker : String)
  | conflictingEvent (event : String)
  | duplicateMarket (ticker : String)
  | unstableBinding
  | sameAthlete
  | unverifiedPair
  | needsOnePerEvent
  | contractsPerTrade
  | maxMarkets
  | duplicateContract (ticker : String)
  | watchOverlap (ticker : String)
  | duplicateWatch (ticker : String)
  | unselectedBinding (ticker : String)
  | emptyBinding (ticker : String)
  /-- `IndexError` -/
  | index
  /-- `decimal.DecimalException` -/
  | decimal (signal : DecimalSignal)
  deriving DecidableEq

/-- `_identity` -/
def identity (value field : String) : Except DiscoveryError Unit :=
  refuse (value = "") (.identity field)

/-- A decimal operation. -/
def decimal {α : Type} (operation : Except DecimalSignal α) : Except DiscoveryError α :=
  operation.mapError .decimal

/-! ## Contracts -/

structure ContractProvenance where
  sport : String
  league : Option String
  seriesTicker : String
  milestoneId : String
  eventTicker : String
  scheduledStartTs : ℚ
  deriving DecidableEq

structure SelectedContract where
  ticker : String
  title : String
  gameTitle : String
  bid : Decimal
  ask : Decimal
  bidSize : Decimal
  askSize : Decimal
  provenance : ContractProvenance
  deriving DecidableEq

namespace SelectedContract

def eventTicker (c : SelectedContract) : String := c.provenance.eventTicker

/-- `__post_init__` of a contract and of its provenance. -/
def check (c : SelectedContract) : Except DiscoveryError Unit := do
  identity c.provenance.sport "sport"
  match c.provenance.league with
  | none => pure ()
  | some league => identity league "league"
  identity c.provenance.seriesTicker "series_ticker"
  identity c.provenance.milestoneId "milestone_id"
  identity c.provenance.eventTicker "event_ticker"
  refuse (c.provenance.scheduledStartTs < 0) (.timestamp "scheduled_start_ts")
  identity c.ticker "ticker"
  identity c.title "title"
  identity c.gameTitle "game_title"

end SelectedContract

/-! ## Settings -/

/-- The settings that discovery reads. -/
structure DiscoveryConfig where
  siblingSpikeEnabled : Bool
  oneContractPerEvent : Bool
  preferScoreboardBind : Bool
  contractsPerTrade : Decimal
  maxSpread : Decimal
  maxMonitoredMarkets : ℤ

/-! ## Bindings -/

/-- What a bind predicate returns. -/
inductive RawBinding where
  | none
  | bool (b : Bool)
  /-- A tuple or a list; an item is `none` when it is not a string. -/
  | parts (items : List (Option String))
  | other

/-- A score identity: the competition, the athlete of the contract and the opponent, and their
names when it has five parts. -/
structure Binding where
  competitionId : String
  selectedId : String
  opponentId : String
  names : Option (String × String)
  deriving DecidableEq

/-- Player and opponent exchanged. -/
def Binding.mirror (b : Binding) : Binding :=
  ⟨b.competitionId, b.opponentId, b.selectedId, b.names.map Prod.swap⟩

@[simp] theorem Binding.mirror_mirror (b : Binding) : b.mirror.mirror = b := by
  obtain ⟨competition, selected, opponent, names⟩ := b
  cases names <;> rfl

def bindingItem : Option String → Except DiscoveryError String
  | some item => do
      identity item "item"
      pure item
  | none => .error (.identity "item")

/-- `_score_binding_identity` -/
def scoreBindingIdentity : RawBinding → Except DiscoveryError (Option Binding)
  | .none => .ok none
  | .parts [competition, selected, opponent] => do
      let competition ← bindingItem competition
      let selected ← bindingItem selected
      let opponent ← bindingItem opponent
      refuse (selected = opponent) .sameAthlete
      pure (some ⟨competition, selected, opponent, none⟩)
  | .parts [competition, selected, opponent, player, other] => do
      let competition ← bindingItem competition
      let selected ← bindingItem selected
      let opponent ← bindingItem opponent
      let player ← bindingItem player
      let other ← bindingItem other
      refuse (selected = opponent) .sameAthlete
      pure (some ⟨competition, selected, opponent, some (player, other)⟩)
  | _ => .error .unstableBinding

/-- The tuple of an identity. -/
def Binding.raw (b : Binding) : RawBinding :=
  match b.names with
  | none => .parts [some b.competitionId, some b.selectedId, some b.opponentId]
  | some (player, other) =>
      .parts [some b.competitionId, some b.selectedId, some b.opponentId, some player, some other]

/-- An identity is of two athletes, so it is not its own mirror. -/
theorem scoreBindingIdentity_distinct {raw : RawBinding} {b : Binding}
    (read : scoreBindingIdentity raw = .ok (some b)) : b.selectedId ≠ b.opponentId := by
  unfold scoreBindingIdentity at read
  split at read
  · cases read
  · simp only [bind_eq_ok, refuse_eq_ok, exists_unit, pure_eq_ok, Option.some.injEq] at read
    obtain ⟨_, -, _, -, _, -, distinct, rfl⟩ := read
    exact distinct
  · simp only [bind_eq_ok, refuse_eq_ok, exists_unit, pure_eq_ok, Option.some.injEq] at read
    obtain ⟨_, -, _, -, _, -, _, -, _, -, distinct, rfl⟩ := read
    exact distinct
  · cases read

theorem mirror_ne {b : Binding} (distinct : b.selectedId ≠ b.opponentId) : b.mirror ≠ b := by
  intro same
  exact distinct (congrArg Binding.opponentId same)

end Inci.Discovery
