/-
# Binding.Universe -- what an accepted universe guarantees

The loop over the bindings of a universe keeps the keys it has seen, so the
matches of an accepted universe are distinct and the two markets of a match are
different.  A binding is therefore found by its match id.
-/
import Inci.Binding.Contracts
import Inci.Theory.Keyed

namespace Inci.Binding

open Inci.Theory Inci.Expert

set_option autoImplicit false

/-- The match a binding is about. -/
def matchOf (pair : MatchBinding × BindingMetadata) : String := pair.1.canonicalMatchId

theorem insertNew_eq_ok {α : Type} [DecidableEq α] {seen next : List α} {value : α} :
    insertNew seen value = .ok next ↔ value ∉ seen ∧ next = value :: seen := by
  simp only [insertNew, exists_unit, refuse_eq_ok, bind_eq_ok, pure_eq_ok,
    @eq_comm _ next]

/-- The keys a turn of the loop adds were not there. -/
theorem add_eq_ok {seen next : GlobalSeen} {binding : MatchBinding}
    {home away : BindingMarketMetadata} (added : seen.add binding home away = .ok next) :
    binding.canonicalMatchId ∉ seen.matchIds ∧
      next.matchIds = binding.canonicalMatchId :: seen.matchIds ∧
      home.marketTicker ≠ away.marketTicker := by
  simp only [GlobalSeen.add, bind_eq_ok, insertNew_eq_ok, pure_eq_ok] at added
  obtain ⟨_, ⟨fresh, rfl⟩, _, -, _, -, _, -, _, ⟨-, rfl⟩, _, ⟨different, -⟩, _, -, _, -, rfl⟩ := added
  refine ⟨fresh, rfl, ?_⟩
  intro same
  exact different (same ▸ List.mem_cons_self ..)

theorem checkBinding_eq_ok {u : BindingUniverse} {previous : Option (List String)}
    {seen next : GlobalSeen} {binding : MatchBinding} {item : BindingMetadata}
    (checked : u.checkBinding previous seen binding item = .ok next) :
    binding.canonicalMatchId ∉ seen.matchIds ∧
      next.matchIds = binding.canonicalMatchId :: seen.matchIds ∧
      binding.homeMarketTicker ≠ binding.awayMarketTicker := by
  simp only [BindingUniverse.checkBinding, bind_eq_ok, exists_unit] at checked
  obtain ⟨-, checked⟩ := checked
  split at checked
  · rename_i home away _
    simp only [bind_eq_ok, exists_unit, refuse_eq_ok, not_or, not_not, pure_eq_ok] at checked
    obtain ⟨projection, -, _, added, -, -, rfl⟩ := checked
    obtain ⟨-, -, -, -, -, homeTicker, awayTicker⟩ := projection
    rw [← homeTicker, ← awayTicker]
    exact add_eq_ok added
  · cases checked

theorem checkBindings_eq_ok {u : BindingUniverse} {pairs : List (MatchBinding × BindingMetadata)} :
    ∀ {previous : Option (List String)} {seen : GlobalSeen},
      u.checkBindings previous seen pairs = .ok () →
      (pairs.map matchOf).Nodup ∧ (∀ pair ∈ pairs, matchOf pair ∉ seen.matchIds) ∧
        ∀ pair ∈ pairs, pair.1.homeMarketTicker ≠ pair.1.awayMarketTicker := by
  induction pairs with
  | nil => intro _ _ _; simp
  | cons pair rest ih =>
      intro previous seen checked
      simp only [BindingUniverse.checkBindings, bind_eq_ok] at checked
      obtain ⟨next, here, later⟩ := checked
      obtain ⟨fresh, added, different⟩ := checkBinding_eq_ok here
      obtain ⟨nodup, unseen, markets⟩ := ih later
      rw [added] at unseen
      refine ⟨List.nodup_cons.mpr ⟨?_, nodup⟩, ?_, ?_⟩
      · intro member
        obtain ⟨other, inside, same⟩ := List.mem_map.mp member
        exact unseen other inside (same ▸ List.mem_cons_self ..)
      · intro other member
        rcases List.mem_cons.mp member with rfl | inside
        · exact fresh
        · exact fun seenBefore => unseen other inside (List.mem_cons_of_mem _ seenBefore)
      · intro other member
        rcases List.mem_cons.mp member with rfl | inside
        · exact different
        · exact markets other inside

/-- What the checks of a universe leave to rely on. -/
structure BindingUniverse.Accepted (u : BindingUniverse) : Prop where
  lengths : u.metadata.length = u.bindings.length
  matches_nodup : (u.pairs.map matchOf).Nodup
  markets : ∀ pair ∈ u.pairs, pair.1.homeMarketTicker ≠ pair.1.awayMarketTicker

theorem BindingUniverse.accepted {u : BindingUniverse} (checked : u.postInit = .ok ()) :
    u.Accepted := by
  simp only [BindingUniverse.postInit, bind_eq_ok, exists_unit, refuse_eq_ok, not_not] at checked
  obtain ⟨-, -, -, -, lengths, -, bindings, -⟩ := checked
  obtain ⟨nodup, -, markets⟩ := checkBindings_eq_ok bindings
  exact ⟨lengths, nodup, markets⟩

theorem BindingUniverse.bindings_eq {u : BindingUniverse} (accepted : u.Accepted) :
    u.bindings = u.pairs.map Prod.fst := by
  rw [BindingUniverse.pairs, List.map_fst_zip (le_of_eq accepted.lengths.symm)]

end Inci.Binding
