/-
# Theory.Stopping -- histories cut at the first time a rule holds

A history is a list that grows at its end.  `Stopped stop l` says that the rule
`stop` holds of `l` for the first time, `Running stop l` that it has not held
yet.  Histories that stop are a prefix code, so a history cut into stopped
pieces, each under the rule its predecessors leave, is cut in one way only
(`chained_unique`).
-/
import Mathlib.Data.List.Basic

namespace Inci.Theory

set_option autoImplicit false

variable {α ι : Type}

/-- The rule has not held of any part of the history. -/
def Running (stop : List α → Prop) (l : List α) : Prop := ∀ p, p <+: l → ¬stop p

/-- The rule holds now and did not hold before. -/
def Stopped (stop : List α → Prop) (l : List α) : Prop :=
  stop l ∧ ∀ p, p <+: l → p ≠ l → ¬stop p

variable {stop : List α → Prop} {l p q r t : List α} {a : α}

theorem prefix_append_singleton : p <+: l ++ [a] ↔ p <+: l ∨ p = l ++ [a] := by
  rw [List.prefix_concat_iff, or_comm]

theorem running_nil (fresh : ¬stop []) : Running stop [] := by
  intro p isPrefix
  rwa [List.prefix_nil.mp isPrefix]

theorem Running.not_stop (running : Running stop l) : ¬stop l := running l List.prefix_rfl

theorem running_append : Running stop (l ++ [a]) ↔ Running stop l ∧ ¬stop (l ++ [a]) := by
  simp only [Running, prefix_append_singleton]
  exact ⟨fun h => ⟨fun p hp => h p (.inl hp), h _ (.inr rfl)⟩,
    fun h p hp => hp.elim (h.1 p) fun same => same ▸ h.2⟩

theorem stopped_append (running : Running stop l) (now : stop (l ++ [a])) :
    Stopped stop (l ++ [a]) := by
  refine ⟨now, fun p isPrefix different => ?_⟩
  rcases prefix_append_singleton.mp isPrefix with earlier | same
  · exact running p earlier
  · exact absurd same different

/-- Two stopped histories of one longer history are the same. -/
theorem Stopped.unique (hp : Stopped stop p) (hq : Stopped stop q) (same : p ++ r = q ++ t) :
    p = q := by
  by_contra different
  rcases List.append_eq_append_iff.mp same with ⟨more, rfl, -⟩ | ⟨more, rfl, -⟩
  · exact hq.2 p (List.prefix_append p more) different hp.1
  · exact hp.2 q (List.prefix_append q more) (Ne.symm different) hq.1

theorem Stopped.not_running (hp : Stopped stop p) (running : Running stop (p ++ r)) : False :=
  running p (List.prefix_append p r) hp.1

/-! ## Chains of pieces -/

/-- Every piece fits the pieces before it. -/
def Chained (fits : List ι → ι → Prop) : List ι → List ι → Prop
  | _, [] => True
  | before, i :: rest => fits before i ∧ Chained fits (before ++ [i]) rest

variable {fits : List ι → ι → Prop}

theorem chained_append (before : List ι) (xs ys : List ι) :
    Chained fits before (xs ++ ys) ↔ Chained fits before xs ∧ Chained fits (before ++ xs) ys := by
  induction xs generalizing before with
  | nil => simp [Chained]
  | cons x rest ih => simp [Chained, ih, and_assoc]

theorem chained_concat {xs : List ι} {i : ι} :
    Chained fits [] (xs ++ [i]) ↔ Chained fits [] xs ∧ fits xs i := by
  simp [chained_append, Chained]

/-- A history has one cut: pieces that fit are separated by what they spell, and
none of them spells the start of an unfinished remainder. -/
theorem chained_unique (points : ι → List α) (rest : List ι → List α → Prop)
    (separates : ∀ {before i j r t}, fits before i → fits before j →
      points i ++ r = points j ++ t → i = j)
    (unfinished : ∀ {before i r}, fits before i → ¬rest before (points i ++ r)) :
    ∀ {xs ys before : List ι} {r t : List α}, Chained fits before xs → Chained fits before ys →
      rest (before ++ xs) r → rest (before ++ ys) t →
      xs.flatMap points ++ r = ys.flatMap points ++ t → xs = ys ∧ r = t := by
  intro xs
  induction xs with
  | nil =>
      intro ys before r t _ fitsY restR _ same
      cases ys with
      | nil => exact ⟨rfl, by simpa using same⟩
      | cons y ys =>
          simp only [List.flatMap_nil, List.nil_append, List.flatMap_cons, List.append_assoc]
            at same
          rw [List.append_nil, same] at restR
          exact absurd restR (unfinished fitsY.1)
  | cons x xs ih =>
      intro ys before r t fitsX fitsY restR restT same
      cases ys with
      | nil =>
          simp only [List.flatMap_nil, List.nil_append, List.flatMap_cons, List.append_assoc]
            at same
          rw [List.append_nil, ← same] at restT
          exact absurd restT (unfinished fitsX.1)
      | cons y ys =>
          simp only [List.flatMap_cons, List.append_assoc] at same
          obtain rfl := separates fitsX.1 fitsY.1 same
          obtain ⟨rfl, rfl⟩ := ih fitsX.2 fitsY.2 (by simpa using restR) (by simpa using restT)
            (List.append_cancel_left same)
          exact ⟨rfl, rfl⟩

end Inci.Theory
