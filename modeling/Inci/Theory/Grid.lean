/-
# Theory.Grid -- amounts rounded onto the multiples of a unit

`grid unit` is the group of the multiples of a unit.  `ceilTo` and `floorTo` are
the nearest multiples above and below an amount.  `settled_isLeast` is the law of
a charge that settles a balance onto a grid: among the charges that are at least
a given one and leave a multiple, the least is what flooring leaves over.
-/
import Mathlib.Algebra.Order.Floor.Ring
import Mathlib.Algebra.Group.Subgroup.ZPowers.Basic
import Mathlib.Order.Bounds.Basic
import Mathlib.Tactic.Linarith
import Mathlib.Tactic.Ring

namespace Inci.Theory

set_option autoImplicit false

variable {α : Type} [Field α]

/-- The multiples of a unit. -/
abbrev grid (unit : α) : AddSubgroup α := AddSubgroup.zmultiples unit

theorem mem_grid {unit amount : α} : amount ∈ grid unit ↔ ∃ k : ℤ, (k : α) * unit = amount := by
  simp only [grid, AddSubgroup.mem_zmultiples_iff, zsmul_eq_mul]

variable [LinearOrder α] [FloorRing α]

/-- The least multiple of a unit that is not below an amount. -/
def ceilTo (unit amount : α) : α := ⌈amount / unit⌉ * unit

/-- The greatest multiple of a unit that is not above an amount. -/
def floorTo (unit amount : α) : α := ⌊amount / unit⌋ * unit

theorem ceilTo_mem (unit amount : α) : ceilTo unit amount ∈ grid unit := mem_grid.mpr ⟨_, rfl⟩

theorem floorTo_mem (unit amount : α) : floorTo unit amount ∈ grid unit := mem_grid.mpr ⟨_, rfl⟩

section Rounding

variable [IsStrictOrderedRing α] {unit : α} (positive : 0 < unit) (amount : α)
include positive

theorem ceilTo_isLeast : IsLeast {y | y ∈ grid unit ∧ amount ≤ y} (ceilTo unit amount) := by
  refine ⟨⟨ceilTo_mem unit amount, ?_⟩, ?_⟩
  · exact (div_le_iff₀ positive).mp (Int.le_ceil _)
  · rintro y ⟨onGrid, above⟩
    obtain ⟨k, rfl⟩ := mem_grid.mp onGrid
    have least : ⌈amount / unit⌉ ≤ k := Int.ceil_le.mpr ((div_le_iff₀ positive).mpr above)
    exact mul_le_mul_of_nonneg_right (Int.cast_le.mpr least) positive.le

theorem floorTo_isGreatest :
    IsGreatest {y | y ∈ grid unit ∧ y ≤ amount} (floorTo unit amount) := by
  refine ⟨⟨floorTo_mem unit amount, ?_⟩, ?_⟩
  · exact (le_div_iff₀ positive).mp (Int.floor_le _)
  · rintro y ⟨onGrid, below⟩
    obtain ⟨k, rfl⟩ := mem_grid.mp onGrid
    have greatest : k ≤ ⌊amount / unit⌋ := Int.le_floor.mpr ((le_div_iff₀ positive).mpr below)
    exact mul_le_mul_of_nonneg_right (Int.cast_le.mpr greatest) positive.le

theorem floorTo_le : floorTo unit amount ≤ amount := (floorTo_isGreatest positive amount).1.2

theorem lt_floorTo_add : amount < floorTo unit amount + unit := by
  have next : amount / unit < ⌊amount / unit⌋ + 1 := Int.lt_floor_add_one _
  calc amount < (⌊amount / unit⌋ + 1) * unit := (div_lt_iff₀ positive).mp next
    _ = floorTo unit amount + unit := by rw [add_mul, one_mul]; rfl

theorem floorTo_mono {less more : α} (order : less ≤ more) : floorTo unit less ≤ floorTo unit more :=
  (floorTo_isGreatest positive more).2
    ⟨floorTo_mem unit less, (floorTo_le positive less).trans order⟩

theorem ceilTo_le_of_le {less more : α} (order : less ≤ more) :
    ceilTo unit less ≤ ceilTo unit more :=
  (ceilTo_isLeast positive less).2
    ⟨ceilTo_mem unit more, order.trans (ceilTo_isLeast positive more).1.2⟩

/-- What is added is rounded up on its own at most. -/
theorem ceilTo_add_le (more : α) :
    ceilTo unit (amount + more) ≤ ceilTo unit amount + ceilTo unit more :=
  (ceilTo_isLeast positive (amount + more)).2
    ⟨add_mem (ceilTo_mem unit amount) (ceilTo_mem unit more),
      add_le_add (ceilTo_isLeast positive amount).1.2 (ceilTo_isLeast positive more).1.2⟩

theorem ceilTo_lt_add : ceilTo unit amount < amount + unit := by
  have near : (⌈amount / unit⌉ : α) < amount / unit + 1 := Int.ceil_lt_add_one _
  calc ceilTo unit amount < (amount / unit + 1) * unit := mul_lt_mul_of_pos_right near positive
    _ = amount + unit := by rw [add_mul, one_mul, div_mul_cancel₀ amount positive.ne']

end Rounding

/-- Amounts of a grid are the same or a unit apart. -/
theorem grid_apart [IsStrictOrderedRing α] {unit x y : α} (positive : 0 < unit) (first : x ∈ grid unit)
    (second : y ∈ grid unit) (order : x ≤ y) : x = y ∨ unit ≤ y - x := by
  rcases order.eq_or_lt with same | less
  · exact Or.inl same
  · right
    obtain ⟨k, away⟩ := mem_grid.mp (sub_mem second first)
    have forward : (0 : α) < k * unit := by
      rw [away]
      exact sub_pos.mpr less
    have one : (1 : ℤ) ≤ k := by
      have some : (0 : α) < k := pos_of_mul_pos_left forward positive.le
      exact_mod_cast some
    calc unit = 1 * unit := (one_mul unit).symm
      _ ≤ k * unit := mul_le_mul_of_nonneg_right (by exact_mod_cast one) positive.le
      _ = y - x := away

/-! ## Settling a balance -/

/-- A charge of at least `least` on a revenue, raised until what is left is a multiple. -/
def settled (unit revenue least : α) : α :=
  least + (revenue - least - floorTo unit (revenue - least))

theorem sub_settled (unit revenue least : α) :
    revenue - settled unit revenue least = floorTo unit (revenue - least) := by
  unfold settled
  ring

section Settling

variable [IsStrictOrderedRing α] {unit : α} (positive : 0 < unit) (revenue least : α)
include positive

theorem settled_isLeast :
    IsLeast {charge | least ≤ charge ∧ revenue - charge ∈ grid unit}
      (settled unit revenue least) := by
  refine ⟨⟨?_, ?_⟩, ?_⟩
  · have below := floorTo_le positive (revenue - least)
    unfold settled
    linarith
  · rw [sub_settled]
    exact floorTo_mem unit _
  · rintro charge ⟨enough, onGrid⟩
    have greatest : revenue - charge ≤ floorTo unit (revenue - least) :=
      (floorTo_isGreatest positive (revenue - least)).2 ⟨onGrid, by linarith⟩
    rw [← sub_settled] at greatest
    linarith

theorem settled_near :
    0 ≤ settled unit revenue least - least ∧ settled unit revenue least - least < unit := by
  have below := floorTo_le positive (revenue - least)
  have above := lt_floorTo_add positive (revenue - least)
  unfold settled
  constructor <;> linarith

end Settling

end Inci.Theory
