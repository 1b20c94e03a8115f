import Mathlib.Tactic.Ring
import SchemaExport.Decimal.Shortest

/-! Rounding to the nearest number.

A quotient in the neighbourhood of a number rounds to that number. The quotient is compared as it is
written, numerator against denominator, so that one criterion serves every way to write a value.
-/

set_option autoImplicit false

namespace SchemaExport.Decimal

theorem unit_pos : 0 < unit := by
  unfold unit
  exact Nat.two_pow_pos 1074

/-! ## The nearest natural number -/

theorem divideToEven_parts (numerator : Nat) {denominator : Nat} (positive : 0 < denominator) :
    ∃ quotient remainder, quotient * denominator + remainder = numerator ∧ remainder < denominator ∧
      divideToEven numerator denominator =
        if 2 * remainder < denominator then quotient
        else if denominator < 2 * remainder then quotient + 1
        else quotient + quotient % 2 := by
  have parts : denominator * (numerator / denominator) + numerator % denominator = numerator :=
    Nat.div_add_mod numerator denominator
  rw [Nat.mul_comm] at parts
  exact ⟨_, _, parts, Nat.mod_lt numerator positive, rfl⟩

theorem divideToEven_eq {numerator denominator nearest : Nat} (positive : 0 < denominator)
    (lower : 2 * (nearest * denominator) ≤ 2 * numerator + denominator)
    (upper : 2 * numerator ≤ 2 * (nearest * denominator) + denominator)
    (tie : nearest % 2 = 0 ∨ (2 * (nearest * denominator) < 2 * numerator + denominator ∧
      2 * numerator < 2 * (nearest * denominator) + denominator)) :
    divideToEven numerator denominator = nearest := by
  obtain ⟨quotient, remainder, parts, small, rounded⟩ := divideToEven_parts numerator positive
  rw [rounded]
  rcases Nat.lt_or_ge quotient nearest with below | above
  · -- The quotient is one less, or the number would be too far above.
    have step : (quotient + 1) * denominator ≤ nearest * denominator := Nat.mul_le_mul_right _ below
    rw [Nat.succ_mul] at step
    obtain rfl | farther := Nat.eq_or_lt_of_le below
    · rw [Nat.succ_mul] at lower upper tie
      split
      · omega
      · split <;> omega
    · have more : (quotient + 2) * denominator ≤ nearest * denominator := Nat.mul_le_mul_right _ farther
      rw [Nat.add_mul] at more
      omega
  · -- The quotient is the number, as one more would be too far above it.
    obtain rfl | farther := Nat.eq_or_lt_of_le above
    · split
      · rfl
      · split <;> omega
    · have more : (nearest + 1) * denominator ≤ quotient * denominator := Nat.mul_le_mul_right _ farther
      rw [Nat.succ_mul] at more
      omega

theorem divideToEven_bounds (numerator : Nat) {denominator : Nat} (positive : 0 < denominator) :
    2 * (divideToEven numerator denominator * denominator) ≤ 2 * numerator + denominator ∧
      2 * numerator ≤ 2 * (divideToEven numerator denominator * denominator) + denominator := by
  obtain ⟨quotient, remainder, parts, small, rounded⟩ := divideToEven_parts numerator positive
  have next : (quotient + 1) * denominator = quotient * denominator + denominator := Nat.succ_mul ..
  rw [rounded]
  split
  · omega
  · split
    · omega
    · rcases Nat.mod_two_eq_zero_or_one quotient with even | odd
      · rw [even, Nat.add_zero]
        omega
      · rw [odd]
        omega

/-! ## Neighbourhoods -/

namespace Neighbourhood

variable {around : Neighbourhood} {weight step point : Nat}

theorem contains_iff : around.contains weight step point = true ↔
    around.lower * weight ≤ point * step ∧ point * step ≤ around.upper * weight ∧
      (around.closed = true ∨ (around.lower * weight < point * step ∧ point * step < around.upper * weight)) := by
  unfold contains
  cases around.closed with
  | true => simp
  | false =>
    simp only [Bool.false_eq_true, if_false, Bool.and_eq_true, decide_eq_true_eq, false_or]
    omega

theorem contains_of_cross {otherWeight otherStep other : Nat} (positive : 0 < weight) (otherPositive : 0 < otherWeight)
    (cross : point * step * otherWeight = other * otherStep * weight)
    (inside : around.contains weight step point = true) : around.contains otherWeight otherStep other = true := by
  have scale : ∀ bound : Nat, bound * weight * otherWeight = bound * otherWeight * weight :=
    fun bound => Nat.mul_right_comm ..
  obtain ⟨low, high, strict⟩ := contains_iff.1 inside
  refine contains_iff.2 ⟨?_, ?_, strict.imp_right fun ⟨low, high⟩ => ⟨?_, ?_⟩⟩
  · apply Nat.le_of_mul_le_mul_right _ positive
    rw [← cross, ← scale]
    exact Nat.mul_le_mul_right _ low
  · apply Nat.le_of_mul_le_mul_right _ positive
    rw [← cross, ← scale]
    exact Nat.mul_le_mul_right _ high
  · apply Nat.lt_of_mul_lt_mul_right
    rw [← cross, ← scale]
    exact Nat.mul_lt_mul_of_pos_right low otherPositive
  · apply Nat.lt_of_mul_lt_mul_right
    rw [← cross, ← scale]
    exact Nat.mul_lt_mul_of_pos_right high otherPositive

end Neighbourhood

namespace Double

/-- How far the neighbourhood reaches below its number, in quarters of its scale. -/
def reach (x : Double) : Nat := if x.significand = 2 ^ 52 ∧ 0 < x.scale then 1 else 2

theorem reach_cases (x : Double) :
    (x.reach = 1 ∧ x.significand = 2 ^ 52 ∧ 0 < x.scale) ∨ (x.reach = 2 ∧ ¬ (x.significand = 2 ^ 52 ∧ 0 < x.scale)) := by
  unfold reach
  split
  · exact .inl ⟨rfl, ‹_›⟩
  · exact .inr ⟨rfl, ‹_›⟩

section
variable (x : Double) {weight width : Nat}

theorem mul_scale (wide : weight * 2 ^ x.scale = width) (n : Nat) : n * 2 ^ x.scale * weight = n * width := by
  rw [← wide, Nat.mul_assoc, Nat.mul_comm (2 ^ x.scale)]

theorem lower_mul (wide : weight * 2 ^ x.scale = width) :
    x.neighbourhood.lower * weight = 4 * (x.significand * width) - x.reach * width := by
  have value : x.neighbourhood.lower = (4 * x.significand - x.reach) * 2 ^ x.scale := rfl
  rw [value, x.mul_scale wide, Nat.sub_mul, Nat.mul_assoc]

theorem upper_mul (wide : weight * 2 ^ x.scale = width) :
    x.neighbourhood.upper * weight = 4 * (x.significand * width) + 2 * width := by
  have value : x.neighbourhood.upper = (4 * x.significand + 2) * 2 ^ x.scale := rfl
  rw [value, x.mul_scale wide, Nat.add_mul, Nat.mul_assoc]

theorem middle_mul (wide : weight * 2 ^ x.scale = width) :
    x.neighbourhood.middle * weight = 4 * (x.significand * width) := by
  have value : x.neighbourhood.middle = 4 * x.significand * 2 ^ x.scale := rfl
  rw [value, x.mul_scale wide, Nat.mul_assoc]

theorem closed_iff : x.neighbourhood.closed = true ↔ x.significand % 2 = 0 := by
  simp [neighbourhood]

end

theorem bounds_of_contains (x : Double) {numerator denominator width : Nat} (wide : denominator * 2 ^ x.scale = width)
    (positive : 0 < denominator) (inside : x.neighbourhood.contains denominator 4 numerator = true) :
    4 * (x.significand * width) ≤ 4 * numerator + x.reach * width ∧
      4 * numerator ≤ 4 * (x.significand * width) + 2 * width ∧
      (x.significand % 2 = 0 ∨ (4 * (x.significand * width) < 4 * numerator + x.reach * width ∧
        4 * numerator < 4 * (x.significand * width) + 2 * width)) := by
  obtain ⟨low, high, strict⟩ := Neighbourhood.contains_iff.1 inside
  rw [x.lower_mul wide, x.upper_mul wide, x.closed_iff] at strict
  rw [x.lower_mul wide] at low
  rw [x.upper_mul wide] at high
  have wider : 0 < width := wide ▸ Nat.mul_pos positive (Nat.two_pow_pos _)
  have reached : 0 < x.reach * width := by
    rcases x.reach_cases with ⟨same, -⟩ | ⟨same, -⟩ <;> rw [same] <;> omega
  refine ⟨by omega, by omega, strict.imp_right fun ⟨above, below⟩ => ⟨by omega, by omega⟩⟩

/-! ## The nearest number -/

theorem log2_sub_of_bounds {numerator denominator scale : Nat} (positive : 0 < denominator)
    (below : numerator < 2 ^ (scale + 53) * denominator)
    (above : scale = 0 ∨ 2 ^ (scale + 52) * denominator ≤ numerator) :
    Nat.log2 (numerator / denominator) - 52 = scale := by
  have small : numerator / denominator < 2 ^ (scale + 53) := (Nat.div_lt_iff_lt_mul positive).2 below
  by_cases zero : numerator / denominator = 0
  · rcases above with rfl | above
    · simp [zero]
    · have least : 2 ^ (scale + 52) ≤ numerator / denominator := (Nat.le_div_iff_mul_le positive).2 above
      have some := Nat.two_pow_pos (scale + 52)
      omega
  · have high : Nat.log2 (numerator / denominator) < scale + 53 := (Nat.log2_lt zero).2 small
    rcases above with rfl | above
    · omega
    · have low : scale + 52 ≤ Nat.log2 (numerator / denominator) :=
        (Nat.le_log2 zero).2 ((Nat.le_div_iff_mul_le positive).2 above)
      omega

theorem make?_eq (x : Double) (negative : Bool) :
    make? negative x.significand x.scale = some { x with negative := negative } := by
  rw [make?, dif_pos x.canonical]

/-- Rounding on a known scale that does not carry. -/
theorem nearest?_of_scale {numerator denominator scale width significand : Nat} (wide : denominator * 2 ^ scale = width)
    (isScale : Nat.log2 (numerator / denominator) - 52 = scale) (rounded : divideToEven numerator width = significand)
    (fits : significand ≠ 2 ^ 53) (negative : Bool) :
    nearest? negative numerator denominator = make? negative significand scale := by
  unfold nearest?
  dsimp only
  rw [isScale, wide, rounded, if_neg fits]

/-- Rounding on a known scale that carries into the next one. -/
theorem nearest?_of_carry {numerator denominator scale width : Nat} (wide : denominator * 2 ^ scale = width)
    (isScale : Nat.log2 (numerator / denominator) - 52 = scale) (rounded : divideToEven numerator width = 2 ^ 53)
    (negative : Bool) : nearest? negative numerator denominator = make? negative (2 ^ 52) (scale + 1) := by
  unfold nearest?
  dsimp only
  rw [isScale, wide, rounded, if_pos rfl]

section
variable (x : Double) {numerator denominator width : Nat} (wide : denominator * 2 ^ x.scale = width)
  (positive : 0 < denominator) (inside : x.neighbourhood.contains denominator 4 numerator = true)
include wide positive inside

theorem nearest?_of_inScale (inScale : x.scale = 0 ∨ 2 ^ 52 * width ≤ numerator) (negative : Bool) :
    nearest? negative numerator denominator = some { x with negative := negative } := by
  obtain ⟨low, high, strict⟩ := x.bounds_of_contains wide positive inside
  have fits : x.significand < 2 ^ 53 := x.canonical.1
  have wider : 0 < width := wide ▸ Nat.mul_pos positive (Nat.two_pow_pos _)
  have most : (x.significand + 1) * width ≤ 2 ^ 53 * width := Nat.mul_le_mul_right _ fits
  rw [Nat.succ_mul] at most
  have order (power : Nat) : 2 ^ (x.scale + power) * denominator = 2 ^ power * width := by rw [← wide]; ring
  have scale : Nat.log2 (numerator / denominator) - 52 = x.scale := by
    apply log2_sub_of_bounds positive
    · rw [order]
      omega
    · rwa [order]
  have rounded : divideToEven numerator width = x.significand := by
    rcases x.reach_cases with ⟨reach, -⟩ | ⟨reach, -⟩ <;> rw [reach] at low strict
    · exact divideToEven_eq wider (by omega) (by omega) (by omega)
    · exact divideToEven_eq wider (by omega) (by omega) (by omega)
  rw [nearest?_of_scale wide scale rounded (Nat.ne_of_lt fits), make?_eq]

theorem significand_of_belowScale (someScale : x.scale ≠ 0) (under : numerator < 2 ^ 52 * width) :
    x.significand = 2 ^ 52 := by
  obtain ⟨low, -⟩ := x.bounds_of_contains wide positive inside
  have least : 2 ^ 52 ≤ x.significand := x.canonical.2.2.resolve_left someScale
  by_contra other
  have above : (2 ^ 52 + 1) * width ≤ x.significand * width := Nat.mul_le_mul_right _ (by omega)
  rcases x.reach_cases with ⟨reach, -⟩ | ⟨reach, -⟩ <;> rw [reach] at low <;> omega

/-- A quotient in a neighbourhood that has the scale below rounds up to the number, which is a power of two. -/
theorem nearest?_of_belowScale (someScale : x.scale ≠ 0) (under : numerator < 2 ^ 52 * width) (negative : Bool) :
    nearest? negative numerator denominator = some { x with negative := negative } := by
  obtain ⟨low, -⟩ := x.bounds_of_contains wide positive inside
  have wider : 0 < width := wide ▸ Nat.mul_pos positive (Nat.two_pow_pos _)
  have power : x.significand = 2 ^ 52 := x.significand_of_belowScale wide positive inside someScale under
  have reach : x.reach = 1 := if_pos ⟨power, Nat.pos_of_ne_zero someScale⟩
  obtain ⟨scale, same⟩ := Nat.exists_eq_add_one_of_ne_zero someScale
  obtain ⟨half, halves⟩ : ∃ half, denominator * 2 ^ scale = half := ⟨_, rfl⟩
  have twice : width = 2 * half := by rw [← wide, same, ← halves]; ring
  have order (power : Nat) : 2 ^ (scale + power) * denominator = 2 ^ power * half := by rw [← halves]; ring
  -- Below a power of two the neighbourhood reaches a quarter of a step, half a step of the scale below.
  rw [power, reach] at low
  have lower : Nat.log2 (numerator / denominator) - 52 = scale := by
    apply log2_sub_of_bounds positive <;> rw [order] <;> omega
  have rounded : divideToEven numerator half = 2 ^ 53 :=
    divideToEven_eq (by omega) (by omega) (by omega) (.inl rfl)
  rw [nearest?_of_carry halves lower rounded, ← power, ← same, make?_eq]

end

/-- What lies in the neighbourhood of a number rounds to it. -/
theorem nearest?_of_contains (x : Double) {numerator denominator : Nat} (positive : 0 < denominator)
    (inside : x.neighbourhood.contains denominator 4 numerator = true) (negative : Bool) :
    nearest? negative numerator denominator = some { x with negative := negative } := by
  by_cases inScale : x.scale = 0 ∨ 2 ^ 52 * (denominator * 2 ^ x.scale) ≤ numerator
  · exact x.nearest?_of_inScale rfl positive inside inScale negative
  · rw [not_or, Nat.not_le] at inScale
    exact x.nearest?_of_belowScale rfl positive inside inScale.1 inScale.2 negative

/-! ## Numbers in range -/

/-- Twice the least quotient, in units, that is beyond the last scale. -/
def limit : Nat := (2 ^ 54 - 1) * 2 ^ 2045

theorem limit_eq {top : Nat} (isTop : top = 2045) : limit = (2 ^ 54 - 1) * 2 ^ top := by
  rw [limit, ← isTop]

theorem bounds_of_log2 (numerator : Nat) {denominator : Nat} (positive : 0 < denominator) :
    numerator < 2 ^ 53 * (denominator * 2 ^ (Nat.log2 (numerator / denominator) - 52)) ∧
      (Nat.log2 (numerator / denominator) - 52 = 0 ∨
        2 ^ 52 * (denominator * 2 ^ (Nat.log2 (numerator / denominator) - 52)) ≤ numerator) := by
  have high : numerator / denominator < 2 ^ (Nat.log2 (numerator / denominator) + 1) := Nat.lt_log2_self
  have order (power : Nat) : 2 ^ power * (denominator * 2 ^ (Nat.log2 (numerator / denominator) - 52)) =
      2 ^ (power + (Nat.log2 (numerator / denominator) - 52)) * denominator := by
    rw [Nat.pow_add]
    ring
  rw [order, order]
  constructor
  · rw [← Nat.div_lt_iff_lt_mul positive]
    exact Nat.lt_of_lt_of_le high (Nat.pow_le_pow_right (by decide) (by omega))
  · by_cases small : Nat.log2 (numerator / denominator) - 52 = 0
    · exact .inl small
    · right
      have nonzero : numerator / denominator ≠ 0 := by
        intro zero
        rw [zero] at small
        exact small rfl
      rw [← Nat.le_div_iff_mul_le positive]
      have same : 52 + (Nat.log2 (numerator / denominator) - 52) = Nat.log2 (numerator / denominator) := by omega
      rw [same]
      exact Nat.log2_self_le nonzero

/-- A quotient with its scale, the width of a step there and the significand it rounds to, before any carry. -/
structure Rounded (numerator denominator scale width significand : Nat) : Prop where
  wide : denominator * 2 ^ scale = width
  width_pos : 0 < width
  short : numerator < 2 ^ 53 * width
  full : scale = 0 ∨ 2 ^ 52 * width ≤ numerator
  low : 2 * (significand * width) ≤ 2 * numerator + width
  high : 2 * numerator ≤ 2 * (significand * width) + width

theorem exists_rounded (negative : Bool) (numerator : Nat) {denominator : Nat} (positive : 0 < denominator) :
    ∃ scale width significand, Rounded numerator denominator scale width significand ∧
      nearest? negative numerator denominator =
        if significand = 2 ^ 53 then make? negative (2 ^ 52) (scale + 1) else make? negative significand scale := by
  obtain ⟨short, full⟩ := bounds_of_log2 numerator positive
  have width_pos := Nat.mul_pos positive (Nat.two_pow_pos (Nat.log2 (numerator / denominator) - 52))
  obtain ⟨low, high⟩ := divideToEven_bounds numerator width_pos
  exact ⟨_, _, _, ⟨rfl, width_pos, short, full, low, high⟩, rfl⟩

namespace Rounded

variable {numerator denominator scale width significand : Nat}
  (rounded : Rounded numerator denominator scale width significand)
include rounded

theorem significand_le : significand ≤ 2 ^ 53 := by
  obtain ⟨-, positive, short, -, low, -⟩ := rounded
  by_contra more
  have above : (2 ^ 53 + 1) * width ≤ significand * width := Nat.mul_le_mul_right _ (by omega)
  omega

theorem le_significand : scale = 0 ∨ 2 ^ 52 ≤ significand := by
  obtain ⟨-, positive, -, full, -, high⟩ := rounded
  refine full.imp_right fun full => ?_
  by_contra less
  have below : (significand + 1) * width ≤ 2 ^ 52 * width := Nat.mul_le_mul_right _ (by omega)
  rw [Nat.succ_mul] at below
  omega

theorem width_eq_or_le : width = denominator ∨ 2 ^ 52 * width ≤ numerator := by
  refine rounded.full.imp_left fun zero => ?_
  rw [← rounded.wide, zero, Nat.pow_zero, Nat.mul_one]

/-- The last scale is a variable, so that nothing computes its power. -/
theorem scale_le {top : Nat} (range : 2 * numerator < (2 ^ 54 - 1) * 2 ^ top * denominator) : scale ≤ top := by
  obtain ⟨wide, positive, -, full, -, -⟩ := rounded
  by_contra past
  have power : 2 ^ (top + 1) ≤ 2 ^ scale := Nat.pow_le_pow_right (by decide) (by omega)
  have wider : 2 * (2 ^ top * denominator) ≤ width := by
    calc 2 * (2 ^ top * denominator) = 2 ^ (top + 1) * denominator := by ring
      _ ≤ 2 ^ scale * denominator := Nat.mul_le_mul_right _ power
      _ = width := by rw [← wide, Nat.mul_comm]
  rw [Nat.mul_assoc] at range
  rcases full with zero | full <;> omega

theorem scale_lt_of_carry {top : Nat} (range : 2 * numerator < (2 ^ 54 - 1) * 2 ^ top * denominator)
    (carry : significand = 2 ^ 53) : scale < top := by
  have inScale := rounded.scale_le range
  obtain ⟨wide, positive, -, -, low, -⟩ := rounded
  by_contra last
  have same : width = 2 ^ top * denominator := by rw [← wide, Nat.mul_comm, Nat.le_antisymm inScale (by omega)]
  rw [Nat.mul_assoc] at range
  rw [carry] at low
  omega

theorem units_mul (n : Nat) : n * 2 ^ scale * denominator = n * width := by
  rw [← rounded.wide]
  ring

end Rounded

/-- A quotient in range has a nearest number, which is at most half of one step away. -/
theorem exists_nearest? (negative : Bool) {numerator denominator : Nat} (positive : 0 < denominator)
    (range : 2 * numerator < limit * denominator) : ∃ (y : Double) (step : Nat),
      nearest? negative numerator denominator = some y ∧ y.negative = negative ∧
      2 * (y.units * denominator) ≤ 2 * numerator + step ∧ 2 * numerator ≤ 2 * (y.units * denominator) + step ∧
      (step = denominator ∨ 2 ^ 52 * step ≤ numerator) := by
  obtain ⟨top, isTop⟩ : ∃ top, top = 2045 := ⟨_, rfl⟩
  rw [limit_eq isTop] at range
  obtain ⟨scale, width, significand, rounded, nearest⟩ := exists_rounded negative numerator positive
  by_cases carry : significand = 2 ^ 53
  · have canonical : Canonical (2 ^ 52) (scale + 1) :=
      ⟨by decide, isTop ▸ rounded.scale_lt_of_carry range carry, .inr (Nat.le_refl _)⟩
    have value : 2 ^ 52 * 2 ^ (scale + 1) * denominator = significand * width := by
      rw [carry, ← rounded.units_mul]
      ring
    rw [if_pos carry, make?, dif_pos canonical] at nearest
    refine ⟨_, width, nearest, rfl, ?_, ?_, rounded.width_eq_or_le⟩ <;> rw [Double.units, value]
    · exact rounded.low
    · exact rounded.high
  · have canonical : Canonical significand scale :=
      ⟨Nat.lt_of_le_of_ne rounded.significand_le carry, isTop ▸ rounded.scale_le range, rounded.le_significand⟩
    rw [if_neg carry, make?, dif_pos canonical] at nearest
    refine ⟨_, width, nearest, rfl, ?_, ?_, rounded.width_eq_or_le⟩ <;> rw [Double.units, rounded.units_mul]
    · exact rounded.low
    · exact rounded.high

end Double
end SchemaExport.Decimal
