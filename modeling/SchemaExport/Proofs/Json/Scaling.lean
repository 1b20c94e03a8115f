import SchemaExport.Json.Numeral
import SchemaExport.Proofs.Decimal.Shortest

/-! Significands and powers of ten that are read without loss.

A significand below `2 ^ 53` and a power of ten up to the twenty-second are numbers themselves. Only the
last of the three roundings of a reader counts then, and it is the one to the nearest number.
-/

set_option autoImplicit false

namespace SchemaExport

namespace Decimal.Double

theorem units_eq_zero_iff {x : Double} : x.units = 0 ↔ x.isZero = true := by
  simp [units, isZero]

theorem contains_units (x : Double) : x.neighbourhood.contains 1 4 x.units = true := by
  have wide : 1 * 2 ^ x.scale = 2 ^ x.scale := Nat.one_mul _
  have width_pos : 0 < 2 ^ x.scale := Nat.two_pow_pos _
  rw [Neighbourhood.contains_iff, x.lower_mul wide, x.upper_mul wide, x.closed_iff, units]
  generalize 2 ^ x.scale = width at width_pos
  have reached : 0 < x.reach * width := by
    rcases x.reach_cases with ⟨same, -⟩ | ⟨same, -⟩ <;> rw [same] <;> omega
  refine ⟨by omega, by omega, ?_⟩
  by_cases even : x.significand % 2 = 0
  · exact .inl even
  · have least : 1 * width ≤ x.significand * width := Nat.mul_le_mul_right _ (by omega)
    exact .inr ⟨by omega, by omega⟩

theorem nearest?_units (x : Double) (negative : Bool) :
    nearest? negative x.units 1 = some { x with negative := negative } :=
  x.nearest?_of_contains Nat.one_pos x.contains_units negative

/-- Natural numbers with few binary digits in front of zeros are numbers. -/
theorem exists_units_eq {digits zeros : Nat} (few : digits < 2 ^ 53) (small : zeros ≤ 900) :
    ∃ x : Double, x.negative = false ∧ x.units = digits * 2 ^ zeros * unit := by
  rcases Nat.eq_zero_or_pos digits with rfl | positive
  · exact ⟨zero false, rfl, by simp [zero, units]⟩
  · have nonzero : digits ≠ 0 := Nat.pos_iff_ne_zero.1 positive
    have low := Nat.log2_self_le nonzero
    have high := Nat.lt_log2_self (n := digits)
    have length : Nat.log2 digits < 53 := (Nat.log2_lt nonzero).2 few
    generalize Nat.log2 digits = top at low high length
    have shift_pos : 0 < 2 ^ (52 - top) := Nat.two_pow_pos _
    -- The digits are shifted up until the first of them stands where a significand's does.
    have canonical : Canonical (digits * 2 ^ (52 - top)) (1022 + top + zeros) := by
      refine ⟨?_, by omega, .inr ?_⟩
      · calc digits * 2 ^ (52 - top) < 2 ^ (top + 1) * 2 ^ (52 - top) := Nat.mul_lt_mul_of_pos_right high shift_pos
          _ = 2 ^ 53 := by rw [← Nat.pow_add, show top + 1 + (52 - top) = 53 by omega]
      · calc 2 ^ 52 = 2 ^ top * 2 ^ (52 - top) := by rw [← Nat.pow_add, show top + (52 - top) = 52 by omega]
          _ ≤ digits * 2 ^ (52 - top) := Nat.mul_le_mul_right _ low
    refine ⟨⟨false, _, _, canonical⟩, rfl, ?_⟩
    have powers : 52 - top + (1022 + top + zeros) = zeros + 1074 := by omega
    rw [units, unit, Nat.mul_assoc, ← Nat.pow_add, powers, Nat.pow_add, Nat.mul_assoc]

theorem ofQuotient?_of_units {x : Double} {n : Nat} (positive : x.negative = false) (same : x.units = n * unit) :
    ofQuotient? false n 1 = some x := by
  rw [ofQuotient?, ← same, nearest?_units, ← positive]

end Decimal.Double

namespace Json

open Decimal (Double unit)

theorem powerOfTen_units {exponent : Nat} (few : exponent ≤ 22) :
    (powerOfTen exponent).negative = false ∧ (powerOfTen exponent).units = 10 ^ exponent * unit := by
  have odd : 5 ^ exponent < 2 ^ 53 :=
    Nat.lt_of_le_of_lt (Nat.pow_le_pow_right (by decide) few) (by decide : 5 ^ 22 < 2 ^ 53)
  obtain ⟨x, positive, same⟩ := Double.exists_units_eq odd (by omega : exponent ≤ 900)
  rw [← Nat.mul_pow] at same
  rw [powerOfTen, Double.ofQuotient?_of_units positive same]
  exact ⟨positive, same⟩

/-- A rounded significand that lost nothing, times a power of ten that lost nothing. -/
theorem scaleDouble_of_near {x value : Double} {significand : Nat} {exponent : Int} (positive : value.negative = false)
    (same : value.units = significand * unit) (few : exponent.natAbs ≤ 22) (near : x.Near ⟨significand, exponent⟩) :
    scaleDouble 4 value exponent = some { x with negative := false } := by
  rw [Double.Near, Decimal.Digits.denominator, Decimal.Digits.numerator] at near
  dsimp only at near
  rw [scaleDouble]
  -- Neither factor was rounded, so the product or the quotient is rounded from the exact value.
  by_cases up : 0 ≤ exponent
  · obtain ⟨power, rfl⟩ := Int.eq_ofNat_of_zero_le up
    obtain ⟨sign, units⟩ := powerOfTen_units (by omega : power ≤ 22)
    rw [if_pos ⟨up, by rw [largestPower]; omega⟩, Double.mul?, positive, same, Int.toNat_natCast, sign, units]
    apply x.nearest?_of_contains Decimal.unit_pos
    refine Decimal.Neighbourhood.contains_of_cross (Nat.pow_pos (by decide)) Decimal.unit_pos ?_ near
    rw [Int.toNat_natCast, Int.toNat_neg_natCast]
    ring
  · obtain ⟨power, isPower⟩ : ∃ power : Nat, -exponent = power := Int.eq_ofNat_of_zero_le (by omega)
    obtain ⟨sign, units⟩ := powerOfTen_units (by omega : power ≤ 22)
    have nonzero : (powerOfTen power).isZero = false := by
      rw [Bool.eq_false_iff, Ne, ← Double.units_eq_zero_iff, units]
      exact Nat.mul_ne_zero (Nat.pos_iff_ne_zero.1 (Nat.pow_pos (by decide))) (Nat.pos_iff_ne_zero.1 Decimal.unit_pos)
    rw [if_neg (fun both => up both.1), if_pos ⟨by rw [largestPower]; omega, by omega⟩, isPower, Int.toNat_natCast,
      Double.div?, nonzero, if_neg Bool.false_ne_true, positive, same, sign, units]
    apply x.nearest?_of_contains (Nat.mul_pos (Nat.pow_pos (by decide)) Decimal.unit_pos)
    refine Decimal.Neighbourhood.contains_of_cross (Nat.pow_pos (by decide))
      (Nat.mul_pos (Nat.pow_pos (by decide)) Decimal.unit_pos) ?_ near
    rw [isPower, Int.toNat_natCast, Int.toNat_of_nonpos (by omega)]
    ring

theorem toDouble?_of_near {x value : Double} {significand : Nat} {exponent : Int} (positive : value.negative = false)
    (same : value.units = significand * unit) (few : exponent.natAbs ≤ 22) (near : x.Near ⟨significand, exponent⟩) :
    toDouble? x.negative significand exponent = some x := by
  have rounded := Double.ofQuotient?_of_units positive same
  have scaled := scaleDouble_of_near positive same few near
  rw [toDouble?, rounded]
  simp only [Option.bind_eq_bind, Option.bind_some, scaled, Option.pure_def, Option.some.injEq]
  cases sign : x.negative with
  | false => rw [if_neg Bool.false_ne_true, ← sign]
  | true => rw [if_pos rfl, Double.negate, Bool.not_false, ← sign]

end Json
end SchemaExport
