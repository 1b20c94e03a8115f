import SchemaExport.Proofs.Json.Layout

/-! The text of every double is read as a double.

The roundings of a significand and a power of ten add up to about two steps of the last scale, so only the
two largest numbers could be taken out of range; they are not. Towards zero nothing is refused.
-/

set_option autoImplicit false

namespace SchemaExport

open Decimal (Digits Double Neighbourhood unit)

namespace Decimal.Double

theorem exists_ofQuotient? (negative : Bool) {n : Nat} (range : 2 * (n * unit) < limit) : ∃ y : Double,
    ofQuotient? negative n 1 = some y ∧ y.negative = negative ∧
      2 ^ 53 * y.units ≤ (2 ^ 53 + 1) * (n * unit) ∧ (2 ^ 53 - 1) * (n * unit) ≤ 2 ^ 53 * y.units := by
  rw [← Nat.mul_one limit] at range
  obtain ⟨y, step, rounded, sign, low, high, narrow⟩ := exists_nearest? negative Nat.one_pos range
  refine ⟨y, rounded, sign, ?_⟩
  rw [Nat.mul_one] at low high
  rcases Nat.eq_zero_or_pos n with rfl | some
  · omega
  · have large : 2 ^ 52 ≤ unit := by decide +kernel
    have atLeast : unit ≤ n * unit := Nat.le_mul_of_pos_left _ some
    omega

end Decimal.Double

namespace Json

theorem powerOfTen_bounds {exponent : Nat} (inTable : exponent ≤ 308) :
    2 ^ 53 * (powerOfTen exponent).units ≤ (2 ^ 53 + 1) * (10 ^ exponent * unit) ∧
      (2 ^ 53 - 1) * (10 ^ exponent * unit) ≤ 2 ^ 53 * (powerOfTen exponent).units := by
  have largest : ∀ last, last = 308 → 2 * (10 ^ last * unit) < Double.limit := by
    rintro _ rfl
    decide +kernel
  obtain ⟨last, isLast⟩ : ∃ last, last = 308 := ⟨_, rfl⟩
  have below : 10 ^ exponent * unit ≤ 10 ^ last * unit :=
    Nat.mul_le_mul_right _ (Nat.pow_le_pow_right (by decide) (isLast ▸ inTable))
  have range := largest last isLast
  obtain ⟨power, rounded, -, bounds⟩ := Double.exists_ofQuotient? false (by omega : 2 * (10 ^ exponent * unit) < Double.limit)
  rw [powerOfTen, rounded]
  exact bounds

theorem unit_le_powerOfTen {exponent : Nat} (positive : 0 < exponent) (inTable : exponent ≤ 308) :
    unit ≤ (powerOfTen exponent).units := by
  obtain ⟨-, high⟩ := powerOfTen_bounds inTable
  have ten : 10 * unit ≤ 10 ^ exponent * unit :=
    Nat.mul_le_mul_right _ (Nat.le_self_pow (Nat.pos_iff_ne_zero.1 positive) 10)
  omega

theorem scaleDouble_up {value : Double} {significand exponent top : Nat} (isTop : top = 2045) (inTable : exponent ≤ 308)
    (rounded : 2 ^ 53 * value.units ≤ (2 ^ 53 + 1) * (significand * unit))
    (room : 4 * (significand * 10 ^ exponent * unit) ≤ (2 ^ 55 - 10) * 2 ^ top) :
    ∃ y, scaleDouble 4 value exponent = some y := by
  obtain ⟨power, -⟩ := powerOfTen_bounds inTable
  have product : 2 ^ 106 * (value.units * (powerOfTen exponent).units) ≤
      (2 ^ 53 + 1) ^ 2 * (significand * 10 ^ exponent * unit) * unit := by
    calc 2 ^ 106 * (value.units * (powerOfTen exponent).units)
        = (2 ^ 53 * value.units) * (2 ^ 53 * (powerOfTen exponent).units) := by ring
      _ ≤ ((2 ^ 53 + 1) * (significand * unit)) * ((2 ^ 53 + 1) * (10 ^ exponent * unit)) := Nat.mul_le_mul rounded power
      _ = (2 ^ 53 + 1) ^ 2 * (significand * 10 ^ exponent * unit) * unit := by ring
  have range : 2 * (value.units * (powerOfTen exponent).units) < Double.limit * unit := by
    rw [Double.limit_eq isTop]
    generalize significand * 10 ^ exponent * unit = ideal at product room
    have wide : 4 * (ideal * unit) ≤ (2 ^ 55 - 10) * (2 ^ top * unit) := by
      calc 4 * (ideal * unit) = 4 * ideal * unit := by ring
        _ ≤ (2 ^ 55 - 10) * 2 ^ top * unit := Nat.mul_le_mul_right _ room
        _ = (2 ^ 55 - 10) * (2 ^ top * unit) := Nat.mul_assoc ..
    have some : 0 < 2 ^ top * unit := Nat.mul_pos (Nat.two_pow_pos _) Decimal.unit_pos
    rw [Nat.mul_assoc] at product ⊢
    -- Only linear facts about the two products are left.
    generalize ideal * unit = ideal at product wide
    generalize 2 ^ top * unit = room at wide some ⊢
    omega
  obtain ⟨y, -, nearest, -⟩ := Double.exists_nearest? (value.negative != (powerOfTen exponent).negative) Decimal.unit_pos range
  refine ⟨y, ?_⟩
  rw [scaleDouble, if_pos ⟨Int.natCast_nonneg _, by rw [largestPower]; omega⟩, Int.toNat_natCast, Double.mul?, nearest]

/-- Divided by a number that is not below one, a number at most doubles by rounding. -/
theorem exists_div? {value divisor : Double} (small : 2 * value.units < Double.limit)
    (above : unit ≤ divisor.units) : ∃ y, value.div? divisor = some y ∧ y.units ≤ 2 * value.units := by
  have divisor_pos : 0 < divisor.units := Nat.lt_of_lt_of_le Decimal.unit_pos above
  have nonzero : divisor.isZero = false := by
    rw [Bool.eq_false_iff, Ne, ← Double.units_eq_zero_iff]
    exact Nat.pos_iff_ne_zero.1 divisor_pos
  -- The divisor is at least one, so the quotient is no larger than the number.
  have least : value.units * unit ≤ value.units * divisor.units := Nat.mul_le_mul_left _ above
  have range : 2 * (value.units * unit) < Double.limit * divisor.units := by
    calc 2 * (value.units * unit) ≤ 2 * value.units * divisor.units := by
          rw [Nat.mul_assoc]
          exact Nat.mul_le_mul_left 2 least
      _ < Double.limit * divisor.units := Nat.mul_lt_mul_of_pos_right small divisor_pos
  obtain ⟨y, step, nearest, -, low, -, narrow⟩ :=
    Double.exists_nearest? (value.negative != divisor.negative) divisor_pos range
  refine ⟨y, ?_, ?_⟩
  · rw [Double.div?, nonzero, if_neg Bool.false_ne_true, nearest]
  · by_contra more
    have least : (2 * value.units + 1) * divisor.units ≤ y.units * divisor.units := Nat.mul_le_mul_right _ (by omega)
    rw [Nat.add_mul, Nat.mul_assoc, Nat.one_mul] at least
    omega

theorem scaleDouble_inTable (parts : Nat) {value : Double} {exponent : Int} (below : exponent < 0)
    (inTable : -308 ≤ exponent) (small : 2 * value.units < Double.limit) :
    ∃ y, scaleDouble (parts + 1) value exponent = some y := by
  obtain ⟨y, quotient, -⟩ :=
    exists_div? small (unit_le_powerOfTen (by omega : 0 < (-exponent).toNat) (by omega))
  refine ⟨y, ?_⟩
  rw [scaleDouble, if_neg (by omega), if_pos ⟨inTable, below⟩, quotient]

theorem scaleDouble_down (parts : Nat) {value : Double} {exponent : Int} (below : exponent < 0)
    (above : -308 * (parts + 1 : Nat) ≤ exponent) (small : value.units * 2 ^ (parts + 1) < Double.limit) :
    ∃ y, scaleDouble (parts + 1) value exponent = some y := by
  have twice {more : Nat} {value : Double} (small : value.units * 2 ^ (more + 1) < Double.limit) :
      2 * value.units < Double.limit := by
    have least : 2 * value.units ≤ value.units * 2 ^ (more + 1) := by
      rw [Nat.mul_comm]
      exact Nat.mul_le_mul_left _ (Nat.le_self_pow (Nat.succ_ne_zero more) 2)
    exact Nat.lt_of_le_of_lt least small
  induction parts generalizing value exponent with
  | zero => exact scaleDouble_inTable 0 below (by omega) (twice small)
  | succ parts ih =>
    by_cases inTable : -308 ≤ exponent
    · exact scaleDouble_inTable (parts + 1) below inTable (twice small)
    · rw [scaleDouble, if_neg (by omega), if_neg (fun both => inTable both.1)]
      by_cases zero : value.isZero = true
      · exact ⟨value, if_pos zero⟩
      · -- One part of the division; the quotient is small enough for the parts that are left.
        obtain ⟨quotient, divided, least⟩ := exists_div? (twice small) (unit_le_powerOfTen (by decide : 0 < 308) (by decide))
        have halved : quotient.units * 2 ^ (parts + 1) < Double.limit := by
          refine Nat.lt_of_le_of_lt ?_ small
          calc quotient.units * 2 ^ (parts + 1) ≤ 2 * value.units * 2 ^ (parts + 1) := Nat.mul_le_mul_right _ least
            _ = value.units * 2 ^ (parts + 1 + 1) := by ring
        obtain ⟨y, scaled⟩ := ih (by omega : exponent + 308 < 0) (by omega) halved
        refine ⟨y, ?_⟩
        rw [if_neg zero, if_neg (by omega), divided]
        exact scaled

/-! ## Digits of a number -/

/-- A significand is rounded within the range, so only its scaling can fail. -/
theorem exists_toDouble? {significand : Nat} {exponent : Int} (fits : significand < significandLimit)
    (scales : ∀ value : Double, 2 ^ 53 * value.units ≤ (2 ^ 53 + 1) * (significand * unit) →
      ∃ y, scaleDouble 4 value exponent = some y) (negative : Bool) :
    ∃ y, toDouble? negative significand exponent = some y := by
  have wide : 2 ^ 65 * unit < Double.limit := by decide +kernel
  have short : significand * unit ≤ 2 ^ 64 * unit := Nat.mul_le_mul_right _ (Nat.le_of_lt fits)
  obtain ⟨value, rounded, -, low, -⟩ := Double.exists_ofQuotient? false (by omega : 2 * (significand * unit) < Double.limit)
  obtain ⟨y, scaled⟩ := scales value low
  rw [toDouble?, rounded]
  simp only [Option.bind_eq_bind, Option.bind_some, scaled, Option.pure_def, Option.some.injEq, exists_eq']

theorem exists_toDouble?_down {significand : Nat} {exponent : Int} (fits : significand < significandLimit)
    (below : exponent < 0) (above : -1000 ≤ exponent) (negative : Bool) :
    ∃ y, toDouble? negative significand exponent = some y := by
  apply exists_toDouble? fits
  intro value rounded
  have wide : 2 ^ 70 * unit < Double.limit := by decide +kernel
  have short : significand * unit ≤ 2 ^ 64 * unit := Nat.mul_le_mul_right _ (Nat.le_of_lt fits)
  exact scaleDouble_down 3 below (by omega) (by omega)

theorem exists_toDouble?_up {x : Double} {significand exponent : Nat} (near : x.Near ⟨significand, exponent⟩)
    (positive : 0 < significand) (fits : significand < significandLimit)
    (lower : x.scale < 2045 ∨ x.significand ≤ 2 ^ 53 - 3) (negative : Bool) :
    ∃ y, toDouble? negative significand exponent = some y := by
  -- The last scale is a variable, so that nothing computes its power.
  obtain ⟨top, isTop⟩ : ∃ top, top = 2045 := ⟨_, rfl⟩
  have room : 4 * (significand * 10 ^ exponent * unit) ≤ (2 ^ 55 - 10) * 2 ^ top := by
    have upper : significand * 10 ^ exponent * unit * 4 ≤ (4 * x.significand + 2) * 2 ^ x.scale := by
      simpa [Digits.numerator, Digits.denominator, Double.neighbourhood] using (Neighbourhood.contains_iff.1 near).2.1
    obtain ⟨short, last, -⟩ := x.canonical
    have last : 2 ^ x.scale ≤ 2 ^ top := Nat.pow_le_pow_right (by decide) (isTop ▸ last)
    rcases lower with inner | small
    · have half : 2 * 2 ^ x.scale ≤ 2 ^ top := by
        rw [← Nat.pow_succ']
        exact Nat.pow_le_pow_right (by decide) (isTop ▸ inner)
      have full : (4 * x.significand + 2) * 2 ^ x.scale ≤ (2 ^ 55 - 2) * 2 ^ x.scale := Nat.mul_le_mul_right _ (by omega)
      omega
    · have under : (4 * x.significand + 2) * 2 ^ x.scale ≤ (2 ^ 55 - 10) * 2 ^ top :=
        Nat.mul_le_mul (by omega) last
      omega
  have inTable : exponent ≤ 308 := by
    by_contra beyond
    have largest : ∀ top power, top = 2045 → power = 309 → (2 ^ 55 - 10) * 2 ^ top < 4 * (10 ^ power * unit) := by
      rintro _ _ rfl rfl
      decide +kernel
    obtain ⟨power, isPower⟩ : ∃ power, power = 309 := ⟨_, rfl⟩
    have least : 10 ^ power ≤ significand * 10 ^ exponent :=
      Nat.le_trans (Nat.pow_le_pow_right (by decide) (by omega)) (Nat.le_mul_of_pos_left _ positive)
    have above := Nat.mul_le_mul_right unit least
    have tooLarge := largest top power isTop isPower
    omega
  exact exists_toDouble? fits (fun _ rounded => scaleDouble_up isTop inTable rounded room) negative

theorem exists_toDouble?_largest (x : Double) (upper : ¬ (x.scale < 2045 ∨ x.significand ≤ 2 ^ 53 - 3)) :
    ∃ y, toDouble? x.negative x.written.digits x.written.exponent = some y := by
  -- The bound on two roundings leaves no room here, so the four numbers are read one by one.
  have read : ∀ negative : Bool, ∀ less : Fin 2, ∀ canonical : Decimal.Canonical (2 ^ 53 - 1 - less) 2045,
      let x : Double := ⟨negative, 2 ^ 53 - 1 - less, 2045, canonical⟩
      (toDouble? x.negative x.written.digits x.written.exponent).isSome = true := by
    decide +kernel
  obtain ⟨negative, significand, scale, canonical⟩ := x
  have short := canonical.1
  have last := canonical.2.1
  dsimp only at upper
  obtain rfl : scale = 2045 := by omega
  rcases (by omega : significand = 2 ^ 53 - 1 ∨ significand = 2 ^ 53 - 2) with rfl | rfl
  · exact Option.isSome_iff_exists.1 (read negative 0 canonical)
  · exact Option.isSome_iff_exists.1 (read negative 1 canonical)

/-- The reader gets a number from the digits of any double. -/
theorem exists_toDouble?_written (x : Double) :
    ∃ y, toDouble? x.negative x.written.digits x.written.exponent = some y := by
  obtain ⟨fits, above⟩ := written_bounds x
  by_cases below : x.written.exponent < 0
  · exact exists_toDouble?_down fits below above x.negative
  · by_cases isZero : x.isZero = true
    · rw [Double.written, Double.leading, Double.shortest_of_isZero isZero] at below
      exact absurd (by decide) below
    · by_cases lower : x.scale < 2045 ∨ x.significand ≤ 2 ^ 53 - 3
      · obtain ⟨exponent, same⟩ := Int.eq_ofNat_of_zero_le (Int.not_lt.1 below)
        have near : x.Near ⟨x.written.digits, exponent⟩ := same ▸ x.near_written
        rw [same]
        exact exists_toDouble?_up near (written_digits_pos (Bool.eq_false_iff.2 isZero)) fits lower x.negative
      · exact exists_toDouble?_largest x lower

end Json

/-! ## What a text is read as -/

namespace Decimal.Double

def reread (x : Double) : Double := (Json.toDouble? x.negative x.written.digits x.written.exponent).getD x

theorem numeral_text (x : Double) : Json.Numeral x.text (.double x.reread) := by
  obtain ⟨y, read⟩ := Json.exists_toDouble?_written x
  rw [Json.Numeral, Json.readNumber_text, Json.finish, reread, read]
  rfl

/-- A significand and a power of ten that are numbers themselves. -/
structure Fast (x : Double) : Prop where
  significand : ∃ value : Double, value.units = x.written.digits * unit
  power : x.written.exponent.natAbs ≤ 22

theorem Fast.reread_eq {x : Double} (fast : x.Fast) : x.reread = x := by
  obtain ⟨value, same⟩ := fast.significand
  let magnitude : Double := { value with negative := false }
  have positive : magnitude.negative = false := rfl
  rw [reread, Json.toDouble?_of_near positive same fast.power x.near_written, Option.getD_some]

end Decimal.Double
end SchemaExport
