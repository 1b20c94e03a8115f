import SchemaExport.Proofs.Decimal.Rounding

/-! The shortest digits of a number round to that number.

The search always ends: on the grid of seventeen digits a step is narrower than the neighbourhood, so
one of the two points around the number lies in it.
-/

set_option autoImplicit false

namespace SchemaExport.Decimal

/-! ## Values of digits -/

namespace Digits

def numerator (written : Digits) : Nat := written.digits * 10 ^ written.exponent.toNat * unit

def denominator (written : Digits) : Nat := 10 ^ (-written.exponent).toNat

theorem denominator_pos (written : Digits) : 0 < written.denominator := Nat.pow_pos (by decide)

theorem cross_shift (digits : Nat) (exponent : Int) (zeros : Nat) :
    (mk (digits * 10 ^ zeros) exponent).numerator * (mk digits (exponent + zeros)).denominator =
      (mk digits (exponent + zeros)).numerator * (mk (digits * 10 ^ zeros) exponent).denominator := by
  have powers : zeros + exponent.toNat + (-(exponent + zeros)).toNat =
      (exponent + zeros).toNat + (-exponent).toNat := by omega
  have same := congrArg (digits * unit * 10 ^ ·) powers
  simp only [Nat.pow_add] at same
  simp only [numerator, denominator]
  calc digits * 10 ^ zeros * 10 ^ exponent.toNat * unit * 10 ^ (-(exponent + zeros)).toNat
      = digits * unit * (10 ^ zeros * 10 ^ exponent.toNat * 10 ^ (-(exponent + zeros)).toNat) := by ring
    _ = digits * unit * (10 ^ (exponent + zeros).toNat * 10 ^ (-exponent).toNat) := same
    _ = digits * 10 ^ (exponent + zeros).toNat * unit * 10 ^ (-exponent).toNat := by ring

end Digits

namespace Double

def Near (x : Double) (written : Digits) : Prop :=
  x.neighbourhood.contains written.denominator 4 written.numerator = true

theorem Near.congr {x : Double} {written other : Digits} (near : x.Near written)
    (same : written.numerator * other.denominator = other.numerator * written.denominator) : x.Near other := by
  refine Neighbourhood.contains_of_cross written.denominator_pos other.denominator_pos ?_ near
  rw [Nat.mul_right_comm, same, Nat.mul_right_comm]

theorem near_shift {x : Double} {digits : Nat} {exponent : Int} (zeros : Nat) :
    x.Near ⟨digits * 10 ^ zeros, exponent⟩ ↔ x.Near ⟨digits, exponent + zeros⟩ :=
  ⟨fun near => near.congr (Digits.cross_shift digits exponent zeros),
    fun near => near.congr (Digits.cross_shift digits exponent zeros).symm⟩

end Double

/-! ## Points of a grid -/

theorem Neighbourhood.contains_of_pick? {around : Neighbourhood} {exponent : Int} {digits : Nat}
    (found : around.pick? exponent = some digits) :
    around.contains (10 ^ (-exponent).toNat) (4 * unit * 10 ^ exponent.toNat) digits = true ∧
      digits ≤ around.middle * 10 ^ (-exponent).toNat / (4 * unit * 10 ^ exponent.toNat) + 1 := by
  unfold pick? at found
  dsimp only at found
  generalize around.middle * 10 ^ (-exponent).toNat / (4 * unit * 10 ^ exponent.toNat) = low at found ⊢
  split at found
  · rename_i here next
    split at found
    · cases found
      exact ⟨here, by omega⟩
    · split at found
      · cases found
        exact ⟨next, by omega⟩
      · cases found
        rcases Nat.mod_two_eq_zero_or_one low with even | odd
        · rw [even]
          exact ⟨here, by omega⟩
        · rw [odd]
          exact ⟨next, by omega⟩
  · rename_i here _
    cases found
    exact ⟨here, by omega⟩
  · rename_i _ next
    cases found
    exact ⟨next, by omega⟩
  · exact nomatch found

/-- The search takes one of the two points around the number if either lies in the neighbourhood. -/
theorem Neighbourhood.outside_of_pick? {around : Neighbourhood} {exponent : Int}
    (missing : around.pick? exponent = none) :
    ∃ low, around.middle * 10 ^ (-exponent).toNat / (4 * unit * 10 ^ exponent.toNat) = low ∧
      ¬ around.contains (10 ^ (-exponent).toNat) (4 * unit * 10 ^ exponent.toNat) low = true ∧
      ¬ around.contains (10 ^ (-exponent).toNat) (4 * unit * 10 ^ exponent.toNat) (low + 1) = true := by
  unfold pick? at missing
  dsimp only at missing
  refine ⟨_, rfl, ?_⟩
  generalize around.middle * 10 ^ (-exponent).toNat / (4 * unit * 10 ^ exponent.toNat) = low at missing
  split at missing
  · split at missing
    · exact nomatch missing
    · split at missing <;> exact nomatch missing
  · exact nomatch missing
  · exact nomatch missing
  · rename_i outside beyond
    exact ⟨Bool.eq_false_iff.1 outside, Bool.eq_false_iff.1 beyond⟩

theorem lt_pow_decimalLength (n : Nat) : n < 10 ^ decimalLength n :=
  (Nat.length_toDigits_le_iff (by decide) Nat.length_toDigits_pos).1 (Nat.le_refl _)

theorem pow_le_of_decimalLength {n power : Nat} (length : decimalLength n = power + 1) (positive : 0 < n) :
    10 ^ power ≤ n := by
  by_contra small
  rcases Nat.eq_zero_or_pos power with rfl | more
  · rw [Nat.pow_zero] at small
    omega
  · have short : decimalLength n ≤ power := (Nat.length_toDigits_le_iff (by decide) more).2 (by omega)
    omega

namespace Double

theorem leadingExponent_bounds {x : Double} (nonzero : x.isZero = false) : ∃ power shift : Nat, shift = 324 ∧
    x.leadingExponent = power - shift ∧ 10 ^ power * unit ≤ x.units * 10 ^ shift ∧
      x.units * 10 ^ shift < 10 ^ (power + 1) * unit := by
  have some : 1 ≤ x.units := by
    have significand : x.significand ≠ 0 := by simpa [isZero] using nonzero
    exact Nat.mul_pos (Nat.pos_of_ne_zero significand) (Nat.two_pow_pos _)
  have smallest : unit ≤ 10 ^ 324 := by decide +kernel
  unfold leadingExponent
  -- The exponent is a variable from here on, so that nothing computes its power.
  obtain ⟨shift, isShift⟩ : ∃ shift, shift = 324 := ⟨_, rfl⟩
  rw [← isShift] at smallest ⊢
  have enough : unit ≤ x.units * 10 ^ shift := Nat.le_trans smallest (Nat.le_mul_of_pos_left _ some)
  obtain ⟨power, length⟩ : ∃ power, decimalLength (x.units * 10 ^ shift / unit) = power + 1 :=
    Nat.exists_eq_add_one_of_ne_zero (Nat.pos_iff_ne_zero.1 Nat.length_toDigits_pos)
  refine ⟨power, shift, rfl, ?_, ?_, ?_⟩
  · rw [length]
    simp only [Int.ofNat_eq_natCast]
    omega
  · exact (Nat.le_div_iff_mul_le unit_pos).1 (pow_le_of_decimalLength length (Nat.div_pos enough unit_pos))
  · exact (Nat.div_lt_iff_lt_mul unit_pos).1 (length ▸ lt_pow_decimalLength _)

/-- A point of the grid with one more digit than `more` for the leading one, against the number. -/
theorem grid_bounds {x : Double} {power shift more : Nat} {exponent : Int} (lined : (power : Int) - shift = exponent + more)
    (low : 10 ^ power * unit ≤ x.units * 10 ^ shift) (high : x.units * 10 ^ shift < 10 ^ (power + 1) * unit) :
    10 ^ more * (unit * 10 ^ exponent.toNat) ≤ x.units * 10 ^ (-exponent).toNat ∧
      x.units * 10 ^ (-exponent).toNat < 10 ^ (more + 1) * (unit * 10 ^ exponent.toNat) := by
  have powers : power + (-exponent).toNat = more + exponent.toNat + shift := by omega
  generalize exponent.toNat = up at powers ⊢
  generalize (-exponent).toNat = down at powers ⊢
  have scaled : 10 ^ power * 10 ^ down = 10 ^ more * 10 ^ up * 10 ^ shift := by
    rw [← Nat.pow_add, powers, Nat.pow_add, Nat.pow_add]
  have positive : 0 < 10 ^ shift := Nat.pow_pos (by decide)
  constructor
  · apply Nat.le_of_mul_le_mul_right _ positive
    calc 10 ^ more * (unit * 10 ^ up) * 10 ^ shift
        = 10 ^ more * 10 ^ up * 10 ^ shift * unit := by ring
      _ = 10 ^ power * unit * 10 ^ down := by rw [← scaled]; ring
      _ ≤ x.units * 10 ^ shift * 10 ^ down := Nat.mul_le_mul_right _ low
      _ = x.units * 10 ^ down * 10 ^ shift := by ring
  · apply Nat.lt_of_mul_lt_mul_right
    calc x.units * 10 ^ down * 10 ^ shift
        = x.units * 10 ^ shift * 10 ^ down := by ring
      _ < 10 ^ (power + 1) * unit * 10 ^ down := Nat.mul_lt_mul_of_pos_right high (Nat.pow_pos (by decide))
      _ = 10 ^ power * 10 ^ down * (10 * unit) := by ring
      _ = 10 ^ (more + 1) * (unit * 10 ^ up) * 10 ^ shift := by rw [scaled]; ring

/-- A neighbourhood without a point of the grid beside its number is no wider than a step. -/
theorem span_le_step {x : Double} {step weight width low : Nat} (nonzero : x.isZero = false)
    (wide : weight * 2 ^ x.scale = width) (width_pos : 0 < width) (step_pos : 0 < step)
    (isLow : x.neighbourhood.middle * weight / step = low)
    (outside : ¬ x.neighbourhood.contains weight step low = true)
    (beyond : ¬ x.neighbourhood.contains weight step (low + 1) = true) : (x.reach + 2) * width ≤ step := by
  rw [x.middle_mul wide] at isLow
  have below : low * step ≤ 4 * (x.significand * width) := isLow ▸ Nat.div_mul_le_self ..
  have above : 4 * (x.significand * width) < low * step + step := isLow ▸ Nat.lt_div_mul_add step_pos
  have least : 1 * width ≤ x.significand * width :=
    Nat.mul_le_mul_right _ (Nat.pos_of_ne_zero (by simpa [isZero] using nonzero))
  have next : (low + 1) * step = low * step + step := Nat.succ_mul ..
  rw [Neighbourhood.contains_iff, x.lower_mul wide, x.upper_mul wide] at outside beyond
  rw [next] at beyond
  have under : low * step ≤ 4 * (x.significand * width) - x.reach * width := by
    by_contra inside
    exact outside ⟨by omega, by omega, .inr ⟨by omega, by omega⟩⟩
  have past : 4 * (x.significand * width) + 2 * width ≤ low * step + step := by
    by_contra inside
    exact beyond ⟨by omega, by omega, .inr ⟨by omega, by omega⟩⟩
  rw [Nat.add_mul]
  rcases x.reach_cases with ⟨reach, -⟩ | ⟨reach, -⟩ <;> rw [reach] at under ⊢ <;> omega

/-- On the grid of seventeen digits a step is narrower than the neighbourhood. -/
theorem pick?_ne_none {x : Double} {step weight : Nat} {exponent : Int}
    (stepped : 4 * unit * 10 ^ exponent.toNat = step) (weighted : 10 ^ (-exponent).toNat = weight)
    (fine : 10 ^ 16 * step ≤ 4 * (x.units * weight)) (nonzero : x.isZero = false) :
    x.neighbourhood.pick? exponent ≠ none := by
  intro missing
  obtain ⟨low, isLow, outside, beyond⟩ := Neighbourhood.outside_of_pick? missing
  rw [stepped, weighted] at isLow outside beyond
  obtain ⟨width, wide⟩ : ∃ width, weight * 2 ^ x.scale = width := ⟨_, rfl⟩
  have width_pos : 0 < width := by
    rw [← wide, ← weighted]
    exact Nat.mul_pos (Nat.pow_pos (by decide)) (Nat.two_pow_pos _)
  have step_pos : 0 < step := by
    rw [← stepped]
    exact Nat.mul_pos (Nat.mul_pos (by decide) unit_pos) (Nat.pow_pos (by decide))
  have span : (x.reach + 2) * width ≤ step := span_le_step nonzero wide width_pos step_pos isLow outside beyond
  have value : x.units * weight = x.significand * width := x.mul_scale wide x.significand
  rw [value] at fine
  -- Sixteen digits more than the leading one are finer than fifty-three bits, also below a power of two.
  rcases x.reach_cases with ⟨reach, power, -⟩ | ⟨reach, -⟩
  · rw [reach] at span
    rw [power] at fine
    omega
  · have most : x.significand * width ≤ 2 ^ 53 * width := Nat.mul_le_mul_right _ (Nat.le_of_lt x.canonical.1)
    rw [reach] at span
    omega

/-! ## The digits that are found -/

/-- Digits that stand for a number other than zero, few enough for the reader of numbers. -/
structure Presents (x : Double) (written : Digits) : Prop where
  near : x.Near written
  positive : 0 < written.digits
  few : written.digits ≤ 10 ^ 17
  low : -1000 ≤ written.exponent
  high : written.exponent ≤ 1000

theorem power_lt {x : Double} {power shift : Nat} (isShift : shift = 324)
    (low : 10 ^ power * unit ≤ x.units * 10 ^ shift) : power < 700 := by
  by_contra large
  have largest : ∀ top bound, top = 2045 → bound = 700 → 2 ^ 53 * 2 ^ top * 10 ^ shift < 10 ^ bound * unit := by
    rintro _ _ rfl rfl
    rw [isShift]
    decide +kernel
  obtain ⟨top, isTop⟩ : ∃ top, top = 2045 := ⟨_, rfl⟩
  obtain ⟨bound, isBound⟩ : ∃ bound, bound = 700 := ⟨_, rfl⟩
  have bounded : x.units ≤ 2 ^ 53 * 2 ^ top :=
    Nat.mul_le_mul (Nat.le_of_lt x.canonical.1) (Nat.pow_le_pow_right (by decide) (isTop ▸ x.canonical.2.1))
  have above : 10 ^ bound * unit ≤ 10 ^ power * unit :=
    Nat.mul_le_mul_right _ (Nat.pow_le_pow_right (by decide) (by omega))
  exact absurd (Nat.le_trans (Nat.le_trans above low) (Nat.mul_le_mul_right _ bounded))
    (Nat.not_le_of_lt (largest top bound isTop isBound))

theorem leadingExponent_range {x : Double} (nonzero : x.isZero = false) :
    -324 ≤ x.leadingExponent ∧ x.leadingExponent < 376 := by
  obtain ⟨power, shift, isShift, leading, low, -⟩ := leadingExponent_bounds nonzero
  have small := power_lt isShift low
  omega

theorem leadingExponent_grid {x : Double} (nonzero : x.isZero = false) {more : Nat} {exponent : Int}
    (lined : x.leadingExponent - more = exponent) :
    10 ^ more * (unit * 10 ^ exponent.toNat) ≤ x.units * 10 ^ (-exponent).toNat ∧
      x.units * 10 ^ (-exponent).toNat < 10 ^ (more + 1) * (unit * 10 ^ exponent.toNat) := by
  obtain ⟨power, shift, -, leading, low, high⟩ := leadingExponent_bounds nonzero
  exact grid_bounds (by omega) low high

theorem near_of_contains {x : Double} {digits : Nat} {exponent : Int}
    (inside : x.neighbourhood.contains (10 ^ (-exponent).toNat) (4 * unit * 10 ^ exponent.toNat) digits = true) :
    x.Near ⟨digits, exponent⟩ := by
  refine Neighbourhood.contains_of_cross (Nat.pow_pos (by decide)) (Digits.denominator_pos _) ?_ inside
  rw [Digits.denominator, Digits.numerator]
  ring

theorem pos_of_contains {x : Double} (nonzero : x.isZero = false) {weight step digits : Nat} (positive : 0 < weight)
    (inside : x.neighbourhood.contains weight step digits = true) : 0 < digits := by
  obtain ⟨width, wide⟩ : ∃ width, weight * 2 ^ x.scale = width := ⟨_, rfl⟩
  have width_pos : 0 < width := wide ▸ Nat.mul_pos positive (Nat.two_pow_pos _)
  have one : 1 * width ≤ x.significand * width :=
    Nat.mul_le_mul_right _ (Nat.pos_of_ne_zero (by simpa [isZero] using nonzero))
  obtain ⟨lower, -⟩ := Neighbourhood.contains_iff.1 inside
  rw [x.lower_mul wide] at lower
  by_contra zero
  rw [Nat.eq_zero_of_not_pos zero, Nat.zero_mul] at lower
  rcases x.reach_cases with ⟨reach, -⟩ | ⟨reach, -⟩ <;> rw [reach] at lower <;> omega

theorem presents_of_pick? {x : Double} (nonzero : x.isZero = false) {more : Nat} (inRange : more < 17) {digits : Nat}
    (found : x.neighbourhood.pick? (x.leadingExponent - more) = some digits) :
    x.Presents ⟨digits, x.leadingExponent - more⟩ := by
  obtain ⟨exponent, lined⟩ : ∃ exponent, x.leadingExponent - more = exponent := ⟨_, rfl⟩
  obtain ⟨lowest, highest⟩ := leadingExponent_range nonzero
  obtain ⟨-, beyond⟩ := leadingExponent_grid nonzero lined
  rw [lined] at found ⊢
  obtain ⟨inside, least⟩ := Neighbourhood.contains_of_pick? found
  have weight_pos : 0 < 10 ^ (-exponent).toNat := Nat.pow_pos (by decide)
  have step_pos : 0 < 4 * unit * 10 ^ exponent.toNat :=
    Nat.mul_pos (Nat.mul_pos (by decide) unit_pos) (Nat.pow_pos (by decide))
  have value : x.neighbourhood.middle * 10 ^ (-exponent).toNat = 4 * (x.units * 10 ^ (-exponent).toNat) :=
    (x.middle_mul rfl).trans (congrArg (4 * ·) (x.mul_scale rfl x.significand).symm)
  -- The number has `more + 1` digits on the grid, so the point below it has no more.
  have few : x.neighbourhood.middle * 10 ^ (-exponent).toNat / (4 * unit * 10 ^ exponent.toNat) < 10 ^ (more + 1) := by
    rw [Nat.div_lt_iff_lt_mul step_pos, value]
    have grouped : 10 ^ (more + 1) * (4 * unit * 10 ^ exponent.toNat) =
        4 * (10 ^ (more + 1) * (unit * 10 ^ exponent.toNat)) := by ring
    omega
  have most : 10 ^ (more + 1) ≤ 10 ^ 17 := Nat.pow_le_pow_right (by decide) inRange
  exact ⟨near_of_contains inside, pos_of_contains nonzero weight_pos inside, by dsimp only; omega,
    by dsimp only; omega, by dsimp only; omega⟩

theorem presents_shortest {x : Double} (nonzero : x.isZero = false) : x.Presents x.shortest := by
  obtain ⟨lowest, highest⟩ := leadingExponent_range nonzero
  unfold shortest
  rw [if_neg (by simp [nonzero])]
  dsimp only
  split
  · rename_i digits exponent found
    obtain ⟨more, member, picked⟩ := List.exists_of_findSome?_eq_some found
    obtain ⟨chosen, chosenPicked, same⟩ := Option.map_eq_some_iff.1 picked
    cases same
    have inRange : more < 17 := List.mem_range.1 member
    have presents := presents_of_pick? nonzero inRange chosenPicked
    split
    · -- Ten is one on the next grid.
      rename_i ten
      rw [ten] at presents
      have near : x.Near ⟨1, x.leadingExponent - Int.ofNat more + (1 : Nat)⟩ := (near_shift 1).1 presents.near
      exact ⟨near, by dsimp only; omega, by dsimp only; omega, by dsimp only [Int.ofNat_eq_natCast]; omega,
        by dsimp only [Int.ofNat_eq_natCast]; omega⟩
    · exact presents
  · -- The search cannot fail, as its last grid is fine enough.
    rename_i missing
    have last := List.findSome?_eq_none_iff.1 missing 16 (by decide)
    have none : x.neighbourhood.pick? (x.leadingExponent - (16 : Nat)) = none := Option.map_eq_none_iff.1 last
    obtain ⟨exponent, lined⟩ : ∃ exponent, x.leadingExponent - (16 : Nat) = exponent := ⟨_, rfl⟩
    obtain ⟨fine, -⟩ := leadingExponent_grid nonzero lined
    rw [lined] at none
    refine absurd none (pick?_ne_none rfl rfl ?_ nonzero)
    have grouped : 10 ^ 16 * (4 * unit * 10 ^ exponent.toNat) = 4 * (10 ^ 16 * (unit * 10 ^ exponent.toNat)) := by ring
    rw [grouped]
    exact Nat.mul_le_mul_left 4 fine

theorem shortest_of_isZero {x : Double} (isZero : x.isZero = true) : x.shortest = ⟨0, 0⟩ := by
  rw [shortest, if_pos isZero]

theorem eq_zero_of_isZero {x : Double} (isZero : x.isZero = true) : x = zero x.negative := by
  obtain ⟨negative, significand, scale, canonical⟩ := x
  obtain rfl : significand = 0 := by simpa [Double.isZero] using isZero
  obtain rfl : scale = 0 := canonical.2.2.resolve_right (by decide)
  rfl

/-- Read with a single rounding, the shortest digits of a number are that number. -/
theorem ofDecimal?_shortest (x : Double) : ofDecimal? x.negative x.shortest.digits x.shortest.exponent = some x := by
  by_cases isZero : x.isZero = true
  · rw [shortest_of_isZero isZero, ofDecimal?, if_pos rfl, ← eq_zero_of_isZero isZero]
  · have presents := presents_shortest (Bool.eq_false_iff.2 isZero)
    have near := presents.near
    unfold Near Digits.numerator Digits.denominator at near
    rw [ofDecimal?, if_neg (Nat.pos_iff_ne_zero.1 presents.positive)]
    by_cases whole : 0 ≤ x.shortest.exponent
    · rw [Int.toNat_of_nonpos (Int.neg_nonpos_of_nonneg whole)] at near
      rw [if_pos whole, ofQuotient?, x.nearest?_of_contains Nat.one_pos near]
    · rw [Int.toNat_of_nonpos (by omega : x.shortest.exponent ≤ 0), Nat.pow_zero, Nat.mul_one] at near
      rw [if_neg whole, ofQuotient?, x.nearest?_of_contains (Nat.pow_pos (by decide)) near]

end Double
end SchemaExport.Decimal
