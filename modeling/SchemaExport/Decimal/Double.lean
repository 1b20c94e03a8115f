/-! Binary64 numbers, exactly: a significand of at most 53 bits on one of 2046 scales.

Every operation forms the exact result as a quotient of natural numbers and rounds it once, to the
nearest number and to the even significand from half way. A result beyond the last scale is none.
-/

set_option autoImplicit false

-- Powers are those of the numbers themselves, also where a library has powers of any monoid.
attribute [default_instance 20000, instance (20000)] instPowNat

namespace SchemaExport.Decimal

/-- The weight of the last bit on scale zero is `1 / unit`. -/
def unit : Nat := 2 ^ 1074

/-- One significand and scale for each magnitude: scale zero, or a full significand. -/
def Canonical (significand scale : Nat) : Prop :=
  significand < 2 ^ 53 ∧ scale ≤ 2045 ∧ (scale = 0 ∨ 2 ^ 52 ≤ significand)

instance (significand scale : Nat) : Decidable (Canonical significand scale) := by
  unfold Canonical; infer_instance

/-- A finite number of binary64, of magnitude `significand * 2 ^ scale / unit`; zero has two signs. -/
structure Double where
  negative : Bool
  significand : Nat
  scale : Nat
  canonical : Canonical significand scale
  deriving DecidableEq

namespace Double

def zero (negative : Bool) : Double := ⟨negative, 0, 0, by decide⟩

instance : Inhabited Double := ⟨zero false⟩

def isZero (x : Double) : Bool := x.significand == 0

def negate (x : Double) : Double := { x with negative := !x.negative }

def units (x : Double) : Nat := x.significand * 2 ^ x.scale

def make? (negative : Bool) (significand scale : Nat) : Option Double :=
  if canonical : Canonical significand scale then some ⟨negative, significand, scale, canonical⟩ else none

end Double

/-- The nearest natural number to a quotient; from half way, the even one. -/
def divideToEven (numerator denominator : Nat) : Nat :=
  let quotient := numerator / denominator
  let twice := 2 * (numerator % denominator)
  if twice < denominator then quotient
  else if denominator < twice then quotient + 1
  else quotient + quotient % 2

namespace Double

/-- The nearest number to `numerator / denominator` units, none beyond the last scale. -/
def nearest? (negative : Bool) (numerator denominator : Nat) : Option Double :=
  let scale := Nat.log2 (numerator / denominator) - 52
  let significand := divideToEven numerator (denominator * 2 ^ scale)
  if significand = 2 ^ 53 then make? negative (2 ^ 52) (scale + 1) else make? negative significand scale

def ofQuotient? (negative : Bool) (numerator denominator : Nat) : Option Double :=
  nearest? negative (numerator * unit) denominator

def ofDecimal? (negative : Bool) (digits : Nat) (exponent : Int) : Option Double :=
  if digits = 0 then some (zero negative)
  else if 0 ≤ exponent then ofQuotient? negative (digits * 10 ^ exponent.toNat) 1
  else ofQuotient? negative digits (10 ^ (-exponent).toNat)

def mul? (x y : Double) : Option Double :=
  nearest? (x.negative != y.negative) (x.units * y.units) unit

def div? (x y : Double) : Option Double :=
  if y.isZero then none else nearest? (x.negative != y.negative) (x.units * unit) y.units

def toInt? (x : Double) : Option Int :=
  if x.units % unit = 0 then
    some (if x.negative then -Int.ofNat (x.units / unit) else Int.ofNat (x.units / unit))
  else none

def sameValue (x y : Double) : Bool :=
  x.significand == y.significand && x.scale == y.scale && (x.negative == y.negative || x.isZero)

end Double
end SchemaExport.Decimal
