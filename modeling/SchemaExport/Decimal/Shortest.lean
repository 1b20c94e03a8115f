import SchemaExport.Decimal.Double

/-! The shortest decimal that reads back as a given number.

The decimals that round to a number form an interval, with its ends when the significand is even.
Among the grids of one, two, up to seventeen significant digits the first that has a point in the
interval is taken, and on it the point nearest to the number, the even one of two equally near.
-/

set_option autoImplicit false

namespace SchemaExport.Decimal

/-- An interval around a number, all in quarters of a unit. -/
structure Neighbourhood where
  lower : Nat
  middle : Nat
  upper : Nat
  closed : Bool

/-- Below a power of two the next number is only half as far. -/
def Double.neighbourhood (x : Double) : Neighbourhood :=
  let below := if x.significand = 2 ^ 52 ∧ 0 < x.scale then 1 else 2
  { lower := (4 * x.significand - below) * 2 ^ x.scale
    middle := 4 * x.significand * 2 ^ x.scale
    upper := (4 * x.significand + 2) * 2 ^ x.scale
    closed := x.significand % 2 == 0 }

/-- The same interval in steps of a decimal grid: `point` of them stand for `step` quarters. -/
def Neighbourhood.contains (around : Neighbourhood) (weight step point : Nat) : Bool :=
  let place := point * step
  if around.closed then around.lower * weight ≤ place && place ≤ around.upper * weight
  else around.lower * weight < place && place < around.upper * weight

def Neighbourhood.pick? (around : Neighbourhood) (exponent : Int) : Option Nat :=
  let weight := 10 ^ (-exponent).toNat
  let step := 4 * unit * 10 ^ exponent.toNat
  let low := around.middle * weight / step
  let remainder := around.middle * weight % step
  match around.contains weight step low, around.contains weight step (low + 1) with
  | true, true =>
    if 2 * remainder < step then some low
    else if step < 2 * remainder then some (low + 1)
    else some (low + low % 2)
  | true, false => some low
  | false, true => some (low + 1)
  | false, false => none

structure Digits where
  digits : Nat
  exponent : Int
  deriving DecidableEq, Repr

def decimalLength (n : Nat) : Nat := (Nat.toDigits 10 n).length

def Double.leadingExponent (x : Double) : Int :=
  Int.ofNat (decimalLength (x.units * 10 ^ 324 / unit)) - 325

def Double.shortest (x : Double) : Digits :=
  if x.isZero then ⟨0, 0⟩
  else
    let around := x.neighbourhood
    let found := (List.range 17).findSome? fun more =>
      let exponent := x.leadingExponent - Int.ofNat more
      (around.pick? exponent).map fun digits => Digits.mk digits exponent
    match found with
    | some ⟨digits, exponent⟩ => if digits = 10 then ⟨1, exponent + 1⟩ else ⟨digits, exponent⟩
    | none => ⟨0, 0⟩

end SchemaExport.Decimal
