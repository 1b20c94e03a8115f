import SchemaExport.Decimal.Layout

/-! Numbers as they are stored: integers of 64 bits apart from finite binary64 numbers. -/

set_option autoImplicit false

namespace SchemaExport

inductive Number where
  | integer (value : Int)
  | double (value : Decimal.Double)
  deriving DecidableEq

namespace Number

def text : Number → List Char
  | .integer value => Decimal.integerText value
  | .double value => value.text

/-- Equality of stored numbers: an integer never equals a double, and the two zero doubles are equal. -/
def same : Number → Number → Bool
  | .integer left, .integer right => left == right
  | .double left, .double right => left.sameValue right
  | _, _ => false

/-- A double without a fraction and below `2 ^ 53` is kept as an integer. -/
def ofDouble (value : Decimal.Double) : Number :=
  match value.toInt? with
  | some whole => if whole.natAbs < 2 ^ 53 then .integer whole else .double value
  | none => .double value

end Number
end SchemaExport
