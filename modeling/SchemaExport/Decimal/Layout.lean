import SchemaExport.Decimal.Shortest

/-! The text of a number: positional for leading exponents from -5 to 15, scientific elsewhere. -/

set_option autoImplicit false

namespace SchemaExport.Decimal

def naturalText (n : Nat) : List Char := Nat.toDigits 10 n

def integerText : Int → List Char
  | .ofNat n => naturalText n
  | .negSucc n => '-' :: naturalText (n + 1)

/-- A positional text has a digit on each side of the point. -/
def positional (digits : List Char) (leading : Int) : List Char :=
  let whole := leading.toNat + 1
  if leading < 0 then '0' :: '.' :: (List.replicate (-leading - 1).toNat '0' ++ digits)
  else if digits.length ≤ whole then digits ++ List.replicate (whole - digits.length) '0' ++ ['.', '0']
  else digits.take whole ++ '.' :: digits.drop whole

/-- A scientific text has a signed exponent, and a point only between digits. -/
def scientific (digits : List Char) (leading : Int) : List Char :=
  let sign := if leading < 0 then '-' else '+'
  let exponent := sign :: naturalText leading.natAbs
  match digits with
  | [] => 'e' :: exponent
  | [digit] => digit :: 'e' :: exponent
  | digit :: fraction => digit :: '.' :: (fraction ++ 'e' :: exponent)

def Double.text (x : Double) : List Char :=
  let ⟨value, exponent⟩ := x.shortest
  let digits := naturalText value
  let leading := exponent + Int.ofNat digits.length - 1
  let magnitude := if -5 ≤ leading ∧ leading ≤ 15 then positional digits leading else scientific digits leading
  if x.negative then '-' :: magnitude else magnitude

end SchemaExport.Decimal
