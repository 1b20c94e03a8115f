import SchemaExport.Number
import SchemaExport.Json.Fault

/-! Reading numbers.

The digits are collected in a significand below `2 ^ 64` with a decimal exponent; digits that do
not fit count towards the exponent when they stand before the point and are dropped behind it. A
number that is not an integer is the significand, rounded, times or over one power of ten, rounded:
not always the nearest number to the text.
-/

set_option autoImplicit false

namespace SchemaExport.Json

def significandLimit : Nat := 2 ^ 64

def digitValue (c : Char) : Nat := c.toNat - 48

/-- Digits that fit the significand, and the text from the first that does not. -/
def absorb (significand : Nat) : List Char → Nat × List Char
  | [] => (significand, [])
  | c :: rest =>
    if c.isDigit && significand * 10 + digitValue c < significandLimit then
      absorb (significand * 10 + digitValue c) rest
    else (significand, c :: rest)

def largestPower : Int := 308

def powerOfTen (exponent : Nat) : Decimal.Double :=
  (Decimal.Double.ofQuotient? false (10 ^ exponent) 1).getD (.zero false)

/-- A rounded significand scaled by a power of ten. Below `10 ^ -308` it is divided in parts: a
significand has less than twenty digits, so nothing is left of it after three of them. -/
def scaleDouble : Nat → Decimal.Double → Int → Option Decimal.Double
  | 0, value, _ => some value
  | parts + 1, value, exponent =>
    if 0 ≤ exponent ∧ exponent ≤ largestPower then value.mul? (powerOfTen exponent.toNat)
    else if -largestPower ≤ exponent ∧ exponent < 0 then value.div? (powerOfTen (-exponent).toNat)
    else if value.isZero then some value
    else if 0 ≤ exponent then none
    else do scaleDouble parts (← value.div? (powerOfTen 308)) (exponent + 308)

def toDouble? (negative : Bool) (significand : Nat) (exponent : Int) : Option Decimal.Double := do
  let rounded ← Decimal.Double.ofQuotient? false significand 1
  let magnitude ← scaleDouble 4 rounded exponent
  pure (if negative then magnitude.negate else magnitude)

def finish (negative : Bool) (significand : Nat) (exponent : Int) (rest : List Char) :
    Except Fault (Number × List Char) :=
  (toDouble? negative significand exponent).elim (.error (.before rest .numberOutOfRange))
    fun value => .ok (.double value, rest)

def exponentLimit : Nat := 2 ^ 31

/-- The digits of an exponent, none when they pass the limit at the start of the text given back. -/
def readExponentDigits (value : Nat) : List Char → Option Nat × List Char
  | [] => (some value, [])
  | c :: rest =>
    if c.isDigit then
      if value * 10 + digitValue c < exponentLimit then readExponentDigits (value * 10 + digitValue c) rest
      else (none, rest)
    else (some value, c :: rest)

def readExponent (negative : Bool) (significand : Nat) (exponent : Int) (rest : List Char) :
    Except Fault (Number × List Char) :=
  let (down, rest) := match rest with
    | '+' :: rest => (false, rest)
    | '-' :: rest => (true, rest)
    | rest => (false, rest)
  match rest with
  | [] => .error (.before [] .valueEnds)
  | c :: after =>
    if c.isDigit then
      match readExponentDigits (digitValue c) after with
      | (some value, rest) =>
        finish negative significand (if down then exponent - Int.ofNat value else exponent + Int.ofNat value) rest
      | (none, rest) =>
        if significand ≠ 0 ∧ !down then .error (.before rest .numberOutOfRange)
        else .ok (.double (.zero negative), rest.dropWhile Char.isDigit)
    else .error (.at (c :: after) .badNumber)

def readMagnitude (negative : Bool) (significand : Nat) (exponent : Int) :
    List Char → Except Fault (Number × List Char)
  | 'e' :: rest => readExponent negative significand exponent rest
  | 'E' :: rest => readExponent negative significand exponent rest
  | rest => finish negative significand exponent rest

def readFraction (negative : Bool) (significand : Nat) (exponent : Int) (rest : List Char) :
    Except Fault (Number × List Char) :=
  match rest with
  | [] => .error (.before [] .valueEnds)
  | c :: _ =>
    if c.isDigit then
      let (extended, after) := absorb significand rest
      let taken := rest.length - after.length
      readMagnitude negative extended (exponent - Int.ofNat taken) (after.dropWhile Char.isDigit)
    else .error (.at rest .badNumber)

/-- An integer stays one when it fits a signed, or if positive an unsigned, number of 64 bits. -/
def wholeNumber (negative : Bool) (significand : Nat) (rest : List Char) :
    Except Fault (Number × List Char) :=
  if negative = false then .ok (.integer (Int.ofNat significand), rest)
  else if significand = 0 ∨ 2 ^ 63 < significand then finish true significand 0 rest
  else .ok (.integer (-Int.ofNat significand), rest)

def readTail (negative : Bool) (significand dropped : Nat) (rest : List Char) :
    Except Fault (Number × List Char) :=
  match rest with
  | '.' :: rest => readFraction negative significand (Int.ofNat dropped) rest
  | 'e' :: rest => readExponent negative significand (Int.ofNat dropped) rest
  | 'E' :: rest => readExponent negative significand (Int.ofNat dropped) rest
  | rest =>
    if dropped = 0 then wholeNumber negative significand rest
    else finish negative significand (Int.ofNat dropped) rest

def readUnsigned (negative : Bool) (rest : List Char) : Except Fault (Number × List Char) :=
  match rest with
  | [] => .error (.before [] .valueEnds)
  | '0' :: after =>
    match after with
    | c :: _ => if c.isDigit then .error (.at after .badNumber) else readTail negative 0 0 after
    | [] => readTail negative 0 0 []
  | c :: _ =>
    if c.isDigit then
      let (significand, after) := absorb 0 rest
      let dropped := (after.takeWhile Char.isDigit).length
      readTail negative significand dropped (after.dropWhile Char.isDigit)
    else .error (.at rest .badNumber)

def readNumber : List Char → Except Fault (Number × List Char)
  | '-' :: rest => readUnsigned true rest
  | rest => readUnsigned false rest

def numberOfText (text : List Char) : Except Fault Number := do
  let (value, rest) ← readNumber text
  if (skipSpace rest).isEmpty then pure value else throw (.at (skipSpace rest) .trailingText)

end SchemaExport.Json
