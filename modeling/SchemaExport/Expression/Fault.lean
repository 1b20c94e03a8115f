import SchemaExport.Error
import SchemaExport.Text.Offset

/-! What can be wrong with generated text. A fault keeps the text that was left where it arose. -/

set_option autoImplicit false

namespace SchemaExport.Expression

inductive Cause where
  | expected (token : String)
  | identifierExpected
  | unknownConstructor (name : String)
  | quotedKeyExpected
  | valueExpected
  | openString
  | badString (message : String)
  | badNumber (message : String)
  | openRegex
  | trailingInput
  deriving DecidableEq, Repr

def Cause.message : Cause → String
  | .expected token => "expected `" ++ token ++ "`"
  | .identifierExpected => "expected an identifier"
  | .unknownConstructor name => "unknown constructor `z." ++ name ++ "`"
  | .quotedKeyExpected => "expected a quoted key"
  | .valueExpected => "expected a value"
  | .openString => "unterminated string"
  | .badString message => "bad string literal: " ++ message
  | .badNumber message => "bad number: " ++ message
  | .openRegex => "unterminated regex literal"
  | .trailingInput => "trailing input after expression"

inductive Fault where
  | unreadable (cause : Cause) (rest : List Char)
  | regex (refusal : Regex.Refusal)
  deriving DecidableEq, Repr

/-- The error for a fault in a text that begins at an offset. -/
def Fault.error (fault : Fault) (base : Nat) (source : List Char) : Error :=
  match fault with
  | .unreadable cause rest => .unreadable (base + Text.offsetOf source rest) cause.message
  | .regex refusal => .regex refusal

end SchemaExport.Expression
