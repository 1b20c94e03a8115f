import SchemaExport.Text.Offset

/-! What can be wrong with a JSON text, and where.

A fault keeps the text that was left when it arose. Its place is counted from there, so it cannot
lie outside the text; a few bytes of what was left may have been read already.
-/

set_option autoImplicit false

namespace SchemaExport.Json

inductive Cause where
  | listEnds | objectEnds | stringEnds | valueEnds
  | colonExpected | listSeparatorExpected | objectSeparatorExpected | wordExpected | valueExpected
  | badEscape | badNumber | numberOutOfRange | controlCharacter | keyNotString
  | loneSurrogate | escapeEnds | trailingComma | trailingText | tooDeep
  deriving DecidableEq, Repr

def Cause.message : Cause → String
  | .listEnds => "EOF while parsing a list"
  | .objectEnds => "EOF while parsing an object"
  | .stringEnds => "EOF while parsing a string"
  | .valueEnds => "EOF while parsing a value"
  | .colonExpected => "expected `:`"
  | .listSeparatorExpected => "expected `,` or `]`"
  | .objectSeparatorExpected => "expected `,` or `\x7d`"
  | .wordExpected => "expected ident"
  | .valueExpected => "expected value"
  | .badEscape => "invalid escape"
  | .badNumber => "invalid number"
  | .numberOutOfRange => "number out of range"
  | .controlCharacter => "control character (\\u0000-\\u001F) found while parsing a string"
  | .keyNotString => "key must be a string"
  | .loneSurrogate => "lone leading surrogate in hex escape"
  | .escapeEnds => "unexpected end of hex escape"
  | .trailingComma => "trailing comma"
  | .trailingText => "trailing characters"
  | .tooDeep => "recursion limit exceeded"

structure Fault where
  cause : Cause
  rest : List Char
  read : Nat
  deriving DecidableEq, Repr

/-- A fault behind everything read so far. -/
def Fault.before (rest : List Char) (cause : Cause) : Fault := ⟨cause, rest, 0⟩

/-- A fault at the next byte, which counts as read. -/
def Fault.at (rest : List Char) (cause : Cause) : Fault := ⟨cause, rest, if rest.isEmpty then 0 else 1⟩

def Fault.offset (fault : Fault) (source : List Char) : Nat :=
  Text.offsetOf source fault.rest + fault.read

def placed (message : String) (source : List Char) (offset : Nat) : String :=
  let position := Text.Position.ofOffset source offset
  message ++ " at line " ++ toString position.line ++ " column " ++ toString position.column

def Fault.message (fault : Fault) (source : List Char) : String :=
  placed fault.cause.message source (fault.offset source)

def isSpace (c : Char) : Bool := c == ' ' || c == '\n' || c == '\t' || c == '\r'

def skipSpace (text : List Char) : List Char := text.dropWhile isSpace

end SchemaExport.Json
