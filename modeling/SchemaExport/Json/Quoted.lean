import SchemaExport.Json.Fault

/-! Quoted strings: how they are written, and how they are read.

Writing escapes the quote, the backslash and the control characters. Reading takes every escape
of the format; a character beyond the first plane may be a pair of surrogates.
-/

set_option autoImplicit false

namespace SchemaExport.Json

def hexDigit (value : Nat) : Char := Nat.digitChar value

def escapeChar (c : Char) : List Char :=
  if c = '"' then ['\\', '"']
  else if c = '\\' then ['\\', '\\']
  else if c = '\n' then ['\\', 'n']
  else if c = '\r' then ['\\', 'r']
  else if c = '\t' then ['\\', 't']
  else if c.toNat = 8 then ['\\', 'b']
  else if c.toNat = 12 then ['\\', 'f']
  else if c.toNat < 32 then ['\\', 'u', '0', '0', hexDigit (c.toNat / 16), hexDigit (c.toNat % 16)]
  else [c]

def escape (text : List Char) : List Char := text.flatMap escapeChar

def quote (text : List Char) : List Char := '"' :: (escape text ++ ['"'])

def hexValue? (c : Char) : Option Nat :=
  if c.isDigit then some (c.toNat - 48)
  else if 97 ≤ c.toNat ∧ c.toNat ≤ 102 then some (c.toNat - 87)
  else if 65 ≤ c.toNat ∧ c.toNat ≤ 70 then some (c.toNat - 55)
  else none

def hexValues? (digits : List Char) : Option Nat :=
  digits.foldl (fun value? c => do pure ((← value?) * 16 + (← hexValue? c))) (some 0)

/-- Four hexadecimal digits. Four bytes are read before they are looked at. -/
def readFourHex (rest : List Char) : Except Fault (Nat × List Char) :=
  match hexValues? (rest.take 4), decide (4 ≤ rest.length) with
  | some value, true => .ok (value, rest.drop 4)
  | _, _ =>
    if Text.byteLength rest < 4 then .error (.before [] .stringEnds) else .error ⟨.badEscape, rest, 4⟩

def isTrailingSurrogate (value : Nat) : Bool := 0xDC00 ≤ value && value ≤ 0xDFFF

def isLeadingSurrogate (value : Nat) : Bool := 0xD800 ≤ value && value ≤ 0xDBFF

def readTrailingSurrogate : List Char → Except Fault (Nat × List Char)
  | [] => .error (.before [] .stringEnds)
  | '\\' :: [] => .error (.before [] .stringEnds)
  | '\\' :: 'u' :: rest => do
    let (value, rest) ← readFourHex rest
    if isTrailingSurrogate value then pure (value, rest) else throw (.before rest .loneSurrogate)
  | '\\' :: rest => .error (.at rest .escapeEnds)
  | rest => .error (.at rest .escapeEnds)

def readCodePoint (rest : List Char) : Except Fault (Char × List Char) := do
  let (value, rest) ← readFourHex rest
  if isTrailingSurrogate value then throw (.before rest .loneSurrogate)
  else if isLeadingSurrogate value then
    let (trailing, rest) ← readTrailingSurrogate rest
    pure (Char.ofNat (0x10000 + (value - 0xD800) * 0x400 + (trailing - 0xDC00)), rest)
  else pure (Char.ofNat value, rest)

def readEscape : List Char → Except Fault (Char × List Char)
  | [] => .error (.before [] .stringEnds)
  | '"' :: rest => .ok ('"', rest)
  | '\\' :: rest => .ok ('\\', rest)
  | '/' :: rest => .ok ('/', rest)
  | 'b' :: rest => .ok ('\x08', rest)
  | 'f' :: rest => .ok ('\x0c', rest)
  | 'n' :: rest => .ok ('\n', rest)
  | 'r' :: rest => .ok ('\r', rest)
  | 't' :: rest => .ok ('\t', rest)
  | 'u' :: rest => readCodePoint rest
  | rest => .error (.at rest .badEscape)

/-- The characters up to the closing quote, in at most `budget` steps. -/
def readCharacters : Nat → List Char → Except Fault (List Char × List Char)
  | 0, rest => .error (.before rest .stringEnds)
  | _ + 1, [] => .error (.before [] .stringEnds)
  | _ + 1, '"' :: rest => .ok ([], rest)
  | budget + 1, '\\' :: rest => do
    let (c, rest) ← readEscape rest
    let (text, rest) ← readCharacters budget rest
    pure (c :: text, rest)
  | budget + 1, c :: rest =>
    if c.toNat < 32 then .error (.at (c :: rest) .controlCharacter)
    else do
      let (text, rest) ← readCharacters budget rest
      pure (c :: text, rest)

def readString (rest : List Char) : Except Fault (List Char × List Char) :=
  readCharacters (rest.length + 1) rest

def unquote (text : List Char) : Except Fault (List Char) :=
  match text with
  | '"' :: rest => do
    let (content, rest) ← readString rest
    if (skipSpace rest).isEmpty then pure content else throw (.at (skipSpace rest) .trailingText)
  | rest => .error (.at rest .valueExpected)

end SchemaExport.Json
