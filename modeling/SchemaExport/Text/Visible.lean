import SchemaExport.Unicode.Property

/-! Quoted text for messages: what cannot be seen is written as a code point. -/

set_option autoImplicit false

namespace SchemaExport.Text

def codePointText (c : Char) : List Char :=
  '\\' :: 'u' :: '{' :: (Nat.toDigits 16 c.toNat ++ ['}'])

/-- Characters that extend a grapheme would join the quote or their neighbour, so they are escaped too. -/
def visibleChar (c : Char) : List Char :=
  if c = '"' then ['\\', '"']
  else if c = '\\' then ['\\', '\\']
  else if c = '\n' then ['\\', 'n']
  else if c = '\r' then ['\\', 'r']
  else if c = '\t' then ['\\', 't']
  else if c.toNat = 0 then ['\\', '0']
  else if Unicode.extendsGrapheme c || !Unicode.isPrintable c then codePointText c
  else [c]

def visible (text : String) : String :=
  String.ofList ('"' :: (text.toList.flatMap visibleChar ++ ['"']))

end SchemaExport.Text
