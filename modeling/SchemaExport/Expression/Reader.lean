import SchemaExport.Expression.Fault
import SchemaExport.Expression.Repair
import SchemaExport.Json.Numeral
import SchemaExport.Schema
import SchemaExport.Text.Blank

/-! Reading a constructor expression back into a schema tree.

The text is what the printer writes, with white space allowed before every token: the constructors
of the structural schemas, and leaves over JSON records with regular expression literals and
members of the enumeration of type names.

Two numbers bound the recursion, the depth of nesting and the length of a list. The length of the
text is enough for both, since each level and each element takes at least a character.
-/

set_option autoImplicit false

namespace SchemaExport.Expression

/-- A reader takes the text that is left and gives back what it leaves. -/
abbrev Reader (α : Type) := List Char → Except Fault (α × List Char)

def fail {α : Type} (cause : Cause) (rest : List Char) : Except Fault α := .error (.unreadable cause rest)

def eat? (token : List Char) (rest : List Char) : Option (List Char) :=
  Text.dropStart? token (Text.skipBlank rest)

def expect (token : String) (rest : List Char) : Except Fault (List Char) :=
  match eat? token.toList rest with
  | some rest => .ok rest
  | none => fail (.expected token) (Text.skipBlank rest)

def readIdentifier : Reader (List Char) := fun rest =>
  let rest := Text.skipBlank rest
  let word := rest.takeWhile Text.isIdentifierChar
  if word.isEmpty then fail .identifierExpected rest
  else .ok (word, rest.dropWhile Text.isIdentifierChar)

def splitQuoted? : List Char → Option (List Char × List Char)
  | [] => none
  | '"' :: rest => some ([], rest)
  | ['\\'] => none
  | '\\' :: c :: rest => (splitQuoted? rest).map fun (body, rest) => ('\\' :: c :: body, rest)
  | c :: rest => (splitQuoted? rest).map fun (body, rest) => (c :: body, rest)

def readQuoted : Reader (List Char) := fun source =>
  match splitQuoted? (source.drop 1) with
  | none => fail .openString source
  | some (body, rest) =>
    let quoted := '"' :: (body ++ ['"'])
    match Json.unquote quoted with
    | .ok content => .ok (content, rest)
    | .error fault => fail (.badString (fault.message quoted)) source

def isNumeralChar (c : Char) : Bool := c.isDigit || c ∈ ['-', '+', '.', 'e', 'E']

/-- All of the longest run of characters of numerals is read as one number. -/
def readNumber : Reader Number := fun source =>
  let run := source.takeWhile isNumeralChar
  match Json.numberOfText run with
  | .ok value => .ok (value, source.dropWhile isNumeralChar)
  | .error fault => fail (.badNumber (fault.message run)) source

/-- The source of a literal behind its opening slash, and the text behind the closing one. A slash
that is escaped or stands in a class does not close it. -/
def splitLiteral? : Regex.Cursor → List Char → Option (List Char × List Char)
  | _, [] => none
  | cursor, c :: rest =>
    if c = '/' && cursor.atRest then some ([], rest)
    else (splitLiteral? (cursor.next c) rest).map fun (body, rest) => (c :: body, rest)

def readRegex : Reader Regex.Literal := fun source =>
  match splitLiteral? .start (source.drop 1) with
  | none => fail .openRegex source
  | some (body, rest) =>
    match Regex.Literal.make body (rest.takeWhile Char.isLower) with
    | .ok literal => .ok (literal, rest.dropWhile Char.isLower)
    | .error refusal => .error (.regex refusal)

def readSeparated {α : Type} (item : Reader α) (closing : String) : Nat → Reader (List α)
  | 0, rest => fail (.expected closing) (Text.skipBlank rest)
  | length + 1, rest => do
    let (first, rest) ← item rest
    match eat? [','] rest with
    | some rest =>
      let (more, rest) ← readSeparated item closing length rest
      pure (first :: more, rest)
    | none => pure ([first], ← expect closing rest)

def readEnclosed {α : Type} (item : Reader α) (opening closing : String) (length : Nat) :
    Reader (List α) := fun rest => do
  let rest ← expect opening rest
  match eat? closing.toList rest with
  | some rest => pure ([], rest)
  | none => readSeparated item closing length rest

def readEntry (value : Reader Value) : Reader (String × Value) := fun rest => do
  let rest := Text.skipBlank rest
  if rest.head? ≠ some '"' then fail .quotedKeyExpected rest
  else
    let (key, rest) ← readQuoted rest
    let rest ← expect ":" rest
    let (content, rest) ← value rest
    pure ((String.ofList key, content), rest)

def readRecord (value : Reader Value) (length : Nat) : Reader Definition := fun rest => do
  let (entries, rest) ← readEnclosed (readEntry value) "\x7b" "\x7d" length rest
  pure (Record.ofEntries entries, rest)

/-- The enumeration of type names, which stands for the name of its member. -/
def typeNameMember : List Char := "z.ZodFirstPartyTypeKind.".toList

def readWord : Reader Value := fun rest =>
  match eat? "true".toList rest with
  | some rest => .ok (.bool true, rest)
  | none =>
    match eat? "false".toList rest with
    | some rest => .ok (.bool false, rest)
    | none =>
      match eat? "null".toList rest with
      | some rest => .ok (.null, rest)
      | none =>
        match eat? typeNameMember rest with
        | some rest => do
          let (name, rest) ← readIdentifier rest
          pure (.text (String.ofList name), rest)
        | none => fail .valueExpected rest

def readValue (length : Nat) : Nat → Reader Value
  | 0, rest => fail .valueExpected (Text.skipBlank rest)
  | depth + 1, rest =>
    let rest := Text.skipBlank rest
    match rest.head? with
    | some '{' => do
      let (definition, rest) ← readRecord (readValue length depth) length rest
      pure (.record definition.entries, rest)
    | some '[' => do
      let (items, rest) ← readEnclosed (readValue length depth) "[" "]" length rest
      pure (.list items, rest)
    | some '"' => do
      let (content, rest) ← readQuoted rest
      pure (.text (String.ofList content), rest)
    | some '/' => do
      let (literal, rest) ← readRegex rest
      pure (.regex literal, rest)
    | some c =>
      if c = '-' || c.isDigit then do
        let (value, rest) ← readNumber rest
        pure (.number value, rest)
      else readWord rest
    | none => readWord rest

def readLeaf (length : Nat) : Reader Leaf := fun rest => do
  let rest ← expect "z." rest
  let (typeName, rest) ← readIdentifier rest
  let rest ← expect "(" rest
  let (definition, rest) ← readRecord (readValue length length) length rest
  let rest ← expect ")" rest
  pure (Leaf.make (String.ofList typeName) definition, rest)

/-- A field name is quoted or an identifier; digits may lead it here. -/
def readFieldName : Reader String := fun rest => do
  let rest := Text.skipBlank rest
  let (name, rest) ← if rest.head? = some '"' then readQuoted rest else readIdentifier rest
  pure (String.ofList name, rest)

def readField (schema : Reader Schema) : Reader (String × Schema) := fun rest => do
  let (name, rest) ← readFieldName rest
  let rest ← expect ":" rest
  let (field, rest) ← schema rest
  pure ((name, field), rest)

def readWrapped (schema : Reader Schema) : Reader Schema := fun rest => do
  let rest ← expect "(" rest
  let (inner, rest) ← schema rest
  pure (inner, ← expect ")" rest)

def readShape (schema : Reader Schema) (length : Nat) : Reader Schema := fun rest => do
  let rest ← expect "(" rest
  let (fields, rest) ← readEnclosed (readField schema) "\x7b" "\x7d" length rest
  pure (.ofFields fields, ← expect ")" rest)

def readSchema (length : Nat) : Nat → Reader Schema
  | 0, rest => fail (.expected "z.") (Text.skipBlank rest)
  | depth + 1, rest =>
    match eat? "new".toList rest with
    | some rest => do
      let (leaf, rest) ← readLeaf length rest
      pure (.leaf leaf, rest)
    | none => do
      let constructor ← expect "z." rest
      let (name, rest) ← readIdentifier constructor
      if name = "object".toList then readShape (readSchema length depth) length rest
      else if name = "optional".toList then
        let (inner, rest) ← readWrapped (readSchema length depth) rest
        pure (.optional inner, rest)
      else if name = "nullable".toList then
        let (inner, rest) ← readWrapped (readSchema length depth) rest
        pure (.nullable inner, rest)
      else if name = "array".toList then
        let (element, rest) ← readWrapped (readSchema length depth) rest
        pure (.array element, rest)
      else fail (.unknownConstructor (String.ofList name)) constructor

def readWhole (source : List Char) : Except Fault Schema := do
  let (schema, rest) ← readSchema (source.length + 1) (source.length + 1) source
  let rest := Text.skipBlank rest
  if rest.isEmpty then pure schema else fail .trailingInput rest

end Expression

def Schema.ofExpression (source : List Char) : Except Error Schema :=
  match Expression.readWhole source with
  | .ok schema => .ok schema
  | .error fault => .error (fault.error 0 source)

end SchemaExport
