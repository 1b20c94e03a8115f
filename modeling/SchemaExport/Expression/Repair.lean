import SchemaExport.Json.Quoted
import SchemaExport.Regex.Literal
import SchemaExport.Text.Identifier
import SchemaExport.Text.Split

/-! Two replacements in the text of a leaf.

A quoted type name becomes a member of the enumeration of type names, and a quoted regular
expression literal becomes the literal. Both look at the text alone: a match is replaced wherever
it begins, from the left, and the search goes on behind it.
-/

set_option autoImplicit false

namespace SchemaExport.Expression

abbrev Rule := List Char → Option (Nat × List Char)

/-- Replace every match, from the left, without overlaps. The count is what is left of the last match. -/
def replaceFrom (rule : Rule) : Nat → List Char → List Char
  | _, [] => []
  | left + 1, _ :: rest => replaceFrom rule left rest
  | 0, c :: rest =>
    match rule (c :: rest) with
    | some (length + 1, replacement) => replacement ++ replaceFrom rule length rest
    | _ => c :: replaceFrom rule 0 rest

def replaceAll (rule : Rule) (text : List Char) : List Char := replaceFrom rule 0 text

def isWordChar (c : Char) : Bool := c.isAlphanum || c == '_'

def typeNameField : List Char := "\"typeName\":\"".toList

def regexField : List Char := "\"regex\":\"".toList

def typeNameRule : Rule := fun text => do
  let value ← Text.dropStart? typeNameField text
  let tail ← Text.dropStart? ['Z', 'o', 'd'] value
  let word := tail.takeWhile isWordChar
  match word, tail.dropWhile isWordChar with
  | _ :: _, '"' :: _ =>
    some (typeNameField.length + 3 + word.length + 1,
      "\"typeName\":z.ZodFirstPartyTypeKind.Zod".toList ++ word)
  | _, _ => none

/-- The characters of a quoted string up to its closing quote. A backslash takes the next character
along, which may not be a line feed. -/
def quotedBody? : List Char → Option (List Char)
  | [] => none
  | '"' :: _ => some []
  | '\\' :: '\n' :: _ => none
  | '\\' :: c :: rest => (quotedBody? rest).map fun body => '\\' :: c :: body
  | ['\\'] => none
  | c :: rest => (quotedBody? rest).map (c :: ·)

/-- The form of a literal: slashes around at least one character, none a line feed, and flags. -/
def isLiteralText : List Char → Bool
  | '/' :: body =>
    match Regex.splitLastSlash body with
    | some (source, flags) => !source.isEmpty && !source.contains '\n' && flags.all Regex.isFlag
    | none => false
  | _ => false

/-- `"regex":"/source/flags"`, which becomes `"regex":/source/flags`. A string of another form is
passed over whole. -/
def regexRule : Rule := fun text => do
  let value ← Text.dropStart? regexField text
  let body ← quotedBody? value
  let matched := regexField ++ body ++ ['"']
  match Json.unquote ('"' :: (body ++ ['"'])) with
  | .ok content =>
    if isLiteralText content then some (matched.length, "\"regex\":".toList ++ content)
    else some (matched.length, matched)
  | .error _ => some (matched.length, matched)

def repairTypeNames (text : List Char) : List Char := replaceAll typeNameRule text

def repairRegexes (text : List Char) : List Char := replaceAll regexRule text

end SchemaExport.Expression
