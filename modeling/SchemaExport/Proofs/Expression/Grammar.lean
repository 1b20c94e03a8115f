import SchemaExport.Proofs.Json.Numeral
import SchemaExport.Proofs.Json.Spelling
import SchemaExport.Proofs.Record
import SchemaExport.Proofs.Regex.Literal

/-! The grammar of constructor expressions, apart from the functions that read them.

A derivation relates a text to the tree that it denotes. White space may stand before every token;
a word, a quoted string, a number and a literal are one token each. How far a token reaches is not
said here: that a reader stops where a derivation does is what has to be proved of it.
-/

set_option autoImplicit false

namespace SchemaExport.Expression

/-! ## Tokens -/

/-- A word behind white space. -/
def Token (word text : List Char) : Prop := ∃ blanks, Text.Blank blanks ∧ text = blanks ++ word

/-- Words one behind the other, with white space before each. -/
def Tokens : List (List Char) → List Char → Prop
  | [], text => text = []
  | word :: words, text => ∃ first rest, Token word first ∧ Tokens words rest ∧ text = first ++ rest

/-- The words of types, constructors and bare field names; a digit may lead them. -/
def Identifier (word : List Char) : Prop := word ≠ [] ∧ ∀ c ∈ word, Text.isIdentifierChar c = true

def Quoted (word content : List Char) : Prop := ∃ body, word = '"' :: (body ++ ['"']) ∧ Json.Spelling body content

inductive LiteralText : List Char → Regex.Literal → Prop where
  | delimited {body flags : List Char} {literal : Regex.Literal} : Regex.Unbroken .start body →
      (∀ c ∈ flags, c.isLower = true) → Regex.Literal.make body flags = .ok literal →
      LiteralText ('/' :: (body ++ '/' :: flags)) literal

inductive Atom : List Char → Value → Prop where
  | null : Atom "null".toList .null
  | yes : Atom "true".toList (.bool true)
  | no : Atom "false".toList (.bool false)
  | number {word : List Char} {value : Number} : Json.Numeral word value → Atom word (.number value)
  | text {word content : List Char} : Quoted word content → Atom word (.text (String.ofList content))
  | regex {word : List Char} {literal : Regex.Literal} : LiteralText word literal → Atom word (.regex literal)

/-! ## Lists -/

section
variable {α : Type} (Item : List Char → α → Prop)

inductive Separated : List Char → List α → Prop where
  | last {text : List Char} {item : α} : Item text item → Separated text [item]
  | more {text comma rest : List Char} {item : α} {items : List α} : Item text item → Token [','] comma →
      Separated rest items → Separated (text ++ (comma ++ rest)) (item :: items)

inductive Enclosed (opening closing : Char) : List Char → List α → Prop where
  | empty {text : List Char} : Tokens [[opening], [closing]] text → Enclosed opening closing text []
  | items {front text back : List Char} {items : List α} : Token [opening] front → Separated Item text items →
      Token [closing] back → Enclosed opening closing (front ++ (text ++ back)) items

end

/-! ## Values -/

inductive Entry (Content : List Char → Value → Prop) : List Char → String × Value → Prop where
  | keyed {word key front text : List Char} {value : Value} : Quoted word key → Tokens [word, [':']] front →
      Content text value → Entry Content (front ++ text) (String.ofList key, value)

inductive ValueText : List Char → Value → Prop where
  | atom {word text : List Char} {value : Value} : Atom word value → Token word text → ValueText text value
  | member {name text : List Char} : Identifier name → Tokens [typeNameMember, name] text →
      ValueText text (.text (String.ofList name))
  | list {text : List Char} {items : List Value} : Enclosed ValueText '[' ']' text items →
      ValueText text (.list items)
  | record {text : List Char} {entries : List (String × Value)} {record : Definition} :
      Enclosed (Entry ValueText) '{' '}' text entries → Record.Collected entries record →
      ValueText text (.record record.entries)

def RecordText (text : List Char) (record : Definition) : Prop :=
  ∃ entries, Enclosed (Entry ValueText) '{' '}' text entries ∧ Record.Collected entries record

/-! ## Schemas -/

inductive FieldWord : List Char → List Char → Prop where
  | quoted {word name : List Char} : Quoted word name → FieldWord word name
  | bare {name : List Char} : Identifier name → FieldWord name name

inductive Field (Content : List Char → Schema → Prop) : List Char → String × Schema → Prop where
  | named {word name front text : List Char} {schema : Schema} : FieldWord word name →
      Tokens [word, [':']] front → Content text schema →
      Field Content (front ++ text) (String.ofList name, schema)

inductive Wrapper : List Char → (Schema → Schema) → Prop where
  | optional : Wrapper "optional".toList .optional
  | nullable : Wrapper "nullable".toList .nullable
  | array : Wrapper "array".toList .array

inductive SchemaText : List Char → Schema → Prop where
  | leaf {name front text back : List Char} {definition : Definition} : Identifier name →
      Tokens ["new".toList, "z.".toList, name, ['(']] front → RecordText text definition →
      Token [')'] back → SchemaText (front ++ (text ++ back)) (.leaf (.make (String.ofList name) definition))
  | object {front text back : List Char} {fields : List (String × Schema)} {shape : Record Schema} :
      Tokens ["z.".toList, "object".toList, ['(']] front → Enclosed (Field SchemaText) '{' '}' text fields →
      Record.Collected fields shape → Token [')'] back → SchemaText (front ++ (text ++ back)) (.object shape.entries)
  | wrapped {name front text back : List Char} {wrap : Schema → Schema} {inner : Schema} : Wrapper name wrap →
      Tokens ["z.".toList, name, ['(']] front → SchemaText text inner → Token [')'] back →
      SchemaText (front ++ (text ++ back)) (wrap inner)

/-- A whole text that denotes a schema. -/
def Derives (source : List Char) (schema : Schema) : Prop :=
  ∃ text blanks, source = text ++ blanks ∧ Text.Blank blanks ∧ SchemaText text schema

end SchemaExport.Expression
