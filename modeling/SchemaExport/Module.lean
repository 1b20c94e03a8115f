import SchemaExport.Expression.Printer
import SchemaExport.Expression.Reader

/-! Reading the declarations of a generated module.

They stand behind the last blank line of the text without its white space at the end. Everything
above that line is free text. Below it only the lines that declare an exported constant are read.
-/

set_option autoImplicit false

namespace SchemaExport.Module

/-- The number of characters before the last line feed that another one follows. -/
def lastBlankLine? : List Char → Option Nat
  | [] => none
  | c :: rest =>
    match lastBlankLine? rest with
    | some before => some (before + 1)
    | none => if c = '\n' ∧ rest.head? = some '\n' then some 0 else none

def bodyStart (source : List Char) : Nat :=
  match lastBlankLine? (Text.trimEnd source) with
  | some before => before + 2
  | none => 0

def linesOf : List Char → List (List Char)
  | [] => []
  | c :: rest =>
    if c = '\n' then [c] :: linesOf rest
    else
      match linesOf rest with
      | [] => [[c]]
      | line :: lines => (c :: line) :: lines

def declarationStart : List Char := "export const ".toList

def equalsSign : List Char := " = ".toList

/-- A line without white space at its end: nothing for a line of another kind, and a declaration's
name and schema otherwise. The line begins at an offset. -/
def readLine (start : Nat) (line : List Char) : Except Error (Option (String × Schema)) :=
  match Text.dropStart? declarationStart line with
  | none => .ok none
  | some rest =>
    match Text.splitAt? equalsSign rest with
    | none => .error (.unreadable start "declaration without ` = `")
    | some (name, expression) =>
      if expression.getLast? = some ';' then
        let text := expression.dropLast
        let base := start + Text.byteLength declarationStart + Text.byteLength name + Text.byteLength equalsSign
        match Expression.readWhole text with
        | .ok schema => .ok (some (String.ofList name, schema))
        | .error fault => .error (fault.error base text)
      else .error (.unreadable start "declaration without trailing `;`")

/-- The declarations up to the first line that cannot be read, and what is wrong with that. -/
structure Reading where
  declarations : Entries Schema
  fault : Option Error

def readLines (start : Nat) : List (List Char) → Reading
  | [] => ⟨[], none⟩
  | line :: lines =>
    match readLine start (Text.trimEnd line) with
    | .error fault => ⟨[], some fault⟩
    | .ok none => readLines (start + Text.byteLength line) lines
    | .ok (some declaration) =>
      let ⟨declarations, fault⟩ := readLines (start + Text.byteLength line) lines
      ⟨declaration :: declarations, fault⟩

def read (source : List Char) : Reading :=
  let above := bodyStart source
  readLines (Text.byteLength (source.take above)) (linesOf (source.drop above))

def parse (source : List Char) : Except Error (Entries Schema) :=
  match (read source).fault with
  | none => .ok (read source).declarations
  | some fault => .error fault

end SchemaExport.Module
