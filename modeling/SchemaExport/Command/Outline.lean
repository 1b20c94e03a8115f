import SchemaExport.Command.Arguments
import SchemaExport.Text.Visible

/-! A command line as an indented outline of what was understood. -/

set_option autoImplicit false

namespace SchemaExport.Command

inductive Outline where
  | atom (text : String)
  | wrapped (name : String) (inner : Outline)
  | list (items : List Outline)
  | fields (name : String) (entries : List (String × Outline))

namespace Outline

/-- The lines of a part, one step further in. -/
def nested (label : String) (lines : List String) : List String :=
  let labelled := match lines with
    | [] => []
    | first :: rest => (label ++ first) :: rest
  match labelled.reverse with
  | [] => []
  | last :: before => (((last ++ ",") :: before).reverse).map ("    " ++ ·)

mutual

def lines : Outline → List String
  | .atom text => [text]
  | .wrapped name inner => (name ++ "(") :: nested "" inner.lines ++ [")"]
  | .list items => "[" :: linesOfItems items ++ ["]"]
  | .fields name entries => (name ++ " \x7b") :: linesOfEntries entries ++ ["\x7d"]

def linesOfItems : List Outline → List String
  | [] => []
  | item :: items => nested "" item.lines ++ linesOfItems items

def linesOfEntries : List (String × Outline) → List String
  | [] => []
  | (label, entry) :: entries => nested (label ++ ": ") entry.lines ++ linesOfEntries entries

end

def flag (value : Bool) : Outline := .atom (toString value)

def text (value : String) : Outline := .atom (Text.visible value)

def optional : Option String → Outline
  | none => .atom "None"
  | some value => .wrapped "Some" (text value)

def inputs (values : List String) : Outline :=
  .fields "InputSettings" [("input", .list (values.map text))]

def action : Action → Outline
  | .check values => .wrapped "Check" (.fields "CheckIn" [("input_settings", inputs values)])
  | .export settings =>
    .wrapped "Export" (.fields "ExportOut" [
      ("input_settings", inputs settings.inputs),
      ("prefix", optional settings.header),
      ("prefix_file", optional settings.headerFile),
      ("out", optional settings.out),
      ("no_op", flag settings.noOp)])

end Outline

def Invocation.outline (invocation : Invocation) : Outline :=
  .fields "CommandLineInterface" [
    ("cmd", .action invocation.action),
    ("quiet", .flag invocation.quiet),
    ("verbose", .flag invocation.verbose)]

end SchemaExport.Command
