import SchemaExport.Document.Node
import SchemaExport.Error
import SchemaExport.Schema

/-! From the nodes of a document to schema trees.

A string under the key `regex`, or in a list under it at any depth, becomes a regular expression
when it has the form of a literal. A number without a fraction becomes an integer.
-/

set_option autoImplicit false

namespace SchemaExport.Document

def lowerText (content : String) : Except Regex.Refusal Value :=
  match Regex.Literal.ofText? content.toList with
  | some (.ok literal) => .ok (.regex literal)
  | some (.error refusal) => .error refusal
  | none => .ok (.text content)

def lowerNumber : Number → Number
  | .integer value => .integer value
  | .double value => .ofDouble value

mutual

/-- Data that stands under a key; the elements of a list stand under the list's key. -/
def lowerData (key : String) : Json → Except Regex.Refusal Value
  | .null => .ok .null
  | .bool flag => .ok (.bool flag)
  | .number value => .ok (.number (lowerNumber value))
  | .text content => if key = "regex" then lowerText content else .ok (.text content)
  | .list items => do pure (.list (← lowerItems key items))
  | .object entries => do pure (.record (← lowerEntries entries))

def lowerItems (key : String) : List Json → Except Regex.Refusal (List Value)
  | [] => .ok []
  | item :: rest => do
    let value ← lowerData key item
    pure (value :: (← lowerItems key rest))

def lowerEntries : Entries Json → Except Regex.Refusal (Entries Value)
  | [] => .ok []
  | (key, item) :: rest => do
    let value ← lowerData key item
    pure ((key, value) :: (← lowerEntries rest))

end

theorem keys_of_lowerEntries {entries : Entries Json} {values : Entries Value}
    (lowered : lowerEntries entries = .ok values) : values.keys = entries.keys := by
  induction entries generalizing values with
  | nil =>
    cases lowered
    rfl
  | cons entry rest ih =>
    obtain ⟨key, item⟩ := entry
    rw [lowerEntries] at lowered
    obtain ⟨value, -, lowered⟩ := bind_eq_ok.1 lowered
    obtain ⟨more, moreLowered, lowered⟩ := bind_eq_ok.1 lowered
    cases lowered
    exact congrArg (key :: ·) (ih moreLowered)

def lowerDefinition (definition : Record Json) : Except Regex.Refusal Definition :=
  definition.transform lowerEntries keys_of_lowerEntries

mutual

def lower : Node → Except Regex.Refusal Schema
  | .object shape => do pure (.object (← lowerShape shape))
  | .optional inner => do pure (.optional (← lower inner))
  | .nullable inner => do pure (.nullable (← lower inner))
  | .array element => do pure (.array (← lower element))
  | .leaf typeName definition => do pure (.leaf (Leaf.make typeName (← lowerDefinition definition)))

def lowerShape : Entries Node → Except Regex.Refusal (Entries Schema)
  | [] => .ok []
  | (name, node) :: rest => do
    let schema ← lower node
    pure ((name, schema) :: (← lowerShape rest))

end

theorem keys_of_lowerShape {shape : Entries Node} {fields : Entries Schema}
    (lowered : lowerShape shape = .ok fields) : fields.keys = shape.keys := by
  induction shape generalizing fields with
  | nil =>
    cases lowered
    rfl
  | cons entry rest ih =>
    obtain ⟨name, node⟩ := entry
    rw [lowerShape] at lowered
    obtain ⟨field, -, lowered⟩ := bind_eq_ok.1 lowered
    obtain ⟨more, moreLowered, lowered⟩ := bind_eq_ok.1 lowered
    cases lowered
    exact congrArg (name :: ·) (ih moreLowered)

def lowerNodes (nodes : Record Node) : Except Regex.Refusal (Record Schema) :=
  nodes.transform lowerShape keys_of_lowerShape

end SchemaExport.Document
