import SchemaExport.Value

/-! Schema trees.

Objects, optional, nullable and array schemas are followed into their parts. Every other kind is a
leaf: its type name and its definition record, which repeats the type name under `typeName`.
-/

set_option autoImplicit false

namespace SchemaExport

def typeNameKey : String := "typeName"

@[ext] structure Leaf where
  typeName : String
  definition : Definition
  named : definition.get? typeNameKey = some (.text typeName)

inductive Schema where
  | object (shape : List (String × Schema))
  | optional (inner : Schema)
  | nullable (inner : Schema)
  | array (element : Schema)
  | leaf (leaf : Leaf)

namespace Leaf

/-- The entry `typeName` always holds the type name: in its place if it is there, else at the end. -/
def make (typeName : String) (definition : Definition) : Leaf where
  typeName := typeName
  definition := definition.insert typeNameKey (.text typeName)
  named := Record.get?_insert_self ..

def withField (leaf : Leaf) (key : String) (value : Value) : Leaf :=
  make leaf.typeName (leaf.definition.insert key value)

/-- The list of checks so far; anything else under its key counts as none. -/
def checks (leaf : Leaf) : List Value :=
  match leaf.definition.get? "checks" with
  | some (.list items) => items
  | _ => []

/-- The record of a check: its kind, which a field of that name overrides, and its fields. -/
def check (kind : String) (fields : Entries Value) : Value :=
  .record (Record.ofEntries (("kind", .text kind) :: fields)).entries

def withCheck (leaf : Leaf) (kind : String) (fields : Entries Value) : Leaf where
  typeName := leaf.typeName
  definition := leaf.definition.insert "checks" (.list (leaf.checks ++ [check kind fields]))
  named := (Record.get?_insert_of_ne _ _ (by decide)).trans leaf.named

def matching (leaf : Leaf) (literal : Regex.Literal) : Leaf :=
  leaf.withCheck "regex" [("regex", .regex literal)]

def minLength (leaf : Leaf) (bound : Nat) : Leaf :=
  leaf.withCheck "min" [("value", .number (.integer bound))]

def maxLength (leaf : Leaf) (bound : Nat) : Leaf :=
  leaf.withCheck "max" [("value", .number (.integer bound))]

def atLeast (leaf : Leaf) (bound : Value) : Leaf :=
  leaf.withCheck "min" [("value", bound), ("inclusive", .bool true)]

def atMost (leaf : Leaf) (bound : Value) : Leaf :=
  leaf.withCheck "max" [("value", bound), ("inclusive", .bool true)]

def string : Leaf :=
  make "ZodString" (.ofEntries
    [("checks", .list []), (typeNameKey, .text "ZodString"), ("coerce", .bool false)])

def number : Leaf :=
  make "ZodNumber" (.ofEntries
    [("checks", .list []), (typeNameKey, .text "ZodNumber"), ("coerce", .bool false)])

def boolean : Leaf :=
  make "ZodBoolean" (.ofEntries [(typeNameKey, .text "ZodBoolean"), ("coerce", .bool false)])

def enumeration (values : List String) : Leaf :=
  make "ZodEnum" (.ofEntries [("values", .list (values.map .text)), (typeNameKey, .text "ZodEnum")])

def literal (value : Value) : Leaf :=
  make "ZodLiteral" (.ofEntries [("value", value), (typeNameKey, .text "ZodLiteral")])

end Leaf

namespace Schema

def kind : Schema → String
  | .object _ => "ZodObject"
  | .optional _ => "ZodOptional"
  | .nullable _ => "ZodNullable"
  | .array _ => "ZodArray"
  | .leaf node => node.typeName

def ofFields (fields : Entries Schema) : Schema := .object (Record.ofEntries fields).entries

/-- Equality of trees. Shapes and definitions compare by keys. -/
def same : Schema → Schema → Bool
  | .object left, .object right => left.length == right.length && sameFields left right
  | .optional left, .optional right => same left right
  | .nullable left, .nullable right => same left right
  | .array left, .array right => same left right
  | .leaf left, .leaf right =>
    left.typeName == right.typeName && (Value.record left.definition.entries).same (.record right.definition.entries)
  | _, _ => false
where
  sameFields : Entries Schema → Entries Schema → Bool
    | [], _ => true
    | (name, left) :: lefts, rights =>
      (match Entries.get? rights name with
        | some right => same left right
        | none => false) && sameFields lefts rights

end Schema
end SchemaExport
