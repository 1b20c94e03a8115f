import SchemaExport.Proofs.Schema

/-! Trees with the values in them replaced, each by its own content and the key that it stands directly under.

Lists and records keep their form, their keys and their order, and a leaf its type name.
-/

set_option autoImplicit false

namespace SchemaExport

/-- What becomes of each value that is no list and no record, by its content and the key that it stands
directly under. A type name stays. -/
structure Rewriting where
  atom : Option String → Value → Value
  naming : ∀ name, atom (some typeNameKey) (.text name) = .text name

namespace Value

section
variable (atom : Option String → Value → Value)

mutual

/-- The value with everything in it replaced that is no list and no record. -/
def rewrite (key? : Option String) : Value → Value
  | .list items => .list (rewriteItems items)
  | .record entries => .record (rewriteEntries entries)
  | value => atom key? value

def rewriteItems : List Value → List Value
  | [] => []
  | item :: rest => rewrite none item :: rewriteItems rest

def rewriteEntries : Entries Value → Entries Value
  | [] => []
  | (key, value) :: rest => (key, rewrite (some key) value) :: rewriteEntries rest

end

theorem rewriteEntries_eq_mapValues (entries : Entries Value) :
    rewriteEntries atom entries = entries.mapValues fun key => rewrite atom (some key) := by
  induction entries with
  | nil => rfl
  | cons entry rest ih => exact congrArg (_ :: ·) ih

end

end Value

namespace Leaf

/-- The leaf with every value of its definition replaced, under its key. -/
def mapValues (leaf : Leaf) (replace : String → Value → Value)
    (naming : ∀ name, replace typeNameKey (.text name) = .text name) : Leaf where
  typeName := leaf.typeName
  definition := leaf.definition.mapValues replace
  named := by
    rw [Record.get?_mapValues, leaf.named]
    exact congrArg some (naming leaf.typeName)

def rewrite (rewriting : Rewriting) (leaf : Leaf) : Leaf :=
  leaf.mapValues (fun key => Value.rewrite rewriting.atom (some key)) rewriting.naming

theorem entries_rewrite (rewriting : Rewriting) (leaf : Leaf) :
    (leaf.rewrite rewriting).definition.entries = Value.rewriteEntries rewriting.atom leaf.definition.entries :=
  (Value.rewriteEntries_eq_mapValues ..).symm

end Leaf

namespace Schema

section
variable (rewriting : Rewriting)

mutual

def rewrite : Schema → Schema
  | .object shape => .object (rewriteFields shape)
  | .optional inner => .optional (rewrite inner)
  | .nullable inner => .nullable (rewrite inner)
  | .array element => .array (rewrite element)
  | .leaf node => .leaf (node.rewrite rewriting)

def rewriteFields : Entries Schema → Entries Schema
  | [] => []
  | (name, field) :: rest => (name, rewrite field) :: rewriteFields rest

end

theorem rewriteFields_eq_mapValues (fields : Entries Schema) :
    rewriteFields rewriting fields = fields.mapValues fun _ => rewrite rewriting := by
  induction fields with
  | nil => rfl
  | cons field rest ih => exact congrArg (_ :: ·) ih

end

end Schema

end SchemaExport
