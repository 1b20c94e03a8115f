import SchemaExport.Error
import SchemaExport.Event
import SchemaExport.Expression.Printer
import SchemaExport.Files.Tree
import SchemaExport.Text.Identifier
import SchemaExport.Text.Offset

/-! Named schemas that wait for their module.

A name keeps its place while its schema is replaced, and loses it when it is unregistered. The header
never changes.
-/

set_option autoImplicit false

namespace SchemaExport

structure Registry where
  schemas : Record Schema
  header : String

namespace Registry

def empty (header : Option String) : Registry := ⟨.empty, header.getD ""⟩

def register (registry : Registry) (name : String) (schema : Schema) : Registry :=
  { registry with schemas := registry.schemas.insert name schema }

def unregister (registry : Registry) (name : String) : Registry :=
  { registry with schemas := registry.schemas.erase name }

def clear (registry : Registry) : Registry := { registry with schemas := .empty }

def get? (registry : Registry) (name : String) : Option Schema := registry.schemas.get? name

def entries (registry : Registry) : Entries Schema := registry.schemas.entries

def names (registry : Registry) : List String := registry.schemas.keys

def size (registry : Registry) : Nat := registry.entries.length

def isEmpty (registry : Registry) : Bool := registry.entries.isEmpty

def importLine : List Char := "import \x7b z \x7d from \"zod\";\n".toList

def render (registry : Registry) : List Char :=
  importLine ++ registry.header.toList ++ ['\n', '\n'] ++ declarations registry.entries

def registerAll (registry : Registry) (schemas : Entries Schema) : Registry :=
  schemas.foldl (fun registry (name, schema) => registry.register name schema) registry

/-- A registration is always told, and before it a name that makes no constant. -/
def registration (registry : Registry) (name : String) (schema : Schema) : List Event :=
  (if Text.isIdentifier name.toList then [] else [.unusableName name]) ++
    [.registered name schema.kind (registry.schemas.contains name)]

def registrations (registry : Registry) : Entries Schema → List Event
  | [] => []
  | (name, schema) :: rest =>
    registry.registration name schema ++ registrations (registry.register name schema) rest

def rendering (registry : Registry) : List Event :=
  registry.entries.map fun (name, schema) =>
    .emitted name schema.kind (Text.byteLength (declaration name schema))

def exportTo (registry : Registry) (tree : Files.Tree) (path : String) : Except Error Files.Tree :=
  match tree.write path.toList registry.render with
  | .ok tree => .ok tree
  | .error fault => .error (.unwritable path fault)

def exporting (registry : Registry) (path : String) : List Event :=
  [.exported path registry.size (Text.byteLength registry.render)]

end Registry
end SchemaExport
