import SchemaExport.Document.Lowering
import SchemaExport.Document.Reader

/-! Schema documents: named schema trees in JSON, with text for the head of the module. -/

set_option autoImplicit false

namespace SchemaExport

structure Document where
  header : Option String
  schemas : Record Schema

/-- The document in a text. Regular expressions are looked at when all of it has been read. -/
def Document.parse (source : List Char) : Except Error Document :=
  match Document.readDraft source with
  | .error fault => .error (fault.error source)
  | .ok draft =>
    match Document.lowerNodes draft.nodes with
    | .ok schemas => .ok ⟨draft.header, schemas⟩
    | .error refusal => .error (.regex refusal)

end SchemaExport
