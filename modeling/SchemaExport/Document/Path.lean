/-! Places inside a document: keys with points between them, and positions of list elements. -/

set_option autoImplicit false

namespace SchemaExport.Document

inductive Step where
  | key (name : String)
  | index (position : Nat)
  | unknown
  deriving DecidableEq, Repr

/-- A path from the root, the last step first. -/
abbrev Path := List Step

def Step.text (before : Option String) : Step → String
  | .key name => (match before with | some text => text ++ "." | none => "") ++ name
  | .index position => before.getD "" ++ "[" ++ toString position ++ "]"
  | .unknown => (match before with | some text => text ++ "." | none => "") ++ "?"

def Path.text (path : Path) : String :=
  (path.reverse.foldl (fun before step => some (step.text before)) none).getD "."

end SchemaExport.Document
