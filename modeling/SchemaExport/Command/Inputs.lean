import SchemaExport.Command.Failure

/-! The files that a command reads.

An input is a path, or a pattern if it has a sign of one; all inputs are resolved before any is read.
-/

set_option autoImplicit false

namespace SchemaExport.Command

def hasPatternSign (input : String) : Bool :=
  input.toList.any fun c => c = '*' || c = '?' || c = '[' || c = '{'

/-- The paths that an input stands for. A pattern stands for one at least. -/
def resolveInput (tree : Files.Tree) (input : String) : Except Failure (List (List Char)) :=
  if hasPatternSign input then
    match Files.Glob.paths tree input.toList with
    | .error fault => .error (.unresolvable fault)
    | .ok [] => .error (.nothingMatched input)
    | .ok paths => .ok paths
  else .ok [input.toList]

def resolveInputs (tree : Files.Tree) : List String → Except Failure (List (List Char))
  | [] => .ok []
  | input :: inputs =>
    match resolveInput tree input with
    | .error failure => .error failure
    | .ok paths =>
      match resolveInputs tree inputs with
      | .ok others => .ok (paths ++ others)
      | .error failure => .error failure

def readSource (tree : Files.Tree) (path : List Char) : Except Failure (List Char) :=
  match tree.read path with
  | .ok source => .ok source
  | .error fault => .error (.unreadableSource path fault)

end SchemaExport.Command
