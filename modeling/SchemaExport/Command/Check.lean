import SchemaExport.Command.Export
import SchemaExport.Module

/-! Checking: every declaration of a module has to be written as it would be written again. -/

set_option autoImplicit false

namespace SchemaExport.Command

def trimmedLines (source : List Char) : List (List Char) := (Module.linesOf source).map Text.trimEnd

/-- The declarations that are no line of the text when they are written again. -/
def drifting (source : List Char) (declarations : Entries Schema) : Entries Schema :=
  let lines := trimmedLines source
  declarations.filter fun (name, schema) => declaration name schema ∉ lines

/-- What is told of a module, and how many of its declarations drift. -/
structure Findings where
  messages : List Message
  drifted : Nat
  failure : Option Failure

def checkModule (path source : List Char) : Findings :=
  let reading := Module.read source
  let parsed : List Message :=
    reading.declarations.map fun (name, schema) => .event (.parsed name schema.kind)
  match reading.fault with
  | some error => ⟨parsed, 0, some (.invalidModule path error)⟩
  | none =>
    let drifted := drifting source reading.declarations
    let shown := String.ofList path
    ⟨parsed
      ++ drifted.map (fun (name, _) =>
        .line ("drift " ++ shown ++ ": \x60" ++ name ++ "\x60 does not re-clone to itself"))
      ++ [.line ("checked " ++ shown ++ ": " ++ toString reading.declarations.length ++ " declaration(s)")],
      drifted.length, none⟩

def checkModules (tree : Files.Tree) : List (List Char) → Findings
  | [] => ⟨[], 0, none⟩
  | path :: paths =>
    match readSource tree path with
    | .error failure => ⟨[], 0, some failure⟩
    | .ok source =>
      let first := checkModule path source
      match first.failure with
      | some failure => ⟨first.messages, first.drifted, some failure⟩
      | none =>
        let others := checkModules tree paths
        ⟨first.messages ++ others.messages, first.drifted + others.drifted, others.failure⟩

def runCheck (inputs : List String) (tree : Files.Tree) : Outcome :=
  match resolveInputs tree inputs with
  | .error failure => ⟨some failure, [], [], tree⟩
  | .ok paths =>
    let findings := checkModules tree paths
    let failure := match findings.failure with
      | some failure => some failure
      | none => if findings.drifted = 0 then none else some (.drifted findings.drifted)
    ⟨failure, [], findings.messages, tree⟩

end SchemaExport.Command
