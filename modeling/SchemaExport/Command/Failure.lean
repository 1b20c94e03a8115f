import SchemaExport.Error
import SchemaExport.Files.Glob

/-! Why a command could not be carried out, or what a check found. -/

set_option autoImplicit false

namespace SchemaExport.Command

inductive Failure where
  | unresolvable (fault : Files.Glob.Fault)
  | nothingMatched (pattern : String)
  | unreadableSource (path : List Char) (fault : FileFault)
  | unreadableHeader (path : String) (fault : FileFault)
  | invalidDocument (path : List Char) (error : Error)
  | invalidModule (path : List Char) (error : Error)
  | uncreatable (path : List Char) (fault : FileFault)
  | unwritable (error : Error)
  | drifted (count : Nat)

/-- The cause behind an error that its own message repeats. -/
def Failure.cause? : Error → Option FileFault
  | .unwritable _ fault => some fault
  | _ => none

def Failure.message : Failure → String
  | .unresolvable fault => "failed to resolve input file paths: " ++ fault.message
  | .nothingMatched pattern =>
    "failed to resolve input file paths: glob pattern matched no files: " ++ pattern
  | .unreadableSource path fault =>
    "failed to read source file " ++ String.ofList path ++ ": " ++ fault.message
  | .unreadableHeader path fault => "failed to read prefix file " ++ path ++ ": " ++ fault.message
  | .invalidDocument path error =>
    "failed to load schema document " ++ String.ofList path ++ ": " ++ error.message
  | .invalidModule path error =>
    "failed to parse generated module " ++ String.ofList path ++ ": " ++ error.message
  | .uncreatable path fault => "failed to create " ++ String.ofList path ++ ": " ++ fault.message
  | .unwritable error =>
    error.message ++ (match Failure.cause? error with
      | some fault => ": " ++ fault.message
      | none => "")
  | .drifted count => toString count ++ " declaration(s) failed the round-trip check"

end SchemaExport.Command
