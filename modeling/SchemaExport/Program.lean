import SchemaExport.Command.Check
import SchemaExport.Command.Outline

/-! The program: a command line, carried out on a tree of files. -/

set_option autoImplicit false

namespace SchemaExport

namespace Command

/-- What a command line that was understood does. Without effect it only shows what was understood. -/
def Invocation.run (invocation : Invocation) (tree : Files.Tree) : Outcome :=
  match invocation.action with
  | .check inputs => runCheck inputs tree
  | .export settings =>
    if settings.noOp then ⟨none, [], invocation.outline.lines.map .line, tree⟩
    else runExport settings tree

end Command

namespace Program

/-- The names of severities, and of a log that holds nothing. A number counts the severities. -/
def logLimit? (name : String) : Option (Option Severity) :=
  match name.map Char.toLower with
  | "off" => some none
  | "0" => some none
  | "" => some (some .error)
  | "error" => some (some .error)
  | "1" => some (some .error)
  | "warn" => some (some .warning)
  | "2" => some (some .warning)
  | "info" => some (some .info)
  | "3" => some (some .info)
  | "debug" => some (some .debug)
  | "4" => some (some .debug)
  | "trace" => some (some .trace)
  | "5" => some (some .trace)
  | _ => none

def logLimit (named : Option String) (invocation : Command.Invocation) : Option Severity :=
  match named.bind logLimit? with
  | some limit => limit
  | none => some (if invocation.quiet then .error else if invocation.verbose then .debug else .warning)

def shown (limit : Option Severity) (messages : List Message) : List Message :=
  messages.filter fun message =>
    match message with
    | .event event => event.shownAt limit
    | .line _ => true

structure Run where
  code : Nat
  output : List Char
  messages : List Message
  tree : Files.Tree

def run (named : Option String) (invocation : Command.Invocation) (tree : Files.Tree) : Run :=
  let outcome := invocation.run tree
  let messages := shown (logLimit named invocation) outcome.messages
  match outcome.failure with
  | none => ⟨0, outcome.output, messages, outcome.tree⟩
  | some failure => ⟨1, outcome.output, messages ++ [.line ("error: " ++ failure.message)], outcome.tree⟩

end Program
end SchemaExport
