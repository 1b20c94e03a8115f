import SchemaExport.Text.Visible

/-! What happens on the way, for the log. -/

set_option autoImplicit false

namespace SchemaExport

inductive Severity where
  | error
  | warning
  | info
  | debug
  | trace
  deriving DecidableEq, Repr

namespace Severity

def rank : Severity → Nat
  | .error => 1
  | .warning => 2
  | .info => 3
  | .debug => 4
  | .trace => 5

def label : Severity → String
  | .error => "ERROR"
  | .warning => "WARN"
  | .info => "INFO"
  | .debug => "DEBUG"
  | .trace => "TRACE"

end Severity

/-- Paths and names are those of the files and schemas, kinds those of the schemas' roots, bytes the
length of the text. -/
inductive Event where
  | loaded (path : String) (schemas : Nat)
  | unusableName (name : String)
  | registered (name kind : String) (replaced : Bool)
  | unregistered (name : String)
  | cleared (count : Nat)
  | emitted (name kind : String) (bytes : Nat)
  | exported (path : String) (schemas bytes : Nat)
  | parsed (name kind : String)
  deriving DecidableEq, Repr

namespace Event

def severity : Event → Severity
  | .unusableName _ => .warning
  | .exported .. => .info
  | _ => .debug

def place : Event → String
  | .loaded .. => "zod_clone::cli"
  | .emitted .. => "zod_clone::codegen"
  | .parsed .. => "zod_clone::reconstruct"
  | _ => "zod_clone::registry"

def message : Event → String
  | .loaded path schemas => "loaded schema document path=" ++ path ++ " schemas=" ++ toString schemas
  | .unusableName name =>
    "schema name is not a valid identifier; generated source will not parse name=" ++ name
  | .registered name kind replaced =>
    "registered schema name=" ++ name ++ " kind=" ++ Text.visible kind ++ " replaced=" ++ toString replaced
  | .unregistered name => "unregistered schema name=" ++ Text.visible name
  | .cleared count => "cleared registry count=" ++ toString count
  | .emitted name kind bytes =>
    "emitted declaration name=" ++ Text.visible name ++ " kind=" ++ Text.visible kind ++ " bytes=" ++ toString bytes
  | .exported path schemas bytes =>
    "exported cloned schemas path=" ++ path ++ " schemas=" ++ toString schemas ++ " bytes=" ++ toString bytes
  | .parsed name kind => "parsed declaration name=" ++ Text.visible name ++ " kind=" ++ Text.visible kind

def text (event : Event) : String := event.severity.label ++ " " ++ event.place ++ ": " ++ event.message

/-- Whether a log that ends at a severity, or holds nothing, shows an event. -/
def shownAt (event : Event) : Option Severity → Bool
  | none => false
  | some limit => event.severity.rank ≤ limit.rank

end Event
end SchemaExport
