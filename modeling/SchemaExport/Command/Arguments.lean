/-! The words of a command line.

A word is an option, a cluster of short options, the name of a command or a value. An option that
takes values holds the words behind it that are values, until it has enough: only inputs take more
than one. What an option holds is looked at when the next one begins, or at the end.
-/

set_option autoImplicit false

namespace SchemaExport.Command

structure ExportSettings where
  inputs : List String
  header : Option String
  headerFile : Option String
  out : Option String
  noOp : Bool
  deriving DecidableEq, Repr

inductive Action where
  | export (settings : ExportSettings)
  | check (inputs : List String)
  deriving DecidableEq, Repr

structure Invocation where
  action : Action
  quiet : Bool
  verbose : Bool
  deriving DecidableEq, Repr

/-- Why a command line asks for nothing that can be done. Help is asked for, or shown for want of any
argument. -/
inductive UsageFault where
  | help
  | nothingAsked
  | unknownArgument
  | unknownCommand
  | missingCommand
  | missingArgument
  | conflict
  | invalidValue
  | tooManyValues
  deriving DecidableEq, Repr

def UsageFault.exitCode : UsageFault → Nat
  | .help => 0
  | _ => 2

inductive Key where
  | quiet
  | verbose
  | help
  | noOp
  | input
  | header
  | headerFile
  | out
  deriving DecidableEq, Repr

namespace Key

def takesValues : Key → Bool
  | .input => true
  | .header => true
  | .headerFile => true
  | .out => true
  | _ => false

/-- A path has at least one character. -/
def isPath : Key → Bool
  | .headerFile => true
  | .out => true
  | _ => false

end Key

/-- Where options stand: before the command, or behind one. -/
inductive Level where
  | program
  | export
  | check
  deriving DecidableEq, Repr

namespace Level

def knows : Level → Key → Bool
  | .export, _ => true
  | .check, key => key = .quiet || key = .verbose || key = .help || key = .input
  | .program, key => key = .quiet || key = .verbose || key = .help

def ofName? : String → Option Level
  | "export" => some .export
  | "check" => some .check
  | _ => none

def long? (level : Level) (name : String) : Option Key :=
  let key : Option Key :=
    match name with
    | "quiet" => some .quiet
    | "verbose" => some .verbose
    | "help" => some .help
    | "no-op" => some .noOp
    | "input" => some .input
    | "prefix" => some .header
    | "prefix-file" => some .headerFile
    | "out" => some .out
    | _ => none
  key.filter level.knows

def short? (level : Level) (name : Char) : Option Key :=
  let key : Option Key :=
    match name with
    | 'q' => some .quiet
    | 'v' => some .verbose
    | 'h' => some .help
    | 'i' => some .input
    | 'o' => some .out
    | _ => none
  key.filter level.knows

end Level

/-- The options of a level with their values, and the option that holds words now. -/
structure Given where
  flags : List Key := []
  inputs : List String := []
  single : List (Key × String) := []
  held : Option (Key × List String) := none
  deriving DecidableEq, Repr

namespace Given

def has (given : Given) (key : Key) : Bool := key ∈ given.flags || (given.single.lookup key).isSome

def wants (given : Given) : Bool :=
  match given.held with
  | some (key, values) => key = .input || values = []
  | none => false

def hold (given : Given) (value : String) : Given :=
  { given with held := given.held.map fun (key, values) => (key, values ++ [value]) }

/-- An option with its values. Only inputs are given twice. -/
def accept (given : Given) (key : Key) (values : List String) : Except UsageFault Given :=
  match values with
  | [] => .error .invalidValue
  | value :: _ =>
    if key = .input then .ok { given with inputs := given.inputs ++ values }
    else if given.has key then .error .conflict
    else if key.isPath && value.isEmpty then .error .invalidValue
    else .ok { given with single := given.single ++ [(key, value)] }

def release (given : Given) : Except UsageFault Given :=
  match given.held with
  | none => .ok given
  | some (key, values) => accept { given with held := none } key values

def setFlag (given : Given) (key : Key) : Except UsageFault Given :=
  match given.release with
  | .error fault => .error fault
  | .ok given =>
    if key = .help then .error .help
    else if given.has key then .error .conflict
    else .ok { given with flags := key :: given.flags }

def begin (given : Given) (key : Key) (attached : Option (List Char)) : Except UsageFault Given :=
  match given.release with
  | .error fault => .error fault
  | .ok given =>
    match attached with
    | some value => given.accept key [String.ofList value]
    | none => .ok { given with held := some (key, []) }

def readLong (given : Given) (level : Level) (word : List Char) : Except UsageFault Given :=
  let name := word.takeWhile (· != '=')
  let attached := match word.drop name.length with
    | [] => none
    | _ :: value => some value
  match level.long? (String.ofList name) with
  | none => .error .unknownArgument
  | some key =>
    if key.takesValues then given.begin key attached
    else if attached.isSome then .error .tooManyValues
    else given.setFlag key

/-- A cluster of short options. The first that takes values has the rest attached. -/
def readShort (level : Level) : Given → List Char → Except UsageFault Given
  | given, [] => .ok given
  | given, name :: rest =>
    match level.short? name with
    | none => .error .unknownArgument
    | some key =>
      if key.takesValues then
        given.begin key (match rest with
          | [] => none
          | '=' :: value => some value
          | value => some value)
      else
        match given.setFlag key with
        | .ok given => readShort level given rest
        | .error fault => .error fault

def readWord (given : Given) (level : Level) (word : List Char) : Except UsageFault Given :=
  match word with
  | '-' :: '-' :: name => given.readLong level name
  | '-' :: name :: names => readShort level given (name :: names)
  | _ =>
    if given.wants then .ok (given.hold (String.ofList word))
    else .error (if level = .program then .unknownCommand else .unknownArgument)

/-- The words behind a command. Two hyphens end the options, and nothing may follow them. -/
def readWords (level : Level) : Given → List String → Except UsageFault Given
  | given, [] => given.release
  | given, "--" :: rest => if rest = [] then given.release else .error .unknownArgument
  | given, word :: rest =>
    match given.readWord level word.toList with
    | .ok given => readWords level given rest
    | .error fault => .error fault

def conflicts (given : Given) : Bool :=
  (given.has .quiet && given.has .verbose) || (given.has .header && given.has .headerFile)

def toAction (given : Given) (level : Level) : Action :=
  if level = .check then .check given.inputs
  else
    .export ⟨given.inputs, given.single.lookup .header, given.single.lookup .headerFile,
      given.single.lookup .out, given.has .noOp⟩

def readCommand (level : Level) (words : List String) : Except UsageFault Given :=
  match readWords level {} words with
  | .error fault => .error fault
  | .ok given =>
    if given.conflicts then .error .conflict
    else if given.inputs = [] then .error .missingArgument
    else .ok given

end Given

def readHelp : List String → UsageFault
  | [] => .help
  | [name] => if (Level.ofName? name).isSome || name = "help" then .help else .unknownCommand
  | _ => .unknownCommand

/-- Behind two hyphens no command is taken for one. -/
def readBehindHyphens (given : Given) : List String → Except UsageFault Invocation
  | [] => .error (if given.flags = [] then .nothingAsked else .missingCommand)
  | word :: _ =>
    .error (if (Level.ofName? word).isSome || word = "help" then .unknownArgument else .unknownCommand)

def readProgram : Given → List String → Except UsageFault Invocation
  | given, [] => readBehindHyphens given []
  | given, word :: rest =>
    if word = "--" then readBehindHyphens given rest
    else if word = "help" then .error (readHelp rest)
    else
      match Level.ofName? word with
      | some level =>
        match Given.readCommand level rest with
        | .error fault => .error fault
        | .ok found =>
          if given.conflicts then .error .conflict
          else
            .ok ⟨found.toAction level, given.has .quiet || found.has .quiet,
              given.has .verbose || found.has .verbose⟩
      | none =>
        match given.readWord .program word.toList with
        | .ok given => readProgram given rest
        | .error fault => .error fault

def Invocation.ofWords (words : List String) : Except UsageFault Invocation := readProgram {} words

end SchemaExport.Command
