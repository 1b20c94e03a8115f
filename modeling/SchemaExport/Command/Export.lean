import SchemaExport.Command.Arguments
import SchemaExport.Command.Inputs
import SchemaExport.Document
import SchemaExport.Registry

/-! Exporting: documents are read, merged into one registry and written as one module.

Nothing is written before everything has been read, and the module is the last thing written.
-/

set_option autoImplicit false

namespace SchemaExport

/-- What a command tells on the way: events for the log and lines for the user. -/
inductive Message where
  | event (event : Event)
  | line (text : String)

namespace Command

structure Outcome where
  failure : Option Failure
  output : List Char
  messages : List Message
  tree : Files.Tree

/-- The documents up to the first that cannot be loaded, and why not. -/
structure Loading where
  documents : List Document
  events : List Event
  failure : Option Failure

def loadDocuments (tree : Files.Tree) : List (List Char) → Loading
  | [] => ⟨[], [], none⟩
  | path :: paths =>
    match readSource tree path with
    | .error failure => ⟨[], [], some failure⟩
    | .ok source =>
      match Document.parse source with
      | .error error => ⟨[], [], some (.invalidDocument path error)⟩
      | .ok document =>
        let loading := loadDocuments tree paths
        ⟨document :: loading.documents,
          .loaded (String.ofList path) document.schemas.entries.length :: loading.events, loading.failure⟩

def lastHeader (documents : List Document) : Option String :=
  documents.foldl (fun header document => document.header.or header) none

/-- A header that is given comes before that of a file, and both before those of the documents. -/
def chooseHeader (settings : ExportSettings) (tree : Files.Tree) (documents : List Document) :
    Except Failure (Option String) :=
  match settings.header, settings.headerFile with
  | some header, _ => .ok (some header)
  | none, some path =>
    match tree.read path.toList with
    | .ok header => .ok (some (String.ofList header))
    | .error fault => .error (.unreadableHeader path fault)
  | none, none => .ok (lastHeader documents)

def allSchemas (documents : List Document) : Entries Schema :=
  documents.flatMap fun document => document.schemas.entries

def merge (header : Option String) (documents : List Document) : Registry :=
  (Registry.empty header).registerAll (allSchemas documents)

def buildRegistry (settings : ExportSettings) (tree : Files.Tree) : List Event × Except Failure Registry :=
  match resolveInputs tree settings.inputs with
  | .error failure => ([], .error failure)
  | .ok paths =>
    let loading := loadDocuments tree paths
    match loading.failure with
    | some failure => (loading.events, .error failure)
    | none =>
      match chooseHeader settings tree loading.documents with
      | .error failure => (loading.events, .error failure)
      | .ok header =>
        (loading.events ++ (Registry.empty header).registrations (allSchemas loading.documents),
          .ok (merge header loading.documents))

def prepareDirectory (tree : Files.Tree) (path : List Char) : Files.Tree × Option Failure :=
  match Files.parent? path with
  | none => (tree, none)
  | some directory =>
    if directory = [] then (tree, none)
    else
      let (tree, fault) := tree.makeDirectories (directory.length + 1) directory
      (tree, fault.map (.uncreatable directory))

def writeModule (registry : Registry) (tree : Files.Tree) (path : String) (told : List Event) : Outcome :=
  match prepareDirectory tree path.toList with
  | (tree, some failure) => ⟨some failure, [], told.map .event, tree⟩
  | (tree, none) =>
    let told := told ++ registry.rendering
    match registry.exportTo tree path with
    | .error error => ⟨some (.unwritable error), [], told.map .event, tree⟩
    | .ok tree =>
      ⟨none, [], (told ++ registry.exporting path).map .event ++
        [.line ("cloned " ++ toString registry.size ++ " schema(s) → " ++ path)], tree⟩

def runExport (settings : ExportSettings) (tree : Files.Tree) : Outcome :=
  match buildRegistry settings tree with
  | (told, .error failure) => ⟨some failure, [], told.map .event, tree⟩
  | (told, .ok registry) =>
    match settings.out with
    | some path => writeModule registry tree path told
    | none => ⟨none, registry.render ++ ['\n'], (told ++ registry.rendering).map .event, tree⟩

end Command
end SchemaExport
