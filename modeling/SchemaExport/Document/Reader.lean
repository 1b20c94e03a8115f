import SchemaExport.Document.Node
import SchemaExport.Document.Path
import SchemaExport.Error
import SchemaExport.Json.Numeral
import SchemaExport.Json.Quoted

/-! Reading the text of a document.

The document and its outermost nodes are checked while they are read, so their faults have the full
path. What a node holds is read as data first and checked after its end; such a fault has the path
of the outermost node and the place behind it.

Brackets nest to a limit, which bounds the recursion; the length of the text bounds each list.
-/

set_option autoImplicit false

namespace SchemaExport.Document

open Json (Cause)

structure Fault where
  path : Path
  message : String
  rest : List Char
  read : Nat

def Fault.error (fault : Fault) (source : List Char) : Error :=
  .document fault.path.text
    (Json.placed fault.message source (Text.offsetOf source fault.rest + fault.read))

abbrev Reader (α : Type) := List Char → Except Fault (α × List Char)

def broken {α : Type} (path : Path) (fault : Json.Fault) : Except Fault α :=
  .error ⟨path, fault.cause.message, fault.rest, fault.read⟩

/-- A fault of what the text says, behind everything read so far. -/
def refused {α : Type} (path : Path) (message : String) (rest : List Char) : Except Fault α :=
  .error ⟨path, message, rest, 0⟩

def located {α : Type} (path : Path) : Except Json.Fault α → Except Fault α
  | .ok value => .ok value
  | .error fault => broken path fault

/-- A fault inside an object lies behind the white space and a closing brace that follow. -/
def behindObject (rest : List Char) : List Char :=
  match Json.skipSpace rest with
  | '}' :: rest => rest
  | rest => rest

def readWord (word : List Char) (rest : List Char) : Except Json.Fault (List Char) :=
  match word, rest with
  | [], rest => .ok rest
  | _ :: _, [] => .error (.before [] .valueEnds)
  | expected :: word, c :: rest =>
    if c = expected then readWord word rest else .error (.at (c :: rest) .wordExpected)

def readScalar (rest : List Char) : Except Json.Fault (Json × List Char) :=
  match rest with
  | [] => .error (.before [] .valueEnds)
  | 'n' :: rest => do pure (.null, ← readWord ['u', 'l', 'l'] rest)
  | 't' :: rest => do pure (.bool true, ← readWord ['r', 'u', 'e'] rest)
  | 'f' :: rest => do pure (.bool false, ← readWord ['a', 'l', 's', 'e'] rest)
  | '"' :: rest => do
    let (content, rest) ← Json.readString rest
    pure (.text (String.ofList content), rest)
  | c :: rest =>
    if c = '-' || c.isDigit then do
      let (value, rest) ← Json.readNumber (c :: rest)
      pure (.number value, rest)
    else .error (.at (c :: rest) .valueExpected)

/-- Data of a type that is not wanted. Scalars are read before they are refused, brackets are not. -/
def refuse {α : Type} (path : Path) (wanted : String) (rest : List Char) : Except Fault α :=
  match rest with
  | '[' :: _ => refused path (invalidType "sequence" wanted) rest
  | '{' :: _ => refused path (invalidType "map" wanted) rest
  | _ => do
    let (data, rest) ← located path (readScalar rest)
    refused path (invalidType data.describe wanted) rest

def nextElement? (first : Bool) (rest : List Char) : Except Json.Fault (Option (List Char)) :=
  match Json.skipSpace rest with
  | [] => .error (.before [] .listEnds)
  | ']' :: _ => .ok none
  | rest =>
    if first then .ok (some rest)
    else
      match rest with
      | ',' :: rest =>
        match Json.skipSpace rest with
        | [] => .error (.before [] .valueEnds)
        | ']' :: rest => .error (.at (']' :: rest) .trailingComma)
        | rest => .ok (some rest)
      | rest => .error (.at rest .listSeparatorExpected)

def nextKey? (first : Bool) (rest : List Char) : Except Json.Fault (Option (List Char)) :=
  match Json.skipSpace rest with
  | [] => .error (.before [] .objectEnds)
  | '}' :: _ => .ok none
  | rest =>
    match first, rest with
    | true, '"' :: rest => .ok (some rest)
    | true, rest => .error (.at rest .keyNotString)
    | false, ',' :: rest =>
      match Json.skipSpace rest with
      | [] => .error (.before [] .valueEnds)
      | '"' :: rest => .ok (some rest)
      | '}' :: rest => .error (.at ('}' :: rest) .trailingComma)
      | rest => .error (.at rest .keyNotString)
    | false, rest => .error (.at rest .objectSeparatorExpected)

/-- The next key of an object. A fault on the way to it has an unknown step. -/
def readKey (path : Path) (first : Bool) (rest : List Char) :
    Except Fault (Option (String × List Char)) :=
  located (.unknown :: path) do
    match ← nextKey? first rest with
    | none => pure none
    | some rest =>
      let (key, rest) ← Json.readString rest
      pure (some (String.ofList key, rest))

def readColon (path : Path) (rest : List Char) : Except Fault (List Char) :=
  match Json.skipSpace rest with
  | ':' :: rest => .ok rest
  | [] => broken path (.before [] .objectEnds)
  | rest => broken path (.at rest .colonExpected)

def readElements (data : Path → Reader Json) (path : Path) : Nat → Nat → Reader (List Json)
  | 0, _, rest => broken path (.before rest .listEnds)
  | length + 1, position, rest => do
    match ← located path (nextElement? (position == 0) rest) with
    | none => pure ([], (Json.skipSpace rest).drop 1)
    | some rest =>
      let (item, rest) ← data (.index position :: path) rest
      let (items, rest) ← readElements data path length (position + 1) rest
      pure (item :: items, rest)

def readEntries (data : Path → Reader Json) (path : Path) : Nat → Bool → Reader (Entries Json)
  | 0, _, rest => broken path (.before rest .objectEnds)
  | length + 1, first, rest => do
    match ← readKey path first rest with
    | none => pure ([], (Json.skipSpace rest).drop 1)
    | some (key, rest) =>
      let rest ← readColon path rest
      let (value, rest) ← data (.key key :: path) rest
      let (entries, rest) ← readEntries data path length false rest
      pure ((key, value) :: entries, rest)

/-- Data with brackets nested to at most a number of levels. -/
def readData (length : Nat) : Nat → Path → Reader Json
  | 0, path, rest =>
    match Json.skipSpace rest with
    | '[' :: rest => broken path (.at ('[' :: rest) .tooDeep)
    | '{' :: rest => broken path (.at ('{' :: rest) .tooDeep)
    | rest => located path (readScalar rest)
  | levels + 1, path, rest =>
    match Json.skipSpace rest with
    | '[' :: rest => do
      let (items, rest) ← readElements (readData length levels) path length 0 rest
      pure (.list items, rest)
    | '{' :: rest => do
      let (entries, rest) ← readEntries (readData length levels) path length true rest
      pure (.object entries, rest)
    | rest => located path (readScalar rest)

def readKind (path : Path) : Reader Json := fun rest =>
  match Json.skipSpace rest with
  | '"' :: rest => do
    let (name, rest) ← located path (Json.readString rest)
    match Kind.ofName? (String.ofList name) with
    | some _ => pure (.text (String.ofList name), rest)
    | none => refused path (unknownKind (String.ofList name)) rest
  | rest => refuse path kindTitle rest

def readNodeEntries (data : Path → Reader Json) (path : Path) :
    Nat → Bool → Bool → Reader (Entries Json)
  | 0, _, _, rest => broken path (.before rest .objectEnds)
  | length + 1, first, found, rest => do
    match ← readKey path first rest with
    | none =>
      if found then pure ([], (Json.skipSpace rest).drop 1)
      else refused path (missingField "kind") (behindObject rest)
    | some (key, rest) =>
      if key = "kind" && found then refused path (duplicateField key) (behindObject rest)
      else
        let rest ← readColon path rest
        let (value, rest) ← (if key = "kind" then readKind else data) (.key key :: path) rest
        let (entries, rest) ← readNodeEntries data path length false (found || key = "kind") rest
        pure ((key, value) :: entries, rest)

/-- An outermost node, checked only up to its kind. -/
def readOuterNode (length levels : Nat) (path : Path) : Reader Json := fun rest =>
  match Json.skipSpace rest, levels with
  | '[' :: rest, 0 => broken path (.at ('[' :: rest) .tooDeep)
  | '{' :: rest, 0 => broken path (.at ('{' :: rest) .tooDeep)
  | '[' :: rest, levels + 1 => do
    match ← located path (nextElement? true rest) with
    | none => refused path (missingField "kind") ((Json.skipSpace rest).drop 1)
    | some rest =>
      let (kind, rest) ← readKind (.index 0 :: path) rest
      let (items, rest) ← readElements (readData length levels) path length 1 rest
      pure (.list (kind :: items), rest)
  | '{' :: rest, levels + 1 => do
    let (entries, rest) ← readNodeEntries (readData length levels) path length true false rest
    pure (.object entries, rest)
  | rest, _ => refuse path nodeTitle rest

def readNodes (data : Path → Reader Json) (path : Path) :
    Nat → Bool → Reader (Entries Node)
  | 0, _, rest => broken path (.before rest .objectEnds)
  | length + 1, first, rest => do
    match ← readKey path first rest with
    | none => pure ([], (Json.skipSpace rest).drop 1)
    | some (name, rest) =>
      let rest ← readColon path rest
      let (said, rest) ← data (.key name :: path) rest
      match nodeOf said with
      | .error message => refused (.key name :: path) message (behindObject rest)
      | .ok node =>
        let (nodes, rest) ← readNodes data path length false rest
        pure ((name, node) :: nodes, rest)

def readSchemas (length levels : Nat) (path : Path) : Reader (Record Node) := fun rest =>
  match Json.skipSpace rest, levels with
  | '{' :: rest, 0 => broken path (.at ('{' :: rest) .tooDeep)
  | '{' :: rest, levels + 1 => do
    let (nodes, rest) ← readNodes (readOuterNode length levels) path length true rest
    pure (Record.ofEntries nodes, rest)
  | rest, _ => refuse path "a map" rest

def readOptionalText (path : Path) : Reader (Option String) := fun rest =>
  match Json.skipSpace rest with
  | 'n' :: rest => do pure (none, ← located path (readWord ['u', 'l', 'l'] rest))
  | '"' :: rest => do
    let (content, rest) ← located path (Json.readString rest)
    pure (some (String.ofList content), rest)
  | rest => refuse path "a string" rest

structure Draft where
  header : Option String
  nodes : Record Node

def unknownField (name : String) : String :=
  "unknown field `" ++ name ++ "`, expected `prefix` or `schemas`"

def readDraftEntries (length levels : Nat) :
    Nat → Bool → Option (Option String) → Option (Record Node) → Reader Draft
  | 0, _, _, _, rest => broken [] (.before rest .objectEnds)
  | budget + 1, first, header, nodes, rest => do
    match ← readKey [] first rest with
    | none => pure (⟨header.getD none, nodes.getD .empty⟩, (Json.skipSpace rest).drop 1)
    | some (key, rest) =>
      if key = "prefix" then
        if header.isSome then refused [] (duplicateField key) (behindObject rest)
        else
          let rest ← readColon [] rest
          let (text, rest) ← readOptionalText [.key key] rest
          readDraftEntries length levels budget false (some text) nodes rest
      else if key = "schemas" then
        if nodes.isSome then refused [] (duplicateField key) (behindObject rest)
        else
          let rest ← readColon [] rest
          let (schemas, rest) ← readSchemas length levels [.key key] rest
          readDraftEntries length levels budget false header (some schemas) rest
      else refused [.key key] (unknownField key) (behindObject rest)

def readListEnd (rest : List Char) : Except Fault (List Char) :=
  match Json.skipSpace rest with
  | ']' :: rest => .ok rest
  | ',' :: rest =>
    match Json.skipSpace rest with
    | ']' :: rest => broken [] (.at (']' :: rest) .trailingComma)
    | rest => broken [] (.at rest .trailingText)
  | [] => broken [] (.before [] .listEnds)
  | rest => broken [] (.at rest .trailingText)

/-- A document as a list of its two fields, either of which may be left out at the end. -/
def readDraftItems (length levels : Nat) : Reader Draft := fun rest => do
  match ← located [] (nextElement? true rest) with
  | none => pure (⟨none, .empty⟩, ← readListEnd rest)
  | some rest =>
    let (header, rest) ← readOptionalText [.index 0] rest
    match ← located [] (nextElement? false rest) with
    | none => pure (⟨header, .empty⟩, ← readListEnd rest)
    | some rest =>
      let (nodes, rest) ← readSchemas length levels [.index 1] rest
      pure (⟨header, nodes⟩, ← readListEnd rest)

def nestingLimit : Nat := 127

/-- The document at the start of a text; what follows it is not looked at. -/
def readDraft (source : List Char) : Except Fault Draft := do
  let length := source.length + 1
  let levels := nestingLimit - 1
  let (draft, _) ← match Json.skipSpace source with
    | '[' :: rest => readDraftItems length levels rest
    | '{' :: rest => readDraftEntries length levels length true none none rest
    | rest => refuse [] "struct RawDocument" rest
  pure draft

end SchemaExport.Document
