import SchemaExport.Json.Data

/-! Schema nodes of a document, taken from JSON data.

A node is an object with its kind under `kind`, or a list with its kind in front and its fields in
order. The first problem in the order of the data is reported; a field that is not there comes last.
-/

set_option autoImplicit false

namespace SchemaExport.Document

inductive Kind where
  | object | optional | nullable | array | leaf
  deriving DecidableEq, Repr

/-- A node before regular expressions are told from strings. -/
inductive Node where
  | object (shape : List (String × Node))
  | optional (inner : Node)
  | nullable (inner : Node)
  | array (element : Node)
  | leaf (typeName : String) (definition : Record Json)

def Kind.ofName? (name : String) : Option Kind :=
  if name = "object" then some .object
  else if name = "optional" then some .optional
  else if name = "nullable" then some .nullable
  else if name = "array" then some .array
  else if name = "leaf" then some .leaf
  else none

def Kind.ofIndex? (index : Int) : Option Kind :=
  if index = 0 then some .object
  else if index = 1 then some .optional
  else if index = 2 then some .nullable
  else if index = 3 then some .array
  else if index = 4 then some .leaf
  else none

/-- The field of a kind, and how a message calls the kind. -/
def Kind.fieldName : Kind → String
  | .object => "shape"
  | .optional => "inner"
  | .nullable => "inner"
  | .array => "element"
  | .leaf => "typeName"

def Kind.title : Kind → String
  | .object => "Object"
  | .optional => "Optional"
  | .nullable => "Nullable"
  | .array => "Array"
  | .leaf => "Leaf"

def invalidType (found wanted : String) : String := "invalid type: " ++ found ++ ", expected " ++ wanted

def missingField (name : String) : String := "missing field `" ++ name ++ "`"

def duplicateField (name : String) : String := "duplicate field `" ++ name ++ "`"

def unknownKind (name : String) : String :=
  "unknown variant `" ++ name ++ "`, expected one of `object`, `optional`, `nullable`, `array`, `leaf`"

def nodeTitle : String := "internally tagged enum RawNode"

def kindTitle : String := "variant identifier"

/-- Inside a node a kind may also be its number. -/
def Kind.ofData : Json → Except String Kind
  | .text name =>
    match Kind.ofName? name with
    | some kind => .ok kind
    | none => .error (unknownKind name)
  | .number (.integer index) =>
    if index < 0 then .error (invalidType (Json.describe (.number (.integer index))) kindTitle)
    else
      match Kind.ofIndex? index with
      | some kind => .ok kind
      | none =>
        .error ("invalid value: " ++ Json.describe (.number (.integer index)) ++
          ", expected variant index 0 <= i < 5")
  | data => .error (invalidType data.describe kindTitle)

/-- The kind among a node's entries, which may stand there once. -/
def kindOfEntries (found : Option Kind) : Entries Json → Except String Kind
  | [] =>
    match found with
    | some kind => .ok kind
    | none => .error (missingField "kind")
  | (key, value) :: rest =>
    if key = "kind" then
      if found.isSome then .error (duplicateField "kind")
      else do kindOfEntries (some (← Kind.ofData value)) rest
    else kindOfEntries found rest

def textOf : Json → Except String String
  | .text content => .ok content
  | data => .error (invalidType data.describe "a string")

def definitionOf : Json → Except String (Record Json)
  | .object entries => .ok (Record.ofEntries (Json.settleEntries entries))
  | data => .error (invalidType data.describe "a map")

/-- A leaf from its entries: a type name and, if it is there, a definition. -/
def leafOfEntries (typeName : Option String) (definition : Option (Record Json)) :
    Entries Json → Except String Node
  | [] =>
    match typeName with
    | some typeName => .ok (.leaf typeName (definition.getD .empty))
    | none => .error (missingField "typeName")
  | (key, value) :: rest =>
    if key = "typeName" then
      if typeName.isSome then .error (duplicateField key)
      else do leafOfEntries (some (← textOf value)) definition rest
    else if key = "def" then
      if definition.isSome then .error (duplicateField key)
      else do leafOfEntries typeName (some (← definitionOf value)) rest
    else leafOfEntries typeName definition rest

def tooFewFields (kind : Kind) (wanted : String) : String :=
  "invalid length 0, expected struct variant RawNode::" ++ kind.title ++ " with " ++ wanted

def tooManyFields (count : Nat) (wanted : String) : String :=
  "invalid length " ++ toString count ++ ", expected " ++ wanted ++ " in sequence"

def leafOfItems : List Json → Except String Node
  | [] => .error (tooFewFields .leaf "2 elements")
  | [typeName] => do pure (.leaf (← textOf typeName) .empty)
  | [typeName, definition] => do pure (.leaf (← textOf typeName) (← definitionOf definition))
  | typeName :: definition :: rest => do
    let _ ← textOf typeName
    let _ ← definitionOf definition
    throw (tooManyFields (2 + rest.length) "2 elements")

/-- A node around the one node that its kind holds. -/
def Kind.around (kind : Kind) (inner : Node) : Node :=
  match kind with
  | .nullable => .nullable inner
  | .array => .array inner
  | _ => .optional inner

mutual

def nodeOf : Json → Except String Node
  | .object entries => do
    match ← kindOfEntries none entries with
    | .object => objectOfEntries none entries
    | .leaf => leafOfEntries none none entries
    | kind => wrapperOfEntries kind none entries
  | .list [] => .error (missingField "kind")
  | .list (kind :: items) => do
    match ← Kind.ofData kind with
    | .object => objectOfItems items
    | .leaf => leafOfItems items
    | kind => wrapperOfItems kind items
  | data => .error (invalidType data.describe nodeTitle)

def objectOfItems : List Json → Except String Node
  | [] => .error (tooFewFields .object "1 element")
  | field :: rest => do
    let shape ← shapeOf field
    if rest.isEmpty then pure (.object shape) else throw (tooManyFields (1 + rest.length) "1 element")

def wrapperOfItems (kind : Kind) : List Json → Except String Node
  | [] => .error (tooFewFields kind "1 element")
  | field :: rest => do
    let inner ← nodeOf field
    if rest.isEmpty then pure (kind.around inner) else throw (tooManyFields (1 + rest.length) "1 element")

def objectOfEntries : Option (Entries Node) → Entries Json → Except String Node
  | some shape, [] => .ok (.object shape)
  | none, [] => .error (missingField "shape")
  | found, (key, value) :: rest =>
    if key = "shape" then
      if found.isSome then .error (duplicateField key)
      else do objectOfEntries (some (← shapeOf value)) rest
    else objectOfEntries found rest

def wrapperOfEntries (kind : Kind) : Option Node → Entries Json → Except String Node
  | some inner, [] => .ok (kind.around inner)
  | none, [] => .error (missingField kind.fieldName)
  | found, (key, value) :: rest =>
    if key = kind.fieldName then
      if found.isSome then .error (duplicateField key)
      else do wrapperOfEntries kind (some (← nodeOf value)) rest
    else wrapperOfEntries kind found rest

def shapeOf : Json → Except String (Entries Node)
  | .object entries => do pure (Record.ofEntries (← fieldsOf entries)).entries
  | data => .error (invalidType data.describe "a map")

def fieldsOf : Entries Json → Except String (Entries Node)
  | [] => .ok []
  | (name, value) :: rest => do
    let node ← nodeOf value
    let more ← fieldsOf rest
    pure ((name, node) :: more)

end

end SchemaExport.Document
