import SchemaExport.Expression.Dump
import SchemaExport.Expression.Repair

/-! The constructor expression that rebuilds a schema tree, and its declaration. -/

set_option autoImplicit false

namespace SchemaExport

namespace Expression

def fieldKey (name : String) : List Char :=
  if Text.isIdentifier name.toList then name.toList else Json.quote name.toList

def leafText (leaf : Leaf) : List Char :=
  "new z.".toList ++ leaf.typeName.toList ++ '(' :: (dump (.record leaf.definition.entries) ++ [')'])

def printLeaf (leaf : Leaf) : List Char := repairRegexes (repairTypeNames (leafText leaf))

mutual

/-- Shared subtrees are written again at each place. -/
def print : Schema → List Char
  | .object shape => "z.object(\x7b".toList ++ printFields shape ++ "\x7d)".toList
  | .optional inner => "z.optional(".toList ++ print inner ++ [')']
  | .nullable inner => "z.nullable(".toList ++ print inner ++ [')']
  | .array element => "z.array(".toList ++ print element ++ [')']
  | .leaf leaf => printLeaf leaf

def printFields : Entries Schema → List Char
  | [] => []
  | [(name, field)] => fieldKey name ++ ':' :: ' ' :: print field
  | (name, field) :: rest => fieldKey name ++ ':' :: ' ' :: (print field ++ ',' :: printFields rest)

end

end Expression

/-- A declaration is one line; the name stands as it is given. -/
def declaration (name : String) (schema : Schema) : List Char :=
  "export const ".toList ++ name.toList ++ " = ".toList ++ Expression.print schema ++ [';']

def joinLines : List (List Char) → List Char
  | [] => []
  | [line] => line
  | line :: rest => line ++ '\n' :: joinLines rest

def declarations (schemas : Entries Schema) : List Char :=
  joinLines (schemas.map fun (name, schema) => declaration name schema)

end SchemaExport
