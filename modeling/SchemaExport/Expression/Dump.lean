import SchemaExport.Json.Quoted
import SchemaExport.Schema

/-! Definition records as compact JSON. A regular expression stands as the string of its literal. -/

set_option autoImplicit false

namespace SchemaExport.Expression

mutual

def dump : Value → List Char
  | .null => ['n', 'u', 'l', 'l']
  | .bool true => ['t', 'r', 'u', 'e']
  | .bool false => ['f', 'a', 'l', 's', 'e']
  | .number value => value.text
  | .text content => Json.quote content.toList
  | .regex literal => Json.quote literal.text
  | .list items => '[' :: (dumpItems items ++ [']'])
  | .record entries => '{' :: (dumpEntries entries ++ ['}'])

def dumpItems : List Value → List Char
  | [] => []
  | [item] => dump item
  | item :: rest => dump item ++ ',' :: dumpItems rest

def dumpEntries : Entries Value → List Char
  | [] => []
  | [(key, value)] => Json.quote key.toList ++ ':' :: dump value
  | (key, value) :: rest => Json.quote key.toList ++ ':' :: (dump value ++ ',' :: dumpEntries rest)

end

end SchemaExport.Expression
