import SchemaExport.Number
import SchemaExport.Record
import SchemaExport.Text.Visible

/-! JSON data as read: objects keep every entry in its place, repeated keys included. -/

set_option autoImplicit false

namespace SchemaExport

inductive Json where
  | null
  | bool (flag : Bool)
  | number (value : Number)
  | text (content : String)
  | list (items : List Json)
  | object (entries : List (String × Json))
  deriving Inhabited

namespace Json

def describe : Json → String
  | .null => "null"
  | .bool true => "boolean `true`"
  | .bool false => "boolean `false`"
  | .number (.integer value) => "integer `" ++ String.ofList (Decimal.integerText value) ++ "`"
  | .number (.double value) => "floating point `" ++ String.ofList value.text ++ "`"
  | .text content => "string " ++ Text.visible content
  | .list _ => "sequence"
  | .object _ => "map"

mutual

/-- Repeated keys settled: the first place and the last value. -/
def settle : Json → Json
  | .list items => .list (settleItems items)
  | .object entries => .object (Record.ofEntries (settleEntries entries)).entries
  | data => data

def settleItems : List Json → List Json
  | [] => []
  | item :: rest => settle item :: settleItems rest

def settleEntries : Entries Json → Entries Json
  | [] => []
  | (key, value) :: rest => (key, settle value) :: settleEntries rest

end

end Json
end SchemaExport
