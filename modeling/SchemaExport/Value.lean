import SchemaExport.Number
import SchemaExport.Record
import SchemaExport.Regex.Literal

/-! Values of a leaf definition: JSON data with regular expressions. -/

set_option autoImplicit false

namespace SchemaExport

inductive Value where
  | null
  | bool (flag : Bool)
  | number (value : Number)
  | text (content : String)
  | regex (literal : Regex.Literal)
  | list (items : List Value)
  | record (entries : List (String × Value))
  deriving Inhabited

abbrev Definition := Record Value

namespace Value

/-- A double that is no number at all is stored as null. -/
def ofDouble? : Option Decimal.Double → Value
  | some value => .number (.ofDouble value)
  | none => .null

/-- Equality of values. Records compare by keys, lists by places. -/
def same : Value → Value → Bool
  | .null, .null => true
  | .bool left, .bool right => left == right
  | .number left, .number right => left.same right
  | .text left, .text right => left == right
  | .regex left, .regex right => left == right
  | .list left, .list right => sameItems left right
  | .record left, .record right => left.length == right.length && sameEntries left right
  | _, _ => false
where
  sameItems : List Value → List Value → Bool
    | [], [] => true
    | left :: lefts, right :: rights => same left right && sameItems lefts rights
    | _, _ => false
  sameEntries : Entries Value → Entries Value → Bool
    | [], _ => true
    | (key, left) :: lefts, rights =>
      (match Entries.get? rights key with
        | some right => same left right
        | none => false) && sameEntries lefts rights

end Value
end SchemaExport
