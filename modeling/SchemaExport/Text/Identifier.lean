/-! Identifiers of the generated code: ASCII letters, digits, `_` and `$`. -/

set_option autoImplicit false

namespace SchemaExport.Text

def isIdentifierStart (c : Char) : Bool := c.isAlpha || c == '_' || c == '$'

def isIdentifierChar (c : Char) : Bool := c.isAlphanum || c == '_' || c == '$'

/-- A word that can be declared: no leading digit. -/
def isIdentifier : List Char → Bool
  | [] => false
  | c :: rest => isIdentifierStart c && rest.all isIdentifierChar

theorem isIdentifierChar_of_start {c : Char} (start : isIdentifierStart c = true) :
    isIdentifierChar c = true := by
  simp only [isIdentifierStart, isIdentifierChar, Char.isAlphanum, Bool.or_eq_true] at start ⊢
  rcases start with (letter | under) | dollar
  · exact .inl (.inl (.inl letter))
  · exact .inl (.inr under)
  · exact .inr dollar

end SchemaExport.Text
