/-! Lengths in bytes of UTF-8, in which offsets and columns are counted. -/

set_option autoImplicit false

namespace SchemaExport.Text

def byteLength : List Char → Nat
  | [] => 0
  | c :: rest => c.utf8Size + byteLength rest

@[simp] theorem byteLength_append (left right : List Char) :
    byteLength (left ++ right) = byteLength left + byteLength right := by
  induction left with
  | nil => simp [byteLength]
  | cons c rest ih => simp [byteLength, ih, Nat.add_assoc]

def offsetOf (source rest : List Char) : Nat := byteLength source - byteLength rest

theorem offsetOf_append (front rest : List Char) : offsetOf (front ++ rest) rest = byteLength front := by
  simp [offsetOf]

/-- A line, counted from one, and the number of bytes on it before a place. -/
structure Position where
  line : Nat
  column : Nat
  deriving DecidableEq, Repr

def Position.advance : Position → Nat → List Char → Position
  | start, _, [] => start
  | start, offset, c :: rest =>
    if offset < c.utf8Size then { start with column := start.column + offset }
    else if c = '\n' then advance ⟨start.line + 1, 0⟩ (offset - 1) rest
    else advance { start with column := start.column + c.utf8Size } (offset - c.utf8Size) rest

/-- The position after a number of bytes, which may end inside a character. -/
def Position.ofOffset (source : List Char) (offset : Nat) : Position := advance ⟨1, 0⟩ offset source

end SchemaExport.Text
