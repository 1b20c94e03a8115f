import SchemaExport.Unicode.CaseFold
import SchemaExport.Unicode.Property

/-! Sets of characters, as classes of a pattern describe them. -/

set_option autoImplicit false

namespace SchemaExport.Regex

/-- Ranges hold both of their ends. A folded set also holds what counts as one with its characters
when case is ignored. -/
inductive CharSet where
  | empty
  | range (first last : Char)
  | digit
  | space
  | word
  | property (name : Unicode.Property)
  | either (left right : CharSet)
  | both (left right : CharSet)
  | folded (set : CharSet)
  | complement (set : CharSet)
  deriving DecidableEq, Repr

namespace CharSet

def contains : CharSet → Char → Bool
  | .empty, _ => false
  | .range first last, c => first ≤ c && c ≤ last
  | .digit, c => Unicode.isDecimalDigit c
  | .space, c => Text.isBlank c
  | .word, c => Unicode.isWord c
  | .property name, c => name.holds c
  | .either left right, c => left.contains c || right.contains c
  | .both left right, c => left.contains c && right.contains c
  | .folded set, c => (Unicode.foldClass c).any fun other => set.contains other
  | .complement set, c => !set.contains c

def char (c : Char) : CharSet := .range c c

def any : CharSet := .complement .empty

def inLine : CharSet := .complement (char '\n')

def without (left right : CharSet) : CharSet := .both left (.complement right)

def apart (left right : CharSet) : CharSet := .either (left.without right) (right.without left)

/-- Case is ignored before the complement is taken. -/
def asked (ignoreCase negated : Bool) (set : CharSet) : CharSet :=
  let set := if ignoreCase then .folded set else set
  if negated then .complement set else set

def ofRanges (ranges : List (Char × Char)) : CharSet :=
  ranges.foldr (fun (first, last) set => .either (.range first last) set) .empty

def ofName? : String → Option CharSet
  | "alnum" => some (ofRanges [('0', '9'), ('A', 'Z'), ('a', 'z')])
  | "alpha" => some (ofRanges [('A', 'Z'), ('a', 'z')])
  | "ascii" => some (.range '\x00' '\x7f')
  | "blank" => some (ofRanges [('\t', '\t'), (' ', ' ')])
  | "cntrl" => some (ofRanges [('\x00', '\x1f'), ('\x7f', '\x7f')])
  | "digit" => some (.range '0' '9')
  | "graph" => some (.range '!' '~')
  | "lower" => some (.range 'a' 'z')
  | "print" => some (.range ' ' '~')
  | "punct" => some (ofRanges [('!', '/'), (':', '@'), ('[', '\x60'), ('\x7b', '~')])
  | "space" => some (ofRanges [('\t', '\r'), (' ', ' ')])
  | "upper" => some (.range 'A' 'Z')
  | "word" => some (ofRanges [('0', '9'), ('A', 'Z'), ('_', '_'), ('a', 'z')])
  | "xdigit" => some (ofRanges [('0', '9'), ('A', 'F'), ('a', 'f')])
  | _ => none

end CharSet
end SchemaExport.Regex
