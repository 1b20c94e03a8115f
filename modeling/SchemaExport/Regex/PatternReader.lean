import SchemaExport.Regex.CharClass
import SchemaExport.Regex.Pattern
import SchemaExport.Text.Offset
import SchemaExport.Text.Split

/-! Reading patterns.

A pattern is a choice of sequences of repeated atoms. Options change at the place where they are
written; a group with options of its own gives the old ones back at its end. Only that a pattern
cannot be read is told, not why.

Groups nest to a limit, which bounds the recursion; the length of the text bounds each sequence.
-/

set_option autoImplicit false

namespace SchemaExport.Regex

/-- Options of a pattern. Space that is ignored includes comments to the end of the line. -/
structure Options where
  ignoreCase : Bool := false
  multiline : Bool := false
  dotAll : Bool := false
  seldomFirst : Bool := false
  ignoreSpace : Bool := false
  deriving DecidableEq, Repr

/-- What is left of a pattern, and what has been seen: the options in force, how many groups were
opened and which have names, the groups referred to and whether any was by number, and how many loops
there are. -/
structure Reading where
  rest : List Char
  size : Nat
  options : Options
  groups : Nat
  names : List (String × Nat)
  referenced : List Nat
  numbered : Bool
  loops : Nat

abbrev Reader := StateT Reading Option

namespace PatternReader

/-- Behind a comment's closing parenthesis. An escaped one does not close it. -/
def skipComment : List Char → Option (List Char)
  | [] => none
  | ')' :: rest => some rest
  | '\\' :: _ :: rest => skipComment rest
  | _ :: rest => skipComment rest

def isIgnored (c : Char) : Bool := c == ' ' || c == '\r' || c == '\n' || c == '\t'

def skipIgnored (ignoreSpace : Bool) : Nat → List Char → Option (List Char)
  | 0, rest => some rest
  | _, [] => some []
  | length + 1, c :: rest =>
    match Text.dropStart? ['(', '?', '#'] (c :: rest) with
    | some comment => (skipComment comment).bind (skipIgnored ignoreSpace length)
    | none =>
      if ignoreSpace && c == '#' then skipIgnored ignoreSpace length ((rest.dropWhile (· != '\n')).drop 1)
      else if ignoreSpace && isIgnored c then skipIgnored ignoreSpace length rest
      else some (c :: rest)

def skip : Reader Unit := do
  let state ← get
  let rest ← skipIgnored state.options.ignoreSpace state.rest.length state.rest
  set { state with rest }

def advance (rest : List Char) : Reader Unit := modify fun state => { state with rest }

def eat (word : List Char) : Reader Bool := do
  match Text.dropStart? word (← get).rest with
  | some rest => advance rest; pure true
  | none => pure false

def expect (word : List Char) : Reader Unit := do
  if ← eat word then pure () else failure

def nextChar : Reader Char := do
  match (← get).rest with
  | c :: rest => advance rest; pure c
  | [] => failure

def decimalValue (digits : List Char) : Nat := digits.foldl (fun n c => 10 * n + (c.toNat - '0'.toNat)) 0

def number? (rest : List Char) : Option (Nat × List Char) :=
  let digits := rest.takeWhile Char.isDigit
  let value := decimalValue digits
  if digits = [] || 2 ^ 64 ≤ value then none else some (value, rest.drop digits.length)

/-- The bounds in braces behind the opening one. The lower bound is zero when it is left out, and
there is no upper bound when that is. -/
def bounds? (ignoreSpace : Bool) (rest : List Char) : Option ((Nat × Option Nat) × List Char) := do
  let skip (rest : List Char) : Option (List Char) := skipIgnored ignoreSpace rest.length rest
  let rest ← skip rest
  let (least, rest) ← if rest.head? = some ',' then some (0, rest) else number? rest
  let rest ← skip rest
  let (most, rest) ←
    match rest with
    | '}' :: _ => some (some least, rest)
    | ',' :: rest => do
      let rest ← skip rest
      match number? rest with
      | some (most, rest) => some (some most, rest)
      | none => some (none, rest)
    | _ => none
  match ← skip rest with
  | '}' :: rest => some ((least, most), rest)
  | _ => none

def readBounds : Reader (Option (Nat × Option Nat)) := do
  match (← get).rest with
  | '?' :: rest => advance rest; pure (some (0, some 1))
  | '*' :: rest => advance rest; pure (some (0, none))
  | '+' :: rest => advance rest; pure (some (1, none))
  | '{' :: rest =>
    match bounds? (← get).options.ignoreSpace rest with
    | some (bounds, rest) => advance rest; pure (some bounds)
    | none => pure none
  | _ => pure none

def isNameChar (c : Char) : Bool := c == '_' || Unicode.isAlphabetic c || Unicode.isMajor 'N' c

def name? (closing : List Char) (rest : List Char) : Option (String × List Char) := do
  let name := rest.takeWhile isNameChar
  let rest ← Text.dropStart? closing (rest.drop name.length)
  if name = [] then none else some (String.ofList name, rest)

def readName (closing : List Char) : Reader String := do
  let (name, rest) ← name? closing (← get).rest
  advance rest
  pure name

/-- Only groups that were opened before can be referred to. -/
def refer (group : Nat) : Reader Pattern := do
  let state ← get
  if state.groups < group then failure
  set { state with referenced := group :: state.referenced }
  pure (.backreference group)

/-- A group by its number, less than half the length of the pattern. -/
def readNumbered : Reader Pattern := do
  let state ← get
  let (group, rest) ← number? state.rest
  if state.size / 2 ≤ group then failure
  set { state with rest, numbered := true }
  refer group

def readNamed (relative : Bool) (closing : List Char) : Reader Pattern := do
  let state ← get
  match name? closing state.rest with
  | some (name, rest) =>
    advance rest
    match state.names.lookup name with
    | some group => refer group
    | none =>
      match number? name.toList with
      | some (group, []) => refer group
      | _ => failure
  | none =>
    if !relative then failure
    expect ['-']
    let (back, rest) ← number? (← get).rest
    advance rest
    expect closing
    if back = 0 || state.groups < back then failure
    refer (state.groups + 1 - back)

def isHexDigit (c : Char) : Bool := c.isDigit || ('a' ≤ c && c ≤ 'f') || ('A' ≤ c && c ≤ 'F')

def hexDigit (c : Char) : Nat :=
  if c.isDigit then c.toNat - '0'.toNat else c.toLower.toNat - 'a'.toNat + 10

def readCodePoint (count : Nat) : Reader Char := do
  let rest := (← get).rest
  let digits ←
    if count ≤ rest.length && (rest.take count).all isHexDigit then
      advance (rest.drop count)
      pure (rest.take count)
    else
      expect ['{']
      let digits := (← get).rest.takeWhile isHexDigit
      if digits = [] || 8 < digits.length then failure
      advance ((← get).rest.drop digits.length)
      expect ['}']
      pure digits
  let code := digits.foldl (fun n c => 16 * n + hexDigit c) 0
  if Nat.isValidChar code then pure (Char.ofNat code) else failure

def property? (text : List Char) : Option (Unicode.Property × Bool) :=
  let ofValue (parts : List Char × List Char) : Option Unicode.Property :=
    Unicode.Property.ofValue? (Unicode.looseName parts.1) (Unicode.looseName parts.2)
  match Text.splitAt? ['!', '='] text with
  | some parts => (ofValue parts).map (·, true)
  | none =>
    match (Text.splitAt? [':'] text).orElse fun _ => Text.splitAt? ['='] text with
    | some parts => (ofValue parts).map (·, false)
    | none => (Unicode.Property.ofName? (Unicode.looseName text)).map (·, false)

def readProperty (negated : Bool) : Reader CharSet := do
  let first ← nextChar
  let text ←
    if first = '{' then do
      let rest := (← get).rest
      let text := rest.takeWhile (· != '}')
      advance (rest.drop text.length)
      expect ['}']
      pure text
    else pure [first]
  let (property, missing) ← property? text
  pure ((CharSet.property property).asked (← get).options.ignoreCase (negated != missing))

inductive Escape where
  | char (c : Char) (ignoreCase : Bool)
  | set (set : CharSet)
  | hexDigits (negated : Bool)
  | pattern (pattern : Pattern)

def controlOf? : Char → Option Char
  | 'a' => some '\x07'
  | 'b' => some '\x08'
  | 'f' => some '\x0c'
  | 'n' => some '\n'
  | 'r' => some '\r'
  | 't' => some '\t'
  | 'v' => some '\x0b'
  | 'e' => some '\x1b'
  | _ => none

def isOutsideOnly (c : Char) : Bool := c ∈ ['k', 'A', 'z', 'b', 'B', '<', '>', 'K', 'G']

def readBoundary (assertion : Assertion) : Reader Escape := do
  if (← get).rest.head? = some '{' then failure
  pure (.pattern (.assertion assertion))

def readOutside : Char → Reader Escape
  | 'k' => do
    if ← eat ['\''] then return .pattern (← readNamed true ['\''])
    expect ['<']
    return .pattern (← readNamed true ['>'])
  | 'A' => pure (.pattern (.assertion .textStart))
  | 'z' => pure (.pattern (.assertion .textEnd))
  | 'b' => readBoundary .wordBoundary
  | 'B' => readBoundary .noWordBoundary
  | '<' => pure (.pattern (.assertion .wordStart))
  | '>' => pure (.pattern (.assertion .wordEnd))
  -- What was matched so far is forgotten, which changes no answer.
  | 'K' => pure (.pattern (.atomic .empty))
  -- A search begins at the start of the text.
  | 'G' => pure (.pattern (.atomic (.assertion .textStart)))
  | _ => failure

def readEscape (inClass : Bool) : Reader Escape := do
  let escaped := (← get).rest
  let c ← nextChar
  let ignoreCase := (← get).options.ignoreCase
  if c.isDigit then do
    advance escaped
    return .pattern (← readNumbered)
  else if !inClass && isOutsideOnly c then readOutside c
  else if c = 'p' || c = 'P' then return .set (← readProperty (c == 'P'))
  else
    match c with
    | 'd' => pure (.set .digit)
    | 'D' => pure (.set (.complement .digit))
    | 's' => pure (.set .space)
    | 'S' => pure (.set (.complement .space))
    | 'w' => pure (.set .word)
    | 'W' => pure (.set (.complement .word))
    | 'h' => pure (.hexDigits false)
    | 'H' => pure (.hexDigits true)
    | 'x' => return .char (← readCodePoint 2) ignoreCase
    | 'u' => return .char (← readCodePoint 4) ignoreCase
    | 'U' => return .char (← readCodePoint 8) ignoreCase
    | _ =>
      match controlOf? c with
      | some control => pure (.char control false)
      | none => if c.isAlpha && !isOutsideOnly c then failure else pure (.char c false)

def hexDigitTokens (negated : Bool) : List ClassToken :=
  (if negated then "[^0-9A-Fa-f]" else "[0-9A-Fa-f]").toList.map .bare

/-- The tokens of a class to the bracket that closes as many as are open. -/
def readTokens : Nat → Nat → Reader (List ClassToken)
  | 0, _ => failure
  | length + 1, opened => do
    match ← nextChar with
    | '\\' =>
      let tokens ←
        match ← readEscape true with
        | .char c _ => pure [ClassToken.plain c]
        | .set set => pure [ClassToken.set set]
        | .hexDigits negated => pure (hexDigitTokens negated)
        | .pattern _ => failure
      return tokens ++ (← readTokens length opened)
    | '[' => return .bare '[' :: (← readTokens length (opened + 1))
    | ']' => if opened = 1 then pure [.bare ']'] else return .bare ']' :: (← readTokens length (opened - 1))
    | c => return .bare c :: (← readTokens length opened)

/-- A class behind its opening bracket. A closing bracket that comes first closes nothing. -/
def readClass : Reader Pattern := do
  let negation := if ← eat ['^'] then [ClassToken.bare '^'] else []
  let bracket := if ← eat [']'] then [ClassToken.bare ']'] else []
  let tokens ← readTokens (← get).rest.length 1
  let set ← CharSet.ofTokens? (← get).options.ignoreCase (negation ++ bracket ++ tokens)
  pure (.one set)

def isRepeatable : Pattern → Bool
  | .empty => false
  | .assertion _ => false
  | .look .. => false
  | _ => true

/-- An atom with its repetition, which a `+` behind it makes atomic. -/
def readPiece (atom : Reader Pattern) : Reader Pattern := do
  let part ← atom
  skip
  match ← readBounds with
  | none => pure part
  | some (least, most) =>
    if !isRepeatable part then failure
    skip
    let seldom ← eat ['?']
    let atomic ← eat ['+']
    let state ← get
    set { state with loops := state.loops + 1 }
    let greedy := seldom == state.options.seldomFirst
    let repeated := Pattern.repetition ⟨state.loops, least, most, greedy⟩ part
    pure (if atomic then .atomic repeated else repeated)

def isEmpty : Pattern → Bool
  | .empty => true
  | _ => false

def readPieces (piece : Reader Pattern) : Nat → Reader (List Pattern)
  | 0 => failure
  | length + 1 => do
    skip
    match (← get).rest with
    | [] => pure []
    | '|' :: _ => pure []
    | ')' :: _ => pure []
    | _ =>
      let part ← piece
      let parts ← readPieces piece length
      pure (if isEmpty part then parts else part :: parts)

def readSequence (piece : Reader Pattern) : Reader Pattern := do
  match ← readPieces piece ((← get).rest.length + 1) with
  | [] => pure .empty
  | [part] => pure part
  | parts => pure (.sequence parts)

def readOthers (piece : Reader Pattern) : Nat → Reader (List Pattern)
  | 0 => failure
  | length + 1 => do
    skip
    if ← eat ['|'] then return (← readSequence piece) :: (← readOthers piece length)
    else pure []

/-- Where a group is referred to by number, none may have a name; a choice is not looked at. -/
def readChoice (piece : Reader Pattern) : Reader Pattern := do
  let first ← readSequence piece
  match ← readOthers piece ((← get).rest.length + 1) with
  | [] =>
    let state ← get
    if state.numbered && !state.names.isEmpty then failure
    pure first
  | others => pure (.choice (first :: others))

def openGroup : Reader Nat := do
  let state ← get
  set { state with groups := state.groups + 1 }
  pure (state.groups + 1)

def setOption (value : Bool) (options : Options) : Char → Option Options
  | 'i' => some { options with ignoreCase := value }
  | 'm' => some { options with multiline := value }
  | 's' => some { options with dotAll := value }
  | 'U' => some { options with seldomFirst := value }
  | 'x' => some { options with ignoreSpace := value }
  | 'u' => if value then some options else none
  | _ => none

/-- Options for the rest of the group, or for a group of their own behind a colon. -/
def readOptions (inner : Reader Pattern) (outer : Options) : Nat → Bool → Bool → Reader Pattern
  | 0, _, _ => failure
  | length + 1, value, fresh => do
    skip
    match ← nextChar with
    | ')' => if fresh then failure else pure .empty
    | ':' =>
      if fresh && !value then failure
      let body ← inner
      expect [')']
      modify fun state => { state with options := outer }
      pure body
    | '-' => if value then readOptions inner outer length false true else failure
    | c =>
      let options ← setOption value (← get).options c
      modify fun state => { state with options }
      readOptions inner outer length value false

def readBody (inner : Reader Pattern) : Reader Pattern := do
  let body ← inner
  expect [')']
  pure body

def readNamedGroup (inner : Reader Pattern) (closing : List Char) : Reader Pattern := do
  let group ← openGroup
  let name ← readName closing
  modify fun state => { state with names := (name, group) :: state.names }
  return .group group (← readBody inner)

def readGroup (inner : Reader Pattern) : Reader Pattern := do
  skip
  if ← eat "?=".toList then return .look false false (← readBody inner)
  else if ← eat "?!".toList then return .look false true (← readBody inner)
  else if ← eat "?<=".toList then return .look true false (← readBody inner)
  else if ← eat "?<!".toList then return .look true true (← readBody inner)
  else if ← eat "?<".toList then readNamedGroup inner ['>']
  else if ← eat "?'".toList then readNamedGroup inner ['\'']
  else if ← eat "?P<".toList then readNamedGroup inner ['>']
  else if ← eat "?P=".toList then readNamed false [')']
  else if ← eat "?>".toList then return .atomic (← readBody inner)
  else if ← eat ['?'] then
    let state ← get
    readOptions inner state.options (state.rest.length + 1) true true
  else
    let group ← openGroup
    return .group group (← readBody inner)

/-- Where no atom stands there is nothing to match. -/
def readAtom (inner : Option (Reader Pattern)) : Reader Pattern := do
  let state ← get
  match state.rest with
  | [] => pure .empty
  | c :: rest =>
    let here (pattern : Pattern) : Reader Pattern := do
      advance rest
      pure pattern
    match c with
    | '.' => here (.one (if state.options.dotAll then .any else .inLine))
    | '^' => here (.assertion (if state.options.multiline then .lineStart else .textStart))
    | '$' => here (.assertion (if state.options.multiline then .lineEnd else .textEnd))
    | '(' =>
      advance rest
      match inner with
      | some inner => readGroup inner
      | none => failure
    | '[' => advance rest; readClass
    | '\\' =>
      advance rest
      match ← readEscape false with
      | .char c ignoreCase => pure (.one ((CharSet.char c).asked ignoreCase false))
      | .set set => pure (.one set)
      | .hexDigits negated =>
        pure (.one ((CharSet.ofRanges [('0', '9'), ('A', 'F'), ('a', 'f')]).asked false negated))
      | .pattern pattern => pure pattern
    | '+' => pure .empty
    | '*' => pure .empty
    | '?' => pure .empty
    | _ => here (.one ((CharSet.char c).asked state.options.ignoreCase false))

def readPattern : Nat → Reader Pattern
  | 0 => readChoice (readPiece (readAtom none))
  | depth + 1 => readChoice (readPiece (readAtom (some (readPattern depth))))

end PatternReader

def Pattern.ofText? (text : List Char) : Option (Pattern × List Nat) := do
  let start : Reading :=
    ⟨text, Text.byteLength text, {}, 0, [], [], false, 0⟩
  let (pattern, state) ← (PatternReader.readPattern 63).run start
  if state.rest = [] then some (pattern, state.referenced) else none

end SchemaExport.Regex
