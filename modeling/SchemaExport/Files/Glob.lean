import SchemaExport.Files.Tree

/-! Paths by patterns.

Each segment of a pattern stands for one name: `?` for any character, `*` for any characters, brackets
for one of some characters or, behind `!`, for another one. A segment `**` stands for directories
at any depth. Matches come in the order of their components.
-/

set_option autoImplicit false

namespace SchemaExport.Files.Glob

abbrev CharRange := Char × Char

inductive Token where
  | char (c : Char)
  | anyChar
  | anyChars
  | anyDirectories
  | oneOf (ranges : List CharRange)
  | noneOf (ranges : List CharRange)
  deriving DecidableEq, Repr

inductive Defect where
  | range
  | wildcards
  | directories
  deriving DecidableEq, Repr

def Defect.message : Defect → String
  | .range => "invalid range pattern"
  | .wildcards => "wildcards are either regular \x60*\x60 or recursive \x60**\x60"
  | .directories => "recursive wildcards must form a single path component"

structure PatternFault where
  position : Nat
  defect : Defect
  deriving DecidableEq, Repr

inductive Fault where
  | pattern (fault : PatternFault)
  | directory (path : List Char) (fault : FileFault)
  deriving DecidableEq, Repr

def Fault.message : Fault → String
  | .pattern fault =>
    "Pattern syntax error near position " ++ toString fault.position ++ ": " ++ fault.defect.message
  | .directory path fault =>
    "attempting to read \x60" ++ String.ofList path ++ "\x60 resulted in an error: " ++ fault.message

def rangesOf : List Char → List CharRange
  | first :: '-' :: last :: rest => (first, last) :: rangesOf rest
  | c :: rest => (c, c) :: rangesOf rest
  | [] => []

/-- What stands before the first closing bracket, which may itself stand first. -/
def bracketed? : List Char → Option (List Char × List Char)
  | [] => none
  | first :: rest =>
    let inside := rest.takeWhile (· != ']')
    match rest.drop inside.length with
    | _ :: behind => some (first :: inside, behind)
    | [] => none

/-- Reads the tokens of a pattern that begins behind some characters; the last of them tells where a
segment begins. The length bounds the tokens. -/
def readTokens : Nat → Nat → Option Char → List Char → Except PatternFault (List Token)
  | 0, _, _, _ => .ok []
  | _, _, _, [] => .ok []
  | length + 1, position, before, c :: rest =>
    let next (count : Nat) (token : Token) (last : Char) (behind : List Char) : Except PatternFault (List Token) :=
      (readTokens length (position + count) (some last) behind).map (token :: ·)
    if c = '?' then next 1 .anyChar c rest
    else if c = '*' then
      let more := (rest.takeWhile (· == '*')).length
      let behind := rest.drop more
      if more = 0 then next 1 .anyChars c rest
      else if 1 < more then .error ⟨position + 2, .wildcards⟩
      else if before != none && before != some '/' then .error ⟨position - 1, .directories⟩
      else
        match behind with
        | [] => .ok [.anyDirectories]
        | '/' :: behind => next 3 .anyDirectories '/' behind
        | _ => .error ⟨position + 2, .directories⟩
    else if c = '[' then
      let (negated, inside) := match rest with
        | '!' :: inside => (true, inside)
        | inside => (false, inside)
      match bracketed? inside with
      | some (chars, behind) =>
        let count := chars.length + if negated then 3 else 2
        next count (if negated then .noneOf (rangesOf chars) else .oneOf (rangesOf chars)) ']' behind
      | none => .error ⟨position, .range⟩
    else next 1 (.char c) c rest

def tokens (pattern : List Char) : Except PatternFault (List Token) := readTokens pattern.length 0 none pattern

def isIn (ranges : List CharRange) (c : Char) : Bool := ranges.any fun (first, last) => first ≤ c && c ≤ last

def rests : List Char → List (List Char)
  | [] => [[]]
  | c :: rest => (c :: rest) :: rests rest

def fits : List Token → List Char → Bool
  | [], name => name.isEmpty
  | .anyChars :: pattern, name => (rests name).any fun rest => fits pattern rest
  | .anyDirectories :: pattern, name => (rests name).any fun rest => fits pattern rest
  | _ :: _, [] => false
  | .char expected :: pattern, c :: name => c = expected && fits pattern name
  | .anyChar :: pattern, _ :: name => fits pattern name
  | .oneOf ranges :: pattern, c :: name => isIn ranges c && fits pattern name
  | .noneOf ranges :: pattern, c :: name => !isIn ranges c && fits pattern name

def plain? (pattern : List Token) : Option (List Char) :=
  pattern.mapM fun token =>
    match token with
    | .char c => some c
    | _ => none

def isRecursive (pattern : List Token) : Bool := pattern == [.anyDirectories]

def child (directory name : List Char) : List Char :=
  if components directory = [.current] then name else join directory name

structure Found where
  path : List Char
  isDirectory : Bool

def found (tree : Tree) (path : List Char) : Found := ⟨path, tree.isDirectory path⟩

/-- What lies in a directory. What an entry is comes with its name, where a link has to be followed. -/
def listing (tree : Tree) (directory : List Char) : Except FileFault (List (List Char × Found)) :=
  match tree.locate directory, tree.names directory with
  | .ok place, .ok names => .ok (names.map fun name =>
      let inside := place ++ [name]
      let path := child directory name
      (name, if tree.isLink inside then found tree path else ⟨path, tree.entry? inside = some .directory⟩))
  | .error fault, _ => .error fault
  | _, .error fault => .error fault

/-- What fits the segments below a directory, in order, with the directories that cannot be listed.
The depth bounds the segments and the directories on the way. -/
def below (tree : Tree) : Nat → List (List Token) → Found → List (Except Fault Found)
  | 0, _, _ => []
  | _, [], reached => [.ok reached]
  | depth + 1, pattern :: rest, directory =>
    match plain? pattern with
    | some name =>
      let special := name = ['.'] || name = ['.', '.']
      let path := child directory.path name
      if if special then directory.isDirectory else tree.has path then below tree depth rest (found tree path) else []
    | none =>
      if !directory.isDirectory then []
      else
        match listing tree directory.path with
        | .error fault => [.error (.directory directory.path fault)]
        | .ok children =>
          if isRecursive pattern then
            children.flatMap fun (name, inside) =>
              let deeper := if inside.isDirectory then below tree depth (pattern :: rest) inside else []
              match rest.dropWhile isRecursive with
              | [] => if inside.isDirectory then .ok inside :: deeper else []
              | first :: others => (if fits first name then below tree depth others inside else []) ++ deeper
          else
            let specials :=
              if pattern.head? = some (.char '.') then [['.', '.'], ['.']].filter (fits pattern) else []
            let named := children.filter fun (name, _) => fits pattern name
            (specials.map (fun name => found tree (join directory.path name)) ++ named.map Prod.snd).flatMap
              (below tree depth rest)

def patternSegments (pattern : List Char) : List (List Char) :=
  let parts := segments pattern
  if parts.getLast? = some [] then parts.dropLast else parts

/-- The paths that fit a pattern, in order. A pattern that ends in a slash is for directories. -/
def paths (tree : Tree) (pattern : List Char) : Except Fault (List (List Char)) :=
  let (scope, relative) := if isAbsolute pattern then (['/'], pattern.drop 1) else (['.'], pattern)
  match tokens pattern with
  | .error fault => .error (.pattern fault)
  | .ok _ =>
    match (patternSegments relative).mapM tokens with
    | .error fault => .error (.pattern fault)
    | .ok parts =>
      -- A directory further down has a longer path, and a path beyond the limit cannot be listed.
      match (below tree (Tree.pathLimit + parts.length + 1) parts (found tree scope)).mapM id with
      | .error fault => .error fault
      | .ok all =>
        let fitting := if pattern.getLast? = some '/' then all.filter Found.isDirectory else all
        .ok ((fitting.map Found.path).mergeSort notAfter)

end SchemaExport.Files.Glob
