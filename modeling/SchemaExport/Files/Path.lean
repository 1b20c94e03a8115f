/-! Paths as they are written.

A path is a text of segments between slashes. Empty segments and segments `.` lead nowhere: they
count only where they begin a path, as the root and as the current directory.
-/

set_option autoImplicit false

namespace SchemaExport.Files

def segments : List Char → List (List Char)
  | [] => [[]]
  | c :: rest =>
    if c = '/' then [] :: segments rest
    else
      match segments rest with
      | [] => [[c]]
      | segment :: others => (c :: segment) :: others

def joinSegments : List (List Char) → List Char
  | [] => []
  | [segment] => segment
  | segment :: rest => segment ++ '/' :: joinSegments rest

theorem segments_ne_nil (path : List Char) : segments path ≠ [] := by
  cases path with
  | nil => simp [segments]
  | cons c rest =>
    simp only [segments]
    split
    · simp
    · split <;> simp

theorem joinSegments_cons (segment : List Char) {rest : List (List Char)} (more : rest ≠ []) :
    joinSegments (segment :: rest) = segment ++ '/' :: joinSegments rest := by
  cases rest with
  | nil => exact absurd rfl more
  | cons other others => rfl

def isIdle (segment : List Char) : Bool := segment = [] || segment = ['.']

def dropIdleEnd : List (List Char) → List (List Char)
  | [] => []
  | first :: rest => first :: (rest.reverse.dropWhile isIdle).reverse

inductive Component where
  | root
  | current
  | parent
  | name (text : List Char)
  deriving DecidableEq, Repr

def componentOf? (segment : List Char) : Option Component :=
  if isIdle segment then none
  else if segment = ['.', '.'] then some .parent
  else some (.name segment)

def components (path : List Char) : List Component :=
  match segments path with
  | [] => []
  | first :: rest =>
    let others := rest.filterMap componentOf?
    if first = [] then if rest = [] then [] else .root :: others
    else if first = ['.'] then .current :: others
    else (componentOf? first).toList ++ others

/-- The path without its last component; none where there is none to drop. -/
def parent? (path : List Char) : Option (List Char) :=
  match dropIdleEnd (segments path) with
  | [] => none
  | [[]] => none
  | [_] => some []
  | kept =>
    match dropIdleEnd kept.dropLast with
    | [[]] => some ['/']
    | rest => some (joinSegments rest)

def isAbsolute (path : List Char) : Bool := path.head? = some '/'

def join (path name : List Char) : List Char :=
  if path = [] || path.getLast? = some '/' then path ++ name else path ++ '/' :: name

def Component.rank : Component → Nat
  | .root => 0
  | .current => 1
  | .parent => 2
  | .name _ => 3

def charsBefore : List Char → List Char → Bool
  | _, [] => false
  | [], _ :: _ => true
  | a :: left, b :: right => if a = b then charsBefore left right else a.toNat < b.toNat

def Component.before (left right : Component) : Bool :=
  match left, right with
  | .name left, .name right => charsBefore left right
  | left, right => left.rank < right.rank

/-- The order of paths: by their components, a path before those behind it. -/
def componentsBefore : List Component → List Component → Bool
  | _, [] => false
  | [], _ :: _ => true
  | a :: left, b :: right => if a = b then componentsBefore left right else a.before b

def notAfter (left right : List Char) : Bool := !componentsBefore (components right) (components left)

end SchemaExport.Files
