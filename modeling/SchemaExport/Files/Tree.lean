import SchemaExport.Files.Fault
import SchemaExport.Files.Path
import SchemaExport.Record
import SchemaExport.Text.Offset

/-! A tree of files, as a program finds it.

Every entry has its place, the names on the way to it from the root. A path is followed name by name,
from the root if it is absolute and from the current directory if it is not, over links to where they
lead; each name but the last has to be that of a directory. Above the root is the root. A file has one
place, and only links lead to it from elsewhere.

What a program may do at a place is not written into the entries: `refuses` stands for rights, for
media that are full or can only be read, and for whatever else the system says no to.
-/

set_option autoImplicit false

namespace SchemaExport.Files

inductive Content where
  | text (chars : List Char)
  | binary (bytes : List UInt8)
  deriving DecidableEq

inductive Entry where
  | file (content : Content)
  | directory
  | link (target : List Char)
  deriving DecidableEq

abbrev Place := List (List Char)

/-- What a program does at a place: it goes through a directory, lists it or adds an entry to it, or it
reads or writes a file. -/
inductive Access where
  | search
  | list
  | add
  | read
  | write
  deriving DecidableEq, Repr

structure Tree where
  entries : Record Entry Place
  current : Place
  refuses : Access → Place → Option FileFault

namespace Tree

def entry? (tree : Tree) (place : Place) : Option Entry :=
  if place = [] then some .directory else tree.entries.get? place

def put (tree : Tree) (place : Place) (entry : Entry) : Tree :=
  { tree with entries := tree.entries.insert place entry }

def ancestors (place : Place) : List Place :=
  (List.range place.length).tail.map fun count => place.take count

def plant (tree : Tree) (place : Place) (entry : Entry) : Tree :=
  ((ancestors place).foldl (fun tree ancestor =>
    if (tree.entry? ancestor).isSome then tree else tree.put ancestor .directory) tree).put place entry

def bare (current : Place) : Tree :=
  plant ⟨.empty, current, fun _ _ => none⟩ current .directory

/-- What an operation gives unless the system refuses the access that it takes. -/
def permit {α : Type} (tree : Tree) (access : Access) (place : Place) (result : Except FileFault α) :
    Except FileFault α :=
  match tree.refuses access place with
  | some fault => .error fault
  | none => result

def nameLimit : Nat := 255

def pathLimit : Nat := 4096

def linkLimit : Nat := 40

/-! ## Following a path -/

def startOf (directory : Place) (path : List Char) : Place := if isAbsolute path then [] else directory

/-- A segment can be looked up where there is a directory that may be searched. What is behind a
slash at the end is not looked up. -/
def enter (tree : Tree) (place : Place) (segment : List Char) : Except FileFault Unit :=
  match tree.entry? place with
  | some .directory => if segment = [] then .ok () else tree.permit .search place (.ok ())
  | some _ => .error .notDirectory
  | none => .error .missing

/-- Where a path leads: to a place that it does not name, or to a name in a directory, where nothing
has to be, with slashes behind it or not. -/
inductive Reached where
  | there (place : Place)
  | child (directory : Place) (name : List Char) (slash : Bool)

/-- What comes of one segment: the next place, the segments of a link and where they start, or the end. -/
inductive Move where
  | on (place : Place)
  | jump (start : Place) (segments : List (List Char))
  | stop (reached : Reached)

def isLink (tree : Tree) (place : Place) : Bool :=
  match tree.entry? place with
  | some (.link _) => true
  | _ => false

/-- A name ends a path unless it is a link that is followed too. -/
def isLast (tree : Tree) (final : Bool) (place : Place) (rest : List (List Char)) : Bool :=
  rest.all (· = []) && !(final && tree.isLink place)

/-- A name on the way is that of a link or of an entry to go on from. -/
def lookUp (tree : Tree) (place : Place) (name : List Char) : Except FileFault Move :=
  if nameLimit < Text.byteLength name then .error .nameTooLong
  else
    match tree.entry? (place ++ [name]) with
    | none => .error .missing
    | some (.link target) => .ok (.jump (startOf place target) (segments target))
    | some _ => .ok (.on (place ++ [name]))

def step (tree : Tree) (final : Bool) (place : Place) (segment : List Char) (rest : List (List Char)) :
    Except FileFault Move :=
  match tree.enter place segment with
  | .error fault => .error fault
  | .ok _ =>
    if isIdle segment then .ok (.on place)
    else if segment = ['.', '.'] then .ok (.on place.dropLast)
    else if tree.isLast final (place ++ [segment]) rest then .ok (.stop (.child place segment (rest != [])))
    else tree.lookUp place segment

/-- Follows segments from a place, and the first link on the way as it is told to. -/
def reachOver (tree : Tree) (final : Bool) (follow : Place → List (List Char) → Except FileFault Reached) :
    Place → List (List Char) → Except FileFault Reached
  | place, [] => .ok (.there place)
  | place, segment :: rest =>
    match tree.step final place segment rest with
    | .error fault => .error fault
    | .ok (.on next) => reachOver tree final follow next rest
    | .ok (.jump start more) => follow start (more ++ rest)
    | .ok (.stop reached) => .ok reached

/-- Follows segments from a place over so many links at most; the last name is followed too, or left as
it is. -/
def reach (tree : Tree) (final : Bool) : Nat → Place → List (List Char) → Except FileFault Reached
  | 0 => reachOver tree final fun _ _ => .error .tooManyLinks
  | links + 1 => reachOver tree final (reach tree final links)

def checkPath (path : List Char) : Except FileFault Unit :=
  if '\x00' ∈ path then .error .invalidName
  else if path = [] then .error .missing
  else if pathLimit ≤ Text.byteLength path then .error .nameTooLong
  else .ok ()

def reachPath (tree : Tree) (final : Bool) (path : List Char) : Except FileFault Reached :=
  match checkPath path with
  | .ok _ => tree.reach final linkLimit (startOf tree.current path) (segments path)
  | .error fault => .error fault

def settle (tree : Tree) : Reached → Except FileFault Place
  | .there place => .ok place
  | .child directory name slash =>
    if nameLimit < Text.byteLength name then .error .nameTooLong
    else
      match tree.entry? (directory ++ [name]) with
      | none => .error .missing
      | some entry => if slash && entry ≠ .directory then .error .notDirectory else .ok (directory ++ [name])

def find (tree : Tree) (place : Place) (segments : List (List Char)) : Except FileFault Place :=
  match tree.reach true linkLimit place segments with
  | .ok reached => tree.settle reached
  | .error fault => .error fault

def locate (tree : Tree) (path : List Char) : Except FileFault Place :=
  match tree.reachPath true path with
  | .ok reached => tree.settle reached
  | .error fault => .error fault

/-- The place of a link itself, where the path ends in one. -/
def locateLink (tree : Tree) (path : List Char) : Except FileFault Place :=
  match tree.reachPath false path with
  | .ok reached => tree.settle reached
  | .error fault => .error fault

/-- Something is there, be it a link that leads nowhere. -/
def has (tree : Tree) (path : List Char) : Bool := (tree.locate path).isOk || (tree.locateLink path).isOk

def isDirectory (tree : Tree) (path : List Char) : Bool :=
  match tree.locate path with
  | .ok place => tree.entry? place = some .directory
  | .error _ => false

/-! ## Reading -/

def read (tree : Tree) (path : List Char) : Except FileFault (List Char) :=
  match tree.locate path with
  | .error fault => .error fault
  | .ok place =>
    tree.permit .read place
      (match tree.entry? place with
        | some (.file (.text chars)) => .ok chars
        | some (.file (.binary _)) => .error .notText
        | some .directory => .error .isDirectory
        | _ => .error .missing)

def namesAt (tree : Tree) (place : Place) : List (List Char) :=
  tree.entries.entries.filterMap fun (other, _) =>
    match other.getLast? with
    | some name => if other.dropLast = place then some name else none
    | none => none

def names (tree : Tree) (path : List Char) : Except FileFault (List (List Char)) :=
  match tree.locate path with
  | .error fault => .error fault
  | .ok place =>
    if tree.entry? place = some .directory then
      tree.permit .list place (.ok ((tree.namesAt place).mergeSort fun left right => !charsBefore right left))
    else .error .notDirectory

/-! ## Writing -/

def write (tree : Tree) (path content : List Char) : Except FileFault Tree :=
  match tree.reachPath true path with
  | .error fault => .error fault
  | .ok (.there _) => .error .isDirectory
  | .ok (.child directory name slash) =>
    let place := directory ++ [name]
    let written := tree.permit .write place (.ok (tree.put place (.file (.text content))))
    if slash then .error .isDirectory
    else if nameLimit < Text.byteLength name then .error .nameTooLong
    else
      match tree.entry? place with
      | some .directory => .error .isDirectory
      | some _ => written
      | none => tree.permit .add directory written

def makeDirectory (tree : Tree) (path : List Char) : Except FileFault Tree :=
  match tree.reachPath false path with
  | .error fault => .error fault
  | .ok (.there _) => .error .alreadyExists
  | .ok (.child directory name _) =>
    if nameLimit < Text.byteLength name then .error .nameTooLong
    else if (tree.entry? (directory ++ [name])).isSome then .error .alreadyExists
    else tree.permit .add directory (.ok (tree.put (directory ++ [name]) .directory))

/-- The tree with all directories of a path, and why one could not be made. Those made before it stay.
The length of the path bounds the ancestors. -/
def makeDirectories : Nat → Tree → List Char → Tree × Option FileFault
  | 0, tree, _ => (tree, some .missing)
  | length + 1, tree, path =>
    if path = [] then (tree, none)
    else
      match tree.makeDirectory path with
      | .ok tree => (tree, none)
      | .error .missing =>
        match makeDirectories length tree ((parent? path).getD []) with
        | (tree, some fault) => (tree, some fault)
        | (tree, none) =>
          match tree.makeDirectory path with
          | .ok tree => (tree, none)
          | .error fault => (tree, if tree.isDirectory path then none else some fault)
      | .error fault => (tree, if tree.isDirectory path then none else some fault)

def changes (before after : Tree) : List (Place × Content) :=
  after.entries.entries.filterMap fun (place, entry) =>
    match entry with
    | .file content => if before.entry? place = some entry then none else some (place, content)
    | _ => none

end Tree
end SchemaExport.Files
