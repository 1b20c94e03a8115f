import SchemaExport.Program

/-! The program on the files of its machine.

What the paths of a command line lead to is read before the run, and what the run changed is written
behind it.
-/

set_option autoImplicit false

namespace SchemaExport.Program

def namedPaths (invocation : Command.Invocation) : List String :=
  match invocation.action with
  | .check inputs => inputs
  | .export settings => settings.inputs ++ settings.headerFile.toList ++ settings.out.toList

def faultOf : IO.Error → FileFault
  | .noFileOrDirectory .. => .missing
  | .permissionDenied .. => .denied
  | error => .other (toString error)

def placeOf (path : String) : Files.Place := (Files.segments path.toList).filter (· ≠ [])

def onDisk (place : Files.Place) : IO.FS.DirEntry := ⟨"/", String.ofList (Files.joinSegments place)⟩

def refuse (tree : Files.Tree) (access : Files.Access) (place : Files.Place) (fault : FileFault) : Files.Tree :=
  { tree with refuses := fun asked there =>
      if asked = access && there = place then some fault else tree.refuses asked there }

def contentOf (bytes : ByteArray) : Files.Content :=
  match String.fromUTF8? bytes with
  | some text => .text text.toList
  | none => .binary bytes.toList

/-- Adds what stands at a place. A link is kept with the place that it leads to in the end. -/
def addEntry (tree : Files.Tree) (place : Files.Place) : IO Files.Tree := do
  let path := (onDisk place).path
  match ← path.symlinkMetadata.toBaseIO with
  | .error _ => return tree
  | .ok data =>
    match data.type with
    | .dir => return tree.put place .directory
    | .symlink =>
      match ← (IO.FS.realPath path).toBaseIO with
      | .ok target => return tree.put place (.link target.toString.toList)
      | .error _ => return tree
    | _ =>
      match ← (IO.FS.readBinFile path).toBaseIO with
      | .ok bytes => return tree.put place (.file (contentOf bytes))
      | .error error => return refuse (tree.put place (.file (.text []))) .read place (faultOf error)

def addWay (tree : Files.Tree) (place : Files.Place) : IO Files.Tree :=
  (Files.Tree.ancestors place ++ [place]).foldlM addEntry tree

def addStep (state : Files.Tree × Files.Place) (segment : List Char) : IO (Files.Tree × Files.Place) := do
  let (tree, place) := state
  if Files.isIdle segment then return state
  if segment = ['.', '.'] then return (tree, place.dropLast)
  let next := place ++ [segment]
  let tree ← addEntry tree next
  match ← (IO.FS.realPath (onDisk next).path).toBaseIO with
  | .ok real =>
    let there := placeOf real.toString
    return (← addWay tree there, there)
  | .error _ => return (tree, next)

partial def addBelow (tree : Files.Tree) (place : Files.Place) : IO Files.Tree := do
  match ← (onDisk place).path.readDir.toBaseIO with
  | .error error => return refuse tree .list place (faultOf error)
  | .ok entries =>
    entries.foldlM (fun tree child => do
      let inside := place ++ [child.fileName.toList]
      let known := fun (other : Files.Place) => (tree.entry? other).isSome
      let (after, there) ← addStep (tree, place) child.fileName.toList
      if after.entry? there = some .directory && (inside = there || !known there) then addBelow after there
      else return after) tree

/-- Adds what a path leads to, or what a pattern may fit: all that is below its plain beginning. -/
def addNamed (tree : Files.Tree) (path : String) : IO Files.Tree := do
  let parts := Files.segments path.toList
  let plain := parts.takeWhile fun part => !Command.hasPatternSign (String.ofList part)
  let (tree, place) ← plain.foldlM addStep (tree, Files.Tree.startOf tree.current path.toList)
  if plain.length < parts.length && tree.entry? place = some .directory then addBelow tree place else return tree

def load (invocation : Command.Invocation) : IO Files.Tree := do
  let current := placeOf (← IO.currentDir).toString
  (namedPaths invocation).foldlM addNamed (Files.Tree.bare current)

/-- Makes the changes of a run, up to the first that the system refuses. -/
def applyChanges (before after : Files.Tree) : IO (Option (Files.Access × Files.Place × FileFault)) := do
  for (place, entry) in after.entries.entries do
    if entry = .directory && (before.entry? place).isNone then
      if let .error error ← (IO.FS.createDir (onDisk place).path).toBaseIO then
        return some (.add, place.dropLast, faultOf error)
  for (place, content) in Files.Tree.changes before after do
    let path := (onDisk place).path
    let written ← match content with
      | .text chars => (IO.FS.writeFile path (String.ofList chars)).toBaseIO
      | .binary bytes => (IO.FS.writeBinFile path ⟨bytes.toArray⟩).toBaseIO
    if let .error error := written then return some (.write, place, faultOf error)
  return none

def tell : Message → IO Unit
  | .line text => IO.eprintln text
  | .event event => IO.eprintln event.text

def usage : String :=
  "Usage: zod-clone [-q | -v] export -i INPUT... [--prefix TEXT | --prefix-file FILE] [-o FILE] [--no-op]\n" ++
  "       zod-clone [-q | -v] check -i INPUT..."

def tellUsage (fault : Command.UsageFault) : IO Unit :=
  if fault = .help then IO.println usage else IO.eprintln usage

/-- Runs a command. A change that the system refuses is known by then, and the run is that of a tree
that refuses it. -/
def perform (invocation : Command.Invocation) : IO UInt32 := do
  let log ← IO.getEnv "ZOD_CLONE_LOG"
  let tree ← load invocation
  let planned := run log invocation tree
  let done := match ← applyChanges tree planned.tree with
    | none => planned
    | some (access, place, fault) => run log invocation (refuse tree access place fault)
  done.messages.forM tell
  IO.print (String.ofList done.output)
  return done.code.toUInt32

end SchemaExport.Program

open SchemaExport in
def main (words : List String) : IO UInt32 := do
  match Command.Invocation.ofWords words with
  | .error fault =>
    Program.tellUsage fault
    return fault.exitCode.toUInt32
  | .ok invocation => Program.perform invocation
