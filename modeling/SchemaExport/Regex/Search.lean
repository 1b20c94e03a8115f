import SchemaExport.Regex.Literal
import SchemaExport.Regex.PatternReader
import SchemaExport.Regex.Places

/-! Searching texts.

A simple pattern is searched for from all places at once. Any other is followed step by step: where
there is a choice the search goes the first way and keeps the others, and when it cannot go on it
retreats to the last one kept. After a million retreats it gives up.
-/

set_option autoImplicit false

namespace SchemaExport.Regex

namespace Search

inductive Task where
  | follow (pattern : Pattern)
  | close (group : Nat)
  | round (loop : Loop) (body : Pattern) (count : Nat)
  | goTo (place : Nat)
  | keepOnly (height : Nat)
  | refuse (height : Nat)

/-- A way through the pattern: its place, the ends of its groups, where its endless loops began
their last free round, and what it has to do. A loop's mark stays when the loop is left. -/
structure Way where
  place : Nat
  groups : List (Nat × Nat × Option Nat)
  marks : List (Nat × Nat)
  todo : List Task

/-- The way taken, the ways kept with their number, and the retreats so far. -/
structure State where
  way : Way
  kept : List Way
  height : Nat
  retreats : Nat

inductive Verdict where
  | found
  | absent
  | givenUp
  deriving DecidableEq, Repr

def retreatLimit : Nat := 1000000

def keptLimit : Nat := 1000000

def State.retreat (state : State) : Except Verdict State :=
  match state.kept with
  | [] => .error .absent
  | way :: kept =>
    if retreatLimit ≤ state.retreats then .error .givenUp
    else .ok ⟨way, kept, state.height - 1, state.retreats + 1⟩

def State.fork (state : State) (taken kept : Way) : Except Verdict State :=
  if keptLimit ≤ state.height then .error .givenUp
  else .ok { state with way := taken, kept := kept :: state.kept, height := state.height + 1 }

def State.dropTo (state : State) (height : Nat) : State :=
  { state with kept := state.kept.drop (state.height - height), height := min height state.height }

def State.go (state : State) (place : Nat) (todo : List Task) : Except Verdict State :=
  .ok { state with way := { state.way with place, todo } }

def setMark (number place : Nat) : List (Nat × Nat) → List (Nat × Nat)
  | [] => [(number, place)]
  | (other, old) :: rest =>
    if other = number then (number, place) :: rest else (other, old) :: setMark number place rest

def setGroup (number start : Nat) (stop : Option Nat) :
    List (Nat × Nat × Option Nat) → List (Nat × Nat × Option Nat)
  | [] => [(number, start, stop)]
  | (other, bounds) :: rest =>
    if other = number then (number, start, stop) :: rest else (other, bounds) :: setGroup number start stop rest

/-- Before a round: the loop has enough rounds, or it needs one, or it may be left. A loop without end
whose body can be empty makes no free round where it made its last one. -/
def atRound (state : State) (loop : Loop) (body : Pattern) (count : Nat) (rest : List Task) :
    Except Verdict State :=
  let way := state.way
  let guarded := loop.most.isNone && body.leastSize == 0
  let again (way : Way) : Way := { way with todo := .follow body :: .round loop body (count + 1) :: rest }
  if loop.most = some count then state.go way.place rest
  else if guarded && count != 0 && way.marks.lookup loop.number == some way.place then state.retreat
  else if count < loop.least then .ok { state with way := again way }
  else
    let way := if guarded then { way with marks := setMark loop.number way.place way.marks } else way
    let leave := { way with todo := rest }
    if loop.greedy then state.fork (again way) leave else state.fork leave (again way)

def behindSame (text : Array Char) : Nat → Nat → Nat → Option Nat
  | 0, _, place => some place
  | size + 1, source, place =>
    match text[source]?, text[place]? with
    | some left, some right => if left = right then behindSame text size (source + 1) (place + 1) else none
    | _, _ => none

def follow (text : Array Char) (state : State) (rest : List Task) : Pattern → Except Verdict State
  | .empty => state.go state.way.place rest
  | .one set =>
    match text[state.way.place]? with
    | some c => if set.contains c then state.go (state.way.place + 1) rest else state.retreat
    | none => state.retreat
  | .assertion condition => if condition.holds text state.way.place then state.go state.way.place rest else state.retreat
  | .sequence parts => state.go state.way.place (parts.map .follow ++ rest)
  | .choice [] => state.retreat
  | .choice [part] => state.go state.way.place (.follow part :: rest)
  | .choice (part :: parts) =>
    state.fork { state.way with todo := .follow part :: rest } { state.way with todo := .follow (.choice parts) :: rest }
  | .group number body =>
    let stop := (state.way.groups.lookup number).bind Prod.snd
    let groups := setGroup number state.way.place stop state.way.groups
    .ok { state with way := { state.way with groups, todo := .follow body :: .close number :: rest } }
  | .repetition loop body => atRound state loop body 0 rest
  | .look false false body => state.go state.way.place (.follow body :: .goTo state.way.place :: rest)
  | .look true false body =>
    if state.way.place < body.leastSize then state.retreat
    else state.go (state.way.place - body.leastSize) (.follow body :: .goTo state.way.place :: rest)
  | .look behind true body =>
    let back := if behind then body.leastSize else 0
    let passed := { state.way with todo := rest }
    if state.way.place < back then .ok { state with way := passed }
    else
      let tried := { state.way with place := state.way.place - back, todo := [.follow body, .refuse state.height] }
      state.fork tried passed
  | .atomic body => state.go state.way.place (.follow body :: .keepOnly state.height :: rest)
  | .backreference number =>
    match state.way.groups.lookup number with
    | some (start, some stop) =>
      match behindSame text (stop - start) start state.way.place with
      | some place => state.go place rest
      | none => state.retreat
    | _ => state.retreat
  | .settled body =>
    match body.places text [state.way.place] with
    | place :: _ => state.go place rest
    | [] => state.retreat

def step (text : Array Char) (state : State) : Except Verdict State :=
  match state.way.todo with
  | [] => .error .found
  | .follow pattern :: rest => follow text state rest pattern
  | .close number :: rest =>
    let way := state.way
    let groups := match way.groups.lookup number with
      | some (start, _) => setGroup number start (some way.place) way.groups
      | none => way.groups
    .ok { state with way := { way with groups, todo := rest } }
  | .round loop body count :: rest => atRound state loop body count rest
  | .goTo place :: rest => state.go place rest
  | .keepOnly height :: rest => (state.dropTo height).go state.way.place rest
  | .refuse height :: _ => (state.dropTo height).retreat

def run (text : Array Char) : Nat → State → Verdict
  | 0, _ => .givenUp
  | steps + 1, state =>
    match step text state with
    | .ok state => run text steps state
    | .error verdict => verdict

def anywhere (pattern : Pattern) : Pattern :=
  .sequence [.repetition ⟨0, 0, none, false⟩ (.one .any), pattern]

def stepLimit : Nat := 2 ^ 40

def start (pattern : Pattern) : State := ⟨⟨0, [], [], [.follow (anywhere pattern)]⟩, [], 0, 0⟩

end Search

/-- Whether a pattern is found in a text; none when it cannot be prepared or the search is given up. -/
def Pattern.isIn? (pattern : Pattern) (referenced : List Nat) (text : Array Char) : Option Bool :=
  if pattern.isSimple referenced then
    if pattern.hasProperLoops then some (pattern.places text (List.range (text.size + 1)) != []) else none
  else
    match pattern.prepare? referenced true with
    | none => none
    | some prepared =>
      match Search.run text Search.stepLimit (Search.start prepared) with
      | .found => some true
      | .absent => some false
      | .givenUp => none

/-- Whether a literal matches somewhere in a text; none when its source is no pattern or the search is
given up. -/
def Literal.matches? (literal : Literal) (text : List Char) : Option Bool :=
  (Pattern.ofText? literal.pattern).bind fun (pattern, referenced) => pattern.isIn? referenced text.toArray

end SchemaExport.Regex
