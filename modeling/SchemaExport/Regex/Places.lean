import SchemaExport.Regex.Pattern

/-! The places behind a simple pattern.

A place is the number of characters before it. From places in the order of preference a pattern
leads to places in the order of preference, each of them once: what is reached twice is kept where it
came first.
-/

set_option autoImplicit false

namespace SchemaExport.Regex

def wordAt (text : Array Char) (place : Nat) : Bool := (text[place]?.map Unicode.isWord).getD false

def wordBefore (text : Array Char) : Nat → Bool
  | 0 => false
  | place + 1 => wordAt text place

def Assertion.holds (text : Array Char) (place : Nat) : Assertion → Bool
  | .textStart => place = 0
  | .textEnd => place = text.size
  | .lineStart => place = 0 || text[place - 1]? == some '\n'
  | .lineEnd => place = text.size || text[place]? == some '\n'
  | .wordBoundary => wordBefore text place != wordAt text place
  | .noWordBoundary => wordBefore text place == wordAt text place
  | .wordStart => !wordBefore text place && wordAt text place
  | .wordEnd => wordBefore text place && !wordAt text place

namespace Places

def distinct (places : List Nat) : List Nat := places.eraseDups

/-- Where a loop stands: at a place before its next round, or at a place where it was left. -/
inductive Turn where
  | open (place : Nat)
  | left (place : Nat)
  deriving DecidableEq, Repr

def Turn.place : Turn → Nat
  | .open place => place
  | .left place => place

def Turn.isOpen : Turn → Bool
  | .open _ => true
  | .left _ => false

/-- One more round of a loop that may be left. With an end in sight a round may match nothing;
without one such a round leaves the loop. -/
def turn (body : Nat → List Nat) (bounded greedy : Bool) : Turn → List Turn
  | .left place => [.left place]
  | .open place =>
    let rounds := (body place).map fun next => if next = place && !bounded then .left next else .open next
    if greedy then rounds ++ [.left place] else .left place :: rounds

def turns (body : Nat → List Nat) (bounded greedy : Bool) : Nat → List Turn → List Turn
  | 0, reached => reached
  | rounds + 1, reached =>
    if reached.any Turn.isOpen then
      turns body bounded greedy rounds ((reached.flatMap (turn body bounded greedy)).eraseDups)
    else reached

def needed (body : Nat → List Nat) : Nat → List Nat → List Nat
  | 0, places => places
  | rounds + 1, places =>
    if places = [] then [] else needed body rounds (distinct (places.flatMap body))

def loop (text : Array Char) (loop : Loop) (body : Nat → List Nat) (places : List Nat) : List Nat :=
  let rounds := match loop.most with
    | some most => most - loop.least
    | none => text.size + 1
  let start := (needed body loop.least places).map Turn.open
  distinct ((turns body loop.most.isSome loop.greedy rounds start).map Turn.place)

end Places

mutual

/-- The places behind a pattern, from places before it. None behind a pattern that is not simple. -/
def Pattern.places (text : Array Char) : Pattern → List Nat → List Nat
  | .empty, places => places
  | .one set, places => places.filterMap fun place =>
      match text[place]? with
      | some c => if set.contains c then some (place + 1) else none
      | none => none
  | .assertion condition, places => places.filter fun place => condition.holds text place
  | .sequence parts, places => placesBehindAll text parts places
  | .choice parts, places => Places.distinct (places.flatMap fun place => placesBehindAny text parts [place])
  | .group _ body, places => body.places text places
  | .repetition loop body, places => Places.loop text loop (fun place => body.places text [place]) places
  | .settled body, places => body.places text places
  | _, _ => []

def placesBehindAll (text : Array Char) : List Pattern → List Nat → List Nat
  | [], places => places
  | part :: parts, places => placesBehindAll text parts (part.places text places)

def placesBehindAny (text : Array Char) : List Pattern → List Nat → List Nat
  | [], _ => []
  | part :: parts, places => part.places text places ++ placesBehindAny text parts places

end

end SchemaExport.Regex
