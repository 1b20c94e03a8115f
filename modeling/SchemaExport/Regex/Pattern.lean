import SchemaExport.Regex.CharSet

/-! Patterns, and how they are prepared for a search.

A part is simple when the places behind it depend only on the place before it. Everything else, such
as looking around and back-references, needs a search that goes back. Preparing settles the
simple parts that such a search never enters again: of those it takes the first way only.
-/

set_option autoImplicit false

-- Powers are those of the numbers themselves, also where a library has powers of any monoid.
attribute [default_instance 20000, instance (20000)] instPowNat

namespace SchemaExport.Regex

inductive Assertion where
  | textStart
  | textEnd
  | lineStart
  | lineEnd
  | wordBoundary
  | noWordBoundary
  | wordStart
  | wordEnd
  deriving DecidableEq, Repr

/-- On words an assertion needs a search that goes back. -/
def Assertion.isSimple : Assertion → Bool
  | .textStart => true
  | .textEnd => true
  | .lineStart => true
  | .lineEnd => true
  | _ => false

/-- How often a part is repeated, as often as it can or as seldom. Each loop of a pattern has its own
number. -/
structure Loop where
  number : Nat
  least : Nat
  most : Option Nat
  greedy : Bool
  deriving DecidableEq, Repr

inductive Pattern where
  | empty
  | one (set : CharSet)
  | assertion (condition : Assertion)
  | sequence (parts : List Pattern)
  | choice (parts : List Pattern)
  | group (number : Nat) (body : Pattern)
  | repetition (loop : Loop) (body : Pattern)
  | look (behind negated : Bool) (body : Pattern)
  | atomic (body : Pattern)
  | backreference (number : Nat)
  | settled (body : Pattern)

namespace Pattern

mutual

def leastSize : Pattern → Nat
  | .one _ => 1
  | .sequence parts => sumOfSizes parts
  | .choice parts => leastOfSizes parts
  | .group _ body => body.leastSize
  | .repetition loop body => body.leastSize * loop.least
  | .atomic body => body.leastSize
  | .settled body => body.leastSize
  | _ => 0

def sumOfSizes : List Pattern → Nat
  | [] => 0
  | part :: parts => part.leastSize + sumOfSizes parts

def leastOfSizes : List Pattern → Nat
  | [] => 0
  | [part] => part.leastSize
  | part :: parts => min part.leastSize (leastOfSizes parts)

end

mutual

def hasFixedSize : Pattern → Bool
  | .sequence parts => haveFixedSize parts
  | .choice parts => haveFixedSize parts && parts.all fun part => part.leastSize == leastOfSizes parts
  | .group _ body => body.hasFixedSize
  | .repetition loop body => body.hasFixedSize && loop.most == some loop.least
  | .atomic body => body.hasFixedSize
  | .settled body => body.hasFixedSize
  | .backreference _ => false
  | _ => true

def haveFixedSize : List Pattern → Bool
  | [] => true
  | part :: parts => part.hasFixedSize && haveFixedSize parts

end

mutual

/-- A group that is referred to is not simple, as its other matches count. -/
def isSimple (referenced : List Nat) : Pattern → Bool
  | .assertion condition => condition.isSimple
  | .sequence parts => areSimple referenced parts
  | .choice parts => areSimple referenced parts
  | .group number body => body.isSimple referenced && number ∉ referenced
  | .repetition _ body => body.isSimple referenced
  | .look .. => false
  | .atomic _ => false
  | .backreference _ => false
  | _ => true

def areSimple (referenced : List Nat) : List Pattern → Bool
  | [] => true
  | part :: parts => part.isSimple referenced && areSimple referenced parts

end

mutual

def hasProperLoops : Pattern → Bool
  | .sequence parts => haveProperLoops parts
  | .choice parts => haveProperLoops parts
  | .group _ body => body.hasProperLoops
  | .repetition loop body =>
    body.hasProperLoops && loop.least < 2 ^ 32 &&
      (match loop.most with
        | some most => loop.least ≤ most && most < 2 ^ 32
        | none => true)
  | .look _ _ body => body.hasProperLoops
  | .atomic body => body.hasProperLoops
  | .settled body => body.hasProperLoops
  | _ => true

def haveProperLoops : List Pattern → Bool
  | [] => true
  | part :: parts => part.hasProperLoops && haveProperLoops parts

end

def settle? (part : Pattern) : Option Pattern :=
  if part.hasProperLoops then some (.settled part) else none

/-- The parts before and behind those that the search enters are settled together. At the front they
have a fixed size; behind they have one too, unless the sequence itself is not entered again. -/
def settleEnds? (referenced : List Nat) (entered : Bool) (parts : List (Pattern × Option Pattern)) :
    Option Pattern := do
  let isFixed (part : Pattern × Option Pattern) : Bool := part.1.hasFixedSize && part.1.isSimple referenced
  let isBehind (part : Pattern × Option Pattern) : Bool :=
    part.1.isSimple referenced && (!entered || part.1.hasFixedSize)
  let front := parts.takeWhile isFixed
  let rest := parts.drop front.length
  let behind := (rest.reverse.takeWhile isBehind).reverse
  let middle ← (rest.take (rest.length - behind.length)).mapM Prod.snd
  let front ← if front = [] then some [] else (settle? (.sequence (front.map Prod.fst))).map ([·])
  let behind ← if behind = [] then some [] else (settle? (.sequence (behind.map Prod.fst))).map ([·])
  some (.sequence (front ++ middle ++ behind))

def lookBehind? (negated : Bool) (body : Pattern × Option Pattern) : Option Pattern :=
  if body.1.hasFixedSize then body.2.map (.look true negated) else none

mutual

/-- Prepares a part that the search may enter again, or one that it leaves for good. None when a loop
cannot be settled or the size of a body to look behind for is not fixed; of a choice each part is
looked for by itself. -/
def prepare? (referenced : List Nat) (entered : Bool) (part : Pattern) : Option Pattern :=
  if !entered && part.isSimple referenced then part.settle?
  else
    match part with
    | .sequence parts => settleEnds? referenced entered (prepareAll referenced true parts)
    | .choice parts => ((prepareAll referenced entered parts).mapM Prod.snd).map .choice
    | .group number body => (body.prepare? referenced entered).map (.group number)
    | .repetition loop body =>
      let entered := entered || loop.least != 0 || loop.most != some 1
      (body.prepare? referenced entered).map (.repetition loop)
    | .look true negated (.choice parts) =>
      ((prepareAll referenced false parts).mapM (lookBehind? negated)).map
        (if negated then .sequence else .choice)
    | .look true negated body => lookBehind? negated (body, body.prepare? referenced false)
    | .look false negated body => (body.prepare? referenced false).map (.look false negated)
    | .atomic body => (body.prepare? referenced false).map .atomic
    | part => some part

def prepareAll (referenced : List Nat) (entered : Bool) : List Pattern → List (Pattern × Option Pattern)
  | [] => []
  | part :: parts => (part, part.prepare? referenced entered) :: prepareAll referenced entered parts

end

end Pattern
end SchemaExport.Regex
