import SchemaExport.Regex.CharSet

/-! Bracketed classes of a pattern.

A class is a union of characters, ranges, sets and classes, between which `&&`, `--` and `~~` take
the intersection, the difference and the symmetric difference from left to right.
-/

set_option autoImplicit false

namespace SchemaExport.Regex

/-- What stands in a class: a character that may have a meaning there, one that has none, or a set. -/
inductive ClassToken where
  | bare (c : Char)
  | plain (c : Char)
  | set (set : CharSet)
  deriving DecidableEq, Repr

namespace CharClass

inductive Operator where
  | intersection
  | difference
  | symmetricDifference
  deriving DecidableEq, Repr

def Operator.apply : Operator → CharSet → CharSet → CharSet
  | .intersection, left, right => .both left right
  | .difference, left, right => left.without right
  | .symmetricDifference, left, right => left.apart right

def combine (ignoreCase : Bool) (pending : Option (Operator × CharSet)) (set : CharSet) : CharSet :=
  match pending with
  | none => set
  | some (operator, left) => operator.apply (left.asked ignoreCase false) (set.asked ignoreCase false)

def operator? : List ClassToken → Option (Operator × List ClassToken)
  | .bare '&' :: .bare '&' :: rest => some (.intersection, rest)
  | .bare '-' :: .bare '-' :: rest => some (.difference, rest)
  | .bare '~' :: .bare '~' :: rest => some (.symmetricDifference, rest)
  | _ => none

def character? : ClassToken → Option Char
  | .bare c => some c
  | .plain c => some c
  | .set _ => none

def nameBeforeColon : List ClassToken → Option (List Char × List ClassToken)
  | .bare ':' :: .bare ']' :: rest => some ([], rest)
  | .bare ':' :: _ => none
  | .bare c :: rest => (nameBeforeColon rest).map fun (name, rest) => (c :: name, rest)
  | _ => none

def named? (ignoreCase : Bool) : List ClassToken → Option (CharSet × List ClassToken)
  | .bare ':' :: rest =>
    let (negated, rest) := match rest with
      | .bare '^' :: rest => (true, rest)
      | rest => (false, rest)
    (nameBeforeColon rest).bind fun (name, rest) =>
      (CharSet.ofName? (String.ofList name)).map fun set => (set.asked ignoreCase negated, rest)
  | _ => none

/-- One member: a set, a character or a range of characters. A hyphen makes no range before the
closing bracket or another hyphen. -/
def member? : List ClassToken → Option (CharSet × List ClassToken)
  | [] => none
  | first :: rest =>
    let alone : Option (CharSet × List ClassToken) := some (match first with
      | .set set => set
      | .bare c | .plain c => .char c, rest)
    match rest with
    | .bare '-' :: .bare ']' :: _ => alone
    | .bare '-' :: .bare '-' :: _ => alone
    | .bare '-' :: last :: rest =>
      match character? first, character? last with
      | some first, some last => if first ≤ last then some (.range first last, rest) else none
      | _, _ => none
    | _ => alone

/-- Hyphens that stand first are members, and so is a closing bracket that does. -/
def leading (set : CharSet) : List ClassToken → CharSet × List ClassToken
  | .bare '-' :: rest => leading (.either set (.char '-')) rest
  | .bare ']' :: rest => if set = .empty then (.char ']', rest) else (set, .bare ']' :: rest)
  | rest => (set, rest)

def read (ignoreCase : Bool) (length : Nat) : Nat → List ClassToken → Option (CharSet × List ClassToken)
  | 0, _ => none
  | depth + 1, tokens =>
    let (negated, tokens) := match tokens with
      | .bare '^' :: rest => (true, rest)
      | tokens => (false, tokens)
    let (set, tokens) := leading .empty tokens
    (members depth length none set tokens).map fun (set, rest) => (set.asked ignoreCase negated, rest)
where
  members (depth : Nat) : Nat → Option (Operator × CharSet) → CharSet → List ClassToken →
      Option (CharSet × List ClassToken)
    | 0, _, _, _ => none
    | _, _, _, [] => none
    | length + 1, pending, set, token :: rest =>
      if token = .bare ']' then some (combine ignoreCase pending set, rest)
      else if token = .bare '[' then
        ((named? ignoreCase rest).orElse fun _ => read ignoreCase length depth rest).bind
          fun (inner, rest) => members depth length pending (.either set inner) rest
      else
        match operator? (token :: rest) with
        | some (operator, rest) => members depth length (some (operator, combine ignoreCase pending set)) .empty rest
        | none =>
          (member? (token :: rest)).bind fun (found, rest) =>
            members depth length pending (.either set found) rest

end CharClass

def CharSet.ofTokens? (ignoreCase : Bool) (tokens : List ClassToken) : Option CharSet :=
  match CharClass.read ignoreCase (tokens.length + 1) (tokens.length + 1) tokens with
  | some (set, []) => some set
  | _ => none

end SchemaExport.Regex
