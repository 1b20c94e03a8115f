import SchemaExport.Expression.Reader

/-! Reading an expression by byte positions.

A scan holds the whole text and the byte it has come to, and cuts the text at bytes that it reckons from
the lengths of tokens, the ends of runs and the places of closing marks. A cut beyond the end or inside a
character is a slip.
-/

set_option autoImplicit false

namespace SchemaExport

namespace Text

/-- A text around a byte, if a character begins there or the text ends. -/
def cutAt? : List Char → Nat → Option (List Char × List Char)
  | text, 0 => some ([], text)
  | [], _ + 1 => none
  | c :: rest, offset + 1 =>
    if c.utf8Size ≤ offset + 1 then
      (cutAt? rest (offset + 1 - c.utf8Size)).map fun (front, behind) => (c :: front, behind)
    else none

/-- What is left of a text at a byte. -/
def LeftAt (text : List Char) (offset : Nat) (rest : List Char) : Prop :=
  ∃ front, text = front ++ rest ∧ byteLength front = offset

/-- A byte at which a text can be cut. -/
def Boundary (text : List Char) (offset : Nat) : Prop := ∃ rest, LeftAt text offset rest

/-- The number of bytes in front of the first character of another kind. -/
def runLength (kind : Char → Bool) : List Char → Nat
  | [] => 0
  | c :: rest => if kind c then c.utf8Size + runLength kind rest else 0

theorem byteLength_eq_zero_iff {text : List Char} : byteLength text = 0 ↔ text = [] := by
  cases text with
  | nil => simp [byteLength]
  | cons c rest =>
    have positive := c.utf8Size_pos
    simp [byteLength]
    omega

theorem cutAt?_append (front rest : List Char) : cutAt? (front ++ rest) (byteLength front) = some (front, rest) := by
  induction front with
  | nil => simp [byteLength, cutAt?]
  | cons c front ih =>
    obtain ⟨size, same⟩ := Nat.exists_eq_add_one.2 c.utf8Size_pos
    have length : byteLength (c :: front) = size + byteLength front + 1 := by
      rw [byteLength, same]
      omega
    have behind : size + byteLength front + 1 - c.utf8Size = byteLength front := by omega
    rw [length, List.cons_append, cutAt?, if_pos (by omega), behind, ih]
    rfl

theorem runLength_eq (kind : Char → Bool) (text : List Char) :
    runLength kind text = byteLength (text.takeWhile kind) := by
  induction text with
  | nil => rfl
  | cons c rest ih => cases here : kind c <;> simp [runLength, byteLength, here, ih]

namespace LeftAt

variable {text rest : List Char} {offset : Nat}

theorem zero (text : List Char) : LeftAt text 0 text := ⟨[], rfl, rfl⟩

theorem add {front : List Char} (left : LeftAt text offset (front ++ rest)) :
    LeftAt text (offset + byteLength front) rest := by
  obtain ⟨before, rfl, rfl⟩ := left
  exact ⟨before ++ front, by rw [List.append_assoc], byteLength_append ..⟩

theorem add_eq (left : LeftAt text offset rest) : offset + byteLength rest = byteLength text := by
  obtain ⟨front, rfl, rfl⟩ := left
  exact (byteLength_append ..).symm

theorem offsetOf_eq (left : LeftAt text offset rest) : offsetOf text rest = offset := by
  obtain ⟨front, rfl, rfl⟩ := left
  exact offsetOf_append front rest

theorem run (left : LeftAt text offset rest) (kind : Char → Bool) :
    LeftAt text (offset + runLength kind rest) (rest.dropWhile kind) := by
  rw [← List.takeWhile_append_dropWhile (p := kind) (l := rest)] at left
  rw [runLength_eq]
  exact left.add

theorem lt_iff (left : LeftAt text offset rest) : offset < byteLength text ↔ rest ≠ [] := by
  rw [← left.add_eq, Ne, ← byteLength_eq_zero_iff]
  omega

theorem boundary (left : LeftAt text offset rest) : Boundary text offset := ⟨rest, left⟩

end LeftAt

theorem Boundary.le {text : List Char} {offset : Nat} (boundary : Boundary text offset) : offset ≤ byteLength text := by
  obtain ⟨rest, left⟩ := boundary
  exact left.add_eq ▸ Nat.le_add_right ..

end Text

/-- How a reading by positions ends: for an error, or with a slip, at a cut that the text does not have. -/
inductive Halt where
  | error (error : Error)
  | slip

namespace Text

def sliceFrom (text : List Char) (start : Nat) : Except Halt (List Char) :=
  match cutAt? text start with
  | some (_, rest) => .ok rest
  | none => .error .slip

def sliceTo (text : List Char) (stop : Nat) : Except Halt (List Char) :=
  match cutAt? text stop with
  | some (front, _) => .ok front
  | none => .error .slip

def slice (text : List Char) (start stop : Nat) : Except Halt (List Char) := do
  sliceFrom (← sliceTo text stop) start

theorem sliceFrom_append (front rest : List Char) : sliceFrom (front ++ rest) (byteLength front) = .ok rest := by
  rw [sliceFrom, cutAt?_append]

theorem sliceTo_append (front rest : List Char) : sliceTo (front ++ rest) (byteLength front) = .ok front := by
  rw [sliceTo, cutAt?_append]

theorem slice_append (front part rest : List Char) :
    slice (front ++ part ++ rest) (byteLength front) (byteLength (front ++ part)) = .ok part := by
  rw [slice, sliceTo_append]
  exact sliceFrom_append front part

theorem sliceTo_runLength (kind : Char → Bool) (text : List Char) :
    sliceTo text (runLength kind text) = .ok (text.takeWhile kind) := by
  have cut := sliceTo_append (text.takeWhile kind) (text.dropWhile kind)
  rwa [List.takeWhile_append_dropWhile, ← runLength_eq] at cut

theorem LeftAt.sliceFrom_eq {text rest : List Char} {offset : Nat} (left : LeftAt text offset rest) :
    sliceFrom text offset = .ok rest := by
  obtain ⟨front, rfl, rfl⟩ := left
  exact sliceFrom_append front rest

end Text

namespace Expression

/-! ## Scans -/

/-- A scan takes the byte it begins at and gives back the byte it has come to. -/
abbrev Scan (α : Type) := Nat → Except Halt (α × Nat)

/-- The byte of the quote that closes a string, in a text that begins at a byte. -/
def quoteAt? (escaped : Bool) (byte : Nat) : List Char → Option Nat
  | [] => none
  | c :: rest =>
    if escaped then quoteAt? false (byte + c.utf8Size) rest
    else if c = '\\' then quoteAt? true (byte + c.utf8Size) rest
    else if c = '"' then some byte
    else quoteAt? false (byte + c.utf8Size) rest

/-- The byte of the slash that closes a literal. -/
def slashAt? (cursor : Regex.Cursor) (byte : Nat) : List Char → Option Nat
  | [] => none
  | c :: rest => if c = '/' && cursor.atRest then some byte else slashAt? (cursor.next c) (byte + c.utf8Size) rest

section

variable (base : Nat) (source : List Char)

/-- An error at a byte of a text that begins at an offset. -/
def halt {α : Type} (cause : Cause) (position : Nat) : Except Halt α :=
  .error (.error (.unreadable (base + position) cause.message))

def scanBlank (position : Nat) : Except Halt Nat := do
  let rest ← Text.sliceFrom source position
  pure (Text.byteLength source - Text.byteLength (Text.skipBlank rest))

/-- Whether a token comes next behind white space, which is left behind also where it does not. -/
def scanToken (token : List Char) : Scan Bool := fun position => do
  let position ← scanBlank source position
  let rest ← Text.sliceFrom source position
  if token.isPrefixOf rest then pure (true, position + Text.byteLength token) else pure (false, position)

def scanExpected (token : String) (position : Nat) : Except Halt Nat := do
  let (found, position) ← scanToken source token.toList position
  if found then pure position else halt base (.expected token) position

def scanIdentifier : Scan (List Char) := fun position => do
  let position ← scanBlank source position
  let rest ← Text.sliceFrom source position
  let length := Text.runLength Text.isIdentifierChar rest
  if length = 0 then halt base .identifierExpected position
  else
    let word ← Text.sliceTo rest length
    pure (word, position + length)

def scanQuoted : Scan (List Char) := fun position => do
  let rest ← Text.sliceFrom source position
  match quoteAt? false (Text.byteLength (rest.take 1)) (rest.drop 1) with
  | none => halt base .openString position
  | some close =>
    let quoted ← Text.sliceTo rest (close + 1)
    match Json.unquote quoted with
    | .ok content => pure (content, position + (close + 1))
    | .error fault => halt base (.badString (fault.message quoted)) position

def scanNumber : Scan Number := fun position => do
  let rest ← Text.sliceFrom source position
  let length := Text.runLength isNumeralChar rest
  let run ← Text.sliceTo rest length
  match Json.numberOfText run with
  | .ok value => pure (value, position + length)
  | .error fault => halt base (.badNumber (fault.message run)) position

def scanRegex : Scan Regex.Literal := fun position => do
  let rest ← Text.sliceFrom source position
  match slashAt? .start (Text.byteLength (rest.take 1)) (rest.drop 1) with
  | none => halt base .openRegex position
  | some close =>
    let behind ← Text.sliceFrom rest (close + 1)
    let length := Text.runLength Char.isLower behind
    let body ← Text.slice rest 1 close
    let flags ← Text.slice rest (close + 1) (close + 1 + length)
    match Regex.Literal.make body flags with
    | .ok literal => pure (literal, position + (close + 1 + length))
    | .error refusal => .error (.error (.regex refusal))

def scanSeparated {α : Type} (item : Scan α) (closing : String) : Nat → Scan (List α)
  | 0, position => do halt base (.expected closing) (← scanBlank source position)
  | length + 1, position => do
    let (first, position) ← item position
    let (goesOn, position) ← scanToken source [','] position
    if goesOn then
      let (more, position) ← scanSeparated item closing length position
      pure (first :: more, position)
    else pure ([first], ← scanExpected base source closing position)

def scanEnclosed {α : Type} (item : Scan α) (opening closing : String) (length : Nat) : Scan (List α) :=
  fun position => do
    let position ← scanExpected base source opening position
    let (closed, position) ← scanToken source closing.toList position
    if closed then pure ([], position) else scanSeparated base source item closing length position

def scanEntry (value : Scan Value) : Scan (String × Value) := fun position => do
  let position ← scanBlank source position
  let rest ← Text.sliceFrom source position
  if rest.head? ≠ some '"' then halt base .quotedKeyExpected position
  else
    let (key, position) ← scanQuoted base source position
    let position ← scanExpected base source ":" position
    let (content, position) ← value position
    pure ((String.ofList key, content), position)

def scanRecord (value : Scan Value) (length : Nat) : Scan Definition := fun position => do
  let (entries, position) ← scanEnclosed base source (scanEntry base source value) "\x7b" "\x7d" length position
  pure (Record.ofEntries entries, position)

def scanWord : Scan Value := fun position => do
  let (asTrue, position) ← scanToken source "true".toList position
  if asTrue then pure (.bool true, position)
  else
    let (asFalse, position) ← scanToken source "false".toList position
    if asFalse then pure (.bool false, position)
    else
      let (asNull, position) ← scanToken source "null".toList position
      if asNull then pure (.null, position)
      else
        let (asMember, position) ← scanToken source typeNameMember position
        if asMember then
          let (name, position) ← scanIdentifier base source position
          pure (.text (String.ofList name), position)
        else halt base .valueExpected position

def scanValue (length : Nat) : Nat → Scan Value
  | 0, position => do halt base .valueExpected (← scanBlank source position)
  | depth + 1, position => do
    let position ← scanBlank source position
    let rest ← Text.sliceFrom source position
    match rest.head? with
    | some '{' => do
      let (definition, position) ← scanRecord base source (scanValue length depth) length position
      pure (.record definition.entries, position)
    | some '[' => do
      let (items, position) ← scanEnclosed base source (scanValue length depth) "[" "]" length position
      pure (.list items, position)
    | some '"' => do
      let (content, position) ← scanQuoted base source position
      pure (.text (String.ofList content), position)
    | some '/' => do
      let (literal, position) ← scanRegex base source position
      pure (.regex literal, position)
    | some c =>
      if c = '-' || c.isDigit then do
        let (value, position) ← scanNumber base source position
        pure (.number value, position)
      else scanWord base source position
    | none => scanWord base source position

def scanLeaf (length : Nat) : Scan Leaf := fun position => do
  let position ← scanExpected base source "z." position
  let (typeName, position) ← scanIdentifier base source position
  let position ← scanExpected base source "(" position
  let (definition, position) ← scanRecord base source (scanValue base source length length) length position
  let position ← scanExpected base source ")" position
  pure (Leaf.make (String.ofList typeName) definition, position)

def scanFieldName : Scan String := fun position => do
  let position ← scanBlank source position
  let rest ← Text.sliceFrom source position
  let (name, position) ←
    if rest.head? = some '"' then scanQuoted base source position else scanIdentifier base source position
  pure (String.ofList name, position)

def scanField (schema : Scan Schema) : Scan (String × Schema) := fun position => do
  let (name, position) ← scanFieldName base source position
  let position ← scanExpected base source ":" position
  let (field, position) ← schema position
  pure ((name, field), position)

def scanWrapped (schema : Scan Schema) : Scan Schema := fun position => do
  let position ← scanExpected base source "(" position
  let (inner, position) ← schema position
  pure (inner, ← scanExpected base source ")" position)

def scanShape (schema : Scan Schema) (length : Nat) : Scan Schema := fun position => do
  let position ← scanExpected base source "(" position
  let (fields, position) ← scanEnclosed base source (scanField base source schema) "\x7b" "\x7d" length position
  pure (.ofFields fields, ← scanExpected base source ")" position)

def scanSchema (length : Nat) : Nat → Scan Schema
  | 0, position => do halt base (.expected "z.") (← scanBlank source position)
  | depth + 1, position => do
    let (asLeaf, position) ← scanToken source "new".toList position
    if asLeaf then
      let (leaf, position) ← scanLeaf base source length position
      pure (.leaf leaf, position)
    else
      let constructor ← scanExpected base source "z." position
      let (name, position) ← scanIdentifier base source constructor
      if name = "object".toList then scanShape base source (scanSchema length depth) length position
      else if name = "optional".toList then
        let (inner, position) ← scanWrapped base source (scanSchema length depth) position
        pure (.optional inner, position)
      else if name = "nullable".toList then
        let (inner, position) ← scanWrapped base source (scanSchema length depth) position
        pure (.nullable inner, position)
      else if name = "array".toList then
        let (element, position) ← scanWrapped base source (scanSchema length depth) position
        pure (.array element, position)
      else halt base (.unknownConstructor (String.ofList name)) constructor

/-- A whole text, which begins at an offset. -/
def scanWhole : Except Halt Schema := do
  let (schema, position) ← scanSchema base source (source.length + 1) (source.length + 1) 0
  let position ← scanBlank source position
  if position < Text.byteLength source then halt base .trailingInput position else pure schema

end

end Expression
end SchemaExport
