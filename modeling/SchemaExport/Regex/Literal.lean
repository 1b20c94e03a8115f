/-! Regular expression literals `/source/flags`.

A source is read with two marks: whether the next character is escaped, and whether a class is
open. A literal stores its source normalized: line breaks and slashes outside a class are escaped,
and an empty source reads `(?:)`. Spelling moves the cursor as the source itself does, so that a
normalized source stays as it is. What the source means to a matcher is not looked at here.
-/

set_option autoImplicit false

namespace SchemaExport.Regex

structure Cursor where
  escaped : Bool
  inClass : Bool
  deriving DecidableEq, Repr

namespace Cursor

def start : Cursor := ⟨false, false⟩

def next (cursor : Cursor) (c : Char) : Cursor where
  escaped := c == '\\' && !cursor.escaped
  inClass := if cursor.escaped then cursor.inClass else if c = '[' then true else if c = ']' then false else cursor.inClass

def after (cursor : Cursor) (text : List Char) : Cursor := text.foldl next cursor

def atRest (cursor : Cursor) : Bool := !cursor.escaped && !cursor.inClass

theorem after_append (cursor : Cursor) (front back : List Char) :
    cursor.after (front ++ back) = (cursor.after front).after back := List.foldl_append ..

end Cursor

def spellChar (cursor : Cursor) (c : Char) : List Char :=
  if c = '\n' then ['\\', 'n']
  else if c = '\r' then ['\\', 'r']
  else if c = '/' && cursor.atRest then ['\\', '/']
  else [c]

def spell : Cursor → List Char → List Char
  | _, [] => []
  | cursor, c :: rest => spellChar cursor c ++ spell (cursor.next c) rest

namespace Cursor

/-- The spelling of a character takes the cursor where the character takes it. -/
theorem after_spellChar (cursor : Cursor) (c : Char) : cursor.after (spellChar cursor c) = cursor.next c := by
  obtain ⟨escaped, inClass⟩ := cursor
  by_cases feed : c = '\n'
  · subst feed; cases escaped <;> rfl
  by_cases carriage : c = '\r'
  · subst carriage; cases escaped <;> rfl
  by_cases slash : c = '/'
  · subst slash; cases escaped <;> cases inClass <;> rfl
  simp [spellChar, feed, carriage, slash, after]

theorem after_spell (cursor : Cursor) (source : List Char) :
    cursor.after (spell cursor source) = cursor.after source := by
  induction source generalizing cursor with
  | nil => rfl
  | cons c source ih => rw [spell, after_append, after_spellChar, ih]; rfl

end Cursor

theorem spell_spellChar_append (cursor : Cursor) (c : Char) (rest : List Char) :
    spell cursor (spellChar cursor c ++ rest) = spellChar cursor c ++ spell (cursor.next c) rest := by
  obtain ⟨escaped, inClass⟩ := cursor
  by_cases feed : c = '\n'
  · subst feed; cases escaped <;> rfl
  by_cases carriage : c = '\r'
  · subst carriage; cases escaped <;> rfl
  by_cases slash : c = '/'
  · subst slash; cases escaped <;> cases inClass <;> rfl
  simp [spellChar, feed, carriage, slash, spell]

@[simp] theorem spell_spell (cursor : Cursor) (source : List Char) :
    spell cursor (spell cursor source) = spell cursor source := by
  induction source generalizing cursor with
  | nil => rfl
  | cons c source ih => rw [spell, spell_spellChar_append, ih]

theorem spellChar_ne_nil (cursor : Cursor) (c : Char) : spellChar cursor c ≠ [] := by
  unfold spellChar
  split
  · simp
  · split
    · simp
    · split <;> simp

inductive Defect where
  | unsupportedFlag (flag : Char)
  | duplicateFlag (flag : Char)
  | danglingBackslash
  | openClass
  deriving DecidableEq, Repr

def Defect.message : Defect → String
  | .unsupportedFlag flag => "unsupported flag `" ++ String.singleton flag ++ "`"
  | .duplicateFlag flag => "duplicate flag `" ++ String.singleton flag ++ "`"
  | .danglingBackslash => "\\ at end of pattern"
  | .openClass => "unterminated character class"

def normalize (source : List Char) : Except Defect (List Char) :=
  if source = [] then .ok ['(', '?', ':', ')']
  else
    let last := Cursor.start.after source
    if last.escaped then .error .danglingBackslash
    else if last.inClass then .error .openClass
    else .ok (spell .start source)

/-- A source is refused for what is open at its end, and for nothing else. -/
theorem normalize_eq_ok_iff {source stored : List Char} :
    normalize source = .ok stored ↔ (Cursor.start.after source).atRest = true ∧
      stored = if source = [] then ['(', '?', ':', ')'] else spell .start source := by
  unfold normalize
  by_cases empty : source = []
  · subst empty
    simp [Cursor.after, Cursor.atRest, Cursor.start, eq_comm]
  · simp only [empty, if_false, Cursor.atRest]
    cases (Cursor.start.after source).escaped <;> cases (Cursor.start.after source).inClass <;> simp [eq_comm]

/-- A source as literals store it. -/
structure Spelled (source : List Char) : Prop where
  nonempty : source ≠ []
  atRest : (Cursor.start.after source).atRest = true
  fixed : spell .start source = source

theorem spelled_of_normalize {source stored : List Char} (normalized : normalize source = .ok stored) :
    Spelled stored := by
  obtain ⟨atRest, rfl⟩ := normalize_eq_ok_iff.1 normalized
  cases source with
  | nil => exact ⟨nofun, by decide, by decide⟩
  | cons c rest =>
    rw [if_neg nofun]
    refine ⟨?_, (congrArg Cursor.atRest (Cursor.after_spell ..)).trans atRest, spell_spell ..⟩
    rw [spell]
    exact List.append_ne_nil_of_left_ne_nil (spellChar_ne_nil .start c) _

theorem normalize_normalize {source stored : List Char} (normalized : normalize source = .ok stored) :
    normalize stored = .ok stored := by
  have spelled := spelled_of_normalize normalized
  exact normalize_eq_ok_iff.2 ⟨spelled.atRest, by rw [if_neg spelled.nonempty, spelled.fixed]⟩

def isFlag (c : Char) : Bool := c ∈ ['d', 'g', 'i', 'm', 's', 'u', 'v', 'y']

def firstRepeated (seen : List Char) : List Char → Option Char
  | [] => none
  | c :: rest => if c ∈ seen then some c else firstRepeated (c :: seen) rest

def flagDefect? (flags : List Char) : Option Defect :=
  match flags.find? (fun c => !isFlag c) with
  | some c => some (.unsupportedFlag c)
  | none => (firstRepeated [] flags).map .duplicateFlag

/-- A source in its normal form, and flags that are known and not repeated. -/
@[ext] structure Literal where
  source : String
  flags : String
  normalized : normalize source.toList = .ok source.toList
  sound : flagDefect? flags.toList = none
  deriving DecidableEq

/-- A refused literal as it was given. -/
structure Refusal where
  source : String
  flags : String
  message : String
  deriving DecidableEq, Repr

def Refusal.text (refusal : Refusal) : String :=
  "invalid regular expression /" ++ refusal.source ++ "/" ++ refusal.flags ++ ": " ++ refusal.message

namespace Literal

/-- A fault of the flags comes before a fault of the source. -/
def make (source flags : List Char) : Except Refusal Literal :=
  let refuse (defect : Defect) : Except Refusal Literal :=
    .error ⟨String.ofList source, String.ofList flags, defect.message⟩
  match sound : flagDefect? flags with
  | some defect => refuse defect
  | none =>
    match normalized : normalize source with
    | .ok spelled =>
      .ok ⟨String.ofList spelled, String.ofList flags, by simp [normalize_normalize normalized], by simp [sound]⟩
    | .error defect => refuse defect

def text (literal : Literal) : List Char :=
  '/' :: (literal.source.toList ++ '/' :: literal.flags.toList)

end Literal

def plainSlashes (escaped : Bool) : List Char → List Char
  | [] => []
  | c :: rest =>
    if escaped then (if c = '/' then [c] else ['\\', c]) ++ plainSlashes false rest
    else if c = '\\' then plainSlashes true rest
    else c :: plainSlashes false rest

/-- The pattern that a literal stands for. Of the flags only `i`, `m` and `s` bear on it. -/
def Literal.pattern (literal : Literal) : List Char :=
  let flags := ['i', 'm', 's'].filter fun flag => flag ∈ literal.flags.toList
  let source := plainSlashes false literal.source.toList
  if flags = [] then source else '(' :: '?' :: (flags ++ ')' :: source)

def splitLastSlash : List Char → Option (List Char × List Char)
  | [] => none
  | c :: rest =>
    match splitLastSlash rest with
    | some (front, back) => some (c :: front, back)
    | none => if c = '/' then some ([], rest) else none

/-- A literal in a string: from the first slash to the last, with a source between and lower case
ASCII letters behind. None when the string has another form. -/
def Literal.ofText? : List Char → Option (Except Refusal Literal)
  | '/' :: body => do
    let (source, flags) ← splitLastSlash body
    if source = [] || !flags.all Char.isLower then none else some (make source flags)
  | _ => none

end SchemaExport.Regex
