import Mathlib.Data.List.Induction
import SchemaExport.Proofs.Regex.Literal

/-! The grammar of sources and flags, and what makes no literal.

A source is a row of items: a backslash with a character, a class, or one character. The cursor that
goes over a text stands for what is open at its end, and comes to rest behind rows of items and behind
nothing else. What is still open is the fault of a source; a fault of the flags comes before it.
-/

set_option autoImplicit false

namespace SchemaExport.Regex

/-! ## Items -/

inductive Row (Part : List Char → Prop) : List Char → Prop where
  | nil : Row Part []
  | cons {first rest : List Char} : Part first → Row Part rest → Row Part (first ++ rest)

section
variable (Admitted Alone : Char → Prop)

/-- What a class is made of. An opening bracket is no more than a character there. -/
inductive ClassPart : List Char → Prop where
  | pair {c : Char} : Admitted c → ClassPart ['\\', c]
  | single {c : Char} : Admitted c → c ≠ ']' → c ≠ '\\' → ClassPart [c]

/-- What a source is made of, out of the characters that are admitted at all and those that may stand
alone. -/
inductive Item : List Char → Prop where
  | pair {c : Char} : Admitted c → Item ['\\', c]
  | bracketed {inner : List Char} : Row (ClassPart Admitted) inner → Item ('[' :: (inner ++ [']']))
  | single {c : Char} : Admitted c → Alone c → c ≠ '[' → c ≠ '\\' → Item [c]

/-- Texts by the cursor that stands behind them: a row of items, and what was opened behind it. -/
inductive Passed : Cursor → List Char → Prop where
  | atRest {front : List Char} : Row (Item Admitted Alone) front → Passed ⟨false, false⟩ front
  | escape {front : List Char} : Row (Item Admitted Alone) front → Passed ⟨true, false⟩ (front ++ ['\\'])
  | openClass {front inner : List Char} : Row (Item Admitted Alone) front → Row (ClassPart Admitted) inner →
      Passed ⟨false, true⟩ (front ++ '[' :: inner)
  | escapeInClass {front inner : List Char} : Row (Item Admitted Alone) front → Row (ClassPart Admitted) inner →
      Passed ⟨true, true⟩ (front ++ '[' :: (inner ++ ['\\']))

end

abbrev Itemized : List Char → Prop := Row (Item (fun _ => True) fun _ => True)

namespace Row

variable {Part : List Char → Prop}

theorem concat {front part : List Char} (row : Row Part front) (last : Part part) : Row Part (front ++ part) := by
  induction row with
  | nil => simpa using cons last nil
  | cons first _ ih => rw [List.append_assoc]; exact cons first ih

theorem forall_mem {Holds : Char → Prop} {text : List Char} (row : Row Part text)
    (parts : ∀ part, Part part → ∀ c ∈ part, Holds c) : ∀ c ∈ text, Holds c := by
  induction row with
  | nil => simp
  | cons first _ ih => exact List.forall_mem_append.2 ⟨parts _ first, ih⟩

theorem after_eq {cursor : Cursor} {text : List Char} (row : Row Part text)
    (parts : ∀ part, Part part → cursor.after part = cursor) : cursor.after text = cursor := by
  induction row with
  | nil => rfl
  | cons first _ ih => rw [Cursor.after_append, parts _ first, ih]

end Row

section
variable {Admitted Alone : Char → Prop}

theorem ClassPart.after_eq {part : List Char} (isPart : ClassPart Admitted part) :
    Cursor.after ⟨false, true⟩ part = ⟨false, true⟩ := by
  cases isPart with
  | pair _ => simp [Cursor.after, Cursor.next]
  | single _ notClosing notBackslash => simp [Cursor.after, Cursor.next, notClosing, notBackslash]

theorem Item.after_eq {item : List Char} (isItem : Item Admitted Alone item) :
    Cursor.start.after item = .start := by
  cases isItem with
  | pair _ => simp [Cursor.after, Cursor.next, Cursor.start]
  | @bracketed inner row =>
    have inside : Cursor.after ⟨false, true⟩ inner = ⟨false, true⟩ := row.after_eq fun _ => ClassPart.after_eq
    have opened : Cursor.start.after ('[' :: (inner ++ [']'])) = Cursor.after ⟨false, true⟩ (inner ++ [']']) := rfl
    rw [opened, Cursor.after_append, inside]
    rfl
  | single _ _ notOpening notBackslash =>
    simp [Cursor.after, Cursor.next, Cursor.start, notOpening, notBackslash]

theorem ClassPart.forall_mem {part : List Char} (isPart : ClassPart Admitted part) (backslash : Admitted '\\') :
    ∀ c ∈ part, Admitted c := by
  cases isPart with
  | pair admitted => simp [backslash, admitted]
  | single admitted _ _ => simpa using admitted

theorem Item.forall_mem {item : List Char} (isItem : Item Admitted Alone item)
    (marks : ∀ c ∈ ['\\', '[', ']'], Admitted c) : ∀ c ∈ item, Admitted c := by
  cases isItem with
  | pair admitted => simp [marks '\\' (by simp), admitted]
  | bracketed row =>
    have inside := row.forall_mem fun _ isPart => ClassPart.forall_mem isPart (marks '\\' (by simp))
    intro c member
    simp only [List.mem_cons, List.mem_append, List.not_mem_nil, or_false] at member
    rcases member with rfl | member | rfl
    · exact marks _ (by simp)
    · exact inside c member
    · exact marks _ (by simp)
  | single admitted _ _ _ => simpa using admitted

/-! ## The cursor and the grammar -/

/-- Behind a text a cursor goes on as the next character says. -/
theorem Passed.next {cursor : Cursor} {text : List Char} (passed : Passed Admitted Alone cursor text) {c : Char}
    (admitted : Admitted c) (alone : cursor.atRest = true → c ≠ '[' → c ≠ '\\' → Alone c) :
    Passed Admitted Alone (cursor.next c) (text ++ [c]) := by
  -- What the character completes goes over to the row it stands behind; what it opens starts anew.
  cases passed with
  | atRest row =>
    by_cases backslash : c = '\\'
    · subst backslash
      exact .escape row
    by_cases opening : c = '['
    · subst opening
      exact .openClass row .nil
    have same : Cursor.next ⟨false, false⟩ c = ⟨false, false⟩ := by simp [Cursor.next, backslash, opening]
    rw [same]
    exact .atRest (row.concat (.single admitted (alone rfl opening backslash) opening backslash))
  | escape row =>
    have same : Cursor.next ⟨true, false⟩ c = ⟨false, false⟩ := by simp [Cursor.next]
    rw [same, List.append_assoc]
    exact .atRest (row.concat (.pair admitted))
  | @openClass front inner row inside =>
    have joined : front ++ '[' :: inner ++ [c] = front ++ '[' :: (inner ++ [c]) := by simp
    rw [joined]
    by_cases backslash : c = '\\'
    · subst backslash
      exact .escapeInClass row inside
    by_cases closing : c = ']'
    · subst closing
      exact .atRest (row.concat (.bracketed inside))
    have same : Cursor.next ⟨false, true⟩ c = ⟨false, true⟩ := by simp [Cursor.next, backslash, closing]
    rw [same]
    exact .openClass row (inside.concat (.single admitted closing backslash))
  | @escapeInClass front inner row inside =>
    have joined : front ++ '[' :: (inner ++ ['\\']) ++ [c] = front ++ '[' :: (inner ++ ['\\', c]) := by simp
    have same : Cursor.next ⟨true, true⟩ c = ⟨false, true⟩ := by simp [Cursor.next]
    rw [joined, same]
    exact .openClass row (inside.concat (.pair admitted))

/-- Every text is passed that has no characters but those that are admitted where they stand. -/
theorem passed_after {text : List Char} (admitted : ∀ c ∈ text, Admitted c)
    (alone : ∀ front c back, text = front ++ c :: back → (Cursor.start.after front).atRest = true →
      c ≠ '[' → c ≠ '\\' → Alone c) :
    Passed Admitted Alone (Cursor.start.after text) text := by
  -- On the last character, since what it may be depends on all that stands in front of it.
  induction text using List.reverseRecOn with
  | nil => exact .atRest .nil
  | append_singleton text last ih =>
    obtain ⟨earlier, also⟩ := List.forall_mem_append.1 admitted
    have passed := ih earlier fun front c back same => alone front c (back ++ [last]) (by simp [same])
    rw [Cursor.after_append]
    exact passed.next (also last (by simp)) (alone text last [] rfl)

theorem Passed.after_eq {cursor : Cursor} {text : List Char} (passed : Passed Admitted Alone cursor text) :
    Cursor.start.after text = cursor := by
  have items {front : List Char} (row : Row (Item Admitted Alone) front) : Cursor.start.after front = .start :=
    row.after_eq fun _ => Item.after_eq
  have inClass {inner : List Char} (row : Row (ClassPart Admitted) inner) :
      Cursor.after ⟨false, true⟩ inner = ⟨false, true⟩ := row.after_eq fun _ => ClassPart.after_eq
  have opened (inner : List Char) : Cursor.start.after ('[' :: inner) = Cursor.after ⟨false, true⟩ inner := rfl
  -- Rows leave the cursor as it was, and what stands behind the last row opens an escape or a class.
  cases passed with
  | atRest row => exact items row
  | escape row =>
    rw [Cursor.after_append, items row]
    rfl
  | openClass row inside => rw [Cursor.after_append, items row, opened, inClass inside]
  | escapeInClass row inside =>
    rw [Cursor.after_append, items row, opened, Cursor.after_append, inClass inside]
    rfl

theorem Passed.ne_nil {cursor : Cursor} {text : List Char} (passed : Passed Admitted Alone cursor text)
    (moved : cursor ≠ .start) : text ≠ [] := by
  rintro rfl
  exact moved passed.after_eq.symm

end

theorem passed_iff {cursor : Cursor} {text : List Char} :
    Passed (fun _ => True) (fun _ => True) cursor text ↔ Cursor.start.after text = cursor := by
  constructor
  · exact Passed.after_eq
  · rintro rfl
    exact passed_after (fun _ _ => trivial) fun _ _ _ _ _ _ _ => trivial

theorem itemized_iff_passed {text : List Char} :
    Itemized text ↔ Passed (fun _ => True) (fun _ => True) .start text :=
  ⟨.atRest, fun | .atRest row => row⟩

theorem itemized_iff {text : List Char} : Itemized text ↔ (Cursor.start.after text).atRest = true := by
  rw [itemized_iff_passed, passed_iff, Cursor.atRest_iff]

/-! ## Faults of a source -/

/-- What is open at the end of a source. A backslash there counts in a class as well as outside. -/
inductive SourceFault (source : List Char) : Defect → Prop where
  | dangling {inClass : Bool} : Passed (fun _ => True) (fun _ => True) ⟨true, inClass⟩ source →
      SourceFault source .danglingBackslash
  | openClass : Passed (fun _ => True) (fun _ => True) ⟨false, true⟩ source → SourceFault source .openClass

theorem normalize_eq_error_iff {source : List Char} {defect : Defect} :
    normalize source = .error defect ↔ SourceFault source defect := by
  constructor
  · intro refused
    have passed : Passed (fun _ => True) (fun _ => True) (Cursor.start.after source) source := passed_iff.2 rfl
    unfold normalize at refused
    split at refused
    · exact nomatch refused
    · -- The cursor that is reached tells which fault it is: an open escape comes before an open class.
      cases reached : Cursor.start.after source with
      | mk escaped inClass =>
        rw [reached] at refused passed
        cases escaped with
        | true =>
          cases refused
          exact .dangling passed
        | false =>
          cases inClass with
          | true =>
            cases refused
            exact .openClass passed
          | false => exact nomatch refused
  · intro fault
    cases fault with
    | dangling passed =>
      rw [normalize, if_neg (passed.ne_nil nofun), passed.after_eq]
      rfl
    | openClass passed =>
      rw [normalize, if_neg (passed.ne_nil nofun), passed.after_eq]
      rfl

/-! ## Flags -/

structure FlagWord (flags : List Char) : Prop where
  known : ∀ c ∈ flags, c ∈ "dgimsuvy".toList
  distinct : flags.Nodup

/-- The first fault of some flags. A letter that is none comes before one that is repeated. -/
inductive FlagFault (flags : List Char) : Defect → Prop where
  | unsupported {front back : List Char} {c : Char} : flags = front ++ c :: back →
      (∀ earlier ∈ front, earlier ∈ "dgimsuvy".toList) → c ∉ "dgimsuvy".toList →
      FlagFault flags (.unsupportedFlag c)
  | duplicate {front back : List Char} {c : Char} : (∀ c ∈ flags, c ∈ "dgimsuvy".toList) →
      flags = front ++ c :: back → front.Nodup → c ∈ front → FlagFault flags (.duplicateFlag c)

theorem isFlag_iff {c : Char} : isFlag c = true ↔ c ∈ "dgimsuvy".toList := decide_eq_true_iff

theorem firstRepeated_eq_some_iff {seen flags : List Char} {c : Char} :
    firstRepeated seen flags = some c ↔ ∃ front back, flags = front ++ c :: back ∧ front.Nodup ∧
      (∀ earlier ∈ front, earlier ∉ seen) ∧ (c ∈ seen ∨ c ∈ front) := by
  -- A letter passes from the front to those seen, so the front keeps clear of them all along.
  induction flags generalizing seen with
  | nil => simp [firstRepeated]
  | cons first flags ih =>
    rw [firstRepeated]
    by_cases repeated : first ∈ seen
    · rw [if_pos repeated, Option.some.injEq]
      constructor
      · rintro rfl
        exact ⟨[], flags, rfl, .nil, by simp, .inl repeated⟩
      · rintro ⟨front, back, same, -, fresh, -⟩
        cases front with
        | nil => exact (List.cons.inj same).1
        | cons head front => exact absurd repeated ((List.cons.inj same).1 ▸ fresh head (by simp))
    · rw [if_neg repeated, ih]
      constructor
      · rintro ⟨front, back, rfl, distinct, fresh, again⟩
        exact ⟨first :: front, back, rfl, by grind, by grind, by grind⟩
      · rintro ⟨front, back, same, distinct, fresh, again⟩
        cases front with
        | nil => grind
        | cons head front =>
          obtain ⟨rfl, rfl⟩ := List.cons.inj same
          exact ⟨front, back, rfl, by grind, by grind, by grind⟩

theorem firstRepeated_eq_none_iff {seen flags : List Char} :
    firstRepeated seen flags = none ↔ flags.Nodup ∧ ∀ c ∈ flags, c ∉ seen := by
  induction flags generalizing seen with
  | nil => simp [firstRepeated]
  | cons c flags ih =>
    rw [firstRepeated, List.nodup_cons, List.forall_mem_cons]
    by_cases repeated : c ∈ seen
    · simp [repeated]
    · rw [if_neg repeated, ih]
      grind

theorem find?_unknown_eq_some_iff {flags : List Char} {c : Char} :
    flags.find? (fun c => !isFlag c) = some c ↔ ∃ front back, flags = front ++ c :: back ∧
      (∀ earlier ∈ front, earlier ∈ "dgimsuvy".toList) ∧ c ∉ "dgimsuvy".toList := by
  rw [List.find?_eq_some_iff_append]
  simp only [Bool.not_not, Bool.not_eq_true', ← Bool.not_eq_true, isFlag_iff]
  grind

theorem find?_unknown_eq_none_iff {flags : List Char} :
    flags.find? (fun c => !isFlag c) = none ↔ ∀ c ∈ flags, c ∈ "dgimsuvy".toList := by
  rw [List.find?_eq_none]
  simp only [Bool.not_eq_true, Bool.not_eq_false', isFlag_iff]

theorem flagDefect?_eq_none_iff {flags : List Char} : flagDefect? flags = none ↔ FlagWord flags := by
  unfold flagDefect?
  cases found : flags.find? fun c => !isFlag c with
  | some c =>
    obtain ⟨front, back, same, -, unknown⟩ := find?_unknown_eq_some_iff.1 found
    exact iff_of_false nofun fun word => unknown (word.known c (by simp [same]))
  | none =>
    have known := find?_unknown_eq_none_iff.1 found
    rw [Option.map_eq_none_iff, firstRepeated_eq_none_iff]
    exact ⟨fun distinct => ⟨known, distinct.1⟩, fun word => ⟨word.distinct, by simp⟩⟩

theorem flagDefect?_eq_some_iff {flags : List Char} {defect : Defect} :
    flagDefect? flags = some defect ↔ FlagFault flags defect := by
  constructor
  · intro refused
    unfold flagDefect? at refused
    split at refused
    · rename_i c found
      obtain ⟨front, back, same, earlier, unknown⟩ := find?_unknown_eq_some_iff.1 found
      cases refused
      exact .unsupported same earlier unknown
    · rename_i found
      obtain ⟨c, repeated, rfl⟩ := Option.map_eq_some_iff.1 refused
      obtain ⟨front, back, same, distinct, -, again⟩ := firstRepeated_eq_some_iff.1 repeated
      exact .duplicate (find?_unknown_eq_none_iff.1 found) same distinct (by simpa using again)
  · intro fault
    unfold flagDefect?
    cases fault with
    | unsupported same earlier unknown => rw [find?_unknown_eq_some_iff.2 ⟨_, _, same, earlier, unknown⟩]
    -- A letter that is repeated counts only when all of them are known.
    | duplicate known same distinct again =>
      rw [find?_unknown_eq_none_iff.2 known]
      exact Option.map_eq_some_iff.2
        ⟨_, firstRepeated_eq_some_iff.2 ⟨_, _, same, distinct, by simp, .inr again⟩, rfl⟩

/-! ## Literals and refusals -/

/-- Why no literal is made. The source counts only where the flags are a word. -/
inductive Fault (source flags : List Char) : Defect → Prop where
  | flags {defect : Defect} : FlagFault flags defect → Fault source flags defect
  | source {defect : Defect} : FlagWord flags → SourceFault source defect → Fault source flags defect

theorem Fault.of_flagWord {source flags : List Char} {defect : Defect} (word : FlagWord flags) :
    Fault source flags defect ↔ SourceFault source defect := by
  constructor
  · intro fault
    cases fault with
    | flags refused => exact nomatch (flagDefect?_eq_none_iff.2 word).symm.trans (flagDefect?_eq_some_iff.2 refused)
    | source _ refused => exact refused
  · exact .source word

namespace Literal

theorem make_eq_error_iff {source flags : List Char} {refusal : Refusal} :
    make source flags = .error refusal ↔ ∃ defect, Fault source flags defect ∧
      refusal = ⟨String.ofList source, String.ofList flags, defect.message⟩ := by
  unfold make
  split
  · rename_i defect checked
    have refused := flagDefect?_eq_some_iff.1 checked
    -- The flags are checked first, so that a fault of the source needs them to be right.
    have same {other : Defect} (fault : Fault source flags other) : other = defect := by
      cases fault with
      | flags also => exact Option.some.inj ((flagDefect?_eq_some_iff.2 also).symm.trans checked)
      | source word _ => exact nomatch (flagDefect?_eq_none_iff.2 word).symm.trans checked
    constructor
    · rintro ⟨⟩
      exact ⟨defect, .flags refused, rfl⟩
    · rintro ⟨other, fault, rfl⟩
      rw [same fault]
  · rename_i checked
    have word := flagDefect?_eq_none_iff.1 checked
    simp only [Fault.of_flagWord word, ← normalize_eq_error_iff]
    split
    · rename_i stored normalized
      simp [normalized]
    · rename_i defect normalized
      simp [normalized, eq_comm]

/-- A literal is made of the rows of items with a word of flags, and of nothing else. A refusal has the
source and the flags as they were given, and tells the first fault. -/
theorem make_grammar (source flags : List Char) :
    ((∃ literal, make source flags = .ok literal) ↔ FlagWord flags ∧ Itemized source) ∧
      ∀ refusal, make source flags = .error refusal ↔
        ∃ defect, Fault source flags defect ∧
          refusal = ⟨String.ofList source, String.ofList flags, defect.message⟩ := by
  refine ⟨?_, fun refusal => make_eq_error_iff⟩
  rw [← flagDefect?_eq_none_iff, itemized_iff]
  exact exists_make_iff

end Literal

end SchemaExport.Regex
