import SchemaExport.Proofs.Module

/-! What bears on the reading of a module, and what does not.

Declarations are read line by line, and where a line stands shows in the offsets of errors alone. White
space at the end of a text makes no line that is read, and a blank line hides all that stands above it.
A module without declarations ends with its header, whose last paragraph is then read like any other.
-/

set_option autoImplicit false

namespace SchemaExport

namespace Text

theorem trimEnd_append_blank (text : List Char) {blanks : List Char} (blank : Blank blanks) :
    trimEnd (text ++ blanks) = trimEnd text := by
  have uniform : ∀ c ∈ blanks.reverse, isBlank c = true := fun c member => blank c (List.mem_reverse.1 member)
  rw [trimEnd, trimEnd, List.reverse_append, List.dropWhile_append_of_pos uniform]

theorem trimEnd_eq_nil_iff {text : List Char} : trimEnd text = [] ↔ Blank text := by
  simp [trimEnd, Blank]

theorem trimEnd_append_of_ne_nil (front : List Char) {text : List Char} (visible : trimEnd text ≠ []) :
    trimEnd (front ++ text) = front ++ trimEnd text := by
  have some : (text.reverse.dropWhile isBlank).isEmpty = false := by
    simpa [trimEnd] using visible
  rw [trimEnd, List.reverse_append, List.dropWhile_append, some, if_neg Bool.false_ne_true, List.reverse_append,
    List.reverse_reverse, trimEnd]

end Text

def Error.shift (bytes : Nat) : Error → Error
  | .unreadable offset message => .unreadable (offset + bytes) message
  | error => error

theorem Expression.Fault.error_add (fault : Fault) (base bytes : Nat) (source : List Char) :
    fault.error (base + bytes) source = (fault.error base source).shift bytes := by
  cases fault with
  | unreadable cause rest => simp [Fault.error, Error.shift, Nat.add_right_comm]
  | regex refusal => rfl

namespace Module

/-! ## Lines -/

/-- A text is one line, or a line in front of a text. -/
@[elab_as_elim]
theorem lines_induction {motive : List Char → Prop} (last : ∀ line, '\n' ∉ line → motive line)
    (more : ∀ line rest, '\n' ∉ line → motive rest → motive (line ++ '\n' :: rest)) (text : List Char) :
    motive text := by
  by_cases feed : '\n' ∈ text
  · obtain ⟨line, rest, same, oneLine⟩ := List.eq_append_cons_of_mem feed
    rw [same]
    exact more line rest oneLine (lines_induction last more rest)
  · exact last text feed
termination_by text.length
decreasing_by
  rw [same, List.length_append, List.length_cons]
  omega

theorem readLine_add (start bytes : Nat) (line : List Char) :
    readLine (start + bytes) line = (readLine start line).mapError (Error.shift bytes) := by
  have base (name : List Char) : start + bytes + Text.byteLength declarationStart + Text.byteLength name +
      Text.byteLength equalsSign = start + Text.byteLength declarationStart + Text.byteLength name +
        Text.byteLength equalsSign + bytes := by omega
  unfold readLine
  cases Text.dropStart? declarationStart line with
  | none => rfl
  | some rest =>
    cases split : Text.splitAt? equalsSign rest with
    | none => simp only [split, Except.mapError, Error.shift]
    | some parts =>
      obtain ⟨name, expression⟩ := parts
      by_cases closed : expression.getLast? = some ';'
      · simp only [split, if_pos closed, base]
        cases Expression.readWhole expression.dropLast with
        | ok schema => rfl
        -- Only here does the offset matter: the other errors carry it as it is, and this one adds it to its own.
        | error fault => exact congrArg Except.error (fault.error_add _ bytes _)
      · simp only [split, if_neg closed]
        rfl

def Reading.shift (bytes : Nat) (reading : Reading) : Reading :=
  { reading with fault := reading.fault.map (Error.shift bytes) }

theorem Reading.shift_shift (first second : Nat) (reading : Reading) :
    (reading.shift first).shift second = reading.shift (first + second) := by
  obtain ⟨declarations, fault?⟩ := reading
  cases fault? with
  | none => rfl
  | some fault => cases fault <;> simp [shift, Error.shift, Nat.add_assoc]

theorem readLines_add (start bytes : Nat) (lines : List (List Char)) :
    readLines (start + bytes) lines = (readLines start lines).shift bytes := by
  induction lines generalizing start with
  | nil => rfl
  | cons line lines ih =>
    have behind : start + bytes + Text.byteLength line = start + Text.byteLength line + bytes := by omega
    rw [readLines, readLines, readLine_add, behind, ih]
    cases readLine start (Text.trimEnd line) with
    | error fault => rfl
    | ok found? => cases found? <;> rfl

theorem parse_of_read_shift {whole part : List Char} {bytes : Nat} (same : read whole = (read part).shift bytes) :
    parse whole = (parse part).mapError (Error.shift bytes) := by
  rw [parse, parse, same]
  cases fault : (read part).fault with
  | none => simp [Reading.shift, fault, Except.mapError]
  | some error => simp [Reading.shift, fault, Except.mapError]

/-! ## Lines that are not read -/

theorem readLine_of_not_prefix {line : List Char} (other : ¬ declarationStart <+: line) (start : Nat) :
    readLine start line = .ok none := by
  have none : Text.dropStart? declarationStart line = none := by
    cases found : Text.dropStart? declarationStart line with
    | none => rfl
    | some rest => exact absurd ⟨rest, (Text.eq_append_of_dropStart? found).symm⟩ other
  rw [readLine, none]

theorem readLines_cons_of_not_prefix {line : List Char} (other : ¬ declarationStart <+: Text.trimEnd line)
    (start : Nat) (lines : List (List Char)) :
    readLines start (line :: lines) = readLines (start + Text.byteLength line) lines := by
  rw [readLines, readLine_of_not_prefix other]

theorem readLines_cons_of_blank {line : List Char} (blank : Text.Blank line) (start : Nat)
    (lines : List (List Char)) : readLines start (line :: lines) = readLines (start + Text.byteLength line) lines := by
  apply readLines_cons_of_not_prefix
  rw [Text.trimEnd_eq_nil_iff.2 blank]
  decide

theorem readLines_feed (start : Nat) (rest : List Char) :
    readLines start (linesOf ('\n' :: rest)) = readLines (start + 1) (linesOf rest) := by
  have blank : Text.Blank ['\n'] := Feed.blank (.inr rfl)
  rw [linesOf, if_pos rfl, readLines_cons_of_blank blank]
  rfl

theorem readLines_blank {text : List Char} (blank : Text.Blank text) (start : Nat) :
    readLines start (linesOf text) = ⟨[], none⟩ := by
  induction text using lines_induction generalizing start with
  | last line oneLine =>
    cases line with
    | nil => rfl
    | cons c line =>
      rw [linesOf_last (List.cons_ne_nil _ _) oneLine, readLines_cons_of_blank blank]
      rfl
  | more line rest oneLine ih =>
    have parts := List.forall_mem_append.1 blank
    have first : Text.Blank (line ++ ['\n']) :=
      List.forall_mem_append.2 ⟨parts.1, Feed.blank (.inr rfl)⟩
    rw [linesOf_append oneLine, readLines_cons_of_blank first,
      ih (List.forall_mem_cons.1 parts.2).2]

theorem readLines_cons_congr {line other : List Char} (same : Text.trimEnd line = Text.trimEnd other)
    {lines others : List (List Char)} (none : ∀ start, readLines start lines = ⟨[], Option.none⟩)
    (noOthers : ∀ start, readLines start others = ⟨[], Option.none⟩) (start : Nat) :
    readLines start (line :: lines) = readLines start (other :: others) := by
  rw [readLines, readLines, same, none, noOthers]

theorem readLines_append_blanks (text : List Char) {blanks : List Char} (blank : Text.Blank blanks) (start : Nat) :
    readLines start (linesOf (text ++ blanks)) = readLines start (linesOf text) := by
  induction text using lines_induction generalizing start with
  | more line rest oneLine ih =>
    rw [List.append_assoc, List.cons_append, linesOf_append oneLine, linesOf_append oneLine, readLines, readLines, ih]
  | last line oneLine =>
    cases line with
    | nil => exact readLines_blank blank start
    | cons c line =>
      rw [linesOf_last (List.cons_ne_nil _ _) oneLine]
      have ends (start : Nat) : readLines start [] = ⟨[], none⟩ := rfl
      -- The line may go on into the white space, up to the first line feed there.
      by_cases feed : '\n' ∈ blanks
      · obtain ⟨front, back, rfl, oneLineToo⟩ := List.eq_append_cons_of_mem feed
        have parts := List.forall_mem_append.1 blank
        have tail : Text.Blank (front ++ ['\n']) := List.forall_mem_append.2 ⟨parts.1, Feed.blank (.inr rfl)⟩
        have whole : '\n' ∉ (c :: line) ++ front := by simp_all
        have same : Text.trimEnd ((c :: line) ++ front ++ ['\n']) = Text.trimEnd (c :: line) := by
          rw [List.append_assoc, Text.trimEnd_append_blank _ tail]
        rw [← List.append_assoc, linesOf_append whole]
        exact readLines_cons_congr same (readLines_blank (List.forall_mem_cons.1 parts.2).2) ends start
      · have whole : '\n' ∉ (c :: line) ++ blanks := by simp_all
        rw [linesOf_last (List.append_ne_nil_of_left_ne_nil (List.cons_ne_nil _ _) _) whole]
        exact readLines_cons_congr (Text.trimEnd_append_blank _ blank) ends ends start

/-! ## The last paragraph -/

theorem eq_append_of_lastBlankLine? {text : List Char} {before : Nat} (found : lastBlankLine? text = some before) :
    ∃ front rest, text = front ++ '\n' :: '\n' :: rest ∧ front.length = before := by
  induction text generalizing before with
  | nil => cases found
  | cons c text ih =>
    rw [lastBlankLine?] at found
    split at found
    · rename_i inside deeper
      obtain rfl := Option.some.inj found
      obtain ⟨front, rest, rfl, rfl⟩ := ih deeper
      exact ⟨c :: front, rest, rfl, rfl⟩
    · obtain ⟨⟨rfl, next⟩, same⟩ := Option.ite_none_right_eq_some.1 found
      obtain rfl := Option.some.inj same
      obtain ⟨rest, rfl⟩ := List.head?_eq_some_iff.1 next
      exact ⟨[], rest, rfl, rfl⟩

theorem lastBlankLine?_eq_none_iff {text : List Char} :
    lastBlankLine? text = none ↔ ¬ ['\n', '\n'] <:+: text := by
  constructor
  · rintro none ⟨front, back, same⟩
    -- A blank line is found where it stands or further behind, and then also below any front.
    have here : ∃ before, lastBlankLine? ('\n' :: '\n' :: back) = some before := by
      rw [lastBlankLine?]
      split
      · exact ⟨_, rfl⟩
      · exact ⟨0, if_pos ⟨rfl, rfl⟩⟩
    obtain ⟨before, here⟩ := here
    have found := lastBlankLine?_append_of_some front here
    rw [← same, List.append_assoc] at none
    cases none.symm.trans found
  · intro absent
    cases found : lastBlankLine? text with
    | none => rfl
    | some before =>
      obtain ⟨front, rest, rfl, -⟩ := eq_append_of_lastBlankLine? found
      exact absurd ⟨front, rest, by simp⟩ absent

theorem bodyStart_le (source : List Char) : bodyStart source ≤ source.length := by
  unfold bodyStart
  split
  · rename_i before found
    obtain ⟨front, rest, same, rfl⟩ := eq_append_of_lastBlankLine? found
    obtain ⟨blanks, whole⟩ := Text.exists_append_trimEnd source
    rw [whole, same]
    simp only [List.length_append, List.length_cons]
    omega
  · exact Nat.zero_le _

/-- A module is read as the lines of its body, which stand below the text above. -/
theorem read_of_bodyStart {source above body : List Char} (parted : source = above ++ body)
    (start : bodyStart source = above.length) :
    read source = (readLines 0 (linesOf body)).shift (Text.byteLength above) := by
  rw [← readLines_add, Nat.zero_add, read, start, parted, List.take_left, List.drop_left]

theorem read_append_blanks (text : List Char) {blanks : List Char} (blank : Text.Blank blanks) :
    read (text ++ blanks) = read text := by
  have start : bodyStart (text ++ blanks) = bodyStart text := by
    rw [bodyStart, bodyStart, Text.trimEnd_append_blank text blank]
  have within := bodyStart_le text
  rw [read, read, start, List.take_append_of_le_length within, List.drop_append_of_le_length within,
    readLines_append_blanks _ blank]

theorem read_of_lastBlankLine? {text : List Char} (single : lastBlankLine? (Text.trimEnd text) = none) :
    read text = readLines 0 (linesOf text) := by
  have start : bodyStart text = 0 := by rw [bodyStart, single]
  rw [read, start]
  rfl

theorem read_append_of_lastBlankLine? (above : List Char) {text : List Char} {before : Nat}
    (found : lastBlankLine? (Text.trimEnd text) = some before) :
    read (above ++ text) = (read text).shift (Text.byteLength above) := by
  have visible : Text.trimEnd text ≠ [] := by
    intro none
    rw [none] at found
    cases found
  have start : bodyStart text = before + 2 := by rw [bodyStart, found]
  -- The last blank line is in the lower text, so that the body begins there in both.
  have further : bodyStart (above ++ text) = above.length + bodyStart text := by
    rw [bodyStart, Text.trimEnd_append_of_ne_nil above visible, lastBlankLine?_append_of_some above found, start]
    rfl
  have parted : above ++ text = (above ++ text.take (bodyStart text)) ++ text.drop (bodyStart text) := by simp
  have alone : text = text.take (bodyStart text) ++ text.drop (bodyStart text) := by simp
  rw [read_of_bodyStart parted (by simp [further, bodyStart_le]), read_of_bodyStart alone (by simp [bodyStart_le]),
    Reading.shift_shift, Text.byteLength_append, Nat.add_comm]

theorem lastBlankLine?_of_cons {c : Char} {text : List Char} (none : lastBlankLine? (c :: text) = none) :
    lastBlankLine? text = Option.none := by
  rw [lastBlankLine?] at none
  split at none
  · cases none
  · assumption

theorem read_feed {text : List Char} (visible : Text.trimEnd text ≠ [])
    (single : lastBlankLine? (Text.trimEnd ('\n' :: text)) = none) : read ('\n' :: text) = (read text).shift 1 := by
  have parted : Text.trimEnd ('\n' :: text) = '\n' :: Text.trimEnd text :=
    Text.trimEnd_append_of_ne_nil ['\n'] visible
  have alone := lastBlankLine?_of_cons (parted ▸ single)
  rw [read_of_lastBlankLine? single, read_of_lastBlankLine? alone, readLines_feed, readLines_add]

/-- A paragraph reads the same below a blank line. A line feed at its start makes the blank line one lower. -/
theorem read_blankLine_append (above : List Char) {body : List Char} (visible : Text.trimEnd body ≠ [])
    (single : lastBlankLine? (Text.trimEnd body) = none) :
    read (above ++ '\n' :: '\n' :: body) = (read body).shift (Text.byteLength above + 2) := by
  have trimmed : Text.trimEnd (above ++ '\n' :: '\n' :: body) = above ++ '\n' :: '\n' :: Text.trimEnd body := by
    have whole := Text.trimEnd_append_of_ne_nil (above ++ ['\n', '\n']) visible
    simpa using whole
  by_cases feed : (Text.trimEnd body).head? = some '\n'
  · -- Of three line feeds in a row the last two are the blank line, and the body loses its first.
    obtain ⟨tail, same⟩ := List.head?_eq_some_iff.1 feed
    obtain ⟨blanks, whole⟩ := Text.exists_append_trimEnd body
    rw [same, List.cons_append] at whole
    have lower : lastBlankLine? ('\n' :: '\n' :: Text.trimEnd body) = some 1 := by
      rw [lastBlankLine?, lastBlankLine?, single]
      simp [feed]
    have start : bodyStart (above ++ '\n' :: '\n' :: body) = (above ++ ['\n', '\n', '\n']).length := by
      rw [bodyStart, trimmed, lastBlankLine?_append_of_some above lower]
      simp
    have parted : above ++ '\n' :: '\n' :: body = (above ++ ['\n', '\n', '\n']) ++ (tail ++ blanks) := by
      simp [whole]
    have bytes : Text.byteLength (above ++ ['\n', '\n', '\n']) = 1 + (Text.byteLength above + 2) := by
      rw [Text.byteLength_append, show Text.byteLength ['\n', '\n', '\n'] = 3 from rfl]
      omega
    have alone : read body = (readLines 0 (linesOf (tail ++ blanks))).shift 1 := by
      rw [read_of_lastBlankLine? single, ← readLines_add, ← readLines_feed, ← whole]
    rw [read_of_bodyStart parted start, alone, Reading.shift_shift, bytes]
  · have here : lastBlankLine? ('\n' :: '\n' :: Text.trimEnd body) = some 0 := by
      rw [lastBlankLine?, lastBlankLine?_feed feed single]
      exact if_pos ⟨rfl, rfl⟩
    have start : bodyStart (above ++ '\n' :: '\n' :: body) = (above ++ ['\n', '\n']).length := by
      rw [bodyStart, trimmed, lastBlankLine?_append_of_some above here]
      simp
    have parted : above ++ '\n' :: '\n' :: body = (above ++ ['\n', '\n']) ++ body := by simp
    have bytes : Text.byteLength (above ++ ['\n', '\n']) = Text.byteLength above + 2 :=
      Text.byteLength_append above ['\n', '\n']
    rw [read_of_bodyStart parted start, read_of_lastBlankLine? single, bytes]

/-- Neither a text above a blank line nor white space at the end bears on a module, but for where an error is. -/
theorem parse_blankLine_append (above : List Char) {body blanks : List Char} (blank : Text.Blank blanks)
    (visible : Text.trimEnd body ≠ []) (single : ¬ ['\n', '\n'] <:+: Text.trimEnd body) :
    parse (above ++ '\n' :: '\n' :: (body ++ blanks)) =
      (parse body).mapError (Error.shift (Text.byteLength above + 2)) := by
  apply parse_of_read_shift
  have whole : above ++ '\n' :: '\n' :: (body ++ blanks) = (above ++ '\n' :: '\n' :: body) ++ blanks := by simp
  rw [whole, read_append_blanks _ blank, read_blankLine_append above visible (lastBlankLine?_eq_none_iff.2 single)]

/-- Declarations above, a line feed in front, a wide space behind, and an error in between. -/
theorem parse_blankLine_append_declaring :
    let above := "export const é = 1;\n\n-".toList
    let body := "\nexport const A = z.nope();\t".toList
    let blanks := [' ', Char.ofNat 0x2003, '\n']
    Text.Blank blanks ∧ Text.trimEnd body ≠ [] ∧ ¬ ['\n', '\n'] <:+: Text.trimEnd body ∧
      parse body = .error (.unreadable 20 "unknown constructor \x60z.nope\x60") ∧
      parse (above ++ '\n' :: '\n' :: (body ++ blanks)) =
        .error (.unreadable 45 "unknown constructor \x60z.nope\x60") := by
  intro above body blanks
  have blank : Text.Blank blanks := forall_mem_of_all (by decide)
  have visible : Text.trimEnd body ≠ [] := by decide
  have single : ¬ ['\n', '\n'] <:+: Text.trimEnd body := lastBlankLine?_eq_none_iff.1 (by decide)
  have fault : (read body).fault = some (.unreadable 20 "unknown constructor \x60z.nope\x60") := by decide
  have alone : parse body = .error (.unreadable 20 "unknown constructor \x60z.nope\x60") := by rw [parse, fault]
  have bytes : Text.byteLength above = 23 := by decide
  refine ⟨blank, visible, single, alone, ?_⟩
  rw [parse_blankLine_append above blank visible single, alone, bytes]
  rfl

/-! ## Modules without declarations -/

theorem lastBlankLine?_of_not_mem {line : List Char} (oneLine : '\n' ∉ line) : lastBlankLine? line = none := by
  rw [lastBlankLine?_eq_none_iff]
  rintro ⟨front, back, rfl⟩
  simp at oneLine

theorem lastBlankLine?_trimEnd_line {line text : List Char} (oneLine : '\n' ∉ line)
    (single : lastBlankLine? (Text.trimEnd text) = none) (close : (Text.trimEnd text).head? ≠ some '\n') :
    lastBlankLine? (Text.trimEnd (line ++ '\n' :: text)) = none := by
  by_cases visible : Text.trimEnd text = []
  · have blank : Text.Blank ('\n' :: text) :=
      List.forall_mem_cons.2 ⟨by decide, Text.trimEnd_eq_nil_iff.1 visible⟩
    obtain ⟨blanks, whole⟩ := Text.exists_append_trimEnd line
    rw [Text.trimEnd_append_blank line blank]
    exact lastBlankLine?_of_not_mem fun feed => oneLine (by rw [whole]; simp [feed])
  · have trimmed : Text.trimEnd (line ++ '\n' :: text) = line ++ '\n' :: Text.trimEnd text := by
      simpa using Text.trimEnd_append_of_ne_nil (line ++ ['\n']) visible
    rw [trimmed, lastBlankLine?_append oneLine, lastBlankLine?_feed close single]
    rfl

/-- A line that declares nothing does not bear on what stands below it. -/
theorem read_line_append {line : List Char} (oneLine : '\n' ∉ line)
    (other : ¬ declarationStart <+: Text.trimEnd (line ++ ['\n'])) (text : List Char) :
    read (line ++ '\n' :: text) = (read text).shift (Text.byteLength (line ++ ['\n'])) := by
  have whole : line ++ '\n' :: text = (line ++ ['\n']) ++ text := by simp
  cases single : lastBlankLine? (Text.trimEnd text) with
  | some before => rw [whole, read_append_of_lastBlankLine? _ single]
  | none =>
    -- Without a blank line below, the one that counts is made by the line feed of the line or is none.
    by_cases close : (Text.trimEnd text).head? = some '\n'
    · -- The line feed of the line and the one below it are a blank line, which the text alone does not have.
      obtain ⟨tail, same⟩ := List.head?_eq_some_iff.1 close
      obtain ⟨blanks, parted⟩ := Text.exists_append_trimEnd text
      rw [same, List.cons_append] at parted
      have visible : Text.trimEnd (tail ++ blanks) ≠ [] := by
        rw [Ne, Text.trimEnd_eq_nil_iff]
        intro blank
        have all : Text.trimEnd text = [] := by
          rw [parted]
          exact Text.trimEnd_eq_nil_iff.2 (List.forall_mem_cons.2 ⟨by decide, blank⟩)
        rw [same] at all
        exact List.cons_ne_nil _ _ all
      have below : Text.trimEnd ('\n' :: (tail ++ blanks)) = '\n' :: Text.trimEnd (tail ++ blanks) :=
        Text.trimEnd_append_of_ne_nil ['\n'] visible
      rw [parted] at single ⊢
      rw [read_blankLine_append line visible (lastBlankLine?_of_cons (below ▸ single)), read_feed visible single,
        Reading.shift_shift, Text.byteLength_append]
      exact congrArg (Reading.shift · _) (by rw [show Text.byteLength ['\n'] = 1 from rfl]; omega)
    · have alone := lastBlankLine?_trimEnd_line oneLine single close
      rw [read_of_lastBlankLine? alone, read_of_lastBlankLine? single, linesOf_append oneLine,
        readLines_cons_of_not_prefix other, readLines_add]

/-- The lines of declarations in a module, without the white space at their ends. -/
def declarationLines (source : List Char) : List (List Char) :=
  ((linesOf (source.drop (bodyStart source))).map Text.trimEnd).filter (declarationStart <+: ·)

/-- A line of a declaration, with the name and the schema that are read from it. -/
def Denotes (line : List Char) (entry : String × Schema) : Prop := readLine 0 line = .ok (some entry)

theorem Denotes.exists_parts {line : List Char} {name : String} {schema : Schema} (denotes : Denotes line (name, schema)) :
    ∃ rest expression, line = declarationStart ++ rest ∧
      Text.splitAt? equalsSign rest = some (name.toList, expression) := by
  unfold Denotes readLine at denotes
  split at denotes
  · cases denotes
  · rename_i rest dropped
    split at denotes
    · cases denotes
    · rename_i front expression parted
      dsimp only at denotes
      split at denotes
      · split at denotes
        · obtain ⟨rfl, -⟩ := Prod.mk.inj (Option.some.inj (Except.ok.inj denotes))
          exact ⟨rest, expression, Text.eq_append_of_dropStart? dropped, by rw [parted, String.toList_ofList]⟩
        · cases denotes
      · cases denotes

theorem readLine_eq_ok_iff {line : List Char} {found? : Option (String × Schema)} (start : Nat) :
    readLine start line = .ok found? ↔ readLine 0 line = .ok found? := by
  have moved := readLine_add 0 start line
  rw [Nat.zero_add] at moved
  rw [moved]
  cases readLine 0 line <;> simp [Except.mapError]

theorem readLine_ne_none {line : List Char} (declared : declarationStart <+: line) (start : Nat) :
    readLine start line ≠ .ok none := by
  obtain ⟨rest, rfl⟩ := declared
  rw [readLine, Text.dropStart?_append]
  cases split : Text.splitAt? equalsSign rest with
  | none => simp [split]
  | some parts =>
    simp only [split]
    split
    · split <;> rintro ⟨⟩
    · rintro ⟨⟩

/-- Lines are read to their end just when each one of a declaration denotes an entry. -/
theorem readLines_eq_iff {start : Nat} {lines : List (List Char)} {entries : Entries Schema} :
    readLines start lines = ⟨entries, none⟩ ↔
      List.Forall₂ Denotes ((lines.map Text.trimEnd).filter (declarationStart <+: ·)) entries := by
  induction lines generalizing start entries with
  | nil => simp [readLines, eq_comm]
  | cons line lines ih =>
    rw [List.map_cons]
    by_cases declared : declarationStart <+: Text.trimEnd line
    · -- A line of a declaration yields an entry or ends the reading, wherever it stands.
      rw [List.filter_cons_of_pos (by simpa using declared)]
      cases first : readLine start (Text.trimEnd line) with
      | error fault =>
        have refused : readLines start (line :: lines) = ⟨[], some fault⟩ := by rw [readLines, first]
        rw [refused]
        constructor
        · rintro ⟨⟩
        · intro all
          cases all with
          | cons denotes _ => cases first.symm.trans ((readLine_eq_ok_iff start).2 denotes)
      | ok found? =>
        obtain ⟨entry, rfl⟩ : ∃ entry, found? = some entry :=
          Option.ne_none_iff_exists'.1 fun none => readLine_ne_none declared start (none ▸ first)
        have denotes : Denotes (Text.trimEnd line) entry := (readLine_eq_ok_iff start).1 first
        have read : readLines start (line :: lines) =
            ⟨entry :: (readLines (start + Text.byteLength line) lines).declarations,
              (readLines (start + Text.byteLength line) lines).fault⟩ := by rw [readLines, first]
        rw [read]
        constructor
        · intro same
          obtain ⟨rfl, sound⟩ := Reading.mk.inj same
          exact .cons denotes (ih.1 (by rw [← sound]))
        · intro all
          cases all with
          | cons other others =>
            obtain rfl := Option.some.inj (Except.ok.inj (denotes.symm.trans other))
            rw [ih.2 others]
    · rw [List.filter_cons_of_neg (by simpa using declared), readLines_cons_of_not_prefix declared, ih]

theorem parse_eq_ok_iff {source : List Char} {entries : Entries Schema} :
    parse source = .ok entries ↔ List.Forall₂ Denotes (declarationLines source) entries := by
  rw [declarationLines, ← readLines_eq_iff, ← read, parse]
  obtain ⟨declarations, fault?⟩ := read source
  cases fault? <;> simp

/-- A module without declarations reads as its header does on its own. So it has none for the reader
just when the header has no line of one in its last paragraph. -/
theorem parse_render_empty (registry : Registry) (none : registry.entries = []) :
    parse registry.render =
        (parse registry.header.toList).mapError (Error.shift (Text.byteLength Registry.importLine)) ∧
      (parse registry.render = .ok [] ↔ declarationLines registry.header.toList = []) := by
  let sentence := "import \x7b z \x7d from \"zod\";".toList
  have other : ¬ declarationStart <+: Text.trimEnd (sentence ++ ['\n']) := by decide
  have blank : Text.Blank ['\n', '\n'] := forall_mem_of_all (by decide)
  have parted : Registry.importLine = sentence ++ ['\n'] := rfl
  -- Without entries only two line feeds follow the header, and they are white space at the end.
  have rendered : registry.render = (sentence ++ '\n' :: registry.header.toList) ++ ['\n', '\n'] := by
    simp [render_eq, none, parted, joinLines]
  have read : read registry.render = (read registry.header.toList).shift (Text.byteLength Registry.importLine) := by
    rw [rendered, read_append_blanks _ blank, read_line_append (by decide) other, parted]
  have same := parse_of_read_shift read
  have nothing : parse registry.render = .ok [] ↔ parse registry.header.toList = .ok [] := by
    rw [same]
    cases parse registry.header.toList <;> simp [Except.mapError]
  exact ⟨same, by rw [nothing, parse_eq_ok_iff, List.forall₂_nil_right_iff]⟩

/-- Schemas that were removed again, under a header with a helper above its last paragraph. -/
theorem parse_render_empty_unregistered :
    let header := "export const helper = (s: string) => s;\n\n// end\n\n"
    let registry := ((Registry.empty (some header)).register "A" (.leaf .boolean)).unregister "A"
    registry.entries = [] ∧ declarationLines registry.header.toList = [] ∧ parse registry.render = .ok [] := by
  intro header registry
  have none : registry.entries = [] := rfl
  have nothing : declarationLines registry.header.toList = [] := by decide
  exact ⟨none, nothing, (parse_render_empty registry none).2.2 nothing⟩

/-- A helper in the last paragraph of the header is taken for a declaration: an error, or a schema that is not there. -/
theorem parse_render_empty_helper :
    let registry := Registry.empty (some "export const helper = (s: string) => s;")
    let other := Registry.empty (some "export const other = z.object(\x7b\x7d);")
    registry.entries = [] ∧ parse registry.render = .error (.unreadable 47 "expected \x60z.\x60") ∧
      other.entries = [] ∧ (parse other.render).map (·.map Prod.fst) = .ok ["other"] := by
  intro registry other
  have fault : (read registry.render).fault = some (.unreadable 47 "expected \x60z.\x60") := by decide
  exact ⟨rfl, by rw [parse, fault], rfl, by decide⟩

end Module
end SchemaExport
