import SchemaExport.Module
import SchemaExport.Proofs.Expression.RoundTrip
import SchemaExport.Registry

/-! Reading a rendered module gives its schemas back.

No printed expression holds a line feed. So every declaration is one line, and the last blank line of
a module is the one in front of its declarations, whatever the header above it holds.
-/

set_option autoImplicit false

namespace SchemaExport

namespace Expression

open Json (quote)

/-! ## Printed text stays on its line -/

theorem newline_not_mem_of_plain {text : List Char} (plain : Plain text) : '\n' ∉ text :=
  fun member => absurd (plain '\n' member).2.2 (by decide)

theorem newline_not_mem_of_isLiteralText {text : List Char} (literal : isLiteralText text = true) : '\n' ∉ text := by
  obtain ⟨source, flags, rfl, -, oneLine, sound⟩ := isLiteralText_iff.1 literal
  have flagged : '\n' ∉ flags := fun member => absurd (sound '\n' member) (by decide)
  simp [oneLine, flagged]

theorem newline_not_mem_of_bareText? {key : String} {value : Value} {text : List Char}
    (bare : bareText? key value = some text) : '\n' ∉ text := by
  cases value with
  -- Text that is spelled bare is a type name or a regex literal, and neither breaks a line.
  | text content =>
    rw [bareText?] at bare
    split at bare
    · rename_i isName
      obtain rfl := Option.some.inj bare
      rw [List.mem_append, not_or]
      exact ⟨by decide, newline_not_mem_of_plain (plain_of_isTypeName isName.2)⟩
    · obtain ⟨isRegex, same⟩ := Option.ite_none_right_eq_some.1 bare
      obtain rfl := Option.some.inj same
      exact newline_not_mem_of_isLiteralText isRegex.2
  | regex literal =>
    obtain ⟨isRegex, same⟩ := Option.ite_none_right_eq_some.1 bare
    obtain rfl := Option.some.inj same
    exact newline_not_mem_of_isLiteralText isRegex.2
  | _ => cases bare

theorem newline_not_mem_entry (key : String) {value : Value} (dumped : '\n' ∉ dumpWith bareText? value) :
    '\n' ∉ quote key.toList ++ ':' :: (bareText? key value).getD (dumpWith bareText? value) := by
  have content : '\n' ∉ (bareText? key value).getD (dumpWith bareText? value) := by
    cases bare : bareText? key value with
    | none => exact dumped
    | some text => exact newline_not_mem_of_bareText? bare
  simp [Json.newline_not_mem_quote, content]

mutual

theorem newline_not_mem_dumpWith (value : Value) : '\n' ∉ dumpWith bareText? value := by
  match value with
  | .null => exact show '\n' ∉ dump .null by decide
  | .bool true => exact show '\n' ∉ dump (.bool true) by decide
  | .bool false => exact show '\n' ∉ dump (.bool false) by decide
  | .number value => exact fun member => absurd (Number.isNumeralChar_of_mem_text member) (by decide)
  | .text content => exact Json.newline_not_mem_quote content.toList
  | .regex literal => exact Json.newline_not_mem_quote literal.text
  | .list items => simp [dumpWith, newline_not_mem_dumpItemsWith items]
  | .record entries => simp [dumpWith, newline_not_mem_dumpEntriesWith entries]

theorem newline_not_mem_dumpItemsWith (items : List Value) : '\n' ∉ dumpItemsWith bareText? items := by
  match items with
  | [] => exact List.not_mem_nil
  | [item] => exact newline_not_mem_dumpWith item
  | item :: next :: rest =>
    simp [dumpItemsWith, newline_not_mem_dumpWith item, newline_not_mem_dumpItemsWith (next :: rest)]

theorem newline_not_mem_dumpEntriesWith (entries : Entries Value) :
    '\n' ∉ dumpEntriesWith bareText? entries := by
  match entries with
  | [] => exact List.not_mem_nil
  | [(key, value)] => exact newline_not_mem_entry key (newline_not_mem_dumpWith value)
  | (key, value) :: next :: rest =>
    have first := newline_not_mem_entry key (newline_not_mem_dumpWith value)
    have more := newline_not_mem_dumpEntriesWith (next :: rest)
    rw [List.mem_append, List.mem_cons, not_or, not_or] at first
    simp [dumpEntriesWith, first, more]

end

theorem newline_not_mem_printLeaf {leaf : Leaf} (lossless : leaf.Lossless) : '\n' ∉ printLeaf leaf := by
  have name : '\n' ∉ leaf.typeName.toList :=
    fun member => absurd (lossless.typeName.2 '\n' member) (by decide)
  rw [printLeaf_call lossless.typeName.unquoted]
  simp [name, newline_not_mem_dumpWith]

theorem newline_not_mem_fieldKey (name : String) : '\n' ∉ fieldKey name := by
  unfold fieldKey
  split
  · rename_i declared
    exact fun member => absurd ((identifier_of_isIdentifier declared).2 '\n' member) (by decide)
  · exact Json.newline_not_mem_quote name.toList

theorem not_mem_between {c : Char} {front inner back : List Char} (before : c ∉ front) (inside : c ∉ inner)
    (behind : c ∉ back) : c ∉ front ++ inner ++ back := by
  simp [before, inside, behind]

mutual

theorem newline_not_mem_print (schema : Schema) (lossless : schema.Lossless) : '\n' ∉ print schema := by
  match schema with
  | .object shape => exact not_mem_between (by decide) (newline_not_mem_printFields shape lossless.2) (by decide)
  | .optional inner => exact not_mem_between (by decide) (newline_not_mem_print inner lossless) (by decide)
  | .nullable inner => exact not_mem_between (by decide) (newline_not_mem_print inner lossless) (by decide)
  | .array element => exact not_mem_between (by decide) (newline_not_mem_print element lossless) (by decide)
  | .leaf leaf => exact newline_not_mem_printLeaf lossless

theorem newline_not_mem_printFields (fields : Entries Schema)
    (lossless : Schema.EverywhereIn (fun _ => True) Leaf.Lossless fields) : '\n' ∉ printFields fields := by
  match fields with
  | [] => exact List.not_mem_nil
  | [(name, field)] => simp [printFields, newline_not_mem_fieldKey, newline_not_mem_print field lossless.1]
  | (name, field) :: next :: rest =>
    simp [printFields, newline_not_mem_fieldKey, newline_not_mem_print field lossless.1,
      newline_not_mem_printFields (next :: rest) lossless.2]

end

end Expression

/-! ## Lines -/

namespace Text

theorem trimEnd_append {front blanks : List Char} {last : Char} (visible : isBlank last = false)
    (blank : Blank blanks) : trimEnd (front ++ last :: blanks) = front ++ [last] := by
  have backwards : (front ++ last :: blanks).reverse = blanks.reverse ++ (last :: front.reverse) := by simp
  have uniform : ∀ c ∈ blanks.reverse, isBlank c = true := fun c member => blank c (List.mem_reverse.1 member)
  have stops : EndsRun isBlank (last :: front.reverse) := by
    rintro c ⟨⟩
    exact visible
  rw [trimEnd, backwards, dropWhile_append_of_endsRun uniform stops, List.reverse_cons, List.reverse_reverse]

theorem splitAt?_equalsSign {front : List Char} (absent : '=' ∉ front) (rest : List Char) :
    splitAt? Module.equalsSign (front ++ (Module.equalsSign ++ rest)) = some (front, rest) := by
  induction front with
  | nil => rfl
  | cons c front ih =>
    rw [List.mem_cons, not_or] at absent
    have elsewhere : dropStart? Module.equalsSign (c :: (front ++ (Module.equalsSign ++ rest))) = none := by
      cases found : dropStart? Module.equalsSign (c :: (front ++ (Module.equalsSign ++ rest))) with
      | none => rfl
      | some behind =>
        -- The sign would have its middle where the front goes on, or where the sign itself begins.
        have tail : front ++ (Module.equalsSign ++ rest) = '=' :: ' ' :: behind :=
          (List.cons.inj (eq_append_of_dropStart? found)).2
        cases front with
        | nil => exact absurd (List.cons.inj tail).1 (by decide)
        | cons next front => exact absurd (List.cons.inj tail).1.symm (by simp_all)
    rw [List.cons_append, splitAt?, elsewhere, ih absent.2]
    rfl

end Text

namespace Module

theorem linesOf_append {line : List Char} (oneLine : '\n' ∉ line) (rest : List Char) :
    linesOf (line ++ '\n' :: rest) = (line ++ ['\n']) :: linesOf rest := by
  induction line with
  | nil => rfl
  | cons c line ih =>
    rw [List.mem_cons, not_or] at oneLine
    rw [List.cons_append, linesOf, if_neg (Ne.symm oneLine.1), ih oneLine.2]
    rfl

theorem linesOf_last {line : List Char} (nonempty : line ≠ []) (oneLine : '\n' ∉ line) : linesOf line = [line] := by
  induction line with
  | nil => exact absurd rfl nonempty
  | cons c line ih =>
    rw [List.mem_cons, not_or] at oneLine
    rw [linesOf, if_neg (Ne.symm oneLine.1)]
    cases line with
    | nil => rfl
    | cons next line => rw [ih nofun oneLine.2]

theorem lastBlankLine?_append {line : List Char} (oneLine : '\n' ∉ line) (rest : List Char) :
    lastBlankLine? (line ++ rest) = (lastBlankLine? rest).map (· + line.length) := by
  induction line with
  | nil => simp
  | cons c line ih =>
    rw [List.mem_cons, not_or] at oneLine
    rw [List.cons_append, lastBlankLine?, ih oneLine.2]
    cases lastBlankLine? rest with
    | none => simp [Ne.symm oneLine.1]
    | some before => simp [Nat.add_assoc]

theorem lastBlankLine?_append_of_some (front : List Char) {rest : List Char} {before : Nat}
    (found : lastBlankLine? rest = some before) : lastBlankLine? (front ++ rest) = some (front.length + before) := by
  induction front with
  | nil => simpa using found
  | cons c front ih =>
    rw [List.cons_append, lastBlankLine?, ih]
    simp [Nat.add_right_comm]

/-- A line that is not empty and holds no line feed. -/
def Line (text : List Char) : Prop := text ≠ [] ∧ '\n' ∉ text

theorem head?_joinLines {line : List Char} (isLine : Line line) (rest : List (List Char)) :
    (joinLines (line :: rest)).head? ≠ some '\n' := by
  obtain ⟨nonempty, oneLine⟩ := isLine
  obtain ⟨c, tail, rfl⟩ := List.exists_cons_of_ne_nil nonempty
  rw [List.mem_cons, not_or] at oneLine
  have first : (joinLines ((c :: tail) :: rest)).head? = some c := by
    cases rest <;> rfl
  rw [first]
  exact fun same => oneLine.1 (Option.some.inj same).symm

theorem lastBlankLine?_feed {rest : List Char} (visible : rest.head? ≠ some '\n')
    (none : lastBlankLine? rest = none) : lastBlankLine? ('\n' :: rest) = Option.none := by
  rw [lastBlankLine?, none]
  exact if_neg fun both => visible both.2

theorem lastBlankLine?_joinLines {lines : List (List Char)} (formed : ∀ line ∈ lines, Line line) :
    lastBlankLine? (joinLines lines) = none := by
  -- Two feeds make a blank line, and no line that is joined begins with one.
  induction lines with
  | nil => rfl
  | cons line rest ih =>
    have below := ih fun other member => formed other (by simp [member])
    have oneLine := (formed line (by simp)).2
    cases rest with
    | nil =>
      have alone := lastBlankLine?_append oneLine []
      rw [List.append_nil] at alone
      exact alone
    | cons next rest =>
      have feed := lastBlankLine?_feed (head?_joinLines (formed next (by simp)) rest) below
      rw [joinLines, lastBlankLine?_append oneLine, feed]
      · rfl
      · nofun

/-- The blank line in front of lines is the last one, whatever stands above it. -/
theorem lastBlankLine?_blankLine (above : List Char) {lines : List (List Char)} (nonempty : lines ≠ [])
    (formed : ∀ line ∈ lines, Line line) :
    lastBlankLine? (above ++ '\n' :: '\n' :: joinLines lines) = some above.length := by
  obtain ⟨line, rest, rfl⟩ := List.exists_cons_of_ne_nil nonempty
  have feed := lastBlankLine?_feed (head?_joinLines (formed line (by simp)) rest) (lastBlankLine?_joinLines formed)
  have here : lastBlankLine? ('\n' :: '\n' :: joinLines (line :: rest)) = some 0 := by
    rw [lastBlankLine?, feed]
    exact if_pos ⟨rfl, rfl⟩
  exact lastBlankLine?_append_of_some above here

theorem exists_joinLines_append {lines : List (List Char)} {last : Char} (nonempty : lines ≠ [])
    (closed : ∀ line ∈ lines, ∃ front, line = front ++ [last]) : ∃ front, joinLines lines = front ++ [last] := by
  induction lines with
  | nil => exact absurd rfl nonempty
  | cons line rest ih =>
    cases rest with
    | nil => exact closed line (by simp)
    | cons next rest =>
      obtain ⟨front, same⟩ := ih nofun fun other member => closed other (by simp [member])
      exact ⟨line ++ '\n' :: front, by rw [joinLines, same, List.append_assoc, List.cons_append]; nofun⟩

theorem bodyStart_blankLine (above : List Char) {lines : List (List Char)} (nonempty : lines ≠ [])
    (formed : ∀ line ∈ lines, Line line) {last : Char} (visible : Text.isBlank last = false)
    (closed : ∀ line ∈ lines, ∃ front, line = front ++ [last]) {blanks : List Char} (blank : Text.Blank blanks) :
    bodyStart (above ++ '\n' :: '\n' :: joinLines lines ++ blanks) = above.length + 2 := by
  have trimmed : Text.trimEnd (above ++ '\n' :: '\n' :: joinLines lines ++ blanks) =
      above ++ '\n' :: '\n' :: joinLines lines := by
    obtain ⟨front, same⟩ := exists_joinLines_append nonempty closed
    have whole : above ++ '\n' :: '\n' :: joinLines lines ++ blanks =
        (above ++ '\n' :: '\n' :: front) ++ last :: blanks := by
      simp [same]
    rw [whole, Text.trimEnd_append visible blank]
    simp [same]
  rw [bodyStart, trimmed, lastBlankLine?_blankLine above nonempty formed]

/-- What may follow the last line: nothing, or the line feed behind a text that is printed as a line. -/
def Feed (text : List Char) : Prop := text = [] ∨ text = ['\n']

theorem Feed.blank {feed : List Char} (fed : Feed feed) : Text.Blank feed := by
  rcases fed with rfl | rfl <;> simp [Text.Blank, Text.isBlank]

theorem linesOf_last_feed {line feed : List Char} (isLine : Line line) (fed : Feed feed) :
    linesOf (line ++ feed) = [line ++ feed] := by
  rcases fed with rfl | rfl
  · rw [List.append_nil, linesOf_last isLine.1 isLine.2]
  · exact linesOf_append isLine.2 []

/-! ## Declarations -/

/-- What a name and its schema need to be read back. -/
structure Readable (entry : String × Schema) : Prop where
  oneLine : '\n' ∉ entry.1.toList
  unsigned : '=' ∉ entry.1.toList
  formed : entry.2.WellFormed
  lossless : entry.2.Lossless

theorem declaration_eq (name : String) (schema : Schema) : declaration name schema =
    (declarationStart ++ (name.toList ++ (equalsSign ++ Expression.print schema))) ++ [';'] := by
  change declarationStart ++ name.toList ++ equalsSign ++ Expression.print schema ++ [';'] = _
  simp only [List.append_assoc]

theorem Readable.line {entry : String × Schema} (readable : Readable entry) :
    Line (declaration entry.1 entry.2) := by
  have printed := Expression.newline_not_mem_print entry.2 readable.lossless
  have start : '\n' ∉ declarationStart := by decide
  have sign : '\n' ∉ equalsSign := by decide
  rw [declaration_eq]
  refine ⟨List.append_ne_nil_of_right_ne_nil _ nofun, ?_⟩
  simp [start, sign, readable.oneLine, printed]

theorem readLine_declaration {name : String} {schema : Schema} (readable : Readable (name, schema)) (start : Nat)
    {feed : List Char} (blank : Text.Blank feed) :
    readLine start (Text.trimEnd (declaration name schema ++ feed)) = .ok (some (name, schema)) := by
  have trimmed : Text.trimEnd (declaration name schema ++ feed) =
      declarationStart ++ (name.toList ++ (equalsSign ++ (Expression.print schema ++ [';']))) := by
    rw [declaration_eq, List.append_assoc, List.singleton_append, Text.trimEnd_append rfl blank]
    simp only [List.append_assoc]
  have split := Text.splitAt?_equalsSign readable.unsigned (Expression.print schema ++ [';'])
  have expression := Expression.readWhole_print readable.formed readable.lossless
  rw [trimmed, readLine, Text.dropStart?_append]
  simp only [split, List.getLast?_concat, if_true, List.dropLast_concat, expression, String.ofList_toList]

theorem readLines_cons {start : Nat} {line : List Char} {lines : List (List Char)} {entry : String × Schema}
    {entries : Entries Schema} (first : readLine start (Text.trimEnd line) = .ok (some entry))
    (rest : readLines (start + Text.byteLength line) lines = ⟨entries, none⟩) :
    readLines start (line :: lines) = ⟨entry :: entries, none⟩ := by
  rw [readLines, first, rest]

theorem readLines_declarations {schemas : Entries Schema} (readable : ∀ entry ∈ schemas, Readable entry)
    {feed : List Char} (fed : Feed feed) (start : Nat) :
    readLines start (linesOf (declarations schemas ++ feed)) = ⟨schemas, none⟩ := by
  -- The start is there for the offsets of errors alone, so any start will do for the rest.
  induction schemas generalizing start with
  | nil => rcases fed with rfl | rfl <;> rfl
  | cons entry rest ih =>
    obtain ⟨name, schema⟩ := entry
    have here := readable (name, schema) (by simp)
    have oneLine := here.line
    cases rest with
    | nil =>
      have alone : declarations [(name, schema)] = declaration name schema := rfl
      rw [alone, linesOf_last_feed oneLine fed]
      exact readLines_cons (readLine_declaration here start fed.blank) rfl
    | cons next rest =>
      have more : declarations ((name, schema) :: next :: rest) ++ feed =
          declaration name schema ++ '\n' :: (declarations (next :: rest) ++ feed) := by
        rw [← List.cons_append, ← List.append_assoc]
        rfl
      rw [more, linesOf_append oneLine.2]
      exact readLines_cons (readLine_declaration here start (Feed.blank (.inr rfl)))
        (ih (fun other member => readable other (by simp [member])) _)

theorem declarations_line {schemas : Entries Schema} (readable : ∀ entry ∈ schemas, Readable entry) :
    ∀ line ∈ schemas.map fun entry => declaration entry.1 entry.2, Line line ∧ ∃ front, line = front ++ [';'] := by
  intro line member
  obtain ⟨entry, present, rfl⟩ := List.mem_map.1 member
  exact ⟨(readable entry present).line, _, declaration_eq entry.1 entry.2⟩

theorem render_eq (registry : Registry) : registry.render =
    (Registry.importLine ++ registry.header.toList) ++ '\n' :: '\n' ::
      joinLines (registry.entries.map fun entry => declaration entry.1 entry.2) := List.append_assoc ..

/-- A rendered module is read back as its entries, under any header and also as a printed line. -/
theorem read_render_feed (registry : Registry) (nonempty : registry.entries ≠ [])
    (readable : ∀ entry ∈ registry.entries, Readable entry) {feed : List Char} (fed : Feed feed) :
    read (registry.render ++ feed) = ⟨registry.entries, none⟩ := by
  let above := Registry.importLine ++ registry.header.toList
  let lines := registry.entries.map fun entry => declaration entry.1 entry.2
  have formed := declarations_line readable
  have body : bodyStart (registry.render ++ feed) = above.length + 2 := by
    rw [render_eq]
    exact bodyStart_blankLine above (by simpa [lines] using nonempty) (fun line member => (formed line member).1) rfl
      (fun line member => (formed line member).2) fed.blank
  have dropped : (registry.render ++ feed).drop (above.length + 2) = declarations registry.entries ++ feed := by
    rw [render_eq, List.append_assoc, ← List.drop_drop, List.drop_left]
    rfl
  rw [read, body, dropped, readLines_declarations readable fed]

/-- A rendered module is read back as its entries, under any header. -/
theorem parse_render (registry : Registry) (nonempty : registry.entries ≠ [])
    (readable : ∀ entry ∈ registry.entries, Readable entry) :
    parse registry.render = .ok registry.entries := by
  have read := read_render_feed registry nonempty readable (.inl rfl)
  rw [List.append_nil] at read
  rw [parse, read]

/-- A header with declarations, blank lines and an open end of its own. -/
theorem parse_render_declaring_header :
    let schemas := Record.ofEntries [("Flag", .leaf .boolean), ("a b", .optional (.leaf .boolean))]
    let registry : Registry := ⟨schemas, "export const x = 1;\n\n\nexport const y"⟩
    registry.entries ≠ [] ∧ (∀ entry ∈ registry.entries, Readable entry) ∧
      parse registry.render = .ok registry.entries := by
  intro schemas registry
  have formed : Leaf.boolean.WellFormed :=
    Leaf.wellFormed_make (by simp [Value.Everywhere, Value.Distinct]) "ZodBoolean"
  have lossless : Leaf.boolean.Lossless := by
    refine ⟨⟨by decide, forall_mem_of_all (by decide)⟩, trivial, ?_, trivial, trivial⟩
    rintro key ⟨⟩ isRegex
    exact absurd isRegex (by decide)
  have readable : ∀ entry ∈ registry.entries, Readable entry := by
    refine List.forall_mem_cons.2 ⟨?_, List.forall_mem_singleton.2 ?_⟩
    · exact ⟨by decide, by decide, formed, lossless⟩
    · exact ⟨by decide, by decide, formed, lossless⟩
  have nonempty : registry.entries ≠ [] := List.cons_ne_nil _ _
  exact ⟨nonempty, readable, parse_render registry nonempty readable⟩

end Module
end SchemaExport
