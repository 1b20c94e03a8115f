import SchemaExport.Proofs.Expression.Reading
import SchemaExport.Proofs.Expression.Structural
import SchemaExport.Proofs.Renumbering

/-! Reading a printed expression gives its schema back.

The printed text of every part derives that part in the grammar, without white space before a token
but one after a field's colon. Values under a key that a repair looks at are where the text could
denote another value; the conditions on a tree rule just that out.
-/

set_option autoImplicit false

namespace SchemaExport

open Expression

/-! ## Trees that print without loss -/

/-- A regular expression stands under a key that names one, and no literal's text does. Numbers are integers
of 64 bits. -/
def Value.Lossless (key? : Option String) : Value → Prop
  | .number (.integer value) => Json.Integer64 value
  | .number (.double _) => False
  | .text content => ∀ key ∈ key?, FieldKey "regex".toList key.toList → isLiteralText content.toList = false
  | .regex _ => ∃ key ∈ key?, FieldKey "regex".toList key.toList
  | _ => True

structure Leaf.Lossless (leaf : Leaf) : Prop where
  typeName : Identifier leaf.typeName.toList
  definition : (Value.record leaf.definition.entries).Everywhere Value.Lossless none

def Schema.Lossless : Schema → Prop := Everywhere (fun _ => True) Leaf.Lossless

/-- Numbers whose text is read as their replacement, and other values as above. -/
def Value.Legible (read : Number → Number) (key? : Option String) : Value → Prop
  | .number content => Json.Numeral content.text (read content)
  | value => value.Lossless key?

/-- A type name that is one word, and a condition on everything in the definition. -/
structure Leaf.Printable (Holds : Option String → Value → Prop) (leaf : Leaf) : Prop where
  typeName : Identifier leaf.typeName.toList
  definition : (Value.record leaf.definition.entries).Everywhere Holds none

def Schema.Printable (Holds : Option String → Value → Prop) : Schema → Prop :=
  Everywhere (fun _ => True) (Leaf.Printable Holds)

theorem Schema.Printable.imp {First Second : Option String → Value → Prop} {schema : Schema}
    (first : schema.Printable First) (implies : ∀ key? value, First key? value → Second key? value) :
    schema.Printable Second :=
  Everywhere.imp (fun _ _ => trivial) (fun _ here => ⟨here.typeName, here.definition.imp implies⟩) first

theorem Value.Lossless.legible {key? : Option String} {value : Value} (lossless : value.Lossless key?) :
    value.Legible id key? := by
  cases value with
  | number content =>
    cases content with
    | integer _ => exact Json.readNumber_integerText lossless
    | double _ => exact lossless.elim
  | _ => exact lossless

theorem Schema.Lossless.legible {schema : Schema} (lossless : schema.Lossless) :
    schema.Printable (Value.Legible id) :=
  Everywhere.imp (fun _ _ => trivial)
    (fun _ here => ⟨here.typeName, here.definition.imp fun _ _ => Value.Lossless.legible⟩) lossless

theorem Schema.Lossless.renumber_id {schema : Schema} (lossless : schema.Lossless) : schema.renumber id = schema := by
  have same (value : Value) : value.OnNumber fun content => id content = content := by
    cases value with
    | number _ => rfl
    | _ => trivial
  exact (Schema.renumber_eq_self_iff id schema).2
    (lossless.imp (fun _ _ => trivial) fun _ here => here.definition.imp fun _ value _ => same value)

namespace Expression

open Json (quote)

/-! ## Values -/

theorem quoted_quote (content : List Char) : Quoted (quote content) content :=
  ⟨_, rfl, Json.spelling_escape content⟩

theorem tokens_flatten (words : List (List Char)) : Tokens words words.flatten := by
  induction words with
  | nil => rfl
  | cons word words ih => exact ⟨word, words.flatten, .alone word, ih, rfl⟩

theorem identifier_of_isTypeName {name : List Char} (named : isTypeName name = true) : Identifier name := by
  obtain ⟨word, rfl, -, uniform⟩ := isTypeName_iff.1 named
  have word : ∀ c ∈ 'Z' :: 'o' :: 'd' :: word, isWordChar c = true := by
    simpa [isWordChar] using uniform
  refine ⟨List.cons_ne_nil _ _, fun c member => ?_⟩
  have isWord := word c member
  simp only [isWordChar] at isWord
  simp only [Text.isIdentifierChar, isWord, Bool.true_or]

/-- The text of a value where it stands, directly under a key or under none. -/
def shown (key? : Option String) (value : Value) : List Char :=
  (key?.bind fun key => bareText? key value).getD (dumpWith bareText? value)

theorem shown_of_unmarked {key? : Option String} {value : Value} (unmarked : ∀ key, bareText? key value = none) :
    shown key? value = dumpWith bareText? value := by
  cases key? with
  | none => rfl
  | some key => rw [shown, Option.bind_some, unmarked key, Option.getD_none]

theorem valueText_shown_of_unmarked {key? : Option String} {value after : Value}
    (unmarked : ∀ key, bareText? key value = none) (derived : ValueText (dumpWith bareText? value) after) :
    ValueText (shown key? value) after := by
  rwa [shown_of_unmarked unmarked]

/-- A string that is no literal's text under a key that names one denotes itself, with quotes or as a type name. -/
theorem valueText_shown_text {key? : Option String} {content : String}
    (plain : ∀ key ∈ key?, FieldKey "regex".toList key.toList → isLiteralText content.toList = false) :
    ValueText (shown key? (.text content)) (.text content) := by
  have atom := Atom.text (quoted_quote content.toList)
  rw [String.ofList_toList] at atom
  have quoted : ValueText (quote content.toList) (.text content) := .atom atom (.alone _)
  cases key? with
  | none => exact quoted
  | some key =>
    rw [shown, Option.bind_some, bareText?]
    split
    · rename_i isName
      have member := ValueText.member (identifier_of_isTypeName isName.2)
        (.pair (.alone typeNameMember) (.alone content.toList))
      rwa [String.ofList_toList] at member
    · split
      · rename_i isRegex
        -- A literal's text under this key would be printed without quotes, and there is none.
        have apart := plain key rfl isRegex.1
        rw [isRegex.2] at apart
        exact nomatch apart
      · exact quoted

theorem valueText_shown_regex {key : String} (isKey : FieldKey "regex".toList key.toList) (literal : Regex.Literal) :
    ValueText (shown (some key) (.regex literal)) (.regex literal) := by
  rw [shown, Option.bind_some, bareText?, if_pos ⟨isKey, isLiteralText_text literal⟩]
  exact .atom (.regex (literalText_text literal)) (.alone _)

end Expression

/-- What a value that is no list and no record is rewritten as is what its text denotes where it stands. -/
def Value.ReadsAs (atom : Option String → Value → Value) (key? : Option String) : Value → Prop
  | .list _ | .record _ => True
  | value => ValueText (shown key? value) (atom key? value)

theorem Value.Legible.readsAs {read : Number → Number} {key? : Option String} {value : Value}
    (legible : value.Legible read key?) : value.ReadsAs (fun _ => Value.renumber read) key? := by
  cases value with
  | null => exact valueText_shown_of_unmarked (fun _ => rfl) (.atom .null (.alone _))
  | bool flag =>
    have atom : Atom (dumpWith bareText? (.bool flag)) (.bool flag) := by
      cases flag
      · exact .no
      · exact .yes
    exact valueText_shown_of_unmarked (fun _ => rfl) (.atom atom (.alone _))
  | number content => exact valueText_shown_of_unmarked (fun _ => rfl) (.atom (.number legible) (.alone _))
  | text content => exact valueText_shown_text legible
  | regex literal =>
    obtain ⟨key, rfl, isKey⟩ := legible
    exact valueText_shown_regex isKey literal
  | list _ => trivial
  | record _ => trivial

namespace Expression

open Json (quote)

theorem entry_of_valueText {key : String} {value after : Value} (derived : ValueText (shown (some key) value) after) :
    Entry ValueText
      (quote key.toList ++ ':' :: (bareText? key value).getD (dumpWith bareText? value)) (key, after) := by
  have entry := Entry.keyed (quoted_quote key.toList) (.pair (.alone _) (.alone [':'])) derived
  rwa [String.ofList_toList, List.append_assoc] at entry

section
variable {atom : Option String → Value → Value}

mutual

/-- The text of a value denotes the value with everything in it rewritten as its own text reads. -/
theorem valueText_shown (value : Value) {key? : Option String} (reads : value.Everywhere (Value.ReadsAs atom) key?)
    (distinct : value.Everywhere (fun _ => Value.Distinct) key?) :
    ValueText (shown key? value) (value.rewrite atom key?) := by
  match value with
  | .null | .bool _ | .number _ | .text _ | .regex _ => exact reads
  | .list items =>
    rw [shown_of_unmarked fun _ => rfl]
    match items with
    | [] => exact .list (.empty (tokens_flatten [['['], [']']]))
    | item :: rest =>
      exact .list (.items (.alone ['[']) (separated_dumpItemsWith (item :: rest) nofun reads.2 distinct.2)
        (.alone [']']))
  | .record entries =>
    rw [shown_of_unmarked fun _ => rfl]
    -- What is rewritten keeps its keys, so no entry of the text replaces another.
    have keys : (Entries.keys (Value.rewriteEntries atom entries)).Nodup := by
      rw [Value.rewriteEntries_eq_mapValues, Entries.keys_mapValues]
      exact distinct.here
    have collected := Record.collected_entries ⟨_, keys⟩
    match entries with
    | [] => exact .record (.empty (tokens_flatten [['{'], ['}']])) collected
    | entry :: rest =>
      exact .record (.items (.alone ['{']) (separated_dumpEntriesWith (entry :: rest) nofun reads.2 distinct.2)
        (.alone ['}'])) collected

theorem separated_dumpItemsWith (items : List Value) (nonempty : items ≠ [])
    (reads : Value.EverywhereIn (Value.ReadsAs atom) items)
    (distinct : Value.EverywhereIn (fun _ => Value.Distinct) items) :
    Separated ValueText (dumpItemsWith bareText? items) (Value.rewriteItems atom items) := by
  match items with
  | [] => exact absurd rfl nonempty
  | [item] => exact .last (valueText_shown item reads.1 distinct.1)
  | item :: next :: rest =>
    exact .more (valueText_shown item reads.1 distinct.1) (.alone [','])
      (separated_dumpItemsWith (next :: rest) nofun reads.2 distinct.2)

theorem separated_dumpEntriesWith (entries : Entries Value) (nonempty : entries ≠ [])
    (reads : Value.EverywhereUnder (Value.ReadsAs atom) entries)
    (distinct : Value.EverywhereUnder (fun _ => Value.Distinct) entries) :
    Separated (Entry ValueText) (dumpEntriesWith bareText? entries) (Value.rewriteEntries atom entries) := by
  match entries with
  | [] => exact absurd rfl nonempty
  | [(key, value)] => exact .last (entry_of_valueText (valueText_shown value reads.1 distinct.1))
  | (key, value) :: next :: rest =>
    have entry := entry_of_valueText (valueText_shown value reads.1 distinct.1)
    have more := Separated.more entry (.alone [','])
      (separated_dumpEntriesWith (next :: rest) nofun reads.2 distinct.2)
    rw [List.append_assoc, List.cons_append] at more
    exact more

end

end

/-! ## Schemas -/

theorem Identifier.unquoted {word : List Char} (identifier : Identifier word) : '"' ∉ word :=
  fun member => absurd (identifier.2 '"' member) (by decide)

theorem printLeaf_congr {leaf other : Leaf} (named : leaf.typeName = other.typeName)
    (dumped : dump (.record leaf.definition.entries) = dump (.record other.definition.entries)) :
    printLeaf leaf = printLeaf other := by
  have text : leafText leaf = leafText other := by
    unfold leafText
    rw [named, dumped]
  exact congrArg (fun text => repairRegexes (repairTypeNames text)) text

theorem recordText_of_valueText {text : List Char} {record : Definition}
    (derived : ValueText text (.record record.entries)) : RecordText text record := by
  generalize whole : Value.record record.entries = value at derived
  cases derived with
  | atom isAtom => cases isAtom <;> exact nomatch whole
  | member _ _ => exact nomatch whole
  | list _ => exact nomatch whole
  | record enclosed collected =>
    obtain rfl := Record.ext (Value.record.inj whole)
    exact ⟨_, enclosed, collected⟩

section
variable {rewriting : Rewriting}

theorem recordText_dumpWith {leaf : Leaf} (reads : leaf.Printable (Value.ReadsAs rewriting.atom))
    (formed : leaf.WellFormed) :
    RecordText (dumpWith bareText? (.record leaf.definition.entries)) (leaf.rewrite rewriting).definition := by
  have derived := valueText_shown (.record leaf.definition.entries) reads.definition ⟨leaf.definition.distinct, formed⟩
  rw [shown_of_unmarked fun _ => rfl, Value.rewrite, ← Leaf.entries_rewrite] at derived
  exact recordText_of_valueText derived

theorem schemaText_printLeaf {leaf : Leaf} (reads : leaf.Printable (Value.ReadsAs rewriting.atom))
    (formed : leaf.WellFormed) : SchemaText (printLeaf leaf) (.leaf (leaf.rewrite rewriting)) := by
  have record := recordText_dumpWith reads formed
  -- Reading makes a leaf anew, with a type name that the definition has already.
  have made : Leaf.make (String.ofList leaf.typeName.toList) (leaf.rewrite rewriting).definition =
      leaf.rewrite rewriting := by
    rw [String.ofList_toList]
    exact (leaf.rewrite rewriting).make_definition
  have space : Token "z.".toList " z.".toList := ⟨[' '], by simp [Text.Blank, Text.isBlank], rfl⟩
  have front : Tokens ["new".toList, "z.".toList, leaf.typeName.toList, ['(']]
      ("new z.".toList ++ leaf.typeName.toList ++ ['(']) := by
    rw [List.append_assoc]
    exact ⟨_, _, .alone "new".toList, ⟨_, _, space, .pair (.alone _) (.alone ['(']), rfl⟩, rfl⟩
  have derived := SchemaText.leaf reads.typeName front record (.alone [')'])
  rwa [made, ← printLeaf_call reads.typeName.unquoted] at derived

theorem identifier_of_isIdentifier {word : List Char} (declared : Text.isIdentifier word = true) : Identifier word := by
  cases word with
  | nil => exact nomatch declared
  | cons c rest =>
    simp only [Text.isIdentifier, Bool.and_eq_true, List.all_eq_true] at declared
    obtain ⟨start, uniform⟩ := declared
    refine ⟨nofun, fun letter member => ?_⟩
    rcases List.mem_cons.1 member with rfl | member
    · exact Text.isIdentifierChar_of_start start
    · exact uniform letter member

theorem fieldWord_fieldKey (name : String) : FieldWord (fieldKey name) name.toList := by
  unfold fieldKey
  split
  · rename_i declared
    exact .bare (identifier_of_isIdentifier declared)
  · exact .quoted (quoted_quote name.toList)

theorem Tokens.behind_blanks {blanks text : List Char} {word : List Char} {words : List (List Char)}
    (blank : Text.Blank blanks) (tokens : Tokens (word :: words) text) : Tokens (word :: words) (blanks ++ text) := by
  obtain ⟨front, rest, token, more, rfl⟩ := tokens
  exact ⟨blanks ++ front, rest, token.behind_blanks blank, more, (List.append_assoc ..).symm⟩

theorem SchemaText.behind_blanks {blanks text : List Char} {schema : Schema} (blank : Text.Blank blanks)
    (derived : SchemaText text schema) : SchemaText (blanks ++ text) schema := by
  cases derived with
  | leaf identifier tokens record closing =>
    rw [← List.append_assoc]
    exact .leaf identifier (tokens.behind_blanks blank) record closing
  | object tokens enclosed collected closing =>
    rw [← List.append_assoc]
    exact .object (tokens.behind_blanks blank) enclosed collected closing
  | wrapped wrapper tokens derived closing =>
    rw [← List.append_assoc]
    exact .wrapped wrapper (tokens.behind_blanks blank) derived closing

theorem schemaText_wrapped {name text : List Char} {wrap : Schema → Schema} {inner : Schema}
    (wrapper : Wrapper name wrap) (derived : SchemaText text inner) :
    SchemaText ("z.".toList ++ (name ++ ['(']) ++ (text ++ [')'])) (wrap inner) :=
  .wrapped wrapper ⟨_, _, .alone _, .pair (.alone name) (.alone ['(']), rfl⟩ derived (.alone [')'])

theorem field_of_schemaText (name : String) {schema : Schema} {text : List Char} (derived : SchemaText text schema) :
    Field SchemaText (fieldKey name ++ ':' :: ' ' :: text) (name, schema) := by
  have space : Text.Blank [' '] := by simp [Text.Blank, Text.isBlank]
  have field := Field.named (fieldWord_fieldKey name) (.pair (.alone _) (.alone [':'])) (derived.behind_blanks space)
  rwa [String.ofList_toList, List.append_assoc] at field

mutual

/-- A printed tree denotes itself, with its values rewritten as their texts read. -/
theorem schemaText_print (schema : Schema) (reads : schema.Printable (Value.ReadsAs rewriting.atom))
    (formed : schema.WellFormed) : SchemaText (print schema) (schema.rewrite rewriting) := by
  match schema with
  | .leaf leaf => exact schemaText_printLeaf reads formed
  | .optional inner => exact schemaText_wrapped .optional (schemaText_print inner reads formed)
  | .nullable inner => exact schemaText_wrapped .nullable (schemaText_print inner reads formed)
  | .array element => exact schemaText_wrapped .array (schemaText_print element reads formed)
  | .object shape =>
    have fields : Enclosed (Field SchemaText) '{' '}' (['{'] ++ (printFields shape ++ ['}']))
        (Schema.rewriteFields rewriting shape) := by
      match shape with
      | [] => exact .empty (tokens_flatten [['{'], ['}']])
      | field :: rest =>
        exact .items (.alone ['{']) (separated_printFields (field :: rest) nofun reads.2 formed.2) (.alone ['}'])
    -- The names of the fields are distinct before and after, so each field stays.
    have names : (Entries.keys (Schema.rewriteFields rewriting shape)).Nodup := by
      rw [Schema.rewriteFields_eq_mapValues, Entries.keys_mapValues]
      exact formed.1
    have collected := Record.collected_entries ⟨_, names⟩
    have front : Tokens ["z.".toList, "object".toList, ['(']] "z.object(".toList :=
      tokens_flatten ["z.".toList, "object".toList, ['(']]
    have whole : print (.object shape) =
        "z.object(".toList ++ ((['{'] ++ (printFields shape ++ ['}'])) ++ [')']) := by
      change ("z.object(".toList ++ ['{']) ++ printFields shape ++ (['}'] ++ [')']) = _
      simp only [List.append_assoc]
    rw [whole]
    exact .object front fields collected (.alone [')'])

theorem separated_printFields (fields : Entries Schema) (nonempty : fields ≠ [])
    (reads : Schema.EverywhereIn (fun _ => True) (Leaf.Printable (Value.ReadsAs rewriting.atom)) fields)
    (formed : Schema.EverywhereIn (fun shape => shape.keys.Nodup) Leaf.WellFormed fields) :
    Separated (Field SchemaText) (printFields fields) (Schema.rewriteFields rewriting fields) := by
  match fields with
  | [] => exact absurd rfl nonempty
  | [(name, field)] => exact .last (field_of_schemaText name (schemaText_print field reads.1 formed.1))
  | (name, field) :: next :: rest =>
    have first := field_of_schemaText name (schemaText_print field reads.1 formed.1)
    have more := Separated.more first (.alone [',']) (separated_printFields (next :: rest) nofun reads.2 formed.2)
    rw [List.append_assoc, List.cons_append, List.cons_append] at more
    exact more

end

/-- A printed tree is read back with its values rewritten as their texts read. -/
theorem readWhole_print_rewrite {schema : Schema} (formed : schema.WellFormed)
    (reads : schema.Printable (Value.ReadsAs rewriting.atom)) :
    readWhole (print schema) = .ok (schema.rewrite rewriting) :=
  readWhole_eq_ok_iff.2 ⟨print schema, [], (List.append_nil _).symm, List.forall_mem_nil _,
    schemaText_print schema reads formed⟩

end

theorem readWhole_print_renumber {read : Number → Number} {schema : Schema} (formed : schema.WellFormed)
    (legible : schema.Printable (Value.Legible read)) :
    readWhole (print schema) = .ok (schema.renumber read) := by
  rw [← Schema.rewrite_renumber]
  exact readWhole_print_rewrite formed (legible.imp fun _ _ => Value.Legible.readsAs)

theorem readWhole_print {schema : Schema} (formed : schema.WellFormed) (lossless : schema.Lossless) :
    readWhole (print schema) = .ok schema := by
  rw [readWhole_print_renumber formed lossless.legible, lossless.renumber_id]

end Expression

namespace Schema

/-- A tree that prints like another one is not read back. -/
theorem ofExpression_print_ne {schema other : Schema} (same : print schema = print other) (apart : other ≠ schema)
    (formed : other.WellFormed) (lossless : other.Lossless) : ofExpression (print schema) ≠ .ok schema := by
  rw [ofExpression, same, readWhole_print formed lossless]
  simpa using apart

/-- Reading undoes printing, with fields and keys in their order. -/
theorem ofExpression_print (schema : Schema) (formed : schema.WellFormed) (lossless : schema.Lossless) :
    ofExpression (print schema) = .ok schema := by
  rw [ofExpression, readWhole_print formed lossless]

theorem ofExpression_print_matching :
    let schema := object [("a b", .leaf (Leaf.string.matching ⟨"a\\/b", "i", rfl, rfl⟩))]
    schema.WellFormed ∧ schema.Lossless ∧ ofExpression (print schema) = .ok schema := by
  intro schema
  have string : Leaf.string.WellFormed :=
    Leaf.wellFormed_make (by simp [Value.Everywhere, Value.EverywhereIn, Value.Distinct]) "ZodString"
  have formed : schema.WellFormed :=
    ⟨by decide, string.withCheck "regex" (by simp [Value.Everywhere, Value.Distinct]), trivial⟩
  have lossless : schema.Lossless := by
    refine ⟨trivial, ⟨⟨by decide, forall_mem_of_all (by decide)⟩, ?_⟩, trivial⟩
    change (Value.record [("checks", .list [.record [("kind", .text "regex"), ("regex", .regex ⟨"a\\/b", "i", rfl, rfl⟩)]]),
      ("typeName", .text "ZodString"), ("coerce", .bool false)]).Everywhere Value.Lossless none
    have isKey : FieldKey "regex".toList "regex".toList := .inl rfl
    have kind : ¬ FieldKey "regex".toList "kind".toList := by decide
    have name : ¬ FieldKey "regex".toList "typeName".toList := by decide
    simp only [Value.Everywhere, Value.EverywhereUnder, Value.EverywhereIn, Value.Lossless, Option.mem_def,
      Option.some.injEq, forall_eq', exists_eq_left', kind, name, isKey, false_implies, and_self]
  exact ⟨formed, lossless, ofExpression_print schema formed lossless⟩

end Schema
end SchemaExport
