import SchemaExport.Proofs.Expression.Containment
import SchemaExport.Proofs.Expression.Demotion

/-! Strings that the printer takes for regular expressions.

Under a key that names a regular expression, a string of a literal's form loses its quotes. It comes back as
that literal, and the rest of the tree as it is, if the string is one literal from end to end. Otherwise
the reader meets something else there, and the first such string decides whether it can go on.
-/

set_option autoImplicit false

namespace SchemaExport

open Expression

/-- Directly under a key that names a regular expression, in the form of one. -/
def Taken (key? : Option String) (content : String) : Prop := UnderRegex key? ∧ isLiteralText content.toList = true

instance (key? : Option String) (content : String) : Decidable (Taken key? content) :=
  inferInstanceAs (Decidable (_ ∧ _))

/-! ## What is taken, and what becomes of it -/

namespace Value

def ofLiteralText (content : String) : Value :=
  match readRegex content.toList with
  | .ok (literal, _) => .regex literal
  | .error _ => .text content

def reread (key? : Option String) : Value → Value
  | .text content => if Taken key? content then ofLiteralText content else .text content
  | .regex literal => if UnderRegex key? then .regex literal else .text (String.ofList literal.text)
  | value => value

mutual

/-- The strings of a value that are taken, in the order in which they are printed. -/
def taken (key? : Option String) : Value → List (List Char)
  | .text content => if Taken key? content then [content.toList] else []
  | .list items => takenItems items
  | .record entries => takenEntries entries
  | _ => []

def takenItems : List Value → List (List Char)
  | [] => []
  | item :: rest => taken none item ++ takenItems rest

def takenEntries : Entries Value → List (List Char)
  | [] => []
  | (key, value) :: rest => taken (some key) value ++ takenEntries rest

end

def Settled : Value → Prop
  | .number (.integer value) => Json.Integer64 value
  | .number (.double _) => False
  | _ => True

end Value

/-- Type names are not taken. -/
def Rewriting.rereading : Rewriting where
  atom := Value.reread
  naming := by
    intro name
    have apart : ¬ Taken (some typeNameKey) name := by
      rintro ⟨⟨key, ⟨⟩, isKey⟩, -⟩
      exact absurd isKey (by decide)
    rw [Value.reread, if_neg apart]

namespace Schema

mutual

def taken : Schema → List (List Char)
  | .object shape => takenFields shape
  | .optional inner => taken inner
  | .nullable inner => taken inner
  | .array element => taken element
  | .leaf node => Value.takenEntries node.definition.entries

def takenFields : Entries Schema → List (List Char)
  | [] => []
  | (_, field) :: rest => taken field ++ takenFields rest

end

def reread (schema : Schema) : Schema := schema.rewrite .rereading

def Settled : Schema → Prop := Printable fun _ => Value.Settled

end Schema

/-! ## Reading back what is contained -/

namespace Value

theorem valueText_shown_regex_quoted {key? : Option String} {literal : Regex.Literal} (apart : ¬ UnderRegex key?) :
    ValueText (shown key? (.regex literal)) (.text (String.ofList literal.text)) := by
  have quoted : shown key? (.regex literal) = Json.quote literal.text := by
    cases key? with
    | none => rfl
    | some key =>
      have other : ¬ (FieldKey "regex".toList key.toList ∧ isLiteralText literal.text = true) :=
        fun named => apart ⟨key, rfl, named.1⟩
      rw [shown, Option.bind_some, bareText?, if_neg other]
      rfl
  rw [quoted]
  exact .atom (.text (quoted_quote literal.text)) (.alone _)

theorem isTypeName_eq_false_of_isLiteralText {text : List Char} (formed : isLiteralText text = true) :
    isTypeName text = false := by
  obtain ⟨source, flags, rfl, -⟩ := isLiteralText_iff.1 formed
  rfl

theorem shown_of_taken {key? : Option String} {content : String} (taken : Taken key? content) :
    shown key? (.text content) = content.toList := by
  obtain ⟨⟨key, rfl, isKey⟩, formed⟩ := taken
  have other : ¬ (FieldKey "typeName".toList key.toList ∧ isTypeName content.toList = true) := by
    rw [isTypeName_eq_false_of_isLiteralText formed]
    exact nofun
  rw [shown, Option.bind_some, bareText?, if_neg other, if_pos ⟨isKey, formed⟩]
  rfl

theorem valueText_ofLiteralText {content : String} (contained : Contained content.toList) :
    ValueText content.toList (ofLiteralText content) := by
  obtain ⟨literal, derived⟩ := contained
  have read : readRegex (content.toList ++ []) = .ok (literal, []) := readRegex_word derived nofun
  rw [List.append_nil] at read
  rw [ofLiteralText, read]
  exact .atom (.regex derived) (.alone _)

theorem Settled.readsAs {value : Value} (settled : value.Settled) {key? : Option String}
    (contained : ∀ text ∈ value.taken key?, Contained text) : value.ReadsAs reread key? := by
  have asBefore (legible : value.Legible id key?) : value.ReadsAs (fun _ => renumber id) key? := legible.readsAs
  cases value with
  | null => exact asBefore trivial
  | bool _ => exact asBefore trivial
  | number content =>
    cases content with
    | integer _ => exact asBefore (Json.readNumber_integerText settled)
    | double _ => exact settled.elim
  | text content =>
    change ValueText (shown key? (.text content)) (reread key? (.text content))
    rw [reread]
    -- A string that is taken has the text of a literal and reads as one; any other reads as itself.
    by_cases isTaken : Taken key? content
    · rw [taken, if_pos isTaken] at contained
      rw [if_pos isTaken, shown_of_taken isTaken]
      exact valueText_ofLiteralText (contained _ (List.mem_singleton_self _))
    · rw [if_neg isTaken]
      refine valueText_shown_text fun key present isKey => ?_
      rw [← Bool.not_eq_true]
      exact fun formed => isTaken ⟨⟨key, present, isKey⟩, formed⟩
  | regex literal =>
    change ValueText (shown key? (.regex literal)) (reread key? (.regex literal))
    rw [reread]
    by_cases under : UnderRegex key?
    · rw [if_pos under]
      obtain ⟨key, rfl, isKey⟩ := under
      exact valueText_shown_regex isKey literal
    · rw [if_neg under]
      exact valueText_shown_regex_quoted under
  | list _ => trivial
  | record _ => trivial

mutual

/-- Where all strings that are taken are contained, the text of each place denotes what the place is rewritten as. -/
theorem readsAs_of_contained (value : Value) {key? : Option String}
    (settled : value.Everywhere (fun _ => Settled) key?) (contained : ∀ text ∈ value.taken key?, Contained text) :
    value.Everywhere (ReadsAs reread) key? := by
  match value with
  | .null | .bool _ | .number _ | .text _ | .regex _ => exact settled.here.readsAs contained
  | .list items => exact ⟨trivial, readsAs_of_contained_items items settled.2 contained⟩
  | .record entries => exact ⟨trivial, readsAs_of_contained_entries entries settled.2 contained⟩

theorem readsAs_of_contained_items (items : List Value) (settled : EverywhereIn (fun _ => Settled) items)
    (contained : ∀ text ∈ takenItems items, Contained text) : EverywhereIn (ReadsAs reread) items := by
  match items with
  | [] => trivial
  | item :: rest =>
    rw [takenItems, List.forall_mem_append] at contained
    exact ⟨readsAs_of_contained item settled.1 contained.1, readsAs_of_contained_items rest settled.2 contained.2⟩

theorem readsAs_of_contained_entries (entries : Entries Value)
    (settled : EverywhereUnder (fun _ => Settled) entries)
    (contained : ∀ text ∈ takenEntries entries, Contained text) : EverywhereUnder (ReadsAs reread) entries := by
  match entries with
  | [] => trivial
  | (_, value) :: rest =>
    rw [takenEntries, List.forall_mem_append] at contained
    exact ⟨readsAs_of_contained value settled.1 contained.1,
      readsAs_of_contained_entries rest settled.2 contained.2⟩

end

end Value

namespace Schema

mutual

theorem readsAs_of_contained (schema : Schema) (settled : schema.Settled)
    (contained : ∀ text ∈ schema.taken, Contained text) : schema.Printable (Value.ReadsAs Value.reread) := by
  match schema with
  | .object shape => exact ⟨trivial, readsAs_of_contained_fields shape settled.2 contained⟩
  | .optional inner => exact readsAs_of_contained inner settled contained
  | .nullable inner => exact readsAs_of_contained inner settled contained
  | .array element => exact readsAs_of_contained element settled contained
  | .leaf node =>
    have here : node.Printable fun _ => Value.Settled := settled
    exact ⟨here.typeName, Value.readsAs_of_contained (.record node.definition.entries) here.definition contained⟩

theorem readsAs_of_contained_fields (fields : Entries Schema)
    (settled : EverywhereIn (fun _ => True) (Leaf.Printable fun _ => Value.Settled) fields)
    (contained : ∀ text ∈ takenFields fields, Contained text) :
    EverywhereIn (fun _ => True) (Leaf.Printable (Value.ReadsAs Value.reread)) fields := by
  match fields with
  | [] => trivial
  | (_, field) :: rest =>
    rw [takenFields, List.forall_mem_append] at contained
    exact ⟨readsAs_of_contained field settled.1 contained.1,
      readsAs_of_contained_fields rest settled.2 contained.2⟩

end

theorem readWhole_print_reread {schema : Schema} (formed : schema.WellFormed) (settled : schema.Settled)
    (contained : ∀ text ∈ schema.taken, Contained text) : readWhole (print schema) = .ok schema.reread :=
  readWhole_print_rewrite formed (readsAs_of_contained schema settled contained)

end Schema

/-! ## Where reading stops -/

namespace Expression

open Json (quote)

variable {text : List Char} {length : Nat}

/-- The first of some texts that is not contained. -/
def firstLoose? (texts : List (List Char)) : Option (List Char) := texts.find? fun text => ¬ Contained text

theorem firstLoose?_eq_none_iff {texts : List (List Char)} :
    firstLoose? texts = none ↔ ∀ text ∈ texts, Contained text := by
  simp [firstLoose?]

theorem firstLoose?_append {front back : List (List Char)} (found : firstLoose? (front ++ back) = some text) :
    firstLoose? front = some text ∨ (∀ text ∈ front, Contained text) ∧ firstLoose? back = some text := by
  rw [firstLoose?, List.find?_append, Option.or_eq_some_iff] at found
  exact found.imp id fun later => ⟨firstLoose?_eq_none_iff.1 later.1, later.2⟩

theorem beginsApart_dumpWith {value : Value} (settled : value.Settled) : BeginsApart ']' (dumpWith bareText? value) := by
  have denoted {value after : Value} (derived : ValueText (shown none value) after) :
      BeginsApart ']' (dumpWith bareText? value) := derived.beginsApart
  cases value with
  | list _ => exact ⟨'[', [], ['['], _, .alone _, rfl, by decide⟩
  | record _ => exact ⟨'{', [], ['{'], _, .alone _, rfl, by decide⟩
  | text content => exact denoted (valueText_shown_text nofun)
  | null | bool _ | number _ | regex _ => exact denoted (settled.readsAs nofun)

theorem eat?_dumpItemsWith {item : Value} (settled : item.Settled) (more : List Value) (rest : List Char) :
    eat? [']'] (dumpItemsWith bareText? (item :: more) ++ rest) = none := by
  have apart := beginsApart_dumpWith settled
  cases more with
  | nil => exact apart.eat?_eq_none rest
  | cons next more =>
    rw [dumpItemsWith, List.append_assoc]
    · exact apart.eat?_eq_none _
    · rintro ⟨⟩

theorem eat?_dumpEntriesWith (entry : String × Value) (more : Entries Value) (rest : List Char) :
    eat? ['}'] (dumpEntriesWith bareText? (entry :: more) ++ rest) = none := by
  cases more <;> rfl

theorem dumpEntriesWith_singleton (key : String) (value : Value) :
    dumpEntriesWith bareText? [(key, value)] = quote key.toList ++ ':' :: shown (some key) value := rfl

theorem dumpEntriesWith_cons (entry next : String × Value) (more : Entries Value) :
    dumpEntriesWith bareText? (entry :: next :: more) =
      dumpEntriesWith bareText? [entry] ++ ',' :: dumpEntriesWith bareText? (next :: more) := by
  simp only [dumpEntriesWith, List.append_assoc, List.cons_append]

section
variable {fault : Fault}

theorem stuck_readValue_text {key? : Option String} {content : String} {depth : Nat} {rest : List Char}
    (found : firstLoose? (Value.taken key? (.text content)) = some text)
    (breaks : Breaks text fault) (ends : EndsToken rest) :
    Stuck (Breaks text) key? (readValue length (depth + 1) (shown key? (.text content) ++ rest)) := by
  by_cases isTaken : Taken key? content
  · rw [Value.taken, if_pos isTaken] at found
    obtain rfl : content.toList = text := List.mem_singleton.1 (List.mem_of_find?_eq_some found) |>.symm
    -- Only what stands under a key is taken, so what a literal leaves is met by a record.
    have keyed : key? ≠ none := by
      rintro rfl
      obtain ⟨⟨_, ⟨⟩, _⟩, _⟩ := isTaken
    obtain ⟨source, flags, whole, -⟩ := isLiteralText_iff.1 isTaken.2
    rw [Value.shown_of_taken isTaken, whole]
    rw [whole] at breaks
    exact (stuck_readRegex breaks ends.lower keyed).bind Value.regex
  · rw [Value.taken, if_neg isTaken] at found
    exact nomatch found

mutual

/-- Reading stops at the first text that breaks. The induction carries where a value stands, since only under a key
is a string taken and may a literal end early; the values in front are read to their ends. -/
theorem stuck_readValue (value : Value) {key? : Option String} {depth : Nat} {rest : List Char}
    (settled : value.Everywhere (fun _ => Value.Settled) key?)
    (distinct : value.Everywhere (fun _ => Value.Distinct) key?)
    (found : firstLoose? (value.taken key?) = some text) (breaks : Breaks text fault)
    (short : (shown key? value).length < depth) (enough : depth ≤ length) (ends : EndsToken rest) :
    Stuck (Breaks text) key? (readValue length depth (shown key? value ++ rest)) := by
  obtain ⟨depth, rfl⟩ := Nat.exists_eq_succ_of_ne_zero (Nat.ne_zero_of_lt short)
  match value with
  | .null | .bool _ | .number _ | .regex _ => exact nomatch found
  | .text content => exact stuck_readValue_text found breaks ends
  | .list [] => exact nomatch found
  | .list (item :: more) =>
    rw [shown_of_unmarked fun _ => rfl, dumpWith] at short ⊢
    simp only [List.length_cons, List.length_append, List.length_nil] at short
    have fails := fails_readSeparated_items (item :: more) rest settled.2 distinct.2 found breaks
      (by omega : _ < depth) (by omega : depth ≤ length) (by omega : _ < length)
    refine .inl ?_
    rw [List.cons_append, List.append_assoc]
    exact fails_readValue_list fails (eat?_dumpItemsWith settled.2.1.here more _)
  | .record [] => exact nomatch found
  | .record (entry :: more) =>
    rw [shown_of_unmarked fun _ => rfl, dumpWith] at short ⊢
    simp only [List.length_cons, List.length_append, List.length_nil] at short
    have fails := fails_readSeparated_entries (entry :: more) rest settled.2 distinct.2 found breaks
      (by omega : _ < depth) (by omega : depth ≤ length) (by omega : _ < length)
    refine .inl ?_
    rw [List.cons_append, List.append_assoc]
    exact fails_readValue_record (fails_readRecord fails (eat?_dumpEntriesWith entry more _))

theorem fails_readSeparated_items (items : List Value) {depth budget : Nat} (rest : List Char)
    (settled : Value.EverywhereIn (fun _ => Value.Settled) items)
    (distinct : Value.EverywhereIn (fun _ => Value.Distinct) items)
    (found : firstLoose? (Value.takenItems items) = some text) (breaks : Breaks text fault)
    (short : (dumpItemsWith bareText? items).length < depth) (enough : depth ≤ length)
    (fits : (dumpItemsWith bareText? items).length < budget) :
    Fails (Breaks text)
      (readSeparated (readValue length depth) "]" budget (dumpItemsWith bareText? items ++ ([']'] ++ rest))) := by
  obtain ⟨budget, rfl⟩ := Nat.exists_eq_succ_of_ne_zero (Nat.ne_zero_of_lt fits)
  match items with
  | [] => exact nomatch found
  | [item] =>
    rw [Value.takenItems, Value.takenItems, List.append_nil] at found
    have ends : EndsToken ([']'] ++ rest) := Token.endsToken (.alone [']']) (by decide) rest
    exact fails_readSeparated (stuck_readValue item settled.1 distinct.1 found breaks short enough ends).fails
  | item :: next :: more =>
    simp only [dumpItemsWith, List.length_append, List.length_cons] at short fits
    have ends : EndsToken (',' :: (dumpItemsWith bareText? (next :: more) ++ ([']'] ++ rest))) :=
      Token.endsToken (.alone [',']) (by decide) _
    have fewer : (shown none item).length < depth := by
      change (dumpWith bareText? item).length < depth
      omega
    rw [dumpItemsWith, List.append_assoc, List.cons_append]
    · -- Either the text is in this member, or the member is read to its end and the comma behind it is eaten.
      rcases firstLoose?_append found with first | ⟨contained, later⟩
      · exact fails_readSeparated (stuck_readValue item settled.1 distinct.1 first breaks fewer enough ends).fails
      · have derived := valueText_shown item (Value.readsAs_of_contained item settled.1 contained) distinct.1
        exact fails_readSeparated_more (readValue_complete enough derived fewer ends)
          (fails_readSeparated_items (next :: more) rest settled.2 distinct.2 later breaks (by omega) enough (by omega))
    · exact nofun

theorem fails_readSeparated_entries (entries : Entries Value) {depth budget : Nat} (rest : List Char)
    (settled : Value.EverywhereUnder (fun _ => Value.Settled) entries)
    (distinct : Value.EverywhereUnder (fun _ => Value.Distinct) entries)
    (found : firstLoose? (Value.takenEntries entries) = some text) (breaks : Breaks text fault)
    (short : (dumpEntriesWith bareText? entries).length < depth) (enough : depth ≤ length)
    (fits : (dumpEntriesWith bareText? entries).length < budget) :
    Fails (Breaks text)
      (readSeparated (readEntry (readValue length depth)) "\x7d" budget
        (dumpEntriesWith bareText? entries ++ (['}'] ++ rest))) := by
  obtain ⟨budget, rfl⟩ := Nat.exists_eq_succ_of_ne_zero (Nat.ne_zero_of_lt fits)
  match entries with
  | [] => exact nomatch found
  | [(key, value)] =>
    rw [Value.takenEntries, Value.takenEntries, List.append_nil] at found
    rw [dumpEntriesWith_singleton] at short ⊢
    simp only [List.length_append, List.length_cons] at short
    have ends : EndsToken (['}'] ++ rest) := Token.endsToken (.alone ['}']) (by decide) rest
    have stuck := stuck_readValue value settled.1 distinct.1 found breaks (by omega) enough ends
    rw [List.append_assoc, List.cons_append]
    exact fails_readSeparated_of_stuck (stuck_readEntry (quoted_quote key.toList) stuck)
  | (key, value) :: next :: more =>
    rw [dumpEntriesWith_cons, dumpEntriesWith_singleton] at short fits ⊢
    simp only [List.length_append, List.length_cons] at short fits
    have ends : EndsToken (',' :: (dumpEntriesWith bareText? (next :: more) ++ (['}'] ++ rest))) :=
      Token.endsToken (.alone [',']) (by decide) _
    rw [List.append_assoc, List.cons_append]
    rcases firstLoose?_append found with first | ⟨contained, later⟩
    · have stuck := stuck_readValue value settled.1 distinct.1 first breaks (by omega) enough ends
      rw [List.append_assoc, List.cons_append]
      exact fails_readSeparated_of_stuck (stuck_readEntry (quoted_quote key.toList) stuck)
    · have derived := valueText_shown value (Value.readsAs_of_contained value settled.1 contained) distinct.1
      -- The text that breaks stands further on, so this entry is read to its end.
      have entry := entry_of_valueText derived
      have fewer : (quote key.toList ++ ':' :: shown (some key) value).length < depth := by
        simp only [List.length_append, List.length_cons]
        omega
      exact fails_readSeparated_more (readEntry_complete (readValue_complete enough) entry fewer ends)
        (fails_readSeparated_entries (next :: more) rest settled.2 distinct.2 later breaks (by omega) enough (by omega))

end

theorem fails_readLeaf_printed {node : Leaf} (rest : List Char) (settled : node.Printable fun _ => Value.Settled)
    (formed : node.WellFormed) (found : firstLoose? (Value.takenEntries node.definition.entries) = some text)
    (breaks : Breaks text fault) (short : (printLeaf node).length ≤ length) {depth : Nat} :
    Fails (Breaks text) (readSchema length (depth + 1) (printLeaf node ++ rest)) := by
  have record : dumpWith bareText? (.record node.definition.entries) =
      '{' :: (dumpEntriesWith bareText? node.definition.entries ++ ['}']) := rfl
  rw [printLeaf_call settled.typeName.unquoted, record] at short ⊢
  simp only [List.length_append, List.length_cons] at short
  have fails := fails_readSeparated_entries node.definition.entries (')' :: rest) settled.definition.2 formed found
    breaks (by omega : _ < length) (Nat.le_refl length) (by omega : _ < length)
  have unclosed : eat? ['}'] (dumpEntriesWith bareText? node.definition.entries ++ (['}'] ++ ')' :: rest)) = none := by
    cases entries : node.definition.entries with
    | nil =>
      rw [entries] at found
      exact nomatch found
    | cons entry more => exact eat?_dumpEntriesWith entry more _
  have leaf : Fails (Breaks text) (readSchema length (depth + 1) ("new".toList ++ (" z.".toList ++ _))) :=
    fails_readSchema_leaf (fails_readLeaf settled.typeName (fails_readRecord fails unclosed))
  -- The printer writes one word where the reader takes two.
  have split : "new z.".toList = "new".toList ++ " z.".toList := rfl
  rw [split]
  simpa only [List.append_assoc, List.cons_append, List.nil_append] using leaf

theorem printFields_singleton (name : String) (field : Schema) :
    printFields [(name, field)] = fieldKey name ++ ':' :: ' ' :: print field := rfl

theorem printFields_cons (field next : String × Schema) (more : Entries Schema) :
    printFields (field :: next :: more) = printFields [field] ++ ',' :: printFields (next :: more) := by
  simp only [printFields, List.append_assoc, List.cons_append]

theorem eat?_printFields (field : String × Schema) (more : Entries Schema) (rest : List Char) :
    eat? ['}'] (printFields (field :: more) ++ rest) = none := by
  obtain ⟨c, tail, named, visible, apart⟩ := (fieldWord_fieldKey field.1).exists_cons
  have token : Token (c :: tail) (fieldKey field.1) := named ▸ .alone _
  obtain ⟨behind, whole⟩ : ∃ behind, printFields (field :: more) = fieldKey field.1 ++ behind := by
    cases more with
    | nil => exact ⟨_, rfl⟩
    | cons next more => exact ⟨_, rfl⟩
  rw [whole, List.append_assoc]
  exact eat?_eq_none token visible apart ⟨[], rfl⟩ _

theorem print_wrapped {name : List Char} {wrap : Schema → Schema} (wrapper : Wrapper name wrap) (inner : Schema) :
    print (wrap inner) = "z.".toList ++ (name ++ ['(']) ++ print inner ++ [')'] := by
  cases wrapper <;> rfl

theorem print_object (shape : Entries Schema) :
    print (.object shape) = "z.".toList ++ ("object".toList ++ '(' :: '{' :: (printFields shape ++ ['}', ')'])) := by
  change ("z.".toList ++ ("object".toList ++ ['(', '{'])) ++ printFields shape ++ ['}', ')'] = _
  simp only [List.append_assoc, List.cons_append, List.nil_append]

theorem fails_readSchema_print {name : List Char} {wrap : Schema → Schema} (wrapper : Wrapper name wrap)
    {inner : Schema} {depth : Nat} {rest : List Char} (short : (print (wrap inner)).length < depth + 1)
    (fails : (print inner).length < depth →
      Fails (Breaks text) (readSchema length depth (print inner ++ ([')'] ++ rest)))) :
    Fails (Breaks text) (readSchema length (depth + 1) (print (wrap inner) ++ rest)) := by
  rw [print_wrapped wrapper] at short ⊢
  simp only [List.length_append, List.length_singleton] at short
  simpa only [List.append_assoc, List.cons_append, List.nil_append] using
    fails_readSchema_wrapped wrapper (fails (by omega))

mutual

/-- As for values, with the fields in front read to their ends. -/
theorem fails_readSchema (schema : Schema) {depth : Nat} (rest : List Char) (settled : schema.Settled)
    (formed : schema.WellFormed) (found : firstLoose? schema.taken = some text) (breaks : Breaks text fault)
    (short : (print schema).length < depth) (enough : depth ≤ length) :
    Fails (Breaks text) (readSchema length depth (print schema ++ rest)) := by
  obtain ⟨depth, rfl⟩ := Nat.exists_eq_succ_of_ne_zero (Nat.ne_zero_of_lt short)
  match schema with
  | .leaf node =>
    have short : (printLeaf node).length < depth + 1 := short
    exact fails_readLeaf_printed rest settled formed found breaks (by omega)
  | .optional inner =>
    exact fails_readSchema_print .optional short fun fewer =>
      fails_readSchema inner _ settled formed found breaks fewer (by omega)
  | .nullable inner =>
    exact fails_readSchema_print .nullable short fun fewer =>
      fails_readSchema inner _ settled formed found breaks fewer (by omega)
  | .array element =>
    exact fails_readSchema_print .array short fun fewer =>
      fails_readSchema element _ settled formed found breaks fewer (by omega)
  | .object [] => exact nomatch found
  | .object (field :: more) =>
    rw [print_object] at short ⊢
    simp only [List.length_append, List.length_cons] at short
    have fails := fails_readSeparated_fields (field :: more) (')' :: rest) settled.2 formed.2 found breaks
      (by omega : _ < depth) (by omega : depth ≤ length) (by omega : _ < length)
    simpa only [List.append_assoc, List.cons_append, List.nil_append] using
      fails_readSchema_object fails (eat?_printFields field more _)

theorem fails_readSeparated_fields (fields : Entries Schema) {depth budget : Nat} (rest : List Char)
    (settled : Schema.EverywhereIn (fun _ => True) (Leaf.Printable fun _ => Value.Settled) fields)
    (formed : Schema.EverywhereIn (fun shape => shape.keys.Nodup) Leaf.WellFormed fields)
    (found : firstLoose? (Schema.takenFields fields) = some text) (breaks : Breaks text fault)
    (short : (printFields fields).length < depth) (enough : depth ≤ length)
    (fits : (printFields fields).length < budget) :
    Fails (Breaks text)
      (readSeparated (readField (readSchema length depth)) "\x7d" budget (printFields fields ++ (['}'] ++ rest))) := by
  obtain ⟨budget, rfl⟩ := Nat.exists_eq_succ_of_ne_zero (Nat.ne_zero_of_lt fits)
  match fields with
  | [] => exact nomatch found
  | [(name, field)] =>
    rw [Schema.takenFields, Schema.takenFields, List.append_nil] at found
    rw [printFields_singleton] at short ⊢
    simp only [List.length_append, List.length_cons] at short
    have fails := fails_readSchema field (['}'] ++ rest) settled.1 formed.1 found breaks (by omega : _ < depth) enough
    rw [← readSchema_space] at fails
    rw [List.append_assoc, List.cons_append]
    exact fails_readSeparated (fails_readField (fieldWord_fieldKey name) fails)
  | (name, field) :: next :: more =>
    rw [printFields_cons, printFields_singleton] at short fits ⊢
    simp only [List.length_append, List.length_cons] at short fits
    rw [List.append_assoc, List.cons_append]
    rcases firstLoose?_append found with first | ⟨contained, later⟩
    · have fails := fails_readSchema field (',' :: (printFields (next :: more) ++ (['}'] ++ rest))) settled.1 formed.1
        first breaks (by omega : _ < depth) enough
      rw [← readSchema_space] at fails
      rw [List.append_assoc, List.cons_append]
      exact fails_readSeparated (fails_readField (fieldWord_fieldKey name) fails)
    · -- The first field is read to its end, and the text that breaks stands further on.
      have reads : field.Printable (Value.ReadsAs Rewriting.rereading.atom) :=
        Schema.readsAs_of_contained field settled.1 contained
      have derived := field_of_schemaText name (schemaText_print field reads formed.1)
      have complete : Complete (readSchema length depth) SchemaText depth EndsToken :=
        (readSchema_complete enough).mono fun _ _ => trivial
      have fewer : (fieldKey name ++ ':' :: ' ' :: print field).length < depth := by
        simp only [List.length_append, List.length_cons]
        omega
      have ends : EndsToken (',' :: (printFields (next :: more) ++ (['}'] ++ rest))) :=
        Token.endsToken (.alone [',']) (by decide) _
      exact fails_readSeparated_more (readField_complete complete derived fewer ends)
        (fails_readSeparated_fields (next :: more) rest settled.2 formed.2 later breaks (by omega) enough (by omega))

end

/-- The first string that is no literal from end to end breaks the expression, if it is read as a text that does. -/
theorem fails_readWhole {schema : Schema} (formed : schema.WellFormed) (settled : schema.Settled)
    (found : firstLoose? schema.taken = some text) (breaks : Breaks text fault) :
    Fails (Breaks text) (readWhole (print schema)) := by
  have fails := fails_readSchema schema [] settled formed found breaks (Nat.lt_succ_self _) (Nat.le_refl _)
  rw [List.append_nil] at fails
  exact fails.bind _

end

end Expression

namespace Schema

/-- A printed tree is read back, with each string that was taken as the literal that it is, if each is one from
end to end. The first one that is not ends the reading where it is refused, or closed in front of what goes on
no record. -/
theorem ofExpression_print_taken (schema : Schema) (formed : schema.WellFormed) (settled : schema.Settled) :
    ((∀ text ∈ schema.taken, Contained text) → ofExpression (print schema) = .ok schema.reread) ∧
      (∀ text, firstLoose? schema.taken = some text → (∃ fault, Breaks text fault) →
        ∃ fault, Breaks text fault ∧ ofExpression (print schema) = .error (fault.error 0 (print schema))) ∧
      ∀ source flags, '/' ∉ flags → (Contained ('/' :: (source ++ '/' :: flags)) ↔
        Regex.Unbroken .start source ∧ ∃ literal, Regex.Literal.make source flags = .ok literal) := by
  refine ⟨fun contained => ?_, fun text found broken => ?_, fun _ _ => contained_delimited_iff⟩
  · rw [ofExpression, readWhole_print_reread formed settled contained]
  · obtain ⟨_, breaks⟩ := broken
    obtain ⟨fault, read, same⟩ := fails_readWhole formed settled found breaks
    exact ⟨fault, same, by rw [ofExpression, read]⟩

/-- A carriage return in one string, and a slash in a class under a key that only ends in the name in the other. -/
theorem ofExpression_print_taken_nested :
    let schema := object [("f", .optional (.leaf (.make "ZodAny" (.ofEntries [("regex", .text "/a\r/i"),
      ("list", .list [.record [("\"regex", .text "/[/]/")], .text "/b/b/"])]))))]
    let reread := object [("f", .optional (.leaf (.make "ZodAny" (.ofEntries [("regex", .regex ⟨"a\\r", "i", rfl, rfl⟩),
      ("list", .list [.record [("\"regex", .regex ⟨"[/]", "", rfl, rfl⟩)], .text "/b/b/"])]))))]
    schema.WellFormed ∧ schema.Settled ∧ (∀ text ∈ schema.taken, Contained text) ∧
      ofExpression (print schema) = .ok reread := by
  intro schema reread
  have formed : schema.WellFormed := by
    refine ⟨by decide, Leaf.wellFormed_make ?_ "ZodAny", trivial⟩
    simp [Value.Everywhere, Value.EverywhereUnder, Value.EverywhereIn, Value.Distinct, Entries.keys]
  have settled : schema.Settled :=
    ⟨trivial, ⟨⟨by decide, forall_mem_of_all (by decide)⟩, trivial, trivial,
      ⟨trivial, ⟨trivial, trivial, trivial⟩, trivial, trivial⟩, trivial, trivial⟩, trivial⟩
  have contained : ∀ text ∈ schema.taken, Contained text := by decide
  have same : schema.reread = reread := rfl
  exact ⟨formed, settled, contained, same ▸ (ofExpression_print_taken schema formed settled).1 contained⟩

/-- A slash in the middle closes a literal. What follows is refused as its flags, or stands for an entry of its own. -/
theorem ofExpression_print_taken_loose :
    let refused := leaf (.make "ZodAny" (.ofEntries [("regex", .text "/a/b/")]))
    let spread := leaf (.make "ZodAny" (.ofEntries [("regex", .text "/a/,\"x\":/b/")]))
    let reread := leaf (.make "ZodAny" (.ofEntries [("regex", .regex ⟨"a", "", rfl, rfl⟩), ("x", .regex ⟨"b", "", rfl, rfl⟩)]))
    refused.WellFormed ∧ refused.Settled ∧
      ofExpression (print refused) = .error (.regex ⟨"a", "b", "unsupported flag \x60b\x60"⟩) ∧
      spread.WellFormed ∧ spread.Settled ∧ ofExpression (print spread) = .ok reread := by
  intro refused spread reread
  have formed (content : String) : (leaf (.make "ZodAny" (.ofEntries [("regex", .text content)]))).WellFormed :=
    Leaf.wellFormed_make (by simp [Value.Everywhere, Value.Distinct]) "ZodAny"
  have word : Identifier "ZodAny".toList := ⟨by decide, forall_mem_of_all (by decide)⟩
  have settled (content : String) : (leaf (.make "ZodAny" (.ofEntries [("regex", .text content)]))).Settled :=
    ⟨word, trivial, trivial, trivial, trivial⟩
  exact ⟨formed _, settled _, rfl, formed _, settled _, rfl⟩

end Schema

end SchemaExport
