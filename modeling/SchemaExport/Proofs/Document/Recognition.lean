import SchemaExport.Proofs.Document.RoundTrip
import SchemaExport.Proofs.Expression.TypeName

/-! The loader and the printer take the same texts for literals.

The loader looks for the first slash and the last one with lower case letters behind, the printer for
one line between slashes with flags behind. Whatever has the printer's form has the loader's, and the
text of a literal has both. So under the key `regex` a loaded document has no string that the printer
would put for a literal, and no literal that it would leave between quotes.
-/

set_option autoImplicit false

namespace SchemaExport

open Expression

namespace Value

inductive HasEntry (key : String) (value : Value) : Value → Prop where
  | here {entries : Entries Value} : (key, value) ∈ entries → HasEntry key value (.record entries)
  | item {items : List Value} {item : Value} : item ∈ items → HasEntry key value item →
      HasEntry key value (.list items)
  | under {entries : Entries Value} {other : String} {inner : Value} : (other, inner) ∈ entries →
      HasEntry key value inner → HasEntry key value (.record entries)

section
variable {Holds : Option String → Value → Prop}

theorem EverywhereIn.of_mem {items : List Value} (everywhere : EverywhereIn Holds items) {item : Value}
    (member : item ∈ items) : item.Everywhere Holds none := by
  induction items with
  | nil => exact nomatch member
  | cons first rest ih =>
    rcases List.mem_cons.1 member with rfl | member
    · exact everywhere.1
    · exact ih everywhere.2 member

theorem EverywhereUnder.of_mem {entries : Entries Value} (everywhere : EverywhereUnder Holds entries)
    {key : String} {value : Value} (member : (key, value) ∈ entries) : value.Everywhere Holds (some key) := by
  induction entries with
  | nil => exact nomatch member
  | cons first rest ih =>
    rcases List.mem_cons.1 member with rfl | member
    · exact everywhere.1
    · exact ih everywhere.2 member

theorem Everywhere.hasEntry {key : String} {value container : Value} (has : HasEntry key value container)
    {key? : Option String} (everywhere : container.Everywhere Holds key?) : Holds (some key) value := by
  induction has generalizing key? with
  | here member => exact (everywhere.2.of_mem member).here
  | item member _ ih => exact ih (everywhere.2.of_mem member)
  | under member _ ih => exact ih (everywhere.2.of_mem member)

end

end Value

/-! ## Entries under `regex` -/

namespace Expression

open Json (quote)

/-- The text that is printed for a value under `regex`: by the repair, wherever it comes upon the entry in
front of what may follow a value, and in the dump of a whole record. -/
structure PrintsAs (value : Value) (text : List Char) : Prop where
  repaired : ∀ rest, Closed rest → repairRegexes (quote "regex".toList ++ ':' :: (dump value ++ rest)) =
    quote "regex".toList ++ ':' :: (text ++ repairRegexes rest)
  printed : (bareText? "regex" value).getD (dump value) = text

theorem repairRegexes_entry (content : List Char) {rest : List Char} (closed : Closed rest) :
    repairRegexes (quote "regex".toList ++ ':' :: (quote content ++ rest)) = quote "regex".toList ++
      ':' :: ((if isLiteralText content then some content else none).getD (quote content) ++ repairRegexes rest) :=
  regexRepair.replaceAll_fieldKey (.inl rfl) closed

theorem printsAs_text {content : String} (other : isLiteralText content.toList = false) :
    PrintsAs (.text content) (quote content.toList) where
  repaired rest closed := by
    have entry := repairRegexes_entry content.toList closed
    rw [other] at entry
    exact entry
  printed := by
    have apart : ¬ FieldKey "typeName".toList "regex".toList := by decide
    rw [bareText?, if_neg fun named => apart named.1, if_neg fun formed => Bool.false_ne_true (other.symm.trans formed.2)]
    rfl

theorem printsAs_regex (literal : Regex.Literal) : PrintsAs (.regex literal) literal.text where
  repaired rest closed := by
    have entry := repairRegexes_entry literal.text closed
    rw [isLiteralText_text literal] at entry
    exact entry
  printed := by
    rw [bareText?, if_pos ⟨.inl rfl, isLiteralText_text literal⟩]
    rfl

end Expression

namespace Document

/-! ## Loaded documents -/

theorem isSome_ofText?_of_isLiteralText {text : List Char} (formed : isLiteralText text = true) :
    (Regex.Literal.ofText? text).isSome = true := by
  rw [← Option.ne_none_iff_isSome]
  intro unread
  exact nomatch formed.symm.trans (isLiteralText_of_ofText? unread)

theorem loaded_leaf_of_parse {source : List Char} {document : Document} (parsed : parse source = .ok document)
    {entry : String × Schema} (member : entry ∈ document.schemas.entries) {leaf : Leaf} (part : Schema.Part (.leaf leaf) entry.2) :
    leaf.Loaded := part.everywhere (loaded_of_parse parsed entry member)

/-- What the printer takes for a literal the loader reads as one, or refuses, and the text of a literal is
taken by the printer. So under `regex` all strings of a loaded document are printed with their quotes and
all regular expressions without, unless a field for one stands in the type name before the record. -/
theorem recognisers_agree :
    (∀ text, isLiteralText text = true → (Regex.Literal.ofText? text).isSome = true) ∧
    (∀ source flags literal, Regex.Literal.make source flags = .ok literal → isLiteralText literal.text = true) ∧
    ∀ source document, parse source = .ok document → ∀ entry ∈ document.schemas.entries,
      ∀ leaf, Schema.Part (.leaf leaf) entry.2 →
        (∀ content, Value.HasEntry "regex" (.text content) (.record leaf.definition.entries) →
          isLiteralText content.toList = false ∧ PrintsAs (.text content) (Json.quote content.toList)) ∧
        (∀ literal, Value.HasEntry "regex" (.regex literal) (.record leaf.definition.entries) →
          PrintsAs (.regex literal) literal.text) ∧
        (¬ regexField <:+: leaf.typeName.toList →
          printLeaf leaf = repairTypeNames ("new z.".toList ++ leaf.typeName.toList) ++
            '(' :: (dumpWith bareText? (.record leaf.definition.entries) ++ [')'])) := by
  refine ⟨fun _ => isSome_ofText?_of_isLiteralText, fun source flags literal _ => ?_,
    fun source document parsed entry member leaf part => ?_⟩
  · exact isLiteralText_text literal
  · have loaded := loaded_leaf_of_parse parsed member part
    refine ⟨fun content has => ?_, fun literal has => ?_, printLeaf_of_absent⟩
    · have other : isLiteralText content.toList = false := loaded.hasEntry has rfl
      exact ⟨other, printsAs_text other⟩
    · exact printsAs_regex literal

/-- A text that both take and the loader refuses, a type name with a quote, a literal in a record of a list,
and a string that neither takes. -/
theorem recognisers_agree_nested :
    let source := "\x7b\"schemas\":\x7b\"S\":\x7b\"kind\":\"array\",\"element\":\x7b\"kind\":\"leaf\",".toList ++
      "\"typeName\":\"Zod\\\"X\",\"def\":\x7b\"a\":[\x7b\"regex\":\"/[/]/g\"\x7d],\"regex\":\"/a/ b\"".toList ++
      "\x7d\x7d\x7d\x7d\x7d".toList
    let leaf := Leaf.make "Zod\"X" (.ofEntries [("a", .list [.record [("regex", .regex ⟨"[/]", "g", rfl, rfl⟩)]]),
      ("regex", .text "/a/ b")])
    let entry := ("S", Schema.array (.leaf leaf))
    isLiteralText "/a/[/g".toList = true ∧ (Regex.Literal.ofText? "/a/[/g".toList).isSome = true ∧
      Regex.Literal.make "a/\n".toList ['g'] = .ok ⟨"a\\/\\n", "g", rfl, rfl⟩ ∧ isLiteralText "/a\\/\\n/g".toList = true ∧
      parse source = .ok ⟨none, .ofEntries [entry]⟩ ∧ Schema.Part (.leaf leaf) entry.2 ∧
      Value.HasEntry "regex" (.text "/a/ b") (.record leaf.definition.entries) ∧
      PrintsAs (.text "/a/ b") "\"/a/ b\"".toList ∧
      Value.HasEntry "regex" (.regex ⟨"[/]", "g", rfl, rfl⟩) (.record leaf.definition.entries) ∧
      PrintsAs (.regex ⟨"[/]", "g", rfl, rfl⟩) "/[/]/g".toList ∧
      ¬ regexField <:+: leaf.typeName.toList ∧
      printLeaf leaf = ("new z.Zod\"X(\x7b\"a\":[\x7b\"regex\":/[/]/g\x7d],\"regex\":\"/a/ b\",".toList ++
        "\"typeName\":\"Zod\\\"X\"\x7d)".toList) := by
  intro source leaf entry
  have formed : isLiteralText "/a/[/g".toList = true := by decide
  have made : Regex.Literal.make "a/\n".toList ['g'] = .ok ⟨"a\\/\\n", "g", rfl, rfl⟩ := rfl
  have read : readDraft source = .ok ⟨none, .ofEntries [("S", .array (.leaf "Zod\"X"
      (.ofEntries [("a", .list [.object [("regex", .text "/[/]/g")]]), ("regex", .text "/a/ b")])))]⟩ := by
    unfold source
    cbv
  have parsed : parse source = .ok ⟨none, .ofEntries [entry]⟩ := by
    rw [parse, read]
    rfl
  have part : Schema.Part (.leaf leaf) entry.2 := .array .self
  have string : Value.HasEntry "regex" (.text "/a/ b") (.record leaf.definition.entries) :=
    .here (.tail _ (.head _))
  have literal : Value.HasEntry "regex" (.regex ⟨"[/]", "g", rfl, rfl⟩) (.record leaf.definition.entries) :=
    .under (.head _) (.item (.head _) (.here (.head _)))
  have absent : ¬ regexField <:+: leaf.typeName.toList := fun inside => absurd inside.length_le (by decide)
  obtain ⟨read, taken, documents⟩ := recognisers_agree
  obtain ⟨strings, literals, printed⟩ := documents source _ parsed entry (List.mem_singleton.2 rfl) leaf part
  exact ⟨formed, read _ formed, made, taken _ _ _ made, parsed, part, string, (strings _ string).2, literal, literals _ literal, absent,
    (printed absent).trans (by decide)⟩

/-- A string that a type name opens takes the quote of the first key along, and the literal under it keeps
its own. -/
theorem recognisers_agree_opened :
    let source := "\x7b\"schemas\":\x7b\"S\":\x7b\"kind\":\"leaf\",\"typeName\":\"\\\"regex\\\":\\\"\",".toList ++
      "\"def\":\x7b\"regex\":\"/a/\"\x7d\x7d\x7d\x7d".toList
    let leaf := Leaf.make "\"regex\":\"" (.ofEntries [("regex", .regex ⟨"a", "", rfl, rfl⟩)])
    parse source = .ok ⟨none, .ofEntries [("S", .leaf leaf)]⟩ ∧
      Value.HasEntry "regex" (.regex ⟨"a", "", rfl, rfl⟩) (.record leaf.definition.entries) ∧
      printLeaf leaf = ("new z.\"regex\":\"(\x7b\"regex\":\"/a/\",".toList ++
        "\"typeName\":\"\\\"regex\\\":\\\"\"\x7d)".toList) ∧
      printLeaf leaf ≠ repairTypeNames ("new z.".toList ++ leaf.typeName.toList) ++
        '(' :: (dumpWith bareText? (.record leaf.definition.entries) ++ [')']) := by
  intro source leaf
  have read : readDraft source = .ok ⟨none, .ofEntries [("S", .leaf "\"regex\":\""
      (.ofEntries [("regex", .text "/a/")]))]⟩ := by
    unfold source
    cbv
  have parsed : parse source = .ok ⟨none, .ofEntries [("S", .leaf leaf)]⟩ := by
    rw [parse, read]
    rfl
  have text : printLeaf leaf = ("new z.\"regex\":\"(\x7b\"regex\":\"/a/\",".toList ++
      "\"typeName\":\"\\\"regex\\\":\\\"\"\x7d)".toList) := by
    decide
  refine ⟨parsed, .here (.head _), text, ?_⟩
  rw [text]
  decide

end Document
end SchemaExport
