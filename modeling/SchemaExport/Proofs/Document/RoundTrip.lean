import SchemaExport.Proofs.Document.Lowering
import SchemaExport.Proofs.Expression.RoundTrip

/-! What a loaded document keeps when its schemas are printed and read.

The loader decides by the key what is a regular expression, and a list hands its key on to its elements.
The printer decides by the text in front of a string: it reaches no element of a list, and it takes the
end of a longer key for the key `regex`. Where neither happens the two decide alike.
-/

set_option autoImplicit false

namespace SchemaExport

open Expression (isLiteralText readWhole_print)

namespace Schema

inductive Part (node : Schema) : Schema → Prop where
  | self : Part node node
  | field {name : String} {field : Schema} {shape : Entries Schema} (member : (name, field) ∈ shape)
      (part : Part node field) : Part node (.object shape)
  | optional {inner : Schema} (part : Part node inner) : Part node (.optional inner)
  | nullable {inner : Schema} (part : Part node inner) : Part node (.nullable inner)
  | array {element : Schema} (part : Part node element) : Part node (.array element)

theorem Part.everywhere {OnShape : Entries Schema → Prop} {OnLeaf : Leaf → Prop} {node schema : Schema}
    (part : node.Part schema) (everywhere : schema.Everywhere OnShape OnLeaf) : node.Everywhere OnShape OnLeaf := by
  induction part with
  | self => exact everywhere
  | field member _ ih => exact ih (everywhereIn_iff.1 everywhere.2 _ member)
  | optional _ ih => exact ih everywhere
  | nullable _ ih => exact ih everywhere
  | array _ ih => exact ih everywhere

end Schema

/-- Regular expressions directly under a key, and strings of their form under no key that ends like `regex`. -/
def Value.Direct (key? : Option String) : Value → Prop
  | .regex _ => key? ≠ none
  | .text content => ∀ key ∈ key?, EndsAsRegex key → isLiteralText content.toList = false
  | _ => True

theorem Value.Loaded.lossless {key? : Option String} {value : Value} (loaded : value.Loaded key?)
    (whole : value.Whole) (direct : value.Direct key?) : value.Lossless key? := by
  cases value with
  | null | bool _ | list _ | record _ => trivial
  | number number =>
    cases number with
    | integer _ => exact loaded
    | double fraction => exact whole fraction rfl
  | text content =>
    intro key present named
    cases named with
    | inl same => exact loaded (String.toList_inj.1 same ▸ present)
    | inr suffix => exact direct key present suffix
  | regex literal =>
    obtain ⟨key, rfl⟩ := Option.ne_none_iff_exists'.1 direct
    -- The loader makes a regular expression under no other key.
    have isRegex : key = "regex" := loaded key rfl
    exact ⟨key, rfl, .inl (congrArg String.toList isRegex)⟩

theorem Schema.Loaded.lossless {schema : Schema} (loaded : schema.Loaded) (regular : schema.Regular)
    (direct : schema.Definitions Value.Direct) : schema.Lossless :=
  (loaded.regular regular direct fun _ _ => Value.Loaded.lossless).imp (fun _ _ => trivial)
    fun _ here => ⟨here.1, here.2⟩

namespace Document

/-- A node of a document that was loaded is read back as it was printed, when the printer comes upon its
regular expressions and upon nothing else of their form. -/
theorem ofExpression_print_part {source : List Char} {document : Document} (parsed : parse source = .ok document)
    {entry : String × Schema} (member : entry ∈ document.schemas.entries) {node : Schema} (part : node.Part entry.2)
    (regular : node.Regular) (direct : node.Definitions Value.Direct) :
    Schema.ofExpression (Expression.print node) = .ok node := by
  have loaded : node.Loaded := part.everywhere (loaded_of_parse parsed entry member)
  rw [Schema.ofExpression, readWhole_print loaded.wellFormed (loaded.lossless regular direct)]

theorem ofExpression_print_part_field :
    let source := "\x7b\"schemas\":\x7b\"S\":\x7b\"kind\":\"object\",\"shape\":\x7b\"f\":".toList ++
      "\x7b\"kind\":\"leaf\",\"typeName\":\"ZodAny\",\"def\":\x7b\"regex\":\"/a/\",\"b\":\"/c/\"".toList ++
      "\x7d\x7d\x7d\x7d\x7d\x7d".toList
    let node := Schema.leaf (.make "ZodAny" (.ofEntries [("regex", .regex ⟨"a", "", rfl, rfl⟩), ("b", .text "/c/")]))
    let entry := ("S", Schema.object [("f", node)])
    parse source = .ok ⟨none, .ofEntries [entry]⟩ ∧ node.Part entry.2 ∧ node.Regular ∧ node.Definitions Value.Direct ∧
      Schema.ofExpression (Expression.print node) = .ok node := by
  intro source node entry
  have part : node.Part entry.2 := .field (List.mem_singleton.2 rfl) .self
  have regular : node.Regular :=
    ⟨⟨by decide, forall_mem_of_all (by decide)⟩, nofun, nofun, nofun, nofun, trivial⟩
  have direct : node.Definitions Value.Direct := by
    refine ⟨trivial, nofun, ?_, ?_, trivial⟩
    all_goals
      rintro key ⟨⟩
      decide
  have read : readDraft source = .ok ⟨none, .ofEntries [("S", .object [("f", .leaf "ZodAny"
      (.ofEntries [("regex", .text "/a/"), ("b", .text "/c/")]))])]⟩ := by
    unfold source
    cbv
  have parsed : parse source = .ok ⟨none, .ofEntries [entry]⟩ := by
    rw [parse, read]
    rfl
  exact ⟨parsed, part, regular, direct, ofExpression_print_part parsed (List.mem_singleton.2 rfl) part regular direct⟩

/-- Neither condition can be dropped: a literal in a list comes back as a string, and a string under a key
that ends like `regex` as a literal. -/
theorem ofExpression_print_part_lossy :
    let source := "\x7b\"schemas\":\x7b\"S\":\x7b\"kind\":\"leaf\",\"typeName\":\"ZodAny\",".toList ++
      "\"def\":\x7b\"regex\":[\"/a/\"]\x7d\x7d,\"T\":\x7b\"kind\":\"leaf\",\"typeName\":\"ZodAny\",".toList ++
      "\"def\":\x7b\"\\\"regex\":\"/a/\"\x7d\x7d\x7d\x7d".toList
    let listed := Schema.leaf (.make "ZodAny" (.ofEntries [("regex", .list [.regex ⟨"a", "", rfl, rfl⟩])]))
    let quoted := Schema.leaf (.make "ZodAny" (.ofEntries [("\"regex", .text "/a/")]))
    parse source = .ok ⟨none, .ofEntries [("S", listed), ("T", quoted)]⟩ ∧ listed.Regular ∧ quoted.Regular ∧
      Schema.ofExpression (Expression.print listed) ≠ .ok listed ∧
      Schema.ofExpression (Expression.print quoted) ≠ .ok quoted := by
  intro source listed quoted
  have word : Expression.Identifier "ZodAny".toList := ⟨by decide, forall_mem_of_all (by decide)⟩
  have listedRegular : listed.Regular := ⟨word, nofun, ⟨nofun, nofun, trivial⟩, nofun, trivial⟩
  have quotedRegular : quoted.Regular := ⟨word, nofun, nofun, nofun, trivial⟩
  have name : (Value.text "ZodAny").Lossless (some typeNameKey) := by
    rintro key ⟨⟩ named
    exact absurd named (by decide)
  have listedApart : Schema.ofExpression (Expression.print listed) ≠ .ok listed := by
    let other := Schema.leaf (.make "ZodAny" (.ofEntries [("regex", .list [.text "/a/"])]))
    have same : Expression.print listed = Expression.print other := Expression.printLeaf_congr rfl rfl
    have lossless : other.Lossless := ⟨word, trivial, ⟨trivial, nofun, trivial⟩, name, trivial⟩
    have formed : other.WellFormed :=
      Leaf.wellFormed_make (by simp [Value.Everywhere, Value.EverywhereIn, Value.Distinct]) "ZodAny"
    have apart : other ≠ listed := by
      intro isListed
      have found : some (Value.list [.text "/a/"]) = some (.list [.regex ⟨"a", "", rfl, rfl⟩]) :=
        congrArg (fun leaf => leaf.definition.get? "regex") (Schema.leaf.inj isListed)
      cases found
    exact Schema.ofExpression_print_ne same apart formed lossless
  have quotedApart : Schema.ofExpression (Expression.print quoted) ≠ .ok quoted := by
    let other := Schema.leaf (.make "ZodAny" (.ofEntries [("\"regex", .regex ⟨"a", "", rfl, rfl⟩)]))
    have same : Expression.print quoted = Expression.print other := Expression.printLeaf_congr rfl rfl
    have formed : other.WellFormed :=
      Leaf.wellFormed_make (by simp [Value.Everywhere, Value.Distinct]) "ZodAny"
    have lossless : other.Lossless := ⟨word, trivial, ⟨_, rfl, by decide⟩, name, trivial⟩
    have apart : other ≠ quoted := by
      intro isQuoted
      have found : some (Value.regex ⟨"a", "", rfl, rfl⟩) = some (.text "/a/") :=
        congrArg (fun leaf => leaf.definition.get? "\"regex") (Schema.leaf.inj isQuoted)
      cases found
    exact Schema.ofExpression_print_ne same apart formed lossless
  have read : readDraft source = .ok ⟨none, .ofEntries
      [("S", .leaf "ZodAny" (.ofEntries [("regex", .list [.text "/a/"])])),
        ("T", .leaf "ZodAny" (.ofEntries [("\"regex", .text "/a/")]))]⟩ := by
    unfold source
    cbv
  have parsed : parse source = .ok ⟨none, .ofEntries [("S", listed), ("T", quoted)]⟩ := by
    rw [parse, read]
    rfl
  exact ⟨parsed, listedRegular, quotedRegular, listedApart, quotedApart⟩

end Document
end SchemaExport
