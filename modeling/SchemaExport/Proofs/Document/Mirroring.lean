import SchemaExport.Proofs.Decimal.Rounding
import SchemaExport.Proofs.Document.Candidates
import SchemaExport.Proofs.Record

/-! The tree that a node is lowered to.

It has the shape of the node: the same constructors, names and keys in the same order, but for the
entry `typeName`, which every leaf gets. Below that only candidates and small numbers without a
fraction change.
-/

set_option autoImplicit false

namespace SchemaExport.Document

open Decimal (Double)

/-! ## What becomes of data -/

/-- A number is kept, as an integer where it is one below `2 ^ 53`. -/
inductive NumberLowered : Number → Number → Prop where
  | integer {value : Int} : NumberLowered (.integer value) (.integer value)
  | whole {value : Double} {magnitude : Nat} : value.units = magnitude * Decimal.unit → magnitude < 2 ^ 53 →
      NumberLowered (.double value) (.integer (if value.negative then -Int.ofNat magnitude else Int.ofNat magnitude))
  | double {value : Double} : (∀ magnitude, value.units = magnitude * Decimal.unit → 2 ^ 53 ≤ magnitude) →
      NumberLowered (.double value) (.double value)

mutual

/-- Data under a key, with the value that it becomes. -/
inductive DataLowered : String → Json → Value → Prop where
  | null {key : String} : DataLowered key .null .null
  | bool {key : String} {flag : Bool} : DataLowered key (.bool flag) (.bool flag)
  | number {key : String} {value number : Number} : NumberLowered value number →
      DataLowered key (.number value) (.number number)
  | candidate {content : String} {literal : Regex.Literal} :
      Regex.Literal.ofText? content.toList = some (.ok literal) →
      DataLowered "regex" (.text content) (.regex literal)
  | text {key content : String} : (key = "regex" → ¬ IsLiteral content) →
      DataLowered key (.text content) (.text content)
  | list {key : String} {items : List Json} {values : List Value} : ItemsLowered key items values →
      DataLowered key (.list items) (.list values)
  | record {key : String} {entries : Entries Json} {values : Entries Value} :
      EntriesLowered entries values → DataLowered key (.object entries) (.record values)

inductive ItemsLowered : String → List Json → List Value → Prop where
  | nil {key : String} : ItemsLowered key [] []
  | cons {key : String} {item : Json} {value : Value} {items : List Json} {values : List Value} :
      DataLowered key item value → ItemsLowered key items values → ItemsLowered key (item :: items) (value :: values)

inductive EntriesLowered : Entries Json → Entries Value → Prop where
  | nil : EntriesLowered [] []
  | cons {key : String} {item : Json} {value : Value} {entries : Entries Json}
      {values : Entries Value} : DataLowered key item value → EntriesLowered entries values →
      EntriesLowered ((key, item) :: entries) ((key, value) :: values)

end

/-- A definition with a type name put under `typeName`: in its place, or at the end. -/
inductive Named (typeName : String) : Entries Value → Entries Value → Prop where
  | inPlace {front back : Entries Value} {old : Value} : typeNameKey ∉ front.keys →
      Named typeName (front ++ (typeNameKey, old) :: back) (front ++ (typeNameKey, .text typeName) :: back)
  | appended {entries : Entries Value} : typeNameKey ∉ entries.keys →
      Named typeName entries (entries ++ [(typeNameKey, .text typeName)])

mutual

inductive NodeLowered : Node → Schema → Prop where
  | object {shape : Entries Node} {fields : Entries Schema} : ShapeLowered shape fields →
      NodeLowered (.object shape) (.object fields)
  | optional {inner : Node} {schema : Schema} : NodeLowered inner schema →
      NodeLowered (.optional inner) (.optional schema)
  | nullable {inner : Node} {schema : Schema} : NodeLowered inner schema →
      NodeLowered (.nullable inner) (.nullable schema)
  | array {element : Node} {schema : Schema} : NodeLowered element schema →
      NodeLowered (.array element) (.array schema)
  | leaf (leaf : Leaf) {definition : Record Json} {values : Entries Value} :
      EntriesLowered definition.entries values → Named leaf.typeName values leaf.definition.entries →
      NodeLowered (.leaf leaf.typeName definition) (.leaf leaf)

inductive ShapeLowered : Entries Node → Entries Schema → Prop where
  | nil : ShapeLowered [] []
  | cons {name : String} {node : Node} {schema : Schema} {shape : Entries Node}
      {fields : Entries Schema} : NodeLowered node schema → ShapeLowered shape fields →
      ShapeLowered ((name, node) :: shape) ((name, schema) :: fields)

end

/-! ## What lowering makes -/

theorem toInt?_eq_some_iff {value : Double} {whole : Int} : value.toInt? = some whole ↔
    ∃ magnitude, value.units = magnitude * Decimal.unit ∧
      whole = if value.negative then -Int.ofNat magnitude else Int.ofNat magnitude := by
  unfold Double.toInt?
  constructor
  · intro found
    obtain ⟨divides, same⟩ := Option.ite_none_right_eq_some.1 found
    exact ⟨_, (Nat.div_mul_cancel (Nat.dvd_of_mod_eq_zero divides)).symm, (Option.some.inj same).symm⟩
  · rintro ⟨magnitude, same, rfl⟩
    rw [same, Nat.mul_mod_left, if_pos rfl, Nat.mul_div_cancel _ Decimal.unit_pos]

theorem numberLowered_iff {value number : Number} : lowerNumber value = number ↔ NumberLowered value number := by
  cases value with
  | integer whole => exact ⟨fun | rfl => .integer, fun | .integer => rfl⟩
  | double value =>
    have natAbs (magnitude : Nat) :
        (if value.negative then -Int.ofNat magnitude else Int.ofNat magnitude).natAbs = magnitude := by
      split <;> simp
    rw [lowerNumber, Number.ofDouble]
    constructor
    · rintro rfl
      split
      · rename_i whole isWhole
        obtain ⟨magnitude, same, rfl⟩ := toInt?_eq_some_iff.1 isWhole
        rw [natAbs]
        split
        · rename_i small
          exact .whole same small
        · rename_i large
          refine .double fun other again => ?_
          -- A double has one magnitude at most, so that another one is as large.
          obtain rfl := Nat.eq_of_mul_eq_mul_right Decimal.unit_pos (same.symm.trans again)
          exact Nat.le_of_not_lt large
      · rename_i broken
        exact .double fun magnitude same => nomatch broken.symm.trans (toInt?_eq_some_iff.2 ⟨magnitude, same, rfl⟩)
    · intro lowered
      cases lowered with
      | whole same small =>
        rw [toInt?_eq_some_iff.2 ⟨_, same, rfl⟩]
        simp only [natAbs, small, if_true]
      | double large =>
        split
        · rename_i whole isWhole
          obtain ⟨magnitude, same, rfl⟩ := toInt?_eq_some_iff.1 isWhole
          rw [natAbs, if_neg (Nat.not_lt_of_le (large magnitude same))]
        · rfl

theorem lowerText_eq_ok_iff {content : String} {value : Value} :
    lowerText content = .ok value ↔ DataLowered "regex" (.text content) value := by
  unfold lowerText
  constructor
  · intro lowered
    split at lowered
    · rename_i literal read
      cases lowered
      exact .candidate read
    · exact nomatch lowered
    · rename_i unread
      cases lowered
      exact .text fun _ formed => Option.not_isSome_iff_eq_none.2 unread formed
  · intro lowered
    cases lowered with
    | candidate read => rw [read]
    | text other => rw [Option.not_isSome_iff_eq_none.1 (other rfl)]

mutual

theorem lowerData_eq_ok_iff (key : String) (data : Json) {value : Value} :
    lowerData key data = .ok value ↔ DataLowered key data value := by
  match data with
  | .null => exact ⟨fun | rfl => .null, fun | .null => rfl⟩
  | .bool flag => exact ⟨fun | rfl => .bool, fun | .bool => rfl⟩
  | .number number =>
    constructor
    · rintro ⟨⟩
      exact .number (numberLowered_iff.1 rfl)
    · intro lowered
      cases lowered with
      | number lowered => rw [lowerData, numberLowered_iff.2 lowered]
  | .text content =>
    by_cases isRegex : key = "regex"
    · subst isRegex
      exact lowerText_eq_ok_iff
    · rw [lowerData, if_neg isRegex]
      constructor
      · rintro ⟨⟩
        exact .text fun same => absurd same isRegex
      · intro lowered
        cases lowered with
        | candidate _ => exact absurd rfl isRegex
        | text _ => rfl
  | .list items =>
    rw [lowerData, bind_eq_ok]
    constructor
    · rintro ⟨values, lowered, ⟨⟩⟩
      exact .list ((lowerItems_eq_ok_iff key items).1 lowered)
    · intro lowered
      cases lowered with
      | list lowered => exact ⟨_, (lowerItems_eq_ok_iff key items).2 lowered, rfl⟩
  | .object entries =>
    rw [lowerData, bind_eq_ok]
    constructor
    · rintro ⟨values, lowered, ⟨⟩⟩
      exact .record ((lowerEntries_eq_ok_iff entries).1 lowered)
    · intro lowered
      cases lowered with
      | record lowered => exact ⟨_, (lowerEntries_eq_ok_iff entries).2 lowered, rfl⟩

theorem lowerItems_eq_ok_iff (key : String) (items : List Json) {values : List Value} :
    lowerItems key items = .ok values ↔ ItemsLowered key items values := by
  match items with
  | [] => exact ⟨fun | rfl => .nil, fun | .nil => rfl⟩
  | item :: rest =>
    simp only [lowerItems, bind_eq_ok]
    constructor
    · rintro ⟨value, first, more, others, ⟨⟩⟩
      exact .cons ((lowerData_eq_ok_iff key item).1 first) ((lowerItems_eq_ok_iff key rest).1 others)
    · intro lowered
      cases lowered with
      | cons first others =>
        exact ⟨_, (lowerData_eq_ok_iff key item).2 first, _, (lowerItems_eq_ok_iff key rest).2 others, rfl⟩

theorem lowerEntries_eq_ok_iff (entries : Entries Json) {values : Entries Value} :
    lowerEntries entries = .ok values ↔ EntriesLowered entries values := by
  match entries with
  | [] => exact ⟨fun | rfl => .nil, fun | .nil => rfl⟩
  | (key, item) :: rest =>
    simp only [lowerEntries, bind_eq_ok]
    constructor
    · rintro ⟨value, first, more, others, ⟨⟩⟩
      exact .cons ((lowerData_eq_ok_iff key item).1 first) ((lowerEntries_eq_ok_iff rest).1 others)
    · intro lowered
      cases lowered with
      | cons first others =>
        exact ⟨_, (lowerData_eq_ok_iff key item).2 first, _, (lowerEntries_eq_ok_iff rest).2 others, rfl⟩

end

theorem named_iff {typeName : String} {values definition : Entries Value} :
    values.insert typeNameKey (.text typeName) = definition ↔ Named typeName values definition := by
  constructor
  · rintro rfl
    by_cases known : typeNameKey ∈ values.keys
    · obtain ⟨front, old, back, rfl, fresh⟩ := Entries.exists_append_of_mem_keys known
      rw [Entries.insert_append fresh]
      exact .inPlace fresh
    · rw [Entries.insert_of_not_mem known]
      exact .appended known
  · intro named
    cases named with
    | inPlace fresh => exact Entries.insert_append fresh ..
    | appended fresh => exact Entries.insert_of_not_mem fresh _

mutual

theorem lower_eq_ok_iff (node : Node) {schema : Schema} : lower node = .ok schema ↔ NodeLowered node schema := by
  match node with
  | .object shape =>
    rw [lower, bind_eq_ok]
    constructor
    · rintro ⟨fields, lowered, ⟨⟩⟩
      exact .object ((lowerShape_eq_ok_iff shape).1 lowered)
    · intro lowered
      cases lowered with
      | object lowered => exact ⟨_, (lowerShape_eq_ok_iff shape).2 lowered, rfl⟩
  | .optional inner =>
    rw [lower, bind_eq_ok]
    constructor
    · rintro ⟨schema, lowered, ⟨⟩⟩
      exact .optional ((lower_eq_ok_iff inner).1 lowered)
    · intro lowered
      cases lowered with
      | optional lowered => exact ⟨_, (lower_eq_ok_iff inner).2 lowered, rfl⟩
  | .nullable inner =>
    rw [lower, bind_eq_ok]
    constructor
    · rintro ⟨schema, lowered, ⟨⟩⟩
      exact .nullable ((lower_eq_ok_iff inner).1 lowered)
    · intro lowered
      cases lowered with
      | nullable lowered => exact ⟨_, (lower_eq_ok_iff inner).2 lowered, rfl⟩
  | .array element =>
    rw [lower, bind_eq_ok]
    constructor
    · rintro ⟨schema, lowered, ⟨⟩⟩
      exact .array ((lower_eq_ok_iff element).1 lowered)
    · intro lowered
      cases lowered with
      | array lowered => exact ⟨_, (lower_eq_ok_iff element).2 lowered, rfl⟩
  | .leaf typeName definition =>
    rw [lower, bind_eq_ok]
    constructor
    · rintro ⟨values, lowered, ⟨⟩⟩
      exact .leaf (.make typeName values) ((lowerEntries_eq_ok_iff _).1 (Record.transform_eq_ok_iff.1 lowered))
        (named_iff.1 rfl)
    · intro lowered
      cases lowered with
      | leaf leaf lowered named =>
        rename_i values
        have lowered := (lowerEntries_eq_ok_iff _).2 lowered
        let record : Definition := ⟨values, keys_of_lowerEntries lowered ▸ definition.distinct⟩
        have same : Leaf.make leaf.typeName record = leaf := Leaf.ext rfl (Record.ext (named_iff.2 named))
        exact ⟨record, Record.transform_eq_ok_iff.2 lowered, congrArg (Except.ok ∘ Schema.leaf) same⟩

theorem lowerShape_eq_ok_iff (shape : Entries Node) {fields : Entries Schema} :
    lowerShape shape = .ok fields ↔ ShapeLowered shape fields := by
  match shape with
  | [] => exact ⟨fun | rfl => .nil, fun | .nil => rfl⟩
  | (name, node) :: rest =>
    simp only [lowerShape, bind_eq_ok]
    constructor
    · rintro ⟨schema, first, more, others, ⟨⟩⟩
      exact .cons ((lower_eq_ok_iff node).1 first) ((lowerShape_eq_ok_iff rest).1 others)
    · intro lowered
      cases lowered with
      | cons first others =>
        exact ⟨_, (lower_eq_ok_iff node).2 first, _, (lowerShape_eq_ok_iff rest).2 others, rfl⟩

end

/-! ## Documents -/

theorem lower_eq_error_iff {node : Node} {refusal : Regex.Refusal} :
    lower node = .error refusal ↔ FirstRefused node.candidates refusal := by
  rw [← failure?_eq_some_iff, failure?_lower, Node.candidates, firstRefused_iff]

theorem lowerNodes_eq_ok_iff {nodes : Record Node} {schemas : Record Schema} :
    lowerNodes nodes = .ok schemas ↔ lowerShape nodes.entries = .ok schemas.entries := Record.transform_eq_ok_iff

theorem lowerNodes_eq_error_iff {nodes : Record Node} {refusal : Regex.Refusal} :
    lowerNodes nodes = .error refusal ↔
      FirstRefused (nodes.entries.flatMap fun entry => entry.2.candidates) refusal := by
  have parts (shape : Entries Node) :
      (shape.flatMap fun field => field.2.candidates) = (Node.regexTextsIn shape).filter IsLiteral := by
    induction shape with
    | nil => rfl
    | cons field rest ih => rw [List.flatMap_cons, ih, Node.regexTextsIn, List.filter_append, Node.candidates]
  rw [← failure?_eq_some_iff, failure?_lowerNodes, parts, firstRefused_iff]

theorem exists_firstRefused_iff {node : Node} : (∃ refusal, FirstRefused node.candidates refusal) ↔
    ∃ content refusal, Candidate node content ∧ Regex.Literal.ofText? content.toList = some (.error refusal) := by
  constructor
  · rintro ⟨refusal, before, content, behind, parted, refused, -⟩
    exact ⟨content, refusal, mem_candidates_iff.1 (by simp [parted]), refused⟩
  · rintro ⟨content, refusal, candidate, refused⟩
    have present : content ∈ node.regexTexts := (List.mem_filter.1 (mem_candidates_iff.2 candidate)).1
    -- Where one of the texts is refused, one of them is the first.
    have some : (node.regexTexts.findSome? refusal?).isSome := by
      rw [List.findSome?_isSome_iff]
      exact ⟨content, present, by rw [refusal?_eq_some_iff.2 refused]; rfl⟩
    obtain ⟨first, found⟩ := Option.isSome_iff_exists.1 some
    exact ⟨first, firstRefused_iff.2 found⟩

/-- A node is refused just when one of its candidates is, and for the first of these. Any other node becomes the
tree that mirrors it, and a document consists of its nodes' trees in order. -/
theorem lower_mirrors :
    (∀ node, (∃ refusal, lower node = .error refusal) ↔
      ∃ content refusal, Candidate node content ∧ Regex.Literal.ofText? content.toList = some (.error refusal)) ∧
    (∀ node refusal, lower node = .error refusal ↔ FirstRefused node.candidates refusal) ∧
    (∀ node content, content ∈ node.candidates ↔ Candidate node content) ∧
    (∀ node schema, lower node = .ok schema ↔ NodeLowered node schema) ∧
    ∀ source draft, readDraft source = .ok draft →
      (∀ error, parse source = .error error ↔ ∃ refusal, error = .regex refusal ∧
        FirstRefused (draft.nodes.entries.flatMap fun entry => entry.2.candidates) refusal) ∧
      ∀ document, parse source = .ok document ↔
        document.header = draft.header ∧ ShapeLowered draft.nodes.entries document.schemas.entries := by
  refine ⟨fun node => ?_, fun _ _ => lower_eq_error_iff, fun _ _ => mem_candidates_iff,
    fun node _ => lower_eq_ok_iff node, fun source draft read => ?_⟩
  · simp only [lower_eq_error_iff, exists_firstRefused_iff]
  · simp only [← lowerNodes_eq_error_iff, ← lowerShape_eq_ok_iff, ← lowerNodes_eq_ok_iff, parse, read]
    cases lowerNodes draft.nodes with
    | error refusal => simp [eq_comm]
    | ok schemas =>
      refine ⟨by simp, fun document => ?_⟩
      obtain ⟨header, others⟩ := document
      simp [eq_comm]

/-- A class stays open in a record inside a list, which stands under `regex`. What is refused behind it does not count. -/
theorem lower_mirrors_open_class :
    let source := "\x7b\"schemas\":\x7b\"A\":\x7b\"kind\":\"leaf\",\"typeName\":\"ZodAny\",".toList ++
      "\"def\":\x7b\"regex\":[\"/a/\",\x7b\"v\":\"/b/q\",\"regex\":\"/[/\"\x7d,\"/c/q\"]\x7d\x7d\x7d\x7d".toList
    let draft : Draft := ⟨none, .ofEntries [("A", .leaf "ZodAny" (.ofEntries
      [("regex", .list [.text "/a/", .object [("v", .text "/b/q"), ("regex", .text "/[/")], .text "/c/q"])]))]⟩
    readDraft source = .ok draft ∧
      FirstRefused (draft.nodes.entries.flatMap fun entry => entry.2.candidates) ⟨"[", "", "unterminated character class"⟩ ∧
      parse source = .error (.regex ⟨"[", "", "unterminated character class"⟩) := by
  intro source draft
  have read : readDraft source = .ok draft := by
    unfold source draft
    cbv
  have refused : FirstRefused (draft.nodes.entries.flatMap fun entry => entry.2.candidates)
      ⟨"[", "", "unterminated character class"⟩ :=
    ⟨["/a/"], "/[/", ["/c/q"], by decide, by decide, List.forall_mem_singleton.2 ⟨⟨"a", "", rfl, rfl⟩, by decide⟩⟩
  obtain ⟨-, -, -, -, documents⟩ := lower_mirrors
  exact ⟨read, refused, ((documents source draft read).1 _).2 ⟨_, rfl, refused⟩⟩

end SchemaExport.Document
