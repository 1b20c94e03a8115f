import SchemaExport.Document
import SchemaExport.Proofs.Document.Reading
import SchemaExport.Proofs.Expression.Grammar
import SchemaExport.Proofs.Regex.Literal
import SchemaExport.Proofs.Schema

/-! What is known of the schemas of a document that was loaded.

A string is a regular expression for the loader in every case in which the printer would take it for
one: flags that the printer knows are lower case letters. So under the key `regex` no string is left
that a repair would change, and regular expressions stand nowhere but there and in lists.
-/

set_option autoImplicit false

namespace SchemaExport

open Expression (Identifier isLiteralText isLiteralText_iff)

/-! ## Loaded trees -/

/-- Loaded values: integers have 64 bits and keys are distinct, regular expressions stand directly under no
key but `regex`, and a string there has another form. -/
def Value.Loaded (key? : Option String) : Value → Prop
  | .number value => Json.Bounded value
  | .text content => "regex" ∈ key? → isLiteralText content.toList = false
  | .regex _ => ∀ key ∈ key?, key = "regex"
  | .record entries => (Entries.keys entries).Nodup
  | _ => True

theorem Value.Loaded.distinct {key? : Option String} {value : Value} (loaded : value.Loaded key?) :
    value.Distinct := by
  cases value with
  | record entries => exact loaded
  | _ => trivial

def Leaf.Loaded (leaf : Leaf) : Prop := (Value.record leaf.definition.entries).Everywhere Value.Loaded none

theorem Leaf.Loaded.wellFormed {leaf : Leaf} (loaded : leaf.Loaded) : leaf.WellFormed := by
  have distinct : (Value.record leaf.definition.entries).Everywhere (fun _ => Value.Distinct) none :=
    Value.Everywhere.imp (fun _ _ here => here.distinct) loaded
  exact distinct.2

def Schema.Loaded : Schema → Prop := Everywhere (fun shape => shape.keys.Nodup) Leaf.Loaded

theorem Schema.Loaded.wellFormed {schema : Schema} (loaded : schema.Loaded) : schema.WellFormed :=
  Everywhere.imp (fun _ distinct => distinct) (fun _ here => here.wellFormed) loaded

/-! ## Regular trees -/

def Value.Whole (value : Value) : Prop := ∀ fraction, value ≠ .number (.double fraction)

/-- The type name is a word and all numbers are integers. -/
structure Leaf.Regular (leaf : Leaf) : Prop where
  typeName : Identifier leaf.typeName.toList
  whole : (Value.record leaf.definition.entries).Everywhere (fun _ => Value.Whole) none

def Schema.Regular : Schema → Prop := Everywhere (fun _ => True) Leaf.Regular

def Schema.Definitions (Holds : Option String → Value → Prop) : Schema → Prop :=
  Everywhere (fun _ => True) fun leaf => (Value.record leaf.definition.entries).Everywhere Holds none

/-- The printer finds the key `regex` at the end of such a key, behind the quote. -/
def EndsAsRegex (key : String) : Prop := ('"' :: "regex".toList) <:+ key.toList

instance (key : String) : Decidable (EndsAsRegex key) := inferInstanceAs (Decidable (_ <:+ _))

/-- What follows of each value from where it was loaded, with one more condition on it. -/
theorem Schema.Loaded.regular {Holds Target : Option String → Value → Prop} {schema : Schema} (loaded : schema.Loaded)
    (regular : schema.Regular) (holds : schema.Definitions Holds)
    (joins : ∀ key? value, value.Loaded key? → value.Whole → Holds key? value → Target key? value) :
    schema.Everywhere (fun _ => True)
      fun leaf => Identifier leaf.typeName.toList ∧ (Value.record leaf.definition.entries).Everywhere Target none := by
  have both : schema.Everywhere (fun _ => True) fun leaf => leaf.Loaded ∧ leaf.Regular :=
    Everywhere.join (fun _ _ _ => trivial) (fun _ here also => ⟨here, also⟩) schema loaded regular
  refine both.join (fun _ _ _ => trivial) (fun leaf here also => ⟨here.2.typeName, ?_⟩) schema holds
  have typed : (Value.record leaf.definition.entries).Everywhere (fun key? value => value.Loaded key? ∧ value.Whole) none :=
    Value.Everywhere.join (fun _ _ first second => ⟨first, second⟩) _ here.1 here.2.whole
  exact typed.join (fun key? value first second => joins key? value first.1 first.2 second) _ also

namespace Document

/-! ## Lowering -/

theorem isLiteralText_of_ofText? {text : List Char} (unread : Regex.Literal.ofText? text = none) :
    isLiteralText text = false := by
  cases formed : isLiteralText text with
  | false => rfl
  | true =>
    obtain ⟨source, flags, rfl, nonempty, -, sound⟩ := isLiteralText_iff.1 formed
    have lower : ∀ c ∈ flags, c.isLower = true := fun c member => Regex.isLower_of_isFlag (sound c member)
    rw [Regex.Literal.ofText?_delimited nonempty lower] at unread
    exact nomatch unread

theorem loaded_of_lowerText {content : String} {value : Value} (lowered : lowerText content = .ok value)
    {key? : Option String} (under : ∀ key ∈ key?, key = "regex") : value.Everywhere Value.Loaded key? := by
  unfold lowerText at lowered
  split at lowered
  · cases lowered
    exact under
  · exact nomatch lowered
  · rename_i unread
    cases lowered
    exact fun _ => isLiteralText_of_ofText? unread

theorem bounded_lowerNumber {value : Number} (bounded : Json.Bounded value) : Json.Bounded (lowerNumber value) := by
  cases value with
  | integer whole => exact bounded
  | double value =>
    change Json.Bounded (.ofDouble value)
    unfold Number.ofDouble
    split
    · split
      · exact show Json.Integer64 _ by unfold Json.Integer64; omega
      · trivial
    · trivial

mutual

/-- A value stands under its own key, or under none when it stands in a list. -/
theorem loaded_of_lowerData (key : String) (data : Json) (settled : data.Everywhere Json.Settled) {value : Value}
    (lowered : lowerData key data = .ok value) {key? : Option String} (under : ∀ other ∈ key?, other = key) :
    value.Everywhere Value.Loaded key? := by
  match data with
  | .null =>
    cases lowered
    trivial
  | .bool _ =>
    cases lowered
    trivial
  | .number number =>
    cases lowered
    exact bounded_lowerNumber settled
  | .text content =>
    rw [lowerData] at lowered
    split at lowered
    · rename_i isRegex
      exact loaded_of_lowerText lowered (isRegex ▸ under)
    · rename_i other
      cases lowered
      -- Under another key a string stays one, whatever it looks like.
      exact fun isRegex => absurd (under "regex" isRegex).symm other
  | .list items =>
    rw [lowerData] at lowered
    obtain ⟨values, itemsLowered, lowered⟩ := bind_eq_ok.1 lowered
    cases lowered
    exact ⟨trivial, loaded_of_lowerItems key items settled.2 itemsLowered⟩
  | .object entries =>
    rw [lowerData] at lowered
    obtain ⟨values, entriesLowered, lowered⟩ := bind_eq_ok.1 lowered
    cases lowered
    have distinct : (Entries.keys values).Nodup := keys_of_lowerEntries entriesLowered ▸ settled.1
    exact ⟨distinct, loaded_of_lowerEntries entries settled.2 entriesLowered⟩

theorem loaded_of_lowerItems (key : String) (items : List Json) (settled : Json.EverywhereIn Json.Settled items)
    {values : List Value} (lowered : lowerItems key items = .ok values) :
    Value.EverywhereIn Value.Loaded values := by
  match items with
  | [] =>
    cases lowered
    trivial
  | item :: rest =>
    rw [lowerItems] at lowered
    obtain ⟨value, itemLowered, lowered⟩ := bind_eq_ok.1 lowered
    obtain ⟨more, moreLowered, lowered⟩ := bind_eq_ok.1 lowered
    cases lowered
    -- An item is lowered under the key of its list, but stands under none.
    exact ⟨loaded_of_lowerData key item settled.1 itemLowered nofun,
      loaded_of_lowerItems key rest settled.2 moreLowered⟩

theorem loaded_of_lowerEntries (entries : Entries Json) (settled : Json.EverywhereUnder Json.Settled entries)
    {values : Entries Value} (lowered : lowerEntries entries = .ok values) :
    Value.EverywhereUnder Value.Loaded values := by
  match entries with
  | [] =>
    cases lowered
    trivial
  | (key, item) :: rest =>
    rw [lowerEntries] at lowered
    obtain ⟨value, itemLowered, lowered⟩ := bind_eq_ok.1 lowered
    obtain ⟨more, moreLowered, lowered⟩ := bind_eq_ok.1 lowered
    cases lowered
    exact ⟨loaded_of_lowerData key item settled.1 itemLowered (by simp),
      loaded_of_lowerEntries rest settled.2 moreLowered⟩

end

theorem loaded_make (typeName : String) {definition : Definition}
    (loaded : Value.EverywhereUnder Value.Loaded definition.entries) : (Leaf.make typeName definition).Loaded := by
  have name : (Value.text typeName).Everywhere Value.Loaded (some typeNameKey) := by
    intro isRegex
    exact absurd (Option.some.inj isRegex) (by decide)
  exact ⟨Record.distinct _, loaded.insert name⟩

mutual

theorem loaded_of_lower (node : Node) (settled : node.Settled) {schema : Schema} (lowered : lower node = .ok schema) :
    schema.Loaded := by
  match node with
  | .object shape =>
    rw [lower] at lowered
    obtain ⟨fields, fieldsLowered, lowered⟩ := bind_eq_ok.1 lowered
    cases lowered
    have distinct : (Entries.keys fields).Nodup := keys_of_lowerShape fieldsLowered ▸ settled.1
    exact ⟨distinct, loaded_of_lowerShape shape settled.2 fieldsLowered⟩
  | .optional inner =>
    rw [lower] at lowered
    obtain ⟨schema, innerLowered, lowered⟩ := bind_eq_ok.1 lowered
    cases lowered
    have loaded : schema.Loaded := loaded_of_lower inner settled innerLowered
    exact loaded
  | .nullable inner =>
    rw [lower] at lowered
    obtain ⟨schema, innerLowered, lowered⟩ := bind_eq_ok.1 lowered
    cases lowered
    have loaded : schema.Loaded := loaded_of_lower inner settled innerLowered
    exact loaded
  | .array element =>
    rw [lower] at lowered
    obtain ⟨schema, elementLowered, lowered⟩ := bind_eq_ok.1 lowered
    cases lowered
    have loaded : schema.Loaded := loaded_of_lower element settled elementLowered
    exact loaded
  | .leaf typeName definition =>
    rw [lower] at lowered
    obtain ⟨values, valuesLowered, lowered⟩ := bind_eq_ok.1 lowered
    cases lowered
    exact loaded_make typeName
      (loaded_of_lowerEntries definition.entries settled (Record.transform_eq_ok_iff.1 valuesLowered))

theorem loaded_of_lowerShape (shape : Entries Node) (settled : Node.SettledIn shape)
    {fields : Entries Schema} (lowered : lowerShape shape = .ok fields) :
    Schema.EverywhereIn (fun shape => shape.keys.Nodup) Leaf.Loaded fields := by
  match shape with
  | [] =>
    cases lowered
    trivial
  | (name, node) :: rest =>
    rw [lowerShape] at lowered
    obtain ⟨field, fieldLowered, lowered⟩ := bind_eq_ok.1 lowered
    obtain ⟨more, moreLowered, lowered⟩ := bind_eq_ok.1 lowered
    cases lowered
    exact ⟨loaded_of_lower node settled.1 fieldLowered, loaded_of_lowerShape rest settled.2 moreLowered⟩

end

theorem loaded_of_parse {source : List Char} {document : Document} (parsed : parse source = .ok document) :
    ∀ entry ∈ document.schemas.entries, entry.2.Loaded := by
  unfold parse at parsed
  split at parsed
  · exact nomatch parsed
  · rename_i draft read
    split at parsed
    · rename_i schemas lowered
      cases parsed
      exact Schema.everywhereIn_iff.1
        (loaded_of_lowerShape draft.nodes.entries (settled_of_readDraft read) (Record.transform_eq_ok_iff.1 lowered))
    · exact nomatch parsed

end Document
end SchemaExport
