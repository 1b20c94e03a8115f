import SchemaExport.Proofs.Expression.RoundTrip

/-! Printing again what was read from a printed tree.

A regular expression keeps its form in the text only directly under a key that names one. Anywhere
else it is printed as the string of its literal, and that string is read back. A repair looks at neither
its place nor its form, so the tree with such strings has the text of the tree it came from.
-/

set_option autoImplicit false

namespace SchemaExport

open Expression

/-- Directly under a key that names a regular expression. -/
def UnderRegex (key? : Option String) : Prop := ∃ key ∈ key?, FieldKey "regex".toList key.toList

instance (key? : Option String) : Decidable (UnderRegex key?) := by unfold UnderRegex; infer_instance

/-! ## Demoted trees -/

namespace Value

mutual

/-- The value as it is read back: a regular expression that no repair reaches is the string of its literal. -/
def demote (key? : Option String) : Value → Value
  | .regex literal => if UnderRegex key? then .regex literal else .text (String.ofList literal.text)
  | .list items => .list (demoteItems items)
  | .record entries => .record (demoteEntries entries)
  | value => value

def demoteItems : List Value → List Value
  | [] => []
  | item :: rest => demote none item :: demoteItems rest

def demoteEntries : Entries Value → Entries Value
  | [] => []
  | (key, value) :: rest => (key, demote (some key) value) :: demoteEntries rest

end

theorem demoteEntries_eq_mapValues (entries : Entries Value) :
    demoteEntries entries = entries.mapValues fun key => demote (some key) := by
  induction entries with
  | nil => rfl
  | cons entry rest ih => exact congrArg (_ :: ·) ih

/-- The conditions of a value that prints without loss, but for the place of regular expressions. -/
def Reprintable (key? : Option String) : Value → Prop
  | .number (.integer value) => Json.Integer64 value
  | .number (.double _) => False
  | .text content => ∀ key ∈ key?, FieldKey "regex".toList key.toList → isLiteralText content.toList = false
  | _ => True

section
variable {Before After : Option String → Value → Prop}

mutual

/-- A condition that demotion turns into another one, at each place, does so all through a value. -/
theorem everywhere_demote (keeps : ∀ key? value, Before key? value → After key? (value.demote key?)) (value : Value)
    {key? : Option String} (before : value.Everywhere Before key?) : (value.demote key?).Everywhere After key? := by
  have here := keeps key? value before.here
  match value with
  | .null => exact here
  | .bool _ => exact here
  | .number _ => exact here
  | .text _ => exact here
  | .regex literal =>
    by_cases under : UnderRegex key?
    · rw [demote, if_pos under] at here ⊢
      exact here
    · rw [demote, if_neg under] at here ⊢
      exact here
  | .list items => exact ⟨here, everywhere_demoteItems keeps items before.2⟩
  | .record entries => exact ⟨here, everywhere_demoteEntries keeps entries before.2⟩

theorem everywhere_demoteItems (keeps : ∀ key? value, Before key? value → After key? (value.demote key?))
    (items : List Value) (before : EverywhereIn Before items) : EverywhereIn After (demoteItems items) := by
  match items with
  | [] => trivial
  | item :: rest => exact ⟨everywhere_demote keeps item before.1, everywhere_demoteItems keeps rest before.2⟩

theorem everywhere_demoteEntries (keeps : ∀ key? value, Before key? value → After key? (value.demote key?))
    (entries : Entries Value) (before : EverywhereUnder Before entries) :
    EverywhereUnder After (demoteEntries entries) := by
  match entries with
  | [] => trivial
  | (_, value) :: rest => exact ⟨everywhere_demote keeps value before.1, everywhere_demoteEntries keeps rest before.2⟩

end

end

theorem Reprintable.lossless_demote {key? : Option String} {value : Value} (reprintable : value.Reprintable key?) :
    (value.demote key?).Lossless key? := by
  match value with
  | .null => trivial
  | .bool _ => trivial
  | .number (.integer _) => exact reprintable
  | .number (.double _) => exact reprintable.elim
  | .text _ => exact reprintable
  | .regex literal =>
    rw [demote]
    by_cases under : UnderRegex key?
    · rw [if_pos under]
      exact under
    · rw [if_neg under]
      exact fun key isKey named => absurd ⟨key, isKey, named⟩ under
  | .list _ => trivial
  | .record _ => trivial

theorem Distinct.demote {value : Value} (distinct : value.Distinct) (key? : Option String) :
    (value.demote key?).Distinct := by
  match value with
  | .null => trivial
  | .bool _ => trivial
  | .number _ => trivial
  | .text _ => trivial
  | .regex _ => rw [Value.demote]; split <;> trivial
  | .list _ => trivial
  | .record entries =>
    have keys : (Entries.keys (demoteEntries entries)).Nodup := by
      rw [demoteEntries_eq_mapValues, Entries.keys_mapValues]
      exact distinct
    exact keys

mutual

/-- A dump has strings for all regular expressions, so it does not show which ones were demoted. -/
theorem dump_demote (value : Value) (key? : Option String) : dump (value.demote key?) = dump value := by
  match value with
  | .null => rfl
  | .bool _ => rfl
  | .number _ => rfl
  | .text _ => rfl
  | .regex literal =>
    rw [demote]
    split
    · rfl
    · simp only [dump, String.toList_ofList]
  | .list items => rw [demote, dump, dump, dumpItems_demoteItems items]
  | .record entries => rw [demote, dump, dump, dumpEntries_demoteEntries entries]

theorem dumpItems_demoteItems (items : List Value) : dumpItems (demoteItems items) = dumpItems items := by
  match items with
  | [] => rfl
  | [item] => exact dump_demote item none
  | item :: next :: rest =>
    have more : dumpItems (demoteItems (next :: rest)) = dumpItems (next :: rest) := dumpItems_demoteItems _
    simp only [demoteItems, dumpItems, dump_demote item none] at more ⊢
    rw [more]

theorem dumpEntries_demoteEntries (entries : Entries Value) :
    dumpEntries (demoteEntries entries) = dumpEntries entries := by
  match entries with
  | [] => rfl
  | [(key, value)] => simp only [demoteEntries, dumpEntries, dump_demote value (some key)]
  | (key, value) :: next :: rest =>
    have more : dumpEntries (demoteEntries (next :: rest)) = dumpEntries (next :: rest) :=
      dumpEntries_demoteEntries _
    simp only [demoteEntries, dumpEntries, dump_demote value (some key)] at more ⊢
    rw [more]

end

end Value

namespace Leaf

def demote (leaf : Leaf) : Leaf := leaf.mapValues (fun key => Value.demote (some key)) fun _ => rfl

theorem entries_demote (leaf : Leaf) : leaf.demote.definition.entries = Value.demoteEntries leaf.definition.entries :=
  (Value.demoteEntries_eq_mapValues ..).symm

structure Reprintable (leaf : Leaf) : Prop where
  typeName : Identifier leaf.typeName.toList
  definition : (Value.record leaf.definition.entries).Everywhere Value.Reprintable none

theorem Reprintable.lossless_demote {leaf : Leaf} (reprintable : leaf.Reprintable) : leaf.demote.Lossless where
  typeName := reprintable.typeName
  definition := by
    rw [entries_demote]
    exact Value.everywhere_demote (fun _ _ => Value.Reprintable.lossless_demote) _ reprintable.definition

theorem WellFormed.demote {leaf : Leaf} (formed : leaf.WellFormed) : leaf.demote.WellFormed := by
  rw [WellFormed, entries_demote]
  exact Value.everywhere_demoteEntries (fun key? _ distinct => distinct.demote key?) _ formed

theorem printLeaf_demote (leaf : Leaf) : printLeaf leaf.demote = printLeaf leaf := by
  refine printLeaf_congr rfl ?_
  rw [entries_demote]
  exact Value.dump_demote (.record leaf.definition.entries) none

end Leaf

namespace Schema

mutual

def demote : Schema → Schema
  | .object shape => .object (demoteFields shape)
  | .optional inner => .optional (demote inner)
  | .nullable inner => .nullable (demote inner)
  | .array element => .array (demote element)
  | .leaf node => .leaf node.demote

def demoteFields : Entries Schema → Entries Schema
  | [] => []
  | (name, field) :: rest => (name, demote field) :: demoteFields rest

end

def Reprintable : Schema → Prop := Everywhere (fun _ => True) Leaf.Reprintable

theorem demoteFields_eq_mapValues (fields : Entries Schema) :
    demoteFields fields = fields.mapValues fun _ => demote := by
  induction fields with
  | nil => rfl
  | cons field rest ih => exact congrArg (_ :: ·) ih

section
variable {OnShape OnDemoted : Entries Schema → Prop} {OnLeaf OnDemotedLeaf : Leaf → Prop}

mutual

theorem everywhere_demote (shapes : ∀ shape, OnShape shape → OnDemoted (demoteFields shape))
    (leaves : ∀ node, OnLeaf node → OnDemotedLeaf node.demote) (schema : Schema)
    (before : schema.Everywhere OnShape OnLeaf) : schema.demote.Everywhere OnDemoted OnDemotedLeaf := by
  match schema with
  | .object shape => exact ⟨shapes shape before.1, everywhere_demoteFields shapes leaves shape before.2⟩
  | .optional inner => exact everywhere_demote shapes leaves inner before
  | .nullable inner => exact everywhere_demote shapes leaves inner before
  | .array element => exact everywhere_demote shapes leaves element before
  | .leaf node => exact leaves node before

theorem everywhere_demoteFields (shapes : ∀ shape, OnShape shape → OnDemoted (demoteFields shape))
    (leaves : ∀ node, OnLeaf node → OnDemotedLeaf node.demote) (fields : Entries Schema)
    (before : EverywhereIn OnShape OnLeaf fields) : EverywhereIn OnDemoted OnDemotedLeaf (demoteFields fields) := by
  match fields with
  | [] => trivial
  | (_, field) :: rest =>
    exact ⟨everywhere_demote shapes leaves field before.1, everywhere_demoteFields shapes leaves rest before.2⟩

end

end

theorem Reprintable.lossless_demote {schema : Schema} (reprintable : schema.Reprintable) : schema.demote.Lossless :=
  everywhere_demote (fun _ _ => trivial) (fun _ => Leaf.Reprintable.lossless_demote) schema reprintable

theorem WellFormed.demote {schema : Schema} (formed : schema.WellFormed) : schema.demote.WellFormed :=
  everywhere_demote
    (fun shape names => by
      rw [demoteFields_eq_mapValues, Entries.keys_mapValues]
      exact names)
    (fun _ => Leaf.WellFormed.demote) schema formed

mutual

theorem print_demote (schema : Schema) : print schema.demote = print schema := by
  match schema with
  | .object shape => exact congrArg (_ ++ · ++ _) (printFields_demoteFields shape)
  | .optional inner => exact congrArg (_ ++ · ++ _) (print_demote inner)
  | .nullable inner => exact congrArg (_ ++ · ++ _) (print_demote inner)
  | .array element => exact congrArg (_ ++ · ++ _) (print_demote element)
  | .leaf node => exact Leaf.printLeaf_demote node

theorem printFields_demoteFields (fields : Entries Schema) :
    printFields (demoteFields fields) = printFields fields := by
  match fields with
  | [] => rfl
  | [(name, field)] => simp only [demoteFields, printFields, print_demote field]
  | (name, field) :: next :: rest =>
    have more : printFields (demoteFields (next :: rest)) = printFields (next :: rest) := printFields_demoteFields _
    simp only [demoteFields, printFields, print_demote field] at more ⊢
    rw [more]

end

/-- A printed tree is read back with strings for the regular expressions that no repair reaches, and has
the same text when it is printed again. -/
theorem ofExpression_print_demote (schema : Schema) (formed : schema.WellFormed) (reprintable : schema.Reprintable) :
    ofExpression (print schema) = .ok schema.demote ∧ print schema.demote = print schema := by
  have same : print schema.demote = print schema := print_demote schema
  have read : readWhole (print schema.demote) = .ok schema.demote :=
    readWhole_print formed.demote reprintable.lossless_demote
  rw [same] at read
  exact ⟨by rw [ofExpression, read], same⟩

/-- Literals in a list, under another key and under a key that only ends in the name: the last one stays. -/
theorem ofExpression_print_demote_scattered :
    let schema := leaf (.make "ZodAny" (.ofEntries [("regex", .list [.regex ⟨"a", "g", rfl, rfl⟩]),
      ("pattern", .regex ⟨"b", "", rfl, rfl⟩), ("\"regex", .regex ⟨"c", "", rfl, rfl⟩)]))
    let reread := leaf (.make "ZodAny" (.ofEntries [("regex", .list [.text "/a/g"]), ("pattern", .text "/b/"),
      ("\"regex", .regex ⟨"c", "", rfl, rfl⟩)]))
    schema.WellFormed ∧ schema.Reprintable ∧ ofExpression (print schema) = .ok reread ∧
      print reread = print schema := by
  intro schema reread
  have formed : schema.WellFormed :=
    Leaf.wellFormed_make (by simp [Value.Everywhere, Value.EverywhereIn, Value.Distinct]) "ZodAny"
  have reprintable : schema.Reprintable := by
    refine ⟨⟨by decide, forall_mem_of_all (by decide)⟩, trivial, ⟨trivial, trivial, trivial⟩, trivial, trivial, ?_,
      trivial⟩
    rintro key ⟨⟩ named
    exact absurd named (by decide)
  have demoted : schema.demote = reread := rfl
  obtain ⟨read, same⟩ := ofExpression_print_demote schema formed reprintable
  rw [demoted] at read same
  exact ⟨formed, reprintable, read, same⟩

end Schema
end SchemaExport
