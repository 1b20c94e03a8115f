import SchemaExport.Proofs.Record
import SchemaExport.Schema

/-! Conditions on all of a tree, and the one that every tree built by the operations meets.

Keys of the records in a definition and names of fields are distinct. Only this is left to say: that the
definition itself has distinct keys, and the type name among them, a leaf carries with it.
-/

set_option autoImplicit false

namespace SchemaExport

namespace Value

mutual

/-- A condition on a value and on everything in it, together with the key that each stands directly under. -/
def Everywhere (Holds : Option String → Value → Prop) (key? : Option String) : Value → Prop
  | .list items => Holds key? (.list items) ∧ EverywhereIn Holds items
  | .record entries => Holds key? (.record entries) ∧ EverywhereUnder Holds entries
  | value => Holds key? value

def EverywhereIn (Holds : Option String → Value → Prop) : List Value → Prop
  | [] => True
  | item :: rest => Everywhere Holds none item ∧ EverywhereIn Holds rest

def EverywhereUnder (Holds : Option String → Value → Prop) : Entries Value → Prop
  | [] => True
  | (key, value) :: rest => Everywhere Holds (some key) value ∧ EverywhereUnder Holds rest

end

theorem Everywhere.here {Holds : Option String → Value → Prop} {key? : Option String} {value : Value}
    (everywhere : value.Everywhere Holds key?) : Holds key? value := by
  cases value with
  | list items => exact everywhere.1
  | record entries => exact everywhere.1
  | _ => exact everywhere

section
variable {First Second Joint : Option String → Value → Prop}

mutual

/-- What follows from two conditions at each place follows from them all through. -/
theorem Everywhere.join (joins : ∀ key? value, First key? value → Second key? value → Joint key? value)
    (value : Value) {key? : Option String} (first : value.Everywhere First key?)
    (second : value.Everywhere Second key?) : value.Everywhere Joint key? := by
  have here := joins key? value first.here second.here
  match value with
  | .null | .bool _ | .number _ | .text _ | .regex _ => exact here
  | .list items => exact ⟨here, EverywhereIn.join joins items first.2 second.2⟩
  | .record entries => exact ⟨here, EverywhereUnder.join joins entries first.2 second.2⟩

theorem EverywhereIn.join (joins : ∀ key? value, First key? value → Second key? value → Joint key? value)
    (items : List Value) (first : EverywhereIn First items) (second : EverywhereIn Second items) :
    EverywhereIn Joint items := by
  match items with
  | [] => trivial
  | item :: rest => exact ⟨first.1.join joins item second.1, first.2.join joins rest second.2⟩

theorem EverywhereUnder.join (joins : ∀ key? value, First key? value → Second key? value → Joint key? value)
    (entries : Entries Value) (first : EverywhereUnder First entries)
    (second : EverywhereUnder Second entries) : EverywhereUnder Joint entries := by
  match entries with
  | [] => trivial
  | (_, value) :: rest => exact ⟨first.1.join joins value second.1, first.2.join joins rest second.2⟩

end

theorem Everywhere.imp (implies : ∀ key? value, First key? value → Second key? value) {value : Value}
    {key? : Option String} (first : value.Everywhere First key?) : value.Everywhere Second key? :=
  first.join (fun key? value here _ => implies key? value here) value first

end

/-- A record's keys are distinct. -/
def Distinct : Value → Prop
  | .record entries => (Entries.keys entries).Nodup
  | _ => True

end Value

def Leaf.WellFormed (leaf : Leaf) : Prop :=
  Value.EverywhereUnder (fun _ => Value.Distinct) leaf.definition.entries

namespace Schema

mutual

/-- A condition on every shape of a tree and one on every leaf. -/
def Everywhere (OnShape : Entries Schema → Prop) (OnLeaf : Leaf → Prop) : Schema → Prop
  | .object shape => OnShape shape ∧ EverywhereIn OnShape OnLeaf shape
  | .optional inner => Everywhere OnShape OnLeaf inner
  | .nullable inner => Everywhere OnShape OnLeaf inner
  | .array element => Everywhere OnShape OnLeaf element
  | .leaf node => OnLeaf node

def EverywhereIn (OnShape : Entries Schema → Prop) (OnLeaf : Leaf → Prop) : Entries Schema → Prop
  | [] => True
  | (_, field) :: rest => Everywhere OnShape OnLeaf field ∧ EverywhereIn OnShape OnLeaf rest

end

section
variable {FirstShape SecondShape JointShape : Entries Schema → Prop} {FirstLeaf SecondLeaf JointLeaf : Leaf → Prop}

mutual

theorem Everywhere.join (shapes : ∀ shape, FirstShape shape → SecondShape shape → JointShape shape)
    (leaves : ∀ node, FirstLeaf node → SecondLeaf node → JointLeaf node) (schema : Schema)
    (first : schema.Everywhere FirstShape FirstLeaf) (second : schema.Everywhere SecondShape SecondLeaf) :
    schema.Everywhere JointShape JointLeaf := by
  match schema with
  | .object shape => exact ⟨shapes shape first.1 second.1, first.2.join shapes leaves shape second.2⟩
  | .optional inner => exact first.join shapes leaves inner second
  | .nullable inner => exact first.join shapes leaves inner second
  | .array element => exact first.join shapes leaves element second
  | .leaf node => exact leaves node first second

theorem EverywhereIn.join (shapes : ∀ shape, FirstShape shape → SecondShape shape → JointShape shape)
    (leaves : ∀ node, FirstLeaf node → SecondLeaf node → JointLeaf node) (fields : Entries Schema)
    (first : EverywhereIn FirstShape FirstLeaf fields) (second : EverywhereIn SecondShape SecondLeaf fields) :
    EverywhereIn JointShape JointLeaf fields := by
  match fields with
  | [] => trivial
  | (_, field) :: rest =>
    exact ⟨first.1.join shapes leaves field second.1, first.2.join shapes leaves rest second.2⟩

end

theorem Everywhere.imp (shapes : ∀ shape, FirstShape shape → SecondShape shape)
    (leaves : ∀ node, FirstLeaf node → SecondLeaf node) {schema : Schema}
    (first : schema.Everywhere FirstShape FirstLeaf) : schema.Everywhere SecondShape SecondLeaf :=
  first.join (fun shape here _ => shapes shape here) (fun node here _ => leaves node here) schema first

end

theorem everywhereIn_iff {OnShape : Entries Schema → Prop} {OnLeaf : Leaf → Prop} {fields : Entries Schema} :
    EverywhereIn OnShape OnLeaf fields ↔ ∀ field ∈ fields, field.2.Everywhere OnShape OnLeaf := by
  induction fields with
  | nil => simp [EverywhereIn]
  | cons field rest ih => simp [EverywhereIn, ih]

def WellFormed : Schema → Prop := Everywhere (fun shape => shape.keys.Nodup) Leaf.WellFormed

end Schema

/-! ## What the operations keep -/

namespace Value

variable {Holds : Option String → Value → Prop}

theorem EverywhereUnder.insert {entries : Entries Value} (everywhere : EverywhereUnder Holds entries) {key : String}
    {value : Value} (holds : Everywhere Holds (some key) value) : EverywhereUnder Holds (entries.insert key value) := by
  induction entries with
  | nil => exact ⟨holds, trivial⟩
  | cons entry rest ih =>
    obtain ⟨first, old⟩ := entry
    by_cases same : first = key
    · rw [Entries.insert, if_pos same]
      exact ⟨same ▸ holds, everywhere.2⟩
    · rw [Entries.insert, if_neg same]
      exact ⟨everywhere.1, ih everywhere.2⟩

theorem everywhereUnder_ofEntries {fields : Entries Value}
    (holds : ∀ field ∈ fields, field.2.Everywhere Holds (some field.1)) :
    EverywhereUnder Holds (Record.ofEntries fields).entries := by
  induction fields using List.reverseRecOn with
  | nil => trivial
  | append_singleton fields field ih =>
    rw [Record.ofEntries_append_singleton]
    exact (ih fun other member => holds other (by simp [member])).insert (holds field (by simp))

theorem EverywhereUnder.get? {entries : Entries Value} (everywhere : EverywhereUnder Holds entries) {key : String}
    {value : Value} (found : entries.get? key = some value) : Everywhere Holds (some key) value := by
  induction entries with
  | nil => exact nomatch found
  | cons entry rest ih =>
    obtain ⟨first, old⟩ := entry
    rw [Entries.get?] at found
    split at found
    · rename_i same
      obtain rfl := Option.some.inj found
      exact same ▸ everywhere.1
    · exact ih everywhere.2 found

theorem EverywhereIn.append_singleton {items : List Value} (everywhere : EverywhereIn Holds items) {item : Value}
    (holds : item.Everywhere Holds none) : EverywhereIn Holds (items ++ [item]) := by
  induction items with
  | nil => exact ⟨holds, trivial⟩
  | cons first rest ih => exact ⟨everywhere.1, ih everywhere.2⟩

end Value

namespace Leaf

/-- A leaf is made again from its own parts. -/
theorem make_definition (leaf : Leaf) : make leaf.typeName leaf.definition = leaf :=
  Leaf.ext rfl (Record.ext (Entries.insert_of_get? leaf.named))

theorem wellFormed_make {fields : Entries Value}
    (distinct : ∀ field ∈ fields, field.2.Everywhere (fun _ => Value.Distinct) (some field.1)) (typeName : String) :
    (make typeName (.ofEntries fields)).WellFormed := (Value.everywhereUnder_ofEntries distinct).insert trivial

theorem WellFormed.checks {leaf : Leaf} (formed : leaf.WellFormed) :
    Value.EverywhereIn (fun _ => Value.Distinct) leaf.checks := by
  unfold Leaf.checks
  split
  · rename_i items found
    exact (formed.get? found).2
  · trivial

theorem WellFormed.withCheck {leaf : Leaf} (formed : leaf.WellFormed) (kind : String) {fields : Entries Value}
    (distinct : ∀ field ∈ fields, field.2.Everywhere (fun _ => Value.Distinct) (some field.1)) :
    (leaf.withCheck kind fields).WellFormed := by
  have entries : Value.EverywhereUnder (fun _ => Value.Distinct) (Record.ofEntries (("kind", .text kind) :: fields)).entries :=
    Value.everywhereUnder_ofEntries (List.forall_mem_cons.2 ⟨trivial, distinct⟩)
  have check : (check kind fields).Everywhere (fun _ => Value.Distinct) none := ⟨Record.distinct _, entries⟩
  exact formed.insert ⟨trivial, formed.checks.append_singleton check⟩

end Leaf
end SchemaExport
