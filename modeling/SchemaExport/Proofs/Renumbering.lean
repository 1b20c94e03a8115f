import SchemaExport.Proofs.Rewriting

/-! Trees with their numbers replaced.

Keys, names and everything else stay, so a tree is itself again exactly when each of its numbers is.
-/

set_option autoImplicit false

namespace SchemaExport

section
variable (read : Number → Number)

namespace Value

mutual

/-- The value with every number in it replaced. -/
def renumber : Value → Value
  | .null => .null
  | .bool flag => .bool flag
  | .number content => .number (read content)
  | .text content => .text content
  | .regex literal => .regex literal
  | .list items => .list (renumberItems items)
  | .record entries => .record (renumberEntries entries)

def renumberItems : List Value → List Value
  | [] => []
  | item :: rest => renumber item :: renumberItems rest

def renumberEntries : Entries Value → Entries Value
  | [] => []
  | (key, value) :: rest => (key, renumber value) :: renumberEntries rest

end

mutual

/-- No key bears on what becomes of a number. -/
theorem rewrite_renumber (value : Value) (key? : Option String) :
    value.rewrite (fun _ => renumber read) key? = value.renumber read := by
  match value with
  | .null | .bool _ | .number _ | .text _ | .regex _ => rfl
  | .list items => rw [rewrite, renumber, rewriteItems_renumber items]
  | .record entries => rw [rewrite, renumber, rewriteEntries_renumber entries]

theorem rewriteItems_renumber (items : List Value) :
    rewriteItems (fun _ => renumber read) items = renumberItems read items := by
  match items with
  | [] => rfl
  | item :: rest => rw [rewriteItems, renumberItems, rewrite_renumber item none, rewriteItems_renumber rest]

theorem rewriteEntries_renumber (entries : Entries Value) :
    rewriteEntries (fun _ => renumber read) entries = renumberEntries read entries := by
  match entries with
  | [] => rfl
  | (key, value) :: rest =>
    rw [rewriteEntries, renumberEntries, rewrite_renumber value (some key), rewriteEntries_renumber rest]

end

theorem renumberEntries_eq_mapValues (entries : Entries Value) :
    renumberEntries read entries = entries.mapValues fun _ => renumber read := by
  induction entries with
  | nil => rfl
  | cons entry rest ih => exact congrArg (_ :: ·) ih

/-- A condition on numbers alone. -/
def OnNumber (Holds : Number → Prop) : Value → Prop
  | .number content => Holds content
  | _ => True

mutual

theorem renumber_eq_self_iff (value : Value) (key? : Option String) : value.renumber read = value ↔
    value.Everywhere (fun _ => OnNumber fun content => read content = content) key? := by
  match value with
  | .null | .bool _ | .text _ | .regex _ => simp [renumber, Everywhere, OnNumber]
  | .number _ => simp [renumber, Everywhere, OnNumber]
  | .list items => simp [renumber, Everywhere, OnNumber, renumberItems_eq_self_iff items]
  | .record entries => simp [renumber, Everywhere, OnNumber, renumberEntries_eq_self_iff entries]

theorem renumberItems_eq_self_iff (items : List Value) : renumberItems read items = items ↔
    EverywhereIn (fun _ => OnNumber fun content => read content = content) items := by
  match items with
  | [] => simp [renumberItems, EverywhereIn]
  | item :: rest =>
    simp [renumberItems, EverywhereIn, renumberItems_eq_self_iff rest, renumber_eq_self_iff item none]

theorem renumberEntries_eq_self_iff (entries : Entries Value) : renumberEntries read entries = entries ↔
    EverywhereUnder (fun _ => OnNumber fun content => read content = content) entries := by
  match entries with
  | [] => simp [renumberEntries, EverywhereUnder]
  | (key, value) :: rest =>
    simp [renumberEntries, EverywhereUnder, renumberEntries_eq_self_iff rest,
      renumber_eq_self_iff value (some key)]

end

end Value

def Rewriting.renumbering : Rewriting := ⟨fun _ => Value.renumber read, fun _ => rfl⟩

namespace Leaf

def renumber (leaf : Leaf) : Leaf := leaf.mapValues (fun _ => Value.renumber read) fun _ => rfl

theorem rewrite_renumber (leaf : Leaf) : leaf.rewrite (.renumbering read) = leaf.renumber read := by
  have values : (fun key => Value.rewrite (fun _ => Value.renumber read) (some key)) = fun _ => Value.renumber read :=
    funext fun key => funext fun value => Value.rewrite_renumber read value (some key)
  exact Leaf.ext rfl (congrArg leaf.definition.mapValues values)

def OnNumbers (Holds : Number → Prop) (leaf : Leaf) : Prop :=
  (Value.record leaf.definition.entries).Everywhere (fun _ => Value.OnNumber Holds) none

theorem OnNumbers.imp {First Second : Number → Prop} (implies : ∀ content, First content → Second content)
    {leaf : Leaf} (first : leaf.OnNumbers First) : leaf.OnNumbers Second :=
  Value.Everywhere.imp (fun _ value here => by
    cases value with
    | number content => exact implies content here
    | _ => trivial) first

theorem renumber_eq_self_iff (leaf : Leaf) :
    leaf.renumber read = leaf ↔ leaf.OnNumbers fun content => read content = content := by
  rw [OnNumbers, ← Value.renumber_eq_self_iff, Value.renumber, Value.record.injEq, Leaf.ext_iff, Record.ext_iff,
    Value.renumberEntries_eq_mapValues]
  exact and_iff_right rfl

end Leaf

namespace Schema

mutual

def renumber : Schema → Schema
  | .object shape => .object (renumberFields shape)
  | .optional inner => .optional (renumber inner)
  | .nullable inner => .nullable (renumber inner)
  | .array element => .array (renumber element)
  | .leaf node => .leaf (node.renumber read)

def renumberFields : Entries Schema → Entries Schema
  | [] => []
  | (name, field) :: rest => (name, renumber field) :: renumberFields rest

end

mutual

theorem rewrite_renumber (schema : Schema) : schema.rewrite (.renumbering read) = schema.renumber read := by
  match schema with
  | .object shape => rw [rewrite, renumber, rewriteFields_renumber shape]
  | .optional inner => rw [rewrite, renumber, rewrite_renumber inner]
  | .nullable inner => rw [rewrite, renumber, rewrite_renumber inner]
  | .array element => rw [rewrite, renumber, rewrite_renumber element]
  | .leaf node => rw [rewrite, renumber, Leaf.rewrite_renumber]

theorem rewriteFields_renumber (fields : Entries Schema) :
    rewriteFields (.renumbering read) fields = renumberFields read fields := by
  match fields with
  | [] => rfl
  | (name, field) :: rest =>
    rw [rewriteFields, renumberFields, rewrite_renumber field, rewriteFields_renumber rest]

end

def OnNumbers (Holds : Number → Prop) : Schema → Prop := Everywhere (fun _ => True) (Leaf.OnNumbers Holds)

theorem OnNumbers.imp {First Second : Number → Prop} (implies : ∀ content, First content → Second content)
    {schema : Schema} (first : schema.OnNumbers First) : schema.OnNumbers Second :=
  Everywhere.imp (fun _ _ => trivial) (fun _ => Leaf.OnNumbers.imp implies) first

mutual

theorem renumber_eq_self_iff (schema : Schema) :
    schema.renumber read = schema ↔ schema.OnNumbers fun content => read content = content := by
  match schema with
  | .object shape => simp [renumber, OnNumbers, Everywhere, renumberFields_eq_self_iff shape]
  | .optional inner => simpa [renumber, OnNumbers, Everywhere] using renumber_eq_self_iff inner
  | .nullable inner => simpa [renumber, OnNumbers, Everywhere] using renumber_eq_self_iff inner
  | .array element => simpa [renumber, OnNumbers, Everywhere] using renumber_eq_self_iff element
  | .leaf node => simp [renumber, OnNumbers, Everywhere, Leaf.renumber_eq_self_iff]

theorem renumberFields_eq_self_iff (fields : Entries Schema) : renumberFields read fields = fields ↔
    EverywhereIn (fun _ => True) (Leaf.OnNumbers fun content => read content = content) fields := by
  match fields with
  | [] => simp [renumberFields, EverywhereIn]
  | (name, field) :: rest =>
    have first := renumber_eq_self_iff field
    rw [OnNumbers] at first
    simp [renumberFields, EverywhereIn, renumberFields_eq_self_iff rest, first]

end

end Schema

end

end SchemaExport
