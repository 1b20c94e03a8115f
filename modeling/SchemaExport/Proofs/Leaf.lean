import SchemaExport.Proofs.Record
import SchemaExport.Schema

/-! What a leaf becomes step by step.

A step sets a field or appends a check. Whatever the keys, the type name stays and the definition repeats
it where it stood first; keys keep their places and new ones come behind them; and the checks that are
appended stand in order behind those that were there when the checks were last set as a field.
-/

set_option autoImplicit false

namespace SchemaExport

namespace Record

/-- Keys with those of more keys behind them that are new, in the order of their first arrival. -/
def arrivals (keys more : List String) : List String := keys ++ (more.filter (· ∉ keys)).eraseDups

theorem mem_arrivals {keys more : List String} {key : String} : key ∈ arrivals keys more ↔ key ∈ keys ∨ key ∈ more := by
  by_cases known : key ∈ keys <;> simp [arrivals, known]

theorem arrivals_concat (keys more : List String) (key : String) : arrivals keys (more ++ [key]) =
    if key ∈ arrivals keys more then arrivals keys more else arrivals keys more ++ [key] := by
  simp only [mem_arrivals]
  by_cases known : key ∈ keys
  · simp [arrivals, known]
  · have fresh : (more ++ [key]).filter (· ∉ keys) = more.filter (· ∉ keys) ++ [key] := by simp [known]
    rw [arrivals, fresh, eraseDups_concat]
    by_cases arrived : key ∈ more <;> simp [arrivals, known, arrived]

theorem arrivals_append (keys first more : List String) :
    arrivals keys (first ++ more) = arrivals (arrivals keys first) more := by
  induction more using List.reverseRecOn with
  | nil => simp [arrivals]
  | append_singleton more key ih => rw [← List.append_assoc, arrivals_concat, ih, arrivals_concat]

theorem keys_insert_eq_arrivals {α : Type} (record : Record α) (key : String) (value : α) :
    (record.insert key value).keys = arrivals record.keys [key] := by
  have nothing : arrivals record.keys [] = record.keys := List.append_nil _
  have arrival := arrivals_concat record.keys [] key
  rw [nothing, List.nil_append] at arrival
  rw [keys_insert, arrival]

end Record

namespace Leaf

inductive Origin where
  | new (typeName : String) (definition : Definition)
  | string
  | number
  | boolean
  | enumeration (values : List String)
  | literal (value : Value)

def Origin.leaf : Origin → Leaf
  | .new typeName definition => make typeName definition
  | .string => Leaf.string
  | .number => Leaf.number
  | .boolean => Leaf.boolean
  | .enumeration values => Leaf.enumeration values
  | .literal value => Leaf.literal value

inductive Step where
  | field (key : String) (value : Value)
  | check (kind : String) (fields : Entries Value)
  | matching (literal : Regex.Literal)
  | minLength (bound : Nat)
  | maxLength (bound : Nat)
  | atLeast (bound : Value)
  | atMost (bound : Value)

namespace Step

def apply (leaf : Leaf) : Step → Leaf
  | .field key value => leaf.withField key value
  | .check kind fields => leaf.withCheck kind fields
  | .matching literal => leaf.matching literal
  | .minLength bound => leaf.minLength bound
  | .maxLength bound => leaf.maxLength bound
  | .atLeast bound => leaf.atLeast bound
  | .atMost bound => leaf.atMost bound

def check? : Step → Option (String × Entries Value)
  | .field _ _ => none
  | .check kind fields => some (kind, fields)
  | .matching literal => some ("regex", [("regex", .regex literal)])
  | .minLength bound => some ("min", [("value", .number (.integer bound))])
  | .maxLength bound => some ("max", [("value", .number (.integer bound))])
  | .atLeast bound => some ("min", [("value", bound), ("inclusive", .bool true)])
  | .atMost bound => some ("max", [("value", bound), ("inclusive", .bool true)])

def key : Step → String
  | .field key _ => key
  | _ => "checks"

end Step

def run (leaf : Leaf) (steps : List Step) : Leaf := steps.foldl Step.apply leaf

/-- The record of a check: its kind comes first, and a field of a name that is there already replaces its value. -/
def Records (check : String × Entries Value) (value : Value) : Prop :=
  ∃ record : Record Value, value = .record record.entries ∧
    Record.Collected (("kind", .text check.1) :: check.2) record

theorem records_check (kind : String) (fields : Entries Value) : Records (kind, fields) (check kind fields) :=
  ⟨_, rfl, Record.collected_iff.2 rfl⟩

/-! ## One step -/

namespace Step

theorem apply_cases (leaf : Leaf) (step : Step) :
    (∃ value, step = .field step.key value ∧ step.check? = none ∧ step.apply leaf = leaf.withField step.key value) ∨
    (∃ kind fields, step.key = "checks" ∧ step.check? = some (kind, fields) ∧
      step.apply leaf = leaf.withCheck kind fields) := by
  cases step with
  | field key value => exact .inl ⟨value, rfl, rfl, rfl⟩
  | _ => exact .inr ⟨_, _, rfl, rfl, rfl⟩

theorem typeName_apply (leaf : Leaf) (step : Step) : (step.apply leaf).typeName = leaf.typeName := by
  obtain ⟨value, -, -, same⟩ | ⟨kind, fields, -, -, same⟩ := step.apply_cases leaf <;> rw [same] <;> rfl

theorem get?_apply_of_ne (leaf : Leaf) (step : Step) {key : String} (apart : step.key ≠ key) :
    (step.apply leaf).definition.get? key = leaf.definition.get? key := by
  obtain ⟨value, -, -, same⟩ | ⟨kind, fields, isChecks, -, same⟩ := step.apply_cases leaf
  · rw [same, withField, make]
    by_cases name : typeNameKey = key
    · subst name
      rw [Record.get?_insert_self, leaf.named]
    · rw [Record.get?_insert_of_ne _ _ name, Record.get?_insert_of_ne _ _ apart]
  · rw [same, withCheck, Record.get?_insert_of_ne _ _ (isChecks ▸ apart)]

theorem keys_apply (leaf : Leaf) (step : Step) : (step.apply leaf).definition.keys =
    if step.key ∈ leaf.definition.keys then leaf.definition.keys else leaf.definition.keys ++ [step.key] := by
  have named : typeNameKey ∈ leaf.definition.keys := by
    by_contra absent
    rw [← Record.get?_eq_none_iff, leaf.named] at absent
    cases absent
  obtain ⟨value, -, -, same⟩ | ⟨kind, fields, isChecks, -, same⟩ := step.apply_cases leaf
  · -- The type name is there already, so that writing it again adds no key.
    have there : typeNameKey ∈ (leaf.definition.insert step.key value).keys := by
      rw [Record.keys_insert]
      split
      · exact named
      · exact List.mem_append_left _ named
    rw [same, withField, make, Record.keys_insert _ typeNameKey, if_pos there, Record.keys_insert]
  · rw [same, withCheck, Record.keys_insert, isChecks]

end Step

/-! ## Runs -/

/-- What is true of a leaf that steps have made of another. The checks go on from the earlier ones unless
a step sets them as a field, and they are a list once one has been appended. -/
structure Follows (earlier : Leaf) (steps : List Step) (later : Leaf) : Prop where
  typeName : later.typeName = earlier.typeName
  keys : later.definition.keys = Record.arrivals earlier.definition.keys (steps.map Step.key)
  kept : ∀ key, key ∉ steps.map Step.key → later.definition.get? key = earlier.definition.get? key
  checks : (∀ value, .field "checks" value ∉ steps) → ∃ records,
    List.Forall₂ Records (steps.filterMap Step.check?) records ∧ later.checks = earlier.checks ++ records ∧
      (records ≠ [] → later.definition.get? "checks" = some (.list later.checks))

theorem Follows.refl (leaf : Leaf) : Follows leaf [] leaf where
  typeName := rfl
  keys := by simp [Record.arrivals]
  kept _ _ := rfl
  checks _ := ⟨[], .nil, (List.append_nil _).symm, fun some => absurd rfl some⟩

theorem checks_withCheck (leaf : Leaf) (kind : String) (fields : Entries Value) :
    (leaf.withCheck kind fields).definition.get? "checks" = some (.list (leaf.withCheck kind fields).checks) ∧
      (leaf.withCheck kind fields).checks = leaf.checks ++ [check kind fields] := by
  have listed : (leaf.withCheck kind fields).definition.get? "checks" =
      some (.list (leaf.checks ++ [check kind fields])) := Record.get?_insert_self ..
  have appended : (leaf.withCheck kind fields).checks = leaf.checks ++ [check kind fields] := by
    rw [checks, listed]
  exact ⟨by rw [listed, appended], appended⟩

theorem Follows.concat {earlier later : Leaf} {steps : List Step} (follows : Follows earlier steps later) (step : Step) :
    Follows earlier (steps ++ [step]) (step.apply later) where
  typeName := (step.typeName_apply later).trans follows.typeName
  keys := by
    rw [step.keys_apply later, follows.keys, List.map_append, List.map_singleton, Record.arrivals_concat]
  kept := by
    intro key fresh
    rw [List.map_append, List.map_singleton, List.mem_append, List.mem_singleton, not_or] at fresh
    rw [step.get?_apply_of_ne later (Ne.symm fresh.2), follows.kept key fresh.1]
  checks := by
    intro unset
    obtain ⟨records, all, sofar, listed⟩ := follows.checks fun value member =>
      unset value (List.mem_append_left _ member)
    rw [List.filterMap_append]
    obtain ⟨value, isField, none, -⟩ | ⟨kind, fields, -, appends, same⟩ := step.apply_cases later
    · -- The field is another one, so that the checks stay as they are.
      have apart : step.key ≠ "checks" := by
        intro isChecks
        rw [isChecks] at isField
        exact unset value (List.mem_append_right _ (isField ▸ List.mem_cons_self))
      have unchanged := step.get?_apply_of_ne later apart
      have checks : (step.apply later).checks = later.checks := by rw [Leaf.checks, Leaf.checks, unchanged]
      rw [List.filterMap_cons_none none, List.filterMap_nil, List.append_nil, unchanged, checks]
      exact ⟨records, all, sofar, listed⟩
    · obtain ⟨isList, appended⟩ := checks_withCheck later kind fields
      rw [List.filterMap_cons_some appends, List.filterMap_nil, same]
      refine ⟨records ++ [check kind fields], ?_, ?_, fun _ => isList⟩
      · exact List.rel_append all (.cons (records_check kind fields) .nil)
      · rw [appended, sofar, List.append_assoc]

theorem follows_run (leaf : Leaf) (steps : List Step) : Follows leaf steps (leaf.run steps) := by
  induction steps using List.reverseRecOn with
  | nil => exact .refl leaf
  | append_singleton steps step ih =>
    rw [run, List.foldl_append]
    exact ih.concat step

/-- A leaf in a run and any leaf further on in it. -/
theorem run_origin (origin : Origin) (before after : List Step) :
    let earlier := origin.leaf.run before
    let later := origin.leaf.run (before ++ after)
    later.typeName = origin.leaf.typeName ∧
    later.definition.get? typeNameKey = some (.text later.typeName) ∧
    later.definition.keys = Record.arrivals earlier.definition.keys (after.map Step.key) ∧
    (∀ typeName definition, origin = .new typeName definition → later.typeName = typeName ∧
      later.definition.keys = Record.arrivals definition.keys (typeNameKey :: (before ++ after).map Step.key)) ∧
    (∀ key, key ∉ after.map Step.key → later.definition.get? key = earlier.definition.get? key) ∧
    ((∀ value, .field "checks" value ∉ after) → after.filterMap Step.check? ≠ [] →
      ∃ records, later.definition.get? "checks" = some (.list (earlier.checks ++ records)) ∧
        List.Forall₂ Records (after.filterMap Step.check?) records) := by
  intro earlier later
  have first : Follows origin.leaf before earlier := follows_run origin.leaf before
  have second : Follows earlier after later := by
    have parted : later = earlier.run after := List.foldl_append
    rw [parted]
    exact follows_run earlier after
  have whole : Follows origin.leaf (before ++ after) later := follows_run origin.leaf (before ++ after)
  refine ⟨whole.typeName, later.named, second.keys, ?_, second.kept, fun unset some => ?_⟩
  · rintro typeName definition rfl
    refine ⟨whole.typeName, ?_⟩
    rw [whole.keys, ← List.singleton_append, Record.arrivals_append, Origin.leaf, make, Record.keys_insert_eq_arrivals]
  · obtain ⟨records, all, checks, listed⟩ := second.checks unset
    have nonempty : records ≠ [] := fun none => some (List.forall₂_nil_right_iff.1 (none ▸ all))
    exact ⟨records, checks ▸ listed nonempty, all⟩

/-- The type name and the checks are overwritten, and a check brings a kind of its own. -/
theorem run_origin_overwritten :
    let origin := Origin.new "ZodString" (.ofEntries [("description", .text "d")])
    let before : List Step := [.field "checks" (.bool true), .field typeNameKey (.text "Bogus")]
    let after : List Step := [.minLength 1, .check "regex" [("flags", .null), ("kind", .text "own")], .field "note" .null]
    let later := origin.leaf.run (before ++ after)
    (∀ value, .field "checks" value ∉ after) ∧ later.typeName = "ZodString" ∧
      later.definition.get? typeNameKey = some (.text "ZodString") ∧
      later.definition.keys = ["description", typeNameKey, "checks", "note"] ∧
      ∃ records, later.definition.get? "checks" = some (.list records) ∧
        List.Forall₂ Records [("min", [("value", .number (.integer 1))]),
          ("regex", [("flags", .null), ("kind", .text "own")])] records := by
  intro origin before after later
  have unset : ∀ value, .field "checks" value ∉ after := by simp [after]
  obtain ⟨-, named, -, made, -, checked⟩ := run_origin origin before after
  obtain ⟨typeName, keys⟩ := made _ _ rfl
  obtain ⟨records, listed, all⟩ := checked unset (List.cons_ne_nil _ _)
  exact ⟨unset, typeName, typeName ▸ named, keys.trans (by decide), records, listed, all⟩

end Leaf
end SchemaExport
