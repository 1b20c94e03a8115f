import SchemaExport.Document
import SchemaExport.Proofs.Text

/-! What lowering makes of the nodes of a document, and what it refuses.

A candidate is a text under the key `regex`, as its value or in lists there, that has the form of a
literal. Lowering comes upon the candidates in the order of the document and ends at the first that is
refused. If none is, the tree keeps its shape: candidates become regular expressions, small numbers
without a fraction become integers, and a leaf has its type name under `typeName`.
-/

set_option autoImplicit false

namespace SchemaExport

/-! ## Why a computation fails -/

section
variable {ε α β γ : Type}

def failure? : Except ε α → Option ε
  | .error fault => some fault
  | .ok _ => none

@[simp] theorem failure?_ok (value : α) : failure? (.ok value : Except ε α) = none := rfl

@[simp] theorem failure?_error (fault : ε) : failure? (.error fault : Except ε α) = some fault := rfl

theorem failure?_eq_some_iff {result : Except ε α} {fault : ε} : failure? result = some fault ↔ result = .error fault := by
  cases result <;> simp

theorem failure?_eq_none_iff {result : Except ε α} : failure? result = none ↔ ∃ value, result = .ok value := by
  cases result <;> simp

@[simp] theorem failure?_map (result : Except ε α) (change : α → β) :
    failure? (result >>= fun value => pure (change value)) = failure? result := by
  cases result <;> rfl

/-- Of two computations in a row the first to fail counts. -/
@[simp] theorem failure?_join (first : Except ε α) (second : Except ε β) (join : α → β → γ) :
    failure? (first >>= fun left => second >>= fun right => pure (join left right)) =
      (failure? first).or (failure? second) := by
  cases first <;> cases second <;> rfl

theorem failure?_transform {change : Entries α → Except ε (Entries β)}
    {keeps : ∀ {entries changed}, change entries = .ok changed → changed.keys = entries.keys} (record : Record α) :
    failure? (record.transform change keeps) = failure? (change record.entries) := by
  unfold Record.transform
  split <;> rename_i changing <;> simp [changing]

end

namespace Document

open Regex (Refusal)

/-! ## Candidates -/

/-- Data that is a text, or has it in lists. -/
inductive Holds (content : String) : Json → Prop where
  | here : Holds content (.text content)
  | item {items : List Json} {item : Json} : item ∈ items → Holds content item → Holds content (.list items)

/-- Data with an entry in a record, at any depth. -/
inductive HasEntry (key : String) (value : Json) : Json → Prop where
  | here {entries : Entries Json} : (key, value) ∈ entries → HasEntry key value (.object entries)
  | item {items : List Json} {item : Json} : item ∈ items → HasEntry key value item → HasEntry key value (.list items)
  | under {entries : Entries Json} {other : String} {inner : Json} : (other, inner) ∈ entries →
      HasEntry key value inner → HasEntry key value (.object entries)

/-- A node with a leaf of a definition. -/
inductive HasDefinition (definition : Record Json) : Node → Prop where
  | here {typeName : String} : HasDefinition definition (.leaf typeName definition)
  | field {shape : Entries Node} {name : String} {field : Node} : (name, field) ∈ shape →
      HasDefinition definition field → HasDefinition definition (.object shape)
  | optional {inner : Node} : HasDefinition definition inner → HasDefinition definition (.optional inner)
  | nullable {inner : Node} : HasDefinition definition inner → HasDefinition definition (.nullable inner)
  | array {element : Node} : HasDefinition definition element → HasDefinition definition (.array element)

def IsLiteral (content : String) : Prop := (Regex.Literal.ofText? content.toList).isSome = true

instance (content : String) : Decidable (IsLiteral content) := inferInstanceAs (Decidable (_ = true))

def Candidate (node : Node) (content : String) : Prop :=
  IsLiteral content ∧ ∃ definition value, HasDefinition definition node ∧
    HasEntry "regex" value (.object definition.entries) ∧ Holds content value

mutual

/-- The texts under `regex` in the order of the data, which stands under a key. -/
def regexTexts (key : String) : Json → List String
  | .text content => if key = "regex" then [content] else []
  | .list items => regexTextsIn key items
  | .object entries => regexTextsUnder entries
  | _ => []

def regexTextsIn (key : String) : List Json → List String
  | [] => []
  | item :: rest => regexTexts key item ++ regexTextsIn key rest

def regexTextsUnder : Entries Json → List String
  | [] => []
  | (key, item) :: rest => regexTexts key item ++ regexTextsUnder rest

end

mutual

/-- The texts under `regex` in all definitions, from the first leaf to the last. -/
def Node.regexTexts : Node → List String
  | .object shape => regexTextsIn shape
  | .optional inner => regexTexts inner
  | .nullable inner => regexTexts inner
  | .array element => regexTexts element
  | .leaf _ definition => regexTextsUnder definition.entries

def Node.regexTextsIn : Entries Node → List String
  | [] => []
  | (_, node) :: rest => Node.regexTexts node ++ Node.regexTextsIn rest

end

/-- The candidates of a node, in order. -/
def Node.candidates (node : Node) : List String := node.regexTexts.filter IsLiteral

/-- The first of some texts that is refused, and why. All in front of it are regular expressions. -/
def FirstRefused (texts : List String) (refusal : Refusal) : Prop :=
  ∃ before content behind, texts = before ++ content :: behind ∧
    Regex.Literal.ofText? content.toList = some (.error refusal) ∧
    ∀ earlier ∈ before, ∃ literal, Regex.Literal.ofText? earlier.toList = some (.ok literal)

/-! ## What candidates are -/

theorem holds_text_iff {content other : String} : Holds content (.text other) ↔ content = other :=
  ⟨fun | .here => rfl, fun same => same ▸ .here⟩

theorem holds_list_iff {content : String} {items : List Json} :
    Holds content (.list items) ↔ ∃ item ∈ items, Holds content item :=
  ⟨fun | .item member holds => ⟨_, member, holds⟩, fun ⟨_, member, holds⟩ => .item member holds⟩

theorem hasEntry_list_iff {key : String} {value : Json} {items : List Json} :
    HasEntry key value (.list items) ↔ ∃ item ∈ items, HasEntry key value item :=
  ⟨fun | .item member inside => ⟨_, member, inside⟩, fun ⟨_, member, inside⟩ => .item member inside⟩

theorem hasEntry_object_iff {key : String} {value : Json} {entries : Entries Json} :
    HasEntry key value (.object entries) ↔
      (key, value) ∈ entries ∨ ∃ entry ∈ entries, HasEntry key value entry.2 := by
  constructor
  · intro has
    cases has with
    | here member => exact .inl member
    | under member inside => exact .inr ⟨_, member, inside⟩
  · rintro (member | ⟨_, member, inside⟩)
    · exact .here member
    · exact .under member inside

/-- Data that holds a text under `regex`, where it stands under a key itself. -/
def HoldsUnder (key content : String) (data : Json) : Prop :=
  (key = "regex" ∧ Holds content data) ∨ ∃ value, HasEntry "regex" value data ∧ Holds content value

mutual

theorem mem_regexTexts_iff {content : String} (key : String) (data : Json) :
    content ∈ regexTexts key data ↔ HoldsUnder key content data := by
  match data with
  | .null | .bool _ | .number _ =>
    refine iff_of_false (by simp [regexTexts]) ?_
    rintro (⟨-, ⟨⟩⟩ | ⟨_, ⟨⟩, -⟩)
  | .text other =>
    -- A string is a candidate under the key itself only, as it has no entries of its own.
    have alone : HoldsUnder key content (.text other) ↔ key = "regex" ∧ content = other := by
      rw [HoldsUnder, holds_text_iff, or_iff_left]
      rintro ⟨_, ⟨⟩, -⟩
    rw [alone, regexTexts]
    split <;> simp [*]
  | .list items => exact mem_regexTextsIn_iff key items
  | .object entries =>
    rw [regexTexts, mem_regexTextsUnder_iff entries, HoldsUnder, or_iff_right]
    rintro ⟨-, ⟨⟩⟩

theorem mem_regexTextsIn_iff {content : String} (key : String) (items : List Json) :
    content ∈ regexTextsIn key items ↔ HoldsUnder key content (.list items) := by
  match items with
  | [] => simp [regexTextsIn, HoldsUnder, holds_list_iff, hasEntry_list_iff]
  | item :: rest =>
    have more : content ∈ regexTextsIn key rest ↔ HoldsUnder key content (.list rest) := mem_regexTextsIn_iff key rest
    rw [regexTextsIn, List.mem_append, mem_regexTexts_iff key item, more]
    simp only [HoldsUnder, holds_list_iff, hasEntry_list_iff, List.mem_cons, and_or_left, or_and_right,
      exists_or, exists_eq_left]
    exact or_or_or_comm ..

theorem mem_regexTextsUnder_iff {content : String} (entries : Entries Json) :
    content ∈ regexTextsUnder entries ↔ ∃ value, HasEntry "regex" value (.object entries) ∧ Holds content value := by
  match entries with
  | [] => simp [regexTextsUnder, hasEntry_object_iff]
  | (key, item) :: rest =>
    rw [regexTextsUnder, List.mem_append, mem_regexTexts_iff key item, mem_regexTextsUnder_iff rest]
    simp only [HoldsUnder, hasEntry_object_iff, List.mem_cons, Prod.mk.injEq, or_and_right, exists_or,
      and_assoc, exists_and_left, exists_eq_left]
    rw [@eq_comm _ "regex" key]
    exact or_or_or_comm ..

end

mutual

theorem mem_nodeTexts_iff {content : String} (node : Node) :
    content ∈ node.regexTexts ↔ 
      ∃ definition : Record Json, HasDefinition definition node ∧ content ∈ regexTextsUnder definition.entries := by
  match node with
  | .object shape =>
    rw [Node.regexTexts, mem_shapeTexts_iff shape]
    constructor
    · rintro ⟨_, member, definition, has, inside⟩
      exact ⟨definition, .field member has, inside⟩
    · rintro ⟨definition, has, inside⟩
      cases has with
      | field member has => exact ⟨_, member, definition, has, inside⟩
  | .optional inner =>
    rw [Node.regexTexts, mem_nodeTexts_iff inner]
    exact exists_congr fun _ => and_congr_left fun _ => ⟨.optional, fun | .optional has => has⟩
  | .nullable inner =>
    rw [Node.regexTexts, mem_nodeTexts_iff inner]
    exact exists_congr fun _ => and_congr_left fun _ => ⟨.nullable, fun | .nullable has => has⟩
  | .array element =>
    rw [Node.regexTexts, mem_nodeTexts_iff element]
    exact exists_congr fun _ => and_congr_left fun _ => ⟨.array, fun | .array has => has⟩
  | .leaf typeName definition =>
    exact ⟨fun inside => ⟨definition, .here, inside⟩, fun | ⟨_, .here, inside⟩ => inside⟩

theorem mem_shapeTexts_iff {content : String} (shape : Entries Node) :
    content ∈ Node.regexTextsIn shape ↔
      ∃ field ∈ shape, ∃ definition : Record Json, HasDefinition definition field.2 ∧
        content ∈ regexTextsUnder definition.entries := by
  match shape with
  | [] => simp [Node.regexTextsIn]
  | (name, node) :: rest =>
    rw [Node.regexTextsIn, List.mem_append, mem_nodeTexts_iff node, mem_shapeTexts_iff rest]
    simp

end

theorem mem_candidates_iff {node : Node} {content : String} : content ∈ node.candidates ↔ Candidate node content := by
  rw [Node.candidates, List.mem_filter, decide_eq_true_eq, and_comm, mem_nodeTexts_iff, Candidate]
  simp only [mem_regexTextsUnder_iff, exists_and_left]

/-! ## The first refusal -/

def refusal? (content : String) : Option Refusal :=
  (Regex.Literal.ofText? content.toList).bind failure?

theorem refusal?_eq_some_iff {content : String} {refusal : Refusal} :
    refusal? content = some refusal ↔ Regex.Literal.ofText? content.toList = some (.error refusal) := by
  simp [refusal?, Option.bind_eq_some_iff, failure?_eq_some_iff]

theorem refusal?_eq_none_iff {content : String} (formed : IsLiteral content) :
    refusal? content = none ↔ ∃ literal, Regex.Literal.ofText? content.toList = some (.ok literal) := by
  obtain ⟨made, read⟩ := Option.isSome_iff_exists.1 formed
  rw [refusal?, read, Option.bind_some, failure?_eq_none_iff]
  simp

/-- Texts of another form are passed over. -/
theorem findSome?_candidates (texts : List String) :
    (texts.filter IsLiteral).findSome? refusal? = texts.findSome? refusal? := by
  induction texts with
  | nil => rfl
  | cons content rest ih =>
    by_cases formed : IsLiteral content
    · rw [List.filter_cons_of_pos (by simpa using formed), List.findSome?_cons, List.findSome?_cons, ih]
    · have none : refusal? content = Option.none := by
        rw [refusal?, Option.not_isSome_iff_eq_none.1 formed]
        rfl
      rw [List.filter_cons_of_neg (by simpa using formed), List.findSome?_cons, none, ih]

theorem firstRefused_iff {texts : List String} {refusal : Refusal} :
    FirstRefused (texts.filter IsLiteral) refusal ↔ texts.findSome? refusal? = some refusal := by
  rw [← findSome?_candidates, List.findSome?_eq_some_iff, FirstRefused]
  constructor
  · rintro ⟨before, content, behind, parted, refused, sound⟩
    refine ⟨before, content, behind, parted, refusal?_eq_some_iff.2 refused, fun earlier member => ?_⟩
    obtain ⟨literal, read⟩ := sound earlier member
    exact (refusal?_eq_none_iff (Option.isSome_iff_exists.2 ⟨_, read⟩)).2 ⟨literal, read⟩
  · rintro ⟨before, content, behind, parted, refused, sound⟩
    refine ⟨before, content, behind, parted, refusal?_eq_some_iff.1 refused, fun earlier member => ?_⟩
    -- What stands before the refused text has the form of a literal too, so that it is not just passed over.
    have kept : earlier ∈ texts.filter IsLiteral := by simp [parted, member]
    exact (refusal?_eq_none_iff (by simpa using (List.mem_filter.1 kept).2)).1 (sound earlier member)

/-! ## What lowering fails with -/

theorem failure?_lowerText (content : String) : failure? (lowerText content) = refusal? content := by
  unfold lowerText refusal?
  cases Regex.Literal.ofText? content.toList with
  | none => rfl
  | some made => cases made <;> rfl

mutual

theorem failure?_lowerData (key : String) (data : Json) :
    failure? (lowerData key data) = (regexTexts key data).findSome? refusal? := by
  match data with
  | .null | .bool _ | .number _ => rfl
  | .text content =>
    rw [lowerData, regexTexts]
    split
    · simp [failure?_lowerText]
    · rfl
  | .list items =>
    rw [lowerData, regexTexts, failure?_map, failure?_lowerItems key items]
  | .object entries =>
    rw [lowerData, regexTexts, failure?_map, failure?_lowerEntries entries]

theorem failure?_lowerItems (key : String) (items : List Json) :
    failure? (lowerItems key items) = (regexTextsIn key items).findSome? refusal? := by
  match items with
  | [] => rfl
  | item :: rest =>
    rw [lowerItems, regexTextsIn, failure?_join, failure?_lowerData key item, failure?_lowerItems key rest,
      List.findSome?_append]

theorem failure?_lowerEntries (entries : Entries Json) :
    failure? (lowerEntries entries) = (regexTextsUnder entries).findSome? refusal? := by
  match entries with
  | [] => rfl
  | (key, item) :: rest =>
    rw [lowerEntries, regexTextsUnder, failure?_join, failure?_lowerData key item, failure?_lowerEntries rest,
      List.findSome?_append]

end

theorem failure?_lowerDefinition (definition : Record Json) :
    failure? (lowerDefinition definition) = (regexTextsUnder definition.entries).findSome? refusal? := by
  rw [lowerDefinition, failure?_transform, failure?_lowerEntries]

mutual

theorem failure?_lower (node : Node) : failure? (lower node) = node.regexTexts.findSome? refusal? := by
  match node with
  | .object shape => rw [lower, Node.regexTexts, failure?_map, failure?_lowerShape shape]
  | .optional inner => rw [lower, Node.regexTexts, failure?_map, failure?_lower inner]
  | .nullable inner => rw [lower, Node.regexTexts, failure?_map, failure?_lower inner]
  | .array element => rw [lower, Node.regexTexts, failure?_map, failure?_lower element]
  | .leaf typeName definition => rw [lower, Node.regexTexts, failure?_map, failure?_lowerDefinition]

theorem failure?_lowerShape (shape : Entries Node) :
    failure? (lowerShape shape) = (Node.regexTextsIn shape).findSome? refusal? := by
  match shape with
  | [] => rfl
  | (name, node) :: rest =>
    rw [lowerShape, Node.regexTextsIn, failure?_join, failure?_lower node, failure?_lowerShape rest,
      List.findSome?_append]

end

theorem failure?_lowerNodes (nodes : Record Node) :
    failure? (lowerNodes nodes) = (Node.regexTextsIn nodes.entries).findSome? refusal? := by
  rw [lowerNodes, failure?_transform, failure?_lowerShape]

end Document
end SchemaExport
