import Mathlib.Data.List.Sort
import SchemaExport.Proofs.Command.Export
import SchemaExport.Proofs.Document.Lowering
import SchemaExport.Proofs.Registry

/-! What documents are merged into.

A name stands where it comes first in the documents, and has the schema of the last document that defines
it. The header is the one that is given, else that of the header file, else that of the last document
that has one.
-/

set_option autoImplicit false

namespace SchemaExport

/-! ## Lists by their first and last members -/

/-- The last member of a list of which something is found. -/
def LastFound {α β : Type} (find? : α → Option β) (items : List α) (result : β) : Prop :=
  ∃ before item behind, items = before ++ item :: behind ∧ find? item = some result ∧
    ∀ later ∈ behind, find? later = none

theorem lastFound_iff {α β : Type} {find? : α → Option β} {items : List α} {result : β} :
    items.reverse.findSome? find? = some result ↔ LastFound find? items result := by
  rw [List.findSome?_eq_some_iff]
  constructor
  · rintro ⟨behind, item, before, parted, found, none⟩
    refine ⟨before.reverse, item, behind.reverse, ?_, found, fun later member => none later (List.mem_reverse.1 member)⟩
    rw [← List.reverse_reverse items, parted]
    simp
  · rintro ⟨before, item, behind, rfl, found, none⟩
    exact ⟨behind.reverse, item, before.reverse, by simp, found, fun later member => none later (List.mem_reverse.1 member)⟩

theorem pairwise_idxOf_eraseDups {α : Type} [DecidableEq α] (items : List α) :
    items.eraseDups.Pairwise fun left right => items.idxOf left < items.idxOf right := by
  induction items using List.reverseRecOn with
  | nil => exact .nil
  | append_singleton items item ih =>
    have kept : items.eraseDups.Pairwise fun left right =>
        (items ++ [item]).idxOf left < (items ++ [item]).idxOf right := by
      refine ih.imp_of_mem fun left right before => ?_
      rwa [List.idxOf_append_of_mem (List.mem_eraseDups.1 left), List.idxOf_append_of_mem (List.mem_eraseDups.1 right)]
    rw [Record.eraseDups_concat]
    split
    · exact kept
    -- A new item has its first place behind all the others.
    · rename_i fresh
      refine List.pairwise_append.2 ⟨kept, List.pairwise_singleton .., fun left member right last => ?_⟩
      have known : left ∈ items := List.mem_eraseDups.1 member
      rw [List.mem_singleton.1 last, List.idxOf_append_of_mem known, List.idxOf_append_of_notMem fresh]
      exact Nat.lt_of_lt_of_le (List.idxOf_lt_length_of_mem known) (Nat.le_add_right ..)

namespace Command

def definedNames (documents : List Document) : List String := documents.flatMap fun document => document.schemas.keys

/-- A registry of the names in the order of their first places, each with the schema defined last. -/
structure Merged (documents : List Document) (registry : Registry) : Prop where
  listed : ∀ name, name ∈ registry.names ↔ ∃ document ∈ documents, name ∈ document.schemas.keys
  ordered : registry.names.Pairwise fun left right =>
    (definedNames documents).idxOf left < (definedNames documents).idxOf right
  held : ∀ name schema, registry.get? name = some schema ↔
    LastFound (fun document => document.schemas.get? name) documents schema

/-- The header that counts: given, of a file, of a document, or none. -/
inductive Headed (settings : ExportSettings) (tree : Files.Tree) (documents : List Document) : String → Prop where
  | given {text : String} : settings.header = some text → Headed settings tree documents text
  | file {path : String} {content : List Char} : settings.header = none → settings.headerFile = some path →
      tree.read path.toList = .ok content → Headed settings tree documents (String.ofList content)
  | document {text : String} : settings.header = none → settings.headerFile = none →
      LastFound Document.header documents text → Headed settings tree documents text
  | nothing : settings.header = none → settings.headerFile = none →
      (∀ document ∈ documents, document.header = none) → Headed settings tree documents ""

/-! ## Schemas -/

theorem get?_allSchemas (documents : List Document) (name : String) :
    Entries.get? (allSchemas documents).reverse name =
      documents.reverse.findSome? fun document => document.schemas.get? name := by
  induction documents with
  | nil => rfl
  | cons document rest ih =>
    have whole : allSchemas (document :: rest) = document.schemas.entries ++ allSchemas rest := List.flatMap_cons
    rw [whole, List.reverse_append, Entries.get?_append, ih, document.schemas.get?_reverse, List.reverse_cons,
      List.findSome?_append]
    simp

theorem merged_merge (documents : List Document) (header : Option String) :
    Merged documents (merge header documents) := by
  have schemas : (merge header documents).schemas = Record.ofEntries (allSchemas documents) :=
    Registry.schemas_registerAll ..
  -- The order of first mention is that of the names without their repetitions.
  have names : (merge header documents).names = (definedNames documents).eraseDups := by
    rw [Registry.names, schemas, Record.keys_ofEntries, allSchemas, List.map_flatMap]
    rfl
  constructor
  case listed =>
    intro name
    rw [names, List.mem_eraseDups, definedNames, List.mem_flatMap]
  case ordered =>
    rw [names]
    exact pairwise_idxOf_eraseDups _
  case held =>
    intro name schema
    rw [Registry.get?, schemas, Record.get?_ofEntries, get?_allSchemas, lastFound_iff]

namespace Merged

variable {documents : List Document} {left right : Registry}

theorem names_eq (merged : Merged documents left) (again : Merged documents right) : left.names = right.names := by
  have same : left.names.Perm right.names :=
    (List.perm_ext_iff_of_nodup left.schemas.distinct right.schemas.distinct).2
      fun name => (merged.listed name).trans (again.listed name).symm
  exact same.eq_of_pairwise (fun _ _ _ _ before behind => absurd before (Nat.lt_asymm behind))
    merged.ordered again.ordered

theorem schemas_eq (merged : Merged documents left) (again : Merged documents right) : left.schemas = right.schemas := by
  refine Record.ext_keys_get? (merged.names_eq again) fun name => Option.ext fun schema => ?_
  exact (merged.held name schema).trans (again.held name schema).symm

end Merged

/-! ## Headers -/

theorem lastHeader_eq (documents : List Document) : lastHeader documents = documents.reverse.findSome? Document.header := by
  rw [lastHeader]
  induction documents using List.reverseRecOn with
  | nil => rfl
  | append_singleton documents document ih =>
    rw [List.foldl_append, ih, List.reverse_append]
    cases own : document.header with
    | none => simp [own]
    | some header => simp [own]

theorem lastHeader_eq_none_iff {documents : List Document} :
    lastHeader documents = none ↔ ∀ document ∈ documents, document.header = none := by
  simp [lastHeader_eq]

theorem headed_iff {settings : ExportSettings} {tree : Files.Tree} {documents : List Document} {text : String} :
    (∃ header, chooseHeader settings tree documents = .ok header ∧ header.getD "" = text) ↔
      Headed settings tree documents text := by
  constructor
  · rintro ⟨header, chosen, rfl⟩
    unfold chooseHeader at chosen
    split at chosen
    · rename_i given
      cases chosen
      exact .given given
    · rename_i path absent file
      split at chosen
      · rename_i read
        cases chosen
        exact .file absent file read
      · exact nomatch chosen
    · rename_i absent noFile
      cases chosen
      -- Without a header among the settings the last one of the documents counts.
      cases last : lastHeader documents with
      | none => exact .nothing absent noFile (lastHeader_eq_none_iff.1 last)
      | some header => exact .document absent noFile (lastFound_iff.1 ((lastHeader_eq documents).symm.trans last))
  · intro headed
    unfold chooseHeader
    cases headed with
    | given given => exact ⟨some text, by rw [given], rfl⟩
    | @file path content absent file read =>
      refine ⟨some (String.ofList content), ?_, rfl⟩
      simp only [absent, file, read]
    | document absent noFile found =>
      refine ⟨some text, ?_, rfl⟩
      simp only [absent, noFile, lastHeader_eq, lastFound_iff.2 found]
    | nothing absent noFile bare =>
      refine ⟨none, ?_, rfl⟩
      simp only [absent, noFile, lastHeader_eq_none_iff.2 bare]

theorem exists_header_iff {settings : ExportSettings} {tree : Files.Tree} {documents : List Document} :
    (∃ header, chooseHeader settings tree documents = .ok header) ↔
      (settings.header = none → ∀ path ∈ settings.headerFile, ∃ content, tree.read path.toList = .ok content) := by
  unfold chooseHeader
  cases settings.header with
  | some text => simp
  | none =>
    cases settings.headerFile with
    | none => simp
    | some path => cases read : tree.read path.toList <;> simp [read]

/-! ## Registries -/

theorem gathered_iff {settings : ExportSettings} {tree : Files.Tree} {paths : List (List Char)}
    {documents : List Document} (resolved : resolveInputs tree settings.inputs = .ok paths)
    (loaded : List.Forall₂ (LoadedFrom tree) paths documents) {registry : Registry} :
    Gathered settings tree registry ↔
      ∃ header, chooseHeader settings tree documents = .ok header ∧ registry = merge header documents := by
  constructor
  · rintro ⟨others, again, header, inputs, same, chosen, rfl⟩
    obtain rfl := Except.ok.inj (resolved.symm.trans inputs)
    obtain rfl : documents = again := (loadDocuments_iff.2 loaded).2.symm.trans (loadDocuments_iff.2 same).2
    exact ⟨header, chosen, rfl⟩
  · rintro ⟨header, chosen, rfl⟩
    exact ⟨paths, documents, header, resolved, loaded, chosen, rfl⟩

theorem header_merge (header : Option String) (documents : List Document) :
    (merge header documents).header = header.getD "" :=
  Registry.header_registerAll ..

/-- Documents that load are merged whatever they hold: names by their first places, schemas by their last
definitions, under the header that counts; and only a header file can keep them from it. -/
theorem buildRegistry_merges {settings : ExportSettings} {tree : Files.Tree} {paths : List (List Char)}
    {documents : List Document} (resolved : resolveInputs tree settings.inputs = .ok paths)
    (loaded : List.Forall₂ (LoadedFrom tree) paths documents) :
    (∀ registry, (buildRegistry settings tree).2 = .ok registry ↔
      Merged documents registry ∧ Headed settings tree documents registry.header) ∧
    ((∃ registry, (buildRegistry settings tree).2 = .ok registry) ↔
      (settings.header = none → ∀ path ∈ settings.headerFile, ∃ content, tree.read path.toList = .ok content)) := by
  have built : ∀ registry, (buildRegistry settings tree).2 = .ok registry ↔
      Merged documents registry ∧ Headed settings tree documents registry.header := by
    intro registry
    rw [buildRegistry_eq_ok_iff, gathered_iff resolved loaded]
    constructor
    · rintro ⟨header, chosen, rfl⟩
      exact ⟨merged_merge documents header, headed_iff.1 ⟨header, chosen, (header_merge header documents).symm⟩⟩
    · rintro ⟨merged, headed⟩
      -- Places, schemas and header leave one registry, which is the one that is built.
      obtain ⟨header, chosen, same⟩ := headed_iff.2 headed
      refine ⟨header, chosen, ?_⟩
      have schemas := merged.schemas_eq (merged_merge documents header)
      have headers := same.symm.trans (header_merge header documents).symm
      cases registry
      cases schemas
      cases headers
      rfl
  refine ⟨built, ?_⟩
  rw [← @exists_header_iff settings tree documents]
  simp only [buildRegistry_eq_ok_iff, gathered_iff resolved loaded]
  constructor
  · rintro ⟨registry, header, chosen, -⟩
    exact ⟨header, chosen⟩
  · rintro ⟨header, chosen⟩
    exact ⟨_, header, chosen, rfl⟩

/-- Three documents that overlap in part, the last without a header. -/
theorem buildRegistry_merges_overlapping :
    let leaf (typeName : String) : Schema := .leaf (.make typeName .empty)
    let first := "\x7b\"prefix\":\"// a\",\"schemas\":\x7b\"A\":\x7b\"kind\":\"leaf\",\"typeName\":\"ZodAny\"\x7d,".toList ++
      "\"B\":\x7b\"kind\":\"leaf\",\"typeName\":\"ZodAny\"\x7d\x7d\x7d".toList
    let second := "\x7b\"prefix\":\"// b\",\"schemas\":\x7b\"C\":\x7b\"kind\":\"leaf\",\"typeName\":\"ZodAny\"\x7d,".toList ++
      "\"A\":\x7b\"kind\":\"leaf\",\"typeName\":\"ZodDate\"\x7d\x7d\x7d".toList
    let third := "\x7b\"prefix\":null,\"schemas\":\x7b\"B\":\x7b\"kind\":\"leaf\",\"typeName\":\"ZodNull\"\x7d\x7d\x7d".toList
    let tree := (((Files.Tree.bare []).put ["a.json".toList] (.file (.text first))).put ["b.json".toList]
      (.file (.text second))).put ["c.json".toList] (.file (.text third))
    let settings : ExportSettings := ⟨["a.json", "b.json", "c.json"], none, none, none, false⟩
    let paths := ["a.json".toList, "b.json".toList, "c.json".toList]
    let documents : List Document := [⟨some "// a", .ofEntries [("A", leaf "ZodAny"), ("B", leaf "ZodAny")]⟩,
      ⟨some "// b", .ofEntries [("C", leaf "ZodAny"), ("A", leaf "ZodDate")]⟩, ⟨none, .ofEntries [("B", leaf "ZodNull")]⟩]
    let registry : Registry :=
      ⟨.ofEntries [("A", leaf "ZodDate"), ("B", leaf "ZodNull"), ("C", leaf "ZodAny")], "// b"⟩
    resolveInputs tree settings.inputs = .ok paths ∧ List.Forall₂ (LoadedFrom tree) paths documents ∧
      (buildRegistry settings tree).2 = .ok registry ∧ Merged documents registry ∧
      Headed settings tree documents registry.header := by
  intro leaf first second third tree settings paths documents registry
  have resolved : resolveInputs tree settings.inputs = .ok paths := rfl
  have firstParsed : Document.parse first = .ok ⟨some "// a", .ofEntries [("A", leaf "ZodAny"), ("B", leaf "ZodAny")]⟩ := by
    unfold first leaf
    cbv
  have secondParsed : Document.parse second = .ok ⟨some "// b", .ofEntries [("C", leaf "ZodAny"), ("A", leaf "ZodDate")]⟩ := by
    unfold second leaf
    cbv
  have thirdParsed : Document.parse third = .ok ⟨none, .ofEntries [("B", leaf "ZodNull")]⟩ := by
    unfold third leaf
    cbv
  have loaded : List.Forall₂ (LoadedFrom tree) paths documents :=
    .cons ⟨first, rfl, firstParsed⟩ (.cons ⟨second, rfl, secondParsed⟩ (.cons ⟨third, rfl, thirdParsed⟩ .nil))
  have built : (buildRegistry settings tree).2 = .ok registry :=
    buildRegistry_eq_ok_iff.2 ((gathered_iff resolved loaded).2 ⟨some "// b", rfl, rfl⟩)
  exact ⟨resolved, loaded, built, ((buildRegistry_merges resolved loaded).1 registry).1 built⟩

end Command
end SchemaExport
