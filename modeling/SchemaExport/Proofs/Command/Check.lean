import SchemaExport.Command.Check
import SchemaExport.Proofs.Document.Lowering
import SchemaExport.Proofs.Expression.Demotion
import SchemaExport.Proofs.Module
import SchemaExport.Proofs.Registry

/-! What an export renders passes the check.

A check compares declarations as text, so it does not see which regular expressions came back as
strings. It suffices that the loader has left no string that the printer would take for a regular
expression, which holds under the key `regex` and needs an assumption under keys that only end like it.
-/

set_option autoImplicit false

namespace SchemaExport

open SchemaExport.Module (Feed Line)

/-! ## Exportable schemas -/

def Value.Apart (key? : Option String) (_ : Value) : Prop := ∀ key ∈ key?, ¬ EndsAsRegex key

theorem Value.Loaded.reprintable {key? : Option String} {value : Value} (loaded : value.Loaded key?)
    (whole : value.Whole) (apart : value.Apart key?) : value.Reprintable key? := by
  cases value with
  | null | bool _ | regex _ | list _ | record _ => trivial
  | number number =>
    cases number with
    | integer _ => exact loaded
    | double fraction => exact whole fraction rfl
  | text content =>
    intro key present named
    cases named with
    | inl same => exact loaded (String.toList_inj.1 same ▸ present)
    | inr suffix => exact absurd suffix (apart key present)

theorem Schema.Loaded.reprintable {schema : Schema} (loaded : schema.Loaded) (regular : schema.Regular)
    (apart : schema.Definitions Value.Apart) : schema.Reprintable :=
  (loaded.regular regular apart fun _ _ => Value.Loaded.reprintable).imp (fun _ _ => trivial)
    fun _ here => ⟨here.1, here.2⟩

/-! ## Lines of a module -/

namespace Module

theorem linesOf_ne_nil {text : List Char} (nonempty : text ≠ []) : linesOf text ≠ [] := by
  obtain ⟨c, rest, rfl⟩ := List.exists_cons_of_ne_nil nonempty
  rw [linesOf]
  split
  · exact List.cons_ne_nil _ _
  · split <;> exact List.cons_ne_nil _ _

theorem linesOf_append_feed (front rest : List Char) :
    linesOf (front ++ '\n' :: rest) = linesOf (front ++ ['\n']) ++ linesOf rest := by
  induction front with
  | nil => rfl
  | cons c front ih =>
    by_cases feed : c = '\n'
    · simp only [List.cons_append, linesOf, if_pos feed, ih]
    · have some : linesOf (front ++ ['\n']) ≠ [] := linesOf_ne_nil (by simp)
      obtain ⟨line, lines, before⟩ := List.exists_cons_of_ne_nil some
      simp only [List.cons_append, linesOf, if_neg feed, ih, before]

end Module

namespace Command

theorem trimmedLines_joinLines {lines : List (List Char)}
    (formed : ∀ line ∈ lines, Line line ∧ ∃ front, line = front ++ [';']) (nonempty : lines ≠ [])
    {feed : List Char} (fed : Feed feed) : trimmedLines (joinLines lines ++ feed) = lines := by
  have trimmed : ∀ line ∈ lines, ∀ feed, Feed feed → Text.trimEnd (line ++ feed) = line := by
    intro line member feed fed
    obtain ⟨-, front, rfl⟩ := formed line member
    rw [List.append_assoc]
    exact Text.trimEnd_append rfl fed.blank
  -- The line feed at the end belongs to the last line only, so the others end at the feed that joins them.
  induction lines with
  | nil => exact absurd rfl nonempty
  | cons line rest ih =>
    have isLine := (formed line (by simp)).1
    cases rest with
    | nil =>
      rw [joinLines, trimmedLines, Module.linesOf_last_feed isLine fed, List.map_singleton,
        trimmed line (by simp) feed fed]
    | cons next rest =>
      have more := ih (fun other member => formed other (by simp [member])) (List.cons_ne_nil _ _)
        (fun other member => trimmed other (by simp [member]))
      have whole : joinLines (line :: next :: rest) ++ feed = line ++ '\n' :: (joinLines (next :: rest) ++ feed) := by
        rw [joinLines, List.append_assoc, List.cons_append]
        exact List.cons_ne_nil _ _
      rw [trimmedLines] at more
      rw [whole, trimmedLines, Module.linesOf_append isLine.2, List.map_cons, more,
        trimmed line (by simp) ['\n'] (.inr rfl)]

/-! ## Checking what was rendered -/

theorem declaration_mem_trimmedLines {registry : Registry} (readable : ∀ entry ∈ registry.entries, Module.Readable entry)
    {feed : List Char} (fed : Feed feed) {entry : String × Schema} (member : entry ∈ registry.entries) :
    declaration entry.1 entry.2 ∈ trimmedLines (registry.render ++ feed) := by
  let above := Registry.importLine ++ registry.header.toList
  let lines := registry.entries.map fun entry => declaration entry.1 entry.2
  have declared : declaration entry.1 entry.2 ∈ lines := List.mem_map.2 ⟨entry, member, rfl⟩
  have below : trimmedLines (joinLines lines ++ feed) = lines :=
    trimmedLines_joinLines (Module.declarations_line readable) (List.ne_nil_of_mem declared) fed
  have parted : registry.render ++ feed = (above ++ ['\n']) ++ '\n' :: (joinLines lines ++ feed) := by
    rw [Module.render_eq]
    simp [above, lines]
  rw [trimmedLines] at below
  rw [parted, trimmedLines, Module.linesOf_append_feed, List.map_append, below]
  exact List.mem_append_right _ declared

end Command

/-- The registry as its module is read back. -/
def Registry.demote (registry : Registry) : Registry :=
  { registry with schemas := registry.schemas.mapValues fun _ => Schema.demote }

theorem declaration_demote (name : String) (schema : Schema) :
    declaration name schema.demote = declaration name schema := by
  rw [Module.declaration_eq, Module.declaration_eq, Schema.print_demote]

theorem Registry.render_demote (registry : Registry) : registry.demote.render = registry.render := by
  have lines : registry.demote.entries.map (fun entry => declaration entry.1 entry.2) =
      registry.entries.map fun entry => declaration entry.1 entry.2 := by
    simp [demote, entries, Record.mapValues, Entries.mapValues, declaration_demote]
  rw [Module.render_eq, Module.render_eq, lines]
  rfl

namespace Command

/-- A schema that was loaded, under a name and with parts that an export may have. -/
structure Passable (entry : String × Schema) : Prop where
  oneLine : '\n' ∉ entry.1.toList
  unsigned : '=' ∉ entry.1.toList
  loaded : entry.2.Loaded
  regular : entry.2.Regular
  apart : entry.2.Definitions Value.Apart

theorem Passable.readable {entry : String × Schema} (passable : Passable entry) :
    Module.Readable (entry.1, entry.2.demote) where
  oneLine := passable.oneLine
  unsigned := passable.unsigned
  formed := passable.loaded.wellFormed.demote
  lossless := (passable.loaded.reprintable passable.regular passable.apart).lossless_demote

theorem checkModule_render {registry : Registry} (nonempty : registry.entries ≠ [])
    (passable : ∀ entry ∈ registry.entries, Passable entry) {feed : List Char} (fed : Feed feed)
    (path : List Char) : (checkModule path (registry.render ++ feed)).failure = none ∧
      (checkModule path (registry.render ++ feed)).drifted = 0 := by
  -- The demoted registry has the same text and is what comes back, so no declaration drifts.
  have readable : ∀ entry ∈ registry.demote.entries, Module.Readable entry := by
    intro entry member
    obtain ⟨original, present, rfl⟩ := List.mem_map.1 member
    exact (passable original present).readable
  have someDemoted : registry.demote.entries ≠ [] :=
    fun none => nonempty (List.map_eq_nil_iff.1 none)
  have read := Module.read_render_feed registry.demote someDemoted readable fed
  have kept : drifting (registry.demote.render ++ feed) registry.demote.entries = [] := by
    rw [drifting, List.filter_eq_nil_iff]
    intro entry member
    simpa using declaration_mem_trimmedLines readable fed member
  rw [← registry.render_demote]
  simp [checkModule, read, kept]

/-! ## Registries that were built -/

theorem loaded_of_loadDocuments (tree : Files.Tree) (paths : List (List Char)) :
    ∀ document ∈ (loadDocuments tree paths).documents, ∀ entry ∈ document.schemas.entries, entry.2.Loaded := by
  induction paths with
  | nil => exact List.forall_mem_nil _
  | cons path rest ih =>
    rw [loadDocuments]
    split
    · exact List.forall_mem_nil _
    · split
      · exact List.forall_mem_nil _
      · rename_i parsed
        exact List.forall_mem_cons.2 ⟨Document.loaded_of_parse parsed, ih⟩

theorem loaded_of_buildRegistry {settings : ExportSettings} {tree : Files.Tree} {registry : Registry}
    (built : (buildRegistry settings tree).2 = .ok registry) : ∀ entry ∈ registry.entries, entry.2.Loaded := by
  unfold buildRegistry at built
  split at built
  · exact nomatch built
  · rename_i paths _
    dsimp only at built
    split at built
    · exact nomatch built
    · split at built
      · exact nomatch built
      · cases built
        intro entry member
        -- The registry starts empty, so that an entry comes from one of the documents.
        rw [merge, Registry.entries, Registry.schemas_registerAll] at member
        have mentioned := (Record.mem_of_mem_extend member).resolve_left List.not_mem_nil
        obtain ⟨document, present, inside⟩ := List.mem_flatMap.1 mentioned
        exact loaded_of_loadDocuments tree paths document present entry inside

/-- Modules that hold what an export renders, with or without the line feed of a printed module, pass. -/
theorem checkModules_export {settings : ExportSettings} {tree : Files.Tree} {registry : Registry}
    (built : (buildRegistry settings tree).2 = .ok registry) (nonempty : registry.entries ≠ [])
    (named : ∀ name ∈ registry.names, '\n' ∉ name.toList ∧ '=' ∉ name.toList)
    (regular : ∀ entry ∈ registry.entries, entry.2.Regular)
    (apart : ∀ entry ∈ registry.entries, entry.2.Definitions Value.Apart) {files : Files.Tree} {paths : List (List Char)}
    (written : ∀ path ∈ paths, ∃ feed, Feed feed ∧ readSource files path = .ok (registry.render ++ feed)) :
    (checkModules files paths).failure = none ∧ (checkModules files paths).drifted = 0 := by
  have passable : ∀ entry ∈ registry.entries, Passable entry := by
    intro entry member
    obtain ⟨oneLine, unsigned⟩ := named entry.1 (List.mem_map_of_mem member)
    exact ⟨oneLine, unsigned, loaded_of_buildRegistry built entry member, regular entry member, apart entry member⟩
  induction paths with
  | nil => exact ⟨rfl, rfl⟩
  | cons path rest ih =>
    obtain ⟨feed, fed, read⟩ := written path (by simp)
    obtain ⟨passes, none⟩ := checkModule_render nonempty passable fed path
    obtain ⟨others, noOthers⟩ := ih fun other member => written other (by simp [member])
    rw [checkModules, read]
    simp [passes, none, others, noOthers]

/-- A literal in a list under `regex` and a text like one elsewhere: both come back as strings. -/
theorem checkModules_export_listed :
    let source := "\x7b\"schemas\":\x7b\"A\":\x7b\"kind\":\"leaf\",\"typeName\":\"ZodAny\",".toList ++
      "\"def\":\x7b\"regex\":[\"/a/\"],\"b\":\"/c/\"\x7d\x7d\x7d\x7d".toList
    let settings : ExportSettings := ⟨["a.json"], some "// head", none, none, false⟩
    let tree := (Files.Tree.bare []).put ["a.json".toList] (.file (.text source))
    let registry : Registry :=
      ⟨.ofEntries [("A", .leaf (.make "ZodAny" (.ofEntries [("regex", .list [.regex ⟨"a", "", rfl, rfl⟩]), ("b", .text "/c/")])))],
        "// head"⟩
    let files := (Files.Tree.bare []).put ["a.ts".toList] (.file (.text (registry.render ++ ['\n'])))
    (buildRegistry settings tree).2 = .ok registry ∧ registry.entries ≠ [] ∧
      (∀ name ∈ registry.names, '\n' ∉ name.toList ∧ '=' ∉ name.toList) ∧
      (∀ entry ∈ registry.entries, entry.2.Regular) ∧
      (∀ entry ∈ registry.entries, entry.2.Definitions Value.Apart) ∧
      readSource files "a.ts".toList = .ok (registry.render ++ ['\n']) ∧
      (checkModules files ["a.ts".toList]).failure = none ∧ (checkModules files ["a.ts".toList]).drifted = 0 := by
  intro source settings tree registry files
  have nonempty : registry.entries ≠ [] := List.cons_ne_nil _ _
  have named : ∀ name ∈ registry.names, '\n' ∉ name.toList ∧ '=' ∉ name.toList := forall_mem_of_all (by decide)
  have regular : ∀ entry ∈ registry.entries, entry.2.Regular := by
    intro entry member
    cases List.mem_singleton.1 member
    exact ⟨⟨by decide, forall_mem_of_all (by decide)⟩, nofun, ⟨nofun, nofun, trivial⟩, nofun, nofun, trivial⟩
  have apart : ∀ entry ∈ registry.entries, entry.2.Definitions Value.Apart := by
    intro entry member
    cases List.mem_singleton.1 member
    refine ⟨nofun, ⟨?_, nofun, trivial⟩, ?_, ?_, trivial⟩
    all_goals
      rintro key ⟨⟩
      decide
  have draft : Document.readDraft source = .ok ⟨none, .ofEntries [("A", .leaf "ZodAny"
      (.ofEntries [("regex", .list [.text "/a/"]), ("b", .text "/c/")]))]⟩ := by
    unfold source
    cbv
  have parsed : Document.parse source = .ok ⟨none, registry.schemas⟩ := by
    rw [Document.parse, draft]
    rfl
  have inputs : resolveInputs tree ["a.json"] = .ok ["a.json".toList] := rfl
  have found : ∀ content, readSource ((Files.Tree.bare []).put ["a.json".toList] (.file (.text content)))
      "a.json".toList = .ok content := fun _ => rfl
  have built : (buildRegistry settings tree).2 = .ok registry := by
    unfold buildRegistry
    simp only [settings, inputs, tree, loadDocuments, found, parsed]
    rfl
  have written : ∀ content, readSource ((Files.Tree.bare []).put ["a.ts".toList] (.file (.text content)))
      "a.ts".toList = .ok content := fun _ => rfl
  have read : readSource files "a.ts".toList = .ok (registry.render ++ ['\n']) := written _
  exact ⟨built, nonempty, named, regular, apart, read, checkModules_export built nonempty named regular apart
    (List.forall_mem_singleton.2 ⟨['\n'], .inr rfl, read⟩)⟩

end Command
end SchemaExport
