import Mathlib.Data.List.Forall2
import Mathlib.Data.List.Permutation
import SchemaExport.Program
import SchemaExport.Proofs.Files.Tree

/-! An export writes everything or nothing.

All inputs are read, and the module is rendered, before the first directory is made, and the module is
written last. So whatever fails leaves every file as it was, and what is written is made of the inputs
as they were, the destination among them or not.
-/

set_option autoImplicit false

namespace SchemaExport.Command

/-! ## The registry of the inputs -/

def LoadedFrom (tree : Files.Tree) (path : List Char) (document : Document) : Prop :=
  ∃ source, tree.read path = .ok source ∧ Document.parse source = .ok document

/-- The registry of all inputs as a tree holds them. -/
def Gathered (settings : ExportSettings) (tree : Files.Tree) (registry : Registry) : Prop :=
  ∃ paths documents header, resolveInputs tree settings.inputs = .ok paths ∧
    List.Forall₂ (LoadedFrom tree) paths documents ∧ chooseHeader settings tree documents = .ok header ∧
    registry = merge header documents

theorem readSource_eq_ok_iff {tree : Files.Tree} {path source : List Char} :
    readSource tree path = .ok source ↔ tree.read path = .ok source := by
  unfold readSource
  split <;> simp [*]

theorem loadDocuments_iff {tree : Files.Tree} {paths : List (List Char)} {documents : List Document} :
    (loadDocuments tree paths).failure = none ∧ (loadDocuments tree paths).documents = documents ↔
      List.Forall₂ (LoadedFrom tree) paths documents := by
  induction paths generalizing documents with
  | nil => simp [loadDocuments, eq_comm]
  | cons path rest ih =>
    rw [List.forall₂_cons_left_iff]
    constructor
    · rintro ⟨complete, rfl⟩
      unfold loadDocuments at complete
      split at complete
      · exact nomatch complete
      · rename_i source read
        split at complete
        · exact nomatch complete
        · rename_i document parsed
          have same : (loadDocuments tree (path :: rest)).documents = document :: (loadDocuments tree rest).documents := by
            simp [loadDocuments, read, parsed]
          exact ⟨document, _, ⟨source, readSource_eq_ok_iff.1 read, parsed⟩, ih.1 ⟨complete, rfl⟩, same⟩
    · rintro ⟨document, others, ⟨source, read, parsed⟩, loaded, rfl⟩
      obtain ⟨complete, same⟩ := ih.2 loaded
      simp [loadDocuments, readSource_eq_ok_iff.2 read, parsed, complete, same]

theorem buildRegistry_eq_ok_iff {settings : ExportSettings} {tree : Files.Tree} {registry : Registry} :
    (buildRegistry settings tree).2 = .ok registry ↔ Gathered settings tree registry := by
  constructor
  · intro built
    unfold buildRegistry at built
    split at built
    · exact nomatch built
    · rename_i paths resolved
      dsimp only at built
      split at built
      · exact nomatch built
      · rename_i complete
        split at built
        · exact nomatch built
        · rename_i header chosen
          exact ⟨paths, _, header, resolved, loadDocuments_iff.1 ⟨complete, rfl⟩, chosen, (Except.ok.inj built).symm⟩
  · rintro ⟨paths, documents, header, resolved, loaded, chosen, rfl⟩
    obtain ⟨complete, same⟩ := loadDocuments_iff.2 loaded
    simp [buildRegistry, resolved, complete, same, chosen]

/-! ## How an export ends -/

theorem grown_prepareDirectory (tree : Files.Tree) (path : List Char) :
    Files.Tree.Grown path tree (prepareDirectory tree path).1 := by
  unfold prepareDirectory
  split
  · exact .refl path tree
  · rename_i directory isParent
    split
    · exact .refl path tree
    · rename_i named
      exact (Files.Tree.grown_makeDirectories _ tree directory).of_parent? isParent named

inductive Ends (settings : ExportSettings) (tree : Files.Tree) : Outcome → Prop where
  | ungathered {failure : Failure} {messages : List Message} : (∀ registry, ¬ Gathered settings tree registry) →
      Ends settings tree ⟨some failure, [], messages, tree⟩
  | printed {registry : Registry} {messages : List Message} : Gathered settings tree registry →
      settings.out = none → Ends settings tree ⟨none, registry.render ++ ['\n'], messages, tree⟩
  | unprepared {registry : Registry} {path : String} {prepared : Files.Tree} {failure : Failure}
      {messages : List Message} : Gathered settings tree registry → settings.out = some path →
      prepareDirectory tree path.toList = (prepared, some failure) →
      Ends settings tree ⟨some failure, [], messages, prepared⟩
  | unwritten {registry : Registry} {path : String} {prepared : Files.Tree} {fault : FileFault}
      {failure : Failure} {messages : List Message} : Gathered settings tree registry → settings.out = some path →
      prepareDirectory tree path.toList = (prepared, none) →
      prepared.write path.toList registry.render = .error fault →
      Ends settings tree ⟨some failure, [], messages, prepared⟩
  | written {registry : Registry} {path : String} {prepared after : Files.Tree} {messages : List Message} :
      Gathered settings tree registry → settings.out = some path →
      prepareDirectory tree path.toList = (prepared, none) →
      prepared.write path.toList registry.render = .ok after →
      Ends settings tree ⟨none, [], messages, after⟩

theorem ends_runExport (settings : ExportSettings) (tree : Files.Tree) :
    Ends settings tree (runExport settings tree) := by
  unfold runExport
  split
  · rename_i told failure built
    apply Ends.ungathered
    intro registry gathered
    have same := buildRegistry_eq_ok_iff.2 gathered
    rw [built] at same
    exact nomatch same
  · rename_i told registry built
    have gathered : Gathered settings tree registry := buildRegistry_eq_ok_iff.1 (by rw [built])
    split
    · rename_i path destination
      unfold writeModule
      split
      · rename_i prepared failure failed
        exact .unprepared gathered destination failed
      · rename_i prepared ready
        dsimp only [Registry.exportTo]
        -- Everything on the way is there by now, and only the write itself is left to fail.
        cases writing : prepared.write path.toList registry.render with
        | error fault => exact .unwritten gathered destination ready writing
        | ok after => exact .written gathered destination ready writing
    · rename_i noDestination
      exact .printed gathered noDestination

/-! ## What an export changes -/

/-- Nothing has changed at a place, or there is a new directory on the way to a destination. -/
def Steady (before after : Files.Tree) (destination : Option String) (place : Files.Place) : Prop :=
  after.entry? place = before.entry? place ∨
    before.entry? place = none ∧ after.entry? place = some .directory ∧
      ∃ path ∈ destination, after.OnWay path.toList place

theorem steady_of_prepareDirectory {before after : Files.Tree} {destination : Option String} {path : String}
    {failure : Option Failure} (chosen : destination = some path)
    (prepared : prepareDirectory before path.toList = (after, failure)) (place : Files.Place) :
    Steady before after destination place := by
  have grown := grown_prepareDirectory before path.toList
  rw [prepared] at grown
  cases old : before.entry? place with
  | some entry => exact .inl (by rw [old, grown.kept place entry old])
  | none =>
    cases new : after.entry? place with
    | none => exact .inl (by rw [old, new])
    | some entry =>
      obtain ⟨rfl, onWay⟩ := grown.added place entry old new
      exact .inr ⟨old, new, path, chosen, onWay⟩

theorem Steady.write {before prepared after : Files.Tree} {destination : Option String} {place : Files.Place}
    (steady : Steady before prepared destination place) (keeps : prepared.Keeps after)
    (same : after.entry? place = prepared.entry? place) : Steady before after destination place := by
  rcases steady with unchanged | ⟨absent, isDirectory, path, chosen, onWay⟩
  · exact .inl (same.trans unchanged)
  · exact .inr ⟨absent, same.trans isDirectory, path, chosen, keeps.onWay onWay⟩

theorem Steady.content?_eq {before after : Files.Tree} {destination : Option String} {place : Files.Place}
    (steady : Steady before after destination place) : after.content? place = before.content? place := by
  unfold Files.Tree.content?
  rcases steady with unchanged | ⟨absent, isDirectory, -⟩
  · rw [unchanged]
  · rw [absent, isDirectory]

theorem Gathered.unique {settings : ExportSettings} {tree : Files.Tree} {registry other : Registry}
    (gathered : Gathered settings tree registry) (again : Gathered settings tree other) : registry = other := by
  have built := buildRegistry_eq_ok_iff.2 gathered
  rw [buildRegistry_eq_ok_iff.2 again] at built
  exact (Except.ok.inj built).symm

namespace Ends

variable {settings : ExportSettings} {tree : Files.Tree} {outcome : Outcome}

theorem steady_of_failure (ends : Ends settings tree outcome) (failed : outcome.failure ≠ none) :
    outcome.output = [] ∧ ∀ place, Steady tree outcome.tree settings.out place := by
  cases ends with
  | ungathered none => exact ⟨rfl, fun _ => .inl rfl⟩
  | printed gathered noDestination => exact absurd rfl failed
  | unprepared gathered chosen failing => exact ⟨rfl, steady_of_prepareDirectory chosen failing⟩
  | unwritten gathered chosen ready refused => exact ⟨rfl, steady_of_prepareDirectory chosen ready⟩
  | written gathered chosen ready written => exact absurd rfl failed

theorem exists_destination (ends : Ends settings tree outcome) (done : outcome.failure = none) {path : String}
    (asked : settings.out = some path) : ∃ registry destination, Gathered settings tree registry ∧
      outcome.tree.locate path.toList = .ok destination ∧
      outcome.tree.content? destination = some (.text registry.render) ∧
      ∀ place, place ≠ destination → Steady tree outcome.tree settings.out place := by
  cases ends with
  | ungathered none => exact nomatch done
  | printed gathered noDestination => exact nomatch asked.symm.trans noDestination
  | unprepared gathered chosen failing => exact nomatch done
  | unwritten gathered chosen ready refused => exact nomatch done
  | @written registry other prepared after messages gathered chosen ready written =>
    -- The run has written, and the path that it wrote is the one that was asked for.
    obtain rfl : path = other := Option.some.inj (asked.symm.trans chosen)
    obtain ⟨destination, added⟩ := Files.Tree.added_of_write written
    refine ⟨registry, destination, gathered, added.locate, ?_, fun place apart => ?_⟩
    · rw [Files.Tree.content?, added.here]
    · exact (steady_of_prepareDirectory chosen ready place).write added.keeps (added.others place apart)

theorem tree_eq (ends : Ends settings tree outcome) (noDestination : settings.out = none) : outcome.tree = tree := by
  cases ends with
  | ungathered none => rfl
  | printed gathered _ => rfl
  | unprepared gathered chosen failing => exact nomatch noDestination.symm.trans chosen
  | unwritten gathered chosen ready refused => exact nomatch noDestination.symm.trans chosen
  | written gathered chosen ready written => exact nomatch noDestination.symm.trans chosen

theorem failure_eq_none_iff (ends : Ends settings tree outcome) : outcome.failure = none ↔
    ∃ registry, Gathered settings tree registry ∧ ∀ path ∈ settings.out, ∃ prepared after,
      prepareDirectory tree path.toList = (prepared, none) ∧
        prepared.write path.toList registry.render = .ok after := by
  constructor
  · intro done
    cases ends with
    | ungathered none => exact nomatch done
    | @printed registry messages gathered noDestination =>
      exact ⟨registry, gathered, fun path asked => nomatch noDestination.symm.trans asked⟩
    | unprepared gathered chosen failing => exact nomatch done
    | unwritten gathered chosen ready refused => exact nomatch done
    | @written registry path prepared after messages gathered chosen ready written =>
      refine ⟨registry, gathered, fun other asked => ?_⟩
      obtain rfl : path = other := Option.some.inj (chosen.symm.trans asked)
      exact ⟨prepared, after, ready, written⟩
  · rintro ⟨registry, gathered, steps⟩
    cases ends with
    | ungathered none => exact absurd gathered (none registry)
    | printed _ _ => rfl
    | @unprepared _ path _ _ _ _ chosen failing =>
      obtain ⟨prepared, after, ready, -⟩ := steps path chosen
      exact nomatch failing.symm.trans ready
    | @unwritten _ path _ _ _ _ same chosen ready refused =>
      obtain ⟨prepared, after, again, written⟩ := steps path chosen
      obtain ⟨rfl, -⟩ := Prod.mk.inj (ready.symm.trans again)
      rw [same.unique gathered, written] at refused
      exact nomatch refused
    | written _ _ _ _ => rfl

end Ends

/-- Where a module cannot be written, whatever it is, an export fails. -/
theorem failure_of_refused {settings : ExportSettings} {tree prepared : Files.Tree} {path : String} {fault : FileFault}
    (asked : settings.out = some path) (active : settings.noOp = false)
    (ready : prepareDirectory tree path.toList = (prepared, none))
    (refused : ∀ content, prepared.write path.toList content = .error fault) (quiet verbose : Bool) :
    (Invocation.run ⟨.export settings, quiet, verbose⟩ tree).failure ≠ none := by
  intro done
  have ran : Invocation.run ⟨.export settings, quiet, verbose⟩ tree = runExport settings tree := by
    simp [Invocation.run, active]
  rw [ran, (ends_runExport settings tree).failure_eq_none_iff] at done
  obtain ⟨registry, -, steps⟩ := done
  obtain ⟨again, after, same, written⟩ := steps path asked
  obtain ⟨rfl, -⟩ := Prod.mk.inj (ready.symm.trans same)
  rw [refused] at written
  cases written

theorem prepareDirectory_of_parent? {tree prepared : Files.Tree} {path directory : List Char}
    (isParent : Files.parent? path = some directory) (named : directory ≠ [])
    (made : tree.makeDirectories (directory.length + 1) directory = (prepared, none)) :
    prepareDirectory tree path = (prepared, none) := by
  simp only [prepareDirectory, isParent, if_neg named, made, Option.map_none]

/-- An export that fails leaves every file as it was, and one that does not changes its destination alone. -/
theorem run_export (settings : ExportSettings) (quiet verbose : Bool) (tree : Files.Tree) :
    let outcome := Invocation.run ⟨.export settings, quiet, verbose⟩ tree
    (outcome.failure ≠ none → outcome.output = [] ∧
      ∀ place, outcome.tree.content? place = tree.content? place ∧ Steady tree outcome.tree settings.out place) ∧
    (outcome.failure = none → settings.noOp = false → ∀ path ∈ settings.out, ∃ registry destination,
      Gathered settings tree registry ∧ outcome.tree.locate path.toList = .ok destination ∧
        outcome.tree.content? destination = some (.text registry.render) ∧
        ∀ place, place ≠ destination →
          outcome.tree.content? place = tree.content? place ∧ Steady tree outcome.tree settings.out place) ∧
    (settings.out = none ∨ settings.noOp = true → outcome.tree = tree) ∧
    (outcome.failure = none ↔ settings.noOp = true ∨ ∃ registry, Gathered settings tree registry ∧
      ∀ path ∈ settings.out, ∃ prepared after, prepareDirectory tree path.toList = (prepared, none) ∧
        prepared.write path.toList registry.render = .ok after) := by
  intro outcome
  cases idle : settings.noOp with
  | true =>
    have same : outcome.failure = none ∧ outcome.tree = tree := by simp [outcome, Invocation.run, idle]
    simp [same]
  | false =>
    have ends : Ends settings tree outcome := by
      have ran : outcome = runExport settings tree := by simp [outcome, Invocation.run, idle]
      rw [ran]
      exact ends_runExport settings tree
    refine ⟨fun failed => ?_, fun done _ path asked => ?_, ?_, ?_⟩
    · obtain ⟨silent, steady⟩ := ends.steady_of_failure failed
      exact ⟨silent, fun place => ⟨(steady place).content?_eq, steady place⟩⟩
    · obtain ⟨registry, destination, gathered, located, content, steady⟩ := ends.exists_destination done asked
      refine ⟨registry, destination, gathered, located, content, fun place apart => ?_⟩
      exact ⟨(steady place apart).content?_eq, steady place apart⟩
    · rintro (noDestination | impossible)
      · exact ends.tree_eq noDestination
      · exact nomatch impossible
    · simpa using ends.failure_eq_none_iff

/-- A document in a directory below one to which nothing may be added, and a link to it from there. -/
def guarded (source : List Char) : Files.Tree where
  entries := .ofEntries [(["home".toList], .directory), (["home".toList, "work".toList], .directory),
    (["home".toList, "work".toList, "a.json".toList], .file (.text source)),
    (["home".toList, "all.ts".toList], .link "work/a.json".toList)]
  current := ["home".toList, "work".toList]
  refuses access place := if access = .add && place = ["home".toList] then some .denied else none

theorem write_guarded (source content : List Char) : (guarded source).write "/home/work/../all.ts".toList content =
    .ok ((guarded source).put ["home".toList, "work".toList, "a.json".toList] (.file (.text content))) := by
  have checked : Files.Tree.checkPath "/home/work/../all.ts".toList = .ok () := by decide
  -- Down to `work` and up again, and over the link back into `work`.
  have way : (guarded source).Reaches true Files.Tree.linkLimit [] (Files.segments "/home/work/../all.ts".toList)
      (.child ["home".toList, "work".toList] "a.json".toList false) :=
    .on rfl (.on rfl (.on rfl (.on rfl (.jump rfl (.on rfl (.stop rfl))))))
  have reached : (guarded source).reachPath true "/home/work/../all.ts".toList =
      .ok (.child ["home".toList, "work".toList] "a.json".toList false) := by
    rw [Files.Tree.reachPath, checked]
    exact Files.Tree.reach_eq_ok_iff.2 way
  exact Files.Tree.write_over reached (by decide) rfl rfl

/-- An absolute path over a parent and a link leads to the document itself, whose place the module takes.
Where the destination is a directory, the directories on the way are made and no file is; and where the
parent of the current directory may not be added to, nothing is. -/
theorem run_export_over_input :
    let source := "\x7b\"schemas\":\x7b\"A\":\x7b\"kind\":\"leaf\",\"typeName\":\"ZodAny\"\x7d\x7d\x7d".toList
    let document : Files.Place := ["home".toList, "work".toList, "a.json".toList]
    let registry : Registry := ⟨.ofEntries [("A", .leaf (.make "ZodAny" .empty))], ""⟩
    let run (path : String) :=
      Invocation.run ⟨.export ⟨["a.json"], none, none, some path, false⟩, false, false⟩ (guarded source)
    let replacing := run "/home/work/../all.ts"
    let failing := run "new/sub/.."
    let refused := run "../b.ts"
    (replacing.failure = none ∧ ∃ destination, replacing.tree.locate "/home/work/../all.ts".toList = .ok destination ∧
      replacing.tree.content? destination = some (.text registry.render)) ∧
    (failing.failure ≠ none ∧ failing.output = [] ∧ failing.tree.content? document = some (.text source)) ∧
    (refused.failure ≠ none ∧ refused.output = [] ∧ refused.tree.content? document = some (.text source)) := by
  intro source document registry run replacing failing refused
  have parsed : Document.parse source = .ok ⟨none, registry.schemas⟩ := by
    unfold source registry
    cbv
  have gathered (path : String) : Gathered ⟨["a.json"], none, none, some path, false⟩ (guarded source) registry :=
    ⟨["a.json".toList], [⟨none, registry.schemas⟩], none, rfl, .cons ⟨source, rfl, parsed⟩ .nil, rfl, rfl⟩
  have keeps {path : String} (failed : (run path).failure ≠ none) :
      (run path).failure ≠ none ∧ (run path).output = [] ∧ (run path).tree.content? document = some (.text source) := by
    obtain ⟨unchanged, -⟩ := run_export ⟨["a.json"], none, none, some path, false⟩ false false (guarded source)
    obtain ⟨silent, kept⟩ := unchanged failed
    exact ⟨failed, silent, (kept document).1⟩
  refine ⟨?_, ?_, ?_⟩
  · have parent : Files.parent? "/home/work/../all.ts".toList = some "/home/work/..".toList := by decide
    have there : (guarded source).makeDirectories ("/home/work/..".toList.length + 1) "/home/work/..".toList =
        (guarded source, none) := rfl
    obtain ⟨-, changed, -, ended⟩ :=
      run_export ⟨["a.json"], none, none, some "/home/work/../all.ts", false⟩ false false (guarded source)
    have done : (run "/home/work/../all.ts").failure = none := by
      refine ended.2 (.inr ⟨registry, gathered "/home/work/../all.ts", fun other asked => ?_⟩)
      obtain rfl := Option.some.inj asked
      exact ⟨guarded source, _, prepareDirectory_of_parent? parent (by decide) there, write_guarded source _⟩
    obtain ⟨other, destination, again, located, content, -⟩ := changed done rfl "/home/work/../all.ts" rfl
    obtain rfl : registry = other := (gathered "/home/work/../all.ts").unique again
    exact ⟨done, destination, located, content⟩
  · have parent : Files.parent? "new/sub/..".toList = some "new/sub".toList := by decide
    -- Both directories are made, and then the path leads to the first of them.
    let made := ((guarded source).put ["home".toList, "work".toList, "new".toList] .directory).put
      ["home".toList, "work".toList, "new".toList, "sub".toList] .directory
    have both : (guarded source).makeDirectories ("new/sub".toList.length + 1) "new/sub".toList = (made, none) := rfl
    have refused (content : List Char) : made.write "new/sub/..".toList content = .error .isDirectory := rfl
    have ready := prepareDirectory_of_parent? parent (by decide) both
    exact keeps (failure_of_refused rfl rfl ready refused false false)
  · have parent : Files.parent? "../b.ts".toList = some "..".toList := by decide
    have there : (guarded source).makeDirectories ("..".toList.length + 1) "..".toList = (guarded source, none) := rfl
    have refused (content : List Char) : (guarded source).write "../b.ts".toList content = .error .denied := rfl
    have ready := prepareDirectory_of_parent? parent (by decide) there
    exact keeps (failure_of_refused rfl rfl ready refused false false)

end SchemaExport.Command
