import SchemaExport.Proofs.Command.Check
import SchemaExport.Proofs.Module.Body

/-! What a check tells of the declarations of a module, line by line.

A declaration is looked for among all lines of its text, wherever they stand. So a line that is not as it
would be written again passes unnoticed if another line is that, which takes a second line with its name.
-/

set_option autoImplicit false

namespace SchemaExport

theorem countP_eq_of_forall₂ {α β : Type} {Related : α → β → Prop} {first : α → Bool} {second : β → Bool}
    {left : List α} {right : List β} (all : List.Forall₂ Related left right)
    (agree : ∀ a ∈ left, ∀ b, Related a b → first a = second b) : right.countP second = left.countP first := by
  induction all with
  | nil => rfl
  | cons related _ ih =>
    rw [List.countP_cons, List.countP_cons, ih fun a member => agree a (List.mem_cons_of_mem _ member),
      agree _ List.mem_cons_self _ related]

theorem exists_forall₂_iff {α β : Type} {Related : α → β → Prop} {left : List α} :
    (∃ right, List.Forall₂ Related left right) ↔ ∀ a ∈ left, ∃ b, Related a b := by
  induction left with
  | nil => simp
  | cons a left ih =>
    rw [List.forall_mem_cons, ← ih]
    constructor
    · rintro ⟨right, all⟩
      obtain ⟨b, rest, related, others, -⟩ := List.forall₂_cons_left_iff.1 all
      exact ⟨⟨b, related⟩, rest, others⟩
    · rintro ⟨⟨b, related⟩, rest, others⟩
      exact ⟨b :: rest, .cons related others⟩

namespace Text

theorem splitAt?_append_of_some {separator text front behind : List Char} (nonempty : separator ≠ [])
    (found : splitAt? separator text = some (front, behind)) (other : List Char) :
    splitAt? separator (front ++ separator ++ other) = some (front, other) := by
  induction text generalizing front with
  | nil => cases found
  | cons c text ih =>
    rw [splitAt?] at found
    split at found
    · obtain ⟨rfl, -⟩ := Prod.mk.inj (Option.some.inj found)
      obtain ⟨first, rest, rfl⟩ := List.exists_cons_of_ne_nil nonempty
      rw [List.nil_append, List.cons_append, splitAt?, ← List.cons_append, dropStart?_append]
    · rename_i elsewhere
      obtain ⟨⟨inner, rest⟩, there, same⟩ := Option.map_eq_some_iff.1 found
      obtain ⟨rfl, rfl⟩ := Prod.mk.inj same
      have parted : text = inner ++ separator ++ rest := eq_append_of_splitAt? there
      have apart : dropStart? separator (c :: (inner ++ separator ++ other)) = none := by
        cases here : dropStart? separator (c :: (inner ++ separator ++ other)) with
        | none => rfl
        | some after =>
          -- The separator would begin at the first character and end no later than the one that was found.
          have start : separator <+: c :: (inner ++ separator) := by
            have whole : separator <+: (c :: (inner ++ separator)) ++ other := ⟨after, by
              simpa using (eq_append_of_dropStart? here).symm⟩
            exact List.prefix_of_prefix_length_le whole (List.prefix_append _ _) (by simp; omega)
          obtain ⟨tail, same⟩ := start
          have begins : c :: text = separator ++ (tail ++ rest) := by
            rw [parted, ← List.append_assoc, same]
            rfl
          rw [begins, dropStart?_append] at elsewhere
          cases elsewhere
      rw [List.cons_append, List.cons_append, splitAt?, apart, ih there]
      rfl

end Text

namespace Command

open SchemaExport.Module (Denotes declarationLines declarationStart equalsSign)

/-! ## Lines and what would be written for them -/

/-- A declaration's line as it would be written again. -/
def rewritten? (line : List Char) : Option (List Char) :=
  match Module.readLine 0 line with
  | .ok (some (name, schema)) => some (declaration name schema)
  | _ => none

def Drifts (line : List Char) : Prop := rewritten? line ≠ some line

instance (line : List Char) : Decidable (Drifts line) := inferInstanceAs (Decidable (¬ _))

/-- Another line of a text is what would be written for a line. -/
def Masked (source line : List Char) : Prop :=
  ∃ other ∈ trimmedLines source, other ≠ line ∧ rewritten? line = some other

instance (source line : List Char) : Decidable (Masked source line) :=
  inferInstanceAs (Decidable (∃ other ∈ trimmedLines source, other ≠ line ∧ rewritten? line = some other))

/-- The declarations that a check finds drifting: those whose drift no other line hides. -/
def unmasked (source : List Char) : Nat :=
  (declarationLines source).countP fun line => Drifts line ∧ ¬ Masked source line

def unmaskedIn : List (List Char) → Nat
  | [] => 0
  | source :: sources => unmasked source + unmaskedIn sources

def declaredName? (line : List Char) : Option (List Char) :=
  ((Text.dropStart? declarationStart line).bind (Text.splitAt? equalsSign)).map Prod.fst

/-- No name of a module is declared by a second line, above its declarations or among them. -/
def DeclaresOnce (source : List Char) : Prop :=
  ∀ line ∈ declarationLines source, ∀ other ∈ trimmedLines source,
    declaredName? other = declaredName? line → other = line

instance (source : List Char) : Decidable (DeclaresOnce source) :=
  inferInstanceAs (Decidable (∀ line ∈ declarationLines source, ∀ other ∈ trimmedLines source,
    declaredName? other = declaredName? line → other = line))

theorem rewritten?_of_denotes {line : List Char} {entry : String × Schema} (denotes : Denotes line entry) :
    rewritten? line = some (declaration entry.1 entry.2) := by
  rw [rewritten?, denotes]

theorem rewritten?_eq_some_iff {line written : List Char} : rewritten? line = some written ↔
    ∃ entry, Denotes line entry ∧ written = declaration entry.1 entry.2 := by
  constructor
  · intro found
    unfold rewritten? at found
    split at found
    · rename_i name schema read
      exact ⟨(name, schema), read, (Option.some.inj found).symm⟩
    · exact nomatch found
  · rintro ⟨entry, denotes, rfl⟩
    exact rewritten?_of_denotes denotes

theorem declaredName?_declarationStart (rest : List Char) :
    declaredName? (declarationStart ++ rest) = (Text.splitAt? equalsSign rest).map Prod.fst := by
  rw [declaredName?, Text.dropStart?_append]
  rfl

theorem declaredName?_of_rewritten? {line written : List Char} (found : rewritten? line = some written) :
    declaredName? written = declaredName? line := by
  obtain ⟨⟨name, schema⟩, denotes, rfl⟩ := rewritten?_eq_some_iff.1 found
  obtain ⟨rest, expression, rfl, parted⟩ := denotes.exists_parts
  have again := Text.splitAt?_append_of_some (by decide) parted (Expression.print schema ++ [';'])
  have whole : declaration name schema =
      declarationStart ++ (name.toList ++ equalsSign ++ (Expression.print schema ++ [';'])) := by
    simp [Module.declaration_eq]
  rw [whole, declaredName?_declarationStart, declaredName?_declarationStart, again, parted]
  rfl

theorem mem_trimmedLines_of_mem_declarationLines {source line : List Char} (member : line ∈ declarationLines source) :
    line ∈ trimmedLines source := by
  have below : line ∈ trimmedLines (source.drop (Module.bodyStart source)) := List.mem_of_mem_filter member
  -- A body begins with the text, or behind a line feed.
  suffices parted : Module.bodyStart source = 0 ∨
      ∃ front, source = front ++ '\n' :: source.drop (Module.bodyStart source) by
    obtain start | ⟨front, whole⟩ := parted
    · rwa [start] at below
    · rw [whole, trimmedLines, Module.linesOf_append_feed, List.map_append]
      exact List.mem_append_right _ below
  unfold Module.bodyStart
  split
  · rename_i before found
    obtain ⟨front, rest, same, rfl⟩ := Module.eq_append_of_lastBlankLine? found
    obtain ⟨blanks, whole⟩ := Text.exists_append_trimEnd source
    rw [same] at whole
    exact .inr ⟨front ++ ['\n'], by simp [whole]⟩
  · exact .inl rfl

/-! ## The lines that are counted -/

theorem drifting_iff {source line : List Char} (member : line ∈ trimmedLines source) {entry : String × Schema}
    (denotes : Denotes line entry) :
    (Drifts line ∧ ¬ Masked source line) ↔ declaration entry.1 entry.2 ∉ trimmedLines source := by
  have written := rewritten?_of_denotes denotes
  constructor
  · rintro ⟨drifts, bare⟩ present
    -- What would be written is there as the line itself or as another one, which hides it.
    by_cases same : declaration entry.1 entry.2 = line
    · exact drifts (same ▸ written)
    · exact bare ⟨_, present, same, written⟩
  · intro absent
    refine ⟨fun same => absent ?_, fun ⟨other, present, _, same⟩ => absent ?_⟩
    · rw [Option.some.inj (written.symm.trans same)]
      exact member
    · rw [Option.some.inj (written.symm.trans same)]
      exact present

theorem length_drifting {source : List Char} {entries : Entries Schema}
    (all : List.Forall₂ Denotes (declarationLines source) entries) :
    (drifting source entries).length = unmasked source := by
  rw [drifting, ← List.countP_eq_length_filter]
  exact countP_eq_of_forall₂ all fun line member entry denotes =>
    decide_eq_decide.2 (drifting_iff (mem_trimmedLines_of_mem_declarationLines member) denotes)

theorem Masked.drifts {source line : List Char} (masked : Masked source line) : Drifts line := by
  obtain ⟨other, -, apart, written⟩ := masked
  intro same
  exact apart (Option.some.inj (written.symm.trans same))

theorem unmasked_eq_iff {source : List Char} :
    unmasked source = (declarationLines source).countP (fun line => Drifts line) ↔
      ∀ line ∈ declarationLines source, ¬ Masked source line := by
  have parted := List.countP_eq_countP_filter_add (declarationLines source) (fun line => decide (Drifts line))
    (fun line => decide (Masked source line))
  have bare : unmasked source = List.countP (fun line => decide (Drifts line))
      (List.filter (fun line => ! decide (Masked source line)) (declarationLines source)) := by
    simp [unmasked, List.countP_filter]
  -- A masked line drifts, so none of them is counted just when there is none.
  have hidden : List.countP (fun line => decide (Drifts line))
      (List.filter (fun line => decide (Masked source line)) (declarationLines source)) = 0 ↔
        ∀ line ∈ declarationLines source, ¬ Masked source line := by
    simp only [List.countP_filter, List.countP_eq_zero, Bool.and_eq_true, decide_eq_true_eq]
    exact forall₂_congr fun _ _ => not_congr ⟨And.right, fun masked => ⟨masked.drifts, masked⟩⟩
  rw [← hidden, parted, ← bare]
  omega

theorem DeclaresOnce.not_masked {source : List Char} (once : DeclaresOnce source) :
    ∀ line ∈ declarationLines source, ¬ Masked source line := by
  rintro line member ⟨other, present, apart, written⟩
  exact apart (once line member other present (declaredName?_of_rewritten? written))

/-! ## Modules and runs -/

def Readable (tree : Files.Tree) (path source : List Char) : Prop :=
  readSource tree path = .ok source ∧ ∀ line ∈ declarationLines source, ∃ entry, Denotes line entry

theorem exists_entries_iff {source : List Char} :
    (∃ entries, Module.parse source = .ok entries) ↔
      ∀ line ∈ declarationLines source, ∃ entry, Denotes line entry := by
  simp only [Module.parse_eq_ok_iff, exists_forall₂_iff]

theorem checkModule_passes_iff {path source : List Char} {count : Nat} :
    ((checkModule path source).failure = none ∧ (checkModule path source).drifted = count) ↔
      (∀ line ∈ declarationLines source, ∃ entry, Denotes line entry) ∧ unmasked source = count := by
  rw [← exists_entries_iff, checkModule, Module.parse]
  cases fault : (Module.read source).fault with
  | some error => simp
  | none =>
    have parsed : Module.parse source = .ok (Module.read source).declarations := by rw [Module.parse, fault]
    simp [length_drifting (Module.parse_eq_ok_iff.1 parsed)]

theorem checkModules_passes_iff {tree : Files.Tree} {paths : List (List Char)} {count : Nat} :
    ((checkModules tree paths).failure = none ∧ (checkModules tree paths).drifted = count) ↔
      ∃ sources, List.Forall₂ (Readable tree) paths sources ∧ unmaskedIn sources = count := by
  -- The number is that of the first module and what is left for the others, hence any number in the induction.
  induction paths generalizing count with
  | nil => simp [checkModules, unmaskedIn]
  | cons path paths ih =>
    rw [checkModules]
    constructor
    · intro passes
      split at passes
      · cases passes.1
      · rename_i source read
        dsimp only at passes
        split at passes
        · cases passes.1
        · rename_i failure
          obtain ⟨readable, first⟩ := checkModule_passes_iff.1 ⟨failure, rfl⟩
          obtain ⟨sources, all, sum⟩ := ih.1 ⟨passes.1, rfl⟩
          refine ⟨source :: sources, .cons ⟨read, readable⟩ all, ?_⟩
          rw [unmaskedIn, first, sum]
          exact passes.2
    · rintro ⟨sources, all, rfl⟩
      obtain ⟨source, rest, ⟨read, readable⟩, others, rfl⟩ := List.forall₂_cons_left_iff.1 all
      have passes : (checkModule path source).failure = none ∧ (checkModule path source).drifted = unmasked source :=
        checkModule_passes_iff.2 ⟨readable, rfl⟩
      obtain ⟨failure, first⟩ := passes
      obtain ⟨none, sum⟩ := ih.2 ⟨rest, others, rfl⟩
      simp [read, failure, none, first, sum, unmaskedIn]

def reported (count : Nat) : Option Failure := if count = 0 then none else some (.drifted count)

theorem reported_inj {count other : Nat} : reported count = reported other ↔ count = other := by
  unfold reported
  split <;> split <;> simp <;> omega

theorem readSource_ne_drifted {tree : Files.Tree} {path : List Char} {count : Nat} :
    readSource tree path ≠ .error (.drifted count) := by
  unfold readSource
  split <;> exact nofun

theorem resolveInputs_ne_drifted {tree : Files.Tree} {inputs : List String} {count : Nat} :
    resolveInputs tree inputs ≠ .error (.drifted count) := by
  induction inputs with
  | nil => exact nofun
  | cons input inputs ih =>
    intro failed
    rw [resolveInputs] at failed
    split at failed
    · rename_i failure first
      cases failed
      unfold resolveInput at first
      split at first
      · split at first <;> exact nomatch first
      · exact nomatch first
    · split at failed
      · exact nomatch failed
      · rename_i failure others
        cases failed
        exact ih others

theorem checkModules_ne_drifted {tree : Files.Tree} {paths : List (List Char)} {count : Nat} :
    (checkModules tree paths).failure ≠ some (.drifted count) := by
  induction paths with
  | nil => exact nofun
  | cons path paths ih =>
    rw [checkModules]
    split
    · rename_i failure read
      rintro ⟨⟩
      exact readSource_ne_drifted read
    · rename_i source read
      dsimp only
      split
      · rename_i failure first
        rintro ⟨⟩
        cases fault : (Module.read source).fault with
        | none => simp [checkModule, fault] at first
        | some error => simp [checkModule, fault] at first
      · exact ih

theorem runCheck_failure_eq_reported_iff {inputs : List String} {tree : Files.Tree} {count : Nat} :
    (runCheck inputs tree).failure = reported count ↔
      ∃ paths, resolveInputs tree inputs = .ok paths ∧
        (checkModules tree paths).failure = none ∧ (checkModules tree paths).drifted = count := by
  rw [runCheck]
  cases resolved : resolveInputs tree inputs with
  -- Neither resolving the inputs nor reading a module reports a drift, so a report is always the verdict.
  | error failure =>
    have other : failure ≠ .drifted count := fun same => resolveInputs_ne_drifted (same ▸ resolved)
    by_cases zero : count = 0 <;> simp [reported, zero, other]
  | ok paths =>
    cases stopped : (checkModules tree paths).failure with
    | some failure =>
      have other : failure ≠ .drifted count := fun same => checkModules_ne_drifted (same ▸ stopped)
      by_cases zero : count = 0 <;> simp [reported, zero, other, stopped]
    | none =>
      have verdict : (checkModules tree paths).drifted = count ↔
          reported (checkModules tree paths).drifted = reported count := reported_inj.symm
      simp [stopped, verdict, reported]

/-- A check counts the declarations that no line of their text stands in for. It finds all that drift just
when none is hidden, and none is where no name is declared by a second line. -/
theorem runCheck_drift (inputs : List String) (tree : Files.Tree) :
    (∀ count, (runCheck inputs tree).failure = reported count ↔
      ∃ paths sources, resolveInputs tree inputs = .ok paths ∧ List.Forall₂ (Readable tree) paths sources ∧
        unmaskedIn sources = count) ∧
    ∀ source,
      (unmasked source = (declarationLines source).countP (fun line => Drifts line) ↔
        ∀ line ∈ declarationLines source, ¬ Masked source line) ∧
      (DeclaresOnce source → ∀ line ∈ declarationLines source, ¬ Masked source line) := by
  refine ⟨fun count => ?_, fun source => ⟨unmasked_eq_iff, DeclaresOnce.not_masked⟩⟩
  simp only [runCheck_failure_eq_reported_iff, checkModules_passes_iff, exists_and_left]

/-- A space too many in the second of two declarations. -/
theorem runCheck_drift_second :
    let source := "export const A = z.object(\x7b\x7d);\nexport const B =  z.object(\x7b\x7d);\n".toList
    let tree := (Files.Tree.bare []).put ["m.ts".toList] (.file (.text source))
    DeclaresOnce source ∧ (declarationLines source).countP (fun line => Drifts line) = 1 ∧
      (runCheck ["m.ts"] tree).failure = reported 1 := by
  intro source tree
  have once : DeclaresOnce source := by decide
  have one : (declarationLines source).countP (fun line => Drifts line) = 1 := by decide
  obtain ⟨counts, parts⟩ := runCheck_drift ["m.ts"] tree
  have all := (parts source).1.2 ((parts source).2 once)
  have readable : ∀ line ∈ declarationLines source, ∃ entry, Denotes line entry := by
    rw [← exists_entries_iff, Module.parse, show (Module.read source).fault = none by decide]
    exact ⟨_, rfl⟩
  exact ⟨once, one, (counts 1).2
    ⟨["m.ts".toList], [source], rfl, .cons ⟨rfl, readable⟩ .nil, by rw [unmaskedIn, all, one, unmaskedIn]⟩⟩

/-- The line that the second one would be written as stands above it. -/
theorem runCheck_drift_hidden :
    let source := "export const A = z.object(\x7b\x7d);\nexport const A =  z.object(\x7b\x7d);\n".toList
    let tree := (Files.Tree.bare []).put ["m.ts".toList] (.file (.text source))
    (runCheck ["m.ts"] tree).failure = none ∧ ∃ line ∈ declarationLines source, Drifts line := by
  intro source tree
  exact ⟨Option.isNone_iff_eq_none.1 (by decide), by decide⟩

end Command
end SchemaExport
