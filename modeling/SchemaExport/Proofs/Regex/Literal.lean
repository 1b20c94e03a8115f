import SchemaExport.Expression.Reader
import SchemaExport.Proofs.Text

/-! What holds of every literal.

A literal is made again from its own parts. No slash in a spelled source closes the literal early, and
its text has the form that the printer and the document loader look for.
-/

set_option autoImplicit false

namespace SchemaExport.Regex

namespace Cursor

theorem atRest_iff (cursor : Cursor) : cursor.atRest = true ↔ cursor = .start := by
  obtain ⟨escaped, inClass⟩ := cursor
  cases escaped <;> cases inClass <;> decide

end Cursor

/-! ## Spelled sources -/

theorem mem_spellChar_iff {d : Char} (unmarked : d ∉ ['\\', 'n', 'r', '/']) (cursor : Cursor) (c : Char) :
    d ∈ spellChar cursor c ↔ d = c ∧ d ≠ '\n' ∧ d ≠ '\r' := by
  simp only [List.mem_cons, List.not_mem_nil, or_false, not_or] at unmarked
  unfold spellChar
  split
  · grind
  · split
    · grind
    · split <;> grind

/-- Spelling does away with line breaks and adds nothing but marks. -/
theorem mem_spell_iff {d : Char} (unmarked : d ∉ ['\\', 'n', 'r', '/']) (cursor : Cursor) (source : List Char) :
    d ∈ spell cursor source ↔ d ∈ source ∧ d ≠ '\n' ∧ d ≠ '\r' := by
  induction source generalizing cursor with
  | nil => simp [spell]
  | cons c source ih => rw [spell, List.mem_append, mem_spellChar_iff unmarked, ih, List.mem_cons, or_and_right]

/-- No slash of a text closes a literal that is read up to it. -/
def Unbroken (cursor : Cursor) (body : List Char) : Prop :=
  ∀ front back, body = front ++ '/' :: back → (cursor.after front).atRest = false

theorem unbroken_nil (cursor : Cursor) : Unbroken cursor [] := by
  intro front back impossible
  simp at impossible

theorem unbroken_cons_iff (cursor : Cursor) (c : Char) (body : List Char) :
    Unbroken cursor (c :: body) ↔ (c = '/' → cursor.atRest = false) ∧ Unbroken (cursor.next c) body := by
  constructor
  · intro unbroken
    refine ⟨fun slash => unbroken [] body (by simp [slash]), fun front back same => ?_⟩
    exact unbroken (c :: front) back (by simp [same])
  · rintro ⟨first, tail⟩ front back same
    cases front with
    | nil =>
      obtain ⟨rfl, -⟩ := List.cons.inj same
      exact first rfl
    | cons head front =>
      obtain ⟨rfl, behind⟩ := List.cons.inj same
      exact tail front back behind

theorem unbroken_append_iff (cursor : Cursor) (front back : List Char) :
    Unbroken cursor (front ++ back) ↔ Unbroken cursor front ∧ Unbroken (cursor.after front) back := by
  induction front generalizing cursor with
  | nil => exact ⟨fun whole => ⟨unbroken_nil cursor, whole⟩, fun parts => parts.2⟩
  | cons c front ih =>
    rw [List.cons_append, unbroken_cons_iff, unbroken_cons_iff, ih, and_assoc]
    rfl

theorem unbroken_spellChar (cursor : Cursor) (c : Char) : Unbroken cursor (spellChar cursor c) := by
  obtain ⟨escaped, inClass⟩ := cursor
  have single {cursor : Cursor} {c : Char} (quiet : c = '/' → cursor.atRest = false) : Unbroken cursor [c] :=
    (unbroken_cons_iff ..).2 ⟨quiet, unbroken_nil _⟩
  have pair {cursor : Cursor} {c : Char} (quiet : c = '/' → (cursor.next '\\').atRest = false) :
      Unbroken cursor ['\\', c] :=
    (unbroken_cons_iff ..).2 ⟨nofun, single quiet⟩
  -- A slash at which the cursor rests gets a backslash; any other slash is not where a literal closes.
  unfold spellChar
  split
  · exact pair nofun
  · split
    · exact pair nofun
    · split
      · rename_i closing
        refine pair fun _ => ?_
        rw [Bool.and_eq_true, Cursor.atRest_iff] at closing
        rw [closing.2]
        rfl
      · rename_i quiet
        refine single fun slash => ?_
        simpa [slash] using quiet

theorem unbroken_spell (cursor : Cursor) (source : List Char) : Unbroken cursor (spell cursor source) := by
  induction source generalizing cursor with
  | nil => exact unbroken_nil cursor
  | cons c source ih =>
    rw [spell, unbroken_append_iff, Cursor.after_spellChar]
    exact ⟨unbroken_spellChar cursor c, ih _⟩

theorem Spelled.newline_not_mem {source : List Char} (spelled : Spelled source) : '\n' ∉ source :=
  spelled.fixed ▸ fun member => ((mem_spell_iff (by decide) .start source).1 member).2.1 rfl

theorem Spelled.carriage_not_mem {source : List Char} (spelled : Spelled source) : '\r' ∉ source :=
  spelled.fixed ▸ fun member => ((mem_spell_iff (by decide) .start source).1 member).2.2 rfl

theorem Spelled.unbroken {source : List Char} (spelled : Spelled source) : Unbroken .start source :=
  spelled.fixed ▸ unbroken_spell .start source

/-! ## Flags -/

theorem forall_isFlag_of_flagDefect? {flags : List Char} (sound : flagDefect? flags = none) :
    ∀ c ∈ flags, isFlag c = true := by
  unfold flagDefect? at sound
  split at sound
  · exact nomatch sound
  · rename_i found
    simpa using List.find?_eq_none.1 found

theorem isLower_of_isFlag {c : Char} (flag : isFlag c = true) : c.isLower = true := by
  simp only [isFlag, decide_eq_true_eq] at flag
  have lower : ∀ c ∈ ['d', 'g', 'i', 'm', 's', 'u', 'v', 'y'], c.isLower = true := forall_mem_of_all (by decide)
  exact lower c flag

/-! ## Literals -/

namespace Literal

/-- What is made of a source and flags is the source in its normal form and the flags as they are. -/
theorem make_eq_ok_iff {source flags : List Char} {literal : Literal} :
    make source flags = .ok literal ↔
      normalize source = .ok literal.source.toList ∧ flags = literal.flags.toList := by
  constructor
  · intro made
    unfold make at made
    split at made
    · exact nomatch made
    · split at made
      · rename_i stored normalized
        obtain rfl := Except.ok.inj made
        simpa using normalized
      · exact nomatch made
  · rintro ⟨normalized, rfl⟩
    unfold make
    split
    · rename_i defect found
      exact nomatch literal.sound.symm.trans found
    · split
      · rename_i stored found
        obtain rfl := Except.ok.inj (normalized.symm.trans found)
        exact congrArg Except.ok (Literal.ext String.ofList_toList String.ofList_toList)
      · rename_i defect found
        exact nomatch normalized.symm.trans found

theorem exists_make_iff {source flags : List Char} : (∃ literal, make source flags = .ok literal) ↔
    flagDefect? flags = none ∧ (Cursor.start.after source).atRest = true := by
  constructor
  · rintro ⟨literal, made⟩
    obtain ⟨normalized, rfl⟩ := make_eq_ok_iff.1 made
    exact ⟨literal.sound, (normalize_eq_ok_iff.1 normalized).1⟩
  · rintro ⟨sound, atRest⟩
    obtain ⟨stored, normalized⟩ : ∃ stored, normalize source = .ok stored := ⟨_, normalize_eq_ok_iff.2 ⟨atRest, rfl⟩⟩
    let literal : Literal :=
      ⟨String.ofList stored, String.ofList flags, by simp [normalize_normalize normalized], by simp [sound]⟩
    exact ⟨literal, make_eq_ok_iff.2 ⟨by simp [literal, normalized], by simp [literal]⟩⟩

theorem spelled (literal : Literal) : Spelled literal.source.toList := spelled_of_normalize literal.normalized

theorem make_self (literal : Literal) : make literal.source.toList literal.flags.toList = .ok literal :=
  make_eq_ok_iff.2 ⟨literal.normalized, rfl⟩

theorem isFlag_of_mem_flags (literal : Literal) : ∀ c ∈ literal.flags.toList, isFlag c = true :=
  forall_isFlag_of_flagDefect? literal.sound

theorem isLower_of_mem_flags (literal : Literal) : ∀ c ∈ literal.flags.toList, c.isLower = true :=
  fun c member => isLower_of_isFlag (literal.isFlag_of_mem_flags c member)

theorem atRest_of_make {source flags : List Char} {literal : Literal} (made : make source flags = .ok literal) :
    (Cursor.start.after source).atRest = true :=
  (exists_make_iff.1 ⟨literal, made⟩).2

end Literal

/-! ## The text of a literal -/

theorem splitLastSlash_eq_none_iff {text : List Char} : splitLastSlash text = none ↔ '/' ∉ text := by
  induction text with
  | nil => simp [splitLastSlash]
  | cons c text ih =>
    rw [List.mem_cons, not_or, ← ih, splitLastSlash]
    cases splitLastSlash text with
    | some _ => simp
    | none => by_cases slash : c = '/' <;> simp [slash, eq_comm]

theorem splitLastSlash_eq_some_iff {text front back : List Char} :
    splitLastSlash text = some (front, back) ↔ text = front ++ '/' :: back ∧ '/' ∉ back := by
  induction text generalizing front with
  | nil => simp [splitLastSlash]
  | cons c text ih =>
    unfold splitLastSlash
    constructor
    · intro found
      split at found
      · rename_i inner behind deeper
        obtain ⟨rfl, rfl⟩ := Prod.mk.inj (Option.some.inj found)
        obtain ⟨rfl, last⟩ := ih.1 deeper
        exact ⟨rfl, last⟩
      · -- There is no slash further on, so this one is the last.
        rename_i absent
        split at found
        · rename_i slash
          obtain ⟨rfl, rfl⟩ := Prod.mk.inj (Option.some.inj found)
          exact ⟨by rw [slash]; rfl, splitLastSlash_eq_none_iff.1 absent⟩
        · exact nomatch found
    · rintro ⟨same, last⟩
      cases front with
      | nil =>
        obtain ⟨rfl, rfl⟩ := List.cons.inj same
        rw [splitLastSlash_eq_none_iff.2 last]
        rfl
      | cons head front =>
        obtain ⟨rfl, rfl⟩ := List.cons.inj same
        rw [ih.2 ⟨rfl, last⟩]

namespace Literal

/-- A text between slashes with lower case letters behind is read as its source and flags say. -/
theorem ofText?_delimited {source flags : List Char} (nonempty : source ≠ [])
    (lower : ∀ c ∈ flags, c.isLower = true) :
    ofText? ('/' :: (source ++ '/' :: flags)) = some (make source flags) := by
  have last : '/' ∉ flags := fun slash => absurd (lower '/' slash) (by decide)
  have found : splitLastSlash (source ++ '/' :: flags) = some (source, flags) :=
    splitLastSlash_eq_some_iff.2 ⟨rfl, last⟩
  simpa [ofText?, found, nonempty] using lower

theorem ofText?_text (literal : Literal) : ofText? literal.text = some (.ok literal) := by
  rw [text, ofText?_delimited literal.spelled.nonempty literal.isLower_of_mem_flags, literal.make_self]

end Literal

end SchemaExport.Regex

namespace SchemaExport.Expression

open Regex

/-- The form that the printer looks for: slashes around a text without line feeds, and flags. -/
theorem isLiteralText_iff {text : List Char} :
    isLiteralText text = true ↔ ∃ source flags, text = '/' :: (source ++ '/' :: flags) ∧ source ≠ [] ∧
      '\n' ∉ source ∧ ∀ c ∈ flags, isFlag c = true := by
  constructor
  · intro formed
    unfold isLiteralText at formed
    split at formed
    · rename_i body
      split at formed
      · rename_i source flags found
        obtain ⟨rfl, -⟩ := splitLastSlash_eq_some_iff.1 found
        simp only [Bool.and_eq_true, Bool.not_eq_true', List.isEmpty_eq_false_iff, List.contains_eq_mem,
          decide_eq_false_iff_not, List.all_eq_true] at formed
        exact ⟨source, flags, rfl, formed.1.1, formed.1.2, formed.2⟩
      · exact nomatch formed
    · exact nomatch formed
  · rintro ⟨source, flags, rfl, nonempty, oneLine, sound⟩
    -- No flag is a slash, so that the last one is where the flags begin.
    have last : '/' ∉ flags := fun slash => absurd (sound '/' slash) (by decide)
    simpa [isLiteralText, splitLastSlash_eq_some_iff.2 ⟨rfl, last⟩, nonempty, oneLine] using sound

theorem isLiteralText_text (literal : Regex.Literal) : isLiteralText literal.text = true :=
  isLiteralText_iff.2 ⟨_, _, rfl, literal.spelled.nonempty, literal.spelled.newline_not_mem,
    literal.isFlag_of_mem_flags⟩

end SchemaExport.Expression
