import SchemaExport.Error
import SchemaExport.Text.Blank
import SchemaExport.Text.Identifier
import SchemaExport.Text.Split

/-! Runs of characters at the start of a text: words, white space and what ends them. -/

set_option autoImplicit false

namespace SchemaExport

/-- A condition on the members of a list that is written out, checked one by one. -/
theorem forall_mem_of_all {α : Type} {Holds : α → Prop} [DecidablePred Holds] {list : List α}
    (checked : list.all (fun member => decide (Holds member)) = true) : ∀ member ∈ list, Holds member := by
  simpa using checked

namespace Text

/-- A text that no character of a kind begins. -/
def EndsRun (kind : Char → Bool) (rest : List Char) : Prop := ∀ c ∈ rest.head?, kind c = false

theorem takeWhile_append_of_endsRun {kind : Char → Bool} {run rest : List Char}
    (uniform : ∀ c ∈ run, kind c = true) (ends : EndsRun kind rest) :
    (run ++ rest).takeWhile kind = run := by
  rw [List.takeWhile_append_of_pos uniform]
  cases rest with
  | nil => simp
  | cons c rest => simp [ends c rfl]

theorem dropWhile_append_of_endsRun {kind : Char → Bool} {run rest : List Char}
    (uniform : ∀ c ∈ run, kind c = true) (ends : EndsRun kind rest) :
    (run ++ rest).dropWhile kind = rest := by
  rw [List.dropWhile_append_of_pos uniform]
  cases rest with
  | nil => simp
  | cons c rest => simp [ends c rfl]

theorem endsRun_dropWhile (kind : Char → Bool) (text : List Char) : EndsRun kind (text.dropWhile kind) := by
  intro c head
  have stopped := List.head?_dropWhile_not kind text
  rw [Option.mem_def.1 head] at stopped
  simpa using stopped

def Blank (text : List Char) : Prop := ∀ c ∈ text, isBlank c = true

theorem skipBlank_append {blanks rest : List Char} (blank : Blank blanks) (ends : EndsRun isBlank rest) :
    skipBlank (blanks ++ rest) = rest := dropWhile_append_of_endsRun blank ends

@[simp] theorem skipBlank_skipBlank (text : List Char) : skipBlank (skipBlank text) = skipBlank text :=
  skipBlank_append (by simp [Blank] : Blank []) (endsRun_dropWhile isBlank text)

theorem exists_blank_append_skipBlank (text : List Char) :
    ∃ blanks, Blank blanks ∧ text = blanks ++ skipBlank text :=
  ⟨text.takeWhile isBlank, fun _ member => by simpa using List.all_eq_true.1 List.all_takeWhile _ member,
    List.takeWhile_append_dropWhile.symm⟩

theorem isBlank_eq_false_of_visible {c : Char} (low : 33 ≤ c.toNat) (high : c.toNat < 128) :
    isBlank c = false := by
  have notSpace : c ≠ ' ' := by
    rintro rfl
    exact absurd low (by decide)
  simp only [isBlank, Bool.or_eq_false_iff, beq_eq_false_iff_ne, Bool.and_eq_false_iff, decide_eq_false_iff_not]
  refine ⟨⟨⟨⟨⟨⟨⟨⟨⟨⟨notSpace, ?_⟩, ?_⟩, ?_⟩, ?_⟩, ?_⟩, ?_⟩, ?_⟩, ?_⟩, ?_⟩, ?_⟩ <;> omega

theorem isBlank_eq_false_of_isAlphanum {c : Char} (alphanumeric : c.isAlphanum = true) : isBlank c = false := by
  delta Char.isAlphanum Char.isAlpha Char.isUpper Char.isLower Char.isDigit at alphanumeric
  simp only [Bool.or_eq_true, Bool.and_eq_true, decide_eq_true_eq, ge_iff_le, UInt32.le_iff_toNat_le] at alphanumeric
  have code : c.toNat = c.val.toNat := rfl
  simp at alphanumeric
  exact isBlank_eq_false_of_visible (by omega) (by omega)

theorem isBlank_eq_false_of_isIdentifierChar {c : Char} (identifier : isIdentifierChar c = true) :
    isBlank c = false := by
  simp only [isIdentifierChar, Bool.or_eq_true, beq_iff_eq] at identifier
  rcases identifier with (alphanumeric | rfl) | rfl
  · exact isBlank_eq_false_of_isAlphanum alphanumeric
  · rfl
  · rfl

end Text
end SchemaExport
