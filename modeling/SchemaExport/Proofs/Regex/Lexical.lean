import SchemaExport.Proofs.Regex.Items

/-! Literals as tokens of ECMAScript.

A stored source is made of items without line feeds and carriage returns, and a slash is escaped or in
a class. The lexical grammar knows two line terminators more and lets no asterisk come first, because
a comment would begin there; both are stored as they are given.
-/

set_option autoImplicit false

namespace SchemaExport.Regex

/-! ## The lexical grammar -/

def IsLineTerminator (c : Char) : Prop := c ∈ ['\n', '\r', '\u2028', '\u2029']

instance (c : Char) : Decidable (IsLineTerminator c) := inferInstanceAs (Decidable (_ ∈ _))

abbrev BodyItem : List Char → Prop := Item (fun c => ¬ IsLineTerminator c) (· ≠ '/')

/-- One item or more, the first of them no asterisk. -/
inductive Body : List Char → Prop where
  | items {first rest : List Char} : BodyItem first → first ≠ ['*'] → Row BodyItem rest → Body (first ++ rest)

inductive Lexes : List Char → Prop where
  | delimited {body flags : List Char} : Body body → FlagWord flags → Lexes ('/' :: (body ++ '/' :: flags))

theorem body_iff {text : List Char} : Body text ↔ Row BodyItem text ∧ text ≠ [] ∧ text.head? ≠ some '*' := by
  constructor
  · rintro ⟨first, noAsterisk, rest⟩
    refine ⟨.cons first rest, ?_⟩
    cases first with
    | pair _ => simp
    | bracketed _ => simp
    | single _ _ _ _ => simpa using noAsterisk
  · rintro ⟨row, nonempty, apart⟩
    cases row with
    | nil => exact absurd rfl nonempty
    | cons first rest =>
      refine .items first ?_ rest
      rintro rfl
      exact apart rfl

theorem FlagWord.slash_not_mem {flags : List Char} (word : FlagWord flags) : '/' ∉ flags :=
  fun slash => absurd (word.known '/' slash) (by decide)

theorem lexes_delimited_iff {body flags : List Char} (word : FlagWord flags) :
    Lexes ('/' :: (body ++ '/' :: flags)) ↔ Body body := by
  constructor
  · generalize same : '/' :: (body ++ '/' :: flags) = text
    rintro ⟨other, otherWord⟩
    -- No flag is a slash, so any two ways to cut the text cut it at its last one.
    have given : splitLastSlash (body ++ '/' :: flags) = some (body, flags) :=
      splitLastSlash_eq_some_iff.2 ⟨rfl, word.slash_not_mem⟩
    have split := splitLastSlash_eq_some_iff.2 ⟨(List.cons.inj same).2, otherWord.slash_not_mem⟩
    obtain ⟨rfl, -⟩ := Prod.mk.inj (Option.some.inj (given.symm.trans split))
    exact other
  · exact fun formed => .delimited formed word

/-! ## Stored sources -/

theorem Spelled.row {source : List Char} (spelled : Spelled source) {Admitted : Char → Prop}
    (admitted : ∀ c ∈ source, Admitted c) : Row (Item Admitted (· ≠ '/')) source := by
  have passed : Passed Admitted (· ≠ '/') (Cursor.start.after source) source := by
    refine passed_after admitted fun front c back same atRest _ _ => ?_
    -- A slash at rest would break the source off there.
    rintro rfl
    exact absurd (spelled.unbroken front back same) (by simp [atRest])
  rw [(Cursor.atRest_iff _).1 spelled.atRest] at passed
  cases passed with
  | atRest row => exact row

/-- Of the line terminators two are never stored, so that only the others can break a stored source. -/
theorem Spelled.oneLine_iff {source : List Char} (spelled : Spelled source) :
    (∀ c ∈ source, ¬ IsLineTerminator c) ↔ '\u2028' ∉ source ∧ '\u2029' ∉ source := by
  have feed := spelled.newline_not_mem
  have carriage := spelled.carriage_not_mem
  constructor
  · intro oneLine
    exact ⟨fun member => oneLine _ member (by decide), fun member => oneLine _ member (by decide)⟩
  · rintro ⟨separator, paragraph⟩ c member terminator
    simp only [IsLineTerminator, List.mem_cons, List.not_mem_nil, or_false] at terminator
    rcases terminator with rfl | rfl | rfl | rfl
    · exact feed member
    · exact carriage member
    · exact separator member
    · exact paragraph member

theorem Spelled.body_iff {source : List Char} (spelled : Spelled source) :
    Body source ↔ source.head? ≠ some '*' ∧ '\u2028' ∉ source ∧ '\u2029' ∉ source := by
  rw [Regex.body_iff, ← spelled.oneLine_iff]
  constructor
  · rintro ⟨row, -, apart⟩
    have marks : ∀ c ∈ ['\\', '[', ']'], ¬ IsLineTerminator c := forall_mem_of_all (by decide)
    exact ⟨apart, row.forall_mem fun _ item => item.forall_mem marks⟩
  · rintro ⟨apart, oneLine⟩
    exact ⟨spelled.row oneLine, spelled.nonempty, apart⟩

theorem head?_spell_eq_asterisk_iff {source : List Char} :
    (spell .start source).head? = some '*' ↔ source.head? = some '*' := by
  cases source with
  | nil => rfl
  | cons c rest =>
    have first : (spell .start (c :: rest)).head? = (spellChar .start c).head? := by
      obtain ⟨head, tail, spelled⟩ := List.exists_cons_of_ne_nil (spellChar_ne_nil .start c)
      rw [spell, spelled]
      rfl
    rw [first, spellChar]
    -- No character is spelled with an asterisk in front but the asterisk itself.
    split_ifs with feed carriage slash
    · simp [feed]
    · simp [carriage]
    · simp only [Bool.and_eq_true, decide_eq_true_eq] at slash
      simp [slash.1]
    · rfl

theorem body_of_normalize_iff {source stored : List Char} (normalized : normalize source = .ok stored) :
    Body stored ↔ source.head? ≠ some '*' ∧ '\u2028' ∉ source ∧ '\u2029' ∉ source := by
  rw [(spelled_of_normalize normalized).body_iff]
  cases source with
  | nil =>
    cases normalized
    decide
  | cons c rest =>
    have same : stored = spell .start (c :: rest) := by
      rw [(normalize_eq_ok_iff.1 normalized).2, if_neg nofun]
    have separator := mem_spell_iff (d := '\u2028') (by decide) .start (c :: rest)
    have paragraph := mem_spell_iff (d := '\u2029') (by decide) .start (c :: rest)
    rw [same, ne_eq, head?_spell_eq_asterisk_iff, separator, paragraph]
    simp

namespace Literal

theorem lexes_of_make_iff {source flags : List Char} {literal : Literal} (made : make source flags = .ok literal) :
    Lexes literal.text ↔ source.head? ≠ some '*' ∧ '\u2028' ∉ source ∧ '\u2029' ∉ source := by
  obtain ⟨normalized, -⟩ := make_eq_ok_iff.1 made
  rw [text, lexes_delimited_iff (flagDefect?_eq_none_iff.1 literal.sound), body_of_normalize_iff normalized]

/-- What is stored is one token of ECMAScript unless the source begins with an asterisk or holds one of
the line terminators that are not spelled. All else that the grammar asks for holds of every literal. -/
theorem lexes_text_iff {source flags : List Char} {literal : Literal} (made : make source flags = .ok literal) :
    literal.source.toList ≠ [] ∧ Row (Item (fun c => c ≠ '\n' ∧ c ≠ '\r') (· ≠ '/')) literal.source.toList ∧
      FlagWord literal.flags.toList ∧
      (Lexes literal.text ↔ source.head? ≠ some '*' ∧ '\u2028' ∉ source ∧ '\u2029' ∉ source) := by
  have spelled := literal.spelled
  refine ⟨spelled.nonempty, spelled.row fun c member => ?_, flagDefect?_eq_none_iff.1 literal.sound,
    lexes_of_make_iff made⟩
  constructor
  · rintro rfl
    exact spelled.newline_not_mem member
  · rintro rfl
    exact spelled.carriage_not_mem member

/-- Slashes in a class, behind one and escaped, and asterisks and line breaks behind the first character. -/
theorem lexes_text_hostile :
    let source := "/[/\\]*]*\\/\n".toList
    let literal : Literal := ⟨"\\/[/\\]*]*\\/\\n", "gi", rfl, rfl⟩
    make source "gi".toList = .ok literal ∧ literal.source.toList ≠ [] ∧
      Row (Item (fun c => c ≠ '\n' ∧ c ≠ '\r') (· ≠ '/')) literal.source.toList ∧
      FlagWord literal.flags.toList ∧ Lexes literal.text := by
  intro source literal
  have made : make source "gi".toList = .ok literal := rfl
  obtain ⟨nonempty, row, word, lexes⟩ := lexes_text_iff made
  exact ⟨made, nonempty, row, word, lexes.2 (by decide)⟩

/-- A line separator is stored as it is, and so is an asterisk that comes first. -/
theorem lexes_text_broken :
    let separator : Literal := ⟨"\u2028", "", rfl, rfl⟩
    let asterisk : Literal := ⟨"*", "", rfl, rfl⟩
    make ['\u2028'] [] = .ok separator ∧ ¬ Lexes separator.text ∧
      make ['*'] [] = .ok asterisk ∧ ¬ Lexes asterisk.text := by
  intro separator asterisk
  have separatorMade : make ['\u2028'] [] = .ok separator := rfl
  have asteriskMade : make ['*'] [] = .ok asterisk := rfl
  refine ⟨separatorMade, ?_, asteriskMade, ?_⟩
  · rw [lexes_of_make_iff separatorMade]
    decide
  · rw [lexes_of_make_iff asteriskMade]
    decide

end Literal

end SchemaExport.Regex
