import SchemaExport.Expression.Printer
import SchemaExport.Proofs.Json.Spelling

/-! Rules that look for the quoted key of a field, on text of quoted strings.

A rule of this kind can only match where a key ends in its field: at the opening quote when the key
is the field, at an escaped quote when the field is the end of a longer key. Inside a value there is
no such place, because the quote behind the field would have to close the value and stand before a
colon.
-/

set_option autoImplicit false

namespace SchemaExport.Expression

open Json (quote escape escapeChar)

/-! ## Replacing from the left -/

section
variable {rule : Rule}

theorem replaceAll_cons_of_none {c : Char} {rest : List Char} (apart : rule (c :: rest) = none) :
    replaceAll rule (c :: rest) = c :: replaceAll rule rest := by
  rw [replaceAll, replaceFrom, apart]
  rfl

theorem replaceFrom_append (front rest : List Char) :
    replaceFrom rule front.length (front ++ rest) = replaceAll rule rest := by
  induction front with
  | nil => rfl
  | cons c front ih => exact ih

theorem replaceAll_of_match {front rest replacement : List Char} (nonempty : front ≠ [])
    (found : rule (front ++ rest) = some (front.length, replacement)) :
    replaceAll rule (front ++ rest) = replacement ++ replaceAll rule rest := by
  obtain ⟨c, front, rfl⟩ := List.exists_cons_of_ne_nil nonempty
  rw [List.cons_append] at found ⊢
  rw [replaceAll, replaceFrom, found]
  exact congrArg (replacement ++ ·) (replaceFrom_append front rest)

end

/-! ## Where a field can stand -/

/-- A key that is a field, or ends in it behind a quote. -/
def FieldKey (field key : List Char) : Prop := key = field ∨ ('"' :: field) <:+ key

instance (field key : List Char) : Decidable (FieldKey field key) := inferInstanceAs (Decidable (_ ∨ _))

def Plain (text : List Char) : Prop := ∀ c ∈ text, c ≠ '"' ∧ c ≠ '\\' ∧ 32 ≤ c.toNat

theorem escape_of_plain {text : List Char} (plain : Plain text) : escape text = text := by
  induction text with
  | nil => rfl
  | cons c text ih =>
    obtain ⟨notQuote, notBackslash, visible⟩ := plain c (by simp)
    have tail := ih fun c member => plain c (by simp [member])
    rw [escape, List.flatMap_cons, Json.escapeChar_of_plain notQuote notBackslash visible]
    exact congrArg (c :: ·) tail

theorem quote_not_mem_escapeChar {c : Char} (notQuote : c ≠ '"') : '"' ∉ escapeChar c := by
  by_cases visible : 32 ≤ c.toNat
  · by_cases backslash : c = '\\'
    · subst backslash; decide
    rw [Json.escapeChar_of_plain notQuote backslash visible, List.mem_singleton]
    exact Ne.symm notQuote
  · have control : ∀ value, value < 32 → '"' ∉ escapeChar (Char.ofNat value) := by decide
    have apart := control c.toNat (by omega)
    rwa [Char.ofNat_toNat] at apart

theorem escapeChar_head (c : Char) : ∃ tail, escapeChar c = '\\' :: tail ∨ (c ≠ '"' ∧ escapeChar c = [c]) := by
  rcases Json.escapeChar_cases c with ⟨same, notQuote, -⟩ | ⟨mark, same, -⟩
  · exact ⟨[], .inr ⟨notQuote, same⟩⟩
  · exact ⟨mark, .inl same⟩

/-- Plain text up to a quote is found in written text only where it was written as a whole. -/
theorem eq_of_escape_append_eq {content field tail behind : List Char} {stop : Char} (plain : Plain field)
    (stops : stop = '"' ∨ stop = '\\') (same : escape content ++ stop :: tail = field ++ '"' :: behind) :
    content = field ∧ stop :: tail = '"' :: behind := by
  -- Along the field: an escape begins with a backslash, which no character of the field is.
  induction field generalizing content with
  | nil =>
    cases content with
    | nil => exact ⟨rfl, same⟩
    | cons c content =>
      rw [escape, List.flatMap_cons] at same
      obtain ⟨mark, written | ⟨notQuote, written⟩⟩ := escapeChar_head c
      · rw [written] at same
        exact absurd (List.cons.inj same).1 (by decide)
      · rw [written] at same
        exact absurd (List.cons.inj same).1 notQuote
  | cons f field ih =>
    obtain ⟨notQuote, notBackslash, -⟩ := plain f (by simp)
    cases content with
    | nil =>
      have first : stop = f := (List.cons.inj same).1
      rcases stops with rfl | rfl
      · exact absurd first.symm notQuote
      · exact absurd first.symm notBackslash
    | cons c content =>
      rw [escape, List.flatMap_cons] at same
      obtain ⟨mark, written | ⟨-, written⟩⟩ := escapeChar_head c
      · rw [written] at same
        exact absurd (List.cons.inj same).1.symm notBackslash
      · rw [written] at same
        obtain ⟨rfl, rest⟩ := List.cons.inj same
        obtain ⟨rfl, stopped⟩ := ih (fun c member => plain c (by simp [member])) rest
        exact ⟨rfl, stopped⟩

/-- A rule that matches nothing but a quoted field before a quoted value. -/
structure FieldRule where
  rule : Rule
  field : List Char
  plain : Plain field
  /-- The field does not begin as what may follow a string: a colon, a comma or a bracket. -/
  begins : ∃ c rest, field = c :: rest ∧ c.isAlpha = true
  at_field : ∀ {text found}, rule text = some found →
    ∃ behind, text = '"' :: (field ++ '"' :: ':' :: '"' :: behind)

/-- What may follow a value. -/
def Closed (rest : List Char) : Prop := ∃ c tail, rest = c :: tail ∧ c ∈ [',', ']', '}', ')']

theorem Closed.cons {c : Char} (closing : c ∈ [',', ']', '}', ')']) (tail : List Char) : Closed (c :: tail) :=
  ⟨c, tail, rfl, closing⟩

theorem Closed.head_ne {rest : List Char} (closed : Closed rest) {c : Char} (apart : c ∉ [',', ']', '}', ')'])
    (tail : List Char) : rest ≠ c :: tail := by
  obtain ⟨first, behind, rfl, closing⟩ := closed
  intro same
  exact apart ((List.cons.inj same).1 ▸ closing)

namespace FieldRule

variable (field : FieldRule)

theorem rule_cons_of_ne {c : Char} (apart : c ≠ '"') (rest : List Char) : field.rule (c :: rest) = none := by
  cases found : field.rule (c :: rest) with
  | none => rfl
  | some _ =>
    obtain ⟨behind, same⟩ := field.at_field found
    exact absurd (List.cons.inj same).1 apart

theorem replaceAll_unquoted {front : List Char} (unquoted : '"' ∉ front) (rest : List Char) :
    replaceAll field.rule (front ++ rest) = front ++ replaceAll field.rule rest := by
  induction front with
  | nil => rfl
  | cons c front ih =>
    rw [List.mem_cons, not_or] at unquoted
    rw [List.cons_append, replaceAll_cons_of_none (field.rule_cons_of_ne (Ne.symm unquoted.1) _), ih unquoted.2]
    rfl

/-- At a quote, written text is matched only where the whole of it is the field. -/
theorem rule_quote_eq_none {content tail : List Char} {stop : Char} (stops : stop = '"' ∨ stop = '\\')
    (apart : content = field.field → ∀ behind, stop :: tail ≠ '"' :: ':' :: '"' :: behind) :
    field.rule ('"' :: (escape content ++ stop :: tail)) = none := by
  cases found : field.rule ('"' :: (escape content ++ stop :: tail)) with
  | none => rfl
  | some _ =>
    obtain ⟨behind, same⟩ := field.at_field found
    obtain ⟨rfl, stopped⟩ := eq_of_escape_append_eq field.plain stops (List.cons.inj same).2
    exact absurd stopped (apart rfl behind)

theorem replaceAll_escape {content tail : List Char} {stop : Char} (stops : stop = '"' ∨ stop = '\\')
    (apart : ('"' :: field.field) <:+ content → ∀ behind, stop :: tail ≠ '"' :: ':' :: '"' :: behind) :
    replaceAll field.rule (escape content ++ stop :: tail) =
      escape content ++ replaceAll field.rule (stop :: tail) := by
  induction content with
  | nil => rfl
  | cons c content ih =>
    have tailApart := ih fun suffix => apart (suffix.trans (List.suffix_cons c content))
    have split : escape (c :: content) = escapeChar c ++ escape content := List.flatMap_cons ..
    rw [split, List.append_assoc]
    by_cases quoted : c = '"'
    · -- The only quotes in written text are those behind a backslash.
      subst quoted
      have quiet : field.rule ('"' :: (escape content ++ stop :: tail)) = none :=
        field.rule_quote_eq_none stops fun same => apart (same ▸ List.suffix_refl _)
      have written : escapeChar '"' = ['\\', '"'] := rfl
      rw [written, List.cons_append, replaceAll_cons_of_none (field.rule_cons_of_ne (by decide) _),
        List.cons_append, List.nil_append, replaceAll_cons_of_none quiet, tailApart]
      rfl
    · rw [field.replaceAll_unquoted (quote_not_mem_escapeChar quoted), tailApart, List.append_assoc]

theorem replaceAll_opened {content tail : List Char} {stop : Char} (stops : stop = '"' ∨ stop = '\\')
    (apart : FieldKey field.field content → ∀ behind, stop :: tail ≠ '"' :: ':' :: '"' :: behind) :
    replaceAll field.rule ('"' :: (escape content ++ stop :: tail)) =
      '"' :: (escape content ++ replaceAll field.rule (stop :: tail)) := by
  rw [replaceAll_cons_of_none (field.rule_quote_eq_none stops fun same => apart (.inl same)),
    field.replaceAll_escape stops fun suffix => apart (.inr suffix)]

theorem replaceAll_closing {c : Char} (punctuation : c.isAlpha = false) (rest : List Char) :
    replaceAll field.rule ('"' :: c :: rest) = '"' :: replaceAll field.rule (c :: rest) := by
  apply replaceAll_cons_of_none
  cases found : field.rule ('"' :: c :: rest) with
  | none => rfl
  | some _ =>
    obtain ⟨behind, same⟩ := field.at_field found
    obtain ⟨first, tail, begins, letter⟩ := field.begins
    rw [begins] at same
    have clash : c = first := (List.cons.inj (List.cons.inj same).2).1
    rw [clash, letter] at punctuation
    exact nomatch punctuation

/-- A quoted string is passed over, unless it is a key of the field before a quoted value. -/
theorem replaceAll_quote {content : List Char} {c : Char} {rest : List Char} (punctuation : c.isAlpha = false)
    (apart : FieldKey field.field content → ∀ behind, c :: rest ≠ ':' :: '"' :: behind) :
    replaceAll field.rule (quote content ++ c :: rest) = quote content ++ replaceAll field.rule (c :: rest) := by
  have opened : quote content ++ c :: rest = '"' :: (escape content ++ '"' :: c :: rest) := by simp [quote]
  rw [opened, field.replaceAll_opened (.inl rfl)
    fun key behind same => apart key behind (List.cons.inj same).2, field.replaceAll_closing punctuation]
  simp [quote]

theorem replaceAll_value {content rest : List Char} (closed : Closed rest) :
    replaceAll field.rule (quote content ++ rest) = quote content ++ replaceAll field.rule rest := by
  obtain ⟨c, tail, rfl, closing⟩ := closed
  have notLetter : ∀ c ∈ [',', ']', '}', ')'], c.isAlpha = false ∧ c ≠ ':' := forall_mem_of_all (by decide)
  obtain ⟨punctuation, notColon⟩ := notLetter c closing
  exact field.replaceAll_quote punctuation fun _ _ same => notColon (List.cons.inj same).1

theorem replaceAll_kept {content rest : List Char} (closed : Closed rest)
    (quiet : field.rule ('"' :: (field.field ++ '"' :: ':' :: (quote content ++ rest))) = none) :
    replaceAll field.rule ('"' :: (field.field ++ '"' :: ':' :: (quote content ++ rest))) =
      '"' :: (field.field ++ '"' :: ':' :: (quote content ++ replaceAll field.rule rest)) := by
  have unquoted : '"' ∉ field.field := fun member => (field.plain '"' member).1 rfl
  rw [replaceAll_cons_of_none quiet, field.replaceAll_unquoted unquoted, field.replaceAll_closing (by decide),
    replaceAll_cons_of_none (field.rule_cons_of_ne (by decide) _), field.replaceAll_value closed]

end FieldRule

end SchemaExport.Expression
