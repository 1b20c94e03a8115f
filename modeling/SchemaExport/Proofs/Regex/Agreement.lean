import SchemaExport.Proofs.Expression.Scanning

/-! The readers of regular expression literals agree.

The reader of expressions looks for the slash that closes a literal from the front, the reader of
strings for the last slash from the back. No flag is a slash, so both find the same one wherever the
first takes the whole text; only an empty source, which would open a comment, is left to the first.
-/

set_option autoImplicit false

namespace SchemaExport.Expression

open Regex

theorem readRegex_text (literal : Regex.Literal) {rest : List Char} (ends : Text.EndsRun Char.isLower rest) :
    readRegex (literal.text ++ rest) = .ok (literal, rest) :=
  readRegex_word (literalText_text literal) ends

def asReading : Except Refusal Regex.Literal → Except Fault (Regex.Literal × List Char)
  | .ok literal => .ok (literal, [])
  | .error refusal => .error (.regex refusal)

theorem readRegex_delimited {tail body flags : List Char}
    (delimited : splitLiteral? .start tail = some (body, flags)) (lower : ∀ c ∈ flags, c.isLower = true) :
    readRegex ('/' :: tail) = asReading (Literal.make body flags) := by
  have ends : Text.EndsRun Char.isLower [] := nofun
  have taken : flags.takeWhile Char.isLower = flags := by
    simpa using Text.takeWhile_append_of_endsRun lower ends
  have left : flags.dropWhile Char.isLower = [] := by
    simpa using Text.dropWhile_append_of_endsRun lower ends
  have behind : ('/' :: tail).drop 1 = tail := rfl
  rw [readRegex, behind, delimited]
  simp only [taken, left]
  cases Literal.make body flags <;> rfl

/-- The text of a literal is read back by every reader, and where a scan takes a text for one literal
both readers make the same of it. -/
theorem readers_agree :
    (∀ source flags literal, Literal.make source flags = .ok literal →
      Literal.make literal.source.toList literal.flags.toList = .ok literal ∧
        Literal.ofText? literal.text = some (.ok literal) ∧
        ∀ rest, Text.EndsRun Char.isLower rest → readRegex (literal.text ++ rest) = .ok (literal, rest)) ∧
    ∀ tail body flags, splitLiteral? .start tail = some (body, flags) → (∀ c ∈ flags, c.isLower = true) →
      tail.head? ≠ some '/' →
      ∃ result, Literal.ofText? ('/' :: tail) = some result ∧ readRegex ('/' :: tail) = asReading result := by
  constructor
  · intro source flags literal _
    exact ⟨literal.make_self, literal.ofText?_text, fun rest ends => readRegex_text literal ends⟩
  · intro tail body flags delimited lower apart
    obtain ⟨rfl, -, -⟩ := splitLiteral?_eq_some_iff.1 delimited
    -- An empty body would leave the slash that closes it first.
    have nonempty : body ≠ [] := by
      rintro rfl
      exact apart rfl
    exact ⟨_, Literal.ofText?_delimited nonempty lower, readRegex_delimited delimited lower⟩

/-- Slashes in and behind a class with a line break, and a literal that both readers refuse. -/
theorem readers_agree_hostile :
    let literal : Regex.Literal := ⟨"[/\\]]\\/\\n", "gi", rfl, rfl⟩
    let refusal : Refusal := ⟨"[/]", "gg", "duplicate flag \x60g\x60"⟩
    Literal.make "[/\\]]/\n".toList "gi".toList = .ok literal ∧
      Literal.make literal.source.toList literal.flags.toList = .ok literal ∧
      Literal.ofText? literal.text = some (.ok literal) ∧
      Text.EndsRun Char.isLower "\x7dx/g".toList ∧
      readRegex (literal.text ++ "\x7dx/g".toList) = .ok (literal, "\x7dx/g".toList) ∧
      splitLiteral? .start "[/]/gg".toList = some ("[/]".toList, "gg".toList) ∧
      (∀ c ∈ "gg".toList, c.isLower = true) ∧ "[/]/gg".toList.head? ≠ some '/' ∧
      Literal.ofText? "/[/]/gg".toList = some (.error refusal) ∧
      readRegex "/[/]/gg".toList = .error (.regex refusal) := by
  intro literal refusal
  have made : Literal.make "[/\\]]/\n".toList "gi".toList = .ok literal := by decide
  have ends : Text.EndsRun Char.isLower "\x7dx/g".toList := by
    rintro c ⟨⟩
    decide
  have delimited : splitLiteral? .start "[/]/gg".toList = some ("[/]".toList, "gg".toList) := by decide
  have lower : ∀ c ∈ "gg".toList, c.isLower = true := forall_mem_of_all (by decide)
  have apart : "[/]/gg".toList.head? ≠ some '/' := by decide
  obtain ⟨again, inString, inText⟩ := readers_agree.1 _ _ literal made
  obtain ⟨result, refused, read⟩ := readers_agree.2 _ _ _ delimited lower apart
  have same : Literal.ofText? "/[/]/gg".toList = some (.error refusal) := by decide
  obtain rfl : .error refusal = result := Option.some.inj (same.symm.trans refused)
  exact ⟨made, again, inString, ends, inText _ ends, delimited, lower, apart, refused, read⟩

end SchemaExport.Expression
