import SchemaExport.Proofs.Expression.Reading

/-! Texts that are one literal from their first character to their last.

The form that a repair looks for says less: a slash in the middle may close the literal early, a class or
an escape at the end may keep it open, and a flag may stand twice.
-/

set_option autoImplicit false

namespace SchemaExport

namespace Text

theorem endsRun_dropWhile_append {kind : Char → Bool} {rest : List Char} (ends : EndsRun kind rest)
    (text : List Char) : EndsRun kind (text.dropWhile kind ++ rest) := by
  have front := endsRun_dropWhile kind text
  cases dropped : text.dropWhile kind with
  | nil => exact ends
  | cons c tail =>
    rw [dropped] at front
    exact front

theorem takeWhile_append_rest {kind : Char → Bool} {rest : List Char} (ends : EndsRun kind rest) (text : List Char) :
    (text ++ rest).takeWhile kind = text.takeWhile kind := by
  have uniform : ∀ c ∈ text.takeWhile kind, kind c = true := List.all_eq_true.1 List.all_takeWhile
  have parted := takeWhile_append_of_endsRun uniform (endsRun_dropWhile_append ends text)
  rwa [← List.append_assoc, List.takeWhile_append_dropWhile] at parted

theorem dropWhile_append_rest {kind : Char → Bool} {rest : List Char} (ends : EndsRun kind rest) (text : List Char) :
    (text ++ rest).dropWhile kind = text.dropWhile kind ++ rest := by
  have uniform : ∀ c ∈ text.takeWhile kind, kind c = true := List.all_eq_true.1 List.all_takeWhile
  have parted := dropWhile_append_of_endsRun uniform (endsRun_dropWhile_append ends text)
  rwa [← List.append_assoc, List.takeWhile_append_dropWhile] at parted

theorem skipBlank_append_of_cons {text tail : List Char} {c : Char} (skipped : skipBlank text = c :: tail)
    (rest : List Char) : skipBlank (text ++ rest) = c :: (tail ++ rest) := by
  obtain ⟨blanks, blank, whole⟩ := exists_blank_append_skipBlank text
  have visible : EndsRun isBlank (skipBlank text) := endsRun_dropWhile isBlank text
  rw [skipped] at whole visible
  rw [whole, List.append_assoc]
  exact skipBlank_append blank visible

end Text

namespace Expression

/-! ## Contained texts -/

def Contained (text : List Char) : Prop := ∃ literal, LiteralText text literal

theorem LiteralText.exists_cons {text : List Char} {literal : Regex.Literal} (derived : LiteralText text literal) :
    ∃ tail, text = '/' :: tail := by
  obtain ⟨-, -, -⟩ := derived
  exact ⟨_, rfl⟩

/-- In front of what ends its flags, the reader takes just the text. -/
theorem literalText_iff_readRegex {text rest : List Char} (starts : text.head? = some '/')
    (ends : Text.EndsRun Char.isLower rest) {literal : Regex.Literal} :
    LiteralText text literal ↔ readRegex (text ++ rest) = .ok (literal, rest) := by
  constructor
  · intro derived
    exact readRegex_word derived ends
  · intro read
    obtain ⟨tail, rfl⟩ := List.head?_eq_some_iff.1 starts
    have read : readRegex ('/' :: (tail ++ rest)) = .ok (literal, rest) := read
    obtain ⟨word, derived, whole⟩ := readRegex_sound read
    have same : '/' :: tail = word := List.append_cancel_right whole
    exact same ▸ derived

theorem contained_iff_readRegex {text : List Char} (starts : text.head? = some '/') :
    Contained text ↔ ∃ literal, readRegex text = .ok (literal, []) := by
  have ends : Text.EndsRun Char.isLower [] := nofun
  refine exists_congr fun literal => ?_
  rw [literalText_iff_readRegex starts ends, List.append_nil]

theorem contained_iff {text : List Char} :
    Contained text ↔ text.head? = some '/' ∧ ∃ literal, readRegex text = .ok (literal, []) := by
  constructor
  · intro contained
    obtain ⟨literal, derived⟩ := contained
    obtain ⟨tail, rfl⟩ := derived.exists_cons
    exact ⟨rfl, (contained_iff_readRegex rfl).1 ⟨literal, derived⟩⟩
  · rintro ⟨starts, read⟩
    exact (contained_iff_readRegex starts).2 read

instance (text : List Char) : Decidable (Contained text) :=
  decidable_of_iff (text.head? = some '/' ∧ ((readRegex text).toOption.map Prod.snd) = some []) <| by
    rw [contained_iff]
    cases readRegex text with
    | error fault => simp [Except.toOption]
    | ok found => simp [Except.toOption, Prod.ext_iff]

/-- A text around its last slash is contained just when no slash before that closes the literal, nothing is open
there and the flags are sound. -/
theorem contained_delimited_iff {source flags : List Char} (last : '/' ∉ flags) :
    Contained ('/' :: (source ++ '/' :: flags)) ↔
      Regex.Unbroken .start source ∧ ∃ literal, Regex.Literal.make source flags = .ok literal := by
  constructor
  · rintro ⟨literal, derived⟩
    generalize whole : '/' :: (source ++ '/' :: flags) = text at derived
    obtain ⟨unbroken, lower, made⟩ := derived
    rename_i body letters
    -- No flag is a slash, so the slash that closes the literal is the last one of the text.
    have lastLetter : '/' ∉ letters := fun slash => absurd (lower '/' slash) (by decide)
    have split : Regex.splitLastSlash (source ++ '/' :: flags) = some (source, flags) :=
      Regex.splitLastSlash_eq_some_iff.2 ⟨rfl, last⟩
    have again : Regex.splitLastSlash (body ++ '/' :: letters) = some (body, letters) :=
      Regex.splitLastSlash_eq_some_iff.2 ⟨rfl, lastLetter⟩
    rw [(List.cons.inj whole).2, again] at split
    obtain ⟨rfl, rfl⟩ := Prod.mk.inj (Option.some.inj split)
    exact ⟨unbroken, literal, made⟩
  · rintro ⟨unbroken, literal, made⟩
    obtain ⟨-, rfl⟩ := Regex.Literal.make_eq_ok_iff.1 made
    exact ⟨literal, .delimited unbroken literal.isLower_of_mem_flags made⟩

/-! ## Texts that break an expression -/

/-- Where a literal closes, what follows bears on neither it nor its refusal. -/
theorem readRegex_append (tail : List Char) {rest : List Char} (ends : Text.EndsRun Char.isLower rest) :
    (∀ {literal behind}, readRegex ('/' :: tail) = .ok (literal, behind) →
      readRegex ('/' :: (tail ++ rest)) = .ok (literal, behind ++ rest)) ∧
    ∀ {refusal}, readRegex ('/' :: tail) = .error (.regex refusal) →
      readRegex ('/' :: (tail ++ rest)) = .error (.regex refusal) := by
  unfold readRegex
  cases found : splitLiteral? .start tail with
  | none => simp [found, fail]
  | some split =>
    obtain ⟨body, behind⟩ := split
    obtain ⟨rfl, unbroken, atRest⟩ := splitLiteral?_eq_some_iff.1 found
    -- The slash that closes the literal is the first one at rest in the longer text too.
    have longer : splitLiteral? .start (body ++ '/' :: behind ++ rest) = some (body, behind ++ rest) :=
      splitLiteral?_eq_some_iff.2 ⟨by simp, unbroken, atRest⟩
    simp only [List.drop_one, List.tail_cons, found, longer, Text.takeWhile_append_rest ends,
      Text.dropWhile_append_rest ends]
    cases Regex.Literal.make body (behind.takeWhile Char.isLower) with
    | error _ => simp
    | ok _ => simp

/-- What comes of a literal that is refused, or that ends early in front of what continues or closes no record. -/
inductive Breaks (text : List Char) : Fault → Prop where
  | refused {refusal : Regex.Refusal} : readRegex text = .error (.regex refusal) → Breaks text (.regex refusal)
  | early {literal : Regex.Literal} {behind tail rest : List Char} {c : Char} : readRegex text = .ok (literal, behind) →
      Text.skipBlank behind = c :: tail → c ≠ ',' → c ≠ '}' →
      Breaks text (.unreadable (.expected "\x7d") (c :: (tail ++ rest)))

/-! ## Readers that fail -/

/-- A computation fails with a fault of a kind. -/
def Fails {α : Type} (Kind : Fault → Prop) (result : Except Fault α) : Prop :=
  ∃ fault, result = .error fault ∧ Kind fault

section
variable {α β : Type} {Kind : Fault → Prop}

theorem Fails.bind {first : Except Fault α} (fails : Fails Kind first) (next : α → Except Fault β) :
    Fails Kind (first >>= next) := by
  obtain ⟨fault, rfl, kind⟩ := fails
  exact ⟨fault, rfl, kind⟩

theorem Fails.behind {first : Except Fault α} {value : α} (done : first = .ok value) {next : α → Except Fault β}
    (fails : Fails Kind (next value)) : Fails Kind (first >>= next) := by
  rw [done]
  exact fails

/-- A value is not read up to its end: that fails or, under a key, leaves what continues or closes no record. -/
def Stuck (Kind : Fault → Prop) (key? : Option String) (result : Except Fault (α × List Char)) : Prop :=
  Fails Kind result ∨ key? ≠ none ∧ ∃ item rest, result = .ok (item, rest) ∧ eat? [','] rest = none ∧
    Fails Kind (expect "\x7d" rest)

variable {key? : Option String}

theorem Stuck.fails {result : Except Fault (α × List Char)} (stuck : Stuck Kind none result) : Fails Kind result :=
  stuck.resolve_right fun keyed => keyed.1 rfl

theorem Stuck.bind {first : Except Fault (α × List Char)} (stuck : Stuck Kind key? first) (change : α → β) :
    Stuck Kind key? (first >>= fun (item, rest) => pure (change item, rest)) := by
  obtain fails | ⟨keyed, item, rest, rfl, apart, unclosed⟩ := stuck
  · exact .inl (fails.bind _)
  · exact .inr ⟨keyed, change item, rest, rfl, apart, unclosed⟩

theorem Stuck.behind {first : Except Fault α} {value : α} (done : first = .ok value)
    {next : α → Except Fault (β × List Char)} (stuck : Stuck Kind key? (next value)) :
    Stuck Kind key? (first >>= next) := by
  rw [done]
  exact stuck

theorem stuck_readRegex {tail rest : List Char} {fault : Fault} (breaks : Breaks ('/' :: tail) fault)
    (ends : Text.EndsRun Char.isLower rest) (keyed : key? ≠ none) :
    Stuck (Breaks ('/' :: tail)) key? (readRegex ('/' :: (tail ++ rest))) := by
  obtain ⟨onward, refused⟩ := readRegex_append tail ends
  cases breaks with
  | refused read => exact .inl ⟨_, refused read, .refused read⟩
  | @early literal behind inner _ c read skipped notComma notBrace =>
    -- The literal itself is read. What it leaves is met by the record around it.
    have after := Text.skipBlank_append_of_cons skipped rest
    have apart : eat? [','] (behind ++ rest) = none := by rw [eat?, after, Text.dropStart?, if_neg notComma]
    have unclosed : eat? "\x7d".toList (behind ++ rest) = none := by
      rw [eat?, after]
      exact if_neg notBrace
    have missing : expect "\x7d" (behind ++ rest) = .error (.unreadable (.expected "\x7d") (c :: (inner ++ rest))) := by
      rw [expect, unclosed, after]
      rfl
    exact .inr ⟨keyed, literal, behind ++ rest, onward read, apart, _, missing, .early read skipped notComma notBrace⟩

variable {item : Reader α} {closing : String} {budget : Nat} {text : List Char}

theorem fails_readSeparated_of_stuck (stuck : Stuck Kind key? (item text)) :
    Fails Kind (readSeparated item "\x7d" (budget + 1) text) := by
  obtain fails | ⟨-, first, rest, done, apart, unclosed⟩ := stuck
  · exact fails.bind _
  · refine .behind done ?_
    simp only [apart]
    exact unclosed.bind _

theorem fails_readSeparated (fails : Fails Kind (item text)) :
    Fails Kind (readSeparated item closing (budget + 1) text) := fails.bind _

theorem fails_readSeparated_more {first : α} {rest : List Char}
    (done : item (text ++ ',' :: rest) = .ok (first, ',' :: rest))
    (fails : Fails Kind (readSeparated item closing budget rest)) :
    Fails Kind (readSeparated item closing (budget + 1) (text ++ ',' :: rest)) := by
  have eaten : eat? [','] (',' :: rest) = some rest := eat?_token (by decide) (.alone [',']) rest
  refine .behind done ?_
  simp only [eaten]
  exact fails.bind _

theorem fails_readEnclosed {opening : String} {first : Char} {front : List Char} (opens : opening.toList = [first])
    (solid : Solid [first] = true) (token : Token [first] front) (unclosed : eat? closing.toList text = none)
    (fails : Fails Kind (readSeparated item closing budget text)) :
    Fails Kind (readEnclosed item opening closing budget (front ++ text)) := by
  refine .behind (expect_token opens solid token text) ?_
  simp only [unclosed]
  exact fails

theorem stuck_readEntry {value : Reader Value} {word key : List Char} (quoted : Quoted word key)
    (stuck : Stuck Kind key? (value text)) : Stuck Kind key? (readEntry value (word ++ ':' :: text)) := by
  obtain ⟨tail, same⟩ := quoted.exists_cons
  have skipped : Text.skipBlank (word ++ ':' :: text) = word ++ ':' :: text := by
    rw [same]
    rfl
  have head : (word ++ ':' :: text).head? = some '"' := by simp [same]
  have colon : expect ":" (':' :: text) = .ok text := expect_token (by rfl) rfl (.alone [':']) text
  rw [readEntry]
  simp only [skipped, head, ne_eq, not_true_eq_false, if_false]
  exact .behind (readQuoted_word quoted _) (.behind colon (stuck.bind _))

theorem fails_readRecord {value : Reader Value} {length : Nat}
    (fails : Fails Kind (readSeparated (readEntry value) "\x7d" length text))
    (unclosed : eat? "\x7d".toList text = none) : Fails Kind (readRecord value length ('{' :: text)) :=
  (fails_readEnclosed (by rfl) (by decide) (.alone ['{']) unclosed fails).bind _

theorem fails_readValue_record {length depth : Nat}
    (fails : Fails Kind (readRecord (readValue length depth) length ('{' :: text))) :
    Fails Kind (readValue length (depth + 1) ('{' :: text)) := fails.bind _

theorem fails_readValue_list {length depth : Nat}
    (fails : Fails Kind (readSeparated (readValue length depth) "]" length text)) (unclosed : eat? "]".toList text = none) :
    Fails Kind (readValue length (depth + 1) ('[' :: text)) :=
  (fails_readEnclosed (by rfl) (by decide) (.alone ['[']) unclosed fails).bind _

theorem fails_readField {schema : Reader Schema} {word name : List Char} (named : FieldWord word name)
    (fails : Fails Kind (schema text)) : Fails Kind (readField schema (word ++ ':' :: text)) := by
  have colon : expect ":" (':' :: text) = .ok text := expect_token (by rfl) rfl (.alone [':']) text
  have ends : EndsToken (':' :: text) := Token.endsToken (.alone [':']) (by decide) text
  exact .behind (readFieldName_complete named (.alone word) ends) (.behind colon (fails.bind _))

theorem fails_readLeaf {name : List Char} {length : Nat} (identifier : Identifier name)
    (fails : Fails Kind (readRecord (readValue length length) length text)) :
    Fails Kind (readLeaf length (" z.".toList ++ (name ++ '(' :: text))) := by
  have member : expect "z." (" z.".toList ++ (name ++ '(' :: text)) = .ok (name ++ '(' :: text) :=
    expect_token (by rfl) rfl ⟨[' '], by simp [Text.Blank, Text.isBlank], rfl⟩ _
  have ends : EndsToken ('(' :: text) := Token.endsToken (.alone ['(']) (by decide) text
  have call : expect "(" ('(' :: text) = .ok text := expect_token (by rfl) rfl (.alone ['(']) text
  have word := readIdentifier_token identifier (.alone name) ends.identifier
  exact .behind member (.behind word (.behind call (fails.bind _)))

variable {length depth : Nat}

theorem readSchema_skipBlank (text : List Char) :
    readSchema length depth (Text.skipBlank text) = readSchema length depth text := by
  cases depth <;> simp only [readSchema, expect, eat?, Text.skipBlank_skipBlank]

theorem readSchema_space (text : List Char) : readSchema length depth (' ' :: text) = readSchema length depth text := by
  rw [← readSchema_skipBlank, ← readSchema_skipBlank text]
  rfl

theorem fails_readSchema_leaf (fails : Fails Kind (readLeaf length text)) :
    Fails Kind (readSchema length (depth + 1) ("new".toList ++ text)) := by
  have eaten : eat? "new".toList ("new".toList ++ text) = some text := eat?_token (by rfl) (.alone _) text
  rw [readSchema, eaten]
  exact fails.bind _

theorem fails_readSchema_object
    (fails : Fails Kind (readSeparated (readField (readSchema length depth)) "\x7d" length text))
    (unclosed : eat? "\x7d".toList text = none) :
    Fails Kind (readSchema length (depth + 1) ("z.".toList ++ ("object".toList ++ '(' :: '{' :: text))) := by
  have identifier : Identifier "object".toList := ⟨by decide, forall_mem_of_all (by decide)⟩
  have ends : EndsToken ('(' :: '{' :: text) := Token.endsToken (.alone ['(']) (by decide) _
  have notNew : eat? "new".toList ("z.".toList ++ ("object".toList ++ '(' :: '{' :: text)) = none := rfl
  have member : expect "z." ("z.".toList ++ ("object".toList ++ '(' :: '{' :: text)) = .ok _ :=
    expect_token (by rfl) rfl (.alone _) _
  have call : expect "(" ('(' :: '{' :: text) = .ok ('{' :: text) := expect_token (by rfl) rfl (.alone ['(']) _
  rw [readSchema, notNew]
  refine .behind member (.behind (readIdentifier_token identifier (.alone _) ends.identifier) ?_)
  exact .behind call ((fails_readEnclosed (by rfl) (by decide) (.alone ['{']) unclosed fails).bind _)

theorem fails_readSchema_wrapped {name : List Char} {wrap : Schema → Schema} (wrapper : Wrapper name wrap)
    (fails : Fails Kind (readSchema length depth text)) :
    Fails Kind (readSchema length (depth + 1) ("z.".toList ++ (name ++ '(' :: text))) := by
  have ends : EndsToken ('(' :: text) := Token.endsToken (.alone ['(']) (by decide) _
  have notNew : eat? "new".toList ("z.".toList ++ (name ++ '(' :: text)) = none := rfl
  have member : expect "z." ("z.".toList ++ (name ++ '(' :: text)) = .ok _ := expect_token (by rfl) rfl (.alone _) _
  have call : expect "(" ('(' :: text) = .ok text := expect_token (by rfl) rfl (.alone ['(']) _
  have inner : Fails Kind (readWrapped (readSchema length depth) ('(' :: text)) := .behind call (fails.bind _)
  rw [readSchema, notNew]
  refine .behind member (.behind (readIdentifier_token wrapper.identifier (.alone _) ends.identifier) ?_)
  cases wrapper <;> exact inner.bind _

end

end Expression
end SchemaExport
