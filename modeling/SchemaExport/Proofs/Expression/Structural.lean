import SchemaExport.Proofs.Expression.Replacement
import SchemaExport.Proofs.Json.Numeral

/-! The repaired text of a leaf, printed from the structure of its definition.

Both repairs look at text alone. Yet what they do to dumped text depends only on a key and the value
directly under it: a type name or a literal under its key loses its quotes, and nothing else changes.
-/

set_option autoImplicit false

namespace SchemaExport.Expression

open Json (quote escape)

/-! ## A dump with other text for some values -/

mutual

/-- Compact JSON, where some other text may stand for the value directly under a key. -/
def dumpWith (instead? : String → Value → Option (List Char)) : Value → List Char
  | .list items => '[' :: (dumpItemsWith instead? items ++ [']'])
  | .record entries => '{' :: (dumpEntriesWith instead? entries ++ ['}'])
  | value => dump value

def dumpItemsWith (instead? : String → Value → Option (List Char)) : List Value → List Char
  | [] => []
  | [item] => dumpWith instead? item
  | item :: rest => dumpWith instead? item ++ ',' :: dumpItemsWith instead? rest

def dumpEntriesWith (instead? : String → Value → Option (List Char)) : Entries Value → List Char
  | [] => []
  | [(key, value)] => quote key.toList ++ ':' :: (instead? key value).getD (dumpWith instead? value)
  | (key, value) :: rest =>
    quote key.toList ++
      ':' :: ((instead? key value).getD (dumpWith instead? value) ++ ',' :: dumpEntriesWith instead? rest)

end

mutual

theorem dumpWith_none (value : Value) : dumpWith (fun _ _ => none) value = dump value := by
  cases value with
  | list items => rw [dumpWith, dumpItemsWith_none items, dump]
  | record entries => rw [dumpWith, dumpEntriesWith_none entries, dump]
  | _ => rfl

theorem dumpItemsWith_none (items : List Value) : dumpItemsWith (fun _ _ => none) items = dumpItems items := by
  match items with
  | [] => rfl
  | [item] => exact dumpWith_none item
  | item :: next :: rest =>
    simp only [dumpItemsWith, dumpWith_none item, dumpItemsWith_none (next :: rest), dumpItems]

theorem dumpEntriesWith_none (entries : Entries Value) :
    dumpEntriesWith (fun _ _ => none) entries = dumpEntries entries := by
  match entries with
  | [] => rfl
  | [(key, value)] => rw [dumpEntriesWith, Option.getD_none, dumpWith_none value, dumpEntries]
  | (key, value) :: next :: rest =>
    simp only [dumpEntriesWith, Option.getD_none, dumpWith_none value, dumpEntriesWith_none (next :: rest),
      dumpEntries]

end

/-- The content of a value that is dumped as one quoted string. -/
def quotedContent? : Value → Option (List Char)
  | .text content => some content.toList
  | .regex literal => some literal.text
  | _ => none

theorem dumpWith_of_quotedContent? {value : Value} {content : List Char}
    (instead? : String → Value → Option (List Char)) (quoted : quotedContent? value = some content) :
    dumpWith instead? value = quote content := by
  cases value with
  | text _ => obtain rfl := Option.some.inj quoted; rfl
  | regex _ => obtain rfl := Option.some.inj quoted; rfl
  | _ => exact nomatch quoted

theorem quote_not_mem_number (value : Number) : '"' ∉ value.text :=
  fun member => absurd (Number.isNumeralChar_of_mem_text member) (by decide)

theorem dumpWith_ne_quoted {value : Value} {rest : List Char} (instead? : String → Value → Option (List Char))
    (unquoted : quotedContent? value = none) (closed : Closed rest) (behind : List Char) :
    dumpWith instead? value ++ rest ≠ '"' :: behind := by
  cases value with
  | null => nofun
  | bool flag => cases flag <;> nofun
  -- The text of a number may be empty as far as this lemma goes, and then the text behind it counts.
  | number value =>
    intro same
    have known : dumpWith instead? (.number value) = value.text := rfl
    rw [known] at same
    cases text : value.text with
    | nil =>
      rw [text] at same
      exact closed.head_ne (by decide) behind same
    | cons c tail =>
      rw [text] at same
      exact quote_not_mem_number value (by rw [text, (List.cons.inj same).1]; simp)
  | text content => exact nomatch unquoted
  | regex literal => exact nomatch unquoted
  | list items => rw [dumpWith]; nofun
  | record entries => rw [dumpWith]; nofun

/-! ## One repair -/

/-- A rule for a field, with what it makes of the quoted contents that it changes. -/
structure FieldRepair extends FieldRule where
  changed? : List Char → Option (List Char)
  replaces : ∀ (content : List Char) {rest : List Char}, Closed rest →
    replaceAll rule ('"' :: (field ++ '"' :: ':' :: (quote content ++ rest))) =
      '"' :: (field ++ '"' :: ':' :: ((changed? content).getD (quote content) ++ replaceAll rule rest))

namespace FieldRepair

/-- The text that a repair puts for a value directly under a key. -/
def mark? (repair : FieldRepair) (key : String) (value : Value) : Option (List Char) :=
  if FieldKey repair.field key.toList then (quotedContent? value).bind repair.changed? else none

/-- The marks of a repair, added to marks without quotes that stay. -/
structure Adds (repair : FieldRepair) (before after : String → Value → Option (List Char)) : Prop where
  settled : ∀ {key : String} {value : Value} {text : List Char}, before key value = some text →
    '"' ∉ text ∧ after key value = some text
  fresh : ∀ {key : String} {value : Value}, before key value = none → after key value = repair.mark? key value

variable (repair : FieldRepair)

theorem replaceAll_fieldKey {key content rest : List Char} (isKey : FieldKey repair.field key)
    (closed : Closed rest) :
    replaceAll repair.rule (quote key ++ ':' :: (quote content ++ rest)) =
      quote key ++ ':' :: ((repair.changed? content).getD (quote content) ++ replaceAll repair.rule rest) := by
  have written := escape_of_plain repair.plain
  rcases isKey with rfl | ⟨front, rfl⟩
  · have whole := repair.replaces content closed
    simpa [quote, written] using whole
  · -- The quote inside the key is written behind a backslash, and there the rule finds its field.
    have split : escape (front ++ '"' :: repair.field) = escape front ++ '\\' :: '"' :: repair.field := by
      rw [escape, List.flatMap_append, List.flatMap_cons, ← escape, ← escape, written]
      rfl
    let behind := '"' :: (repair.field ++ '"' :: ':' :: (quote content ++ rest))
    have opened : replaceAll repair.rule ('"' :: (escape front ++ '\\' :: behind)) =
        '"' :: (escape front ++ replaceAll repair.rule ('\\' :: behind)) :=
      repair.replaceAll_opened (.inr rfl) fun _ _ same => absurd (List.cons.inj same).1 (by decide)
    have marked : replaceAll repair.rule ('\\' :: behind) = '\\' :: replaceAll repair.rule behind :=
      replaceAll_cons_of_none (repair.rule_cons_of_ne (by decide) behind)
    rw [marked, repair.replaces content closed] at opened
    simpa [quote, split, behind] using opened

variable {repair} {before after : String → Value → Option (List Char)}

theorem Adds.replaceAll_entry (adds : repair.Adds before after) {key : String} {value : Value} {rest : List Char}
    (closed : Closed rest)
    (inner : replaceAll repair.rule (dumpWith before value ++ rest) =
      dumpWith after value ++ replaceAll repair.rule rest) :
    replaceAll repair.rule
        (quote key.toList ++ ':' :: ((before key value).getD (dumpWith before value) ++ rest)) =
      quote key.toList ++
        ':' :: ((after key value).getD (dumpWith after value) ++ replaceAll repair.rule rest) := by
  have colon {text : List Char} : replaceAll repair.rule (':' :: text) = ':' :: replaceAll repair.rule text :=
    replaceAll_cons_of_none (repair.rule_cons_of_ne (by decide) _)
  cases marked : before key value with
  | some text =>
    -- A mark of an earlier repair has no quotes, so this one passes over it.
    obtain ⟨unquoted, kept⟩ := adds.settled marked
    have apart : ∀ behind, ':' :: (text ++ rest) ≠ ':' :: '"' :: behind := by
      intro behind same
      cases text with
      | nil => exact closed.head_ne (by decide) behind (List.cons.inj same).2
      | cons c text => exact unquoted (by rw [(List.cons.inj (List.cons.inj same).2).1]; simp)
    rw [kept, Option.getD_some, Option.getD_some, repair.replaceAll_quote (by decide) fun _ => apart, colon,
      repair.replaceAll_unquoted unquoted]
  | none =>
    rw [adds.fresh marked, Option.getD_none, mark?]
    by_cases isKey : FieldKey repair.field key.toList
    · rw [if_pos isKey]
      cases quoted : quotedContent? value with
      | some content =>
        rw [dumpWith_of_quotedContent? before quoted, dumpWith_of_quotedContent? after quoted]
        exact repair.replaceAll_fieldKey isKey closed
      | none =>
        rw [repair.replaceAll_quote (by decide) fun _ behind same =>
          dumpWith_ne_quoted before quoted closed behind (List.cons.inj same).2, colon, inner]
        rfl
    · rw [if_neg isKey, repair.replaceAll_quote (by decide) fun impossible => absurd impossible isKey, colon, inner]
      rfl

mutual

/-- The induction carries what follows the value: it must not begin with a colon. -/
theorem Adds.replaceAll_dumpWith (adds : repair.Adds before after) (value : Value) {rest : List Char}
    (closed : Closed rest) :
    replaceAll repair.rule (dumpWith before value ++ rest) =
      dumpWith after value ++ replaceAll repair.rule rest := by
  have bracket {c : Char} (apart : c ≠ '"') (text : List Char) :
      replaceAll repair.rule (c :: text) = c :: replaceAll repair.rule text :=
    replaceAll_cons_of_none (repair.rule_cons_of_ne apart text)
  match value with
  | .null => exact repair.replaceAll_unquoted (show '"' ∉ dump .null by decide) rest
  | .bool true => exact repair.replaceAll_unquoted (show '"' ∉ dump (.bool true) by decide) rest
  | .bool false => exact repair.replaceAll_unquoted (show '"' ∉ dump (.bool false) by decide) rest
  | .number value => exact repair.replaceAll_unquoted (quote_not_mem_number value) rest
  | .text content => exact repair.replaceAll_value closed
  | .regex literal => exact repair.replaceAll_value closed
  -- A bracket is no quote, so the rule has no place there and goes on behind it.
  | .list items =>
    rw [dumpWith, dumpWith, List.cons_append, bracket (by decide), List.append_assoc, List.singleton_append,
      adds.replaceAll_dumpItemsWith items (.cons (by decide) rest), bracket (by decide)]
    simp
  | .record entries =>
    rw [dumpWith, dumpWith, List.cons_append, bracket (by decide), List.append_assoc, List.singleton_append,
      adds.replaceAll_dumpEntriesWith entries (.cons (by decide) rest), bracket (by decide)]
    simp

theorem Adds.replaceAll_dumpItemsWith (adds : repair.Adds before after) (items : List Value) {rest : List Char}
    (closed : Closed rest) :
    replaceAll repair.rule (dumpItemsWith before items ++ rest) =
      dumpItemsWith after items ++ replaceAll repair.rule rest := by
  match items with
  | [] => rfl
  | [item] => exact adds.replaceAll_dumpWith item closed
  | item :: next :: more =>
    simp only [dumpItemsWith, List.append_assoc, List.cons_append]
    rw [adds.replaceAll_dumpWith item (.cons (by decide) _),
      replaceAll_cons_of_none (repair.rule_cons_of_ne (by decide) _),
      adds.replaceAll_dumpItemsWith (next :: more) closed]

theorem Adds.replaceAll_dumpEntriesWith (adds : repair.Adds before after) (entries : Entries Value)
    {rest : List Char} (closed : Closed rest) :
    replaceAll repair.rule (dumpEntriesWith before entries ++ rest) =
      dumpEntriesWith after entries ++ replaceAll repair.rule rest := by
  match entries with
  | [] => rfl
  | [(key, value)] =>
    simp only [dumpEntriesWith, List.append_assoc, List.cons_append]
    exact adds.replaceAll_entry closed (adds.replaceAll_dumpWith value closed)
  | (key, value) :: next :: more =>
    simp only [dumpEntriesWith, List.append_assoc, List.cons_append]
    have comma : Closed (',' :: (dumpEntriesWith before (next :: more) ++ rest)) := .cons (by decide) _
    rw [adds.replaceAll_entry comma (adds.replaceAll_dumpWith value comma),
      replaceAll_cons_of_none (repair.rule_cons_of_ne (by decide) _),
      adds.replaceAll_dumpEntriesWith (next :: more) closed]

end

/-- In a call whose head has no quotes, only the argument changes. -/
theorem Adds.replaceAll_call (adds : repair.Adds before after) {front : List Char} (unquoted : '"' ∉ front)
    (value : Value) :
    replaceAll repair.rule (front ++ (dumpWith before value ++ [')'])) =
      front ++ (dumpWith after value ++ [')']) := by
  have closing : replaceAll repair.rule [')'] = [')'] :=
    replaceAll_cons_of_none (repair.rule_cons_of_ne (by decide) [])
  rw [repair.replaceAll_unquoted unquoted, adds.replaceAll_dumpWith value (.cons (by decide) []), closing]

end FieldRepair

/-! ## Type names -/

/-- A name of the enumeration of type names: a word behind `Zod`. -/
def isTypeName : List Char → Bool
  | 'Z' :: 'o' :: 'd' :: word => !word.isEmpty && word.all isWordChar
  | _ => false

theorem isTypeName_iff {text : List Char} :
    isTypeName text = true ↔ ∃ word, text = 'Z' :: 'o' :: 'd' :: word ∧ word ≠ [] ∧ ∀ c ∈ word, isWordChar c = true := by
  constructor
  · intro formed
    unfold isTypeName at formed
    split at formed
    · rename_i word
      exact ⟨word, rfl, by simpa using formed⟩
    · exact nomatch formed
  · rintro ⟨word, rfl, nonempty, uniform⟩
    simpa [isTypeName, nonempty] using uniform

theorem plain_of_isWordChar {word : List Char} (uniform : ∀ c ∈ word, isWordChar c = true) : Plain word := by
  intro c member
  have isWord := uniform c member
  have low : ∀ value, value < 32 → isWordChar (Char.ofNat value) = false := by decide
  refine ⟨?_, ?_, ?_⟩
  · rintro rfl
    exact nomatch isWord
  · rintro rfl
    exact nomatch isWord
  · by_contra below
    have control := low c.toNat (by omega)
    rw [Char.ofNat_toNat, isWord] at control
    exact nomatch control

theorem plain_of_isTypeName {text : List Char} (formed : isTypeName text = true) : Plain text := by
  obtain ⟨word, rfl, -, uniform⟩ := isTypeName_iff.1 formed
  apply plain_of_isWordChar
  simpa [isWordChar] using uniform

theorem typeNameRule_eq_some_iff {text : List Char} {found : Nat × List Char} :
    typeNameRule text = some found ↔ ∃ name behind, isTypeName name = true ∧
      text = typeNameField ++ (name ++ '"' :: behind) ∧
      found = ((typeNameField ++ (name ++ ['"'])).length, "\"typeName\":".toList ++ (typeNameMember ++ name)) := by
  have lengths (word : List Char) : typeNameField.length + 3 + word.length + 1 =
      (typeNameField ++ ('Z' :: 'o' :: 'd' :: word ++ ['"'])).length := by
    simp only [List.length_append, List.length_cons, List.length_nil]
    omega
  constructor
  · intro matched
    obtain ⟨value, field, behindField⟩ := Option.bind_eq_some_iff.1 matched
    obtain ⟨tail, zod, behindZod⟩ := Option.bind_eq_some_iff.1 behindField
    rw [Text.eq_append_of_dropStart? field, Text.eq_append_of_dropStart? zod]
    dsimp only at behindZod
    split at behindZod
    · rename_i first more behind word ends
      obtain rfl := Option.some.inj behindZod
      -- The run of word characters ends at the quote, so the name is all that stands between.
      have uniform : ∀ c ∈ first :: more, isWordChar c = true := by
        rw [← word]
        exact fun _ member => List.all_eq_true.1 List.all_takeWhile _ member
      have whole : tail = first :: more ++ '"' :: behind := by
        rw [← word, ← ends, List.takeWhile_append_dropWhile]
      refine ⟨'Z' :: 'o' :: 'd' :: first :: more, behind, isTypeName_iff.2 ⟨_, rfl, nofun, uniform⟩, ?_, ?_⟩
      · rw [whole]
        rfl
      · rw [word, lengths]
        rfl
    · exact nomatch behindZod
  · rintro ⟨name, behind, formed, rfl, rfl⟩
    obtain ⟨word, rfl, nonempty, uniform⟩ := isTypeName_iff.1 formed
    have ends : Text.EndsRun isWordChar ('"' :: behind) := by
      rintro c ⟨⟩
      rfl
    unfold typeNameRule
    refine Option.bind_eq_some_iff.2
      ⟨'Z' :: 'o' :: 'd' :: word ++ '"' :: behind, Text.dropStart?_append typeNameField _, ?_⟩
    refine Option.bind_eq_some_iff.2 ⟨word ++ '"' :: behind, Text.dropStart?_append ['Z', 'o', 'd'] _, ?_⟩
    obtain ⟨first, more, rfl⟩ := List.exists_cons_of_ne_nil nonempty
    simp only [Text.takeWhile_append_of_endsRun uniform ends, Text.dropWhile_append_of_endsRun uniform ends]
    rw [lengths]
    rfl

theorem quote_append (content rest : List Char) : quote content ++ rest = '"' :: (escape content ++ '"' :: rest) := by
  simp [quote]

theorem typeNameField_ne_nil (tail : List Char) : typeNameField ++ tail ≠ [] :=
  List.append_ne_nil_of_left_ne_nil (by decide) tail

def typeNames : FieldRule where
  rule := typeNameRule
  field := "typeName".toList
  plain := forall_mem_of_all (by decide)
  begins := ⟨'t', "ypeName".toList, rfl, rfl⟩
  at_field := by
    intro text found matched
    obtain ⟨name, behind, -, rfl, -⟩ := typeNameRule_eq_some_iff.1 matched
    exact ⟨name ++ '"' :: behind, rfl⟩

def typeNameRepair : FieldRepair where
  toFieldRule := typeNames
  changed? content := if isTypeName content then some (typeNameMember ++ content) else none
  replaces := by
    intro content rest closed
    by_cases formed : isTypeName content = true
    · have front : '"' :: (typeNames.field ++ '"' :: ':' :: (quote content ++ rest)) =
          (typeNameField ++ (content ++ ['"'])) ++ rest := by
        rw [quote_append, escape_of_plain (plain_of_isTypeName formed), List.append_assoc, List.append_assoc,
          List.singleton_append]
        rfl
      have found : typeNameRule ((typeNameField ++ (content ++ ['"'])) ++ rest) = some
          ((typeNameField ++ (content ++ ['"'])).length, "\"typeName\":".toList ++ (typeNameMember ++ content)) := by
        refine typeNameRule_eq_some_iff.2 ⟨content, rest, formed, ?_, rfl⟩
        rw [List.append_assoc, List.append_assoc, List.singleton_append]
      have replaced := replaceAll_of_match (typeNameField_ne_nil _) found
      rw [front, if_pos formed, Option.getD_some]
      exact replaced.trans (List.append_assoc ..)
    · -- A name up to the quote would be the whole content, as no quote of the content is bare.
      rw [if_neg formed, Option.getD_none]
      apply typeNames.replaceAll_kept closed
      cases found : typeNames.rule ('"' :: (typeNames.field ++ '"' :: ':' :: (quote content ++ rest))) with
      | none => rfl
      | some _ =>
        obtain ⟨name, behind, named, same, -⟩ := typeNameRule_eq_some_iff.1 found
        have value : escape content ++ '"' :: rest = name ++ '"' :: behind := by
          rw [quote_append] at same
          exact List.append_cancel_left (show typeNameField ++ _ = typeNameField ++ _ from same)
        obtain ⟨rfl, -⟩ := eq_of_escape_append_eq (plain_of_isTypeName named) (.inl rfl) value
        exact absurd named formed

/-! ## Regular expressions -/

theorem regexField_ne_nil (tail : List Char) : regexField ++ tail ≠ [] :=
  List.append_ne_nil_of_left_ne_nil (by decide) tail

theorem quotedBody?_of_scanned {body : List Char} (scanned : Json.Scanned body) (rest : List Char) :
    quotedBody? (body ++ '"' :: rest) = some body := by
  induction scanned with
  | done => rfl
  | @plain c body notQuote notBackslash _ ih =>
    rw [List.cons_append, quotedBody?, ih]
    · rfl
    all_goals simp_all
  | @pair c body notNewline _ ih =>
    rw [List.cons_append, List.cons_append, quotedBody?, ih]
    · rfl
    · exact notNewline

theorem regexRule_escape (content rest : List Char) :
    regexRule (regexField ++ (escape content ++ '"' :: rest)) =
      some ((regexField ++ (escape content ++ ['"'])).length,
        "\"regex\":".toList ++ (if isLiteralText content then some content else none).getD (quote content)) := by
  have body := quotedBody?_of_scanned (Json.spelling_escape content).scanned rest
  have read : Json.unquote ('"' :: (escape content ++ ['"'])) = .ok content := Json.unquote_quote content
  unfold regexRule
  refine Option.bind_eq_some_iff.2 ⟨_, Text.dropStart?_append regexField _, ?_⟩
  refine Option.bind_eq_some_iff.2 ⟨_, body, ?_⟩
  rw [read]
  by_cases formed : isLiteralText content = true
  · simp only [formed, if_true, Option.getD_some, List.append_assoc]
  · simp only [formed, List.append_assoc]
    rfl

def regexRepair : FieldRepair where
  rule := regexRule
  field := "regex".toList
  plain := forall_mem_of_all (by decide)
  begins := ⟨'r', "egex".toList, rfl, rfl⟩
  at_field := by
    intro text found matched
    obtain ⟨value, field, -⟩ := Option.bind_eq_some_iff.1 matched
    rw [Text.eq_append_of_dropStart? field]
    exact ⟨value, rfl⟩
  changed? content := if isLiteralText content then some content else none
  replaces := by
    intro content rest closed
    have front : regexField ++ (escape content ++ '"' :: rest) =
        (regexField ++ (escape content ++ ['"'])) ++ rest := by
      rw [List.append_assoc, List.append_assoc, List.singleton_append]
    -- The rule itself decides whether a text is one of a literal, so that one match covers both cases.
    have replaced := replaceAll_of_match (regexField_ne_nil _) (front ▸ regexRule_escape content rest)
    rw [← front, List.append_assoc] at replaced
    rw [quote_append]
    exact replaced

/-! ## The text of a leaf -/

/-- The text that a type name or a regular expression literal has without quotes. -/
def bareText? (key : String) : Value → Option (List Char)
  | .text content =>
    if FieldKey "typeName".toList key.toList ∧ isTypeName content.toList then
      some (typeNameMember ++ content.toList)
    else if FieldKey "regex".toList key.toList ∧ isLiteralText content.toList then some content.toList
    else none
  | .regex literal =>
    if FieldKey "regex".toList key.toList ∧ isLiteralText literal.text then some literal.text else none
  | _ => none

theorem typeNameRepair_mark?_eq_some_iff {key : String} {value : Value} {text : List Char} :
    typeNameRepair.mark? key value = some text ↔ FieldKey "typeName".toList key.toList ∧
      ∃ content, quotedContent? value = some content ∧ isTypeName content = true ∧
        text = typeNameMember ++ content := by
  rw [FieldRepair.mark?, Option.ite_none_right_eq_some, Option.bind_eq_some_iff]
  refine and_congr Iff.rfl (exists_congr fun content => and_congr Iff.rfl ?_)
  rw [typeNameRepair, Option.ite_none_right_eq_some, Option.some.injEq, eq_comm (b := text)]

theorem regexRepair_mark?_of_quotedContent? {key : String} {value : Value} {content : List Char}
    (quoted : quotedContent? value = some content) :
    regexRepair.mark? key value =
      if FieldKey "regex".toList key.toList ∧ isLiteralText content then some content else none := by
  rw [FieldRepair.mark?, quoted, ite_and]
  rfl

theorem typeNames_added : typeNameRepair.Adds (fun _ _ => none) typeNameRepair.mark? where
  settled := nofun
  fresh _ := rfl

theorem not_isTypeName_text (literal : Regex.Literal) : isTypeName literal.text = false := rfl

theorem regexes_added : regexRepair.Adds typeNameRepair.mark? bareText? where
  settled := by
    intro key value text marked
    obtain ⟨isKey, content, quoted, named, rfl⟩ := typeNameRepair_mark?_eq_some_iff.1 marked
    refine ⟨?_, ?_⟩
    · rw [List.mem_append, not_or]
      exact ⟨by decide, fun member => (plain_of_isTypeName named '"' member).1 rfl⟩
    · cases value with
      | text content =>
        obtain rfl := Option.some.inj quoted
        exact if_pos ⟨isKey, named⟩
      -- The text of a literal begins with a slash and is no type name.
      | regex literal =>
        obtain rfl := Option.some.inj quoted
        exact absurd named (by rw [not_isTypeName_text]; nofun)
      | _ => exact nomatch quoted
  fresh := by
    intro key value unmarked
    have apart {content : List Char} (quoted : quotedContent? value = some content) :
        ¬ (FieldKey "typeName".toList key.toList ∧ isTypeName content = true) := by
      intro ⟨isKey, named⟩
      rw [typeNameRepair_mark?_eq_some_iff.2 ⟨isKey, content, quoted, named, rfl⟩] at unmarked
      exact nomatch unmarked
    cases value with
    | text content =>
      rw [regexRepair_mark?_of_quotedContent? rfl]
      exact if_neg (apart rfl)
    | regex literal => exact (regexRepair_mark?_of_quotedContent? rfl).symm
    | _ => exact (ite_self none).symm

theorem repair_call {front : List Char} (unquoted : '"' ∉ front) (value : Value) :
    repairRegexes (repairTypeNames (front ++ (dump value ++ [')']))) =
      front ++ (dumpWith bareText? value ++ [')']) := by
  have named := typeNames_added.replaceAll_call unquoted value
  have bare := regexes_added.replaceAll_call unquoted value
  rw [dumpWith_none] at named
  exact (congrArg (replaceAll regexRule) named).trans bare

theorem printLeaf_call {leaf : Leaf} (unquoted : '"' ∉ leaf.typeName.toList) :
    printLeaf leaf = ("new z.".toList ++ leaf.typeName.toList ++ ['(']) ++
      (dumpWith bareText? (.record leaf.definition.entries) ++ [')']) := by
  have front : '"' ∉ "new z.".toList ++ leaf.typeName.toList ++ ['('] := by
    simpa using unquoted
  have text : leafText leaf = ("new z.".toList ++ leaf.typeName.toList ++ ['(']) ++
      (dump (.record leaf.definition.entries) ++ [')']) := List.append_cons ..
  rw [printLeaf, text, repair_call front]

/-- The repairs of a leaf's text do what a printer of its structure does. -/
theorem printLeaf_eq_dumpWith (leaf : Leaf) (unquoted : '"' ∉ leaf.typeName.toList) :
    printLeaf leaf = "new z.".toList ++ leaf.typeName.toList ++
      '(' :: (dumpWith bareText? (.record leaf.definition.entries) ++ [')']) :=
  (printLeaf_call unquoted).trans (List.append_cons ..).symm

/-- A key that only ends in the field, and a quoted text that only looks like one. -/
theorem printLeaf_hostile_key :
    '"' ∉ "ZodString".toList ∧
      printLeaf (.make "ZodString" (.ofEntries
        [("\"typeName", .text "ZodAny"), ("a", .text "\"typeName\":\"ZodAny\"")])) =
          "new z.ZodString(\x7b\"\\\"typeName\":z.ZodFirstPartyTypeKind.ZodAny,".toList ++
            "\"a\":\"\\\"typeName\\\":\\\"ZodAny\\\"\",\"typeName\":z.ZodFirstPartyTypeKind.ZodString\x7d)".toList :=
  ⟨by decide, (printLeaf_eq_dumpWith _ (by decide)).trans rfl⟩

end SchemaExport.Expression
