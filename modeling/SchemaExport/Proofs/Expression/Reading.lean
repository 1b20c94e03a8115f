import SchemaExport.Proofs.Expression.Scanning

/-! The reader of expressions accepts exactly its grammar.

Soundness follows the readers; completeness follows the derivations. Neither needs more of the
bounds on depth and length than that the text is shorter.
-/

set_option autoImplicit false

namespace SchemaExport.Expression

/-! ## Soundness -/

theorem Tokens.pair {first second front back : List Char} (one : Token first front) (two : Token second back) :
    Tokens [first, second] (front ++ back) := ⟨front, back, one, ⟨back, [], two, rfl, by simp⟩, rfl⟩

theorem readEntry_sound {value : Reader Value} {Content : List Char → Value → Prop} (sound : Sound value Content) :
    Sound (readEntry value) (Entry Content) := by
  intro text rest entry read
  unfold readEntry at read
  dsimp only at read
  split at read
  · exact nomatch read
  · rename_i quoted
    cases skipped : Text.skipBlank text with
    | nil => simp [skipped] at quoted
    | cons c tail =>
      obtain rfl : c = '"' := by simpa [skipped] using quoted
      rw [skipped] at read
      obtain ⟨⟨key, behind⟩, keyed, following⟩ := bind_eq_ok.1 read
      obtain ⟨word, isQuoted, whole⟩ := readQuoted_sound keyed
      -- The white space in front of the key belongs to the token, though it is skipped first.
      obtain ⟨front, token, rfl⟩ := exists_token_of_skipBlank (skipped.trans whole)
      obtain ⟨afterColon, colon, following⟩ := bind_eq_ok.1 following
      obtain ⟨mark, colonToken, rfl⟩ := token_of_expect colon
      obtain ⟨⟨content, last⟩, inner, same⟩ := bind_eq_ok.1 following
      obtain ⟨rfl, rfl⟩ := Prod.mk.inj (Except.ok.inj same)
      obtain ⟨body, derived, rfl⟩ := sound inner
      exact ⟨front ++ mark ++ body, .keyed isQuoted (.pair token colonToken) derived, by simp⟩

theorem readRecord_sound {value : Reader Value} (sound : Sound value ValueText) (length : Nat) :
    Sound (readRecord value length) RecordText := by
  intro text rest record read
  obtain ⟨⟨entries, behind⟩, inner, same⟩ := bind_eq_ok.1 read
  obtain ⟨rfl, rfl⟩ := Prod.mk.inj (Except.ok.inj same)
  obtain ⟨front, enclosed, rfl⟩ := readEnclosed_sound (readEntry_sound sound) rfl rfl inner
  exact ⟨front, ⟨entries, enclosed, Record.collected_iff.2 rfl⟩, rfl⟩

theorem Atom.valueText_of_eat? {word text behind : List Char} {value : Value} (atom : Atom word value)
    (eaten : eat? word text = some behind) : ∃ front, ValueText front value ∧ text = front ++ behind := by
  obtain ⟨front, token, rfl⟩ := token_of_eat? eaten
  exact ⟨front, .atom atom token, rfl⟩

theorem readWord_sound : Sound readWord ValueText := by
  intro text rest value read
  unfold readWord at read
  split at read
  · rename_i eaten
    obtain ⟨rfl, rfl⟩ := Prod.mk.inj (Except.ok.inj read)
    exact Atom.yes.valueText_of_eat? eaten
  split at read
  · rename_i eaten
    obtain ⟨rfl, rfl⟩ := Prod.mk.inj (Except.ok.inj read)
    exact Atom.no.valueText_of_eat? eaten
  split at read
  · rename_i eaten
    obtain ⟨rfl, rfl⟩ := Prod.mk.inj (Except.ok.inj read)
    exact Atom.null.valueText_of_eat? eaten
  split at read
  · rename_i behind eaten
    obtain ⟨front, token, rfl⟩ := token_of_eat? eaten
    obtain ⟨⟨name, last⟩, word, same⟩ := bind_eq_ok.1 read
    obtain ⟨rfl, rfl⟩ := Prod.mk.inj (Except.ok.inj same)
    obtain ⟨identifier, back, nameToken, rfl⟩ := readIdentifier_sound word
    exact ⟨front ++ back, .member identifier (.pair token nameToken), by simp⟩
  · exact nomatch read

theorem Token.alone (word : List Char) : Token word word := ⟨[], List.forall_mem_nil _, rfl⟩

theorem Token.behind_blanks {blanks word text : List Char} (blank : Text.Blank blanks) (token : Token word text) :
    Token word (blanks ++ text) := by
  obtain ⟨spaces, spaced, rfl⟩ := token
  refine ⟨blanks ++ spaces, fun c member => ?_, by simp⟩
  rcases List.mem_append.1 member with before | after
  · exact blank c before
  · exact spaced c after

theorem Enclosed.behind_blanks {α : Type} {Item : List Char → α → Prop} {opening closing : Char}
    {blanks text : List Char} {items : List α} (blank : Text.Blank blanks)
    (enclosed : Enclosed Item opening closing text items) :
    Enclosed Item opening closing (blanks ++ text) items := by
  cases enclosed with
  | empty tokens =>
    obtain ⟨front, back, token, closed, rfl⟩ := tokens
    exact .empty ⟨blanks ++ front, back, token.behind_blanks blank, closed, by simp⟩
  | items token separated closed =>
    rw [← List.append_assoc]
    exact .items (token.behind_blanks blank) separated closed

theorem ValueText.behind_blanks {blanks text : List Char} {value : Value} (blank : Text.Blank blanks)
    (derived : ValueText text value) : ValueText (blanks ++ text) value := by
  cases derived with
  | atom isAtom token => exact .atom isAtom (token.behind_blanks blank)
  | member identifier tokens =>
    obtain ⟨front, back, token, name, rfl⟩ := tokens
    exact .member identifier ⟨blanks ++ front, back, token.behind_blanks blank, name, by simp⟩
  | list enclosed => exact .list (enclosed.behind_blanks blank)
  | record enclosed collected => exact .record (enclosed.behind_blanks blank) collected

theorem readValue_sound (length depth : Nat) : Sound (readValue length depth) ValueText := by
  induction depth with
  | zero => exact fun _ _ _ read => nomatch read
  | succ depth ih =>
    intro text rest value read
    -- The reader skips white space first, so what it takes is derived from there.
    suffices skipped : ∃ front, ValueText front value ∧ Text.skipBlank text = front ++ rest by
      obtain ⟨front, derived, same⟩ := skipped
      obtain ⟨blanks, blank, whole⟩ := Text.exists_blank_append_skipBlank text
      exact ⟨blanks ++ front, derived.behind_blanks blank, by rw [whole, same, List.append_assoc]⟩
    unfold readValue at read
    dsimp only at read
    split at read
    · obtain ⟨⟨entries, behind⟩, inner, same⟩ := bind_eq_ok.1 read
      obtain ⟨rfl, rfl⟩ := Prod.mk.inj (Except.ok.inj same)
      obtain ⟨front, ⟨row, enclosed, collected⟩, split⟩ := readRecord_sound ih length inner
      exact ⟨front, .record enclosed collected, split⟩
    · obtain ⟨⟨items, behind⟩, inner, same⟩ := bind_eq_ok.1 read
      obtain ⟨rfl, rfl⟩ := Prod.mk.inj (Except.ok.inj same)
      obtain ⟨front, enclosed, split⟩ := readEnclosed_sound ih rfl rfl inner
      exact ⟨front, .list enclosed, split⟩
    · rename_i head
      obtain ⟨tail, skipped⟩ := List.head?_eq_some_iff.1 head
      obtain ⟨⟨content, behind⟩, inner, same⟩ := bind_eq_ok.1 read
      obtain ⟨rfl, rfl⟩ := Prod.mk.inj (Except.ok.inj same)
      rw [skipped] at inner
      obtain ⟨front, quoted, split⟩ := readQuoted_sound inner
      exact ⟨front, .atom (.text quoted) (.alone front), skipped.trans split⟩
    · rename_i head
      obtain ⟨tail, skipped⟩ := List.head?_eq_some_iff.1 head
      obtain ⟨⟨literal, behind⟩, inner, same⟩ := bind_eq_ok.1 read
      obtain ⟨rfl, rfl⟩ := Prod.mk.inj (Except.ok.inj same)
      rw [skipped] at inner
      obtain ⟨front, literalText, split⟩ := readRegex_sound inner
      exact ⟨front, .atom (.regex literalText) (.alone front), skipped.trans split⟩
    · split at read
      · obtain ⟨⟨number, behind⟩, inner, same⟩ := bind_eq_ok.1 read
        obtain ⟨rfl, rfl⟩ := Prod.mk.inj (Except.ok.inj same)
        obtain ⟨run, split, numeral, -⟩ := readNumber_eq_ok_iff.1 inner
        exact ⟨run, .atom (.number numeral) (.alone run), split⟩
      · exact readWord_sound read
    · exact readWord_sound read

/-- A member of the builder, read up to the parenthesis of its call. -/
theorem readMember_sound {text following behind name : List Char} (member : expect "z." text = .ok following)
    (word : readIdentifier following = .ok (name, behind)) :
    Identifier name ∧ ∃ front, text = front ++ behind ∧
      ∀ call, Token ['('] call → Tokens ["z.".toList, name, ['(']] (front ++ call) := by
  obtain ⟨start, token, rfl⟩ := token_of_expect member
  obtain ⟨identifier, middle, nameToken, rfl⟩ := readIdentifier_sound word
  refine ⟨identifier, start ++ middle, by simp, fun call callToken => ?_⟩
  exact ⟨start, middle ++ call, token, .pair nameToken callToken, List.append_assoc ..⟩

theorem readLeaf_sound {length : Nat} {text rest : List Char} {leaf : Leaf}
    (read : readLeaf length text = .ok (leaf, rest)) :
    ∃ name front body back definition, Identifier name ∧ Tokens ["z.".toList, name, ['(']] front ∧
      RecordText body definition ∧ Token [')'] back ∧ leaf = .make (String.ofList name) definition ∧
      text = front ++ (body ++ (back ++ rest)) := by
  obtain ⟨_, member, afterMember⟩ := bind_eq_ok.1 read
  obtain ⟨⟨name, _⟩, word, afterName⟩ := bind_eq_ok.1 afterMember
  obtain ⟨_, opened, afterOpened⟩ := bind_eq_ok.1 afterName
  obtain ⟨⟨definition, _⟩, inner, afterRecord⟩ := bind_eq_ok.1 afterOpened
  obtain ⟨_, closed, same⟩ := bind_eq_ok.1 afterRecord
  obtain ⟨rfl, rfl⟩ := Prod.mk.inj (Except.ok.inj same)
  obtain ⟨identifier, front, rfl, tokens⟩ := readMember_sound member word
  obtain ⟨call, callToken, rfl⟩ := token_of_expect opened
  obtain ⟨body, record, rfl⟩ := readRecord_sound (readValue_sound length length) length inner
  obtain ⟨back, closing, rfl⟩ := token_of_expect closed
  exact ⟨name, front ++ call, body, back, definition, identifier, tokens call callToken, record, closing, rfl,
    by simp⟩

theorem readFieldName_sound {text rest : List Char} {name : String}
    (read : readFieldName text = .ok (name, rest)) :
    ∃ word content front, FieldWord word content ∧ Token word front ∧ name = String.ofList content ∧
      text = front ++ rest := by
  unfold readFieldName at read
  dsimp only at read
  split at read
  · rename_i head
    obtain ⟨tail, skipped⟩ := List.head?_eq_some_iff.1 head
    obtain ⟨⟨content, _⟩, inner, same⟩ := bind_eq_ok.1 read
    obtain ⟨rfl, rfl⟩ := Prod.mk.inj (Except.ok.inj same)
    rw [skipped] at inner
    obtain ⟨word, quoted, whole⟩ := readQuoted_sound inner
    obtain ⟨front, token, split⟩ := exists_token_of_skipBlank (skipped.trans whole)
    exact ⟨word, content, front, .quoted quoted, token, rfl, split⟩
  · obtain ⟨⟨content, _⟩, inner, same⟩ := bind_eq_ok.1 read
    obtain ⟨rfl, rfl⟩ := Prod.mk.inj (Except.ok.inj same)
    obtain ⟨identifier, middle, token, split⟩ := readIdentifier_sound inner
    obtain ⟨blanks, blank, whole⟩ := Text.exists_blank_append_skipBlank text
    exact ⟨content, content, blanks ++ middle, .bare identifier, token.behind_blanks blank, rfl,
      by rw [whole, split, List.append_assoc]⟩

theorem readField_sound {schema : Reader Schema} {Content : List Char → Schema → Prop}
    (sound : Sound schema Content) : Sound (readField schema) (Field Content) := by
  intro text rest field read
  obtain ⟨⟨name, _⟩, named, afterName⟩ := bind_eq_ok.1 read
  obtain ⟨_, colon, afterColon⟩ := bind_eq_ok.1 afterName
  obtain ⟨⟨inner, _⟩, body, same⟩ := bind_eq_ok.1 afterColon
  obtain ⟨rfl, rfl⟩ := Prod.mk.inj (Except.ok.inj same)
  obtain ⟨word, content, front, fieldWord, token, rfl, rfl⟩ := readFieldName_sound named
  obtain ⟨mark, colonToken, rfl⟩ := token_of_expect colon
  obtain ⟨behind, derived, rfl⟩ := sound body
  exact ⟨front ++ mark ++ behind, .named fieldWord (.pair token colonToken) derived, by simp⟩

theorem readWrapped_sound {schema : Reader Schema} {Content : List Char → Schema → Prop}
    (sound : Sound schema Content) {text rest : List Char} {wrap : Schema → Schema} {outer : Schema}
    (read : (readWrapped schema text >>= fun (inner, rest) => pure (wrap inner, rest)) = .ok (outer, rest)) :
    ∃ inner front body back, outer = wrap inner ∧ Token ['('] front ∧ Content body inner ∧ Token [')'] back ∧
      text = front ++ (body ++ (back ++ rest)) := by
  obtain ⟨⟨inner, _⟩, wrapped, same⟩ := bind_eq_ok.1 read
  obtain ⟨rfl, rfl⟩ := Prod.mk.inj (Except.ok.inj same)
  obtain ⟨_, opened, afterOpened⟩ := bind_eq_ok.1 wrapped
  obtain ⟨⟨inner, _⟩, content, afterSchema⟩ := bind_eq_ok.1 afterOpened
  obtain ⟨_, closed, same⟩ := bind_eq_ok.1 afterSchema
  obtain ⟨rfl, rfl⟩ := Prod.mk.inj (Except.ok.inj same)
  obtain ⟨front, token, rfl⟩ := token_of_expect opened
  obtain ⟨body, derived, rfl⟩ := sound content
  obtain ⟨back, closing, rfl⟩ := token_of_expect closed
  exact ⟨inner, front, body, back, rfl, token, derived, closing, rfl⟩

theorem readShape_sound {schema : Reader Schema} {Content : List Char → Schema → Prop}
    (sound : Sound schema Content) {length : Nat} {text rest : List Char} {object : Schema}
    (read : readShape schema length text = .ok (object, rest)) :
    ∃ front body back fields, Token ['('] front ∧ Enclosed (Field Content) '{' '}' body fields ∧
      Token [')'] back ∧ object = .ofFields fields ∧ text = front ++ (body ++ (back ++ rest)) := by
  obtain ⟨_, opened, afterOpened⟩ := bind_eq_ok.1 read
  obtain ⟨⟨fields, _⟩, content, afterFields⟩ := bind_eq_ok.1 afterOpened
  obtain ⟨_, closed, same⟩ := bind_eq_ok.1 afterFields
  obtain ⟨rfl, rfl⟩ := Prod.mk.inj (Except.ok.inj same)
  obtain ⟨front, token, rfl⟩ := token_of_expect opened
  obtain ⟨body, derived, rfl⟩ := readEnclosed_sound (readField_sound sound) rfl rfl content
  obtain ⟨back, closing, rfl⟩ := token_of_expect closed
  exact ⟨front, body, back, fields, token, derived, closing, rfl, rfl⟩

theorem readSchema_sound (length depth : Nat) : Sound (readSchema length depth) SchemaText := by
  induction depth with
  | zero => exact fun _ _ _ read => nomatch read
  | succ depth ih =>
    intro text rest schema read
    unfold readSchema at read
    split at read
    · rename_i eaten
      obtain ⟨⟨leaf, _⟩, inner, same⟩ := bind_eq_ok.1 read
      obtain ⟨rfl, rfl⟩ := Prod.mk.inj (Except.ok.inj same)
      obtain ⟨new, token, rfl⟩ := token_of_eat? eaten
      obtain ⟨name, front, body, back, definition, identifier, tokens, record, closing, rfl, rfl⟩ :=
        readLeaf_sound inner
      exact ⟨(new ++ front) ++ (body ++ back), .leaf identifier ⟨new, front, token, tokens, rfl⟩ record closing,
        by simp⟩
    · obtain ⟨_, member, afterMember⟩ := bind_eq_ok.1 read
      obtain ⟨⟨name, behind⟩, word, afterName⟩ := bind_eq_ok.1 afterMember
      obtain ⟨-, start, rfl, tokens⟩ := readMember_sound member word
      -- The wrappers differ in their names only.
      have wrapped {wrap : Schema → Schema} {outer : Schema} {rest : List Char} (isWrapper : Wrapper name wrap)
          (read : (readWrapped (readSchema length depth) behind >>= fun (inner, rest) => pure (wrap inner, rest)) =
            .ok (outer, rest)) : ∃ front, SchemaText front outer ∧ start ++ behind = front ++ rest := by
        obtain ⟨inner, call, body, back, rfl, opened, derived, closing, rfl⟩ := readWrapped_sound ih read
        exact ⟨(start ++ call) ++ (body ++ back), .wrapped isWrapper (tokens call opened) derived closing, by simp⟩
      dsimp only at afterName
      split at afterName
      · rename_i isObject
        subst isObject
        obtain ⟨call, body, back, fields, opened, enclosed, closing, rfl, rfl⟩ := readShape_sound ih afterName
        exact ⟨(start ++ call) ++ (body ++ back),
          .object (tokens call opened) enclosed (Record.collected_iff.2 rfl) closing, by simp⟩
      split at afterName
      · rename_i isOptional
        exact wrapped (isOptional ▸ .optional) afterName
      split at afterName
      · rename_i isNullable
        exact wrapped (isNullable ▸ .nullable) afterName
      split at afterName
      · rename_i isArray
        exact wrapped (isArray ▸ .array) afterName
      · exact nomatch afterName

/-! ## Completeness -/

/-- A text whose first token begins with another character. -/
def BeginsApart (c : Char) (text : List Char) : Prop :=
  ∃ first word front back, Token (first :: word) front ∧ text = front ++ back ∧ Text.isBlank first = false ∧ first ≠ c

theorem BeginsApart.eat?_eq_none {c : Char} {text : List Char} (apart : BeginsApart c text) (rest : List Char) :
    eat? [c] (text ++ rest) = none := by
  obtain ⟨first, word, front, back, token, rfl, visible, different⟩ := apart
  rw [List.append_assoc]
  exact Expression.eat?_eq_none token visible different ⟨[], rfl⟩ _

theorem Quoted.exists_cons {word content : List Char} (quoted : Quoted word content) : ∃ tail, word = '"' :: tail := by
  obtain ⟨body, rfl, -⟩ := quoted
  exact ⟨_, rfl⟩

theorem Quoted.solid {word content : List Char} (quoted : Quoted word content) : Solid word = true := by
  obtain ⟨tail, rfl⟩ := quoted.exists_cons
  rfl

theorem Entry.beginsApart {Content : List Char → Value → Prop} {text : List Char} {entry : String × Value}
    (derived : Entry Content text entry) : BeginsApart '}' text := by
  cases derived with
  | keyed quoted tokens _ =>
  obtain ⟨front, colon, token, -, rfl⟩ := tokens
  obtain ⟨tail, rfl⟩ := quoted.exists_cons
  exact ⟨'"', tail, front, _, token, List.append_assoc .., rfl, by decide⟩

theorem readEntry_complete {value : Reader Value} {Content : List Char → Value → Prop} {bound : Nat}
    (complete : Complete value Content bound EndsToken) :
    Complete (readEntry value) (Entry Content) bound EndsToken := by
  intro text rest entry derived short ends
  obtain ⟨quoted, tokens, body⟩ := derived
  rename_i word key front inner content
  obtain ⟨first, _, token, ⟨mark, _, colon, rfl, rfl⟩, rfl⟩ := tokens
  obtain ⟨tail, same⟩ := quoted.exists_cons
  rw [List.append_nil] at short ⊢
  simp only [List.length_append] at short
  have whole : first ++ mark ++ inner ++ rest = first ++ (mark ++ (inner ++ rest)) := by simp
  have skipped := token.skipBlank quoted.solid (mark ++ (inner ++ rest))
  have head : (word ++ (mark ++ (inner ++ rest))).head? = some '"' := by simp [same]
  rw [whole, readEntry]
  simp only [skipped, head, ne_eq, not_true_eq_false, if_false]
  refine bind_eq_ok.2 ⟨_, readQuoted_word quoted _, ?_⟩
  have afterColon : expect ":" (mark ++ (inner ++ rest)) = .ok (inner ++ rest) := expect_token (by rfl) rfl colon _
  refine bind_eq_ok.2 ⟨_, afterColon, ?_⟩
  exact bind_eq_ok.2 ⟨_, complete body (by omega) ends, rfl⟩

theorem readRecord_complete {value : Reader Value} {bound length : Nat}
    (complete : Complete value ValueText bound EndsToken) (enough : bound ≤ length) :
    Complete (readRecord value length) RecordText (bound + 1) fun _ => True := by
  intro text rest record derived short ends
  obtain ⟨entries, enclosed, collected⟩ := derived
  have read : readEnclosed (readEntry value) "\x7b" "\x7d" length (text ++ rest) = .ok (entries, rest) :=
    readEnclosed_complete (readEntry_complete complete) enough rfl rfl (by decide) (by decide) (by decide)
      (fun entry => entry.beginsApart.eat?_eq_none) enclosed short ends
  refine bind_eq_ok.2 ⟨_, read, ?_⟩
  rw [Record.collected_iff.1 collected]
  rfl

theorem Atom.exists_cons {word : List Char} {value : Value} (atom : Atom word value) :
    ∃ c tail, word = c :: tail ∧ Text.isBlank c = false ∧ c ≠ ']' := by
  cases atom with
  | null => exact ⟨'n', _, rfl, by decide⟩
  | yes => exact ⟨'t', _, rfl, by decide⟩
  | no => exact ⟨'f', _, rfl, by decide⟩
  -- A bracket is no character of a number.
  | number numeral =>
    obtain ⟨c, tail, rfl, begins⟩ := numeral.head
    have isNumeral := numeral.uniform c (by simp)
    refine ⟨c, tail, rfl, isBlank_eq_false_of_isNumeralChar isNumeral, ?_⟩
    rintro rfl
    exact absurd isNumeral (by decide)
  | text quoted =>
    obtain ⟨tail, rfl⟩ := quoted.exists_cons
    exact ⟨'"', tail, rfl, by decide⟩
  | regex text =>
    obtain ⟨-, -, -⟩ := text
    exact ⟨'/', _, rfl, by decide⟩

theorem Enclosed.exists_token {α : Type} {Item : List Char → α → Prop} {opening closing : Char} {text : List Char}
    {items : List α} (enclosed : Enclosed Item opening closing text items) :
    ∃ front back, Token [opening] front ∧ text = front ++ back := by
  cases enclosed with
  | empty tokens =>
    obtain ⟨front, back, token, -, rfl⟩ := tokens
    exact ⟨front, back, token, rfl⟩
  | items token _ _ => exact ⟨_, _, token, rfl⟩

theorem ValueText.beginsApart {text : List Char} {value : Value} (derived : ValueText text value) :
    BeginsApart ']' text := by
  cases derived with
  | atom isAtom token =>
    obtain ⟨c, tail, rfl, visible, apart⟩ := isAtom.exists_cons
    exact ⟨c, tail, text, [], token, (List.append_nil text).symm, visible, apart⟩
  | member _ tokens =>
    obtain ⟨front, back, token, -, rfl⟩ := tokens
    exact ⟨'z', _, front, back, token, rfl, by decide⟩
  | list enclosed =>
    obtain ⟨front, back, token, rfl⟩ := enclosed.exists_token
    exact ⟨'[', [], front, back, token, rfl, by decide⟩
  | record enclosed _ =>
    obtain ⟨front, back, token, rfl⟩ := enclosed.exists_token
    exact ⟨'{', [], front, back, token, rfl, by decide⟩

theorem readEnclosed_skipBlank {α : Type} (item : Reader α) (opening closing : String) (length : Nat)
    (text : List Char) : readEnclosed item opening closing length (Text.skipBlank text) =
      readEnclosed item opening closing length text := by
  simp only [readEnclosed, expect, eat?, Text.skipBlank_skipBlank]

theorem readRecord_skipBlank (value : Reader Value) (length : Nat) (text : List Char) :
    readRecord value length (Text.skipBlank text) = readRecord value length text := by
  simp only [readRecord, readEnclosed_skipBlank]

theorem readNumber_numeral {word rest : List Char} {value : Number} (numeral : Json.Numeral word value)
    (ends : EndsToken rest) : readNumber (word ++ rest) = .ok (value, rest) :=
  readNumber_eq_ok_iff.2 ⟨word, rfl, numeral, ends.numeral⟩

theorem readWord_member {name front rest : List Char} (identifier : Identifier name) (token : Token name front)
    (ends : EndsToken rest) :
    readWord (typeNameMember ++ (front ++ rest)) = .ok (.text (String.ofList name), rest) := by
  have member : eat? typeNameMember (typeNameMember ++ (front ++ rest)) = some (front ++ rest) :=
    eat?_token rfl (.alone typeNameMember) _
  have notTrue : eat? "true".toList (typeNameMember ++ (front ++ rest)) = none := rfl
  have notFalse : eat? "false".toList (typeNameMember ++ (front ++ rest)) = none := rfl
  have notNull : eat? "null".toList (typeNameMember ++ (front ++ rest)) = none := rfl
  simp only [readWord, notTrue, notFalse, notNull, member]
  exact bind_eq_ok.2 ⟨_, readIdentifier_token identifier token ends.identifier, rfl⟩

theorem readValue_numeral {length depth : Nat} {word rest text : List Char} {value : Number}
    (numeral : Json.Numeral word value) (ends : EndsToken rest) (skipped : Text.skipBlank text = word ++ rest) :
    readValue length (depth + 1) text = .ok (.number value, rest) := by
  obtain ⟨c, tail, rfl, begins⟩ := numeral.head
  have read := readNumber_numeral numeral ends
  have apart {mark : Char} (notDash : mark ≠ '-') (notDigit : mark.isDigit = false) : c ≠ mark := by
    rintro rfl
    rcases begins with dash | digit
    · exact notDash dash
    · exact absurd digit (by simp [notDigit])
  unfold readValue
  rw [skipped]
  dsimp only
  split
  -- The first four readers each want a character that begins no number.
  case h_1 | h_2 | h_3 | h_4 =>
    rename_i head
    exact absurd (Option.some.inj head) (apart (by decide) (by decide))
  case h_5 =>
    rename_i head
    obtain rfl := Option.some.inj head
    rw [if_pos (by simpa using begins)]
    exact bind_eq_ok.2 ⟨_, read, rfl⟩
  case h_6 =>
    rename_i none
    exact nomatch none

/-- The first character of a value's text tells which reader takes it. -/
theorem readValue_atom {length depth : Nat} {word rest : List Char} {value : Value} (atom : Atom word value)
    (ends : EndsToken rest) {text : List Char} (skipped : Text.skipBlank text = word ++ rest) :
    readValue length (depth + 1) text = .ok (value, rest) := by
  cases atom with
  | number numeral => exact readValue_numeral numeral ends skipped
  | null | yes | no =>
    unfold readValue
    rw [skipped]
    rfl
  | text quoted =>
    obtain ⟨tail, same⟩ := quoted.exists_cons
    have read := readQuoted_word quoted rest
    unfold readValue
    rw [skipped]
    rw [same] at read ⊢
    exact bind_eq_ok.2 ⟨_, read, rfl⟩
  | regex text =>
    have read := readRegex_word text ends.lower
    unfold readValue
    rw [skipped]
    obtain ⟨-, -, -⟩ := text
    exact bind_eq_ok.2 ⟨_, read, rfl⟩

theorem readValue_complete {length depth : Nat} (enough : depth ≤ length) :
    Complete (readValue length depth) ValueText depth EndsToken := by
  induction depth with
  | zero => exact fun _ _ _ _ short => absurd short (Nat.not_lt_zero _)
  | succ depth ih =>
    intro text rest value derived short ends
    have complete : Complete (readValue length depth) ValueText depth EndsToken := ih (by omega)
    cases derived with
    | @atom word _ _ isAtom token =>
      have solid : Solid word = true := by
        obtain ⟨c, tail, rfl, visible, -⟩ := isAtom.exists_cons
        simp [Solid, visible]
      exact readValue_atom isAtom ends (token.skipBlank solid rest)
    | member identifier tokens =>
      obtain ⟨front, _, token, ⟨back, _, name, rfl, rfl⟩, rfl⟩ := tokens
      have skipped := token.skipBlank rfl (back ++ rest)
      rw [List.append_nil, List.append_assoc]
      unfold readValue
      rw [skipped]
      exact readWord_member identifier name ends
    | list enclosed =>
      obtain ⟨front, back, token, same⟩ := enclosed.exists_token
      have skipped := token.skipBlank rfl (back ++ rest)
      have read : readEnclosed (readValue length depth) "[" "]" length (text ++ rest) = .ok (_, rest) :=
        readEnclosed_complete complete (by omega) rfl rfl (by decide) (by decide) (by decide)
          (fun item => item.beginsApart.eat?_eq_none) enclosed short trivial
      -- The bracket is looked at behind white space, which the reader of lists skips once more.
      rw [← readEnclosed_skipBlank, same, List.append_assoc, skipped] at read
      unfold readValue
      rw [same, List.append_assoc, skipped]
      exact bind_eq_ok.2 ⟨_, read, rfl⟩
    | record enclosed collected =>
      obtain ⟨front, back, token, same⟩ := enclosed.exists_token
      have skipped := token.skipBlank rfl (back ++ rest)
      have read : readRecord (readValue length depth) length (text ++ rest) = .ok (_, rest) :=
        readRecord_complete complete (by omega) ⟨_, enclosed, collected⟩ short trivial
      rw [← readRecord_skipBlank, same, List.append_assoc, skipped] at read
      unfold readValue
      rw [same, List.append_assoc, skipped]
      exact bind_eq_ok.2 ⟨_, read, rfl⟩

/-- The beginning of a call is no `new`, and its name is read up to the parenthesis. -/
theorem Tokens.readMember {name front : List Char} (identifier : Identifier name)
    (tokens : Tokens ["z.".toList, name, ['(']] front) :
    ∃ call, Token ['('] call ∧ call.length ≤ front.length ∧ ∀ rest, eat? "new".toList (front ++ rest) = none ∧
      ∃ following, expect "z." (front ++ rest) = .ok following ∧
        readIdentifier following = .ok (name, call ++ rest) := by
  obtain ⟨start, _, member, ⟨word, _, named, ⟨call, _, opened, rfl, rfl⟩, rfl⟩, rfl⟩ := tokens
  rw [List.append_nil]
  refine ⟨call, opened, by simp only [List.length_append]; omega, fun rest => ?_⟩
  have ends := opened.endsToken (by decide) rest
  have notNew : eat? "new".toList _ = none := eat?_eq_none member rfl (by decide) ⟨_, rfl⟩ (word ++ (call ++ rest))
  have afterMember : expect "z." _ = .ok _ := expect_token (by rfl) rfl member (word ++ (call ++ rest))
  rw [List.append_assoc, List.append_assoc]
  exact ⟨notNew, _, afterMember, readIdentifier_token identifier named ends.identifier⟩

theorem readLeaf_complete {length : Nat} {name front text back : List Char} {definition : Definition}
    (identifier : Identifier name) (tokens : Tokens ["z.".toList, name, ['(']] front)
    (record : RecordText text definition) (closing : Token [')'] back) (short : text.length < length + 1)
    (rest : List Char) :
    readLeaf length (front ++ (text ++ (back ++ rest))) =
      .ok (.make (String.ofList name) definition, rest) := by
  obtain ⟨call, opened, -, read⟩ := tokens.readMember identifier
  obtain ⟨-, following, afterMember, afterName⟩ := read (text ++ (back ++ rest))
  have complete : Complete (readValue length length) ValueText length EndsToken := readValue_complete (Nat.le_refl _)
  have afterCall : expect "(" _ = .ok _ := expect_token (by rfl) rfl opened (text ++ (back ++ rest))
  have afterRecord : readRecord (readValue length length) length (text ++ (back ++ rest)) =
      .ok (definition, back ++ rest) :=
    readRecord_complete complete (Nat.le_refl _) record short trivial
  have afterClosing : expect ")" _ = .ok _ := expect_token (by rfl) rfl closing rest
  refine bind_eq_ok.2 ⟨_, afterMember, bind_eq_ok.2 ⟨_, afterName, bind_eq_ok.2 ⟨_, afterCall, ?_⟩⟩⟩
  exact bind_eq_ok.2 ⟨_, afterRecord, bind_eq_ok.2 ⟨_, afterClosing, rfl⟩⟩

theorem Identifier.exists_cons {word : List Char} (identifier : Identifier word) :
    ∃ c tail, word = c :: tail ∧ Text.isIdentifierChar c = true := by
  obtain ⟨nonempty, uniform⟩ := identifier
  obtain ⟨c, tail, rfl⟩ := List.exists_cons_of_ne_nil nonempty
  exact ⟨c, tail, rfl, uniform c (by simp)⟩

theorem readFieldName_complete {word content front rest : List Char} (fieldWord : FieldWord word content)
    (token : Token word front) (ends : EndsToken rest) :
    readFieldName (front ++ rest) = .ok (String.ofList content, rest) := by
  cases fieldWord with
  | quoted quoted =>
    have head : (word ++ rest).head? = some '"' := by
      obtain ⟨tail, rfl⟩ := quoted.exists_cons
      rfl
    rw [readFieldName]
    simp only [token.skipBlank quoted.solid rest, head, if_true]
    exact bind_eq_ok.2 ⟨_, readQuoted_word quoted rest, rfl⟩
  | bare identifier =>
    -- No identifier begins with a quote, so the other reader takes the word.
    have notQuote : (word ++ rest).head? ≠ some '"' := by
      obtain ⟨c, tail, rfl, isIdentifier⟩ := identifier.exists_cons
      rintro ⟨⟩
      exact absurd isIdentifier (by decide)
    have read := readIdentifier_token identifier (.alone word) ends.identifier
    rw [readFieldName]
    simp only [token.skipBlank identifier.solid rest, if_neg notQuote]
    exact bind_eq_ok.2 ⟨_, read, rfl⟩

theorem FieldWord.exists_cons {word content : List Char} (fieldWord : FieldWord word content) :
    ∃ c tail, word = c :: tail ∧ Text.isBlank c = false ∧ c ≠ '}' := by
  cases fieldWord with
  | quoted quoted =>
    obtain ⟨tail, rfl⟩ := quoted.exists_cons
    exact ⟨'"', tail, rfl, rfl, by decide⟩
  | bare identifier =>
    obtain ⟨c, tail, rfl, isIdentifier⟩ := identifier.exists_cons
    refine ⟨c, tail, rfl, Text.isBlank_eq_false_of_isIdentifierChar isIdentifier, ?_⟩
    rintro rfl
    exact absurd isIdentifier (by decide)

theorem Field.beginsApart {Content : List Char → Schema → Prop} {text : List Char} {field : String × Schema}
    (derived : Field Content text field) : BeginsApart '}' text := by
  cases derived with
  | named fieldWord tokens _ =>
    obtain ⟨front, colon, token, -, rfl⟩ := tokens
    obtain ⟨c, tail, rfl, visible, apart⟩ := fieldWord.exists_cons
    exact ⟨c, tail, front, _, token, List.append_assoc .., visible, apart⟩

theorem readField_complete {schema : Reader Schema} {Content : List Char → Schema → Prop} {bound : Nat}
    (complete : Complete schema Content bound EndsToken) :
    Complete (readField schema) (Field Content) bound EndsToken := by
  intro text rest field derived short ends
  obtain ⟨fieldWord, tokens, body⟩ := derived
  rename_i word name front inner content
  obtain ⟨first, _, token, ⟨mark, _, colon, rfl, rfl⟩, rfl⟩ := tokens
  rw [List.append_nil] at short ⊢
  simp only [List.length_append] at short
  have whole : first ++ mark ++ inner ++ rest = first ++ (mark ++ (inner ++ rest)) := by simp
  have named := readFieldName_complete fieldWord token (colon.endsToken (by decide) (inner ++ rest))
  have afterColon : expect ":" _ = .ok _ := expect_token (by rfl) rfl colon (inner ++ rest)
  rw [whole]
  refine bind_eq_ok.2 ⟨_, named, bind_eq_ok.2 ⟨_, afterColon, ?_⟩⟩
  exact bind_eq_ok.2 ⟨_, complete body (by omega) ends, rfl⟩

theorem Complete.mono {α : Type} {reader : Reader α} {Item : List Char → α → Prop} {bound : Nat}
    {Ends More : List Char → Prop} (complete : Complete reader Item bound Ends)
    (implies : ∀ rest, More rest → Ends rest) : Complete reader Item bound More :=
  fun _ rest _ derived short ends => complete derived short (implies rest ends)

theorem readWrapped_complete {schema : Reader Schema} {Content : List Char → Schema → Prop} {bound : Nat}
    (complete : Complete schema Content bound fun _ => True) {front text back : List Char} {inner : Schema}
    (opened : Token ['('] front) (derived : Content text inner) (closing : Token [')'] back)
    (short : text.length < bound) (rest : List Char) :
    readWrapped schema (front ++ (text ++ (back ++ rest))) = .ok (inner, rest) := by
  have afterCall : expect "(" _ = .ok _ := expect_token (by rfl) rfl opened (text ++ (back ++ rest))
  have content : schema (text ++ (back ++ rest)) = .ok (inner, back ++ rest) := complete derived short trivial
  have afterClosing : expect ")" _ = .ok _ := expect_token (by rfl) rfl closing rest
  exact bind_eq_ok.2 ⟨_, afterCall, bind_eq_ok.2 ⟨_, content, bind_eq_ok.2 ⟨_, afterClosing, rfl⟩⟩⟩

theorem readShape_complete {schema : Reader Schema} {Content : List Char → Schema → Prop} {bound length : Nat}
    (complete : Complete schema Content bound fun _ => True) (enough : bound ≤ length)
    {front text back : List Char} {fields : Entries Schema} (opened : Token ['('] front)
    (derived : Enclosed (Field Content) '{' '}' text fields) (closing : Token [')'] back)
    (short : text.length < bound + 1) (rest : List Char) :
    readShape schema length (front ++ (text ++ (back ++ rest))) = .ok (.ofFields fields, rest) := by
  have afterCall : expect "(" _ = .ok _ := expect_token (by rfl) rfl opened (text ++ (back ++ rest))
  have field := readField_complete (complete.mono (fun _ _ => trivial) : Complete schema Content bound EndsToken)
  have content : readEnclosed (readField schema) "\x7b" "\x7d" length (text ++ (back ++ rest)) =
      .ok (fields, back ++ rest) :=
    readEnclosed_complete field enough rfl rfl (by decide) (by decide) (by decide)
      (fun field => field.beginsApart.eat?_eq_none) derived short trivial
  have afterClosing : expect ")" _ = .ok _ := expect_token (by rfl) rfl closing rest
  exact bind_eq_ok.2 ⟨_, afterCall, bind_eq_ok.2 ⟨_, content, bind_eq_ok.2 ⟨_, afterClosing, rfl⟩⟩⟩

theorem Wrapper.identifier {name : List Char} {wrap : Schema → Schema} (wrapper : Wrapper name wrap) :
    Identifier name := by
  cases wrapper <;> exact ⟨by decide, forall_mem_of_all (by decide)⟩

theorem readSchema_complete {length depth : Nat} (enough : depth ≤ length) :
    Complete (readSchema length depth) SchemaText depth fun _ => True := by
  induction depth with
  | zero => exact fun _ _ _ _ short => absurd short (Nat.not_lt_zero _)
  | succ depth ih =>
    intro text rest schema derived short ends
    have complete : Complete (readSchema length depth) SchemaText depth fun _ => True := ih (by omega)
    cases derived with
    | @leaf name front body back definition identifier tokens record closing =>
      obtain ⟨new, front, token, tokens, rfl⟩ := tokens
      simp only [List.length_append] at short
      have eaten : eat? "new".toList _ = some _ := eat?_token rfl token (front ++ (body ++ (back ++ rest)))
      have read := readLeaf_complete identifier tokens record closing (by omega : body.length < length + 1) rest
      have whole : new ++ front ++ (body ++ back) ++ rest = new ++ (front ++ (body ++ (back ++ rest))) := by simp
      rw [whole, readSchema, eaten]
      exact bind_eq_ok.2 ⟨_, read, rfl⟩
    | @object front body back fields shape tokens enclosed collected closing =>
      have identifier : Identifier "object".toList := ⟨by decide, forall_mem_of_all (by decide)⟩
      obtain ⟨call, opened, -, member⟩ := tokens.readMember identifier
      obtain ⟨notNew, following, afterMember, afterName⟩ := member (body ++ (back ++ rest))
      simp only [List.length_append] at short
      have read := readShape_complete complete (by omega : depth ≤ length) opened enclosed closing (by omega) rest
      have whole : front ++ (body ++ back) ++ rest = front ++ (body ++ (back ++ rest)) := by simp
      rw [whole, readSchema, notNew, Record.collected_iff.1 collected]
      refine bind_eq_ok.2 ⟨_, afterMember, bind_eq_ok.2 ⟨_, afterName, ?_⟩⟩
      exact (if_pos rfl).trans read
    | @wrapped name front body back wrap inner wrapper tokens derived closing =>
      obtain ⟨call, opened, within, member⟩ := tokens.readMember wrapper.identifier
      obtain ⟨notNew, following, afterMember, afterName⟩ := member (body ++ (back ++ rest))
      simp only [List.length_append] at short
      -- The parenthesis makes the schema inside shorter than the whole, which one level of depth allows for.
      have nonempty : 1 ≤ call.length := opened.length_le
      have read := readWrapped_complete complete opened derived closing (by omega) rest
      have whole : front ++ (body ++ back) ++ rest = front ++ (body ++ (back ++ rest)) := by simp
      rw [whole, readSchema, notNew]
      refine bind_eq_ok.2 ⟨_, afterMember, bind_eq_ok.2 ⟨_, afterName, ?_⟩⟩
      cases wrapper <;> exact bind_eq_ok.2 ⟨_, read, rfl⟩

theorem readWhole_eq_ok_iff {source : List Char} {schema : Schema} :
    readWhole source = .ok schema ↔ Derives source schema := by
  constructor
  · intro read
    obtain ⟨⟨tree, behind⟩, inner, checked⟩ := bind_eq_ok.1 read
    obtain ⟨text, derived, rfl⟩ := readSchema_sound _ _ inner
    dsimp only at checked
    split at checked
    · rename_i trailing
      obtain rfl := Except.ok.inj checked
      have blank := List.dropWhile_eq_nil_iff.1 (List.isEmpty_iff.1 trailing)
      exact ⟨text, behind, rfl, blank, derived⟩
    · exact nomatch checked
  · rintro ⟨text, blanks, rfl, blank, derived⟩
    -- The bound of the readers is the length of the source and one more.
    have short : text.length < (text ++ blanks).length + 1 := by
      rw [List.length_append]
      omega
    have trailing : (Text.skipBlank blanks).isEmpty = true :=
      List.isEmpty_iff.2 (List.dropWhile_eq_nil_iff.2 blank)
    refine bind_eq_ok.2 ⟨_, readSchema_complete (Nat.le_refl _) derived short trivial, ?_⟩
    simp only [trailing, if_true]
    rfl

end SchemaExport.Expression

namespace SchemaExport.Schema

/-- An expression is read as a schema exactly when it derives it. -/
theorem ofExpression_eq_ok_iff (source : List Char) (schema : Schema) :
    ofExpression source = .ok schema ↔ Expression.Derives source schema := by
  rw [← Expression.readWhole_eq_ok_iff, ofExpression]
  cases Expression.readWhole source <;> simp

end SchemaExport.Schema
