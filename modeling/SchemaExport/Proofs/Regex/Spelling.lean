import SchemaExport.Proofs.Regex.Literal

/-! What the spelling of a source makes of its tokens.

A backslash and the character behind it are one token, and so is any other character. Line breaks and
the slashes outside classes become escapes and all other tokens stay, but for one: of a line break
behind a backslash only the line break is spelled anew, which leaves a backslash that is escaped and
a letter behind it.
-/

set_option autoImplicit false

namespace SchemaExport.Regex

/-- A character, or the one behind a backslash. -/
inductive SourceToken where
  | bare (c : Char)
  | escape (c : Char)
  deriving DecidableEq, Repr

/-- A backslash at the end is a token of its own. -/
def tokens : List Char → List SourceToken
  | [] => []
  | ['\\'] => [.bare '\\']
  | '\\' :: c :: rest => .escape c :: tokens rest
  | c :: rest => .bare c :: tokens rest

namespace SourceToken

def inClassBehind (inClass : Bool) : SourceToken → Bool
  | .bare '[' => true
  | .bare ']' => false
  | _ => inClass

/-- The escape that a token stands for, or the token itself. -/
def respelled (inClass : Bool) : SourceToken → SourceToken
  | .bare '\n' | .escape '\n' => .escape 'n'
  | .bare '\r' | .escape '\r' => .escape 'r'
  | .bare '/' => if inClass then .bare '/' else .escape '/'
  | token => token

def stored (inClass : Bool) : SourceToken → List SourceToken
  | .escape '\n' => [.escape '\\', .bare 'n']
  | .escape '\r' => [.escape '\\', .bare 'r']
  | token => [token.respelled inClass]

def IsEscapedBreak (token : SourceToken) : Prop := token = .escape '\n' ∨ token = .escape '\r'

def handed : SourceToken → List Char
  | .bare '\n' => ['\\', 'n']
  | .bare '\r' => ['\\', 'r']
  | .bare c => [c]
  | .escape '/' => ['/']
  | .escape '\n' => ['\\', '\\', 'n']
  | .escape '\r' => ['\\', '\\', 'r']
  | .escape c => ['\\', c]

end SourceToken

def respell : Bool → List SourceToken → List SourceToken
  | _, [] => []
  | inClass, token :: rest => token.respelled inClass :: respell (token.inClassBehind inClass) rest

def store : Bool → List SourceToken → List SourceToken
  | _, [] => []
  | inClass, token :: rest => token.stored inClass ++ store (token.inClassBehind inClass) rest

theorem store_eq_respell_iff {inClass : Bool} {row : List SourceToken} :
    store inClass row = respell inClass row ↔ ∀ token ∈ row, ¬ token.IsEscapedBreak := by
  induction row generalizing inClass with
  | nil => simp [store, respell]
  | cons token row ih =>
    rw [store, respell, List.forall_mem_cons, ← @ih (token.inClassBehind inClass)]
    -- An escaped line break is stored as two tokens, and every other token as its spelling.
    by_cases broken : token.IsEscapedBreak
    · rcases broken with rfl | rfl <;> simp [SourceToken.stored, SourceToken.respelled, SourceToken.IsEscapedBreak]
    · have kept : token.stored inClass = [token.respelled inClass] := by
        unfold SourceToken.stored
        split
        · exact absurd (.inl rfl) broken
        · exact absurd (.inr rfl) broken
        · rfl
      simp [kept, broken]

/-! ## Spelled sources -/

theorem tokens_escape (c : Char) (rest : List Char) : tokens ('\\' :: c :: rest) = .escape c :: tokens rest := rfl

theorem tokens_cons_of_ne {c : Char} (plain : c ≠ '\\') (rest : List Char) :
    tokens (c :: rest) = .bare c :: tokens rest := by
  rw [tokens]
  · rintro rfl
    exact absurd rfl plain
  · rintro d tail rfl
    exact absurd rfl plain

theorem ne_backslash {c : Char} {rest : List Char} (alone : c = '\\' → rest = [] → False)
    (pair : ∀ d tail, c = '\\' → rest = d :: tail → False) : c ≠ '\\' := by
  intro backslash
  cases rest with
  | nil => exact alone backslash rfl
  | cons d tail => exact pair d tail backslash rfl

theorem next_escaped (inClass : Bool) (c : Char) : Cursor.next ⟨true, inClass⟩ c = ⟨false, inClass⟩ := by
  simp [Cursor.next]

theorem next_bare (inClass : Bool) {c : Char} (plain : c ≠ '\\') :
    Cursor.next ⟨false, inClass⟩ c = ⟨false, SourceToken.inClassBehind inClass (.bare c)⟩ := by
  by_cases opening : c = '['
  · subst opening
    rfl
  by_cases closing : c = ']'
  · subst closing
    rfl
  simp [Cursor.next, SourceToken.inClassBehind, opening, closing, plain]

/-- An escaped character is spelled without regard to what it is, a line break apart. -/
theorem spell_escape (inClass : Bool) (c : Char) (rest : List Char) :
    spell ⟨false, inClass⟩ ('\\' :: c :: rest) =
      '\\' :: (spellChar ⟨true, inClass⟩ c ++ spell ⟨false, inClass⟩ rest) := by
  have behind : spell ⟨true, inClass⟩ (c :: rest) = spellChar ⟨true, inClass⟩ c ++ spell ⟨false, inClass⟩ rest := by
    rw [spell, next_escaped]
  rw [← behind]
  rfl

theorem spell_bare (inClass : Bool) {c : Char} (plain : c ≠ '\\') (rest : List Char) :
    spell ⟨false, inClass⟩ (c :: rest) =
      spellChar ⟨false, inClass⟩ c ++ spell ⟨false, SourceToken.inClassBehind inClass (.bare c)⟩ rest := by
  rw [spell, next_bare inClass plain]

theorem spellChar_escape {c : Char} (inClass : Bool) (feed : c ≠ '\n') (carriage : c ≠ '\r') :
    spellChar ⟨true, inClass⟩ c = [c] := by
  simp [spellChar, feed, carriage, Cursor.atRest]

theorem spellChar_bare {c : Char} (inClass : Bool) (feed : c ≠ '\n') (carriage : c ≠ '\r') (slash : c ≠ '/') :
    spellChar ⟨false, inClass⟩ c = [c] := by
  simp [spellChar, feed, carriage, slash]

theorem tokens_spellChar_escape (inClass : Bool) (c : Char) (rest : List Char) :
    tokens ('\\' :: (spellChar ⟨true, inClass⟩ c ++ rest)) =
      SourceToken.stored inClass (.escape c) ++ tokens rest := by
  by_cases feed : c = '\n'
  · subst feed
    rfl
  by_cases carriage : c = '\r'
  · subst carriage
    rfl
  have kept : SourceToken.stored inClass (.escape c) = [.escape c] := by
    simp [SourceToken.stored, SourceToken.respelled, feed, carriage]
  rw [spellChar_escape inClass feed carriage, kept]
  rfl

theorem tokens_spellChar_bare (inClass : Bool) {c : Char} (plain : c ≠ '\\') (rest : List Char) :
    tokens (spellChar ⟨false, inClass⟩ c ++ rest) = SourceToken.stored inClass (.bare c) ++ tokens rest := by
  by_cases feed : c = '\n'
  · subst feed
    rfl
  by_cases carriage : c = '\r'
  · subst carriage
    rfl
  by_cases slash : c = '/'
  · subst slash
    cases inClass
    · rfl
    · exact tokens_cons_of_ne (by decide) rest
  -- What is left is spelled as it is, and is a token of its own unless it opens an escape.
  have kept : SourceToken.stored inClass (.bare c) = [.bare c] := by
    simp [SourceToken.stored, SourceToken.respelled, feed, carriage, slash]
  rw [spellChar_bare inClass feed carriage slash, kept]
  exact tokens_cons_of_ne plain rest

theorem tokens_spell (inClass : Bool) (source : List Char) :
    tokens (spell ⟨false, inClass⟩ source) = store inClass (tokens source) := by
  induction source using tokens.induct generalizing inClass with
  | case1 => rfl
  | case2 => rfl
  | case3 c rest ih =>
    have behind : SourceToken.inClassBehind inClass (.escape c) = inClass := rfl
    rw [spell_escape, tokens_spellChar_escape, ih, tokens_escape, store, behind]
  | case4 c rest alone pair ih =>
    have plain : c ≠ '\\' := ne_backslash alone pair
    rw [spell_bare inClass plain, tokens_spellChar_bare inClass plain, ih, tokens_cons_of_ne plain, store]

/-! ## What a matcher is handed -/

theorem plainSlashes_spellChar_escape (inClass : Bool) (c : Char) (rest : List Char) :
    plainSlashes false ('\\' :: (spellChar ⟨true, inClass⟩ c ++ rest)) =
      SourceToken.handed (.escape c) ++ plainSlashes false rest := by
  by_cases feed : c = '\n'
  · subst feed
    rfl
  by_cases carriage : c = '\r'
  · subst carriage
    rfl
  by_cases slash : c = '/'
  · subst slash
    rfl
  rw [spellChar_escape inClass feed carriage]
  simp [plainSlashes, SourceToken.handed, slash]

theorem plainSlashes_spellChar_bare (inClass : Bool) {c : Char} (plain : c ≠ '\\') (rest : List Char) :
    plainSlashes false (spellChar ⟨false, inClass⟩ c ++ rest) =
      SourceToken.handed (.bare c) ++ plainSlashes false rest := by
  by_cases feed : c = '\n'
  · subst feed
    rfl
  by_cases carriage : c = '\r'
  · subst carriage
    rfl
  by_cases slash : c = '/'
  · subst slash
    cases inClass <;> rfl
  rw [spellChar_bare inClass feed carriage slash]
  simp [plainSlashes, SourceToken.handed, plain]

/-- The matcher's pattern token by token. The backslash that opens an escape at the very end would be lost. -/
theorem plainSlashes_spell {inClass : Bool} {source : List Char}
    (closed : (Cursor.after ⟨false, inClass⟩ source).escaped = false) :
    plainSlashes false (spell ⟨false, inClass⟩ source) = (tokens source).flatMap SourceToken.handed := by
  -- The induction is on the tokens: an escape takes two characters, and any other token one.
  induction source using tokens.induct generalizing inClass with
  | case1 => rfl
  | case2 => exact absurd closed (by simp [Cursor.after, Cursor.next])
  | case3 c rest ih =>
    have behind : Cursor.after ⟨false, inClass⟩ ('\\' :: c :: rest) = Cursor.after ⟨false, inClass⟩ rest := by
      have pair : Cursor.after ⟨false, inClass⟩ ('\\' :: c :: rest) = (Cursor.next ⟨true, inClass⟩ c).after rest := rfl
      rw [pair, next_escaped]
    rw [spell_escape, plainSlashes_spellChar_escape, ih (behind ▸ closed), tokens_escape, List.flatMap_cons]
  | case4 c rest alone pair ih =>
    have plain : c ≠ '\\' := ne_backslash alone pair
    have behind : Cursor.after ⟨false, inClass⟩ (c :: rest) = (Cursor.next ⟨false, inClass⟩ c).after rest := rfl
    rw [behind, next_bare inClass plain] at closed
    rw [spell_bare inClass plain, plainSlashes_spellChar_bare inClass plain, ih closed, tokens_cons_of_ne plain,
      List.flatMap_cons]

namespace Literal

def flagGroup (literal : Literal) : List Char :=
  match ['i', 'm', 's'].filter fun flag => flag ∈ literal.flags.toList with
  | [] => []
  | flags => '(' :: '?' :: (flags ++ [')'])

theorem pattern_eq (literal : Literal) :
    literal.pattern = literal.flagGroup ++ plainSlashes false literal.source.toList := by
  simp only [pattern, flagGroup]
  split
  · rename_i none
    simp [none]
  · simp

/-- The tokens of a stored source are the given ones, each with its spelling, unless a line break stands
behind a backslash: that one becomes an escaped backslash and a letter. -/
theorem tokens_make {source flags : List Char} {literal : Literal} (made : make source flags = .ok literal)
    (nonempty : source ≠ []) :
    tokens literal.source.toList = store false (tokens source) ∧
      (tokens literal.source.toList = respell false (tokens source) ↔
        ∀ token ∈ tokens source, ¬ token.IsEscapedBreak) ∧
      literal.pattern = literal.flagGroup ++ (tokens source).flatMap SourceToken.handed := by
  obtain ⟨atRest, same⟩ := normalize_eq_ok_iff.1 (make_eq_ok_iff.1 made).1
  have spelled : literal.source.toList = spell .start source := by rw [same, if_neg nonempty]
  have closed : (Cursor.start.after source).escaped = false := by
    rw [(Cursor.atRest_iff _).1 atRest]
    rfl
  have stored_tokens : tokens literal.source.toList = store false (tokens source) := by
    rw [spelled]
    exact tokens_spell false source
  have handed : plainSlashes false literal.source.toList = (tokens source).flatMap SourceToken.handed := by
    rw [spelled]
    exact plainSlashes_spell closed
  rw [pattern_eq, stored_tokens, handed]
  exact ⟨rfl, store_eq_respell_iff, rfl⟩

/-- Every kind of token: slashes in a class, outside one and escaped, and line breaks of both kinds. -/
theorem tokens_make_mixed :
    let source := "/[/]\\/\\d\n\\\n".toList
    let literal : Literal := ⟨"\\/[/]\\/\\d\\n\\\\n", "gi", rfl, rfl⟩
    make source "gi".toList = .ok literal ∧ source ≠ [] ∧
      tokens literal.source.toList = [.escape '/', .bare '[', .bare '/', .bare ']', .escape '/', .escape 'd',
        .escape 'n', .escape '\\', .bare 'n'] ∧
      literal.pattern = "(?i)/[/]/\\d\\n\\\\n".toList := by
  intro source literal
  have made : make source "gi".toList = .ok literal := rfl
  have nonempty : source ≠ [] := by decide
  obtain ⟨stored, -, handed⟩ := tokens_make made nonempty
  exact ⟨made, nonempty, stored.trans (by decide), handed.trans (by decide)⟩

/-- A line feed behind a backslash is not stored as the escape of a line feed. -/
theorem tokens_make_escaped_feed :
    ¬ ∀ source flags literal, make source flags = .ok literal → source ≠ [] →
      tokens literal.source.toList = respell false (tokens source) := by
  intro respelled
  have made : make ['\\', '\n'] [] = .ok ⟨"\\\\n", "", rfl, rfl⟩ := rfl
  exact absurd (respelled _ _ _ made (by decide)) (by decide)

end Literal

end SchemaExport.Regex
