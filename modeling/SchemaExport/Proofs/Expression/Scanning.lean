import SchemaExport.Proofs.Expression.Grammar

/-! Reading the tokens of an expression and the lists between brackets.

Each reader takes a token of the grammar from the front of its text, and takes the whole of it when
nothing behind it could belong to the same run of characters.
-/

set_option autoImplicit false

namespace SchemaExport.Expression

/-- A reader takes nothing but items of a grammar. -/
def Sound {α : Type} (reader : Reader α) (Item : List Char → α → Prop) : Prop :=
  ∀ ⦃text rest : List Char⦄ ⦃item : α⦄, reader text = .ok (item, rest) →
    ∃ front, Item front item ∧ text = front ++ rest

/-- A reader takes every item of a grammar that is short enough, if what follows lets it end. -/
def Complete {α : Type} (reader : Reader α) (Item : List Char → α → Prop) (bound : Nat)
    (Ends : List Char → Prop) : Prop :=
  ∀ ⦃front rest : List Char⦄ ⦃item : α⦄, Item front item → front.length < bound → Ends rest →
    reader (front ++ rest) = .ok (item, rest)

/-! ## Tokens -/

/-- A word that white space does not begin. -/
def Solid : List Char → Bool
  | [] => false
  | c :: _ => !Text.isBlank c

theorem Solid.exists_cons {word : List Char} (solid : Solid word = true) :
    ∃ c tail, word = c :: tail ∧ Text.isBlank c = false := by
  cases word with
  | nil => exact nomatch solid
  | cons c tail => exact ⟨c, tail, rfl, by simpa [Solid] using solid⟩

theorem Token.skipBlank {word front : List Char} (solid : Solid word = true) (token : Token word front)
    (rest : List Char) : Text.skipBlank (front ++ rest) = word ++ rest := by
  obtain ⟨blanks, blank, rfl⟩ := token
  obtain ⟨c, tail, rfl, visible⟩ := Solid.exists_cons solid
  rw [List.append_assoc]
  apply Text.skipBlank_append blank
  rintro first ⟨⟩
  exact visible

theorem Token.length_le {word front : List Char} (token : Token word front) : word.length ≤ front.length := by
  obtain ⟨blanks, -, rfl⟩ := token
  simp

theorem exists_token_of_skipBlank {word text rest : List Char} (skipped : Text.skipBlank text = word ++ rest) :
    ∃ front, Token word front ∧ text = front ++ rest := by
  obtain ⟨blanks, blank, same⟩ := Text.exists_blank_append_skipBlank text
  exact ⟨blanks ++ word, ⟨blanks, blank, rfl⟩, by rw [same, skipped, List.append_assoc]⟩

theorem token_of_eat? {word text rest : List Char} (found : eat? word text = some rest) :
    ∃ front, Token word front ∧ text = front ++ rest :=
  exists_token_of_skipBlank (Text.eq_append_of_dropStart? found)

theorem eat?_token {word front : List Char} (solid : Solid word = true) (token : Token word front)
    (rest : List Char) : eat? word (front ++ rest) = some rest := by
  rw [eat?, token.skipBlank solid, Text.dropStart?_append]

theorem token_of_expect {word : String} {text rest : List Char} (found : expect word text = .ok rest) :
    ∃ front, Token word.toList front ∧ text = front ++ rest := by
  unfold expect at found
  split at found
  · rename_i behind eaten
    obtain rfl := Except.ok.inj found
    exact token_of_eat? eaten
  · exact nomatch found

theorem expect_token {name : String} {word front : List Char} (spelled : name.toList = word)
    (solid : Solid word = true) (token : Token word front) (rest : List Char) :
    expect name (front ++ rest) = .ok rest := by
  rw [expect, spelled, eat?_token solid token]

theorem eat?_eq_none {word other front : List Char} {c d : Char} (token : Token (c :: other) front)
    (visible : Text.isBlank c = false) (apart : c ≠ d) (same : ∃ tail, word = d :: tail) (rest : List Char) :
    eat? word (front ++ rest) = none := by
  obtain ⟨tail, rfl⟩ := same
  rw [eat?, token.skipBlank (by simp [Solid, visible]), List.cons_append, Text.dropStart?, if_neg apart]

/-! ## Words -/

theorem isBlank_eq_false_of_isNumeralChar {c : Char} (numeral : isNumeralChar c = true) :
    Text.isBlank c = false := by
  simp only [isNumeralChar, Bool.or_eq_true, decide_eq_true_eq] at numeral
  rcases numeral with digit | mark
  · exact Text.isBlank_eq_false_of_isAlphanum (by simp [Char.isAlphanum, digit])
  · have visible : ∀ c ∈ ['-', '+', '.', 'e', 'E'], Text.isBlank c = false := forall_mem_of_all (by decide)
    exact visible c mark

theorem Identifier.solid {word : List Char} (identifier : Identifier word) : Solid word = true := by
  obtain ⟨nonempty, uniform⟩ := identifier
  obtain ⟨c, tail, rfl⟩ := List.exists_cons_of_ne_nil nonempty
  simp [Solid, Text.isBlank_eq_false_of_isIdentifierChar (uniform c (by simp))]

theorem readIdentifier_sound {text word rest : List Char} (read : readIdentifier text = .ok (word, rest)) :
    Identifier word ∧ ∃ front, Token word front ∧ text = front ++ rest := by
  unfold readIdentifier at read
  dsimp only at read
  split at read
  · exact nomatch read
  · rename_i nonempty
    obtain ⟨rfl, rfl⟩ := Prod.mk.inj (Except.ok.inj read)
    refine ⟨⟨by simpa using nonempty, fun c member => List.all_eq_true.1 List.all_takeWhile c member⟩, ?_⟩
    exact exists_token_of_skipBlank List.takeWhile_append_dropWhile.symm

theorem readIdentifier_token {word front rest : List Char} (identifier : Identifier word)
    (token : Token word front) (ends : Text.EndsRun Text.isIdentifierChar rest) :
    readIdentifier (front ++ rest) = .ok (word, rest) := by
  have some : word.isEmpty = false := by simpa using identifier.1
  rw [readIdentifier, token.skipBlank identifier.solid]
  simp only [Text.takeWhile_append_of_endsRun identifier.2 ends, Text.dropWhile_append_of_endsRun identifier.2 ends,
    some, Bool.false_eq_true, if_false]

/-! ## Quoted strings -/

theorem eq_append_of_splitQuoted? {text body rest : List Char} (found : splitQuoted? text = some (body, rest)) :
    text = body ++ '"' :: rest := by
  fun_induction splitQuoted? text generalizing body with
  | case1 => exact nomatch found
  | case2 => obtain ⟨rfl, rfl⟩ := Prod.mk.inj (Option.some.inj found); rfl
  | case3 => exact nomatch found
  | case4 c behind ih =>
    obtain ⟨⟨inner, after⟩, deeper, same⟩ := Option.map_eq_some_iff.1 found
    obtain ⟨rfl, rfl⟩ := Prod.mk.inj same
    rw [ih deeper]
    rfl
  | case5 c behind _ _ _ ih =>
    obtain ⟨⟨inner, after⟩, deeper, same⟩ := Option.map_eq_some_iff.1 found
    obtain ⟨rfl, rfl⟩ := Prod.mk.inj same
    rw [ih deeper]
    rfl

theorem splitQuoted?_of_scanned {body : List Char} (scanned : Json.Scanned body) (rest : List Char) :
    splitQuoted? (body ++ '"' :: rest) = some (body, rest) := by
  induction scanned with
  | done => rfl
  | @plain c body notQuote notBackslash _ ih =>
    rw [List.cons_append, splitQuoted?, ih]
    · rfl
    all_goals simp_all
  | @pair c body _ _ ih =>
    rw [List.cons_append, List.cons_append, splitQuoted?, ih]
    rfl

theorem readQuoted_sound {tail content rest : List Char} (read : readQuoted ('"' :: tail) = .ok (content, rest)) :
    ∃ word, Quoted word content ∧ '"' :: tail = word ++ rest := by
  unfold readQuoted at read
  split at read
  · exact nomatch read
  · rename_i body behind found
    dsimp only at read
    split at read
    · rename_i text unquoted
      obtain ⟨rfl, rfl⟩ := Prod.mk.inj (Except.ok.inj read)
      refine ⟨'"' :: (body ++ ['"']), ⟨body, rfl, Json.unquote_eq_ok_iff.1 unquoted⟩, ?_⟩
      have whole : tail = body ++ '"' :: behind := eq_append_of_splitQuoted? found
      simp [whole]
    · exact nomatch read

theorem readQuoted_word {word content : List Char} (quoted : Quoted word content) (rest : List Char) :
    readQuoted (word ++ rest) = .ok (content, rest) := by
  obtain ⟨body, rfl, spelling⟩ := quoted
  have split : splitQuoted? (('"' :: (body ++ ['"']) ++ rest).drop 1) = some (body, rest) := by
    simpa using splitQuoted?_of_scanned spelling.scanned rest
  simp only [readQuoted, split, Json.unquote_eq_ok_iff.2 spelling]

/-! ## Regular expression literals -/

/-- A literal closes at the first slash at which the cursor rests. -/
theorem splitLiteral?_eq_some_iff {cursor : Regex.Cursor} {text body rest : List Char} :
    splitLiteral? cursor text = some (body, rest) ↔
      text = body ++ '/' :: rest ∧ Regex.Unbroken cursor body ∧ (cursor.after body).atRest = true := by
  induction text generalizing cursor body with
  | nil => simp [splitLiteral?]
  | cons c text ih =>
    unfold splitLiteral?
    constructor
    · intro found
      split at found
      · rename_i closing
        obtain ⟨rfl, rfl⟩ := Prod.mk.inj (Option.some.inj found)
        simp only [Bool.and_eq_true, decide_eq_true_eq] at closing
        obtain ⟨rfl, atRest⟩ := closing
        exact ⟨rfl, Regex.unbroken_nil cursor, atRest⟩
      · rename_i inside
        obtain ⟨⟨inner, behind⟩, deeper, same⟩ := Option.map_eq_some_iff.1 found
        obtain ⟨rfl, rfl⟩ := Prod.mk.inj same
        obtain ⟨rfl, unbroken, atRest⟩ := ih.1 deeper
        refine ⟨rfl, (Regex.unbroken_cons_iff ..).2 ⟨?_, unbroken⟩, atRest⟩
        rintro rfl
        simpa using inside
    · rintro ⟨same, unbroken, atRest⟩
      cases body with
      | nil =>
        obtain ⟨rfl, rfl⟩ := List.cons.inj same
        have closing : cursor.atRest = true := atRest
        simp [closing]
      | cons first body =>
        obtain ⟨rfl, rfl⟩ := List.cons.inj same
        obtain ⟨apart, unbroken⟩ := (Regex.unbroken_cons_iff ..).1 unbroken
        -- The body does not close the literal, so its slashes are inside a class or behind a backslash.
        have inside : (decide (c = '/') && cursor.atRest) = false := by
          by_cases slash : c = '/'
          · simp [slash, apart slash]
          · simp [slash]
        rw [inside, ih.2 ⟨rfl, unbroken, atRest⟩]
        rfl

theorem readRegex_sound {tail rest : List Char} {literal : Regex.Literal}
    (read : readRegex ('/' :: tail) = .ok (literal, rest)) :
    ∃ word, LiteralText word literal ∧ '/' :: tail = word ++ rest := by
  unfold readRegex at read
  split at read
  · exact nomatch read
  · rename_i body behind found
    split at read
    · rename_i made
      obtain ⟨rfl, rfl⟩ := Prod.mk.inj (Except.ok.inj read)
      obtain ⟨whole, unbroken, -⟩ := splitLiteral?_eq_some_iff.1 found
      have lower : ∀ c ∈ behind.takeWhile Char.isLower, c.isLower = true :=
        fun c member => List.all_eq_true.1 List.all_takeWhile c member
      refine ⟨_, .delimited unbroken lower made, ?_⟩
      have whole : tail = body ++ '/' :: behind := whole
      rw [whole, List.cons_append, List.append_assoc, List.cons_append, List.takeWhile_append_dropWhile]
    · exact nomatch read

theorem readRegex_word {word rest : List Char} {literal : Regex.Literal} (text : LiteralText word literal)
    (ends : Text.EndsRun Char.isLower rest) : readRegex (word ++ rest) = .ok (literal, rest) := by
  obtain ⟨unbroken, lower, made⟩ := text
  rename_i body flags
  have split : splitLiteral? .start (('/' :: (body ++ '/' :: flags) ++ rest).drop 1) = some (body, flags ++ rest) :=
    splitLiteral?_eq_some_iff.2 ⟨by simp, unbroken, Regex.Literal.atRest_of_make made⟩
  simp only [readRegex, split, Text.takeWhile_append_of_endsRun lower ends,
    Text.dropWhile_append_of_endsRun lower ends, made]

theorem literalText_text (literal : Regex.Literal) : LiteralText literal.text literal :=
  .delimited literal.spelled.unbroken literal.isLower_of_mem_flags literal.make_self

/-! ## What may follow a token -/

/-- A text that no character of a word or a number begins. -/
def EndsToken (rest : List Char) : Prop :=
  ∀ c ∈ rest.head?, Text.isIdentifierChar c = false ∧ isNumeralChar c = false

/-- A character that is a token of its own. -/
def Punctuation (c : Char) : Prop :=
  Text.isBlank c = false ∧ Text.isIdentifierChar c = false ∧ isNumeralChar c = false

instance (c : Char) : Decidable (Punctuation c) := inferInstanceAs (Decidable (_ ∧ _))

theorem Punctuation.solid {c : Char} (punctuation : Punctuation c) : Solid [c] = true := by
  simp [Solid, punctuation.1]

theorem EndsToken.identifier {rest : List Char} (ends : EndsToken rest) :
    Text.EndsRun Text.isIdentifierChar rest := fun c head => (ends c head).1

theorem EndsToken.numeral {rest : List Char} (ends : EndsToken rest) : Text.EndsRun isNumeralChar rest :=
  fun c head => (ends c head).2

theorem EndsToken.lower {rest : List Char} (ends : EndsToken rest) : Text.EndsRun Char.isLower rest := by
  intro c head
  have apart := (ends c head).1
  by_contra lower
  have letter : c.isAlpha = true := Bool.or_eq_true_iff.2 (.inr (by simpa using lower))
  simp [Text.isIdentifierChar, Char.isAlphanum, letter] at apart

theorem Token.endsToken {c : Char} {front : List Char} (token : Token [c] front) (punctuation : Punctuation c)
    (rest : List Char) : EndsToken (front ++ rest) := by
  obtain ⟨blanks, blank, rfl⟩ := token
  rintro first head
  cases blanks with
  | nil =>
    obtain rfl : c = first := by simpa using head
    exact punctuation.2
  | cons space blanks =>
    obtain rfl : space = first := by simpa using head
    have isBlank := blank space (by simp)
    constructor
    · by_contra identifier
      rw [Text.isBlank_eq_false_of_isIdentifierChar (by simpa using identifier)] at isBlank
      exact nomatch isBlank
    · by_contra numeral
      rw [isBlank_eq_false_of_isNumeralChar (by simpa using numeral)] at isBlank
      exact nomatch isBlank

/-! ## Lists -/

section
variable {α : Type} {item : Reader α} {Item : List Char → α → Prop}

theorem readSeparated_sound (sound : Sound item Item) {closing : String} {budget : Nat} {text rest : List Char}
    {items : List α} (read : readSeparated item closing budget text = .ok (items, rest)) :
    ∃ front back, Separated Item front items ∧ Token closing.toList back ∧ text = front ++ (back ++ rest) := by
  induction budget generalizing text items with
  | zero => exact nomatch read
  | succ budget ih =>
    obtain ⟨⟨first, behind⟩, head, following⟩ := bind_eq_ok.1 read
    obtain ⟨front, one, rfl⟩ := sound head
    dsimp only at following
    split at following
    · rename_i afterComma eaten
      obtain ⟨comma, token, rfl⟩ := token_of_eat? eaten
      obtain ⟨⟨others, last⟩, tail, same⟩ := bind_eq_ok.1 following
      obtain ⟨rfl, rfl⟩ := Prod.mk.inj (Except.ok.inj same)
      obtain ⟨more, back, separated, closed, rfl⟩ := ih tail
      exact ⟨front ++ (comma ++ more), back, .more one token separated, closed, by simp⟩
    · obtain ⟨last, closed, same⟩ := bind_eq_ok.1 following
      obtain ⟨rfl, rfl⟩ := Prod.mk.inj (Except.ok.inj same)
      obtain ⟨back, token, rfl⟩ := token_of_expect closed
      exact ⟨front, back, .last one, token, rfl⟩

theorem readSeparated_separated {bound budget : Nat} (complete : Complete item Item bound EndsToken)
    {closing : String} {last : Char} (closes : closing.toList = [last]) (punctuation : Punctuation last)
    (notComma : last ≠ ',') {front back : List Char} {items : List α} (separated : Separated Item front items)
    (token : Token [last] back) (short : front.length < bound) (enough : front.length < budget) (rest : List Char) :
    readSeparated item closing budget (front ++ (back ++ rest)) = .ok (items, rest) := by
  -- On the derivation: each item takes a unit of the budget, and its comma at least one character.
  induction separated generalizing budget with
  | @last text value one =>
    obtain ⟨budget, rfl⟩ := Nat.exists_eq_succ_of_ne_zero (Nat.ne_zero_of_lt enough)
    have head := complete one short (token.endsToken punctuation rest)
    have noComma : eat? [','] (back ++ rest) = none := eat?_eq_none token punctuation.1 notComma ⟨[], rfl⟩ rest
    have closed : expect closing (back ++ rest) = .ok rest :=
      expect_token closes punctuation.solid token rest
    refine bind_eq_ok.2 ⟨_, head, ?_⟩
    simp only [noComma]
    exact bind_eq_ok.2 ⟨_, closed, rfl⟩
  | @more text comma tail value values one comes _ ih =>
    obtain ⟨budget, rfl⟩ := Nat.exists_eq_succ_of_ne_zero (Nat.ne_zero_of_lt enough)
    have nonempty : 1 ≤ comma.length := comes.length_le
    simp only [List.length_append] at short enough
    have head := complete one (by omega) (comes.endsToken (by decide) (tail ++ (back ++ rest)))
    have eaten := eat?_token (by decide) comes (tail ++ (back ++ rest))
    have following : readSeparated item closing budget (tail ++ (back ++ rest)) = .ok (values, rest) :=
      ih (by omega) (by omega)
    rw [List.append_assoc, List.append_assoc]
    refine bind_eq_ok.2 ⟨_, head, ?_⟩
    simp only [eaten]
    exact bind_eq_ok.2 ⟨_, following, rfl⟩

theorem readEnclosed_sound (sound : Sound item Item) {opening closing : String} {first last : Char}
    (opens : opening.toList = [first]) (closes : closing.toList = [last]) {budget : Nat} :
    Sound (readEnclosed item opening closing budget) (Enclosed Item first last) := by
  intro text rest items read
  obtain ⟨inside, opened, following⟩ := bind_eq_ok.1 read
  obtain ⟨front, token, rfl⟩ := token_of_expect opened
  rw [opens] at token
  split at following
  · rename_i behind eaten
    obtain ⟨rfl, rfl⟩ := Prod.mk.inj (Except.ok.inj following)
    obtain ⟨back, closed, rfl⟩ := token_of_eat? eaten
    rw [closes] at closed
    exact ⟨front ++ back, .empty ⟨front, back, token, ⟨back, [], closed, rfl, by simp⟩, rfl⟩, by simp⟩
  · obtain ⟨middle, back, separated, closed, rfl⟩ := readSeparated_sound sound following
    rw [closes] at closed
    exact ⟨front ++ (middle ++ back), .items token separated closed, by simp⟩

theorem readEnclosed_complete {bound budget : Nat} (complete : Complete item Item bound EndsToken)
    (enough : bound ≤ budget) {opening closing : String} {first last : Char} (opens : opening.toList = [first])
    (closes : closing.toList = [last]) (opener : Punctuation first) (closer : Punctuation last)
    (notComma : last ≠ ',')
    (begins : ∀ {text : List Char} {value : α}, Item text value → ∀ rest, eat? [last] (text ++ rest) = none) :
    Complete (readEnclosed item opening closing budget) (Enclosed Item first last) (bound + 1) fun _ => True := by
  intro front rest items enclosed short _
  cases enclosed with
  | empty tokens =>
    obtain ⟨front, _, opened, ⟨back, _, closed, rfl, rfl⟩, rfl⟩ := tokens
    rw [List.append_nil, List.append_assoc]
    refine bind_eq_ok.2 ⟨_, expect_token opens opener.solid opened (back ++ rest), ?_⟩
    simp only [closes, eat?_token closer.solid closed]
    rfl
  | @items front text back values opened separated closed =>
    have first := opened.length_le
    have last := closed.length_le
    simp only [List.length_append, List.length_singleton] at short first last
    have read : readSeparated item closing budget (text ++ (back ++ rest)) = .ok (items, rest) :=
      readSeparated_separated complete closes closer notComma separated closed (by omega) (by omega) rest
    rw [List.append_assoc, List.append_assoc]
    refine bind_eq_ok.2 ⟨_, expect_token opens opener.solid opened _, ?_⟩
    have notClosed : eat? closing.toList (text ++ (back ++ rest)) = none := by
      rw [closes]
      cases separated with
      | last one => exact begins one _
      | more one _ _ =>
        rw [List.append_assoc]
        exact begins one _
    simp only [notClosed]
    exact read

end

end SchemaExport.Expression
