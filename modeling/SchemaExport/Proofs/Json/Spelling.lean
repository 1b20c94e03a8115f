import Mathlib.Data.List.TakeWhile
import SchemaExport.Expression.Reader
import SchemaExport.Proofs.Text

/-! The grammar of quoted strings, apart from the loop that reads them.

A body stands between two quotes. It is a row of plain characters and escapes, and spells one
content. Reading accepts exactly the bodies of the grammar; writing produces one of them.
-/

set_option autoImplicit false

namespace SchemaExport

namespace Json

def FourHex (digits : List Char) (value : Nat) : Prop :=
  digits.length = 4 ∧ hexValues? digits = some value

/-- Escapes of two characters: the one behind the backslash, and what it stands for. -/
def shortEscapes : List (Char × Char) :=
  [('"', '"'), ('\\', '\\'), ('/', '/'), ('b', '\x08'), ('f', '\x0c'), ('n', '\n'), ('r', '\r'), ('t', '\t')]

/-- What may follow a backslash, and the character it stands for. -/
inductive Escape : List Char → Char → Prop where
  | short {mark c : Char} : (mark, c) ∈ shortEscapes → Escape [mark] c
  | code {digits : List Char} {value : Nat} : FourHex digits value →
      isTrailingSurrogate value = false → isLeadingSurrogate value = false →
      Escape ('u' :: digits) (Char.ofNat value)
  | pair {first second : List Char} {leading trailing : Nat} : FourHex first leading →
      isTrailingSurrogate leading = false → isLeadingSurrogate leading = true →
      FourHex second trailing → isTrailingSurrogate trailing = true →
      Escape ('u' :: (first ++ '\\' :: 'u' :: second))
        (Char.ofNat (0x10000 + (leading - 0xD800) * 0x400 + (trailing - 0xDC00)))

/-- The body of a quoted string, and its content. -/
inductive Spelling : List Char → List Char → Prop where
  | done : Spelling [] []
  | plain {c : Char} {body content : List Char} : c ≠ '"' → c ≠ '\\' → 32 ≤ c.toNat →
      Spelling body content → Spelling (c :: body) (c :: content)
  | escape {mark : List Char} {c : Char} {body content : List Char} : Escape mark c →
      Spelling body content → Spelling ('\\' :: (mark ++ body)) (c :: content)

/-! ## Hexadecimal digits -/

theorem hexValue?_isSome_of_foldl {digits : List Char} {start? : Option Nat} {value : Nat}
    (read : digits.foldl (fun value? c => do pure ((← value?) * 16 + (← hexValue? c))) start? = some value) :
    start?.isSome ∧ ∀ c ∈ digits, (hexValue? c).isSome := by
  induction digits generalizing start? with
  | nil => exact ⟨by simp_all, by simp⟩
  | cons c digits ih =>
    -- A digit without a value makes everything behind it fail, so the last result tells of all.
    obtain ⟨head, tail⟩ := ih read
    cases start? with
    | none => simp at head
    | some start =>
      refine ⟨rfl, fun digit member => ?_⟩
      cases found : hexValue? c with
      | none => simp [found] at head
      | some _ =>
        rcases List.mem_cons.1 member with rfl | member
        · simp [found]
        · exact tail digit member

theorem FourHex.plain {digits : List Char} {value : Nat} (hex : FourHex digits value) :
    ∀ c ∈ digits, c ≠ '"' ∧ c ≠ '\\' := by
  intro c member
  have isHex := (hexValue?_isSome_of_foldl hex.2).2 c member
  constructor <;> rintro rfl <;> revert isHex <;> decide

theorem readFourHex_eq_ok_iff {text rest : List Char} {value : Nat} :
    readFourHex text = .ok (value, rest) ↔ ∃ digits, text = digits ++ rest ∧ FourHex digits value := by
  constructor
  · intro read
    unfold readFourHex at read
    split at read
    · rename_i found long
      obtain ⟨rfl, rfl⟩ := Prod.mk.inj (Except.ok.inj read)
      have long := of_decide_eq_true long
      exact ⟨text.take 4, (List.take_append_drop 4 text).symm, by simp [long], found⟩
    · split at read <;> exact nomatch read
  · rintro ⟨digits, rfl, long, found⟩
    have taken : (digits ++ rest).take 4 = digits := by rw [← long, List.take_left]
    have dropped : (digits ++ rest).drop 4 = rest := by rw [← long, List.drop_left]
    have enough : decide (4 ≤ (digits ++ rest).length) = true := by simp [long]
    simp only [readFourHex, taken, dropped, found, enough]

/-! ## Reading an escape -/

theorem readTrailingSurrogate_eq_ok_iff {text rest : List Char} {value : Nat} :
    readTrailingSurrogate text = .ok (value, rest) ↔
      ∃ digits, text = '\\' :: 'u' :: (digits ++ rest) ∧ FourHex digits value ∧
        isTrailingSurrogate value = true := by
  constructor
  · intro read
    unfold readTrailingSurrogate at read
    split at read
    case h_3 behind =>
      obtain ⟨⟨found, after⟩, hex, checked⟩ := bind_eq_ok.1 read
      obtain ⟨digits, rfl, four⟩ := readFourHex_eq_ok_iff.1 hex
      dsimp only at checked
      split at checked
      · rename_i trailing
        obtain ⟨rfl, rfl⟩ := Prod.mk.inj (Except.ok.inj checked)
        exact ⟨digits, rfl, four, trailing⟩
      · exact nomatch checked
    all_goals exact nomatch read
  · rintro ⟨digits, rfl, four, trailing⟩
    refine bind_eq_ok.2 ⟨(value, rest), readFourHex_eq_ok_iff.2 ⟨digits, rfl, four⟩, ?_⟩
    simp only [trailing, if_true]
    rfl

theorem readCodePoint_eq_ok_iff {text rest : List Char} {c : Char} :
    readCodePoint text = .ok (c, rest) ↔ ∃ mark, text = mark ++ rest ∧ Escape ('u' :: mark) c := by
  constructor
  · intro read
    obtain ⟨⟨value, after⟩, hex, checked⟩ := bind_eq_ok.1 read
    obtain ⟨digits, rfl, four⟩ := readFourHex_eq_ok_iff.1 hex
    dsimp only at checked
    split at checked
    · exact nomatch checked
    · rename_i notTrailing
      split at checked
      · rename_i leading
        -- A leading surrogate is half a character, and the other half has to follow at once.
        obtain ⟨⟨low, behind⟩, trailing, same⟩ := bind_eq_ok.1 checked
        obtain ⟨rfl, rfl⟩ := Prod.mk.inj (Except.ok.inj same)
        obtain ⟨second, rfl, fourMore, isTrailing⟩ := readTrailingSurrogate_eq_ok_iff.1 trailing
        exact ⟨digits ++ '\\' :: 'u' :: second, by simp,
          .pair four (by simpa using notTrailing) leading fourMore isTrailing⟩
      · rename_i notLeading
        obtain ⟨rfl, rfl⟩ := Prod.mk.inj (Except.ok.inj checked)
        exact ⟨digits, rfl, .code four (by simpa using notTrailing) (by simpa using notLeading)⟩
  · rintro ⟨mark, rfl, escape⟩
    cases escape with
    | short known => simp [shortEscapes] at known
    | code four notTrailing notLeading =>
      refine bind_eq_ok.2 ⟨_, readFourHex_eq_ok_iff.2 ⟨_, rfl, four⟩, ?_⟩
      simp only [notTrailing, notLeading, Bool.false_eq_true, if_false]
      rfl
    | @pair first second leading trailing four notTrailing isLeading fourMore isTrailing =>
      refine bind_eq_ok.2 ⟨(leading, '\\' :: 'u' :: (second ++ rest)),
        readFourHex_eq_ok_iff.2 ⟨first, by simp, four⟩, ?_⟩
      simp only [notTrailing, isLeading, Bool.false_eq_true, if_false, if_true]
      exact bind_eq_ok.2 ⟨(trailing, rest),
        readTrailingSurrogate_eq_ok_iff.2 ⟨second, rfl, fourMore, isTrailing⟩, rfl⟩

theorem readEscape_eq_ok_iff {text rest : List Char} {c : Char} :
    readEscape text = .ok (c, rest) ↔ ∃ mark, text = mark ++ rest ∧ Escape mark c := by
  constructor
  · intro read
    unfold readEscape at read
    split at read
    -- Only a `u` reads on behind its mark.
    case h_10 behind =>
      obtain ⟨mark, rfl, escape⟩ := readCodePoint_eq_ok_iff.1 read
      exact ⟨'u' :: mark, rfl, escape⟩
    case h_1 => exact nomatch read
    case h_11 => exact nomatch read
    all_goals
      obtain ⟨rfl, rfl⟩ := Prod.mk.inj (Except.ok.inj read)
      exact ⟨[_], rfl, .short (by decide)⟩
  · rintro ⟨mark, rfl, escape⟩
    cases escape with
    | short known =>
      simp only [shortEscapes, List.mem_cons, Prod.mk.injEq, List.not_mem_nil, or_false] at known
      rcases known with ⟨rfl, rfl⟩ | ⟨rfl, rfl⟩ | ⟨rfl, rfl⟩ | ⟨rfl, rfl⟩ | ⟨rfl, rfl⟩ | ⟨rfl, rfl⟩ |
        ⟨rfl, rfl⟩ | ⟨rfl, rfl⟩ <;> rfl
    | code four notTrailing notLeading =>
      exact readCodePoint_eq_ok_iff.2 ⟨_, rfl, .code four notTrailing notLeading⟩
    | pair four notTrailing isLeading fourMore isTrailing =>
      exact readCodePoint_eq_ok_iff.2 ⟨_, rfl, .pair four notTrailing isLeading fourMore isTrailing⟩

/-! ## Reading a string -/

theorem spelling_of_readCharacters {budget : Nat} {text content rest : List Char}
    (read : readCharacters budget text = .ok (content, rest)) :
    ∃ body, text = body ++ '"' :: rest ∧ Spelling body content := by
  fun_induction readCharacters budget text generalizing content rest with
  | case1 => exact nomatch read
  | case2 => exact nomatch read
  | case3 =>
    obtain ⟨rfl, rfl⟩ := Prod.mk.inj (Except.ok.inj read)
    exact ⟨[], rfl, .done⟩
  | case4 budget behind ih =>
    obtain ⟨⟨c, after⟩, escaped, following⟩ := bind_eq_ok.1 read
    obtain ⟨⟨more, last⟩, tail, same⟩ := bind_eq_ok.1 following
    obtain ⟨rfl, rfl⟩ := Prod.mk.inj (Except.ok.inj same)
    obtain ⟨mark, rfl, escape⟩ := readEscape_eq_ok_iff.1 escaped
    obtain ⟨body, rfl, spelling⟩ := ih after tail
    exact ⟨'\\' :: (mark ++ body), by simp, .escape escape spelling⟩
  | case5 => exact nomatch read
  | case6 budget c tail notQuote notBackslash visible ih =>
    obtain ⟨⟨more, last⟩, following, same⟩ := bind_eq_ok.1 read
    obtain ⟨rfl, rfl⟩ := Prod.mk.inj (Except.ok.inj same)
    obtain ⟨body, rfl, spelling⟩ := ih following
    exact ⟨c :: body, rfl, .plain (fun same => notQuote same) (fun same => notBackslash same) (by omega) spelling⟩

theorem readCharacters_of_spelling {body content : List Char} (spelling : Spelling body content)
    {budget : Nat} (enough : body.length < budget) (rest : List Char) :
    readCharacters budget (body ++ '"' :: rest) = .ok (content, rest) := by
  -- Each piece of the spelling takes one step of the budget, which the length of the body covers.
  induction spelling generalizing budget with
  | done => obtain ⟨budget, rfl⟩ := Nat.exists_eq_succ_of_ne_zero (Nat.ne_of_gt enough); rfl
  | @plain c body content notQuote notBackslash visible _ ih =>
    obtain ⟨budget, rfl⟩ := Nat.exists_eq_succ_of_ne_zero (Nat.ne_of_gt (Nat.lt_of_le_of_lt (Nat.zero_le _) enough))
    have following : readCharacters budget (body ++ '"' :: rest) = .ok (content, rest) :=
      ih (by simp only [List.length_cons] at enough; omega)
    rw [List.cons_append, readCharacters, if_neg (by omega), following]
    · rfl
    · exact notQuote
    · exact notBackslash
  | @escape mark c body content escape _ ih =>
    obtain ⟨budget, rfl⟩ := Nat.exists_eq_succ_of_ne_zero (Nat.ne_of_gt (Nat.lt_of_le_of_lt (Nat.zero_le _) enough))
    have following : readCharacters budget (body ++ '"' :: rest) = .ok (content, rest) :=
      ih (by simp only [List.length_cons, List.length_append] at enough; omega)
    have escaped : readEscape (mark ++ (body ++ '"' :: rest)) = .ok (c, body ++ '"' :: rest) :=
      readEscape_eq_ok_iff.2 ⟨mark, rfl, escape⟩
    rw [List.cons_append, List.append_assoc, readCharacters, escaped]
    exact bind_eq_ok.2 ⟨_, rfl, bind_eq_ok.2 ⟨_, following, rfl⟩⟩

theorem unquote_eq_ok_iff {body content : List Char} :
    unquote ('"' :: (body ++ ['"'])) = .ok content ↔ Spelling body content := by
  constructor
  · intro read
    obtain ⟨⟨text, rest⟩, string, checked⟩ := bind_eq_ok.1 read
    obtain ⟨inner, same, spelling⟩ := spelling_of_readCharacters string
    dsimp only at checked
    split at checked
    · rename_i trailing
      obtain rfl := Except.ok.inj checked
      -- The text ends in a quote, so no white space can stand behind the closing one.
      rcases List.eq_nil_or_concat rest with rfl | ⟨front, last, rfl⟩
      · obtain ⟨rfl, -⟩ := List.append_inj' same rfl
        exact spelling
      · have closing : body ++ ['"'] = (inner ++ '"' :: front) ++ [last] := by simpa using same
        obtain ⟨-, ends⟩ := List.append_inj' closing rfl
        have blank := List.dropWhile_eq_nil_iff.1 (List.isEmpty_iff.1 trailing) last (by simp)
        rw [← List.cons.inj ends |>.1] at blank
        exact absurd blank (by decide)
    · exact nomatch checked
  · intro spelling
    refine bind_eq_ok.2 ⟨(content, []), readCharacters_of_spelling spelling ?_ [], rfl⟩
    simp only [List.length_append, List.length_singleton]
    omega

/-! ## Looking for the closing quote -/

/-- A text that a search for a closing quote passes over. A backslash takes a character along. -/
inductive Scanned : List Char → Prop where
  | done : Scanned []
  | plain {c : Char} {body : List Char} : c ≠ '"' → c ≠ '\\' → Scanned body → Scanned (c :: body)
  | pair {c : Char} {body : List Char} : c ≠ '\n' → Scanned body → Scanned ('\\' :: c :: body)

theorem Scanned.append_plain {front body : List Char} (plain : ∀ c ∈ front, c ≠ '"' ∧ c ≠ '\\')
    (scanned : Scanned body) : Scanned (front ++ body) := by
  induction front with
  | nil => exact scanned
  | cons c front ih =>
    obtain ⟨notQuote, notBackslash⟩ := plain c (by simp)
    exact .plain notQuote notBackslash (ih fun c member => plain c (by simp [member]))

theorem Escape.scanned {mark body : List Char} {c : Char} (escape : Escape mark c) (scanned : Scanned body) :
    Scanned ('\\' :: (mark ++ body)) := by
  have short : ∀ mark ∈ shortEscapes, mark.1 ≠ '\n' := by decide
  cases escape with
  | short known => exact .pair (short _ known) scanned
  | code four => exact .pair (by decide) (.append_plain four.plain scanned)
  | pair first _ _ second =>
    rw [List.cons_append, List.append_assoc]
    exact .pair (by decide) (.append_plain first.plain (.pair (by decide) (.append_plain second.plain scanned)))

theorem Spelling.scanned {body content : List Char} (spelling : Spelling body content) : Scanned body := by
  induction spelling with
  | done => exact .done
  | plain notQuote notBackslash _ _ ih => exact .plain notQuote notBackslash ih
  | escape escape _ ih => exact escape.scanned ih

/-! ## Writing a string -/

theorem hexValue?_hexDigit : ∀ value, value < 16 → hexValue? (hexDigit value) = some value := by decide

theorem fourHex_control {value : Nat} (control : value < 32) :
    FourHex ['0', '0', hexDigit (value / 16), hexDigit (value % 16)] value := by
  have high := hexValue?_hexDigit (value / 16) (by omega)
  have low := hexValue?_hexDigit (value % 16) (by omega)
  have zero : hexValue? '0' = some 0 := rfl
  refine ⟨rfl, ?_⟩
  simp only [hexValues?, List.foldl_cons, List.foldl_nil, zero, high, low]
  exact congrArg some (by omega)

theorem escapeChar_of_plain {c : Char} (notQuote : c ≠ '"') (notBackslash : c ≠ '\\')
    (visible : 32 ≤ c.toNat) : escapeChar c = [c] := by
  have notControl {control : Char} (low : control.toNat < 32) : c ≠ control := by
    rintro rfl
    omega
  rw [escapeChar, if_neg notQuote, if_neg notBackslash, if_neg (notControl (by decide)),
    if_neg (notControl (by decide)), if_neg (notControl (by decide)), if_neg (by omega),
    if_neg (by omega), if_neg (by omega)]

theorem escapeChar_of_control : ∀ value, value < 32 →
    escapeChar (Char.ofNat value) = ['\\', 'u', '0', '0', hexDigit (value / 16), hexDigit (value % 16)] ∨
      ∃ escape ∈ shortEscapes, escapeChar (Char.ofNat value) = ['\\', escape.1] ∧ escape.2 = Char.ofNat value := by
  decide

/-- A character is written as itself or as one escape. -/
theorem escapeChar_cases (c : Char) :
    (escapeChar c = [c] ∧ c ≠ '"' ∧ c ≠ '\\' ∧ 32 ≤ c.toNat) ∨
      ∃ mark, escapeChar c = '\\' :: mark ∧ Escape mark c := by
  by_cases visible : 32 ≤ c.toNat
  · by_cases quote : c = '"'
    · subst quote; exact .inr ⟨['"'], rfl, .short (by decide)⟩
    by_cases backslash : c = '\\'
    · subst backslash; exact .inr ⟨['\\'], rfl, .short (by decide)⟩
    exact .inl ⟨escapeChar_of_plain quote backslash visible, quote, backslash, visible⟩
  · right
    have same : Char.ofNat c.toNat = c := Char.ofNat_toNat c
    rcases escapeChar_of_control c.toNat (by omega) with coded | ⟨⟨mark, meant⟩, member, short, means⟩
    · have control : c.toNat < 32 := by omega
      have escape := Escape.code (fourHex_control control)
        (by simp [isTrailingSurrogate]; omega) (by simp [isLeadingSurrogate]; omega)
      rw [same] at coded escape
      exact ⟨_, coded, escape⟩
    · rw [same] at short means
      exact ⟨[mark], short, .short (means ▸ member)⟩

theorem spelling_escape (text : List Char) : Spelling (escape text) text := by
  induction text with
  | nil => exact .done
  | cons c text ih =>
    rw [escape, List.flatMap_cons]
    rcases escapeChar_cases c with ⟨same, notQuote, notBackslash, visible⟩ | ⟨mark, same, escape⟩
    · rw [same]
      exact .plain notQuote notBackslash visible ih
    · rw [same]
      exact .escape escape ih

@[simp] theorem unquote_quote (text : List Char) : unquote (quote text) = .ok text :=
  unquote_eq_ok_iff.2 (spelling_escape text)

theorem visible_of_mem_escapeChar {c written : Char} (member : written ∈ escapeChar c) :
    32 ≤ written.toNat := by
  have marked : ∀ written ∈ escapeChar '"' ++ escapeChar '\\', 32 ≤ written.toNat :=
    forall_mem_of_all (by decide)
  by_cases visible : 32 ≤ c.toNat
  · by_cases quote : c = '"'
    · subst quote; exact marked written (List.mem_append_left _ member)
    by_cases backslash : c = '\\'
    · subst backslash; exact marked written (List.mem_append_right _ member)
    rw [escapeChar_of_plain quote backslash visible, List.mem_singleton] at member
    exact member ▸ visible
  · have control : ∀ value, value < 32 →
        (escapeChar (Char.ofNat value)).all (fun written => decide (32 ≤ written.toNat)) = true := by decide
    exact forall_mem_of_all (control c.toNat (by omega)) written (by rwa [Char.ofNat_toNat])

theorem newline_not_mem_quote (text : List Char) : '\n' ∉ quote text := by
  intro member
  simp only [quote, List.mem_cons, List.mem_append, escape, List.mem_flatMap] at member
  rcases member with impossible | ⟨c, -, member⟩ | impossible
  · exact absurd impossible (by decide)
  · exact absurd (visible_of_mem_escapeChar member) (by decide)
  · exact absurd impossible (by decide)

end Json
end SchemaExport
