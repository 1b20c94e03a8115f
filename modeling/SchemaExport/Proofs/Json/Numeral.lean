import Mathlib.Data.List.TakeWhile
import SchemaExport.Expression.Reader
import SchemaExport.Proofs.Text

/-! Numbers in generated text.

The text of a number and whatever is read as a number stay within one set of characters, so a
number ends where that set is left. Integers of 64 bits are read back from their text.
-/

set_option autoImplicit false

namespace SchemaExport

open Expression (isNumeralChar)

theorem isNumeralChar_of_isDigit {c : Char} (digit : c.isDigit = true) : isNumeralChar c = true := by
  simp [isNumeralChar, digit]

/-! ## The text of a number -/

namespace Decimal

theorem isDigit_of_mem_naturalText {n : Nat} {c : Char} (member : c ∈ naturalText n) : c.isDigit = true :=
  Nat.isDigit_of_mem_toDigits (by decide) (by decide) member

theorem isNumeralChar_of_mem_naturalText {n : Nat} {c : Char} (member : c ∈ naturalText n) :
    isNumeralChar c = true := isNumeralChar_of_isDigit (isDigit_of_mem_naturalText member)

theorem isNumeralChar_of_mem_integerText {value : Int} {c : Char} (member : c ∈ integerText value) :
    isNumeralChar c = true := by
  cases value with
  | ofNat n => exact isNumeralChar_of_mem_naturalText member
  | negSucc n =>
    rcases List.mem_cons.1 member with rfl | member
    · rfl
    · exact isNumeralChar_of_mem_naturalText member

theorem isNumeralChar_of_mem_positional {digits : List Char} (uniform : ∀ c ∈ digits, isNumeralChar c = true)
    (leading : Int) : ∀ c ∈ positional digits leading, isNumeralChar c = true := by
  have zeros {count : Nat} : ∀ c ∈ List.replicate count '0', isNumeralChar c = true := by
    intro c member
    rw [(List.mem_replicate.1 member).2]
    rfl
  have point : isNumeralChar '.' = true := rfl
  have zero : isNumeralChar '0' = true := rfl
  intro c
  unfold positional
  dsimp only
  -- The three layouts: all digits behind the point, all in front of it, or the point among them.
  split
  · simp only [List.mem_cons, List.mem_append]
    rintro (rfl | rfl | member | member)
    · exact zero
    · exact point
    · exact zeros c member
    · exact uniform c member
  · split
    · simp only [List.mem_append, List.mem_cons, List.not_mem_nil, or_false]
      rintro ((member | member) | rfl | rfl)
      · exact uniform c member
      · exact zeros c member
      · exact point
      · exact zero
    · simp only [List.mem_append, List.mem_cons]
      rintro (member | rfl | member)
      · exact uniform c (List.mem_of_mem_take member)
      · exact point
      · exact uniform c (List.mem_of_mem_drop member)

theorem isNumeralChar_of_mem_scientific {digits : List Char} (uniform : ∀ c ∈ digits, isNumeralChar c = true)
    (leading : Int) : ∀ c ∈ scientific digits leading, isNumeralChar c = true := by
  have exponent : ∀ c ∈ 'e' :: (if leading < 0 then '-' else '+') :: naturalText leading.natAbs,
      isNumeralChar c = true := by
    simp only [List.mem_cons]
    rintro c (rfl | rfl | member)
    · rfl
    · split <;> rfl
    · exact isNumeralChar_of_mem_naturalText member
  intro c
  unfold scientific
  dsimp only
  split
  · exact exponent c
  · rename_i digit
    intro member
    rcases List.mem_cons.1 member with rfl | member
    · exact uniform c (by simp)
    · exact exponent c member
  · rename_i digit fraction _
    rw [List.mem_cons, List.mem_cons, List.mem_append]
    rintro (rfl | rfl | member | member)
    · exact uniform c (by simp)
    · rfl
    · exact uniform c (List.mem_cons_of_mem _ member)
    · exact exponent c member

end Decimal

theorem Number.isNumeralChar_of_mem_text {value : Number} {c : Char} (member : c ∈ value.text) :
    isNumeralChar c = true := by
  cases value with
  | integer value => exact Decimal.isNumeralChar_of_mem_integerText member
  | double value =>
    have digits : ∀ c ∈ Decimal.naturalText value.shortest.digits, isNumeralChar c = true :=
      fun _ => Decimal.isNumeralChar_of_mem_naturalText
    simp only [text, Decimal.Double.text] at member
    split at member
    · rcases List.mem_cons.1 member with rfl | member
      · rfl
      split at member
      · exact Decimal.isNumeralChar_of_mem_positional digits _ c member
      · exact Decimal.isNumeralChar_of_mem_scientific digits _ c member
    · split at member
      · exact Decimal.isNumeralChar_of_mem_positional digits _ c member
      · exact Decimal.isNumeralChar_of_mem_scientific digits _ c member

namespace Json

/-! ## What is read as a number -/

/-- A remainder of a text behind characters of numerals. -/
def Consumes (text rest : List Char) : Prop := ∃ run, text = run ++ rest ∧ ∀ c ∈ run, isNumeralChar c = true

namespace Consumes

theorem refl (text : List Char) : Consumes text text := ⟨[], rfl, by simp⟩

theorem trans {text middle rest : List Char} (first : Consumes text middle) (second : Consumes middle rest) :
    Consumes text rest := by
  obtain ⟨run, rfl, uniform⟩ := first
  obtain ⟨more, rfl, uniformMore⟩ := second
  refine ⟨run ++ more, by simp, fun c member => ?_⟩
  rcases List.mem_append.1 member with member | member
  · exact uniform c member
  · exact uniformMore c member

theorem cons {c : Char} {text rest : List Char} (numeral : isNumeralChar c = true) (tail : Consumes text rest) :
    Consumes (c :: text) rest := trans ⟨[c], rfl, by simpa using numeral⟩ tail

theorem dropDigits (text : List Char) : Consumes text (text.dropWhile Char.isDigit) :=
  ⟨text.takeWhile Char.isDigit, List.takeWhile_append_dropWhile.symm,
    fun _ member => isNumeralChar_of_isDigit (List.all_eq_true.1 List.all_takeWhile _ member)⟩

end Consumes

theorem consumes_absorb (significand : Nat) (text : List Char) : Consumes text (absorb significand text).2 := by
  induction text generalizing significand with
  | nil => exact .refl _
  | cons c rest ih =>
    unfold absorb
    split
    · rename_i fits
      rw [Bool.and_eq_true] at fits
      exact .cons (isNumeralChar_of_isDigit fits.1) (ih _)
    · exact .refl _

theorem consumes_of_finish {negative : Bool} {significand : Nat} {exponent : Int} {text rest : List Char}
    {value : Number} (read : finish negative significand exponent text = .ok (value, rest)) :
    Consumes text rest := by
  unfold finish at read
  generalize toDouble? negative significand exponent = rounded at read
  cases rounded with
  | none => exact nomatch read
  | some double =>
    obtain ⟨-, rfl⟩ := Prod.mk.inj (Except.ok.inj read)
    exact .refl _

theorem consumes_readExponentDigits (value : Nat) (text : List Char) :
    Consumes text (readExponentDigits value text).2 := by
  induction text generalizing value with
  | nil => exact .refl _
  | cons c rest ih =>
    unfold readExponentDigits
    split
    · rename_i digit
      split
      · exact .cons (isNumeralChar_of_isDigit digit) (ih _)
      · exact .cons (isNumeralChar_of_isDigit digit) (.refl _)
    · exact .refl _

section
variable {negative : Bool} {significand : Nat} {text rest : List Char} {value : Number}

theorem consumes_of_readExponent {exponent : Int}
    (read : readExponent negative significand exponent text = .ok (value, rest)) : Consumes text rest := by
  unfold readExponent at read
  split at read
  rename_i down behind signed
  have front : Consumes text behind := by
    split at signed <;> obtain ⟨-, rfl⟩ := Prod.mk.inj signed
    · exact .cons rfl (.refl _)
    · exact .cons rfl (.refl _)
    · exact .refl _
  refine front.trans ?_
  -- Behind the sign the text is another one, and nothing of the sign is needed there.
  clear signed front
  split at read
  · exact nomatch read
  · rename_i c after
    split at read
    · rename_i digit
      refine .cons (isNumeralChar_of_isDigit digit) ?_
      have digits := consumes_readExponentDigits (digitValue c) after
      split at read
      · rename_i exponentRead
        rw [exponentRead] at digits
        exact digits.trans (consumes_of_finish read)
      · rename_i exponentRead
        rw [exponentRead] at digits
        split at read
        · exact nomatch read
        · obtain ⟨-, rfl⟩ := Prod.mk.inj (Except.ok.inj read)
          exact digits.trans (.dropDigits _)
    · exact nomatch read

theorem consumes_of_readMagnitude {exponent : Int}
    (read : readMagnitude negative significand exponent text = .ok (value, rest)) : Consumes text rest := by
  unfold readMagnitude at read
  split at read
  · exact .cons rfl (consumes_of_readExponent read)
  · exact .cons rfl (consumes_of_readExponent read)
  · exact consumes_of_finish read

theorem consumes_of_readFraction {exponent : Int}
    (read : readFraction negative significand exponent text = .ok (value, rest)) : Consumes text rest := by
  unfold readFraction at read
  split at read
  · exact nomatch read
  · split at read
    · exact (consumes_absorb significand _).trans ((Consumes.dropDigits _).trans (consumes_of_readMagnitude read))
    · exact nomatch read

theorem consumes_of_wholeNumber (read : wholeNumber negative significand text = .ok (value, rest)) :
    Consumes text rest := by
  unfold wholeNumber at read
  split at read
  · obtain ⟨-, rfl⟩ := Prod.mk.inj (Except.ok.inj read)
    exact .refl _
  · split at read
    · exact consumes_of_finish read
    · obtain ⟨-, rfl⟩ := Prod.mk.inj (Except.ok.inj read)
      exact .refl _

theorem consumes_of_readTail {dropped : Nat}
    (read : readTail negative significand dropped text = .ok (value, rest)) : Consumes text rest := by
  unfold readTail at read
  split at read
  · exact .cons rfl (consumes_of_readFraction read)
  · exact .cons rfl (consumes_of_readExponent read)
  · exact .cons rfl (consumes_of_readExponent read)
  · split at read
    · exact consumes_of_wholeNumber read
    · exact consumes_of_finish read

/-- A number without its sign begins with a digit. -/
theorem consumes_of_readUnsigned (read : readUnsigned negative text = .ok (value, rest)) :
    (∃ c behind, text = c :: behind ∧ c.isDigit = true) ∧ Consumes text rest := by
  unfold readUnsigned at read
  split at read
  · exact nomatch read
  · rename_i after
    refine ⟨⟨'0', after, rfl, rfl⟩, .cons rfl ?_⟩
    split at read
    · split at read
      · exact nomatch read
      · exact consumes_of_readTail read
    · exact consumes_of_readTail read
  · rename_i c behind _
    split at read
    · rename_i digit
      exact ⟨⟨c, behind, rfl, digit⟩,
        (consumes_absorb 0 _).trans ((Consumes.dropDigits _).trans (consumes_of_readTail read))⟩
    · exact nomatch read

theorem consumes_of_readNumber (read : readNumber text = .ok (value, rest)) :
    (∃ c behind, text = c :: behind ∧ (c = '-' ∨ c.isDigit = true)) ∧ Consumes text rest := by
  unfold readNumber at read
  split at read
  · exact ⟨⟨'-', _, rfl, .inl rfl⟩, .cons rfl (consumes_of_readUnsigned read).2⟩
  · obtain ⟨⟨c, behind, rfl, digit⟩, consumes⟩ := consumes_of_readUnsigned read
    exact ⟨⟨c, behind, rfl, .inr digit⟩, consumes⟩

end

/-! ## Integers are read back -/

theorem le_ofDigitChars (digits : List Char) (start : Nat) : start ≤ Nat.ofDigitChars 10 digits start := by
  rw [Nat.ofDigitChars_eq_ofDigitChars_zero]
  have scaled : start ≤ 10 ^ digits.length * start := Nat.le_mul_of_pos_left start (Nat.pow_pos (by decide))
  omega

theorem absorb_append {digits rest : List Char} (uniform : ∀ c ∈ digits, c.isDigit = true)
    (ends : Text.EndsRun Char.isDigit rest) {start : Nat}
    (fits : Nat.ofDigitChars 10 digits start < significandLimit) :
    absorb start (digits ++ rest) = (Nat.ofDigitChars 10 digits start, rest) := by
  induction digits generalizing start with
  | nil =>
    cases rest with
    | nil => simp [absorb]
    | cons c rest => simp [absorb, ends c rfl]
  | cons c digits ih =>
    have step : Nat.ofDigitChars 10 (c :: digits) start =
        Nat.ofDigitChars 10 digits (start * 10 + digitValue c) := by
      rw [Nat.ofDigitChars_cons, Nat.mul_comm]
      rfl
    rw [step] at fits ⊢
    -- The value never falls as digits are added, so that it is in range at each of them.
    have below := Nat.lt_of_le_of_lt (le_ofDigitChars digits _) fits
    rw [List.cons_append, absorb, if_pos (by simp [uniform c, below]),
      ih (fun c member => uniform c (by simp [member])) fits]

theorem naturalText_head_ne_zero {n : Nat} (positive : 0 < n) :
    ∃ c rest, Decimal.naturalText n = c :: rest ∧ c ≠ '0' := by
  induction n using Nat.strongRecOn with
  | _ n ih =>
    by_cases single : n < 10
    · have nonzero : ∀ digit, digit < 10 → 0 < digit → digit.digitChar ≠ '0' := by decide
      exact ⟨n.digitChar, [], Nat.toDigits_of_lt_base single, nonzero n single positive⟩
    · obtain ⟨c, rest, same, nonzero⟩ := ih (n / 10) (by omega) (by omega)
      have longer : Decimal.naturalText n = Decimal.naturalText (n / 10) ++ [(n % 10).digitChar] :=
        Nat.toDigits_of_base_le (by decide) (by omega)
      exact ⟨c, rest ++ [(n % 10).digitChar], by rw [longer, same]; rfl, nonzero⟩

theorem readTail_nil (negative : Bool) (significand : Nat) :
    readTail negative significand 0 [] = wholeNumber negative significand [] := by
  rw [readTail, if_pos rfl]
  all_goals exact fun _ impossible => nomatch impossible

/-- The text is a variable, so that the kernel splits on it and evaluates no number. -/
theorem readUnsigned_zero (negative : Bool) {text : List Char} (single : text = ['0']) :
    readUnsigned negative text = wholeNumber negative 0 [] := by
  unfold readUnsigned
  split
  · exact nomatch single
  · rename_i after
    obtain rfl := (List.cons.inj single).2
    exact readTail_nil negative 0
  · rename_i notZero
    exact absurd (List.cons.inj single).1 (by simpa using notZero)

theorem readUnsigned_digits (negative : Bool) {c : Char} {digits rest : List Char} (nonzero : c ≠ '0')
    (uniform : ∀ d ∈ c :: digits, d.isDigit = true) (fits : Nat.ofDigitChars 10 (c :: digits) 0 < significandLimit)
    (ends : Text.EndsRun Char.isDigit rest) : readUnsigned negative (c :: (digits ++ rest)) =
      readTail negative (Nat.ofDigitChars 10 (c :: digits) 0) 0 rest := by
  have absorbed : absorb 0 (c :: (digits ++ rest)) = (Nat.ofDigitChars 10 (c :: digits) 0, rest) :=
    absorb_append uniform ends fits
  unfold readUnsigned
  split
  · rename_i impossible
    exact nomatch impossible
  · rename_i first
    exact absurd (List.cons.inj first).1 nonzero
  · rename_i first
    obtain ⟨rfl, rfl⟩ := List.cons.inj first
    -- All digits are absorbed, so none is dropped and counted for the exponent.
    have none : rest.takeWhile Char.isDigit = [] := Text.takeWhile_append_of_endsRun (List.forall_mem_nil _) ends
    have all : rest.dropWhile Char.isDigit = rest := Text.dropWhile_append_of_endsRun (List.forall_mem_nil _) ends
    rw [if_pos (uniform c (by simp)), absorbed]
    dsimp only
    rw [none, all]
    rfl

theorem readUnsigned_naturalText (negative : Bool) {n : Nat} (fits : n < significandLimit) :
    readUnsigned negative (Decimal.naturalText n) = wholeNumber negative n [] := by
  rcases Nat.eq_zero_or_pos n with rfl | positive
  · exact readUnsigned_zero negative (Nat.toDigits_zero 10)
  · obtain ⟨c, rest, same, nonzero⟩ := naturalText_head_ne_zero positive
    have uniform : ∀ d ∈ c :: rest, d.isDigit = true :=
      fun d member => Decimal.isDigit_of_mem_naturalText (same ▸ member)
    have value : Nat.ofDigitChars 10 (c :: rest) 0 = n := by
      rw [← same]
      exact Nat.ofDigitChars_ten_toDigits
    have read := readUnsigned_digits negative nonzero uniform (value ▸ fits) (by simp [Text.EndsRun] : Text.EndsRun _ [])
    rw [List.append_nil, value, readTail_nil] at read
    rw [same, read]

/-- A digit is no sign. -/
theorem readNumber_of_isDigit {c : Char} {rest : List Char} (digit : c.isDigit = true) :
    readNumber (c :: rest) = readUnsigned false (c :: rest) := by
  unfold readNumber
  split
  · rename_i same
    cases same
    exact absurd digit (by decide)
  · rfl

/-- Integers that fit a signed or an unsigned number of 64 bits. -/
def Integer64 (value : Int) : Prop := -2 ^ 63 ≤ value ∧ value < 2 ^ 64

instance (value : Int) : Decidable (Integer64 value) := inferInstanceAs (Decidable (_ ∧ _))

theorem readNumber_integerText {value : Int} (fits : Integer64 value) :
    readNumber (Decimal.integerText value) = .ok (.integer value, []) := by
  obtain ⟨low, high⟩ := fits
  cases value with
  | ofNat n =>
    have below : n < significandLimit := by
      have bound : (n : Int) < 2 ^ 64 := high
      rw [significandLimit]
      omega
    have unsigned : readNumber (Decimal.naturalText n) = readUnsigned false (Decimal.naturalText n) := by
      have some : Decimal.naturalText n ≠ [] := Nat.toDigits_ne_nil
      obtain ⟨c, tail, same⟩ := List.exists_cons_of_ne_nil some
      rw [same]
      exact readNumber_of_isDigit (Decimal.isDigit_of_mem_naturalText (n := n) (same ▸ List.mem_cons_self))
    rw [Decimal.integerText, unsigned, readUnsigned_naturalText false below]
    rfl
  -- The magnitude is one more than what the constructor carries.
  | negSucc n =>
    have below : n + 1 < significandLimit := by
      rw [significandLimit]
      omega
    rw [Decimal.integerText, readNumber, readUnsigned_naturalText true below, wholeNumber, if_neg nofun,
      if_neg (by omega)]
    rfl

/-! ## Integers that are read fit -/

/-- Stored as an integer of 64 bits, or as a double. -/
def Bounded : Number → Prop
  | .integer value => Integer64 value
  | .double _ => True

theorem absorb_lt {significand : Nat} (fits : significand < significandLimit) (text : List Char) :
    (absorb significand text).1 < significandLimit := by
  induction text generalizing significand with
  | nil => exact fits
  | cons c rest ih =>
    unfold absorb
    split
    · rename_i more
      simp only [Bool.and_eq_true, decide_eq_true_eq] at more
      exact ih more.2
    · exact fits

section
variable {negative : Bool} {significand : Nat} {text rest : List Char} {value : Number}

theorem bounded_of_finish {exponent : Int}
    (read : finish negative significand exponent text = .ok (value, rest)) : Bounded value := by
  unfold finish at read
  generalize toDouble? negative significand exponent = rounded at read
  cases rounded with
  | none => exact nomatch read
  | some double =>
    cases read
    trivial

theorem bounded_of_readExponent {exponent : Int}
    (read : readExponent negative significand exponent text = .ok (value, rest)) : Bounded value := by
  unfold readExponent at read
  split at read
  split at read
  · exact nomatch read
  · split at read
    · split at read
      · exact bounded_of_finish read
      · split at read
        · exact nomatch read
        · cases read
          trivial
    · exact nomatch read

theorem bounded_of_readMagnitude {exponent : Int}
    (read : readMagnitude negative significand exponent text = .ok (value, rest)) : Bounded value := by
  unfold readMagnitude at read
  split at read
  · exact bounded_of_readExponent read
  · exact bounded_of_readExponent read
  · exact bounded_of_finish read

theorem bounded_of_readFraction {exponent : Int}
    (read : readFraction negative significand exponent text = .ok (value, rest)) : Bounded value := by
  unfold readFraction at read
  split at read
  · exact nomatch read
  · split at read
    · exact bounded_of_readMagnitude read
    · exact nomatch read

theorem bounded_of_wholeNumber (fits : significand < significandLimit)
    (read : wholeNumber negative significand text = .ok (value, rest)) : Bounded value := by
  unfold wholeNumber at read
  rw [significandLimit] at fits
  split at read
  · cases read
    exact show Integer64 _ by simp only [Integer64, Int.ofNat_eq_natCast]; omega
  · split at read
    · exact bounded_of_finish read
    · cases read
      exact show Integer64 _ by simp only [Integer64, Int.ofNat_eq_natCast]; omega

theorem bounded_of_readTail {dropped : Nat} (fits : significand < significandLimit)
    (read : readTail negative significand dropped text = .ok (value, rest)) : Bounded value := by
  unfold readTail at read
  split at read
  · exact bounded_of_readFraction read
  · exact bounded_of_readExponent read
  · exact bounded_of_readExponent read
  · split at read
    · exact bounded_of_wholeNumber fits read
    · exact bounded_of_finish read

theorem bounded_of_readUnsigned (read : readUnsigned negative text = .ok (value, rest)) : Bounded value := by
  have zero : 0 < significandLimit := by decide
  unfold readUnsigned at read
  split at read
  · exact nomatch read
  · split at read
    · split at read
      · exact nomatch read
      · exact bounded_of_readTail zero read
    · exact bounded_of_readTail zero read
  · rename_i c behind _
    split at read
    · have tail : readTail negative (absorb 0 (c :: behind)).1 _ _ = .ok (value, rest) := read
      exact bounded_of_readTail (absorb_lt zero _) tail
    · exact nomatch read

/-- Whatever is read as an integer fits 64 bits. -/
theorem bounded_of_readNumber (read : readNumber text = .ok (value, rest)) : Bounded value := by
  unfold readNumber at read
  split at read
  · exact bounded_of_readUnsigned read
  · exact bounded_of_readUnsigned read

end

/-! ## Numbers among other text -/

theorem isSpace_eq_false_of_isNumeralChar {c : Char} (numeral : isNumeralChar c = true) : isSpace c = false := by
  by_contra space
  simp only [isSpace, Bool.not_eq_false, Bool.or_eq_true, beq_iff_eq] at space
  rcases space with ((rfl | rfl) | rfl) | rfl <;> exact absurd numeral (by decide)

theorem numberOfText_eq_ok_iff {run : List Char} {value : Number}
    (uniform : ∀ c ∈ run, isNumeralChar c = true) :
    numberOfText run = .ok value ↔ readNumber run = .ok (value, []) := by
  constructor
  · intro read
    obtain ⟨⟨found, rest⟩, number, checked⟩ := bind_eq_ok.1 read
    dsimp only at checked
    split at checked
    · rename_i trailing
      obtain rfl := Except.ok.inj checked
      obtain ⟨-, front, rfl, -⟩ := consumes_of_readNumber number
      cases rest with
      | nil => exact number
      | cons c rest =>
        -- Only white space may be left, and no character of the run is any.
        have space := List.dropWhile_eq_nil_iff.1 (List.isEmpty_iff.1 trailing) c (by simp)
        rw [isSpace_eq_false_of_isNumeralChar (uniform c (by simp))] at space
        exact nomatch space
    · exact nomatch checked
  · intro read
    exact bind_eq_ok.2 ⟨(value, []), read, rfl⟩

/-- A text that reads as one number to its end. -/
def Numeral (text : List Char) (value : Number) : Prop := readNumber text = .ok (value, [])

theorem Numeral.uniform {text : List Char} {value : Number} (numeral : Numeral text value) :
    ∀ c ∈ text, isNumeralChar c = true := by
  obtain ⟨-, run, same, uniform⟩ := consumes_of_readNumber numeral
  rw [List.append_nil] at same
  exact same ▸ uniform

theorem Numeral.head {text : List Char} {value : Number} (numeral : Numeral text value) :
    ∃ c behind, text = c :: behind ∧ (c = '-' ∨ c.isDigit = true) := (consumes_of_readNumber numeral).1

end Json

theorem Expression.readNumber_eq_ok_iff {source rest : List Char} {value : Number} :
    readNumber source = .ok (value, rest) ↔
      ∃ run, source = run ++ rest ∧ Json.Numeral run value ∧ Text.EndsRun isNumeralChar rest := by
  have uniform : ∀ c ∈ source.takeWhile isNumeralChar, isNumeralChar c = true :=
    fun _ member => List.mem_takeWhile_imp member
  constructor
  · intro read
    unfold readNumber at read
    dsimp only at read
    split at read
    · rename_i found
      obtain ⟨rfl, rfl⟩ := Prod.mk.inj (Except.ok.inj read)
      exact ⟨source.takeWhile isNumeralChar, List.takeWhile_append_dropWhile.symm,
        (Json.numberOfText_eq_ok_iff uniform).1 found, Text.endsRun_dropWhile isNumeralChar source⟩
    · exact nomatch read
  · rintro ⟨run, rfl, numeral, ends⟩
    have front := Text.takeWhile_append_of_endsRun numeral.uniform ends
    have behind := Text.dropWhile_append_of_endsRun numeral.uniform ends
    have read := (Json.numberOfText_eq_ok_iff numeral.uniform).2 numeral
    simp only [readNumber, front, behind, read]

end SchemaExport
