import SchemaExport.Proofs.Json.Numeral
import SchemaExport.Proofs.Json.Scaling

/-! What the text of a double is read as.

Each layout keeps all digits in the significand and their place in the exponent. A text without digits
behind the point has a zero there, which is read like any other digit.
-/

set_option autoImplicit false

namespace SchemaExport

open Decimal (Digits Double naturalText)

/-! ## Runs of digits -/

namespace Json

theorem readFraction_digits (negative : Bool) {significand : Nat} (exponent : Int) {digits rest : List Char}
    (nonempty : digits ≠ []) (uniform : ∀ d ∈ digits, d.isDigit = true)
    (fits : Nat.ofDigitChars 10 digits significand < significandLimit) (ends : Text.EndsRun Char.isDigit rest) :
    readFraction negative significand exponent (digits ++ rest) =
      readMagnitude negative (Nat.ofDigitChars 10 digits significand) (exponent - digits.length) rest := by
  have absorbed := absorb_append uniform ends fits
  have all : rest.dropWhile Char.isDigit = rest := Text.dropWhile_append_of_endsRun (List.forall_mem_nil _) ends
  obtain ⟨c, tail, rfl⟩ := List.exists_cons_of_ne_nil nonempty
  rw [List.cons_append] at absorbed ⊢
  rw [readFraction, if_pos (uniform c (by simp)), absorbed]
  dsimp only
  -- All digits are absorbed, so that none is dropped behind them.
  rw [all]
  congr 2
  simp only [List.length_cons, List.length_append, Int.ofNat_eq_natCast]
  omega

theorem readExponentDigits_of_fits {digits : List Char} (uniform : ∀ c ∈ digits, c.isDigit = true) {start : Nat}
    (fits : Nat.ofDigitChars 10 digits start < exponentLimit) :
    readExponentDigits start digits = (some (Nat.ofDigitChars 10 digits start), []) := by
  induction digits generalizing start with
  | nil => simp [readExponentDigits]
  | cons c digits ih =>
    have step : Nat.ofDigitChars 10 (c :: digits) start =
        Nat.ofDigitChars 10 digits (start * 10 + digitValue c) := by
      rw [Nat.ofDigitChars_cons, Nat.mul_comm]
      rfl
    rw [step] at fits ⊢
    have below := Nat.lt_of_le_of_lt (le_ofDigitChars digits _) fits
    rw [readExponentDigits, if_pos (uniform c (by simp)), if_pos below,
      ih (fun d member => uniform d (by simp [member])) fits]

theorem readExponent_signed (negative : Bool) (significand : Nat) (exponent : Int) {leading : Int}
    (fits : leading.natAbs < exponentLimit) :
    readExponent negative significand exponent ((if leading < 0 then '-' else '+') :: naturalText leading.natAbs) =
      finish negative significand (exponent + leading) [] := by
  have uniform : ∀ c ∈ naturalText leading.natAbs, c.isDigit = true :=
    fun c member => Decimal.isDigit_of_mem_naturalText member
  have value : Nat.ofDigitChars 10 (naturalText leading.natAbs) 0 = leading.natAbs := Nat.ofDigitChars_ten_toDigits
  have some : naturalText leading.natAbs ≠ [] := Nat.toDigits_ne_nil
  obtain ⟨c, tail, same⟩ := List.exists_cons_of_ne_nil some
  rw [same] at uniform value ⊢
  -- The first digit is read apart from the others.
  have first : Nat.ofDigitChars 10 (c :: tail) 0 = Nat.ofDigitChars 10 tail (digitValue c) := by
    rw [Nat.ofDigitChars_cons, Nat.mul_zero, Nat.zero_add]
    rfl
  rw [first] at value
  have digits := readExponentDigits_of_fits (fun d member => uniform d (by simp [member])) (value ▸ fits)
  rw [value] at digits
  by_cases down : leading < 0
  · rw [if_pos down, readExponent]
    rw [if_pos (uniform c (by simp)), digits]
    simp only [if_true]
    congr 1
    simp only [Int.ofNat_eq_natCast]
    omega
  · rw [if_neg down, readExponent]
    rw [if_pos (uniform c (by simp)), digits]
    simp only [Bool.false_eq_true, if_false]
    congr 1
    simp only [Int.ofNat_eq_natCast]
    omega

/-! ## Layouts -/

section
variable (negative : Bool) {c : Char} {tail : List Char} {digits : Nat} {exponent leading : Int}

theorem readUnsigned_positional_below (uniform : ∀ d ∈ c :: tail, d.isDigit = true)
    (value : Nat.ofDigitChars 10 (c :: tail) 0 = digits) (fits : digits < significandLimit)
    (leads : leading = exponent + (c :: tail).length - 1) (below : leading < 0) :
    readUnsigned negative (Decimal.positional (c :: tail) leading) = finish negative digits exponent [] := by
  let zeros := List.replicate (-leading - 1).toNat '0'
  have text : Decimal.positional (c :: tail) leading = '0' :: '.' :: (zeros ++ (c :: tail) ++ []) := by
    rw [Decimal.positional, if_pos below, List.append_nil]
  have padded : Nat.ofDigitChars 10 (zeros ++ (c :: tail)) 0 = digits := by
    rw [Nat.ofDigitChars_append, Nat.ofDigitChars_replicate_zero, Nat.mul_zero, value]
  have allDigits : ∀ d ∈ zeros ++ (c :: tail), d.isDigit = true := by
    intro d member
    rcases List.mem_append.1 member with zero | digit
    · rw [List.eq_of_mem_replicate zero]
      rfl
    · exact uniform d digit
  have read := readFraction_digits negative 0 (by simp) allDigits (padded ▸ fits)
    (by simp [Text.EndsRun] : Text.EndsRun _ [])
  -- The zeros behind the point count for the exponent but not for the digits.
  have placed : (0 : Int) - (zeros ++ (c :: tail)).length = exponent := by
    simp only [zeros, List.length_append, List.length_replicate] at leads ⊢
    omega
  rw [padded, placed] at read
  rw [text]
  exact read

theorem readUnsigned_positional_whole (nonzero : c ≠ '0') (uniform : ∀ d ∈ c :: tail, d.isDigit = true)
    (value : Nat.ofDigitChars 10 (c :: tail) 0 = digits) (fits : digits * 10 ^ (exponent.toNat + 1) < significandLimit)
    (leads : leading = exponent + (c :: tail).length - 1) (whole : 0 ≤ exponent) :
    readUnsigned negative (Decimal.positional (c :: tail) leading) =
      finish negative (digits * 10 ^ (exponent.toNat + 1)) (-1) [] := by
  let zeros := List.replicate exponent.toNat '0'
  have text : Decimal.positional (c :: tail) leading = c :: ((tail ++ zeros) ++ ['.', '0']) := by
    have some : 0 < (c :: tail).length := Nat.succ_pos _
    have count : leading.toNat + 1 - (c :: tail).length = exponent.toNat := by omega
    have noFraction : (c :: tail).length ≤ leading.toNat + 1 := by omega
    have notBelow : ¬ leading < 0 := by omega
    rw [Decimal.positional, if_neg notBelow, if_pos noFraction, count]
    simp [zeros]
  have padded : Nat.ofDigitChars 10 (c :: (tail ++ zeros)) 0 = digits * 10 ^ exponent.toNat := by
    rw [← List.cons_append, Nat.ofDigitChars_append, Nat.ofDigitChars_replicate_zero, value, Nat.mul_comm]
  have allDigits : ∀ d ∈ c :: (tail ++ zeros), d.isDigit = true := by
    intro d member
    rw [← List.cons_append] at member
    rcases List.mem_append.1 member with digit | zero
    · exact uniform d digit
    · rw [List.eq_of_mem_replicate zero]
      rfl
  rw [Nat.pow_succ, ← Nat.mul_assoc] at fits ⊢
  have front := readUnsigned_digits negative nonzero allDigits (by rw [padded]; omega)
    (by simp [Text.EndsRun] : Text.EndsRun _ ['.', '0'])
  -- The zero behind the point makes the significand ten times as large.
  have last : Nat.ofDigitChars 10 ['0'] (digits * 10 ^ exponent.toNat) = digits * 10 ^ exponent.toNat * 10 := by
    rw [Nat.ofDigitChars_cons, Nat.ofDigitChars_nil, Nat.mul_comm]
    rfl
  have behind := readFraction_digits negative 0 (by simp) (by simp [Char.isDigit]) (last ▸ fits)
    (by simp [Text.EndsRun] : Text.EndsRun _ [])
  rw [last] at behind
  rw [text, front, padded]
  exact behind

theorem readUnsigned_positional_parted (nonzero : c ≠ '0') (uniform : ∀ d ∈ c :: tail, d.isDigit = true)
    (value : Nat.ofDigitChars 10 (c :: tail) 0 = digits) (fits : digits < significandLimit)
    (leads : leading = exponent + (c :: tail).length - 1) (above : 0 ≤ leading) (parted : exponent < 0) :
    readUnsigned negative (Decimal.positional (c :: tail) leading) = finish negative digits exponent [] := by
  let front := tail.take leading.toNat
  let back := tail.drop leading.toNat
  have whole : front ++ back = tail := List.take_append_drop ..
  have text : Decimal.positional (c :: tail) leading = c :: (front ++ '.' :: (back ++ [])) := by
    rw [Decimal.positional, if_neg (by omega), if_neg (by omega), List.append_nil]
    rfl
  have some : back ≠ [] := by
    rw [ne_eq, List.drop_eq_nil_iff]
    simp only [List.length_cons] at leads
    omega
  -- The point parts the digits, which are read as one number across it.
  have parts : Nat.ofDigitChars 10 back (Nat.ofDigitChars 10 (c :: front) 0) = digits := by
    rw [← Nat.ofDigitChars_append, List.cons_append, whole, value]
  have small : Nat.ofDigitChars 10 (c :: front) 0 < significandLimit :=
    Nat.lt_of_le_of_lt (le_ofDigitChars back _) (parts ▸ fits)
  have frontDigits : ∀ d ∈ c :: front, d.isDigit = true := fun d member => by
    rcases List.mem_cons.1 member with rfl | member
    · exact uniform d (by simp)
    · exact uniform d (List.mem_cons_of_mem _ (List.mem_of_mem_take member))
  have backDigits : ∀ d ∈ back, d.isDigit = true :=
    fun d member => uniform d (List.mem_cons_of_mem _ (List.mem_of_mem_drop member))
  have first := readUnsigned_digits negative nonzero frontDigits small
    (by simp [Text.EndsRun] : Text.EndsRun _ ('.' :: (back ++ [])))
  have second := readFraction_digits negative 0 some backDigits (parts ▸ fits)
    (by simp [Text.EndsRun] : Text.EndsRun _ [])
  have placed : (0 : Int) - back.length = exponent := by
    simp only [back, List.length_drop, List.length_cons] at leads ⊢
    omega
  rw [parts, placed] at second
  rw [text, first]
  exact second

theorem readUnsigned_scientific (nonzero : c ≠ '0') (uniform : ∀ d ∈ c :: tail, d.isDigit = true)
    (value : Nat.ofDigitChars 10 (c :: tail) 0 = digits) (fits : digits < significandLimit)
    (leads : leading = exponent + (c :: tail).length - 1) (near : leading.natAbs < exponentLimit) :
    readUnsigned negative (Decimal.scientific (c :: tail) leading) = finish negative digits exponent [] := by
  let mark := (if leading < 0 then '-' else '+') :: naturalText leading.natAbs
  have single : ∀ d ∈ [c], d.isDigit = true := fun d member => uniform d (by simp [List.mem_singleton.1 member])
  -- A single digit has no point behind it.
  cases tail with
  | nil =>
    have first := readUnsigned_digits negative nonzero single (value ▸ fits)
      (by simp [Text.EndsRun] : Text.EndsRun _ ('e' :: mark))
    have placed : (0 : Int) + leading = exponent := by
      simp only [List.length_cons, List.length_nil] at leads
      omega
    have second := readExponent_signed negative digits 0 near
    rw [placed] at second
    rw [value] at first
    exact first.trans second
  | cons next rest =>
    have parts : Nat.ofDigitChars 10 (next :: rest) (Nat.ofDigitChars 10 [c] 0) = digits := by
      rw [← Nat.ofDigitChars_append]
      exact value
    have small : Nat.ofDigitChars 10 [c] 0 < significandLimit :=
      Nat.lt_of_le_of_lt (le_ofDigitChars (next :: rest) _) (parts ▸ fits)
    have first := readUnsigned_digits negative nonzero single small
      (by simp [Text.EndsRun] : Text.EndsRun _ ('.' :: (next :: rest ++ 'e' :: mark)))
    have second := readFraction_digits negative 0 (by simp) (fun d member => uniform d (by simp [member]))
      (parts ▸ fits) (by simp [Text.EndsRun] : Text.EndsRun _ ('e' :: mark))
    have third := readExponent_signed negative digits (0 - ((next :: rest).length : Int)) near
    have placed : 0 - ((next :: rest).length : Int) + leading = exponent := by
      simp only [List.length_cons] at leads ⊢
      omega
    rw [placed] at third
    rw [parts] at second
    exact first.trans (second.trans third)

end

end Json

/-! ## The text of a double -/

namespace Decimal.Double

def leading (x : Double) : Int := x.shortest.exponent + Int.ofNat (naturalText x.shortest.digits).length - 1

/-- The text without its sign. -/
def magnitude (x : Double) : List Char :=
  if -5 ≤ x.leading ∧ x.leading ≤ 15 then positional (naturalText x.shortest.digits) x.leading
  else scientific (naturalText x.shortest.digits) x.leading

theorem text_eq (x : Double) : x.text = if x.negative = true then '-' :: x.magnitude else x.magnitude := rfl

/-- The digits that a reader collects from the text, with the zeros and the zero behind the point of a number
without a fraction. -/
def written (x : Double) : Digits :=
  if 0 ≤ x.shortest.exponent ∧ x.leading ≤ 15 then
    ⟨x.shortest.digits * 10 ^ (x.shortest.exponent.toNat + 1), -1⟩
  else x.shortest

theorem near_zero {x : Double} (isZero : x.isZero = true) (exponent : Int) : x.Near ⟨0, exponent⟩ := by
  have none : x.significand = 0 := by simpa [Double.isZero] using isZero
  have lower : x.neighbourhood.lower = 0 := by simp [neighbourhood, none]
  have closed : x.neighbourhood.closed = true := by simp [neighbourhood, none]
  exact Neighbourhood.contains_iff.2 ⟨by simp [lower], by simp [Digits.numerator], .inl closed⟩

theorem near_written (x : Double) : x.Near x.written := by
  by_cases isZero : x.isZero = true
  · unfold written
    rw [shortest_of_isZero isZero]
    split
    · rw [Nat.zero_mul]
      exact near_zero isZero (-1)
    · exact near_zero isZero 0
  · have presents := presents_shortest (Bool.eq_false_iff.2 isZero)
    unfold written
    split
    · -- A whole number is laid out with its zeros and with one more behind the point.
      rename_i whole
      rw [near_shift, show (-1 : Int) + ↑(x.shortest.exponent.toNat + 1) = x.shortest.exponent by omega]
      exact presents.near
    · exact presents.near

end Decimal.Double

namespace Json

open Decimal.Double (presents_shortest)

theorem written_whole_lt {x : Double} (whole : 0 ≤ x.shortest.exponent) (place : x.leading ≤ 15) :
    x.shortest.digits * 10 ^ (x.shortest.exponent.toNat + 1) < significandLimit := by
  have leads : x.leading = x.shortest.exponent + (naturalText x.shortest.digits).length - 1 := rfl
  have below : x.shortest.digits < 10 ^ (naturalText x.shortest.digits).length := Decimal.lt_pow_decimalLength _
  calc x.shortest.digits * 10 ^ (x.shortest.exponent.toNat + 1)
      < 10 ^ (naturalText x.shortest.digits).length * 10 ^ (x.shortest.exponent.toNat + 1) :=
        Nat.mul_lt_mul_of_pos_right below (Nat.pow_pos (by decide))
    _ = 10 ^ ((naturalText x.shortest.digits).length + (x.shortest.exponent.toNat + 1)) := (Nat.pow_add ..).symm
    _ ≤ 10 ^ 17 := Nat.pow_le_pow_right (by decide) (by omega)
    _ < significandLimit := by decide

/-- The digits fit the significand, and the exponent is no further than a double reaches. -/
theorem written_bounds (x : Double) : x.written.digits < significandLimit ∧ -1000 ≤ x.written.exponent := by
  unfold Double.written
  by_cases place : 0 ≤ x.shortest.exponent ∧ x.leading ≤ 15
  · rw [if_pos place]
    exact ⟨written_whole_lt place.1 place.2, (by decide : (-1000 : Int) ≤ -1)⟩
  · rw [if_neg place]
    by_cases isZero : x.isZero = true
    · rw [Double.shortest_of_isZero isZero]
      decide
    · have presents := presents_shortest (Bool.eq_false_iff.2 isZero)
      exact ⟨Nat.lt_of_le_of_lt presents.few (by decide), presents.low⟩

theorem written_digits_pos {x : Double} (nonzero : x.isZero = false) : 0 < x.written.digits := by
  have positive := (presents_shortest nonzero).positive
  unfold Double.written
  split
  · exact Nat.mul_pos positive (Nat.pow_pos (by decide))
  · exact positive

theorem readUnsigned_magnitude (x : Double) (negative : Bool) :
    readUnsigned negative x.magnitude = finish negative x.written.digits x.written.exponent [] := by
  by_cases isZero : x.isZero = true
  · rw [Double.magnitude, Double.written, Double.leading, Double.shortest_of_isZero isZero]
    rfl
  · have presents := presents_shortest (Bool.eq_false_iff.2 isZero)
    have few := presents.few
    have low := presents.low
    have high := presents.high
    have leads : x.leading = x.shortest.exponent + (naturalText x.shortest.digits).length - 1 := rfl
    have value : Nat.ofDigitChars 10 (naturalText x.shortest.digits) 0 = x.shortest.digits :=
      Nat.ofDigitChars_ten_toDigits
    have length : (naturalText x.shortest.digits).length ≤ 18 :=
      (Nat.length_toDigits_le_iff (by decide) (by decide)).2 (Nat.lt_of_le_of_lt few (by decide))
    have fits : x.shortest.digits < significandLimit := Nat.lt_of_le_of_lt few (by decide)
    obtain ⟨c, tail, same, nonzero⟩ := naturalText_head_ne_zero presents.positive
    have uniform : ∀ d ∈ c :: tail, d.isDigit = true :=
      fun d member => Decimal.isDigit_of_mem_naturalText (same ▸ member)
    unfold Double.magnitude Double.written
    rw [same] at leads value length ⊢
    -- The layouts as they are chosen: with a point near the unit, scientific further away.
    by_cases place : -5 ≤ x.leading ∧ x.leading ≤ 15
    · rw [if_pos place]
      by_cases whole : 0 ≤ x.shortest.exponent
      · rw [if_pos ⟨whole, place.2⟩]
        exact readUnsigned_positional_whole negative nonzero uniform value (written_whole_lt whole place.2) leads whole
      · rw [if_neg (fun both => whole both.1)]
        by_cases before : x.leading < 0
        · exact readUnsigned_positional_below negative uniform value fits leads before
        · exact readUnsigned_positional_parted negative nonzero uniform value fits leads (Int.not_lt.1 before)
            (Int.not_le.1 whole)
    · have some : 0 < (c :: tail).length := Nat.succ_pos _
      have apart : ¬ (0 ≤ x.shortest.exponent ∧ x.leading ≤ 15) := by omega
      have near : x.leading.natAbs < exponentLimit := by
        rw [exponentLimit]
        omega
      rw [if_neg place, if_neg apart]
      exact readUnsigned_scientific negative nonzero uniform value fits leads near

theorem magnitude_head (x : Double) : ∃ c rest, x.magnitude = c :: rest ∧ c.isDigit = true := by
  have uniform : ∀ c ∈ naturalText x.shortest.digits, c.isDigit = true :=
    fun c member => Decimal.isDigit_of_mem_naturalText member
  unfold Double.magnitude
  have some : naturalText x.shortest.digits ≠ [] := Nat.toDigits_ne_nil
  obtain ⟨c, tail, same⟩ := List.exists_cons_of_ne_nil some
  rw [same] at uniform ⊢
  have digit := uniform c (by simp)
  split
  · unfold Decimal.positional
    dsimp only
    split
    · exact ⟨'0', _, rfl, rfl⟩
    · split
      · exact ⟨c, _, rfl, digit⟩
      · exact ⟨c, _, rfl, digit⟩
  · cases tail with
    | nil => exact ⟨c, _, rfl, digit⟩
    | cons next rest => exact ⟨c, _, rfl, digit⟩

/-- A double's text reads as the number that the reader makes of its digits. -/
theorem readNumber_text (x : Double) :
    readNumber x.text = finish x.negative x.written.digits x.written.exponent [] := by
  rw [Double.text_eq]
  cases x.negative with
  | true => exact readUnsigned_magnitude x true
  | false =>
    obtain ⟨c, rest, same, digit⟩ := magnitude_head x
    rw [if_neg Bool.false_ne_true, same, readNumber_of_isDigit digit, ← same]
    exact readUnsigned_magnitude x false

end Json
end SchemaExport
