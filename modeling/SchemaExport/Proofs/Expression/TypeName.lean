import SchemaExport.Proofs.Expression.Structural

/-! Leaves whose type name may have quotes.

The type name stands in front of the record as it is, and the repairs go over it too. A match never goes
on behind the parenthesis unless a field for a regular expression is in the name: the string that it
opens takes the first quote of the record along. Without one the record is repaired as any other.
-/

set_option autoImplicit false

namespace SchemaExport.Expression

/-! ## A front that no match leaves -/

section
variable {rule : Rule}

/-- If what a rule finds at the places of a front is in the front, the replacing goes on afresh behind it.
The induction is on what is left of the front, with the count of what is left of the last match. -/
theorem replaceFrom_append_of_local {back : List Char}
    (same : ∀ text, rule (text ++ back) = rule text)
    (inside : ∀ text found, rule text = some found → found.1 ≤ text.length)
    {left : Nat} {front : List Char} (short : left ≤ front.length) :
    replaceFrom rule left (front ++ back) = replaceFrom rule left front ++ replaceAll rule back := by
  induction front generalizing left with
  | nil =>
    obtain rfl := Nat.le_zero.1 short
    rfl
  | cons c front ih =>
    cases left with
    | succ left => exact ih (Nat.le_of_succ_le_succ short)
    | zero =>
      have passed := ih (Nat.zero_le front.length)
      have here : rule (c :: (front ++ back)) = rule (c :: front) := same (c :: front)
      rw [List.cons_append, replaceFrom, replaceFrom, here]
      cases found : rule (c :: front) with
      | none => exact congrArg (c :: ·) passed
      | some edit =>
        obtain ⟨length, replacement⟩ := edit
        cases length with
        | zero => exact congrArg (c :: ·) passed
        | succ length =>
          -- A match inside the front leaves less of it to pass over than there is.
          have within : length ≤ front.length := Nat.le_of_succ_le_succ (inside _ _ found)
          simp only [ih within, List.append_assoc]

theorem replaceAll_append_of_none {front back : List Char}
    (quiet : ∀ text, text <:+ front → rule (text ++ back) = none) :
    replaceAll rule (front ++ back) = front ++ replaceAll rule back := by
  induction front with
  | nil => rfl
  | cons c front ih =>
    have here : rule (c :: (front ++ back)) = none := quiet (c :: front) (List.suffix_refl _)
    have behind := ih fun text suffix => quiet text (suffix.trans (List.suffix_cons c front))
    rw [List.cons_append, replaceAll_cons_of_none here, behind]
    rfl

end

theorem prefix_of_append_cons {word front back : List Char} {stop : Char} (absent : stop ∉ word)
    (begins : word <+: front ++ stop :: back) : word <+: front := by
  obtain ⟨rest, same⟩ := begins
  rcases List.append_eq_append_iff.1 same with ⟨more, rfl, -⟩ | ⟨more, rfl, behind⟩
  · exact List.prefix_append ..
  · cases more with
    | nil => simp
    | cons c more =>
      obtain ⟨rfl, -⟩ := List.cons.inj behind
      simp at absent

/-! ## Type names in front -/

theorem parenthesis_not_mem {name : List Char} (formed : isTypeName name = true) :
    '(' ∉ typeNameField ++ (name ++ ['"']) := by
  obtain ⟨word, rfl, -, uniform⟩ := isTypeName_iff.1 formed
  have apart : '(' ∉ word := fun member => nomatch uniform '(' member
  have field : '(' ∉ typeNameField := by decide
  rw [List.mem_append, List.mem_append, not_or, not_or]
  refine ⟨field, ?_, by decide⟩
  simpa using apart

theorem typeNameRule_append (text back : List Char) : typeNameRule (text ++ '(' :: back) = typeNameRule text := by
  refine Option.ext fun found => ?_
  rw [typeNameRule_eq_some_iff, typeNameRule_eq_some_iff]
  constructor
  · rintro ⟨name, behind, formed, same, rfl⟩
    have begins : typeNameField ++ (name ++ ['"']) <+: text ++ '(' :: back := ⟨behind, by simp [same]⟩
    obtain ⟨rest, rfl⟩ := prefix_of_append_cons (parenthesis_not_mem formed) begins
    exact ⟨name, rest, formed, by simp, rfl⟩
  · rintro ⟨name, behind, formed, rfl, rfl⟩
    exact ⟨name, behind ++ '(' :: back, formed, by simp, rfl⟩

theorem length_le_of_typeNameRule {text : List Char} {found : Nat × List Char}
    (matched : typeNameRule text = some found) : found.1 ≤ text.length := by
  obtain ⟨name, behind, -, rfl, rfl⟩ := typeNameRule_eq_some_iff.1 matched
  simp

/-! ## No field comes about -/

/-- What the repair of type names makes of a text, character by character and match by match. -/
inductive Named : List Char → List Char → Prop where
  | nil : Named [] []
  | kept {c : Char} {rest result : List Char} : Named rest result → Named (c :: rest) (c :: result)
  | member {name rest result : List Char} : isTypeName name = true → Named rest result →
      Named (typeNameField ++ (name ++ '"' :: rest)) ("\"typeName\":".toList ++ (typeNameMember ++ (name ++ result)))

theorem named_repairTypeNames (text : List Char) : Named text (repairTypeNames text) := by
  -- On the length, because a match takes more than its first character away.
  induction length : text.length using Nat.strong_induction_on generalizing text with
  | _ n ih =>
    subst length
    cases text with
    | nil => exact .nil
    | cons c rest =>
      cases found : typeNameRule (c :: rest) with
      | none =>
        have kept : repairTypeNames (c :: rest) = c :: repairTypeNames rest := replaceAll_cons_of_none found
        rw [kept]
        exact .kept (ih _ (by simp) rest rfl)
      | some edit =>
        obtain ⟨name, behind, formed, same, rfl⟩ := typeNameRule_eq_some_iff.1 found
        have whole : c :: rest = (typeNameField ++ (name ++ ['"'])) ++ behind := by simp [same]
        have replaced : repairTypeNames (c :: rest) =
            "\"typeName\":".toList ++ (typeNameMember ++ name) ++ repairTypeNames behind := by
          rw [whole] at found ⊢
          exact replaceAll_of_match (typeNameField_ne_nil _) found
        have shorter : behind.length < (c :: rest).length := by
          rw [same]
          simp
          omega
        rw [replaced, same, List.append_assoc, List.append_assoc]
        exact .member formed (ih _ shorter behind rfl)

theorem typeNameField_append (rest : List Char) :
    typeNameField ++ rest = '"' :: 't' :: ("ypeName\":\"".toList ++ rest) := rfl

theorem typeNameKey_append (rest : List Char) :
    "\"typeName\":".toList ++ rest = '"' :: (['t', 'y', 'p', 'e', 'N', 'a', 'm', 'e'] ++ '"' :: ([':'] ++ rest)) := rfl

theorem regexField_eq : regexField = '"' :: 'r' :: "egex\":\"".toList := rfl

/-- A match and what stands for it begin with the same two characters. -/
theorem Named.prefix_text {text result word : List Char} (named : Named text result) (apart : 't' ∉ word)
    (begins : word <+: result) : word <+: text := by
  induction named generalizing word with
  | nil => exact begins
  | kept _ ih =>
    cases word with
    | nil => exact List.nil_prefix
    | cons first word =>
      obtain ⟨rfl, more⟩ := List.cons_prefix_cons.1 begins
      exact List.cons_prefix_cons.2 ⟨rfl, ih (fun member => apart (List.mem_cons_of_mem _ member)) more⟩
  | member _ _ _ =>
    -- A quote and a `t` on either side, of which the word can have the quote only.
    rw [typeNameKey_append] at begins
    rw [typeNameField_append]
    cases word with
    | nil => exact List.nil_prefix
    | cons first word =>
      obtain ⟨rfl, more⟩ := List.cons_prefix_cons.1 begins
      cases word with
      | nil => exact List.cons_prefix_cons.2 ⟨rfl, List.nil_prefix⟩
      | cons second word =>
        obtain ⟨rfl, -⟩ := List.cons_prefix_cons.1 more
        simp at apart

theorem regexField_infix_append {front rest : List Char} (unquoted : '"' ∉ front)
    (inside : regexField <:+: front ++ rest) : regexField <:+: rest := by
  induction front with
  | nil => exact inside
  | cons c front ih =>
    rw [List.mem_cons, not_or] at unquoted
    rcases List.infix_cons_iff.1 inside with begins | behind
    · rw [regexField_eq] at begins
      exact absurd (List.cons_prefix_cons.1 begins).1 unquoted.1
    · exact ih unquoted.2 behind

theorem regexField_infix_quote {rest : List Char} (apart : rest.head? ≠ some 'r')
    (inside : regexField <:+: '"' :: rest) : regexField <:+: rest := by
  rcases List.infix_cons_iff.1 inside with begins | behind
  · rw [regexField_eq] at begins
    obtain ⟨more, rfl⟩ := (List.cons_prefix_cons.1 begins).2
    exact absurd rfl apart
  · exact behind

theorem Named.infix_text {text result : List Char} (named : Named text result)
    (inside : regexField <:+: result) : regexField <:+: text := by
  induction named with
  | nil => exact inside
  | @kept c rest result more ih =>
    rcases List.infix_cons_iff.1 inside with begins | behind
    · exact (Named.prefix_text (.kept more) (by decide) begins).isInfix
    · exact List.infix_cons (ih behind)
  | @member name rest result formed _ ih =>
    -- Of the two quotes of the replacement neither begins the field.
    have unquoted : '"' ∉ typeNameMember ++ name := by
      rw [List.mem_append, not_or]
      exact ⟨by decide, fun member => (plain_of_isTypeName formed '"' member).1 rfl⟩
    rw [typeNameKey_append] at inside
    have word := regexField_infix_append (by decide) (regexField_infix_quote (by simp) inside)
    have behind := regexField_infix_append (by decide) (regexField_infix_quote (by simp) word)
    rw [← List.append_assoc] at behind
    have suffix : rest <:+ typeNameField ++ (name ++ '"' :: rest) := ⟨typeNameField ++ (name ++ ['"']), by simp⟩
    exact (ih (regexField_infix_append unquoted behind)).trans suffix.isInfix

/-! ## The text of a leaf -/

theorem regexRule_append_of_absent {text : List Char} (absent : ¬ regexField <+: text) (back : List Char) :
    regexRule (text ++ '(' :: back) = none := by
  cases found : regexRule (text ++ '(' :: back) with
  | none => rfl
  | some edit =>
    obtain ⟨value, field, -⟩ := Option.bind_eq_some_iff.1 found
    have begins : regexField <+: text ++ '(' :: back := ⟨value, (Text.eq_append_of_dropStart? field).symm⟩
    exact absurd (prefix_of_append_cons (by decide) begins) absent

/-- A front in which no field for a regular expression stands leaves the repairs of a record as they are. -/
theorem repair_behind {front : List Char} (absent : ¬ regexField <:+: front) (value : Value) :
    repairRegexes (repairTypeNames (front ++ '(' :: (dump value ++ [')']))) =
      repairTypeNames front ++ '(' :: (dumpWith bareText? value ++ [')']) := by
  have quiet : ¬ regexField <:+: repairTypeNames front :=
    fun inside => absent ((named_repairTypeNames front).infix_text inside)
  -- The second repair finds nothing in the front, which the first one left without a field too.
  have passed (back : List Char) : repairRegexes (repairTypeNames front ++ '(' :: back) =
      repairTypeNames front ++ repairRegexes ('(' :: back) :=
    replaceAll_append_of_none fun _ suffix =>
      regexRule_append_of_absent (fun begins => quiet (begins.isInfix.trans suffix.isInfix)) back
  have parted (back : List Char) : repairTypeNames (front ++ '(' :: back) =
      repairTypeNames front ++ repairTypeNames ('(' :: back) :=
    replaceFrom_append_of_local (fun text => typeNameRule_append text back) (fun _ _ => length_le_of_typeNameRule)
      (Nat.zero_le _)
  have opened (back : List Char) : repairTypeNames ('(' :: back) = '(' :: repairTypeNames back :=
    replaceAll_cons_of_none (typeNames.rule_cons_of_ne (by decide) back)
  have alone : repairRegexes (repairTypeNames ('(' :: (dump value ++ [')']))) =
      '(' :: (dumpWith bareText? value ++ [')']) := @repair_call ['('] (by decide) value
  rw [parted, opened, passed, ← opened, alone]

theorem printLeaf_of_absent {leaf : Leaf} (absent : ¬ regexField <:+: leaf.typeName.toList) :
    printLeaf leaf = repairTypeNames ("new z.".toList ++ leaf.typeName.toList) ++
      '(' :: (dumpWith bareText? (.record leaf.definition.entries) ++ [')']) :=
  repair_behind (fun inside => absent (regexField_infix_append (by decide) inside)) (.record leaf.definition.entries)

end SchemaExport.Expression
