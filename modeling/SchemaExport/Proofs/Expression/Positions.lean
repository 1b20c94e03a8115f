import SchemaExport.Proofs.Expression.Cutting
import SchemaExport.Proofs.Expression.Scanning

/-! Reading an expression by byte positions comes to the same.

Each scan does at its byte what the reader does with what is left of the text there, so there are no slips,
and an error points to a byte at which a character begins or the text ends.
-/

set_option autoImplicit false

namespace SchemaExport

namespace Expression

/-- A scan and a reader come to the same: results that belong together, or an error for the fault where it arose. -/
inductive Agree {α β : Type} (base : Nat) (source : List Char) (Same : α → β → Prop) :
    Except Halt α → Except Fault β → Prop where
  | ok {left : α} {right : β} : Same left right → Agree base source Same (.ok left) (.ok right)
  | unreadable {cause : Cause} {position : Nat} {rest : List Char} : Text.LeftAt source position rest →
      Agree base source Same (.error (.error (.unreadable (base + position) cause.message))) (.error (.unreadable cause rest))
  | regex {refusal : Regex.Refusal} : Agree base source Same (.error (.error (.regex refusal))) (.error (.regex refusal))

section

variable (base : Nat) (source : List Char)

/-- The same value, and what is left at the byte that a scan has come to. -/
def Came {α : Type} (left : α × Nat) (right : α × List Char) : Prop :=
  left.1 = right.1 ∧ Text.LeftAt source left.2 right.2

/-- A scan does at each byte what a reader does with what is left there. -/
def Follows {α : Type} (scan : Scan α) (reader : Reader α) : Prop :=
  ∀ ⦃position : Nat⦄ ⦃rest : List Char⦄, Text.LeftAt source position rest →
    Agree base source (Came source) (scan position) (reader rest)

end

variable {base : Nat} {source : List Char} {α β : Type}

theorem Agree.bind {γ δ : Type} {Same : α → β → Prop} {Next : γ → δ → Prop} {first : Except Halt α}
    {second : Except Fault β} {f : α → Except Halt γ} {g : β → Except Fault δ} (agree : Agree base source Same first second)
    (next : ∀ left right, Same left right → Agree base source Next (f left) (g right)) :
    Agree base source Next (first >>= f) (second >>= g) := by
  cases agree with
  | ok same => exact next _ _ same
  | unreadable left => exact .unreadable left
  | regex => exact .regex

theorem Agree.then {γ δ : Type} {Next : γ → δ → Prop} {first : Except Halt (α × Nat)}
    {second : Except Fault (α × List Char)} {f : α × Nat → Except Halt γ} {g : α × List Char → Except Fault δ}
    (agree : Agree base source (Came source) first second)
    (next : ∀ value position rest, Text.LeftAt source position rest →
      Agree base source Next (f (value, position)) (g (value, rest))) :
    Agree base source Next (first >>= f) (second >>= g) := by
  refine agree.bind ?_
  rintro ⟨value, position⟩ ⟨_, rest⟩ ⟨rfl, left⟩
  exact next value position rest left

theorem Agree.after {γ δ : Type} {Next : γ → δ → Prop} {first : Except Halt α} {value : α} {f : α → Except Halt γ}
    {second : Except Fault δ} (done : first = .ok value) (agree : Agree base source Next (f value) second) :
    Agree base source Next (first >>= f) second := by
  rw [done]
  exact agree

theorem Agree.came {value : α} {position : Nat} {rest : List Char} (left : Text.LeftAt source position rest) :
    Agree base source (Came source) (.ok (value, position)) (.ok (value, rest)) := .ok ⟨rfl, left⟩

/-! ## Tokens -/

theorem scanBlank_eq {position : Nat} {rest : List Char} (left : Text.LeftAt source position rest) :
    ∃ behind, scanBlank source position = .ok behind ∧ Text.LeftAt source behind (Text.skipBlank rest) := by
  obtain ⟨blanks, -, parted⟩ := Text.exists_blank_append_skipBlank rest
  have skipped := (parted ▸ left : Text.LeftAt source position (blanks ++ Text.skipBlank rest)).add
  have reckoned : Text.byteLength source - Text.byteLength (Text.skipBlank rest) = position + Text.byteLength blanks := by
    rw [← skipped.add_eq]
    exact Nat.add_sub_cancel ..
  exact ⟨_, bind_eq_ok.2 ⟨rest, left.sliceFrom_eq, congrArg Except.ok reckoned⟩, skipped⟩

theorem scanToken_eq (token : List Char) {position : Nat} {rest : List Char} (left : Text.LeftAt source position rest) :
    (∃ behind after, scanToken source token position = .ok (true, behind) ∧ eat? token rest = some after ∧
      Text.LeftAt source behind after) ∨
    (∃ behind, scanToken source token position = .ok (false, behind) ∧ eat? token rest = none ∧
      Text.LeftAt source behind (Text.skipBlank rest)) := by
  obtain ⟨behind, skipped, there⟩ := scanBlank_eq left
  -- The scan leaves the white space in front of another token behind, and the reader does not.
  cases found : eat? token rest with
  | some after =>
    have parted : Text.skipBlank rest = token ++ after := Text.eq_append_of_dropStart? found
    have starts : token.isPrefixOf (Text.skipBlank rest) = true := by simp [parted]
    exact .inl ⟨_, after, bind_eq_ok.2 ⟨behind, skipped, bind_eq_ok.2 ⟨_, there.sliceFrom_eq, if_pos starts⟩⟩, rfl,
      (parted ▸ there).add⟩
  | none =>
    have differs : ¬ token.isPrefixOf (Text.skipBlank rest) = true := by
      intro starts
      obtain ⟨after, parted⟩ := List.isPrefixOf_iff_prefix.1 starts
      rw [eat?, ← parted, Text.dropStart?_append] at found
      cases found
    exact .inr ⟨behind, bind_eq_ok.2 ⟨behind, skipped, bind_eq_ok.2 ⟨_, there.sliceFrom_eq, if_neg differs⟩⟩, rfl, there⟩

theorem agree_halt {Same : α → β → Prop} (cause : Cause) {position : Nat} {rest : List Char}
    (left : Text.LeftAt source position rest) : Agree base source Same (halt base cause position) (fail cause rest) :=
  .unreadable left

/-- The steps behind a token that may come next. -/
theorem Agree.token {γ δ : Type} {Next : γ → δ → Prop} (token : List Char) {position : Nat} {rest : List Char}
    (left : Text.LeftAt source position rest) {f : Bool × Nat → Except Halt γ} {hit : List Char → Except Fault δ}
    {miss : Except Fault δ}
    (found : ∀ behind after, Text.LeftAt source behind after → Agree base source Next (f (true, behind)) (hit after))
    (absent : ∀ behind, Text.LeftAt source behind (Text.skipBlank rest) →
      Agree base source Next (f (false, behind)) miss) :
    Agree base source Next (scanToken source token position >>= f)
      (match eat? token rest with | some after => hit after | none => miss) := by
  obtain ⟨behind, after, scanned, taken, there⟩ | ⟨behind, scanned, taken, there⟩ := scanToken_eq token left
  · rw [scanned, taken]
    exact found behind after there
  · rw [scanned, taken]
    exact absent behind there

theorem agree_scanExpected (token : String) {position : Nat} {rest : List Char} (left : Text.LeftAt source position rest) :
    Agree base source (Text.LeftAt source) (scanExpected base source token position) (expect token rest) :=
  .token _ left (fun _ _ => .ok) fun _ => agree_halt _

theorem follows_scanIdentifier : Follows base source (scanIdentifier base source) readIdentifier := by
  intro position rest left
  obtain ⟨behind, skipped, there⟩ := scanBlank_eq left
  refine .after skipped (.after there.sliceFrom_eq ?_)
  have length := Text.runLength_eq Text.isIdentifierChar (Text.skipBlank rest)
  cases word : (Text.skipBlank rest).takeWhile Text.isIdentifierChar with
  | nil =>
    rw [word] at length
    simp only [length, Text.byteLength, if_true, readIdentifier, word, List.isEmpty_nil]
    exact agree_halt _ there
  | cons c tail =>
    -- A run that is not empty has bytes, so the scan does not stop where the reader goes on.
    have some : Text.runLength Text.isIdentifierChar (Text.skipBlank rest) ≠ 0 := by
      rw [length, word, Ne, Text.byteLength_eq_zero_iff]
      exact List.cons_ne_nil c tail
    simp only [some, if_false, readIdentifier, word, List.isEmpty_cons, Bool.false_eq_true]
    refine .after (Text.sliceTo_runLength _ _) ?_
    rw [word]
    exact .came (there.run _)

theorem quoteAt?_eq (text : List Char) (byte : Nat) :
    quoteAt? false byte text = (splitQuoted? text).map fun parts => byte + Text.byteLength parts.1 := by
  fun_induction splitQuoted? text generalizing byte with
  | case1 => rfl
  | case2 rest => rfl
  | case3 => rfl
  | case4 c rest ih =>
    -- The reader takes a backslash and what it escapes in one step, the scan in two.
    have escaped : quoteAt? false byte ('\\' :: c :: rest) = quoteAt? false (byte + '\\'.utf8Size + c.utf8Size) rest := rfl
    rw [escaped, ih, Option.map_map]
    cases splitQuoted? rest <;> simp [Text.byteLength, Nat.add_assoc]
  | case5 c rest notQuote notAlone notPair ih =>
    have plain : c ≠ '\\' := by
      rintro rfl
      cases rest with
      | nil => exact notAlone rfl rfl
      | cons first rest => exact notPair first rest rfl rfl
    rw [quoteAt?, if_neg Bool.false_ne_true, if_neg plain, if_neg notQuote, ih, Option.map_map]
    cases splitQuoted? rest <;> simp [Text.byteLength, Nat.add_assoc]

theorem slashAt?_eq (text : List Char) (cursor : Regex.Cursor) (byte : Nat) :
    slashAt? cursor byte text = (splitLiteral? cursor text).map fun parts => byte + Text.byteLength parts.1 := by
  induction text generalizing cursor byte with
  | nil => rfl
  | cons c rest ih =>
    rw [slashAt?, splitLiteral?]
    split
    · rfl
    · rw [ih, Option.map_map]
      cases splitLiteral? (cursor.next c) rest <;> simp [Text.byteLength, Nat.add_assoc]

theorem follows_scanNumber : Follows base source (scanNumber base source) readNumber := by
  intro position rest left
  refine .after left.sliceFrom_eq (.after (Text.sliceTo_runLength _ _) ?_)
  rw [readNumber]
  cases Json.numberOfText (rest.takeWhile isNumeralChar) with
  | ok value => exact .came (left.run _)
  | error fault => exact agree_halt _ left

theorem agree_scanQuoted {position : Nat} {tail : List Char} (left : Text.LeftAt source position ('"' :: tail)) :
    Agree base source (Came source) (scanQuoted base source position) (readQuoted ('"' :: tail)) := by
  refine .after left.sliceFrom_eq ?_
  have first : Text.byteLength (('"' :: tail).take 1) = 1 := rfl
  rw [readQuoted, first, List.drop_one, List.tail_cons, quoteAt?_eq]
  cases found : splitQuoted? tail with
  | none => exact agree_halt _ left
  | some parts =>
    obtain ⟨body, rest⟩ := parts
    have parted : '"' :: tail = ('"' :: (body ++ ['"'])) ++ rest := by simp [eq_append_of_splitQuoted? found]
    -- Both quotes take a byte each, so that the slice ends behind the second one.
    have length : Text.byteLength ('"' :: (body ++ ['"'])) = 1 + Text.byteLength body + 1 := by
      rw [Text.byteLength, Text.byteLength_append, ← Nat.add_assoc]
      rfl
    have cut := Text.sliceTo_append ('"' :: (body ++ ['"'])) rest
    have behind := (parted ▸ left).add
    rw [← parted, length] at cut
    rw [length] at behind
    refine .after cut ?_
    dsimp only
    cases Json.unquote ('"' :: (body ++ ['"'])) with
    | ok content => exact .came behind
    | error fault => exact agree_halt _ left

theorem agree_scanRegex {position : Nat} {tail : List Char} (left : Text.LeftAt source position ('/' :: tail)) :
    Agree base source (Came source) (scanRegex base source position) (readRegex ('/' :: tail)) := by
  refine .after left.sliceFrom_eq ?_
  have first : Text.byteLength (('/' :: tail).take 1) = 1 := rfl
  rw [readRegex, first, List.drop_one, List.tail_cons, slashAt?_eq]
  cases found : splitLiteral? .start tail with
  | none => exact agree_halt _ left
  | some parts =>
    obtain ⟨body, rest⟩ := parts
    have closed : tail = body ++ '/' :: rest := (splitLiteral?_eq_some_iff.1 found).1
    have around : ['/'] ++ body ++ '/' :: rest = '/' :: tail := by simp [closed]
    have parted : '/' :: tail = (['/'] ++ body ++ ['/']) ++ rest := by simp [closed]
    have opened : Text.byteLength (['/'] ++ body) = 1 + Text.byteLength body := Text.byteLength_append ..
    have past : Text.byteLength (['/'] ++ body ++ ['/']) = 1 + Text.byteLength body + 1 := by
      rw [Text.byteLength_append, opened]
      rfl
    have behind := (parted ▸ left).add
    -- Three slices are taken: behind the literal, between its slashes and along its flags.
    have whole := Text.sliceFrom_append (['/'] ++ body ++ ['/']) rest
    have inner := Text.slice_append ['/'] body ('/' :: rest)
    have word := Text.slice_append (['/'] ++ body ++ ['/']) (rest.takeWhile Char.isLower) (rest.dropWhile Char.isLower)
    rw [List.append_assoc _ (rest.takeWhile _), List.takeWhile_append_dropWhile,
      Text.byteLength_append _ (rest.takeWhile _), ← Text.runLength_eq] at word
    rw [← parted, past] at whole word
    rw [opened, around] at inner
    rw [past] at behind
    refine .after whole (.after inner (.after word ?_))
    dsimp only
    cases Regex.Literal.make body (rest.takeWhile Char.isLower) with
    | ok literal => exact .came (Nat.add_assoc .. ▸ behind.run Char.isLower)
    | error refusal => exact .regex

theorem agree_scanWord {position : Nat} {rest : List Char} (left : Text.LeftAt source position rest)
    (skipped : Text.skipBlank rest = rest) :
    Agree base source (Came source) (scanWord base source position) (readWord rest) := by
  refine .token _ left (fun _ _ => .came) fun _ left => ?_
  rw [skipped] at left
  refine .token _ left (fun _ _ => .came) fun _ left => ?_
  rw [skipped] at left
  refine .token _ left (fun _ _ => .came) fun _ left => ?_
  rw [skipped] at left
  refine .token _ left (fun _ _ left => ?_) fun _ left => ?_
  · exact .then (follows_scanIdentifier left) fun _ _ _ => .came
  · rw [skipped] at left
    exact agree_halt _ left

/-! ## Lists and values -/

/-- A reader that passes over white space in front of its text. -/
def Blind (reader : Reader α) : Prop := ∀ text, reader (Text.skipBlank text) = reader text

theorem expect_skipBlank (token : String) (text : List Char) : expect token (Text.skipBlank text) = expect token text := by
  simp only [expect, eat?, Text.skipBlank_skipBlank]

theorem blind_readSeparated {item : Reader α} (blind : Blind item) (closing : String) (length : Nat) :
    Blind (readSeparated item closing length) := by
  intro text
  cases length with
  | zero => simp only [readSeparated, Text.skipBlank_skipBlank]
  | succ length => simp only [readSeparated, blind text]

theorem follows_scanSeparated {scan : Scan α} {item : Reader α} (follows : Follows base source scan item)
    (closing : String) (length : Nat) :
    Follows base source (scanSeparated base source scan closing length) (readSeparated item closing length) := by
  induction length with
  | zero =>
    intro position rest left
    obtain ⟨behind, skipped, there⟩ := scanBlank_eq left
    exact .after skipped (agree_halt _ there)
  | succ length ih =>
    intro position rest left
    refine .then (follows left) fun first position rest left => ?_
    refine .token _ left (fun _ _ left => ?_) fun _ left => ?_
    · exact .then (ih left) fun _ _ _ => .came
    · -- The scan has left the white space behind already, which the reader passes over once more.
      rw [← expect_skipBlank]
      exact (agree_scanExpected closing left).bind fun _ _ => .came

theorem follows_scanEnclosed {scan : Scan α} {item : Reader α} (follows : Follows base source scan item)
    (blind : Blind item) (opening closing : String) (length : Nat) :
    Follows base source (scanEnclosed base source scan opening closing length)
      (readEnclosed item opening closing length) := by
  intro position rest left
  refine (agree_scanExpected opening left).bind fun _ rest left => ?_
  refine .token _ left (fun _ _ => .came) fun _ left => ?_
  rw [← blind_readSeparated blind]
  exact follows_scanSeparated follows closing length left

theorem follows_scanEntry {scan : Scan Value} {value : Reader Value} (follows : Follows base source scan value) :
    Follows base source (scanEntry base source scan) (readEntry value) := by
  intro position rest left
  obtain ⟨behind, skipped, there⟩ := scanBlank_eq left
  refine .after skipped (.after there.sliceFrom_eq ?_)
  rw [readEntry]
  dsimp only
  by_cases quote : (Text.skipBlank rest).head? = some '"'
  · obtain ⟨tail, parted⟩ := List.head?_eq_some_iff.1 quote
    rw [if_neg (not_not.2 quote), if_neg (not_not.2 quote)]
    rw [parted] at there ⊢
    refine .then (agree_scanQuoted there) fun key position rest left => ?_
    refine (agree_scanExpected ":" left).bind fun position rest left => ?_
    exact .then (follows left) fun _ _ _ => .came
  · rw [if_pos quote, if_pos quote]
    exact agree_halt _ there

theorem blind_readEntry (value : Reader Value) : Blind (readEntry value) := by
  intro text
  simp only [readEntry, Text.skipBlank_skipBlank]

theorem follows_scanRecord {scan : Scan Value} {value : Reader Value} (follows : Follows base source scan value)
    (length : Nat) : Follows base source (scanRecord base source scan length) (readRecord value length) := by
  intro position rest left
  exact .then (follows_scanEnclosed (follows_scanEntry follows) (blind_readEntry value) _ _ length left)
    fun _ _ _ => .came

theorem blind_readValue (length depth : Nat) : Blind (readValue length depth) := by
  intro text
  cases depth <;> simp only [readValue, Text.skipBlank_skipBlank]

theorem follows_scanValue (length depth : Nat) :
    Follows base source (scanValue base source length depth) (readValue length depth) := by
  induction depth with
  | zero =>
    intro position rest left
    obtain ⟨behind, skipped, there⟩ := scanBlank_eq left
    exact .after skipped (agree_halt _ there)
  | succ depth ih =>
    intro position rest left
    obtain ⟨behind, skipped, there⟩ := scanBlank_eq left
    refine .after skipped (.after there.sliceFrom_eq ?_)
    have still := Text.skipBlank_skipBlank rest
    -- Both look at the same character, and go on alike for each kind of it.
    rw [readValue]
    cases parted : Text.skipBlank rest with
    | nil =>
      rw [parted] at there still
      exact agree_scanWord there still
    | cons c tail =>
      rw [parted] at there still
      by_cases brace : c = '{'
      · subst brace
        exact .then (follows_scanRecord ih length there) fun _ _ _ => .came
      by_cases bracket : c = '['
      · subst bracket
        exact .then (follows_scanEnclosed ih (blind_readValue length depth) _ _ length there) fun _ _ _ => .came
      by_cases quote : c = '"'
      · subst quote
        exact .then (agree_scanQuoted there) fun _ _ _ => .came
      by_cases slash : c = '/'
      · subst slash
        exact .then (agree_scanRegex there) fun _ _ _ => .came
      simp only [List.head?_cons]
      split
      · exact .then (follows_scanNumber there) fun _ _ _ => .came
      · exact agree_scanWord there still

/-! ## Schemas -/

theorem follows_scanLeaf (length : Nat) : Follows base source (scanLeaf base source length) (readLeaf length) := by
  intro position rest left
  refine (agree_scanExpected "z." left).bind fun position rest left => ?_
  refine .then (follows_scanIdentifier left) fun typeName position rest left => ?_
  refine (agree_scanExpected "(" left).bind fun position rest left => ?_
  refine .then (follows_scanRecord (follows_scanValue length length) length left) fun definition position rest left => ?_
  exact (agree_scanExpected ")" left).bind fun _ _ => .came

theorem follows_scanFieldName : Follows base source (scanFieldName base source) readFieldName := by
  intro position rest left
  obtain ⟨behind, skipped, there⟩ := scanBlank_eq left
  refine .after skipped (.after there.sliceFrom_eq ?_)
  rw [readFieldName]
  dsimp only
  by_cases quote : (Text.skipBlank rest).head? = some '"'
  · obtain ⟨tail, parted⟩ := List.head?_eq_some_iff.1 quote
    rw [if_pos quote, if_pos quote]
    rw [parted] at there ⊢
    exact .then (agree_scanQuoted there) fun _ _ _ => .came
  · rw [if_neg quote, if_neg quote]
    exact .then (follows_scanIdentifier there) fun _ _ _ => .came

variable {scan : Scan Schema} {schema : Reader Schema}

theorem follows_scanField (follows : Follows base source scan schema) :
    Follows base source (scanField base source scan) (readField schema) := by
  intro position rest left
  refine .then (follows_scanFieldName left) fun name position rest left => ?_
  refine (agree_scanExpected ":" left).bind fun position rest left => ?_
  exact .then (follows left) fun _ _ _ => .came

theorem blind_readField (schema : Reader Schema) : Blind (readField schema) := by
  intro text
  simp only [readField, readFieldName, Text.skipBlank_skipBlank]

theorem follows_scanWrapped (follows : Follows base source scan schema) :
    Follows base source (scanWrapped base source scan) (readWrapped schema) := by
  intro position rest left
  refine (agree_scanExpected "(" left).bind fun position rest left => ?_
  refine .then (follows left) fun inner position rest left => ?_
  exact (agree_scanExpected ")" left).bind fun _ _ => .came

theorem follows_scanShape (follows : Follows base source scan schema) (length : Nat) :
    Follows base source (scanShape base source scan length) (readShape schema length) := by
  intro position rest left
  refine (agree_scanExpected "(" left).bind fun position rest left => ?_
  refine .then (follows_scanEnclosed (follows_scanField follows) (blind_readField schema) _ _ length left)
    fun fields position rest left => ?_
  exact (agree_scanExpected ")" left).bind fun _ _ => .came

theorem follows_scanSchema (length depth : Nat) :
    Follows base source (scanSchema base source length depth) (readSchema length depth) := by
  induction depth with
  | zero =>
    intro position rest left
    obtain ⟨behind, skipped, there⟩ := scanBlank_eq left
    exact .after skipped (agree_halt _ there)
  | succ depth ih =>
    intro position rest left
    refine .token _ left (fun _ _ left => ?_) fun _ left => ?_
    · exact .then (follows_scanLeaf length left) fun _ _ _ => .came
    · -- As in rows, the scan is past the white space already.
      rw [← expect_skipBlank]
      refine (agree_scanExpected "z." left).bind fun constructor begins there => ?_
      refine .then (follows_scanIdentifier there) fun name position rest left => ?_
      dsimp only
      split
      · exact follows_scanShape ih length left
      split
      · exact .then (follows_scanWrapped ih left) fun _ _ _ => .came
      split
      · exact .then (follows_scanWrapped ih left) fun _ _ _ => .came
      split
      · exact .then (follows_scanWrapped ih left) fun _ _ _ => .came
      · exact agree_halt _ there

/-- A scan of a whole text comes to what the reader comes to. -/
theorem agree_scanWhole (base : Nat) (source : List Char) :
    Agree base source Eq (scanWhole base source) (readWhole source) := by
  refine .then (follows_scanSchema _ _ (.zero source)) fun schema position rest left => ?_
  obtain ⟨behind, skipped, there⟩ := scanBlank_eq left
  refine .after skipped ?_
  dsimp only
  by_cases ends : Text.skipBlank rest = []
  · rw [if_neg (by rw [there.lt_iff]; exact not_not.2 ends), ends, if_pos List.isEmpty_nil]
    exact .ok rfl
  · rw [if_pos (there.lt_iff.2 ends), if_neg (by simpa using ends)]
    exact agree_halt _ there

/-- There are no slips: a scan ends with the schema that is read, or with the error for the fault. -/
theorem scanWhole_eq (base : Nat) (source : List Char) :
    scanWhole base source = (readWhole source).mapError fun fault => .error (fault.error base source) := by
  have agree := agree_scanWhole base source
  generalize scanWhole base source = scanned, readWhole source = read at agree ⊢
  cases agree with
  | ok same => exact congrArg Except.ok same
  | unreadable left => simp only [Except.mapError, Fault.error, left.offsetOf_eq]
  | regex => rfl

/-- A fault arises where the text can be cut. -/
theorem leftAt_of_readWhole {source rest : List Char} {cause : Cause}
    (failed : readWhole source = .error (.unreadable cause rest)) : ∃ position, Text.LeftAt source position rest := by
  have agree := agree_scanWhole 0 source
  rw [failed] at agree
  generalize scanWhole 0 source = scanned at agree
  cases agree with
  | unreadable left => exact ⟨_, left⟩

end Expression

theorem Schema.boundary_of_ofExpression {source : List Char} {offset : Nat} {message : String}
    (failed : Schema.ofExpression source = .error (.unreadable offset message)) : Text.Boundary source offset := by
  unfold Schema.ofExpression at failed
  split at failed
  · cases failed
  · rename_i fault read
    cases fault with
    | regex refusal => cases failed
    | unreadable cause rest =>
      obtain ⟨position, left⟩ := Expression.leftAt_of_readWhole read
      have reckoned : 0 + Text.offsetOf source rest = position := by rw [Nat.zero_add, left.offsetOf_eq]
      obtain ⟨rfl, -⟩ := Error.unreadable.inj (Except.error.inj failed)
      exact reckoned ▸ left.boundary

end SchemaExport
