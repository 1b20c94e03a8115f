import SchemaExport.Proofs.Expression.Positions
import SchemaExport.Proofs.Module.Body

/-! Where the reading of a module stops.

The body begins at a byte that is found in the text without its white space at the end, and each line at one
that is reckoned from the lengths of the lines above it. An error is that of the first line that cannot be
read, and it points into that line.
-/

set_option autoImplicit false

namespace SchemaExport

open Text (LeftAt Boundary byteLength)

namespace Text

theorem splitAt?_eq_none_iff {separator text : List Char} (nonempty : separator ≠ []) :
    splitAt? separator text = none ↔ ¬ separator <:+: text := by
  induction text with
  | nil => simpa [splitAt?] using nonempty
  | cons c text ih =>
    rw [splitAt?, List.infix_cons_iff]
    cases here : dropStart? separator (c :: text) with
    | some behind =>
      have starts : separator <+: c :: text := ⟨behind, (eq_append_of_dropStart? here).symm⟩
      simp [starts]
    | none =>
      have apart : ¬ separator <+: c :: text := by
        rintro ⟨behind, same⟩
        rw [← same, dropStart?_append] at here
        cases here
      simp [ih, apart]

end Text

theorem Expression.Fault.error_eq_shift (fault : Fault) (base : Nat) (source : List Char) :
    fault.error base source = (fault.error 0 source).shift base := by
  rw [← error_add, Nat.zero_add]

namespace Module

theorem flatten_linesOf (text : List Char) : (linesOf text).flatten = text := by
  induction text with
  | nil => rfl
  | cons c rest ih =>
    rw [linesOf]
    split
    · rw [List.flatten_cons, ih]
      rfl
    · cases lines : linesOf rest with
      | nil =>
        rw [lines] at ih
        rw [← ih]
        rfl
      | cons line lines' =>
        rw [lines] at ih
        rw [← ih]
        rfl

/-! ## Scans of modules -/

def feedsAt? : List Char → Option Nat
  | [] => none
  | c :: rest =>
    match feedsAt? rest with
    | some byte => some (c.utf8Size + byte)
    | none => if c = '\n' ∧ rest.head? = some '\n' then some 0 else none

def scanLine (start : Nat) (line : List Char) : Except Halt (Option (String × Schema)) :=
  match Text.dropStart? declarationStart line with
  | none => .ok none
  | some rest =>
    match Text.splitAt? equalsSign rest with
    | none => .error (.error (.unreadable start "declaration without ` = `"))
    | some (name, expression) =>
      if expression.getLast? = some ';' then do
        let base := start + byteLength declarationStart + byteLength name + byteLength equalsSign
        let schema ← Expression.scanWhole base expression.dropLast
        pure (some (String.ofList name, schema))
      else .error (.error (.unreadable start "declaration without trailing `;`"))

def scanLines (start : Nat) : List (List Char) → Except Halt (Entries Schema)
  | [] => .ok []
  | line :: lines => do
    let found? ← scanLine start (Text.trimEnd line)
    let others ← scanLines (start + byteLength line) lines
    pure (found?.toList ++ others)

def scan (source : List Char) : Except Halt (Entries Schema) := do
  let start := match feedsAt? (Text.trimEnd source) with
    | some byte => byte + 2
    | none => 0
  let body ← Text.sliceFrom source start
  scanLines start (linesOf body)

theorem feedsAt?_eq (text : List Char) :
    feedsAt? text = (lastBlankLine? text).map fun before => byteLength (text.take before) := by
  induction text with
  | nil => rfl
  | cons c rest ih =>
    rw [feedsAt?, lastBlankLine?, ih]
    cases lastBlankLine? rest with
    | some before => rfl
    | none =>
      simp only [Option.map_none]
      split <;> rfl

theorem leftAt_bodyStart (source : List Char) :
    LeftAt source (byteLength (source.take (bodyStart source))) (source.drop (bodyStart source)) :=
  ⟨_, (List.take_append_drop ..).symm, rfl⟩

theorem byteLength_take_bodyStart (source : List Char) : byteLength (source.take (bodyStart source)) =
    match feedsAt? (Text.trimEnd source) with
    | some byte => byte + 2
    | none => 0 := by
  rw [feedsAt?_eq, bodyStart]
  cases found : lastBlankLine? (Text.trimEnd source) with
  | none => rfl
  | some before =>
    obtain ⟨front, rest, parted, rfl⟩ := eq_append_of_lastBlankLine? found
    obtain ⟨blanks, whole⟩ := Text.exists_append_trimEnd source
    -- The two feeds that were found are the last characters in front of the body.
    have above : source.take (front.length + 2) = front ++ ['\n', '\n'] := by
      rw [whole, parted, List.append_assoc, List.take_length_add_append]
      rfl
    simp only [above, parted, Option.map_some, List.take_left, Text.byteLength_append]
    rfl

theorem scanLine_eq (start : Nat) (line : List Char) : scanLine start line = (readLine start line).mapError .error := by
  unfold scanLine readLine
  cases Text.dropStart? declarationStart line with
  | none => rfl
  | some rest =>
    cases split : Text.splitAt? equalsSign rest with
    | none => simp only [split, Except.mapError]
    | some parts =>
      obtain ⟨name, expression⟩ := parts
      simp only [split]
      by_cases closed : expression.getLast? = some ';'
      · -- The one slice that could slip is that of the expression, whose scanner is the reader.
        rw [if_pos closed, if_pos closed, Expression.scanWhole_eq]
        cases Expression.readWhole expression.dropLast <;> rfl
      · rw [if_neg closed, if_neg closed]
        rfl

def Reading.result (reading : Reading) : Except Error (Entries Schema) :=
  match reading.fault with
  | none => .ok reading.declarations
  | some fault => .error fault

theorem scanLines_eq (start : Nat) (lines : List (List Char)) :
    scanLines start lines = (readLines start lines).result.mapError .error := by
  induction lines generalizing start with
  | nil => rfl
  | cons line lines ih =>
    rw [scanLines, readLines, scanLine_eq, ih]
    cases readLine start (Text.trimEnd line) with
    | error fault => rfl
    | ok found? =>
      obtain ⟨declarations, fault?⟩ := readLines (start + byteLength line) lines
      cases found? <;> cases fault? <;> rfl

/-- There are no slips. -/
theorem scan_eq (source : List Char) : scan source = (parse source).mapError .error := by
  rw [scan, ← byteLength_take_bodyStart, (leftAt_bodyStart source).sliceFrom_eq]
  exact scanLines_eq ..

/-! ## Errors -/

/-- Why the line of a declaration that begins at an offset cannot be read. -/
inductive Refusal (start : Nat) : List Char → Error → Prop where
  | unequal {rest : List Char} : ¬ equalsSign <:+: rest →
      Refusal start (declarationStart ++ rest) (.unreadable start "declaration without ` = `")
  | unclosed {rest name expression : List Char} : Text.splitAt? equalsSign rest = some (name, expression) →
      expression.getLast? ≠ some ';' →
      Refusal start (declarationStart ++ rest) (.unreadable start "declaration without trailing `;`")
  | misread {rest name expression : List Char} {error : Error} :
      Text.splitAt? equalsSign rest = some (name, expression ++ [';']) → Schema.ofExpression expression = .error error →
      Refusal start (declarationStart ++ rest) (error.shift (start + byteLength (declarationStart ++ name ++ equalsSign)))

/-- A line that is no declaration's, or that of a declaration which can be read. -/
def Passes (line : List Char) : Prop := declarationStart <+: line → ∃ entry, Denotes line entry

/-- A line of a module, with the lines of the body around it, behind lines that can be read. -/
structure Stop (source : List Char) where
  earlier : List (List Char)
  line : List Char
  later : List (List Char)
  lines_eq : linesOf (source.drop (bodyStart source)) = earlier ++ line :: later
  passes : ∀ other ∈ earlier, Passes (Text.trimEnd other)

def Stop.start {source : List Char} (stop : Stop source) : Nat :=
  byteLength (source.take (bodyStart source)) + byteLength stop.earlier.flatten

theorem ofExpression_eq_error_iff {source : List Char} {error : Error} : Schema.ofExpression source = .error error ↔
    ∃ fault, Expression.readWhole source = .error fault ∧ fault.error 0 source = error := by
  unfold Schema.ofExpression
  cases Expression.readWhole source <;> simp

theorem expression_position (start : Nat) (name : List Char) : start + byteLength (declarationStart ++ name ++ equalsSign) =
    start + byteLength declarationStart + byteLength name + byteLength equalsSign := by
  simp only [Text.byteLength_append, Nat.add_assoc]

theorem refusal_of_readLine {start : Nat} {line : List Char} {error : Error}
    (failed : readLine start line = .error error) : Refusal start line error := by
  unfold readLine at failed
  split at failed
  · cases failed
  · rename_i rest dropped
    obtain rfl := Text.eq_append_of_dropStart? dropped
    split at failed
    · rename_i unsplit
      cases failed
      exact .unequal ((Text.splitAt?_eq_none_iff (by decide)).1 unsplit)
    · rename_i name expression parted
      dsimp only at failed
      split at failed
      · rename_i closed
        obtain ⟨body, rfl⟩ := List.getLast?_eq_some_iff.1 closed
        rw [List.dropLast_concat] at failed
        split at failed
        · cases failed
        · -- An error of the expression counts from there, and is moved to where the expression begins.
          rename_i fault read
          rw [← expression_position, Expression.Fault.error_eq_shift] at failed
          obtain rfl := Except.error.inj failed
          exact .misread parted (ofExpression_eq_error_iff.2 ⟨fault, read, rfl⟩)
      · rename_i unclosed
        cases failed
        exact .unclosed parted unclosed

theorem Refusal.readLine {start : Nat} {line : List Char} {error : Error} (refusal : Refusal start line error) :
    readLine start line = .error error := by
  cases refusal with
  | unequal absent =>
    rw [Module.readLine, Text.dropStart?_append]
    simp only [(Text.splitAt?_eq_none_iff (by decide)).2 absent]
  | unclosed parted unclosed =>
    rw [Module.readLine, Text.dropStart?_append]
    simp only [parted, if_neg unclosed]
  | misread parted failed =>
    obtain ⟨fault, read, rfl⟩ := ofExpression_eq_error_iff.1 failed
    rw [Module.readLine, Text.dropStart?_append]
    simp only [parted, List.getLast?_concat, List.dropLast_concat, if_true, read]
    rw [← expression_position, Expression.Fault.error_eq_shift]

theorem passes_iff {line : List Char} : Passes line ↔ ∃ found?, readLine 0 line = .ok found? := by
  constructor
  · intro passes
    by_cases declared : declarationStart <+: line
    · obtain ⟨entry, denotes⟩ := passes declared
      exact ⟨some entry, denotes⟩
    · exact ⟨none, readLine_of_not_prefix declared 0⟩
  · rintro ⟨found?, read⟩ declared
    obtain ⟨entry, rfl⟩ : ∃ entry, found? = some entry :=
      Option.ne_none_iff_exists'.1 fun none => readLine_ne_none declared 0 (none ▸ read)
    exact ⟨entry, read⟩

theorem fault_readLines_of_error {start : Nat} {line : List Char} {lines : List (List Char)} {fault : Error}
    (first : readLine start (Text.trimEnd line) = .error fault) :
    (readLines start (line :: lines)).fault = some fault := by rw [readLines, first]

theorem fault_readLines_of_ok {start : Nat} {line : List Char} {lines : List (List Char)}
    {found? : Option (String × Schema)} (first : readLine start (Text.trimEnd line) = .ok found?) :
    (readLines start (line :: lines)).fault = (readLines (start + byteLength line) lines).fault := by
  rw [readLines, first]
  cases found? <;> rfl

theorem Refusal.not_passes {start : Nat} {line : List Char} {error : Error} (refusal : Refusal start line error) :
    ¬ Passes line := by
  intro passes
  obtain ⟨found?, read⟩ := passes_iff.1 passes
  cases refusal.readLine.symm.trans ((readLine_eq_ok_iff start).2 read)

/-- Reading stops at the first line that cannot be read. -/
theorem fault_readLines_iff {start : Nat} {lines : List (List Char)} {error : Error} :
    (readLines start lines).fault = some error ↔ ∃ earlier line later, lines = earlier ++ line :: later ∧
      (∀ other ∈ earlier, Passes (Text.trimEnd other)) ∧
        Refusal (start + byteLength earlier.flatten) (Text.trimEnd line) error := by
  induction lines generalizing start with
  | nil => simp [readLines]
  | cons line lines ih =>
    cases first : readLine start (Text.trimEnd line) with
    | error fault =>
      -- The first line is refused, so it does not pass and can only be the one where reading stops.
      have refusal := refusal_of_readLine first
      rw [fault_readLines_of_error first]
      constructor
      · rintro ⟨⟩
        exact ⟨[], line, lines, rfl, List.forall_mem_nil _, refusal⟩
      · rintro ⟨earlier, other, later, parted, passes, other⟩
        cases earlier with
        | nil =>
          obtain ⟨rfl, rfl⟩ := List.cons.inj parted
          exact congrArg some (Except.error.inj (first.symm.trans other.readLine))
        | cons before earlier =>
          obtain ⟨rfl, rfl⟩ := List.cons.inj parted
          exact absurd (passes line List.mem_cons_self) refusal.not_passes
    | ok found? =>
      -- The first line passes, so it is not refused and stands among the earlier ones.
      have here : Passes (Text.trimEnd line) := passes_iff.2 ⟨found?, (readLine_eq_ok_iff start).1 first⟩
      have further (earlier : List (List Char)) : start + byteLength (line :: earlier).flatten =
          start + byteLength line + byteLength earlier.flatten := by
        rw [List.flatten_cons, Text.byteLength_append, Nat.add_assoc]
      rw [fault_readLines_of_ok first, ih]
      constructor
      · rintro ⟨earlier, other, later, rfl, passes, refusal⟩
        exact ⟨line :: earlier, other, later, rfl, List.forall_mem_cons.2 ⟨here, passes⟩, further earlier ▸ refusal⟩
      · rintro ⟨earlier, other, later, parted, passes, refusal⟩
        cases earlier with
        | nil =>
          obtain ⟨rfl, rfl⟩ := List.cons.inj parted
          exact absurd here refusal.not_passes
        | cons before earlier =>
          obtain ⟨rfl, rfl⟩ := List.cons.inj parted
          exact ⟨earlier, other, later, rfl, (List.forall_mem_cons.1 passes).2, further earlier ▸ refusal⟩

theorem parse_eq_error_iff {source : List Char} {error : Error} : parse source = .error error ↔
    ∃ stop : Stop source, Refusal stop.start (Text.trimEnd stop.line) error := by
  have faulty : parse source = .error error ↔ (read source).fault = some error := by
    rw [parse]
    cases (read source).fault <;> simp
  rw [faulty, read, fault_readLines_iff]
  constructor
  · rintro ⟨earlier, line, later, lines, passes, refusal⟩
    exact ⟨⟨earlier, line, later, lines, passes⟩, refusal⟩
  · rintro ⟨⟨earlier, line, later, lines, passes⟩, refusal⟩
    exact ⟨earlier, line, later, lines, passes, refusal⟩

/-- An error of a line points into it. -/
theorem Refusal.within {source line behind : List Char} {start offset : Nat} {message : String}
    (refusal : Refusal start line (.unreadable offset message)) (left : LeftAt source start (line ++ behind)) :
    start ≤ offset ∧ offset ≤ start + byteLength line ∧ Boundary source offset := by
  generalize made : Error.unreadable offset message = error at refusal
  cases refusal with
  | unequal _ =>
    obtain ⟨rfl, -⟩ := Error.unreadable.inj made
    exact ⟨Nat.le_refl _, Nat.le_add_right .., left.boundary⟩
  | unclosed _ _ =>
    obtain ⟨rfl, -⟩ := Error.unreadable.inj made
    exact ⟨Nat.le_refl _, Nat.le_add_right .., left.boundary⟩
  | @misread rest name expression inner parted failed =>
    cases inner with
    | unreadable inside told =>
      have moved : offset = inside + (start + byteLength (declarationStart ++ name ++ equalsSign)) :=
        (Error.unreadable.inj made).1
      -- The error of the expression lies within it, and the expression behind the name on the line.
      obtain ⟨after, front, rfl, same⟩ := Schema.boundary_of_ofExpression failed
      have whole : declarationStart ++ rest =
          declarationStart ++ name ++ equalsSign ++ front ++ (after ++ [';']) := by
        simp [Text.eq_append_of_splitAt? parted]
      rw [whole, List.append_assoc] at left
      have there := left.add
      rw [whole, Text.byteLength_append _ (after ++ _)]
      rw [Text.byteLength_append _ front, same] at there ⊢
      have reckoned : start + (byteLength (declarationStart ++ name ++ equalsSign) + inside) = offset := by omega
      rw [reckoned] at there
      exact ⟨by omega, by omega, there.boundary⟩
    | _ => cases made

theorem Stop.leftAt {source : List Char} (stop : Stop source) :
    LeftAt source stop.start (stop.line ++ stop.later.flatten) := by
  have body := flatten_linesOf (source.drop (bodyStart source))
  rw [stop.lines_eq, List.flatten_append, List.flatten_cons] at body
  exact (body ▸ leftAt_bodyStart source).add

theorem Stop.within {source : List Char} (stop : Stop source) {offset : Nat} {message : String}
    (refusal : Refusal stop.start (Text.trimEnd stop.line) (.unreadable offset message)) :
    stop.start ≤ offset ∧ offset ≤ stop.start + byteLength (Text.trimEnd stop.line) ∧ Boundary source offset := by
  obtain ⟨blanks, whole⟩ := Text.exists_append_trimEnd stop.line
  have left := stop.leftAt
  rw [whole, List.append_assoc] at left
  exact refusal.within left

/-- Neither an expression nor a module is cut where it cannot be, and an error points to a byte where it can.
The error of a module is that of the first line of a declaration that cannot be read, and points into it. -/
theorem errors_point_inside (source : List Char) :
    Expression.scanWhole 0 source = (Schema.ofExpression source).mapError .error ∧
    scan source = (parse source).mapError .error ∧
    (∀ offset message, Schema.ofExpression source = .error (.unreadable offset message) ∨
      parse source = .error (.unreadable offset message) → offset ≤ byteLength source ∧ Boundary source offset) ∧
    ∀ error, parse source = .error error ↔
      ∃ stop : Stop source, Refusal stop.start (Text.trimEnd stop.line) error ∧
        ∀ offset message, error = .unreadable offset message →
          stop.start ≤ offset ∧ offset ≤ stop.start + byteLength (Text.trimEnd stop.line) := by
  have expression : Expression.scanWhole 0 source = (Schema.ofExpression source).mapError .error := by
    rw [Expression.scanWhole_eq, Schema.ofExpression]
    cases Expression.readWhole source <;> rfl
  refine ⟨expression, scan_eq source, ?_, fun error => ?_⟩
  · rintro offset message (failed | failed)
    · have boundary := Schema.boundary_of_ofExpression failed
      exact ⟨boundary.le, boundary⟩
    · obtain ⟨stop, refusal⟩ := parse_eq_error_iff.1 failed
      obtain ⟨-, -, boundary⟩ := stop.within refusal
      exact ⟨boundary.le, boundary⟩
  · rw [parse_eq_error_iff]
    constructor
    · rintro ⟨stop, refusal⟩
      refine ⟨stop, refusal, ?_⟩
      rintro offset message rfl
      obtain ⟨below, above, -⟩ := stop.within refusal
      exact ⟨below, above⟩
    · rintro ⟨stop, refusal, -⟩
      exact ⟨stop, refusal⟩

/-- An error behind characters of two bytes, in the second declaration. -/
theorem errors_point_inside_wide :
    let source := "// \u00e9\n\nexport const A = z.object(\x7b\x7d);\n  junk\n".toList ++
      "export const B = z.object(\x7b\"\u00fc\":z.nope()\x7d);\n".toList
    let error := Error.unreadable 79 "unknown constructor \x60z.nope\x60"
    parse source = .error error ∧ scan source = .error (.error error) ∧
      79 ≤ byteLength source ∧ Boundary source 79 ∧
      ∃ stop : Stop source, Refusal stop.start (Text.trimEnd stop.line) error ∧
        stop.start ≤ 79 ∧ 79 ≤ stop.start + byteLength (Text.trimEnd stop.line) := by
  intro source error
  obtain ⟨-, scanned, inside, stops⟩ := errors_point_inside source
  have failed : parse source = .error error := by
    have fault : (read source).fault = some error := by decide
    rw [parse, fault]
  obtain ⟨within, boundary⟩ := inside _ _ (.inr failed)
  obtain ⟨stop, refusal, points⟩ := (stops error).1 failed
  exact ⟨failed, by rw [scanned, failed]; rfl, within, boundary, stop, refusal, points _ _ rfl⟩

end Module
end SchemaExport
