/-! Taking texts apart at words. -/

set_option autoImplicit false

namespace SchemaExport.Text

def dropStart? : List Char → List Char → Option (List Char)
  | [], text => some text
  | _ :: _, [] => none
  | expected :: start, c :: rest => if c = expected then dropStart? start rest else none

/-- A text around the first place where a separator stands. -/
def splitAt? (separator : List Char) : List Char → Option (List Char × List Char)
  | [] => none
  | c :: rest =>
    match dropStart? separator (c :: rest) with
    | some behind => some ([], behind)
    | none => (splitAt? separator rest).map fun (front, behind) => (c :: front, behind)

@[simp] theorem dropStart?_append (start rest : List Char) : dropStart? start (start ++ rest) = some rest := by
  induction start with
  | nil => rfl
  | cons c start ih => simp [dropStart?, ih]

theorem eq_append_of_dropStart? {start text rest : List Char} (found : dropStart? start text = some rest) :
    text = start ++ rest := by
  induction start generalizing text with
  | nil => simpa [dropStart?] using found
  | cons expected start ih =>
    cases text with
    | nil => simp [dropStart?] at found
    | cons c text =>
      by_cases same : c = expected
      · simp only [dropStart?, same, if_true] at found
        simp [same, ih found]
      · simp [dropStart?, same] at found

theorem eq_append_of_splitAt? {separator text front behind : List Char}
    (found : splitAt? separator text = some (front, behind)) : text = front ++ separator ++ behind := by
  induction text generalizing front with
  | nil => simp [splitAt?] at found
  | cons c text ih =>
    simp only [splitAt?] at found
    split at found
    · rename_i rest here
      simp only [Option.some.injEq, Prod.mk.injEq] at found
      obtain ⟨rfl, rfl⟩ := found
      simpa using eq_append_of_dropStart? here
    · obtain ⟨⟨inner, rest⟩, there, same⟩ := Option.map_eq_some_iff.1 found
      simp only [Prod.mk.injEq] at same
      obtain ⟨rfl, rfl⟩ := same
      simp [ih there]

end SchemaExport.Text
