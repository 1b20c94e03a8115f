import SchemaExport.Files.Fault
import SchemaExport.Regex.Literal

/-! Everything that can be refused: files, regular expressions, generated text and documents. -/

set_option autoImplicit false

namespace SchemaExport

inductive Error where
  | unwritable (path : String) (cause : FileFault)
  | regex (refusal : Regex.Refusal)
  | unreadable (offset : Nat) (message : String)
  | document (path : String) (message : String)
  deriving DecidableEq, Repr

def Error.message : Error → String
  | .unwritable path cause => "failed to write " ++ path ++ ": " ++ cause.message
  | .regex refusal => refusal.text
  | .unreadable offset message => "parse error at offset " ++ toString offset ++ ": " ++ message
  | .document path message => "invalid schema document at " ++ path ++ ": " ++ message

theorem bind_eq_ok {ε α β : Type} {first : Except ε α} {next : α → Except ε β} {result : β} :
    (first >>= next) = .ok result ↔ ∃ value, first = .ok value ∧ next value = .ok result := by
  cases first with
  | error fault => exact ⟨nofun, fun ⟨_, impossible, _⟩ => nomatch impossible⟩
  | ok value => exact ⟨fun done => ⟨value, rfl, done⟩, fun ⟨_, same, done⟩ => Except.ok.inj same ▸ done⟩

end SchemaExport
