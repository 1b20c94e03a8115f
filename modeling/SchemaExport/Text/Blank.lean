/-! White space, as the Unicode property `White_Space` draws it, and text without it at an end. -/

set_option autoImplicit false

namespace SchemaExport.Text

/-- The characters with the property `White_Space`; U+FEFF and U+200B do not have it. -/
def isBlank (c : Char) : Bool :=
  c == ' ' || (9 ≤ c.toNat && c.toNat ≤ 13) || c.toNat == 0x85 || c.toNat == 0xA0 ||
  c.toNat == 0x1680 || (0x2000 ≤ c.toNat && c.toNat ≤ 0x200A) || c.toNat == 0x2028 ||
  c.toNat == 0x2029 || c.toNat == 0x202F || c.toNat == 0x205F || c.toNat == 0x3000

def skipBlank (text : List Char) : List Char := text.dropWhile isBlank

def trimEnd (text : List Char) : List Char := (text.reverse.dropWhile isBlank).reverse

theorem exists_append_trimEnd (text : List Char) : ∃ blank, text = trimEnd text ++ blank := by
  obtain ⟨front, same⟩ := List.dropWhile_suffix (p := isBlank) (l := text.reverse)
  refine ⟨front.reverse, ?_⟩
  rw [trimEnd, ← List.reverse_append, same, List.reverse_reverse]

end SchemaExport.Text
