import SchemaExport.Proofs.Expression.RoundTrip
import SchemaExport.Proofs.Json.Range

/-! Trees with numbers that are not integers.

A double is printed with its shortest digits, which round to it. The reader of numbers rounds a significand,
a power of ten and then their product or quotient. The double comes back when the first two lose nothing;
otherwise its neighbour may.
-/

set_option autoImplicit false

namespace SchemaExport

open Expression

namespace Number

def reread : Number → Number
  | .integer value => .integer value
  | .double value => .double value.reread

def Fast : Number → Prop
  | .integer _ => True
  | .double value => value.Fast

theorem Fast.reread_eq {content : Number} (fast : content.Fast) : content.reread = content := by
  cases content with
  | integer _ => rfl
  | double _ => exact congrArg double (Decimal.Double.Fast.reread_eq fast)

end Number

/-- The conditions of a value that prints without loss, with any double for a number. -/
def Value.Portable (key? : Option String) : Value → Prop
  | .number (.double _) => True
  | value => value.Lossless key?

theorem Value.Portable.legible {key? : Option String} {value : Value} (portable : value.Portable key?) :
    value.Legible Number.reread key? := by
  cases value with
  | number content =>
    cases content with
    | integer _ => exact Json.readNumber_integerText portable
    | double content => exact content.numeral_text
  | _ => exact portable

namespace Schema

/-- A printed tree is read back with what the reader of numbers makes of the digits of each double: as it was
when that is the same double everywhere, as it is on the fast path. -/
theorem ofExpression_print_reread (schema : Schema) (formed : schema.WellFormed) (portable : schema.Printable Value.Portable) :
    ofExpression (print schema) = .ok (schema.renumber Number.reread) ∧
      (ofExpression (print schema) = .ok schema ↔ schema.OnNumbers fun content => content.reread = content) ∧
      (schema.OnNumbers Number.Fast → ofExpression (print schema) = .ok schema) := by
  have legible : schema.Printable (Value.Legible Number.reread) := portable.imp fun _ _ => Value.Portable.legible
  have read : ofExpression (print schema) = .ok (schema.renumber Number.reread) := by
    rw [ofExpression, readWhole_print_renumber formed legible]
  have same : ofExpression (print schema) = .ok schema ↔ schema.OnNumbers fun content => content.reread = content := by
    rw [read, Except.ok.injEq, renumber_eq_self_iff]
  exact ⟨read, same, fun fast => same.2 (fast.imp fun _ => Number.Fast.reread_eq)⟩

theorem ofExpression_print_reread_half :
    let bound : Decimal.Double := ⟨false, 301 * 2 ^ 44, 1029, by decide⟩
    let schema := leaf (.make "ZodAny" (.ofEntries [("bound", .number (.double bound))]))
    bound.text = "150.5".toList ∧ schema.WellFormed ∧ schema.Printable Value.Portable ∧ schema.OnNumbers Number.Fast ∧
      ofExpression (print schema) = .ok schema := by
  intro bound schema
  have text : bound.text = "150.5".toList := by decide +kernel
  have written : bound.written = ⟨1505, -1⟩ := by decide +kernel
  have formed : schema.WellFormed :=
    Leaf.wellFormed_make (by simp [Value.Everywhere, Value.Distinct]) "ZodAny"
  have name : (Value.text "ZodAny").Portable (some typeNameKey) := by
    rintro key ⟨⟩ named
    exact absurd named (by decide)
  have portable : schema.Printable Value.Portable := ⟨⟨by decide, forall_mem_of_all (by decide)⟩, trivial, trivial, name, trivial⟩
  have fast : bound.Fast := by
    obtain ⟨value, -, same⟩ := Decimal.Double.exists_units_eq (by decide : 1505 < 2 ^ 53) (Nat.zero_le 900)
    exact ⟨⟨value, by rw [same, written, Nat.pow_zero, Nat.mul_one]⟩, by rw [written]; decide⟩
  have onFast : schema.OnNumbers Number.Fast := ⟨trivial, fast, trivial, trivial⟩
  exact ⟨text, formed, portable, onFast, (ofExpression_print_reread schema formed portable).2.2 onFast⟩

/-- The quotient of one and the nearest double to `10 ^ 23` is not the nearest double to `10 ^ -23`. -/
theorem ofExpression_print_inexact :
    let tiny : Decimal.Double := ⟨false, 6805647338418769, 945, by decide⟩
    let schema := leaf (.make "ZodAny" (.ofEntries [("v", .number (.double tiny))]))
    tiny.text = "1e-23".toList ∧ (ofExpression (print schema)).toOption.map (same schema) = some false := by
  intro tiny schema
  refine ⟨?_, ?_⟩ <;> decide +kernel

end Schema
end SchemaExport
