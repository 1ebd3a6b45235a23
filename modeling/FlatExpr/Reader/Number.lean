import FlatExpr.Expr
import FlatExpr.Reader
import FlatExpr.Text.Integer

/-!
# Reader — Number

Reading a number: one or more decimal digits, scripts mixed at will, as many as there are.
-/

namespace FlatExpr.Reader

/-- Reads one digit. -/
def digit : Reader Char := satisfying Text.isDigit "digit"

/-- Reads a run of digits as a number; a run that cannot be converted is a failure. -/
def number : Reader Expr := fun text =>
  (digit.seq digit.many text).onSuccess fun (first, more) rest =>
    match Text.integer? (first :: more) with
    | some value => .pure (.success (.number value) rest)
    | none => .pure (.failure .numberTooLong)

end FlatExpr.Reader
