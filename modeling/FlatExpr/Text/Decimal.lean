/-!
# Text — Decimal

The plain decimal text of an integer: a minus sign for the negative ones, then the digits without
leading zeros.
-/

namespace FlatExpr.Text

/-- The decimal digits of a natural number, highest first; `0` has the one digit `0`. -/
def decimalDigits (n : Nat) : List Char := Nat.toDigits 10 n

/-- The plain decimal text of an integer. -/
def decimal : Int → String
  | .ofNat n => String.ofList (decimalDigits n)
  | .negSucc n => "-" ++ String.ofList (decimalDigits (n + 1))

example : decimal 0 = "0" ∧ decimal 1203 = "1203" ∧ decimal (-5) = "-5" := by decide

end FlatExpr.Text
