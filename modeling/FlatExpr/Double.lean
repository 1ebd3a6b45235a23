import FlatExpr.Text.Decimal

/-!
# Double

Floating-point numbers of double precision: a significand below `2 ^ 53` times a power of two
from `2 ^ -1074` to `2 ^ 971`.  A number is read from the decimal it is written as, rounded to
the nearest, halves to the even significand; all arithmetic is exact.

* `Double.ofDecimal`: the number nearest to a decimal.
* `Double.dyadic?`: what a finite number denotes, as a quotient by a power of two.
-/

namespace FlatExpr

/-- A floating-point number of double precision. -/
inductive Double where
  /-- Plus or minus `significand * 2 ^ exponent`; zero has either sign. -/
  | finite (negative : Bool) (significand : Nat) (exponent : Int)
  /-- A number beyond the largest finite one. -/
  | infinite (negative : Bool)
  deriving Repr, DecidableEq, Inhabited

namespace Double

/-- The exponent of the numbers nearest to zero. -/
def leastExponent : Int := -1074

/-- The exponent of the largest numbers. -/
def greatestExponent : Int := 971

/-! ### Rounding -/

/-- A quotient rounded to the nearest natural number, halves to the even one. -/
def roundedQuotient (dividend divisor : Nat) : Nat :=
  let whole := dividend / divisor
  let twice := 2 * (dividend % divisor)
  if twice < divisor then whole
  else if divisor < twice then whole + 1
  else if whole % 2 = 0 then whole else whole + 1

/-- The exponent of the greatest power of two that is no greater than a positive quotient. -/
def binaryScale (dividend divisor : Nat) : Int :=
  let scale := Int.ofNat dividend.log2 - Int.ofNat divisor.log2
  if divisor * Nat.pow 2 scale.toNat ≤ dividend * Nat.pow 2 (-scale).toNat then scale
  else scale - 1

/-- The double nearest to a quotient, with a sign. -/
def nearest (negative : Bool) (dividend divisor : Nat) : Double :=
  if dividend = 0 then .finite negative 0 leastExponent
  else
    let exponent := max (binaryScale dividend divisor - 52) leastExponent
    let significand := roundedQuotient (dividend * Nat.pow 2 (-exponent).toNat)
      (divisor * Nat.pow 2 exponent.toNat)
    let (significand, exponent) :=
      if significand = Nat.pow 2 53 then (Nat.pow 2 52, exponent + 1) else (significand, exponent)
    if greatestExponent < exponent then .infinite negative
    else .finite negative significand exponent

/-- The double nearest to `digits * 10 ^ exponent`, with a sign.  Decimals far above the largest
double and far below the least are not multiplied out. -/
def ofDecimal (negative : Bool) (digits : Nat) (exponent : Int) : Double :=
  let scale := Int.ofNat (Text.decimalDigits digits).length + exponent
  if digits = 0 ∨ scale < -330 then .finite negative 0 leastExponent
  else if 310 < scale then .infinite negative
  else nearest negative (digits * Nat.pow 10 exponent.toNat) (Nat.pow 10 (-exponent).toNat)

/-! ### What a number denotes -/

/-- What a finite number denotes, as a numerator and the power of two that divides it. -/
def dyadic? : Double → Option (Int × Nat)
  | .finite negative significand exponent =>
      let magnitude := Int.ofNat (significand * Nat.pow 2 exponent.toNat)
      some (if negative then -magnitude else magnitude, (-exponent).toNat)
  | .infinite _ => none

example : ofDecimal false 9007199254740993 0 = .finite false 4503599627370496 1 ∧
    ofDecimal false 15 (-1) = .finite false 6755399441055744 (-52) ∧
    ofDecimal false 18 307 = .infinite false ∧ ofDecimal true 0 5 = .finite true 0 (-1074) ∧
    ofDecimal false 3 (-324) = .finite false 1 (-1074) := by decide +kernel

end Double

end FlatExpr
