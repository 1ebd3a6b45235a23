import FlatExpr.Double
import FlatExpr.Printed

/-!
# Double — Shortest

The printed form of a double: the fewest decimal digits that are read back as the number, and of
those the nearest to it.  They are written positionally from `0.0001` to below `10 ^ 16`, with at
least one digit on either side of the point, and otherwise with a signed exponent of at least two
digits.

* `readsBack`: whether a decimal lies among the numbers that are rounded to a double.
-/

namespace FlatExpr

namespace Double

/-! ### The digits -/

/-- The numbers that are rounded to a positive double, and the double itself, counted in common
small steps, of which `unit` make one step of a decimal grid. -/
structure Surroundings where
  /-- The double itself. -/
  middle : Nat
  /-- Halfway to the double below. -/
  low : Nat
  /-- Halfway to the double above. -/
  high : Nat
  /-- Whether the two halfway points are rounded to the double, which happens to an even one. -/
  closed : Bool
  /-- A step of the grid. -/
  unit : Nat

/-- The surroundings of `significand * 2 ^ exponent` on the grid of the multiples of
`10 ^ place`.  The double below a power of two is only half as far away as the one above, unless
both are among the numbers nearest to zero. -/
def surroundings (significand : Nat) (exponent place : Int) : Surroundings :=
  let quarter := Nat.pow 2 (exponent - 2).toNat * Nat.pow 10 (-place).toNat
  let narrow := significand = Nat.pow 2 52 ∧ leastExponent < exponent
  { middle := 4 * significand * quarter
    low := (if narrow then 4 * significand - 1 else 4 * significand - 2) * quarter
    high := (4 * significand + 2) * quarter
    closed := significand % 2 = 0
    unit := Nat.pow 10 place.toNat * Nat.pow 2 (2 - exponent).toNat }

/-- Whether a multiple of the grid's step is rounded to the double. -/
def readsBack (around : Surroundings) (n : Nat) : Bool :=
  (decide (around.low < n * around.unit) && decide (n * around.unit < around.high)) ||
    (around.closed && (n * around.unit == around.low || n * around.unit == around.high))

/-- The multiple of the grid's step that is read back as the double, the nearer one if the
multiples below and above it both are, and the even one if they are equally near. -/
def multiple? (around : Surroundings) : Option Nat :=
  let below := around.middle / around.unit
  let centre := (2 * below + 1) * around.unit
  match readsBack around below, readsBack around (below + 1) with
  | true, true =>
      if 2 * around.middle < centre then some below
      else if centre < 2 * around.middle then some (below + 1)
      else if below % 2 = 0 then some below else some (below + 1)
  | true, false => some below
  | false, true => some (below + 1)
  | false, false => none

/-- A place above which no digit of `significand * 2 ^ exponent` stands. -/
def topPlace (significand : Nat) (exponent : Int) : Int :=
  let whole := significand * Nat.pow 2 exponent.toNat / Nat.pow 2 (-exponent).toNat
  if whole = 0 then
    1 - Int.ofNat (Text.decimalDigits (Nat.pow 2 (-exponent).toNat / significand)).length
  else Int.ofNat (Text.decimalDigits whole).length

/-- The shortest decimal that is read back as `significand * 2 ^ exponent`, as digits and the
place of the last one: the one found on the coarsest grid.  Were there none with seventeen digits,
it would be the exact value. -/
def shortest (significand : Nat) (exponent : Int) : Nat × Int :=
  let found? (k : Nat) : Option (Nat × Int) :=
    let place := topPlace significand exponent - k
    (multiple? (surroundings significand exponent place)).map fun n => (n, place)
  ((List.range 19).findSome? found?).getD
    (significand * Nat.pow 2 exponent.toNat * Nat.pow 5 (-exponent).toNat, min exponent 0)

/-! ### The layout -/

/-- A run of zeros. -/
def zeros (count : Int) : List Char := List.replicate count.toNat '0'

/-- Digits written out with a point, the first `point` of them in front of it. -/
def positional (digits : List Char) (point : Int) : List Char :=
  if point ≤ 0 then '0' :: '.' :: (zeros (-point) ++ digits)
  else if Int.ofNat digits.length ≤ point then
    digits ++ zeros (point - digits.length) ++ ['.', '0']
  else digits.take point.toNat ++ '.' :: digits.drop point.toNat

/-- An exponent with its sign and at least two digits. -/
def exponentText (exponent : Int) : List Char :=
  let digits := Text.decimalDigits exponent.natAbs
  (if exponent < 0 then '-' else '+') :: (List.replicate (2 - digits.length) '0' ++ digits)

/-- Digits written with one of them in front of the point, and an exponent. -/
def scientific (digits : List Char) (exponent : Int) : List Char :=
  digits.take 1 ++ (if digits.length ≤ 1 then [] else '.' :: digits.drop 1) ++
    'e' :: exponentText exponent

/-- The layout of digits of which the last stands at a place. -/
def layout (digits : Nat) (place : Int) : List Char :=
  let all := Text.decimalDigits digits
  let kept := (all.reverse.dropWhile (· == '0')).reverse
  let point := Int.ofNat all.length + place
  if -4 < point ∧ point ≤ 16 then positional kept point else scientific kept (point - 1)

/-- The printed form of a double. -/
protected def printed : Double → String
  | .infinite negative => if negative then "-inf" else "inf"
  | .finite negative significand exponent =>
      let (digits, place) := shortest significand exponent
      (if negative then "-" else "") ++
        (if significand = 0 then "0.0" else String.ofList (layout digits place))

instance : Printed Double := ⟨Double.printed⟩

example : printed (ofDecimal false 30000000000000004 (-17)) = "0.30000000000000004" ∧
    printed (ofDecimal false 1 16) = "1e+16" ∧ printed (ofDecimal true 12345 (-8)) = "-0.00012345" ∧
    printed (ofDecimal false 1 23) = "1e+23" ∧ printed (ofDecimal false 5 (-324)) = "5e-324" ∧
    printed (ofDecimal true 0 0) = "-0.0" := by decide +kernel

end Double

end FlatExpr
