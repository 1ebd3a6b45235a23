import FlatExpr.Text.Blank
import FlatExpr.Text.Digit

/-!
# Text — Integer

Integers written out: digits of any script, perhaps behind a sign, perhaps between blanks.
Single underscores may stand between digits, to group them.
-/

namespace FlatExpr.Text

/-- The number of digits that can still be converted to a number. -/
def maxDigits : Nat := 4300

/-- The digits of a text that consists of digits, with single underscores between digits left
out. -/
def ungrouped? : List Char → Option (List Char)
  | [] => none
  | [c] => if isDigit c then some [c] else none
  | c :: '_' :: more => if isDigit c then (ungrouped? more).map (c :: ·) else none
  | c :: more => if isDigit c then (ungrouped? more).map (c :: ·) else none

/-- The natural number that a text of digits denotes, if there are not too many. -/
def natural? (text : List Char) : Option Nat :=
  match ungrouped? text with
  | some digits => if digits.length ≤ maxDigits then some (positional digits) else none
  | none => none

/-- The integer that a text denotes. -/
def integer? (text : List Char) : Option Int :=
  match trim text with
  | '-' :: body => (natural? body).map fun n => -Int.ofNat n
  | '+' :: body => (natural? body).map Int.ofNat
  | body => (natural? body).map Int.ofNat

example : integer? " -1_000 ".toList = some (-1000) ∧ integer? "1__0".toList = none ∧
    integer? "_1".toList = none ∧ integer? "- 1".toList = none := by decide +kernel

end FlatExpr.Text
