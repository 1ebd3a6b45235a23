import FlatExpr.Text.Digit
import FlatExpr.Text.Letter

/-!
# Text — CharClass

The class of a character: letter, decimal digit, or neither; and the two kinds of characters that
the grammar puts together from these and from punctuation.

* `isLetter_eq_false_of_isDigit`: no character is a letter and a digit.
-/

namespace FlatExpr.Text

/-- The class of a character. -/
inductive CharClass where
  | letter | digit | other
  deriving Repr, DecidableEq

/-- The class that a character belongs to. -/
def CharClass.of (c : Char) : CharClass :=
  if isLetter c then .letter else if isDigit c then .digit else .other

/-- A character of a name: a letter, a digit or an underscore. -/
def isNameChar (c : Char) : Bool := isLetter c || isDigit c || c == '_'

/-- The character of an operator. -/
def isOperatorChar (c : Char) : Bool := c == '+' || c == '-' || c == '*' || c == '/'

set_option maxRecDepth 20000 in
/-- No script's digits lie in a range of letters. -/
theorem digitZeros_avoid_letterRanges :
    (digitZeros.all fun base => letterRanges.all fun range =>
      Nat.blt range.2 base || Nat.ble (base + 10) range.1) = true := by
  decide +kernel

/-- No digit is a letter. -/
theorem isLetter_eq_false_of_isDigit {c : Char} (h : isDigit c = true) : isLetter c = false := by
  cases hc : isLetter c with
  | false => rfl
  | true =>
      obtain ⟨base, hbase, low, high⟩ := exists_zero_of_isDigit h
      obtain ⟨range, hrange, first, last⟩ := isLetter_iff.mp hc
      have apart := List.all_eq_true.mp
        (List.all_eq_true.mp digitZeros_avoid_letterRanges base hbase) range hrange
      simp only [Bool.or_eq_true, Nat.blt_eq, Nat.ble_eq] at apart
      omega

end FlatExpr.Text
