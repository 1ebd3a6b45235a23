/-!
# Text — Hex

Hexadecimal digits in lower case, written to a fixed width.

* `length_hex`: a number is written with exactly the width asked for.
-/

namespace FlatExpr.Text

/-- The lowest `width` hexadecimal digits of `n`, highest first. -/
def hex : (width : Nat) → (n : Nat) → List Char
  | 0, _ => []
  | width + 1, n => hex width (n / 16) ++ [Nat.digitChar (n % 16)]

/-- A number is written with exactly the width asked for. -/
theorem length_hex (width n : Nat) : (hex width n).length = width := by
  induction width generalizing n with
  | zero => rfl
  | succ width ih => simp [hex, ih]

example : hex 2 0x7f = ['7', 'f'] ∧ hex 4 0xe9 = ['0', '0', 'e', '9'] := by decide

end FlatExpr.Text
