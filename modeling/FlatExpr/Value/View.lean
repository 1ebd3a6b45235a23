import FlatExpr.Text.Integer
import FlatExpr.Value

/-!
# Value — View

What functions see of a value: its items, the first two of them, its text, the integer that it is
or denotes.
-/

namespace FlatExpr.Value

/-- The items of a tuple or a list, and the characters of a text. -/
def items? : Value → Option (List Value)
  | .tuple items => some items
  | .list items => some items
  | .text value => some (value.toList.map ofChar)
  | _ => Option.none

/-- The first two items. -/
def firstTwo? (value : Value) : Option (Value × Value) :=
  match value.items? with
  | some (first :: second :: _) => some (first, second)
  | _ => Option.none

/-- The text of a value that is a text. -/
def text? : Value → Option String
  | .text value => some value
  | _ => Option.none

/-- The items of a value that is a list. -/
def list? : Value → Option (List Value)
  | .list items => some items
  | _ => Option.none

/-- The integer that a value is, or denotes as a text. -/
def integer? : Value → Option Int
  | .int value => some value
  | .text value => Text.integer? value.toList
  | _ => Option.none

end FlatExpr.Value
