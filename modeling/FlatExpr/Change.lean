import FlatExpr.Construction
import FlatExpr.Value.View

/-!
# Change

The functions that a parser assembled at run time can apply to its value.  A function is applied
to values that it fits; on any other value it is refused.
-/

namespace FlatExpr

/-- A function for changing values. -/
inductive Change where
  /-- The number of items, or of characters. -/
  | length
  /-- A list of texts as one text. -/
  | join
  /-- The first item. -/
  | first
  /-- The second item. -/
  | second
  /-- The first two items, the other way round. -/
  | swap
  /-- The value twice. -/
  | dup
  /-- A list of the one value. -/
  | wrap
  /-- The first item in front of the second, which is a list. -/
  | cons
  /-- Always the same text. -/
  | const
  /-- Nothing. -/
  | none
  /-- The printed form. -/
  | print
  /-- A number node. -/
  | number
  /-- A variable. -/
  | name
  /-- An operator that stands alone. -/
  | operator
  /-- An assignment of the second item to the name that the first one is. -/
  | assign
  /-- An operation: the first item, and the pair of an operator and an operand. -/
  | binary
  /-- Always a fault. -/
  | refuse
  deriving Repr, DecidableEq

namespace Change

/-- A value that fits, or the fault of one that does not. -/
def fit {α : Type} : Option α → Except Fault α
  | some a => .ok a
  | Option.none => .error .unfit

/-- What the function makes of a value. -/
def call (change : Change) (value : Value) : Except Fault Value :=
  match change with
  | .length => fit (value.items?.map fun items => .int items.length)
  | .join => fit do
      let items ← value.items?
      let texts ← items.mapM Value.text?
      pure (.text (String.join texts))
  | .first => fit do (← value.items?)[0]?
  | .second => fit do (← value.items?)[1]?
  | .swap => fit (value.firstTwo?.map fun (a, b) => .tuple [b, a])
  | .dup => .ok (.tuple [value, value])
  | .wrap => .ok (.list [value])
  | .cons => fit do
      let (item, more) ← value.firstTwo?
      pure (.list (item :: (← more.list?)))
  | .const => .ok (.text "k")
  | .none => .ok .none
  | .print => .ok (.text (printed value))
  | .number => fit (value.integer?.map .number)
  | .name => fit (value.text?.map .name)
  | .operator => fit (value.text?.map .operator)
  | .assign => fit do
      let (target, value) ← value.firstTwo?
      pure (.assign (← target.text?) value)
  | .binary => do
      let (left, joint, right) ← fit do
        let (left, operation) ← value.firstTwo?
        let (joint, right) ← operation.firstTwo?
        pure (left, joint, right)
      Value.join joint left right
  | .refuse => .error .deliberate

end Change

end FlatExpr
