import FlatExpr.Fault
import FlatExpr.Value

/-!
# Construction

How a node is put together from new nodes, nodes that have a name already and plain values.  A
construction is carried out from the leaves up, in the order operator, left operand, right
operand.

* `Construction.build`: the node of a construction, or the fault of the first operation in that
  order which is not joined by an operator.
-/

namespace FlatExpr

/-- The node of an operation, if it is joined by an operator. -/
def Value.join (joint left right : Value) : Except Fault Value :=
  match joint with
  | .operator symbol => .ok (.binary symbol left right)
  | other => .error (.notAnOperator other.typeName)

/-- How a node is put together. -/
inductive Construction where
  | bare
  | number (value : Int)
  | name (text : String)
  | operator (symbol : String)
  | assign (target : String) (value : Construction)
  | binary (joint left right : Construction)
  /-- A node that has a name already. -/
  | known (id : String)
  /-- A plain value. -/
  | plain (value : Value)
  deriving Repr, Inhabited

/-- Carries a construction out, with `find` for the nodes that have a name already. -/
def Construction.build (find : String → Except Fault Value) : Construction → Except Fault Value
  | .bare => .ok .bare
  | .number value => .ok (.number value)
  | .name text => .ok (.name text)
  | .operator symbol => .ok (.operator symbol)
  | .assign target value => do return .assign target (← value.build find)
  | .binary joint left right => do
      let joint ← joint.build find
      let left ← left.build find
      let right ← right.build find
      Value.join joint left right
  | .known id => find id
  | .plain value => .ok value

end FlatExpr
