import FlatExpr.Json

/-!
# Expr

Expression trees, what a reader produces.  An operation is always joined by an operator, so its
symbol stands in the node itself.

* `Expr.toJson`: a tree as a JSON record.
-/

namespace FlatExpr

/-- An expression tree. -/
inductive Expr where
  /-- A node without a kind of its own. -/
  | bare
  /-- An integer. -/
  | number (value : Int)
  /-- A variable, called by its name. -/
  | name (text : String)
  /-- An operator that stands alone. -/
  | operator (symbol : String)
  /-- A variable's name and the expression it stands for. -/
  | assign (target : String) (value : Expr)
  /-- Two operands joined by an operator. -/
  | binary (symbol : String) (left right : Expr)
  deriving Repr, DecidableEq, Inhabited

namespace Expr

/-- The record of an operator. -/
def operatorRecord (symbol : String) : Json :=
  .record [("kind", .text "operator"), ("op", .text symbol)]

/-- An expression as JSON: a record with the node's kind, then its fields in their order. -/
def toJson : Expr → Json
  | .bare => .record [("kind", .text "expr")]
  | .number value => .record [("kind", .text "number"), ("value", .int value)]
  | .name text => .record [("kind", .text "variable"), ("name", .text text)]
  | .operator symbol => operatorRecord symbol
  | .assign target value =>
      .record [("kind", .text "assignment"), ("variable", .text target), ("expr", toJson value)]
  | .binary symbol left right =>
      .record [("kind", .text "binop"), ("op", operatorRecord symbol), ("left", toJson left),
        ("right", toJson right)]

end Expr

end FlatExpr
