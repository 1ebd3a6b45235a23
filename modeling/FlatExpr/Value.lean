import FlatExpr.Double.Shortest
import FlatExpr.Expr

/-!
# Value

The values of parsers that are assembled at run time, and what stands in the places of a node.
A value is plain — nothing, a truth value, a number, a text, or a tuple, list or record of values
— or it is a node of an expression tree, whose operands may be values of any kind.

* `Value.ofExpr`: an expression as a value.
* `Value.printed`: the printed form; `Value.preorder`: the nodes of a tree from the root down,
  left before right.
-/

namespace FlatExpr

/-- A value.  A record has its members in the order of their keys. -/
inductive Value where
  | none
  | bool (value : Bool)
  | int (value : Int)
  | double (value : Double)
  | text (value : String)
  | tuple (items : List Value)
  | list (items : List Value)
  | record (members : List (String × Value))
  /-- A node without a kind of its own. -/
  | bare
  /-- The node of an integer. -/
  | number (value : Int)
  /-- The node of a variable. -/
  | name (text : String)
  /-- The node of an operator that stands alone. -/
  | operator (symbol : String)
  /-- The node of an assignment. -/
  | assign (target : String) (value : Value)
  /-- The node of two operands joined by an operator. -/
  | binary (symbol : String) (left right : Value)
  deriving Repr, Inhabited

namespace Value

/-- An expression as a value. -/
def ofExpr : Expr → Value
  | .bare => .bare
  | .number value => .number value
  | .name word => .name word
  | .operator symbol => .operator symbol
  | .assign target value => .assign target (ofExpr value)
  | .binary symbol left right => .binary symbol (ofExpr left) (ofExpr right)

/-- One character as a value. -/
def ofChar (c : Char) : Value := .text (String.ofList [c])

/-- Whether a value is a node. -/
def isNode : Value → Bool
  | .bare | .number _ | .name _ | .operator _ | .assign _ _ | .binary _ _ _ => true
  | _ => false

/-- The word for the type of a value; it heads the printed form of a node. -/
def typeName : Value → String
  | .none => "NoneType"
  | .bool _ => "bool"
  | .int _ => "int"
  | .double _ => "float"
  | .text _ => "str"
  | .tuple _ => "tuple"
  | .list _ => "list"
  | .record _ => "dict"
  | .bare => "Expr"
  | .number _ => "Number"
  | .name _ => "Variable"
  | .operator _ => "Operator"
  | .assign _ _ => "Assignment"
  | .binary _ _ _ => "BinOp"

/-! ### Printed form -/

/-- The printed form of an operator. -/
def printedOperator (symbol : String) : String := "Operator(" ++ printed symbol ++ ")"

mutual

/-- The printed form: of a node, its heading and its fields in brackets, parted by `", "`. -/
protected def printed : Value → String
  | .none => "None"
  | .bool value => if value then "True" else "False"
  | .int value => Text.decimal value
  | .double value => FlatExpr.printed value
  | .text value => FlatExpr.printed value
  | .tuple [item] => "(" ++ item.printed ++ ",)"
  | .tuple items => "(" ++ printedItems items ++ ")"
  | .list items => "[" ++ printedItems items ++ "]"
  | .record members => "\x7b" ++ printedMembers members ++ "\x7d"
  | .bare => "Expr()"
  | .number value => "Number(" ++ Text.decimal value ++ ")"
  | .name word => "Variable(" ++ FlatExpr.printed word ++ ")"
  | .operator symbol => printedOperator symbol
  | .assign target value =>
      "Assignment(" ++ FlatExpr.printed target ++ ", " ++ value.printed ++ ")"
  | .binary symbol left right =>
      "BinOp(" ++ printedOperator symbol ++ ", " ++ left.printed ++ ", " ++ right.printed ++ ")"

/-- Printed forms parted by `", "`. -/
def printedItems : List Value → String
  | [] => ""
  | [item] => item.printed
  | item :: more => item.printed ++ ", " ++ printedItems more

/-- The members of a record, each as its key, a colon and its value. -/
def printedMembers : List (String × Value) → String
  | [] => ""
  | [(key, value)] => FlatExpr.printed key ++ ": " ++ value.printed
  | (key, value) :: more =>
      FlatExpr.printed key ++ ": " ++ value.printed ++ ", " ++ printedMembers more

end

/-- A list is printed as its items in square brackets. -/
theorem printed_list (items : List Value) :
    (list items).printed = "[" ++ printedItems items ++ "]" := by
  rw [Value.printed]

instance : Printed Value := ⟨Value.printed⟩

instance : Printed Expr := ⟨fun e => printed (ofExpr e)⟩

/-! ### Listing -/

/-- What a node shows of itself when a tree is listed from the root down. -/
inductive Entry where
  | number (value : Int)
  | name (text : String)
  | operator (symbol : String)
  | assign (target : String)
  | binary (symbol : String)
  deriving Repr, DecidableEq

/-- The entries of a tree from the root down, left before right, in front of `rest`; bare nodes
and plain values have none. -/
def preorderOnto : Value → List Entry → List Entry
  | .number value, rest => .number value :: rest
  | .name word, rest => .name word :: rest
  | .operator symbol, rest => .operator symbol :: rest
  | .assign target value, rest => .assign target :: value.preorderOnto rest
  | .binary symbol left right, rest =>
      .binary symbol :: left.preorderOnto (right.preorderOnto rest)
  | _, rest => rest

/-- The entries of a tree from the root down, left before right. -/
def preorder (value : Value) : List Entry := value.preorderOnto []

/-- Listing in front of `rest` is listing, then `rest`. -/
theorem preorderOnto_eq (value : Value) (rest : List Entry) :
    value.preorderOnto rest = value.preorder ++ rest := by
  unfold preorder
  match value with
  | .assign target value =>
      simp only [preorderOnto, List.cons_append]
      rw [preorderOnto_eq value rest, preorder]
  | .binary symbol left right =>
      simp only [preorderOnto, List.cons_append]
      rw [preorderOnto_eq left, preorderOnto_eq right, preorderOnto_eq left (preorderOnto right []),
        preorder, preorder, List.append_assoc]
  | .number _ | .name _ | .operator _ => rfl
  | .none | .bool _ | .int _ | .double _ | .text _ | .tuple _ | .list _ | .record _ | .bare => rfl

example : Value.printed (.tuple [.none]) = "(None,)" ∧
    Value.printed (.assign "x" (.list [.number 1])) = "Assignment('x', [Number(1)])" := by
  decide +kernel

end Value

end FlatExpr
