/-!
# Rule

The seven rules of the grammar and the names they are selected by.

* `Rule.ofName?_eq_some_iff`: a name selects a rule exactly if it is that rule's name.
-/

namespace FlatExpr

/-- A rule of the grammar. -/
inductive Rule where
  | number | variable | operator | factor | term | assignment | expr
  deriving Repr, DecidableEq, Inhabited

namespace Rule

/-- Every rule, in the order in which they are offered. -/
def all : List Rule := [.number, .variable, .operator, .factor, .term, .assignment, .expr]

/-- The name a rule is selected by. -/
def name : Rule → String
  | .number => "number"
  | .variable => "variable"
  | .operator => "operator"
  | .factor => "factor"
  | .term => "term"
  | .assignment => "assignment"
  | .expr => "expr"

/-- The rule of a name. -/
def ofName? (name : String) : Option Rule := all.find? (·.name == name)

/-- The names of all rules, parted by `", "`. -/
def names : String := ", ".intercalate (all.map name)

/-- A rule is found under its own name. -/
theorem ofName?_name (rule : Rule) : ofName? rule.name = some rule := by
  cases rule <;> decide

/-- A name selects a rule exactly if it is that rule's name. -/
theorem ofName?_eq_some_iff {text : String} {rule : Rule} :
    ofName? text = some rule ↔ text = rule.name := by
  constructor
  · intro h
    have := List.find?_some h
    exact (beq_iff_eq.mp this).symm
  · rintro rfl
    exact ofName?_name rule

end Rule

end FlatExpr
