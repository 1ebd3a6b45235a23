import FlatExpr.Parser.Character
import FlatExpr.Reader.Number
import FlatExpr.Stack
import FlatExpr.Value

/-!
# Grammar

The grammar of flat expressions.  Operators have no precedence: a chain of operations is read
strictly from left to right.

```text
variable   = (letter | digit | "_")*
number     = digit digit*
operator   = "+" | "-" | "*" | "/"
factor     = number | variable
term       = factor operator factor
expr       = term (operator factor)* | assignment | factor
assignment = variable "=" expr
```

Only an assignment refers back to the grammar, by one reference to `expr`; references are followed
as deep as there is room on the stack.

* `Rule.read`: reads a text by a rule; assignments nested too deeply stop the run.
* `Rule.parse`: the same, with that stop turned into a failure.
* `parseByName`: the rule given by its name.
-/

namespace FlatExpr

namespace Grammar

variable {ρ : Type → Type}

/-! ### Operands and operators -/

/-- A character of a name. -/
def nameChar : Parser ρ Char :=
  ((Parser.ofPrimitive .letter).orElse (Parser.ofPrimitive .digit)).orElse
    (Parser.ofPrimitive .underscore)

/-- The longest run of name characters, possibly empty. -/
def word : Parser ρ String := nameChar.many.map String.ofList

/-- A variable, called by the longest run of name characters. -/
def name : Parser ρ Expr := word.map .name

/-- One or more digits. -/
def number : Parser ρ Expr := .leaf .number Reader.number

/-- The character of an operator. -/
def symbol : Parser ρ Char :=
  (((Parser.ofPrimitive .addition).orElse (Parser.ofPrimitive .subtraction)).orElse
    (Parser.ofPrimitive .multiplication)).orElse (Parser.ofPrimitive .division)

/-- An operator that stands alone. -/
def operator : Parser ρ Expr := symbol.map fun c => .operator (String.ofList [c])

/-- A number or else a variable. -/
def factor : Parser ρ Expr := number.orElse name

/-- An operator and the operand behind it. -/
def operation : Parser ρ (Expr × Expr) := operator.seq factor

/-! ### Chains and assignments -/

/-- Two expressions joined by an operator; anything else in the operator's place is refused. -/
def join (joint left right : Expr) : Except Fault Expr :=
  match joint with
  | .operator symbol => .ok (.binary symbol left right)
  | other => .error (.notAnOperator (Value.ofExpr other).typeName)

/-- Two operands joined by an operator. -/
def term : Parser ρ Expr :=
  (factor.seq operation).apply fun (left, joint, right) => ([], join joint left right)

/-- The operations, joined onto an expression from left to right. -/
def joinAll (first : Expr) (more : List (Expr × Expr)) : Except Fault Expr :=
  more.foldlM (fun left (joint, right) => join joint left right) first

/-- Joins the operations behind a term onto it, noting that if there are any. -/
def fold (chain : Expr × List (Expr × Expr)) : List Note × Except Fault Expr :=
  let (first, more) := chain
  (if more.isEmpty then [] else [.folded first more], joinAll first more)

/-- A term and the operations behind it. -/
def chain : Parser ρ Expr := (term.seq operation.many).apply fold

/-- A name, an equals sign and an expression; `self` refers to `expr`. -/
def assignment (self : ρ Expr) : Parser ρ Expr :=
  ((word.seq (Parser.character '=')).seq (.later self)).map
    fun ((target, _), value) => .assign target value

/-- A chain, else an assignment, else a single operand; `self` refers to `expr`. -/
def expr (self : ρ Expr) : Parser ρ Expr := (chain.orElse (assignment self)).orElse factor

/-! ### The grammar's reference to itself -/

/-- The reference by which the grammar refers to itself. -/
inductive Self : Type → Type where
  /-- The rule `expr`. -/
  | expr : Self Expr

/-- What the reference stands for. -/
def resolve : Resolver Self
  | _, .expr => (none, .ok (expr .expr))

end Grammar

/-! ### Rules -/

namespace Rule

/-- The parser of a rule; `self` refers to `expr`. -/
def parser {ρ : Type → Type} (self : ρ Expr) : Rule → Parser ρ Expr
  | .number => Grammar.number
  | .variable => Grammar.name
  | .operator => Grammar.operator
  | .factor => Grammar.factor
  | .term => Grammar.term
  | .assignment => Grammar.assignment self
  | .expr => Grammar.expr self

/-- Reads a text by a rule, with references followed at most `limit` deep. -/
def readWithin (rule : Rule) (limit : Nat) : Reader Expr :=
  (rule.parser .expr).read Grammar.resolve limit

variable [Stack]

/-- Reads a text by a rule; assignments for which there is no room stop the run. -/
def read (rule : Rule) : Reader Expr := fun text => rule.readWithin (Stack.room rule text) text

/-- Reads a text by a rule; assignments for which there is no room are a failure. -/
def parse (rule : Rule) (text : List Char) : Run (Result Expr) :=
  let run := rule.read text
  match run.outcome with
  | .error .tooDeep =>
      ⟨run.history ++ [.noted (.gaveUp text.length)], .ok (.failure .nestedTooDeeply)⟩
  | outcome => ⟨run.history, outcome⟩

end Rule

/-- Reads a text by the rule of a name; a name that no rule has is refused. -/
def parseByName [Stack] (name : String) (text : List Char) : Run (Result Expr) :=
  match Rule.ofName? name with
  | some rule => rule.parse text
  | none => .refuse (.unknownRule name)

end FlatExpr
