import FlatExpr.Run
import FlatExpr.Value

/-!
# Record

Log records: what is noted about a run beside its output.

* `Record.ofHistory`: what was noted in a history; no other event is logged.
-/

namespace FlatExpr

/-- How much a record matters. -/
inductive Level where
  | debug | info
  deriving Repr, DecidableEq

/-- The word for a level. -/
def Level.label : Level → String
  | .debug => "DEBUG"
  | .info => "INFO"

/-- A log record. -/
inductive Record where
  /-- A text is about to be read by the rule of a name. -/
  | parsing (text : List Char) (rule : String)
  /-- Something was noted while it was read. -/
  | noted (note : Note)
  /-- A text was left over. -/
  | leftOver (rest : List Char)
  deriving Repr, DecidableEq

namespace Record

/-- The record of an event, if something is noted in it. -/
def ofEvent? : Event → Option Record
  | .noted note => some (.noted note)
  | _ => none

/-- The records of a history. -/
def ofHistory (history : List Event) : List Record := history.filterMap ofEvent?

/-- How much a record matters. -/
def level : Record → Level
  | .leftOver _ => .info
  | _ => .debug

/-- The printed form of an operation that is folded. -/
def printedOperation (operation : Expr × Expr) : String :=
  "(" ++ printed operation.1 ++ ", " ++ printed operation.2 ++ ")"

/-- The wording of a note. -/
def noteMessage : Note → String
  | .folded first more =>
      "folding " ++ Text.decimal more.length ++ " trailing operation(s) onto " ++ printed first ++
        ": [" ++ ", ".intercalate (more.map printedOperation) ++ "]"
  | .gaveUp length => "recursion limit reached parsing " ++ Text.decimal length ++ " characters"

/-- The wording of a record. -/
def message : Record → String
  | .parsing text rule => "parsing " ++ printed text ++ " with rule " ++ printed rule
  | .noted note => noteMessage note
  | .leftOver rest => "unparsed remainder: " ++ printed rest

/-- A record as a line of its own. -/
def line (record : Record) : String := record.level.label ++ ": " ++ record.message ++ "\n"

end Record

end FlatExpr
