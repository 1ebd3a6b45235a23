import FlatExpr.Record

/-!
# Dialogue — Reply

What a session answers: replies, each with its wording, put together in turns.
-/

namespace FlatExpr

/-- One piece of an answer. -/
inductive Reply where
  /-- The farewell. -/
  | farewell
  /-- The farewell behind a line that was never entered. -/
  | interrupted
  /-- Verbose mode is now on or off. -/
  | mode (on : Bool)
  /-- The active rule, and the ones to be had. -/
  | rules (current : String)
  /-- A rule is now active. -/
  | activated (name : String)
  /-- No rule has this name. -/
  | unknownRule (name : String)
  /-- Reading was refused. -/
  | trouble (cause : Fault)
  /-- Reading was stopped. -/
  | halted
  /-- The text could not be read. -/
  | failed (why : Complaint)
  /-- What was read. -/
  | value (value : Expr)
  /-- What was read, as JSON. -/
  | tree (value : Expr)
  /-- What was left over. -/
  | leftOver (rest : List Char)
  deriving Repr, DecidableEq

namespace Reply

/-- The wording of a piece of an answer. -/
def text : Reply → String
  | .farewell => "Exiting Arith REPL.\n"
  | .interrupted => "\nExiting Arith REPL.\n"
  | .mode on => "[mode] >>> Verbose mode " ++ (if on then "ON" else "OFF") ++ "\n"
  | .rules current => "[rule] >>> " ++ current ++ " (available: " ++ Rule.names ++ ")\n"
  | .activated name => "[rule] >>> Active rule: " ++ name ++ "\n"
  | .unknownRule name => "[error] >>> Unknown rule: " ++ name ++ "\n"
  | .trouble cause =>
      "[error] >>>\nTraceback (most recent call last):\nValueError: " ++ cause.message ++ "\n\n"
  | .halted => "[error] >>>\n"
  | .failed why => "[error] >>> " ++ why.message ++ "\n"
  | .value e => printed e ++ "\n"
  | .tree e => "[tree] >>> " ++ e.toJson.compact ++ "\n"
  | .leftOver rest => "[warn] >>> Unparsed remainder: " ++ printed rest ++ "\n"

end Reply

/-- What is answered to one input, and what is logged meanwhile. -/
structure Turn where
  replies : List Reply
  records : List Record := []
  deriving Repr, DecidableEq

/-- The text of a turn. -/
def Turn.text (turn : Turn) : String := String.join (turn.replies.map Reply.text)

end FlatExpr
