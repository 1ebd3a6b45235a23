import FlatExpr.Rule
import FlatExpr.Text.Quoted

/-!
# Fault

The misuses that end an operation without a result, and the wording of each.  A text that does
not parse is no fault: that is a failure, which is a result.
-/

namespace FlatExpr

/-- Why an operation was refused. -/
inductive Fault where
  /-- An operation was to be joined by something that is no operator. -/
  | notAnOperator (found : String)
  /-- A node's field was to be set or deleted. -/
  | immutable (heading : String)
  /-- A result was to be hashed. -/
  | unhashable (heading : String)
  /-- A reader for one character was asked for with more or fewer. -/
  | notOneCharacter (text : List Char)
  /-- No rule has this name. -/
  | unknownRule (name : String)
  /-- Something that cannot be run was given as a reading function. -/
  | notRunnable (found : String)
  /-- A parser that must not be run was run. -/
  | mustNotRun (text : List Char)
  /-- A function that always refuses was applied. -/
  | deliberate
  /-- A function was applied to a value of another shape than it takes. -/
  | unfit
  /-- A parser was referred to by a name that nothing defines. -/
  | undefined (name : String)
  deriving Repr, DecidableEq

/-- The wording of a fault. -/
def Fault.message : Fault → String
  | .notAnOperator found => "BinOp operator must be an Operator, got " ++ found
  | .immutable heading => heading ++ " is immutable"
  | .unhashable heading => "unhashable type: '" ++ heading ++ "'"
  | .notOneCharacter text =>
      "char_parser expects a single character, got " ++ Text.quoted text
  | .unknownRule name =>
      "Unknown rule: " ++ Text.quoted name.toList ++ " (expected one of " ++ Rule.names ++ ")"
  | .notRunnable found => "Parser expects a callable, got " ++ found
  | .mustNotRun text => "parser should not run, got " ++ Text.quoted text
  | .deliberate => "map boom"
  | .unfit => "value does not fit"
  | .undefined name => Text.quoted name.toList

end FlatExpr
