import FlatExpr.Fault
import FlatExpr.Printed

/-!
# Result

The outcome of reading a text: a value and the text left over, or a failure.

* `Complaint.message`: the wording of a failure.
* `Result.same`: two results are the same if their values and what is left over are, or if both
  failed with the same wording.
-/

namespace FlatExpr

/-- Why a text could not be read. -/
inductive Complaint where
  /-- A character was wanted and the text was at its end. -/
  | nothingLeft
  /-- The text goes on with another character than was wanted. -/
  | unexpected (found : Char) (wanted : String)
  /-- A run of digits is longer than can be converted. -/
  | numberTooLong
  /-- Assignments are nested deeper than can be read. -/
  | nestedTooDeeply
  /-- Any other reason, in its own words. -/
  | other (message : String)
  deriving Repr, DecidableEq

/-- The wording of a complaint. -/
def Complaint.message : Complaint → String
  | .nothingLeft => "Parsing failure, empty string"
  | .unexpected found wanted =>
      "Parsing failure, got " ++ String.ofList [found] ++ " expected " ++ wanted
  | .numberTooLong => "Parsing failure, number too long"
  | .nestedTooDeeply => "Parsing failure, input nested too deeply"
  | .other message => message

/-- The outcome of reading a text. -/
inductive Result (α : Type) where
  /-- A value was read; `rest` is the text left over. -/
  | success (value : α) (rest : List Char)
  /-- Nothing was read. -/
  | failure (why : Complaint)
  deriving Repr, DecidableEq

namespace Result

variable {α β : Type}

/-- Whether a value was read. -/
def succeeded : Result α → Bool
  | .success _ _ => true
  | .failure _ => false

/-- The heading of a result in its printed form. -/
def heading : Result α → String
  | .success _ _ => "Success"
  | .failure _ => "Failure"

/-- The result with its value changed. -/
def map (f : α → β) : Result α → Result β
  | .success value rest => .success (f value) rest
  | .failure why => .failure why

/-- The printed form: the value and what is left over, or the wording of the failure. -/
protected def printed [Printed α] (r : Result α) : String :=
  match r with
  | .success value rest =>
      r.heading ++ "(" ++ FlatExpr.printed value ++ ", " ++ FlatExpr.printed rest ++ ")"
  | .failure why => r.heading ++ "(" ++ FlatExpr.printed why.message ++ ")"

instance [Printed α] : Printed (Result α) := ⟨Result.printed⟩

/-- Whether two results are the same, with values compared by `sameValue`. -/
def same (sameValue : α → α → Bool) : Result α → Result α → Bool
  | .success v r, .success w s => sameValue v w && r == s
  | .failure m, .failure n => m.message == n.message
  | _, _ => false

/-- A result is never hashed. -/
def hash (r : Result α) : Fault := .unhashable r.heading

end Result

end FlatExpr
