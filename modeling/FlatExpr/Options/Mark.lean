import FlatExpr.Options.Flag
import FlatExpr.Text.Digit

/-!
# Options — Mark

What each argument is, seen on its own: a word, the divider, an option that is known, or one that
nothing answers to.  An argument that begins with a dash and is no known option counts as a word
if it looks like a negative number or holds a space.
-/

namespace FlatExpr

/-- An argument as the command line sees it. -/
inductive Mark where
  /-- A word. -/
  | word (text : String)
  /-- The divider `--`. -/
  | divider
  /-- A letter's option, and the row of letters or the value behind it. -/
  | row (flag : Flag) (behind : List Char)
  /-- An option by itself, and the value behind its equals sign. -/
  | single (flag : Flag) (value : Option (List Char))
  /-- An option that nothing answers to. -/
  | unknown (text : String)
  deriving Repr, DecidableEq

namespace Mark

/-- A dash, then digits, perhaps with a point among them or in front of them; one line feed may
follow. -/
def looksNegative (argument : List Char) : Bool :=
  match argument with
  | '-' :: body =>
      let body := if body.getLast? = some '\n' then body.dropLast else body
      match body.dropWhile Text.isDigit with
      | [] => !body.isEmpty
      | '.' :: behind => !behind.isEmpty && behind.all Text.isDigit
      | _ => false
  | _ => false

/-- The mark of an argument that begins like an option and is none. -/
def plainOrUnknown (argument : String) : Mark :=
  if looksNegative argument.toList || argument.toList.contains ' ' then .word argument
  else .unknown argument

/-- The text in front of the first equals sign, and the one behind it. -/
def splitAtEquals (text : List Char) : List Char × Option (List Char) :=
  (text.takeWhile (· != '='),
    match text.dropWhile (· != '=') with
    | [] => none
    | _ :: value => some value)

variable (edition : Edition)

/-- The mark of a letter's option and what stands behind it; one equals sign may come between
them, and is all that shows an empty value. -/
def ofLetter (flag : Flag) : List Char → Mark
  | ['='] => .single flag (some [])
  | '=' :: value =>
      match edition with
      | .earlier => .row flag value
      | .later => .single flag (some value)
  | behind => .row flag behind

/-- The mark of an argument other than the divider. -/
def ofArgument (argument : String) : Except UsageError Mark :=
  match argument.toList with
  | '-' :: '-' :: body =>
      let (name, value) := splitAtEquals body
      match Flag.beginningWith name with
      | [] => .ok (plainOrUnknown argument)
      | [flag] => .ok (.single flag value)
      | candidates => .error (.ambiguous argument candidates)
  | '-' :: c :: behind =>
      match Flag.ofLetter? c with
      | some flag => .ok (ofLetter edition flag behind)
      | none => .ok (plainOrUnknown argument)
  | _ => .ok (.word argument)

/-- The marks of a command line; behind the divider everything is a word. -/
def ofArguments : List String → Except UsageError (List Mark)
  | [] => .ok []
  | argument :: more =>
      if argument = "--" then .ok (.divider :: more.map .word)
      else do
        let mark ← ofArgument edition argument
        return mark :: (← ofArguments more)

end Mark

end FlatExpr
