import FlatExpr.Text.Blank

/-!
# Dialogue — Command

What a line of a session asks for, decided from the line alone.

* `Command.ofLine`: what a line asks for.
* `Command.ruleCommand?`: the lines that speak about rules.
-/

namespace FlatExpr

/-- What a line asks for. -/
inductive Command where
  /-- To end the session. -/
  | quit
  /-- Nothing: the line is blank or a comment. -/
  | skip
  /-- To turn verbose mode on or off. -/
  | toggle
  /-- To say which rule is active. -/
  | tellRule
  /-- To make the rule of a name active. -/
  | useRule (name : String)
  /-- To read a text by the active rule. -/
  | read (text : List Char)
  deriving Repr, DecidableEq

namespace Command

/-- The text with the capital letters `A` to `Z` made small.  Beside them only the Kelvin sign and
the capital I with a dot have a small form with one of the letters `a` to `z` in it, and that is `k`
or `i`; the words that are compared with, `rule` and `verbose-mode`, have neither. -/
def lower (text : List Char) : List Char := text.map Char.toLower

/-- A text whose first word is `rule`, in any case: alone, or with the name behind it. -/
def ruleCommand? (text : List Char) : Option Command :=
  match Text.words text with
  | [] => none
  | word :: more =>
      if lower word = "rule".toList then
        match more with
        | [] => some .tellRule
        | name :: _ => some (.useRule (String.ofList name))
      else none

/-- What a trimmed line asks for. -/
def ofTrimmed (text : List Char) : Command :=
  if text = "exit".toList ∨ text = "quit".toList then .quit
  else if text.isEmpty ∨ text.head? = some '#' then .skip
  else if lower text = "verbose-mode".toList then .toggle
  else (ruleCommand? text).getD (.read text)

/-- What a line asks for. -/
def ofLine (line : List Char) : Command := ofTrimmed (Text.trim line)

end Command

end FlatExpr
