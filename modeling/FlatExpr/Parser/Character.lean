import FlatExpr.Parser
import FlatExpr.Text.Digit
import FlatExpr.Text.Letter

/-!
# Parser — Character

The parsers for one character: a given one, or one of the named ones.
-/

namespace FlatExpr

/-- The named parsers for one character. -/
inductive Primitive where
  | letter | digit | underscore | openBracket | closeBracket
  | addition | subtraction | multiplication | division
  deriving Repr, DecidableEq

namespace Parser

variable {ρ : Type → Type}

/-- The parser for one given character. -/
def character (c : Char) : Parser ρ Char :=
  .leaf .character (Reader.satisfying (· == c) (String.ofList [c]))

/-- The parser for the one character of a text; any other text is refused. -/
def characterOf (text : List Char) : Except Fault (Parser ρ Char) :=
  match text with
  | [c] => .ok (character c)
  | text => .error (.notOneCharacter text)

/-- The parser that a primitive names. -/
def ofPrimitive : Primitive → Parser ρ Char
  | .letter => .leaf .character (Reader.satisfying Text.isLetter "letter")
  | .digit => .leaf .character (Reader.satisfying Text.isDigit "digit")
  | .underscore => character '_'
  | .openBracket => character '('
  | .closeBracket => character ')'
  | .addition => character '+'
  | .subtraction => character '-'
  | .multiplication => character '*'
  | .division => character '/'

end Parser

end FlatExpr
