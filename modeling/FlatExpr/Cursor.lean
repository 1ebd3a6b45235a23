import FlatExpr.Grammar
import FlatExpr.Value

/-!
# Cursor

Reading a text piece by piece.  A cursor is the text that is still to be read; a move tries a
rule or a parser for one character on it.  Where the move succeeds the cursor goes to what is
left over, and where it fails or is refused the cursor stays.

* `Cursor.follow`: what a list of steps shows, and where the cursor ends.
-/

namespace FlatExpr

/-- What is tried at a cursor. -/
inductive Move where
  /-- A rule, by its name. -/
  | rule (name : String)
  /-- One given character; a text of another length is refused. -/
  | character (text : List Char)
  /-- A named parser for one character. -/
  | primitive (which : Primitive)
  deriving Repr, DecidableEq

/-- The answer to a move. -/
abbrev Answer := Except Stop (Result Value)

/-- A step of a session. -/
inductive Step where
  /-- The cursor is set to a text. -/
  | jump (text : List Char)
  /-- A move is tried. -/
  | attempt (move : Move)
  deriving Repr, DecidableEq

/-- What a step shows. -/
inductive Shown where
  | jumped (text : List Char)
  | answered (answer : Answer)

namespace Cursor

/-- What a parser for one character makes of a text; it refers to nothing. -/
def readCharacter (p : Parser Grammar.Self Char) (text : List Char) : Answer :=
  (p.read Grammar.resolve 0 text).outcome.map fun result => result.map Value.ofChar

variable [Stack]

/-- What a move makes of a text. -/
def answer (text : List Char) : Move → Answer
  | .rule name => (parseByName name text).outcome.map fun result => result.map Value.ofExpr
  | .character chars =>
      match Parser.characterOf chars with
      | .ok p => readCharacter p text
      | .error cause => .error (.fault cause)
  | .primitive which => readCharacter (.ofPrimitive which) text

/-- Where the cursor stands after an answer. -/
def after (text : List Char) : Answer → List Char
  | .ok (.success _ rest) => rest
  | _ => text

/-- One step: what it shows, and where the cursor stands. -/
def step (text : List Char) : Step → Shown × List Char
  | .jump target => (.jumped target, target)
  | .attempt move => (.answered (answer text move), after text (answer text move))

/-- What a list of steps shows, and where the cursor ends. -/
def follow (text : List Char) : List Step → List Shown × List Char
  | [] => ([], text)
  | next :: more =>
      let (shown, text) := step text next
      let (rest, text) := follow text more
      (shown :: rest, text)

end Cursor

end FlatExpr
