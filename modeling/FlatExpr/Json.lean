import FlatExpr.Text.Decimal
import FlatExpr.Text.Hex

/-!
# Json

The JSON values that reports are made of — integers, texts and records — and their two written
layouts.  Both are plain ASCII: every other character is written as `\u` and four digits, and a
character above U+FFFF as two such escapes, its surrogate pair.

* `Json.compact`: one line, members parted by `", "`.
* `Json.indented`: a member a line, two blanks deeper than its record.
-/

namespace FlatExpr

/-- A JSON value; a record keeps the order of its members. -/
inductive Json where
  | int (value : Int)
  | text (value : String)
  | record (members : List (String × Json))
  deriving Repr, BEq

namespace Json

/-- One escape of four hexadecimal digits. -/
def unitEscape (unit : Nat) : List Char := '\\' :: 'u' :: Text.hex 4 unit

/-- How one character is written inside a JSON text. -/
def escape (c : Char) : List Char :=
  if c = '"' ∨ c = '\\' then ['\\', c]
  else if c = '\n' then ['\\', 'n']
  else if c = '\r' then ['\\', 'r']
  else if c = '\t' then ['\\', 't']
  else if c = '\x08' then ['\\', 'b']
  else if c = '\x0c' then ['\\', 'f']
  else if 0x20 ≤ c.toNat ∧ c.toNat ≤ 0x7e then [c]
  else if c.toNat < 0x10000 then unitEscape c.toNat
  else unitEscape (0xd800 + (c.toNat - 0x10000) / 0x400) ++
    unitEscape (0xdc00 + (c.toNat - 0x10000) % 0x400)

/-- A text as JSON writes it. -/
def quoted (text : String) : String :=
  String.ofList ('"' :: (text.toList.flatMap escape ++ ['"']))

mutual

/-- The layout on one line. -/
def compact : Json → String
  | .int value => Text.decimal value
  | .text value => quoted value
  | .record members => "\x7b" ++ compactMembers members ++ "\x7d"

/-- The members of a record on one line. -/
def compactMembers : List (String × Json) → String
  | [] => ""
  | [(key, value)] => quoted key ++ ": " ++ compact value
  | (key, value) :: more => quoted key ++ ": " ++ compact value ++ ", " ++ compactMembers more

end

/-- The start of a new line at a nesting depth. -/
def newline (depth : Nat) : String := String.ofList ('\n' :: List.replicate (2 * depth) ' ')

mutual

/-- The layout with a line for every member, for a value at a nesting depth. -/
def indentedAt (depth : Nat) : Json → String
  | .int value => Text.decimal value
  | .text value => quoted value
  | .record [] => "\x7b\x7d"
  | .record (member :: more) =>
      "\x7b" ++ newline (depth + 1) ++ indentedMembers (depth + 1) (member :: more) ++
        newline depth ++ "\x7d"

/-- The members of a record, a line each, at their nesting depth. -/
def indentedMembers (depth : Nat) : List (String × Json) → String
  | [] => ""
  | [(key, value)] => quoted key ++ ": " ++ indentedAt depth value
  | (key, value) :: more =>
      quoted key ++ ": " ++ indentedAt depth value ++ "," ++ newline depth ++
        indentedMembers depth more

end

/-- The layout with a line for every member. -/
def indented (value : Json) : String := indentedAt 0 value

example : compact (.record [("a", .int (-1)), ("b", .record [("é", .text "\n😀")])]) =
    "\x7b\"a\": -1, \"b\": \x7b\"\\u00e9\": \"\\n\\ud83d\\ude00\"\x7d\x7d" := by decide +kernel
example : indented (.record [("a", .int 1), ("b", .record [("c", .int 2)])]) =
    "\x7b\n  \"a\": 1,\n  \"b\": \x7b\n    \"c\": 2\n  \x7d\n\x7d" := by decide +kernel

end Json

end FlatExpr
