import FlatExpr.Text.Hex
import FlatExpr.Text.Printable

/-!
# Text — Quoted

The printed form of a text: the text between quotes, with a backslash in front of the quote in
use and of the backslash, short escapes for the line feed, the carriage return and the tab, and
a hexadecimal escape of two, four or eight digits for every other character that is not
printable.  Single quotes are used unless the text holds a single quote and no double quote.
-/

namespace FlatExpr.Text

/-- The quote that a text is printed between. -/
def quoteFor (text : List Char) : Char :=
  if text.contains '\'' && !text.contains '"' then '"' else '\''

/-- How one character is printed between the quotes `quote`. -/
def escape (quote c : Char) : List Char :=
  if c = quote ∨ c = '\\' then ['\\', c]
  else if c = '\n' then ['\\', 'n']
  else if c = '\r' then ['\\', 'r']
  else if c = '\t' then ['\\', 't']
  else if isPrintable c then [c]
  else if c.toNat < 0x100 then '\\' :: 'x' :: hex 2 c.toNat
  else if c.toNat < 0x10000 then '\\' :: 'u' :: hex 4 c.toNat
  else '\\' :: 'U' :: hex 8 c.toNat

/-- The printed form of a text, as characters. -/
def quotedChars (text : List Char) : List Char :=
  let quote := quoteFor text
  quote :: (text.flatMap (escape quote) ++ [quote])

/-- The printed form of a text. -/
def quoted (text : List Char) : String := String.ofList (quotedChars text)

example : quotedChars "it's".toList = ['"', 'i', 't', '\'', 's', '"'] := by decide +kernel
example : quotedChars ['\'', '"', '\n', '\x7f', 'é'] =
    ['\'', '\\', '\'', '"', '\\', 'n', '\\', 'x', '7', 'f', 'é', '\''] := by decide +kernel

end FlatExpr.Text
