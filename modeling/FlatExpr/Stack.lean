import FlatExpr.Rule
import FlatExpr.Text.Span

/-!
# Stack

What a text is read on.  An assignment keeps calls pending until its expression is read, so that
the stack of calls bounds how many assignments can be read one inside the other.  The bound is not
one number: it depends on the rule that was asked for, on what the innermost assignment is followed
by and on how many calls are pending already.

The grammar is read on a `Stack`: a bound for every rule and text, with what is known of it
wherever it is read.

* `Text.behindEquals`: what is behind the last of the assignments that a text begins with.
* `Shortened`: a text with fewer digits in the place of a number, or without its end.
* `Stack.room`: how many assignments fit on the stack.
-/

namespace FlatExpr
open Text

namespace Text

/-- What is behind the last equals sign that nothing but names and equals signs stand in front of,
or `start` if there is none. -/
def behindEqualsFrom (start : List Char) : List Char → List Char
  | [] => start
  | c :: rest =>
      if c == '=' then behindEqualsFrom rest rest
      else if isNameChar c then behindEqualsFrom start rest
      else start

/-- What is behind the last of the assignments that a text begins with. -/
def behindEquals (text : List Char) : List Char := behindEqualsFrom text text

/-- A scan passes over characters of a name. -/
theorem behindEqualsFrom_append {name : List Char} (h : ∀ c ∈ name, isNameChar c = true)
    (start rest : List Char) :
    behindEqualsFrom start (name ++ rest) = behindEqualsFrom start rest := by
  induction name with
  | nil => rfl
  | cons c name ih =>
      have hc : isNameChar c = true := h c List.mem_cons_self
      have heq : ¬ (c == '=') = true := by
        intro heq
        rw [beq_iff_eq.mp heq] at hc
        exact absurd hc (by decide)
      rw [List.cons_append, behindEqualsFrom, if_neg heq, if_pos hc]
      exact ih fun d hd => h d (List.mem_cons_of_mem c hd)

end Text

/-- A text, and one that takes less to read, with the same assignments in front. -/
inductive Shortened : List Char → List Char → Prop where
  /-- A number is written with fewer digits.  It stands at the beginning or behind a character of no
  name, and no further digit is behind it. -/
  | digits {front digits fewer behind : List Char}
      (hfront : ∀ c ∈ front.getLast?, isNameChar c = false)
      (hdigits : ∀ c ∈ digits, isDigit c = true) (hfewer : ∀ c ∈ fewer, isDigit c = true)
      (hne : fewer ≠ []) (hle : fewer.length ≤ digits.length) (short : digits.length ≤ 4300)
      (hbehind : StopsAt isDigit behind) :
      Shortened (front ++ (digits ++ behind)) (front ++ (fewer ++ behind))
  /-- The text is cut off, behind the assignments in front. -/
  | cut {front rest : List Char} (h : behindEquals (front ++ rest) = behindEquals front ++ rest) :
      Shortened (front ++ rest) front

/-- The stack of calls that texts are read on. -/
class Stack where
  /-- How many assignments a rule can read one inside the other on a text. -/
  room : Rule → List Char → Nat
  /-- How many references a parser made from descriptions can follow one inside the other. -/
  links : Nat
  /-- There is room for 40 assignments, whatever is read. -/
  forty_le_room (rule : Rule) (text : List Char) : 40 ≤ room rule text
  /-- There is no room for 1000. -/
  room_lt_thousand (rule : Rule) (text : List Char) : room rule text < 1000
  /-- A text that takes less to read leaves no less room. -/
  room_le_of_shortened (rule : Rule) {text shorter : List Char} (h : Shortened text shorter) :
    room rule text ≤ room rule shorter

end FlatExpr
