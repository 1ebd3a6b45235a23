import FlatExpr.Options.Draft

/-!
# Options

The arguments of the command line.  Every argument is marked first — as a word, as the divider
`--`, or as an option — and then the marks are settled from left to right.

* A long option may be shortened to any beginning that no other option has, and takes its value
  behind an equals sign or from the next argument.
* One-letter options can be put together behind one dash; the first that takes a value takes the
  rest.  What an equals sign behind a letter means, and what becomes of a character that is no
  letter of an option, depends on the edition.
* Everything behind the divider is a word.  The first word is the source; further words, and
  options that nothing answers to, are unrecognized.
-/

namespace FlatExpr

/-- What a command line asks for. -/
def Options.ofArguments (edition : Edition) (arguments : List String) :
    Except Ending Options := do
  let marks ← (Mark.ofArguments edition arguments).mapError .usage
  let draft ← Draft.settle edition {} marks
  if draft.strays.isEmpty then return draft.options
  else .error (.usage (.unrecognized draft.strays))

end FlatExpr
