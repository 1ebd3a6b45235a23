import FlatExpr.Rule
import FlatExpr.Text.Quoted

/-!
# Options — Flag

The options of the command line, their spellings, and the reasons for refusing a command line.
-/

namespace FlatExpr

/-- The edition of the rules by which arguments are read.  Editions differ in what may stand behind
a letter, and in what the divider means where a value is wanted. -/
inductive Edition where
  /-- An equals sign behind the first letter is left out, and what follows a letter and starts with
  none is a value; the divider in the place of a value stands for none. -/
  | earlier
  /-- An equals sign behind any letter begins a value, and what follows a letter and starts with
  none is an argument of its own; the divider is a value like any other. -/
  | later
  deriving Repr, DecidableEq

/-- What a command line asks for. -/
structure Options where
  source : Option String := none
  rule : Option Rule := none
  json : Bool := false
  pretty : Bool := false
  verbose : Bool := false
  repl : Bool := false
  deriving Repr, DecidableEq

/-- An option. -/
inductive Flag where
  | help | rule | json | pretty | verbose | repl
  deriving Repr, DecidableEq

namespace Flag

/-- Every option, in the order in which they are listed. -/
def all : List Flag := [.help, .rule, .json, .pretty, .verbose, .repl]

/-- The long spelling behind its two dashes. -/
def long : Flag → String
  | .help => "help"
  | .rule => "rule"
  | .json => "json"
  | .pretty => "pretty"
  | .verbose => "verbose"
  | .repl => "repl"

/-- The letter, if the option has one. -/
def letter? : Flag → Option Char
  | .help => some 'h'
  | .rule => some 'r'
  | .json => some 'j'
  | .pretty => some 'p'
  | .verbose => some 'v'
  | .repl => none

/-- Whether the option takes a value. -/
def takesValue : Flag → Bool
  | .rule => true
  | _ => false

/-- All spellings of an option. -/
def title (flag : Flag) : String :=
  match flag.letter? with
  | some c => "-" ++ String.ofList [c] ++ "/--" ++ flag.long
  | none => "--" ++ flag.long

/-- The option of a letter. -/
def ofLetter? (c : Char) : Option Flag := all.find? (·.letter? == some c)

/-- The options whose long spelling begins with a text. -/
def beginningWith (text : List Char) : List Flag :=
  all.filter fun flag => text.isPrefixOf flag.long.toList

end Flag

/-- Why a command line is refused. -/
inductive UsageError where
  /-- A shortened option could be several. -/
  | ambiguous (argument : String) (candidates : List Flag)
  /-- An option that takes no value was given one. -/
  | ignored (flag : Flag) (value : List Char)
  /-- An option that takes a value was given none. -/
  | missing (flag : Flag)
  /-- No rule has this name. -/
  | invalidRule (name : String)
  /-- Arguments were left that nothing answers to. -/
  | unrecognized (arguments : List String)
  deriving Repr, DecidableEq

/-- The wording of a usage error. -/
def UsageError.message : UsageError → String
  | .ambiguous argument candidates =>
      "ambiguous option: " ++ argument ++ " could match " ++
        ", ".intercalate (candidates.map fun flag => "--" ++ flag.long)
  | .ignored flag value =>
      "argument " ++ flag.title ++ ": ignored explicit argument " ++ Text.quoted value
  | .missing flag => "argument " ++ flag.title ++ ": expected one argument"
  | .invalidRule name =>
      "argument " ++ Flag.rule.title ++ ": invalid choice: " ++ Text.quoted name.toList ++
        " (choose from " ++
        ", ".intercalate (Rule.all.map fun rule => Text.quoted rule.name.toList) ++ ")"
  | .unrecognized arguments => "unrecognized arguments: " ++ " ".intercalate arguments

end FlatExpr
