import FlatExpr.Dialogue
import FlatExpr.Options
import FlatExpr.Report
import FlatExpr.Stack.Calls

/-!
# CommandLine

What the program does for a command line: it shows the help text, refuses the command line,
reports on one text, or opens a session.

* `Host`: what the program runs on.
* `CommandLine.perform`: standard output, standard error and the exit status, for arguments and
  the inputs that a session would read.
* `CommandLine.conclude`: the same for every standard input, also one that cannot be read to its
  end; nothing catches the exception that a session ends in then.
-/

namespace FlatExpr

/-- What the program runs on. -/
class Host where
  /-- The stack that texts are read on, with a silent log and with a loud one. -/
  stack (loud : Bool) : Stack
  /-- The edition of the rules by which arguments are read. -/
  edition : Edition
  /-- A loud log leaves no more room on the stack. -/
  room_loud_le (rule : Rule) (text : List Char) :
    (stack true).room rule text ≤ (stack false).room rule text

/-- Where nothing else is said, four calls are pending when a text is read. -/
instance : Host where
  stack loud := .counted 4 loud (by decide)
  edition := .earlier
  room_loud_le := Calls.room_loud_le 4

namespace CommandLine

/-- The names of the rules between braces, as the usage text lists them. -/
def ruleChoices : String := "\x7b" ++ ",".intercalate (Rule.all.map Rule.name) ++ "\x7d"

/-- How the program is called. -/
def usage : String :=
  "usage: arith [-h] [-r " ++ ruleChoices ++ "]\n" ++
  "             [-j] [-p] [-v] [--repl]\n" ++
  "             [source]\n"

/-- The help text. -/
def help : String :=
  usage ++ "\n" ++
  "positional arguments:\n" ++
  "  source                Text to parse (default: 'x=3')\n" ++
  "\n" ++
  "options:\n" ++
  "  -h, --help            show this help message and exit\n" ++
  "  -r " ++ ruleChoices ++ ", --rule " ++ ruleChoices ++ "\n" ++
  "                        Grammar rule to run (default: assignment, or expr in\n" ++
  "                        the REPL)\n" ++
  "  -j, --json            Print value as JSON\n" ++
  "  -p, --pretty          Show output with banners\n" ++
  "  -v, --verbose         Enable debug logging\n" ++
  "  --repl                Launch interactive REPL instead\n"

/-- What the program leaves behind. -/
structure Performance where
  /-- The exit status: 0, 1 where a text could not be read, 2 where the command line is refused;
  or why the program was stopped. -/
  status : Except Stop Nat
  /-- Standard output, cut wherever a line is asked for. -/
  stdout : List String
  /-- Standard error. -/
  stderr : String
  deriving DecidableEq

section OnStack

variable [Stack]

/-- What the records of some turns put on standard error. -/
def logOf (shown : Level → Bool) (turns : List Turn) : String :=
  Output.stderrWith shown (turns.flatMap fun turn => turn.records.map .log)

/-- A session that begins in a state. -/
def session (start : Dialogue) (shown : Level → Bool) (inputs : List Input) : Performance :=
  { status := .ok 0
    stdout := start.transcript inputs
    stderr := logOf shown (start.talk inputs) }

/-- A report that is asked for. -/
def reporting (request : Request) (shown : Level → Bool) : Performance :=
  { status := request.report.verdict.map fun read => if read then 0 else 1
    stdout := [Output.stdout request.report.outputs]
    stderr := Output.stderrWith shown request.report.outputs }

end OnStack

end CommandLine

namespace Options

/-- The rule of a report. -/
def reportRule (options : Options) : Rule := options.rule.getD .assignment

/-- The text to be read and how to report on it. -/
def request (options : Options) : Request :=
  { source := options.source.getD "x=3"
    rule := options.reportRule.name
    json := options.json
    pretty := options.pretty }

/-- How a session begins. -/
def dialogue (options : Options) : Dialogue :=
  { rule := (options.rule.getD .expr).name
    verbose := options.verbose }

/-- The levels whose records are shown on standard error. -/
def shows (options : Options) : Level → Bool
  | .info => true
  | .debug => options.verbose

/-- The stack that texts are read on. -/
@[reducible] def stack [Host] (options : Options) : Stack := Host.stack options.verbose

end Options

namespace CommandLine

/-! ### Performances -/

section OnHost

variable [Host]

/-- Opens a session. -/
def converse (options : Options) (inputs : List Input) : Performance :=
  @session options.stack options.dialogue options.shows inputs

/-- Reports on one text. -/
def reportOn (options : Options) : Performance :=
  @reporting options.stack options.request options.shows

/-- What the program does for its arguments and the inputs that a session would read. -/
def perform (arguments : List String) (inputs : List Input) : Performance :=
  match Options.ofArguments Host.edition arguments with
  | .error .help => ⟨.ok 0, [help], ""⟩
  | .error (.usage error) => ⟨.ok 2, [""], usage ++ "arith: error: " ++ error.message ++ "\n"⟩
  | .ok options => if options.repl then converse options inputs else reportOn options

end OnHost

end CommandLine

/-! ### Standard input -/

/-- What standard input gives. -/
inductive StandardInput where
  /-- Inputs, and then its end. -/
  | readable (inputs : List Input)
  /-- Inputs, and then a read that fails, as it does where bytes farther on are no text. -/
  | broken (inputs : List Input)
  /-- Nothing: it is not there. -/
  | closed
  deriving Repr, DecidableEq

/-- The inputs that it gives. -/
def StandardInput.inputs : StandardInput → List Input
  | .readable inputs | .broken inputs => inputs
  | .closed => []

/-- Whether some inputs leave a session open. -/
def Dialogue.staysOpen (inputs : List Input) : Bool :=
  inputs.all fun
    | .line text => Command.ofLine text != .quit
    | .interrupt => false

namespace CommandLine

/-- How the program ends. -/
inductive Conclusion where
  /-- By itself. -/
  | left (done : Performance)
  /-- In an exception that nothing catches; what stood on its streams until then. -/
  | thrown (stdout : List String) (stderr : String)
  deriving DecidableEq

/-- A session that is cut off where it asks for the next line. -/
def cutOff [Stack] (start : Dialogue) (shown : Level → Bool) (inputs : List Input) : Conclusion :=
  .thrown (start.transcript inputs).dropLast (logOf shown (start.talk inputs).dropLast)

variable [Host]

/-- How a session ends. -/
def concludeSession (options : Options) : StandardInput → Conclusion
  | .readable inputs => .left (converse options inputs)
  | .broken inputs =>
      if Dialogue.staysOpen inputs then
        @cutOff options.stack options.dialogue options.shows inputs
      else .left (converse options inputs)
  | .closed => .thrown [options.dialogue.greeting] ""

/-- How the program ends for its arguments and its standard input, which nothing but a session
reads. -/
def conclude (arguments : List String) (stdin : StandardInput) : Conclusion :=
  match Options.ofArguments Host.edition arguments with
  | .ok options =>
      if options.repl then concludeSession options stdin else .left (reportOn options)
  | .error _ => .left (perform arguments [])

end CommandLine

end FlatExpr
