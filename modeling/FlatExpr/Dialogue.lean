import FlatExpr.Dialogue.Command
import FlatExpr.Dialogue.Reply
import FlatExpr.Grammar

/-!
# Dialogue

The interactive session: a line is read, answered, and the next one asked for.  What a line asks
for is decided from the line alone; what it is answered depends also on the active rule and on
whether the session is verbose, and these two are all that a session remembers.

* `Dialogue.perform`: the answer to a command, and the state after it.
* `Dialogue.talk`: the answers to a list of inputs; the last one is the farewell.
-/

namespace FlatExpr

/-- What comes in when a line is asked for. -/
inductive Input where
  /-- A line. -/
  | line (text : List Char)
  /-- An interruption. -/
  | interrupt
  deriving Repr, DecidableEq

/-- What a session remembers. -/
structure Dialogue where
  rule : String := "expr"
  verbose : Bool := false
  deriving Repr, DecidableEq

namespace Dialogue

/-- What a session opens with. -/
def greeting (state : Dialogue) : String :=
  "Arith REPL [rule=" ++ state.rule ++ "]. Type 'exit' or 'quit' to leave.\n"

/-- What stands in front of every line that is asked for. -/
def prompt : String := ">>> "

/-- The answer to a rule's name. -/
def choose (state : Dialogue) (name : String) : Reply × Dialogue :=
  match Rule.ofName? name with
  | some _ => (.activated name, { state with rule := name })
  | none => (.unknownRule name, state)

variable [Stack]

/-- The answer to a text that is to be read. -/
def answer (state : Dialogue) (text : List Char) : Turn :=
  let run := parseByName state.rule text
  let records := Record.ofHistory run.history
  match run.outcome with
  | .error (.fault cause) => ⟨[.trouble cause], records⟩
  | .error _ => ⟨[.halted], records⟩
  | .ok (.failure why) => ⟨[.failed why], records⟩
  | .ok (.success value rest) =>
      ⟨.value value :: (if state.verbose then [.tree value] else []) ++
        (if rest.isEmpty then [] else [.leftOver rest]), records⟩

/-- The answer to a command, and the state after it. -/
def perform (state : Dialogue) : Command → Turn × Dialogue
  | .quit => (⟨[.farewell], []⟩, state)
  | .skip => (⟨[], []⟩, state)
  | .toggle => (⟨[.mode !state.verbose], []⟩, { state with verbose := !state.verbose })
  | .tellRule => (⟨[.rules state.rule], []⟩, state)
  | .useRule name =>
      let (reply, next) := state.choose name
      (⟨[reply], []⟩, next)
  | .read text => (state.answer text, state)

/-- The answers to a list of inputs, up to the one that ends the session; the end of the list is
the end of the input. -/
def talk (state : Dialogue) : List Input → List Turn
  | [] => [⟨[.interrupted], []⟩]
  | .interrupt :: _ => [⟨[.interrupted], []⟩]
  | .line text :: more =>
      let command := Command.ofLine text
      if command = .quit then [⟨[.farewell], []⟩]
      else
        let (turn, next) := state.perform command
        turn :: next.talk more

/-- The texts between one line that is asked for and the next: each ends in the prompt, but for
the last. -/
def chunks : List Turn → List String
  | [] => []
  | [last] => [last.text]
  | turn :: more => (turn.text ++ prompt) :: chunks more

/-- The output of a session, cut wherever a line is asked for. -/
def transcript (state : Dialogue) (inputs : List Input) : List String :=
  (state.greeting ++ prompt) :: chunks (state.talk inputs)

end Dialogue

/-- The answer to a text that may be a rule command: the rule that is active after it, and what is
said, or nothing if it is another text. -/
def answerRuleCommand (text : List Char) (current : String) : Option (String × Reply) :=
  match Command.ruleCommand? text with
  | some .tellRule => some (current, .rules current)
  | some (.useRule name) =>
      let (reply, next) := Dialogue.choose ⟨current, false⟩ name
      some (next.rule, reply)
  | _ => none

end FlatExpr
