import FlatExpr.CommandLine

/-!
# Main

The program: arguments and lines in, text and an exit status out.  A session answers each line as
it comes.
-/

namespace FlatExpr

/-- Writes the records of a turn that are to be shown. -/
def showRecords (options : Options) (turn : Turn) : IO Unit := do
  IO.eprint (Output.stderrWith options.shows (turn.records.map .log))

/-- Asks for lines and answers them until one ends the session. -/
partial def converseLive (options : Options) (state : Dialogue) : IO Unit := do
  IO.print Dialogue.prompt
  (← IO.getStdout).flush
  let line ← (← IO.getStdin).getLine
  if line.isEmpty then IO.print Reply.interrupted.text
  else
    let command := Command.ofLine line.toList
    let (turn, next) := @Dialogue.perform options.stack state command
    showRecords options turn
    IO.print turn.text
    if command ≠ .quit then converseLive options next

/-- Writes what the program leaves behind and gives its exit status. -/
def leave (done : CommandLine.Performance) : IO UInt32 := do
  IO.print (String.join done.stdout)
  IO.eprint done.stderr
  match done.status with
  | .ok status => return UInt32.ofNat status
  | .error _ => return 1

end FlatExpr

open FlatExpr in
def main (arguments : List String) : IO UInt32 := do
  match Options.ofArguments Host.edition arguments with
  | .ok options =>
      if options.repl then
        IO.print options.dialogue.greeting
        converseLive options options.dialogue
        return 0
      else leave (CommandLine.reportOn options)
  | .error _ => leave (CommandLine.perform arguments [])
