import FlatExpr.Grammar
import FlatExpr.Record

/-!
# Report

Reading one text by one rule and reporting the outcome: the result in its printed form or as
JSON, plain or between banners, on standard output; or the wording of the failure on standard
error.  Log records stand in order with the output.

* `Request.report`: what is written and logged, and whether the text was read.
-/

namespace FlatExpr

/-- What is written or logged. -/
inductive Output where
  /-- Text on standard output. -/
  | out (text : String)
  /-- Text on standard error. -/
  | err (text : String)
  /-- A log record. -/
  | log (record : Record)
  deriving Repr, DecidableEq

namespace Output

/-- What goes to standard output. -/
def stdout (outputs : List Output) : String :=
  String.join (outputs.filterMap fun | .out text => some text | _ => none)

/-- What goes to standard error, log records left aside. -/
def stderr (outputs : List Output) : String :=
  String.join (outputs.filterMap fun | .err text => some text | _ => none)

/-- The log records. -/
def records (outputs : List Output) : List Record :=
  outputs.filterMap fun | .log record => some record | _ => none

/-- What goes to standard error when the records of some levels are shown there too. -/
def stderrWith (shown : Level → Bool) (outputs : List Output) : String :=
  String.join (outputs.filterMap fun
    | .out _ => none
    | .err text => some text
    | .log record => if shown record.level then some record.line else none)

end Output

/-- A text to be read and how to report on it. -/
structure Request where
  source : String := "x=3"
  rule : String := "assignment"
  json : Bool := false
  pretty : Bool := false
  deriving Repr, DecidableEq

/-- What was written and logged, and whether the text was read. -/
structure Report where
  outputs : List Output
  verdict : Except Stop Bool

namespace Request

/-- A value that was read and what was left over, as JSON. -/
def payload (value : Expr) (rest : List Char) : Json :=
  .record [("value", value.toJson), ("remainder", .text (String.ofList rest))]

/-- A value that was read and what was left over, in the form asked for. -/
def shown (request : Request) (value : Expr) (rest : List Char) : String :=
  if request.json then
    if request.pretty then (payload value rest).indented else (payload value rest).compact
  else printed (Result.success value rest)

/-- The line of a banner. -/
def banner : String := String.ofList (List.replicate 20 '=')

/-- What is printed about a value that was read. -/
def page (request : Request) (value : Expr) (rest : List Char) : String :=
  if request.pretty then
    banner ++ "\nParsed [" ++ request.rule ++ "]\n" ++ banner ++ "\n" ++
      request.shown value rest ++ "\n" ++ banner ++ "\n"
  else request.shown value rest ++ "\n"

/-- What is written and logged, and whether the text was read. -/
def report [Stack] (request : Request) : Report :=
  let run := parseByName request.rule request.source.toList
  let before := .log (.parsing request.source.toList request.rule) ::
    (Record.ofHistory run.history).map .log
  match run.outcome with
  | .error why => ⟨before, .error why⟩
  | .ok (.failure why) => ⟨before ++ [.err ("Parse error: " ++ why.message ++ "\n")], .ok false⟩
  | .ok (.success value rest) =>
      ⟨before ++ .out (request.page value rest) ::
        (if rest.isEmpty then [] else [.log (.leftOver rest)]), .ok true⟩

end Request

end FlatExpr
