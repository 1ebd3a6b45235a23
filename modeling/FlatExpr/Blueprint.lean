import FlatExpr.Change
import FlatExpr.Grammar

/-!
# Blueprint

Descriptions of parsers, which can name one another and so be recursive.  A blueprint is built
into a parser, its first part before its second, and the building can be refused; what is put
off in a blueprint is built anew each time it is reached.

* `Blueprint.build`: the parser of a blueprint, or the first fault met in building it.
* `Blueprint.read`: the reader of a built blueprint.
-/

namespace FlatExpr

/-- A description of a parser. -/
inductive Blueprint where
  /-- One given character; a text of another length is refused. -/
  | character (text : List Char)
  /-- One of the named parsers for one character. -/
  | primitive (which : Primitive)
  /-- A rule of the grammar, by name. -/
  | rule (name : String)
  /-- One of several characters, described by a label. -/
  | oneOf (chars : List Char) (label : String)
  /-- As many characters as given. -/
  | take (count : Nat)
  /-- A text or nothing, without reading. -/
  | pure (value : Option String)
  /-- A failure, in words of its own. -/
  | fail (message : String)
  /-- A parser that must not be run. -/
  | explode
  /-- A parser made from something that cannot be run. -/
  | notRunnable (found : Value)
  /-- A parser, watched. -/
  | probe (id : String) (of : Blueprint)
  /-- Two parsers, one after the other. -/
  | seq (a b : Blueprint)
  /-- Ordered choice between two parsers. -/
  | orElse (a b : Blueprint)
  /-- A parser with its value changed. -/
  | map (change : Change) (of : Blueprint)
  /-- A parser as often as it succeeds. -/
  | many (of : Blueprint)
  /-- A parser to be built each time it is reached. -/
  | later (id : String) (of : Blueprint)
  /-- The parser that a name stands for. -/
  | named (name : String)
  deriving Repr, Inhabited

/-- What a parser built from a blueprint refers to. -/
inductive Link : Type → Type where
  /-- The grammar's rule `expr`. -/
  | expr : Link Expr
  /-- The blueprint that a name stands for. -/
  | named (name : String) : Link Value
  /-- A blueprint put off, built under an identifier. -/
  | later (id : String) (of : Blueprint) : Link Value

namespace Reader

/-- Reads one of the characters `chars`. -/
def oneOf (chars : List Char) (label : String) : Reader Value
  | [] => .pure (.failure (.other "empty"))
  | c :: rest =>
      if chars.contains c then .pure (.success (.text (String.ofList [c])) rest)
      else .pure (.failure (.other ("expected " ++ label ++ ", got " ++ String.ofList [c])))

/-- Reads the next `count` characters. -/
def take (count : Nat) : Reader Value := fun text =>
  let front := text.take count
  if front.length = count then .pure (.success (.text (String.ofList front)) (text.drop count))
  else .pure (.failure (.other ("need " ++ Text.decimal count)))

/-- Reads nothing. -/
def nothing {α : Type} (value : α) : Reader α := fun text => .pure (.success value text)

/-- Always fails. -/
def fail {α : Type} (message : String) : Reader α := fun _ => .pure (.failure (.other message))

/-- Is not to be run. -/
def explode {α : Type} : Reader α := fun text => .refuse (.mustNotRun text)

end Reader

namespace Blueprint

/-- A parser for characters, as one for values. -/
def ofChar (p : Parser Link Char) : Parser Link Value := p.map Value.ofChar

/-- A parser for expressions, as one for values. -/
def ofExpr (p : Parser Link Expr) : Parser Link Value := p.map Value.ofExpr

/-- Builds the parser of a blueprint. -/
def build : Blueprint → Except Fault (Parser Link Value)
  | .character text => (Parser.characterOf text).map ofChar
  | .primitive which => .ok (ofChar (.ofPrimitive which))
  | .rule name =>
      match Rule.ofName? name with
      | some found => .ok (ofExpr (found.parser .expr))
      | none => .error (.unknownRule name)
  | .oneOf chars label => .ok (.leaf .given (Reader.oneOf chars label))
  | .take count => .ok (.leaf .given (Reader.take count))
  | .pure value => .ok (.leaf .given (Reader.nothing ((value.map .text).getD .none)))
  | .fail message => .ok (.leaf .given (Reader.fail message))
  | .explode => .ok (.leaf .given Reader.explode)
  | .notRunnable found => .error (.notRunnable found.typeName)
  | .probe id of => of.build.map (.probe id)
  | .seq a b => do
      let p ← a.build
      let q ← b.build
      return (p.seq q).map fun (v, w) => .tuple [v, w]
  | .orElse a b => do
      let p ← a.build
      let q ← b.build
      return p.orElse q
  | .map change of => of.build.map (.apply fun value => ([], change.call value))
  | .many of => of.build.map fun p => p.many.map .list
  | .later id of => .ok (.later (.later id of))
  | .named name => .ok (.later (.named name))

/-- How the parser of a blueprint is put together at its top. -/
def form : Blueprint → Form
  | .character _ => .leaf .character
  | .primitive _ => .leaf .character
  | .rule name =>
      match Rule.ofName? name with
      | some found => (found.parser Grammar.Self.expr).form
      | none => .leaf .given
  | .seq _ _ => .seq
  | .orElse _ _ => .orElse
  | .map _ _ => .map
  | .many _ => .many
  | .later _ _ => .later
  | .named _ => .later
  | .probe _ _ => .probe
  | _ => .leaf .given

/-- Blueprints by name. -/
abbrev Definitions := List (String × Blueprint)

/-- Builds what a reference stands for. -/
def resolve (definitions : Definitions) : Resolver Link
  | _, .expr => (none, .ok (Grammar.expr .expr))
  | _, .named name =>
      (none, match definitions.lookup name with
        | some blueprint => blueprint.build
        | none => .error (.undefined name))
  | _, .later id of => (some id, of.build)

/-- The reader of a built blueprint. -/
def read [Stack] (definitions : Definitions) (p : Parser Link Value) : Reader Value :=
  p.read (resolve definitions) Stack.links

end Blueprint

end FlatExpr
