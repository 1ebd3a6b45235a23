import FlatExpr.Reader

/-!
# Parser

Parsers as data, so that one can speak of all of them.  A parser is assembled from leaves by
sequence, ordered choice, a change of the value, repetition and probes; where it refers to a
parser that is not built yet it holds a reference from `ρ`, and a resolver builds what a reference
stands for each time it is reached.

* `Parser.readWith`: the reader that a parser denotes, given readers for its references.
* `Parser.read`: the reader with references resolved at most `depth` deep; deeper ones stop the
  run.
* `Parser.read_zero`, `Parser.read_succ`: the latter in terms of the former.
-/

namespace FlatExpr

/-- What sort of leaf a parser ends in. -/
inductive LeafSort where
  /-- One character. -/
  | character
  /-- A number. -/
  | number
  /-- Any other reader. -/
  | given
  deriving Repr, DecidableEq

/-- A parser for values of a type, with references from `ρ`. -/
inductive Parser (ρ : Type → Type) : Type → Type 1 where
  /-- A reader of its own. -/
  | leaf {α : Type} (sort : LeafSort) (reader : Reader α) : Parser ρ α
  /-- The first parser, then the second. -/
  | seq {α β : Type} (p : Parser ρ α) (q : Parser ρ β) : Parser ρ (α × β)
  /-- The first parser or, if that fails, the second. -/
  | orElse {α : Type} (p q : Parser ρ α) : Parser ρ α
  /-- The parser with its value changed. -/
  | apply {α β : Type} (f : α → List Note × Except Fault β) (p : Parser ρ α) : Parser ρ β
  /-- The parser as often as it succeeds. -/
  | many {α : Type} (p : Parser ρ α) : Parser ρ (List α)
  /-- The parser, watched. -/
  | probe {α : Type} (id : String) (p : Parser ρ α) : Parser ρ α
  /-- A parser to be built when it is reached. -/
  | later {α : Type} (target : ρ α) : Parser ρ α

/-- How a parser is put together at its top. -/
inductive Form where
  | leaf (sort : LeafSort) | seq | orElse | map | many | probe | later
  deriving Repr, DecidableEq

/-- Builds the parser that a reference stands for, unless that is refused; a reference with an
identifier shows under it that it is built. -/
abbrev Resolver (ρ : Type → Type) :=
  (α : Type) → ρ α → Option String × Except Fault (Parser ρ α)

/-- The events of building the parser that a reference stands for, and that parser. -/
def Resolver.build {ρ : Type → Type} {α : Type} (resolve : Resolver ρ) (target : ρ α) :
    Run (Parser ρ α) :=
  let (id, parser) := resolve α target
  ⟨(id.map Event.built).toList, (Run.ofExcept parser).outcome⟩

namespace Parser

variable {ρ : Type → Type} {α β : Type}

/-- The parser with its value changed by a function that never refuses. -/
def map (f : α → β) (p : Parser ρ α) : Parser ρ β := apply (fun a => ([], .ok (f a))) p

/-- How the parser is put together at its top. -/
def form : Parser ρ α → Form
  | .leaf sort _ => .leaf sort
  | .seq _ _ => .seq
  | .orElse _ _ => .orElse
  | .apply _ _ => .map
  | .many _ => .many
  | .probe _ _ => .probe
  | .later _ => .later

/-- The reader that a parser denotes, where `call` reads for its references. -/
def readWith (call : (α : Type) → ρ α → Reader α) : {α : Type} → Parser ρ α → Reader α
  | _, .leaf _ reader => reader
  | _, .seq p q => (readWith call p).seq (readWith call q)
  | _, .orElse p q => (readWith call p).orElse (readWith call q)
  | _, .apply f p => (readWith call p).apply f
  | _, .many p => (readWith call p).many
  | _, .probe id p => (readWith call p).probe id
  | α, .later target => call α target

/-- The reader that a parser denotes when references are followed at most `depth` deep. -/
def read (resolve : Resolver ρ) : (depth : Nat) → {α : Type} → Parser ρ α → Reader α
  | 0, _, p => p.readWith fun _ _ _ => .stop .tooDeep
  | depth + 1, _, p => p.readWith fun _ target text =>
      (resolve.build target).bind fun q => read resolve depth q text

theorem read_zero (resolve : Resolver ρ) (p : Parser ρ α) :
    read resolve 0 p = p.readWith fun _ _ _ => .stop .tooDeep := rfl

theorem read_succ (resolve : Resolver ρ) (depth : Nat) (p : Parser ρ α) :
    read resolve (depth + 1) p = p.readWith fun _ target text =>
      (resolve.build target).bind fun q => read resolve depth q text := rfl

end Parser

end FlatExpr
