import FlatExpr.Options.Mark

/-!
# Options — Draft

Marks settled from left to right.  An option that takes a value takes it from the text behind it
or from the word that follows; the first word that no option takes is the source.

* `readRow`: the options put together behind one dash.
* `Draft.settle`: the options found, and the arguments that nothing answers to.
-/

namespace FlatExpr

/-! ### Rows of letters -/

/-- How a row of letters behind one dash ends. -/
inductive RowEnd where
  /-- With the last letter. -/
  | done
  /-- With an option and its value. -/
  | value (flag : Flag) (text : List Char)
  /-- With an option whose value is the next argument. -/
  | next (flag : Flag)
  /-- With a text that nothing answers to. -/
  | stray (text : String)
  deriving Repr, DecidableEq

/-- The value that stands behind a letter. -/
def Edition.valueBehindLetter : Edition → List Char → List Char
  | .later, '=' :: value => value
  | _, text => text

/-- Whether a character behind a letter begins a value in any case. -/
def Edition.beginsValue : Edition → Char → Bool
  | .earlier, _ => false
  | .later, c => c == '=' || c == '-'

variable (edition : Edition)

/-- How a row ends behind an option without value where a character comes that is no letter of an
option. -/
def rowBehind (flag : Flag) (text : List Char) : Except UsageError (List Flag × RowEnd) :=
  match edition with
  | .earlier => .error (.ignored flag text)
  | .later => .ok ([flag], .stray ("-" ++ String.ofList text))

/-- The options without value in a row of letters, in order, and how the row ends: `flag` is the
option of the first letter, followed by the rest of the row.  A value is refused where the letter's
option takes none. -/
def readRow (flag : Flag) : List Char → Except UsageError (List Flag × RowEnd)
  | [] => .ok (if flag.takesValue then ([], .next flag) else ([flag], .done))
  | c :: more =>
      if flag.takesValue then .ok ([], .value flag (edition.valueBehindLetter (c :: more)))
      else if edition.beginsValue c then
        .error (.ignored flag (edition.valueBehindLetter (c :: more)))
      else
        match Flag.ofLetter? c with
        | none => rowBehind edition flag (c :: more)
        | some next => (readRow next more).map fun (flags, last) => (flag :: flags, last)

/-! ### Settling -/

/-- What a command line comes to when it does not come to options. -/
inductive Ending where
  /-- The help text is asked for. -/
  | help
  /-- The command line is refused. -/
  | usage (error : UsageError)
  deriving Repr, DecidableEq

/-- The options found so far, and the arguments that nothing answers to. -/
structure Draft where
  options : Options := {}
  strays : List String := []
  deriving Repr, DecidableEq

namespace Draft

/-- The draft with one more argument that nothing answers to. -/
def stray (draft : Draft) (argument : String) : Draft :=
  { draft with strays := draft.strays ++ [argument] }

/-- The draft with its source. -/
def withSource (draft : Draft) (source : String) : Draft :=
  { draft with options := { draft.options with source := some source } }

/-- The draft with an option that takes no value turned on. -/
def turnOn (draft : Draft) : Flag → Except Ending Draft
  | .help => .error .help
  | .rule => .ok draft
  | .json => .ok { draft with options := { draft.options with json := true } }
  | .pretty => .ok { draft with options := { draft.options with pretty := true } }
  | .verbose => .ok { draft with options := { draft.options with verbose := true } }
  | .repl => .ok { draft with options := { draft.options with repl := true } }

variable (edition : Edition)

/-- The draft with the rule of a name; in the earlier edition the divider in the place of a name
stands for no rule. -/
def withRule (draft : Draft) (name : String) : Except Ending Draft :=
  match Rule.ofName? name with
  | some rule => .ok { draft with options := { draft.options with rule := some rule } }
  | none =>
      if edition = .earlier ∧ name = "--" then
        .ok { draft with options := { draft.options with rule := none } }
      else .error (.usage (.invalidRule name))

/-- Settles marks from left to right. -/
def settle (draft : Draft) : List Mark → Except Ending Draft
  | [] => .ok draft
  | .unknown text :: more => settle (draft.stray text) more
  | .word text :: more =>
      match draft.options.source, more with
      | none, .divider :: more => settle (draft.withSource text) more
      | none, more => settle (draft.withSource text) more
      | some _, more => settle (draft.stray text) more
  | .divider :: more =>
      match draft.options.source, more with
      | none, .word text :: more => settle (draft.withSource text) more
      | none, more => settle draft more
      | some _, more => settle (draft.stray "--") more
  | .single flag value :: more =>
      if flag.takesValue then
        match value, more with
        | some value, more => do settle (← draft.withRule edition (String.ofList value)) more
        | none, .word text :: more => do settle (← draft.withRule edition text) more
        | none, _ => .error (.usage (.missing flag))
      else
        match value with
        | some value => .error (.usage (.ignored flag value))
        | none => do settle (← draft.turnOn flag) more
  | .row flag behind :: more =>
      match readRow edition flag behind with
      | .error error => .error (.usage error)
      | .ok (flags, .done) => do settle (← flags.foldlM turnOn draft) more
      | .ok (flags, .stray text) => do settle (← flags.foldlM turnOn (draft.stray text)) more
      | .ok (flags, .value _ value) => do
          settle (← (← flags.foldlM turnOn draft).withRule edition (String.ofList value)) more
      | .ok (flags, .next flag) =>
          match more with
          | .word text :: more => do
              settle (← (← flags.foldlM turnOn draft).withRule edition text) more
          | _ => .error (.usage (.missing flag))

end Draft

end FlatExpr
