import FlatExpr.Options

/-!
# Options — settling

How settling goes on behind an option, and that the verbose option changes nothing else about it.

* `Draft.settle_single`, `Draft.settle_row_nil`: an option that takes no value is turned on, and
  settling goes on with the marks behind it.
* `Draft.settle_loud`: settling reads the draft for its source alone, so turning the verbose
  option on beforehand comes to turning it on in the end.
* `Options.ofArguments_verbose_cons`: the same of the arguments, with `-v` in front of them.
-/

namespace FlatExpr

/-- The options with the verbose option turned on. -/
def Options.loud (options : Options) : Options := { options with verbose := true }

namespace Draft

variable (edition : Edition) (draft : Draft)

/-- The options, if no argument is left that nothing answers to. -/
def finish : Except Ending Options :=
  if draft.strays.isEmpty then .ok draft.options
  else .error (.usage (.unrecognized draft.strays))

/-! ### Options that take no value -/

section NoValue

variable {flag : Flag} (h : flag.takesValue = false) (more : List Mark)

include h

theorem settle_single :
    settle edition draft (.single flag none :: more) =
      draft.turnOn flag >>= (settle edition · more) := by
  rw [settle.eq_def]
  simp only [h]
  rfl

theorem settle_row_nil :
    settle edition draft (.row flag [] :: more) =
      draft.turnOn flag >>= (settle edition · more) := by
  have hrow : readRow edition flag [] = .ok ([flag], .done) := by rw [readRow, h]; rfl
  rw [settle, hrow]
  simp only [List.foldlM_cons, List.foldlM_nil, bind_pure]

end NoValue

/-! ### Turning the verbose option on beforehand -/

/-- The draft with the verbose option turned on. -/
def loud : Draft := { draft with options := draft.options.loud }

@[simp]
theorem source_loud : draft.loud.options.source = draft.options.source := rfl

@[simp]
theorem stray_loud (argument : String) : draft.loud.stray argument = (draft.stray argument).loud :=
  rfl

@[simp]
theorem withSource_loud (source : String) :
    draft.loud.withSource source = (draft.withSource source).loud := rfl

theorem turnOn_loud (flag : Flag) : draft.loud.turnOn flag = (draft.turnOn flag).map loud := by
  cases flag <;> rfl

theorem withRule_loud (name : String) :
    draft.loud.withRule edition name = (draft.withRule edition name).map loud := by
  unfold withRule
  split
  · rfl
  · split <;> rfl

theorem finish_loud : draft.loud.finish = draft.finish.map Options.loud := by
  unfold finish
  change (if draft.strays.isEmpty then _ else _) = _
  split <;> rfl

/-- A step that carries the verbose option along, and so does what goes on from it. -/
theorem bind_loud {α : Type} {on : α → α} {step step' : Except Ending Draft}
    {next : Draft → Except Ending α} (hstep : step' = step.map loud)
    (hnext : ∀ draft, next draft.loud = (next draft).map on) :
    step' >>= next = (step >>= next).map on := by
  subst hstep
  cases step with
  | error ending => rfl
  | ok draft => exact hnext draft

theorem foldlM_turnOn_loud (flags : List Flag) :
    flags.foldlM turnOn draft.loud = (flags.foldlM turnOn draft).map loud := by
  induction flags generalizing draft with
  | nil => rfl
  | cons flag flags ih =>
      rw [List.foldlM_cons, List.foldlM_cons]
      exact bind_loud (turnOn_loud draft flag) ih

/-- **Settling** carries the verbose option along and does not look at it. -/
theorem settle_loud (marks : List Mark) :
    settle edition draft.loud marks = (settle edition draft marks).map loud := by
  fun_induction settle edition draft marks
  case case1 => rfl
  -- a mark that is no option: the source says where it goes
  case case2 ih => rw [settle, stray_loud, ih]
  case case3 h ih | case4 h ih | case5 h ih | case6 h ih | case7 h ih | case8 h ih =>
      simp [settle, h, ih]
  -- the command line is refused
  case case11 h _ | case12 h _ | case14 h | case19 h _ => simp [settle, h, Except.map]
  -- a rule's name
  case case9 h _ _ ih | case10 h _ _ ih =>
      simp only [settle, h]
      exact bind_loud (withRule_loud _ _ _) ih
  -- options that are turned on, and perhaps a stray or a rule's name behind them
  case case13 h ih =>
      rw [settle_single _ _ (Bool.eq_false_iff.mpr h)]
      exact bind_loud (turnOn_loud _ _) ih
  case case15 h ih | case16 h ih =>
      simp only [settle, h, stray_loud]
      exact bind_loud (foldlM_turnOn_loud _ _) ih
  case case17 h ih | case18 h _ _ ih =>
      simp only [settle, h]
      exact bind_loud (foldlM_turnOn_loud _ _) fun draft =>
        bind_loud (withRule_loud edition draft _) ih

end Draft

/-! ### Arguments -/

variable {edition : Edition}

theorem Mark.ofArguments_cons {argument : String} {mark : Mark} (hdivider : argument ≠ "--")
    (h : ofArgument edition argument = .ok mark) (arguments : List String) :
    ofArguments edition (argument :: arguments) =
      (ofArguments edition arguments).map (mark :: ·) := by
  rw [ofArguments, if_neg hdivider, h]
  cases ofArguments edition arguments <;> rfl

namespace Options

/-- The options are what the marks are settled to. -/
theorem ofArguments_of_marks {arguments : List String} {marks : List Mark}
    (h : Mark.ofArguments edition arguments = .ok marks) :
    ofArguments edition arguments = Draft.settle edition {} marks >>= Draft.finish := by
  rw [ofArguments, h]
  rfl

/-- **`-v` in front** of the arguments turns the verbose option on and changes nothing else. -/
theorem ofArguments_verbose_cons (arguments : List String) :
    ofArguments edition ("-v" :: arguments) = (ofArguments edition arguments).map loud := by
  have hmarks : Mark.ofArguments edition ("-v" :: arguments) =
      (Mark.ofArguments edition arguments).map (.row .verbose [] :: ·) :=
    Mark.ofArguments_cons (by decide) rfl arguments
  cases h : Mark.ofArguments edition arguments with
  | error error => rw [ofArguments, ofArguments, hmarks, h]; rfl
  | ok marks =>
      rw [h] at hmarks
      rw [ofArguments_of_marks h, ofArguments_of_marks hmarks]
      have hsettle : Draft.settle edition {} (.row .verbose [] :: marks) =
          (Draft.settle edition {} marks).map Draft.loud := Draft.settle_loud edition {} marks
      exact Draft.bind_loud hsettle Draft.finish_loud

end Options

end FlatExpr
