import FlatExpr.Proofs.CommandLine

/-!
# CommandLine — arrangement

The order of the arguments does not matter: what the program does depends on the switches that
occur, on the rule that is named last and on the source.

* `Part`, `Spelled`: what a command line is put together from, and its arguments.
* `Draft.settle_marked`, `Spelled.exists_settle`: one part is settled by what it asks for, in
  whatever way it is spelled and whatever stands behind it; all of them are settled one by one.
* `Options.foldl_take`: the options that parts come to, said of the parts as a whole.
* `CommandLine.perform_arranged`: the program does what a direct call does that is made of these.
-/

namespace FlatExpr

/-! ### Direct calls -/

namespace CommandLine

/-- The levels that are shown on standard error, with the verbose option or without it. -/
def shownWith (verbose : Bool) : Level → Bool
  | .info => true
  | .debug => verbose

theorem shows_eq (options : Options) : options.shows = shownWith options.verbose := by
  funext level
  cases level <;> rfl

theorem converse_eq_session [Host] (options : Options) (inputs : List Input) :
    converse options inputs =
      @session options.stack options.dialogue (shownWith options.verbose) inputs := by
  rw [← shows_eq]
  rfl

theorem reportOn_eq_reporting [Host] (options : Options) :
    reportOn options = @reporting options.stack options.request (shownWith options.verbose) := by
  rw [← shows_eq]
  rfl

end CommandLine

/-! ### Parts -/

/-- An option that takes no value, apart from the one that asks for help. -/
inductive Switch where
  | json | pretty | verbose | repl
  deriving Repr, DecidableEq

namespace Switch

/-- The option. -/
def flag : Switch → Flag
  | .json => .json
  | .pretty => .pretty
  | .verbose => .verbose
  | .repl => .repl

/-- The ways to spell it. -/
def spellings : Switch → List String
  | .json => ["-j", "--json"]
  | .pretty => ["-p", "--pretty"]
  | .verbose => ["-v", "--verbose"]
  | .repl => ["--repl"]

theorem takesValue_flag (which : Switch) : which.flag.takesValue = false := by
  cases which <;> rfl

end Switch

/-- A part of a command line. -/
inductive Part where
  /-- A switch. -/
  | switch (which : Switch)
  /-- A rule, with the option that selects it. -/
  | rule (which : Rule)
  /-- The source. -/
  | source (word : String)
  deriving Repr, DecidableEq

namespace Part

/-- The ways to spell a part, each as one argument or as two. -/
def spellings : Part → List (List String)
  | .switch which => which.spellings.map fun argument => [argument]
  | .rule which =>
      [["-r", which.name], ["--rule", which.name], ["-r" ++ which.name], ["--rule=" ++ which.name]]
  | .source word => [[word]]

/-- The rule that a part selects. -/
def rule? : Part → Option Rule
  | .rule which => some which
  | _ => none

/-- The source that a part gives. -/
def source? : Part → Option String
  | .source word => some word
  | _ => none

/-- What the last part of a kind gives. -/
def lastOf {α : Type} (given? : Part → Option α) (parts : List Part) : Option α :=
  (parts.filterMap given?).getLast?

theorem lastOf_cons {α : Type} (given? : Part → Option α) (part : Part) (parts : List Part) :
    lastOf given? (part :: parts) = (lastOf given? parts).or (given? part) := by
  unfold lastOf
  cases h : given? part with
  | none => rw [List.filterMap_cons_none h, Option.or_none]
  | some given =>
      rw [List.filterMap_cons_some h, List.getLast?_cons]
      cases (parts.filterMap given?).getLast? <;> rfl

end Part

/-- The arguments that spell some parts, in their order. -/
inductive Spelled : List Part → List String → Prop
  | nil : Spelled [] []
  | cons {part : Part} {spelling : List String} {parts : List Part} {arguments : List String}
      (h : spelling ∈ part.spellings) (more : Spelled parts arguments) :
      Spelled (part :: parts) (spelling ++ arguments)

/-- The arguments arrange some parts: they spell them in this order, the parts give one source at
most, and it does not begin with a dash. -/
structure Arranged (parts : List Part) (arguments : List String) : Prop where
  spelled : Spelled parts arguments
  source : (parts.filterMap Part.source?).length ≤ 1
  plain : ∀ word, .source word ∈ parts → word.toList.head? ≠ some '-'

/-! ### The marks of a part -/

/-- The marks of a part. -/
inductive Marked : Part → List Mark → Prop
  | letter (which : Switch) : Marked (.switch which) [.row which.flag []]
  | long (which : Switch) : Marked (.switch which) [.single which.flag none]
  | letterApart (which : Rule) : Marked (.rule which) [.row .rule [], .word which.name]
  | longApart (which : Rule) : Marked (.rule which) [.single .rule none, .word which.name]
  | letterTogether (which : Rule) : Marked (.rule which) [.row .rule which.name.toList]
  | longTogether (which : Rule) :
      Marked (.rule which) [.single .rule (some which.name.toList)]
  | source (word : String) : Marked (.source word) [.word word]

section Edition

variable {edition : Edition}

namespace Mark

theorem ofArgument_of_head {word : String} (h : word.toList.head? ≠ some '-') :
    ofArgument edition word = .ok (.word word) := by
  unfold ofArgument
  split
  · next heq => rw [heq] at h; exact absurd rfl h
  · next heq => rw [heq] at h; exact absurd rfl h
  · rfl

/-- An option, and the name of a rule as the argument behind it. -/
theorem ofArguments_name {option : String} {mark : Mark} (hdivider : option ≠ "--")
    (h : ofArgument edition option = .ok mark) (rule : Rule) (arguments : List String) :
    ofArguments edition ([option, rule.name] ++ arguments) =
      (ofArguments edition arguments).map ([mark, .word rule.name] ++ ·) := by
  have hname : rule.name ≠ "--" ∧ ofArgument edition rule.name = .ok (.word rule.name) := by
    cases rule <;> exact ⟨by decide, rfl⟩
  rw [List.cons_append, List.singleton_append, ofArguments_cons hdivider h,
    ofArguments_cons hname.1 hname.2]
  cases ofArguments edition arguments <;> rfl

end Mark

/-- Every spelling of a switch is marked by its letter or by its long name. -/
theorem Switch.exists_marked {which : Switch} {argument : String} (h : argument ∈ which.spellings) :
    ∃ mark, Marked (.switch which) [mark] ∧ argument ≠ "--" ∧
      Mark.ofArgument edition argument = .ok mark := by
  cases which with
  | repl =>
      cases List.mem_singleton.mp h
      exact ⟨_, .long _, by decide, rfl⟩
  | json | pretty | verbose =>
      rcases List.mem_pair.mp h with rfl | rfl
      · exact ⟨_, .letter _, by decide, rfl⟩
      · exact ⟨_, .long _, by decide, rfl⟩

/-- The arguments of a part are marked apart from what stands behind them. -/
theorem Part.exists_marked {part : Part} {spelling : List String} (h : spelling ∈ part.spellings)
    (hplain : ∀ word, part = .source word → word.toList.head? ≠ some '-') :
    ∃ marks, Marked part marks ∧ ∀ arguments,
      Mark.ofArguments edition (spelling ++ arguments) =
        (Mark.ofArguments edition arguments).map (marks ++ ·) := by
  cases part with
  | switch which =>
      obtain ⟨argument, hargument, rfl⟩ := List.mem_map.mp h
      obtain ⟨mark, hmarked, hdivider, hmark⟩ := Switch.exists_marked hargument
      exact ⟨[mark], hmarked, Mark.ofArguments_cons hdivider hmark⟩
  | source word =>
      cases List.mem_singleton.mp h
      have hhead := hplain word rfl
      have hdivider : word ≠ "--" := by
        rintro rfl
        exact hhead rfl
      exact ⟨_, .source word, Mark.ofArguments_cons hdivider (Mark.ofArgument_of_head hhead)⟩
  | rule which =>
      simp only [spellings, List.mem_cons, List.not_mem_nil, or_false] at h
      rcases h with rfl | rfl | rfl | rfl
      · exact ⟨_, .letterApart which, Mark.ofArguments_name (by decide) rfl which⟩
      · exact ⟨_, .longApart which, Mark.ofArguments_name (by decide) rfl which⟩
      · refine ⟨_, .letterTogether which, Mark.ofArguments_cons ?_ ?_⟩
        · cases which <;> decide
        · cases which <;> rfl
      · refine ⟨_, .longTogether which, Mark.ofArguments_cons ?_ ?_⟩
        · cases which <;> decide
        · cases which <;> rfl

end Edition

/-! ### Settling a part -/

/-- The options with what a part asks for. -/
def Options.take (options : Options) : Part → Options
  | .switch .json => { options with json := true }
  | .switch .pretty => { options with pretty := true }
  | .switch .verbose => { options with verbose := true }
  | .switch .repl => { options with repl := true }
  | .rule which => { options with rule := some which }
  | .source word => { options with source := some word }

namespace Draft

variable (edition : Edition) (options : Options) (strays : List String)

theorem turnOn_flag (which : Switch) :
    turnOn ⟨options, strays⟩ which.flag = .ok ⟨options.take (.switch which), strays⟩ := by
  cases which <;> rfl

theorem withRule_name (which : Rule) :
    withRule edition ⟨options, strays⟩ which.name = .ok ⟨options.take (.rule which), strays⟩ := by
  rw [withRule, Rule.ofName?_name]
  rfl

/-- Behind its letter, the name of a rule is the option's value. -/
theorem readRow_name (which : Rule) :
    readRow edition .rule which.name.toList = .ok ([], .value .rule which.name.toList) := by
  cases edition <;> cases which <;> rfl

theorem settle_word {draft : Draft} (hsource : draft.options.source = none) (text : String)
    {more : List Mark} (hmore : more.head? ≠ some .divider) :
    settle edition draft (.word text :: more) = settle edition (draft.withSource text) more := by
  rw [settle]
  · exact hsource
  · rintro rest rfl
    exact hmore rfl

/-- **One part.**  Its marks are settled by what it asks for. -/
theorem settle_marked {part : Part} {marks : List Mark} (h : Marked part marks)
    (hsource : ∀ word, part = .source word → options.source = none) {more : List Mark}
    (hmore : more.head? ≠ some .divider) :
    settle edition ⟨options, strays⟩ (marks ++ more) =
      settle edition ⟨options.take part, strays⟩ more := by
  cases h with
  | letter which =>
      rw [List.singleton_append, settle_row_nil _ _ which.takesValue_flag, turnOn_flag]
      rfl
  | long which =>
      rw [List.singleton_append, settle_single _ _ which.takesValue_flag, turnOn_flag]
      rfl
  | letterApart which =>
      change (do settle edition (← (← [].foldlM turnOn _).withRule edition which.name) more) = _
      rw [List.foldlM_nil, pure_bind, withRule_name]
      rfl
  | longApart which =>
      change (do settle edition (← withRule edition _ which.name) more) = _
      rw [withRule_name]
      rfl
  | letterTogether which =>
      rw [List.singleton_append, settle, readRow_name]
      simp only [List.foldlM_nil, pure_bind, String.ofList_toList, withRule_name]
      rfl
  | longTogether which =>
      change (do settle edition (← withRule edition _ (String.ofList which.name.toList)) more) = _
      rw [String.ofList_toList, withRule_name]
      rfl
  | source word =>
      exact settle_word edition (hsource word rfl) word hmore

end Draft

/-! ### Settling all parts -/

/-- No part is marked by the divider. -/
theorem Marked.head?_append_ne {part : Part} {marks more : List Mark} (h : Marked part marks) :
    (marks ++ more).head? ≠ some .divider := by
  cases h <;> exact nofun

/-- A source finds none before it, and leaves room for none behind it. -/
theorem Options.room_take (options : Options) {part : Part} {parts : List Part}
    (h : (options.source.toList ++ (part :: parts).filterMap Part.source?).length ≤ 1) :
    (∀ word, part = .source word → options.source = none) ∧
      ((options.take part).source.toList ++ parts.filterMap Part.source?).length ≤ 1 := by
  cases part with
  | switch which => exact ⟨nofun, by cases which <;> exact h⟩
  | rule which => exact ⟨nofun, h⟩
  | source word =>
      cases hsource : options.source with
      | none =>
          rw [hsource] at h
          exact ⟨fun _ _ => rfl, h⟩
      | some earlier =>
          rw [hsource] at h
          simp [Part.source?] at h

/-- **All parts** are settled one by one. -/
theorem Spelled.exists_settle (edition : Edition) {parts : List Part} {arguments : List String}
    (h : Spelled parts arguments)
    (hplain : ∀ word, .source word ∈ parts → word.toList.head? ≠ some '-') :
    ∃ marks, Mark.ofArguments edition arguments = .ok marks ∧ marks.head? ≠ some .divider ∧
      ∀ (options : Options) (strays : List String),
        (options.source.toList ++ parts.filterMap Part.source?).length ≤ 1 →
        Draft.settle edition ⟨options, strays⟩ marks =
          .ok ⟨parts.foldl Options.take options, strays⟩ := by
  -- by induction on the parts, for all options: what the earlier parts asked for stands in them
  induction h with
  | nil => exact ⟨[], rfl, nofun, fun options strays _ => rfl⟩
  | @cons part spelling parts arguments hspelling _ ih =>
      obtain ⟨behind, hbehind, hhead, hsettle⟩ :=
        ih fun word hword => hplain word (List.mem_cons_of_mem _ hword)
      obtain ⟨marks, hmarked, hmarks⟩ := Part.exists_marked hspelling fun word hpart =>
        hplain word (hpart ▸ List.mem_cons_self)
      refine ⟨marks ++ behind, ?_, hmarked.head?_append_ne, fun options strays hroom => ?_⟩
      · rw [hmarks, hbehind]
        rfl
      · obtain ⟨hfirst, hrest⟩ := options.room_take hroom
        rw [Draft.settle_marked edition options strays hmarked hfirst hhead, List.foldl_cons]
        exact hsettle _ strays hrest

/-! ### What the options come to -/

namespace Options

/-- Whether a switch is on. -/
def has (options : Options) : Switch → Bool
  | .json => options.json
  | .pretty => options.pretty
  | .verbose => options.verbose
  | .repl => options.repl

variable (options : Options)

theorem source_take (part : Part) :
    (options.take part).source = part.source?.or options.source := by
  cases part with
  | switch which => cases which <;> rfl
  | rule | source => rfl

theorem rule_take (part : Part) : (options.take part).rule = part.rule?.or options.rule := by
  cases part with
  | switch which => cases which <;> rfl
  | rule | source => rfl

theorem has_take (which : Switch) (part : Part) :
    (options.take part).has which = (decide (.switch which = part) || options.has which) := by
  cases part with
  | switch other => cases other <;> cases which <;> rfl
  | rule | source => cases which <;> rfl

/-- A switch is on if it was or if it occurs. -/
theorem has_foldl_take (which : Switch) (parts : List Part) :
    (parts.foldl take options).has which =
      (decide (.switch which ∈ parts) || options.has which) := by
  induction parts generalizing options with
  | nil => rfl
  | cons part parts ih =>
      have hmem : decide (.switch which ∈ part :: parts) =
          (decide (.switch which = part) || decide (.switch which ∈ parts)) := by
        rw [← Bool.decide_or]
        exact decide_eq_decide.mpr List.mem_cons
      rw [List.foldl_cons, ih, has_take, hmem, Bool.or_left_comm, Bool.or_assoc]

/-- What the last part of a kind gives takes the place of what was there. -/
theorem foldl_take_eq_lastOf {α : Type} {value : Options → Option α} {given? : Part → Option α}
    (hstep : ∀ options part, value (options.take part) = (given? part).or (value options))
    (parts : List Part) :
    value (parts.foldl take options) = (Part.lastOf given? parts).or (value options) := by
  induction parts generalizing options with
  | nil => rfl
  | cons part parts ih =>
      rw [List.foldl_cons, ih, hstep, Part.lastOf_cons, Option.or_assoc]

/-- **What parts come to**: the switches that occur, the last rule and the last source. -/
theorem foldl_take (parts : List Part) :
    parts.foldl take {} =
      { source := Part.lastOf Part.source? parts
        rule := Part.lastOf Part.rule? parts
        json := decide (.switch .json ∈ parts)
        pretty := decide (.switch .pretty ∈ parts)
        verbose := decide (.switch .verbose ∈ parts)
        repl := decide (.switch .repl ∈ parts) } := by
  have hhas : ∀ which, (parts.foldl take {}).has which = decide (.switch which ∈ parts) := by
    intro which
    rw [has_foldl_take]
    cases which <;> exact Bool.or_false _
  have hsource : (parts.foldl take {}).source = (Part.lastOf Part.source? parts).or none :=
    foldl_take_eq_lastOf {} source_take parts
  have hrule : (parts.foldl take {}).rule = (Part.lastOf Part.rule? parts).or none :=
    foldl_take_eq_lastOf {} rule_take parts
  rw [Option.or_none] at hsource hrule
  have eta : ∀ options : Options, options =
      ⟨options.source, options.rule, options.has .json, options.has .pretty, options.has .verbose,
        options.has .repl⟩ := fun _ => rfl
  rw [eta (parts.foldl take {})]
  simp only [hsource, hrule, hhas]

end Options

/-- **The options** that arranged arguments come to. -/
theorem Arranged.ofArguments (edition : Edition) {parts : List Part} {arguments : List String}
    (h : Arranged parts arguments) :
    Options.ofArguments edition arguments =
      .ok { source := Part.lastOf Part.source? parts
            rule := Part.lastOf Part.rule? parts
            json := decide (.switch .json ∈ parts)
            pretty := decide (.switch .pretty ∈ parts)
            verbose := decide (.switch .verbose ∈ parts)
            repl := decide (.switch .repl ∈ parts) } := by
  obtain ⟨marks, hmarks, -, hsettle⟩ := h.spelled.exists_settle edition h.plain
  rw [Options.ofArguments_of_marks hmarks, hsettle {} [] h.source, Options.foldl_take]
  rfl

namespace CommandLine

/-- **Arrangements.**  However its parts are spelled and in whatever order they come, a command
line is performed as a session or as a report is that is made of the switches that occur, the rule
named last and the source: a session if one is asked for, whatever the source, and else a report,
which leaves with 0 if the text was read and with 1 if it was not.  Two command lines with the same
switches, the same last rule and the same source are performed alike. -/
theorem perform_arranged [Host] {parts : List Part} {arguments : List String}
    (h : Arranged parts arguments) (inputs : List Input) :
    let rule? := Part.lastOf Part.rule? parts
    let occurs : Switch → Bool := fun which => decide (.switch which ∈ parts)
    let start : Dialogue := ⟨(rule?.getD .expr).name, occurs .verbose⟩
    let request : Request :=
      ⟨(Part.lastOf Part.source? parts).getD "x=3", (rule?.getD .assignment).name, occurs .json,
        occurs .pretty⟩
    let shown := shownWith (occurs .verbose)
    letI : Stack := Host.stack (occurs .verbose)
    (.switch .repl ∈ parts → perform arguments inputs = session start shown inputs) ∧
    (.switch .repl ∉ parts → perform arguments inputs = reporting request shown ∧
      ∃ read, request.report.verdict = .ok read ∧
        (perform arguments inputs).status = .ok (if read then 0 else 1)) ∧
    ∀ parts' arguments', Arranged parts' arguments' →
      (∀ which, .switch which ∈ parts' ↔ .switch which ∈ parts) →
      Part.lastOf Part.rule? parts' = rule? →
      Part.lastOf Part.source? parts' = Part.lastOf Part.source? parts →
      perform arguments' inputs = perform arguments inputs := by
  intro rule? occurs start request shown
  let _ : Stack := Host.stack (occurs .verbose)
  have hoptions := h.ofArguments Host.edition
  refine ⟨fun hrepl => ?_, fun hrepl => ?_, fun parts' arguments' h' hswitch hrule hsource => ?_⟩
  · rw [perform_of_converses inputs hoptions (decide_eq_true hrepl), converse_eq_session]
    rfl
  · have hperform : perform arguments inputs = reporting request shown := by
      rw [perform_of_reports inputs ⟨hoptions, decide_eq_false hrepl⟩, reportOn_eq_reporting]
      rfl
    obtain ⟨read, hread⟩ : ∃ read, request.report.verdict = .ok read :=
      Request.exists_verdict rfl
    refine ⟨hperform, read, hread, ?_⟩
    rw [hperform, reporting, hread]
    rfl
  · have hsame : Options.ofArguments Host.edition arguments' =
        Options.ofArguments Host.edition arguments := by
      rw [h'.ofArguments, hoptions, hrule, hsource]
      simp only [hswitch]
      rfl
    rw [perform, perform, hsame]

/-- The rule that is named last counts, in whatever way it is spelled, and a session does without
the source. -/
theorem perform_arranged_shuffled :
    let parts : List Part := [.switch .json, .rule .term, .source "a*2", .switch .verbose,
      .rule .expr, .switch .json]
    let parts' : List Part := [.source "a*2", .rule .expr, .switch .verbose, .switch .json]
    let arguments := ["-j", "-r", "term", "a*2", "--verbose", "--rule=expr", "--json"]
    let arguments' := ["a*2", "-rexpr", "-v", "--json"]
    letI : Stack := Host.stack true
    Arranged parts arguments ∧ Arranged parts' arguments' ∧
    perform arguments [] = reporting ⟨"a*2", "expr", true, false⟩ (shownWith true) ∧
    perform arguments' [] = perform arguments [] ∧
    perform ("--repl" :: arguments') [] = session ⟨"expr", true⟩ (shownWith true) [] := by
  intro parts parts' arguments arguments'
  have spelled : Spelled parts
      (["-j"] ++ (["-r", "term"] ++ (["a*2"] ++ (["--verbose"] ++ (["--rule=expr"] ++ (["--json"] ++
        [])))))) :=
    .cons (by decide) (.cons (by decide) (.cons (by decide) (.cons (by decide) (.cons (by decide)
      (.cons (by decide) .nil)))))
  have spelled' : Spelled parts'
      (["a*2"] ++ (["-rexpr"] ++ (["-v"] ++ (["--json"] ++ [])))) :=
    .cons (by decide) (.cons (by decide) (.cons (by decide) (.cons (by decide) .nil)))
  have plain : ∀ {parts : List Part}, parts.filterMap Part.source? = ["a*2"] →
      ∀ word, .source word ∈ parts → word.toList.head? ≠ some '-' := by
    intro parts hparts word hword
    have hmem : word ∈ parts.filterMap Part.source? := List.mem_filterMap.mpr ⟨_, hword, rfl⟩
    rw [hparts] at hmem
    cases List.mem_singleton.mp hmem
    decide
  have arranged : Arranged parts arguments := ⟨spelled, by decide, plain rfl⟩
  have arranged' : Arranged parts' arguments' := ⟨spelled', by decide, plain rfl⟩
  have conversing : Arranged (.switch .repl :: parts') ("--repl" :: arguments') :=
    ⟨.cons (show ["--repl"] ∈ Part.spellings (.switch .repl) by decide) spelled', by decide,
      plain rfl⟩
  obtain ⟨-, hreport, hsame⟩ := perform_arranged arranged []
  refine ⟨arranged, arranged', (hreport (by decide)).1, ?_, ?_⟩
  · refine hsame parts' arguments' arranged' (fun which => ?_) (by decide) (by decide)
    cases which <;> decide
  · exact (perform_arranged conversing []).1 (by decide)

end CommandLine

end FlatExpr
