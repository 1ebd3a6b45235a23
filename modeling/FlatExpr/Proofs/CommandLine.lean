import FlatExpr.CommandLine
import FlatExpr.Proofs.Dialogue
import FlatExpr.Proofs.Grammar.Guard
import FlatExpr.Proofs.Options
import FlatExpr.Proofs.Report.Log

/-!
# CommandLine — exits

How the program ends, and what stands on its streams then.

* `CommandLine.Refused`, `CommandLine.Unread`: the arguments are refused; they ask for a report on
  a text that its rule does not read.
* `CommandLine.dispatch`: the program with its reports and sessions left open.  What it does where
  the arguments are refused does not depend on them.
* `DebugAdded`: standard error with the lines of debug records put in between.
* `CommandLine.Crowded`: the text can be read only while the log is silent.
* `CommandLine.conclude_exits`: the program ends by itself unless a session cannot read on; the
  exit status says why, and `-v` in front adds debug records and nothing else, if there is room.
* `CommandLine.conclude_thrown_and_crowded`: neither exception can be left out.
-/

namespace FlatExpr

/-! ### Sessions -/

/-- A report of trouble: reading was refused or stopped. -/
def Reply.IsTrouble : Reply → Prop
  | .trouble _ | .halted => True
  | _ => False

theorem Reply.IsOrdinary.not_isTrouble {reply : Reply} (h : reply.IsOrdinary) :
    ¬ reply.IsTrouble := by
  intro htrouble
  cases reply <;> first | exact h | exact htrouble

/-- A turn of one reply reports trouble only if that reply does. -/
theorem Turn.not_isTrouble_of_singleton {reply : Reply} (h : ¬ reply.IsTrouble) :
    ∀ turn ∈ [Turn.mk [reply] []], ∀ other ∈ turn.replies, ¬ other.IsTrouble := by
  intro turn hturn other hother
  cases List.mem_singleton.mp hturn
  cases List.mem_singleton.mp hother
  exact h

/-- A session on a rule reports no trouble, whatever comes in. -/
theorem Dialogue.not_isTrouble_of_mem_talk [Stack] (rule : Rule) (verbose : Bool)
    (inputs : List Input) :
    ∀ turn ∈ talk ⟨rule.name, verbose⟩ inputs, ∀ reply ∈ turn.replies, ¬ reply.IsTrouble := by
  -- a line may choose another rule, but only one that there is
  induction inputs generalizing rule verbose with
  | nil => exact Turn.not_isTrouble_of_singleton id
  | cons input more ih =>
      cases input with
      | interrupt => exact Turn.not_isTrouble_of_singleton id
      | line text =>
          cases h : isLast text with
          | true =>
              rw [talk_of_isLast _ h]
              exact Turn.not_isTrouble_of_singleton id
          | false =>
              rw [talk_cons rule verbose h]
              intro turn hturn
              rcases List.mem_cons.mp hturn with rfl | hturn
              · intro reply hreply
                exact (isOrdinary_answerTo rule verbose h reply hreply).not_isTrouble
              · exact ih _ _ turn hturn

/-- Whether a session that reads its standard input to the last asks for a line there that cannot
be read. -/
def StandardInput.fails : StandardInput → Bool
  | .readable _ => false
  | .broken inputs => Dialogue.staysOpen inputs
  | .closed => true

/-! ### Standard error -/

/-- A text of lines, and the same with the lines of debug records put in between. -/
inductive DebugAdded : String → String → Prop
  | nil : DebugAdded "" ""
  | keep (line : String) {text more : String} (h : DebugAdded text more) :
      DebugAdded (line ++ "\n" ++ text) (line ++ "\n" ++ more)
  | add {record : Record} (hlevel : record.level = .debug) {text more : String}
      (h : DebugAdded text more) : DebugAdded text (record.line ++ more)

/-- A list of texts, joined, begins with every beginning of it. -/
theorem exists_join_of_prefix {front texts : List String} (h : front <+: texts) :
    ∃ more, String.join texts = String.join front ++ more := by
  obtain ⟨behind, rfl⟩ := h
  exact ⟨String.join behind, String.join_append ..⟩

/-- What some turns log begins with what the first of them log. -/
theorem CommandLine.exists_logOf_of_prefix (shown : Level → Bool) {front turns : List Turn}
    (h : front <+: turns) : ∃ more, logOf shown turns = logOf shown front ++ more := by
  obtain ⟨behind, rfl⟩ := h
  refine ⟨logOf shown behind, ?_⟩
  rw [logOf, List.flatMap_append, Output.stderrWith_append, logOf, logOf]

/-- With the verbose option the same is written, and debug records are shown too. -/
theorem Options.debugAdded_stderrWith (options : Options) {outputs : List Output}
    (h : ∀ text, .err text ∈ outputs → ∃ line, text = line ++ "\n") :
    DebugAdded (Output.stderrWith options.shows outputs)
      (Output.stderrWith options.loud.shows outputs) := by
  induction outputs with
  | nil => exact .nil
  | cons output outputs ih =>
      have ih := ih fun text htext => h text (List.mem_cons_of_mem _ htext)
      cases output with
      | out text => exact ih
      | err text =>
          obtain ⟨line, rfl⟩ := h text List.mem_cons_self
          rw [Output.stderrWith_err, Output.stderrWith_err]
          exact .keep line ih
      | log record =>
          -- with the verbose option every record is shown
          have hloud : options.loud.shows record.level = true := by cases record.level <;> rfl
          rw [Output.stderrWith_log_of_shown _ hloud]
          cases hshown : options.shows record.level with
          | true =>
              rw [Output.stderrWith_log_of_shown _ hshown]
              exact .keep _ ih
          | false =>
              rw [Output.stderrWith_log_of_not_shown _ hshown]
              refine .add ?_ ih
              cases hlevel : record.level with
              | debug => rfl
              | info => rw [hlevel] at hshown; cases hshown

/-! ### What is asked for -/

namespace Options

variable (options : Options)

/-- The text of a report. -/
def text : List Char := options.request.source.toList

theorem request_rule : options.request.rule = options.reportRule.name := rfl

variable [Host]

/-- With the verbose option there is no more room. -/
theorem room_loud_le (rule : Rule) (text : List Char) :
    options.loud.stack.room rule text ≤ options.stack.room rule text := by
  have hloud : options.loud.stack = Host.stack true := rfl
  rw [hloud, stack]
  cases options.verbose with
  | true => exact Nat.le_refl _
  | false => exact Host.room_loud_le rule text

end Options

namespace CommandLine

/-! ### Reports -/

section Reporting

variable [Stack] {request : Request} {rule : Rule} (hrule : request.rule = rule.name)
  (shown : Level → Bool)

include hrule

/-- A report on a text that is read leaves with 0. -/
theorem status_reporting_of_success {value : Expr} {rest : List Char}
    (h : (rule.parse request.source.toList).outcome = .ok (.success value rest)) :
    (reporting request shown).status = .ok 0 := by
  have hverdict := congrArg Seen.verdict (Request.seen_of_success hrule h)
  exact congrArg (Except.map fun read => if read then 0 else 1) hverdict

/-- A report on a text that is not read leaves with 1 and the complaint, and prints nothing. -/
theorem reporting_of_failure {why : Complaint}
    (h : (rule.parse request.source.toList).outcome = .ok (.failure why)) :
    (reporting request shown).status = .ok 1 ∧ (reporting request shown).stdout = [""] ∧
      ∃ before, (reporting request shown).stderr =
        before ++ ("Parse error: " ++ why.message ++ "\n") := by
  have hseen := Request.seen_of_failure hrule h
  refine ⟨?_, ?_, Output.stderrWith shown ((request.logged rule).map .log), ?_⟩
  · exact congrArg (Except.map fun read => if read then 0 else 1) (congrArg Seen.verdict hseen)
  · exact congrArg (fun text => [text]) (congrArg Seen.stdout hseen)
  · have hstderr := congrArg (fun report => Output.stderrWith shown report.outputs)
      (Request.report_of_failure hrule h)
    simp only [Output.stderrWith_append, Output.stderrWith_err, Output.stderrWith_nil,
      String.append_empty] at hstderr
    exact hstderr

end Reporting

/-! ### Exits -/

section OnHost

variable [Host]

/-- The arguments are refused. -/
def Refused (arguments : List String) (error : UsageError) : Prop :=
  Options.ofArguments Host.edition arguments = .error (.usage error)

/-- The arguments ask for a session. -/
def Converses (arguments : List String) : Prop :=
  ∃ options, Options.ofArguments Host.edition arguments = .ok options ∧ options.repl = true

/-- The arguments ask for a report. -/
structure Reports (arguments : List String) (options : Options) : Prop where
  resolved : Options.ofArguments Host.edition arguments = .ok options
  reports : options.repl = false

/-- The arguments ask for a report on a text that its rule does not read. -/
structure Unread (arguments : List String) (options : Options) (why : Complaint) : Prop
    extends Reports arguments options where
  failed : (@Rule.parse options.stack options.reportRule options.text).outcome = .ok (.failure why)

/-- The arguments ask for a report on a text that its rule reads. -/
structure ReadBy (arguments : List String) (options : Options) (value : Expr)
    (rest : List Char) : Prop extends Reports arguments options where
  read : (@Rule.parse options.stack options.reportRule options.text).outcome =
    .ok (.success value rest)

/-- The arguments ask for a report on a text whose assignments there is room for, but not any more
with the verbose option. -/
structure Crowded (arguments : List String) (options : Options) : Prop
    extends Reports arguments options where
  fits : options.reportRule.depth options.text ≤
    options.stack.room options.reportRule options.text
  exceeds : options.loud.stack.room options.reportRule options.text <
    options.reportRule.depth options.text

/-- What the program does, with sessions and reports left open. -/
def dispatch (session : Options → List Input → Performance) (report : Options → Performance)
    (arguments : List String) (inputs : List Input) : Performance :=
  match Options.ofArguments Host.edition arguments with
  | .error .help => ⟨.ok 0, [help], ""⟩
  | .error (.usage error) => ⟨.ok 2, [""], usage ++ "arith: error: " ++ error.message ++ "\n"⟩
  | .ok options => if options.repl then session options inputs else report options

theorem perform_eq_dispatch : perform = dispatch converse reportOn := rfl

variable {arguments : List String} {options : Options} {error : UsageError} {why : Complaint}

section Perform

variable (inputs : List Input)

theorem perform_of_help (h : Options.ofArguments Host.edition arguments = .error .help) :
    perform arguments inputs = ⟨.ok 0, [help], ""⟩ := by
  rw [perform, h]

/-- Where the arguments are refused, no session and no report has a part in what is done. -/
theorem dispatch_of_refused (h : Refused arguments error)
    (session : Options → List Input → Performance) (report : Options → Performance) :
    dispatch session report arguments inputs =
      ⟨.ok 2, [""], usage ++ "arith: error: " ++ error.message ++ "\n"⟩ := by
  rw [dispatch, h]

theorem perform_of_refused (h : Refused arguments error) :
    perform arguments inputs =
      ⟨.ok 2, [""], usage ++ "arith: error: " ++ error.message ++ "\n"⟩ := by
  rw [perform_eq_dispatch]
  exact dispatch_of_refused inputs h converse reportOn

theorem perform_of_converses (h : Options.ofArguments Host.edition arguments = .ok options)
    (hrepl : options.repl = true) : perform arguments inputs = converse options inputs := by
  rw [perform, h]
  exact if_pos hrepl

theorem perform_of_reports (h : Reports arguments options) :
    perform arguments inputs = reportOn options := by
  rw [perform, h.resolved]
  exact if_neg (Bool.eq_false_iff.mp h.reports)

/-- The program leaves with 0 where a text is read. -/
theorem status_perform_of_read {value : Expr} {rest : List Char}
    (h : ReadBy arguments options value rest) : (perform arguments inputs).status = .ok 0 := by
  rw [perform_of_reports inputs h.toReports]
  exact @status_reporting_of_success options.stack _ _ options.request_rule options.shows _ _ h.read

/-- The program leaves with 1, the complaint and nothing printed where a text is not read. -/
theorem perform_of_unread (h : Unread arguments options why) :
    (perform arguments inputs).status = .ok 1 ∧ (perform arguments inputs).stdout = [""] ∧
      ∃ before, (perform arguments inputs).stderr =
        before ++ ("Parse error: " ++ why.message ++ "\n") := by
  rw [perform_of_reports inputs h.toReports]
  exact @reporting_of_failure options.stack _ _ options.request_rule options.shows _ h.failed

/-- How the program ends, with the reason why. -/
inductive Exits (arguments : List String) : Nat → Prop where
  | help (h : Options.ofArguments Host.edition arguments = .error .help) : Exits arguments 0
  | refused {error : UsageError} (h : Refused arguments error) : Exits arguments 2
  | session (h : Converses arguments) : Exits arguments 0
  | read {options : Options} {value : Expr} {rest : List Char}
      (h : ReadBy arguments options value rest) : Exits arguments 0
  | unread {options : Options} {why : Complaint} (h : Unread arguments options why) :
      Exits arguments 1

/-- **How the program ends**, if it ends by itself. -/
theorem exists_exits (arguments : List String) :
    ∃ status, (perform arguments inputs).status = .ok status ∧ Exits arguments status := by
  cases h : Options.ofArguments Host.edition arguments with
  | error ending =>
      cases ending with
      | help => exact ⟨0, by rw [perform_of_help inputs h], .help h⟩
      | usage error => exact ⟨2, by rw [perform_of_refused inputs h], .refused h⟩
  | ok options =>
      cases hrepl : options.repl with
      | true =>
          rw [perform_of_converses inputs h hrepl]
          exact ⟨0, rfl, .session ⟨options, h, hrepl⟩⟩
      | false =>
          obtain ⟨result, hresult⟩ :=
            @Rule.exists_outcome_parse options.stack options.reportRule options.text
          cases result with
          | success value rest =>
              have hread : ReadBy arguments options value rest := ⟨⟨h, hrepl⟩, hresult⟩
              exact ⟨0, status_perform_of_read inputs hread, .read hread⟩
          | failure why =>
              have hunread : Unread arguments options why := ⟨⟨h, hrepl⟩, hresult⟩
              exact ⟨1, (perform_of_unread inputs hunread).1, .unread hunread⟩

/-! ### The verbose option in front -/

theorem Reports.loud (h : Reports arguments options) :
    Reports ("-v" :: arguments) options.loud := by
  refine ⟨?_, h.reports⟩
  rw [Options.ofArguments_verbose_cons, h.resolved]
  rfl

/-- More than 40 assignments are nested there. -/
theorem Crowded.forty_lt (h : Crowded arguments options) :
    40 < options.reportRule.depth options.text :=
  Nat.lt_of_le_of_lt (options.loud.stack.forty_le_room _ _) h.exceeds

theorem Crowded.nesting_bounds (h : Crowded arguments options) :
    40 < nesting options.text ∧ nesting options.text < 1000 := by
  rw [← Rule.depth_eq_nesting_of_pos (Nat.lt_trans (by decide) h.forty_lt)]
  exact ⟨h.forty_lt, Nat.lt_of_le_of_lt h.fits (options.stack.room_lt_thousand _ _)⟩

/-- A text that there is room for is read. -/
theorem Crowded.exists_readBy (h : Crowded arguments options) :
    ∃ value rest, ReadBy arguments options value rest := by
  obtain ⟨value, rest, hanswer⟩ :=
    Rule.exists_answer_of_depth_pos (Nat.lt_trans (by decide) h.forty_lt)
  refine ⟨value, rest, h.toReports, ?_⟩
  rw [@Rule.outcome_parse_of_le options.stack _ _ h.fits, hanswer]

/-- With the verbose option it is nested too deeply. -/
theorem Crowded.unread (h : Crowded arguments options) :
    Unread ("-v" :: arguments) options.loud .nestedTooDeeply := by
  refine ⟨h.toReports.loud, ?_⟩
  have hdeep := @Rule.outcome_parse options.loud.stack options.reportRule options.text
  rw [if_neg (Nat.not_le.mpr h.exceeds)] at hdeep
  exact hdeep

/-- Where it is not crowded, the report with the verbose option says the same. -/
theorem reportOn_loud (h : Reports arguments options) (room : ¬ Crowded arguments options) :
    (reportOn options.loud).status = (reportOn options).status ∧
    (reportOn options.loud).stdout = (reportOn options).stdout ∧
    DebugAdded (reportOn options).stderr (reportOn options.loud).stderr := by
  have hreport : @Request.report options.loud.stack options.request =
      @Request.report options.stack options.request := by
    refine Request.report_congr options.request_rule ?_
    rcases Rule.parse_eq_or_of_room_le (options.room_loud_le _ _) with heq | ⟨exceeds, fits⟩
    · exact heq
    · exact absurd ⟨h, fits, exceeds⟩ room
  have hloud : reportOn options.loud =
      @reporting options.stack options.request options.loud.shows := by
    change @reporting options.loud.stack options.request options.loud.shows = _
    unfold reporting
    rw [hreport]
  rw [hloud]
  exact ⟨rfl, rfl, options.debugAdded_stderrWith
    (@Request.exists_line_of_err options.stack _ _ options.request_rule)⟩

/-- **`-v` in front** of the arguments: unless they ask for a session, or the text is crowded, the
program leaves with the same status and prints the same, and only debug records are added on
standard error. -/
theorem perform_verbose_cons (h : ¬ Converses arguments)
    (room : ∀ options, ¬ Crowded arguments options) :
    (perform ("-v" :: arguments) inputs).status = (perform arguments inputs).status ∧
    (perform ("-v" :: arguments) inputs).stdout = (perform arguments inputs).stdout ∧
    DebugAdded (perform arguments inputs).stderr (perform ("-v" :: arguments) inputs).stderr := by
  have hloud := @Options.ofArguments_verbose_cons Host.edition arguments
  cases hquiet : Options.ofArguments Host.edition arguments with
  | error ending =>
      rw [hquiet] at hloud
      cases ending with
      | help =>
          rw [perform_of_help inputs hquiet, perform_of_help inputs hloud]
          exact ⟨rfl, rfl, .nil⟩
      | usage error =>
          rw [perform_of_refused inputs hquiet, perform_of_refused inputs hloud]
          refine ⟨rfl, rfl, ?_⟩
          have hadded : DebugAdded (usage ++ "arith: error: " ++ error.message ++ "\n" ++ "") _ :=
            .keep _ .nil
          rw [String.append_empty] at hadded
          exact hadded
  | ok options =>
      have hreports : Reports arguments options :=
        ⟨hquiet, Bool.eq_false_iff.mpr fun hrepl => h ⟨options, hquiet, hrepl⟩⟩
      rw [perform_of_reports inputs hreports, perform_of_reports inputs hreports.loud]
      exact reportOn_loud hreports (room options)

end Perform

/-! ### Standard input -/

section Conclude

variable (stdin : StandardInput)

theorem conclude_of_converses (h : Options.ofArguments Host.edition arguments = .ok options)
    (hrepl : options.repl = true) : conclude arguments stdin = concludeSession options stdin := by
  rw [conclude, h]
  exact if_pos hrepl

theorem conclude_of_not_converses (h : ¬ Converses arguments) :
    conclude arguments stdin = .left (perform arguments stdin.inputs) := by
  rw [conclude]
  cases hresolved : Options.ofArguments Host.edition arguments with
  | error ending =>
      cases ending with
      | help => rw [perform_of_help _ hresolved, perform_of_help _ hresolved]
      | usage error => rw [perform_of_refused _ hresolved, perform_of_refused _ hresolved]
  | ok options =>
      have hrepl : options.repl = false :=
        Bool.eq_false_iff.mpr fun hrepl => h ⟨options, hresolved, hrepl⟩
      rw [perform_of_reports stdin.inputs ⟨hresolved, hrepl⟩]
      exact if_neg (Bool.eq_false_iff.mp hrepl)

/-- The program ends by itself, unless a session asks for a line that cannot be read. -/
theorem conclude_eq_left (h : Converses arguments → stdin.fails = false) :
    conclude arguments stdin = .left (perform arguments stdin.inputs) := by
  by_cases hconverses : Converses arguments
  · have reads := h hconverses
    obtain ⟨options, hresolved, hrepl⟩ := hconverses
    rw [conclude_of_converses _ hresolved hrepl, perform_of_converses _ hresolved hrepl]
    cases stdin with
    | readable inputs => rfl
    | broken inputs => exact if_neg (Bool.eq_false_iff.mp reads)
    | closed => cases reads
  · exact conclude_of_not_converses stdin hconverses

/-- Otherwise it ends in an exception, and on its streams stands a beginning of what it would leave
there if its input ended before that line. -/
theorem exists_conclude_eq_thrown (h : Converses arguments) (hfails : stdin.fails = true) :
    ∃ stdout stderr, conclude arguments stdin = .thrown stdout stderr ∧
      (∃ more, String.join (perform arguments stdin.inputs).stdout = String.join stdout ++ more) ∧
      ∃ more, (perform arguments stdin.inputs).stderr = stderr ++ more := by
  obtain ⟨options, hresolved, hrepl⟩ := h
  rw [conclude_of_converses _ hresolved hrepl, perform_of_converses _ hresolved hrepl]
  cases stdin with
  | readable inputs => cases hfails
  | broken inputs =>
      refine ⟨_, _, if_pos hfails, ?_, ?_⟩
      · exact exists_join_of_prefix (List.dropLast_prefix _)
      · exact exists_logOf_of_prefix options.shows (List.dropLast_prefix _)
  | closed =>
      let farewell : Turn := ⟨[.interrupted], []⟩
      have hstdout : (converse options StandardInput.closed.inputs).stdout =
          [options.dialogue.greeting ++ Dialogue.prompt, farewell.text] := rfl
      refine ⟨[options.dialogue.greeting], "", rfl, ⟨Dialogue.prompt ++ farewell.text, ?_⟩,
        _, String.empty_append.symm⟩
      simp only [hstdout, String.join_cons, String.join_nil, String.append_empty,
        String.append_assoc]

end Conclude

/-- **Exits.**  The program ends by itself, unless a session asks for a line of standard input that
cannot be read: it ends in an exception then, and on its streams stands a beginning of what it would
leave if its input ended before that line.

Where it ends by itself it leaves with 0, 1 or 2.  It leaves with 2 exactly where the arguments are
refused; then nothing is printed, and no session and no report has a part in it.  It leaves with 1
exactly where a report is asked for on a text that its rule does not read; then nothing is printed,
and the complaint stands on standard error.  Reports and sessions are only ever asked for a rule of
the grammar, and no session reports trouble.

Unless a session is asked for, `-v` in front of the arguments only adds debug records on standard
error, or the text is crowded.  That takes more than 40 and fewer than 1000 assignments one inside
the other; without `-v` the program leaves with 0 then, and with it, with 1 and the complaint that
the text is nested too deeply. -/
theorem conclude_exits (arguments : List String) (stdin : StandardInput) :
    let done := perform arguments stdin.inputs
    let loud := perform ("-v" :: arguments) stdin.inputs
    ((Converses arguments → stdin.fails = false) → conclude arguments stdin = .left done) ∧
    (Converses arguments → stdin.fails = true →
      ∃ stdout stderr, conclude arguments stdin = .thrown stdout stderr ∧
        (∃ more, String.join done.stdout = String.join stdout ++ more) ∧
        ∃ more, done.stderr = stderr ++ more) ∧
    (done.status = .ok 0 ∨ done.status = .ok 1 ∨ done.status = .ok 2) ∧
    (done.status = .ok 2 ↔ ∃ error, Refused arguments error) ∧
    (done.status = .ok 1 ↔ ∃ options why, Unread arguments options why) ∧
    (∀ error, Refused arguments error → done.stdout = [""] ∧
      ∀ session report, dispatch session report arguments stdin.inputs = done) ∧
    (∀ options why, Unread arguments options why → done.stdout = [""] ∧
      ∃ before, done.stderr = before ++ ("Parse error: " ++ why.message ++ "\n")) ∧
    (∀ options, Options.ofArguments Host.edition arguments = .ok options →
      (∃ rule : Rule, options.request.rule = rule.name) ∧
      (∃ rule : Rule, options.dialogue.rule = rule.name) ∧
      ∀ turn ∈ @Dialogue.talk options.stack options.dialogue stdin.inputs,
        ∀ reply ∈ turn.replies, ¬ reply.IsTrouble) ∧
    (¬ Converses arguments → (∀ options, ¬ Crowded arguments options) →
      loud.status = done.status ∧ loud.stdout = done.stdout ∧
      DebugAdded done.stderr loud.stderr) ∧
    (∀ options, Crowded arguments options →
      40 < nesting options.text ∧ nesting options.text < 1000 ∧ done.status = .ok 0 ∧
      loud.status = .ok 1 ∧ loud.stdout = [""] ∧
      ∃ before, loud.stderr =
        before ++ "Parse error: Parsing failure, input nested too deeply\n") := by
  intro done loud
  obtain ⟨status, hstatus, hexits⟩ := exists_exits stdin.inputs arguments
  have hdone : done.status = .ok status := hstatus
  have hrefused : ∀ error, Refused arguments error → done = _ :=
    fun error h => perform_of_refused stdin.inputs h
  refine ⟨conclude_eq_left stdin, exists_conclude_eq_thrown stdin, ?_, ⟨fun h => ?_, ?_⟩,
    ⟨fun h => ?_, ?_⟩, fun error h => ⟨?_, ?_⟩, ?_, ?_, perform_verbose_cons stdin.inputs,
    fun options h => ?_⟩
  · rw [hdone]
    cases hexits with
    | help | session | read => exact .inl rfl
    | unread => exact .inr (.inl rfl)
    | refused => exact .inr (.inr rfl)
  · cases hdone.symm.trans h
    cases hexits with
    | refused h => exact ⟨_, h⟩
  · rintro ⟨error, h⟩
    rw [hrefused error h]
  · cases hdone.symm.trans h
    cases hexits with
    | unread h => exact ⟨_, _, h⟩
  · rintro ⟨options, why, h⟩
    exact (perform_of_unread stdin.inputs h).1
  · rw [hrefused error h]
  · intro session report
    rw [hrefused error h, dispatch_of_refused stdin.inputs h]
  · intro options why h
    exact (perform_of_unread stdin.inputs h).2
  · intro options _
    exact ⟨⟨_, rfl⟩, ⟨_, rfl⟩, @Dialogue.not_isTrouble_of_mem_talk options.stack _ _ stdin.inputs⟩
  · obtain ⟨value, rest, hread⟩ := h.exists_readBy
    obtain ⟨low, high⟩ := h.nesting_bounds
    exact ⟨low, high, status_perform_of_read stdin.inputs hread,
      perform_of_unread stdin.inputs h.unread⟩

end OnHost

/-- Seventy assignments around a chain of two operations. -/
def seventyDeep : String := String.ofList (leads (List.replicate 70 "a") "1+2+3".toList)

/-- There is room for seventy assignments around a chain, but not with the verbose option: the
operation behind the first is written down then. -/
theorem crowded_seventyDeep : Crowded [seventyDeep] { source := some seventyDeep } := by
  have htext : Options.text { source := some seventyDeep } =
      leads (List.replicate 70 "a") "1+2+3".toList := String.toList_ofList
  have hnames : ∀ name ∈ List.replicate 70 "a", IsName name := by decide +kernel
  have hdepth : Rule.assignment.depth (leads (List.replicate 70 "a") "1+2+3".toList) = 70 := by
    rw [Rule.depth, nesting_leads hnames, nesting_of_not_assigned (by decide +kernel),
      List.length_replicate]
  refine ⟨⟨by decide +kernel, rfl⟩, ?_, ?_⟩
  · rw [htext]
    exact hdepth.trans_le (by decide +kernel)
  · rw [htext]
    exact lt_of_lt_of_eq (by decide +kernel) hdepth.symm

/-- A name that no rule has is refused, and a term that breaks off is complained of; `-v` adds to
that complaint and changes neither the status nor what is printed.  A session that is left before
its input breaks ends by itself; one without an input does not.  Seventy assignments around a chain
are crowded. -/
theorem conclude_exits_refused_and_unread :
    let options : Options := { source := some "1", rule := some .term }
    let stdin : StandardInput := .broken [.line "quit".toList]
    Refused ["--rule=nope"] (.invalidRule "nope") ∧
    (perform ["--rule=nope"] []).status = .ok 2 ∧ (perform ["--rule=nope"] []).stdout = [""] ∧
    Unread ["1", "-rterm"] options .nothingLeft ∧
    (perform ["1", "-rterm"] []).status = .ok 1 ∧
    (∃ before, (perform ["1", "-rterm"] []).stderr =
      before ++ ("Parse error: " ++ Complaint.nothingLeft.message ++ "\n")) ∧
    ¬ Converses ["1", "-rterm"] ∧
    (perform ["-v", "1", "-rterm"] []).status = .ok 1 ∧
    Converses ["--repl"] ∧
    conclude ["--repl"] stdin = .left (perform ["--repl"] stdin.inputs) ∧
    (∃ stdout stderr, conclude ["--repl"] .closed = .thrown stdout stderr) ∧
    (perform [seventyDeep] []).status = .ok 0 ∧
    (perform ["-v", seventyDeep] []).status = .ok 1 := by
  intro options stdin
  have refused : Refused ["--rule=nope"] (.invalidRule "nope") := by
    unfold Refused
    decide +kernel
  have unread : Unread ["1", "-rterm"] options .nothingLeft :=
    ⟨⟨by decide +kernel, rfl⟩, by decide +kernel⟩
  have reports : ¬ Converses ["1", "-rterm"] := by
    rintro ⟨other, hother, hrepl⟩
    cases unread.resolved.symm.trans hother
    cases hrepl
  have roomy : ∀ other, ¬ Crowded ["1", "-rterm"] other := by
    rintro other h
    cases unread.resolved.symm.trans h.resolved
    exact absurd h.forty_lt (by decide +kernel)
  have converses : Converses ["--repl"] := ⟨{ repl := true }, by decide +kernel, rfl⟩
  obtain ⟨-, -, -, hrefused, -, hquiet, -⟩ := conclude_exits ["--rule=nope"] (.readable [])
  obtain ⟨-, -, -, -, hunread, -, hcomplaint, -, hverbose, -⟩ :=
    conclude_exits ["1", "-rterm"] (.readable [])
  obtain ⟨hleft, -⟩ := conclude_exits ["--repl"] stdin
  obtain ⟨-, hthrown, -⟩ := conclude_exits ["--repl"] .closed
  obtain ⟨-, -, -, -, -, -, -, -, -, hcrowded⟩ := conclude_exits [seventyDeep] (.readable [])
  have hone := hunread.mpr ⟨options, _, unread⟩
  obtain ⟨stdout, stderr, hclosed, -⟩ := hthrown converses rfl
  obtain ⟨-, -, hzero, hdeep, -⟩ := hcrowded _ crowded_seventyDeep
  exact ⟨refused, hrefused.mpr ⟨_, refused⟩, (hquiet _ refused).1, unread, hone,
    (hcomplaint _ _ unread).2, reports, (hverbose reports roomy).1.trans hone, converses,
    hleft fun _ => by decide +kernel, ⟨stdout, stderr, hclosed⟩, hzero, hdeep⟩

/-- A session on a standard input that is not there, or that begins with no text, ends in an
exception; and seventy assignments around a chain are read, but not with the verbose option. -/
theorem conclude_thrown_and_crowded :
    conclude ["--repl"] .closed =
      .thrown ["Arith REPL [rule=expr]. Type 'exit' or 'quit' to leave.\n"] "" ∧
    conclude ["--repl"] (.broken []) =
      .thrown ["Arith REPL [rule=expr]. Type 'exit' or 'quit' to leave.\n>>> "] "" ∧
    (perform [seventyDeep] []).status = .ok 0 ∧
    (perform ["-v", seventyDeep] []).status = .ok 1 := by
  obtain ⟨value, rest, hread⟩ := crowded_seventyDeep.exists_readBy
  exact ⟨by decide +kernel, by decide +kernel, status_perform_of_read [] hread,
    (perform_of_unread [] crowded_seventyDeep.unread).1⟩

end CommandLine

end FlatExpr
