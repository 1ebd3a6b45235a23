import FlatExpr.Proofs.Grammar.Failure
import FlatExpr.Report

/-!
# Report — what is seen of a report

What a report on a rule of the grammar shows, said by the result of reading its text.

* `Report.seen`: what stands on each of the two streams, what is logged, and the verdict.
* `Request.seen_of_success`, `Request.seen_of_failure`: what is seen where the text is read and
  where it is not; every text has a result, so it is one of the two.
* `Request.seen_error_iff`: a report shows the message of a failure where there is one.
* `Request.framed`: what stands around the form of the value, which can be told apart from it
  (`Request.framed_inj`).
-/

namespace FlatExpr

/-! ### Streams -/

namespace Output

variable (first second : List Output) (records : List Record)

theorem stdout_append : stdout (first ++ second) = stdout first ++ stdout second := by
  simp [stdout, String.join_append]

theorem stderr_append : stderr (first ++ second) = stderr first ++ stderr second := by
  simp [stderr, String.join_append]

theorem records_append :
    Output.records (first ++ second) = Output.records first ++ Output.records second :=
  List.filterMap_append

/-- Records stand on neither stream. -/
theorem stdout_log : stdout (records.map .log) = "" := by
  simp [stdout, List.filterMap_map]

theorem stderr_log : stderr (records.map .log) = "" := by
  simp [stderr, List.filterMap_map]

theorem records_log : Output.records (records.map .log) = records := by
  rw [Output.records, List.filterMap_map]
  exact List.filterMap_some

variable (shown : Level → Bool)

theorem stderrWith_nil : stderrWith shown [] = "" := rfl

theorem stderrWith_append :
    stderrWith shown (first ++ second) = stderrWith shown first ++ stderrWith shown second := by
  simp [stderrWith, String.join_append]

theorem stderrWith_err (text : String) (outputs : List Output) :
    stderrWith shown (.err text :: outputs) = text ++ stderrWith shown outputs := by
  simp [stderrWith]

theorem stderrWith_log_of_shown {record : Record} (h : shown record.level = true)
    (outputs : List Output) :
    stderrWith shown (.log record :: outputs) = record.line ++ stderrWith shown outputs := by
  simp [stderrWith, h]

theorem stderrWith_log_of_not_shown {record : Record} (h : shown record.level = false)
    (outputs : List Output) :
    stderrWith shown (.log record :: outputs) = stderrWith shown outputs := by
  simp [stderrWith, h]

end Output

/-- What is seen of a report. -/
structure Seen where
  stdout : String
  stderr : String
  records : List Record
  verdict : Except Stop Bool

/-- What is seen of a report: its streams, its records and its verdict. -/
def Report.seen (report : Report) : Seen :=
  ⟨Output.stdout report.outputs, Output.stderr report.outputs, Output.records report.outputs,
    report.verdict⟩

/-- Behind some records, what is seen of the output is what is seen of the rest of it. -/
theorem Report.seen_log_append (records : List Record) (outputs : List Output)
    (verdict : Except Stop Bool) :
    (Report.mk (records.map .log ++ outputs) verdict).seen =
      ⟨Output.stdout outputs, Output.stderr outputs, records ++ Output.records outputs,
        verdict⟩ := by
  simp only [seen, Output.stdout_append, Output.stderr_append, Output.records_append,
    Output.stdout_log, Output.stderr_log, Output.records_log, String.empty_append]

namespace Request

/-! ### Reports on a rule -/

section Rule

variable [Stack] {request : Request} {rule : Rule} {value : Expr} {rest : List Char}
  {why : Complaint}

/-- What is logged in front of everything that is written. -/
def logged (request : Request) (rule : Rule) : List Record :=
  .parsing request.source.toList request.rule ::
    Record.ofHistory (rule.parse request.source.toList).history

/-- What a result leaves over, if that is anything. -/
def leftOver? : Result Expr → Option (List Char)
  | .success _ [] => none
  | .success _ rest => some rest
  | .failure _ => none

theorem parseByName_eq (hrule : request.rule = rule.name) (text : List Char) :
    parseByName request.rule text = rule.parse text := by
  rw [hrule, parseByName, Rule.ofName?_name]

/-- The report on a text that is read. -/
theorem report_of_success (hrule : request.rule = rule.name)
    (h : (rule.parse request.source.toList).outcome = .ok (.success value rest)) :
    request.report =
      ⟨(request.logged rule).map .log ++ .out (request.page value rest) ::
        ((leftOver? (.success value rest)).toList.map .leftOver).map .log, .ok true⟩ := by
  rw [report, parseByName_eq hrule]
  simp only [h]
  cases rest <;> rfl

/-- The report on a text that is not read. -/
theorem report_of_failure (hrule : request.rule = rule.name)
    (h : (rule.parse request.source.toList).outcome = .ok (.failure why)) :
    request.report =
      ⟨(request.logged rule).map .log ++ [.err ("Parse error: " ++ why.message ++ "\n")],
        .ok false⟩ := by
  rw [report, parseByName_eq hrule]
  simp only [h]
  rfl

/-- **A text that is read.** -/
theorem seen_of_success (hrule : request.rule = rule.name)
    (h : (rule.parse request.source.toList).outcome = .ok (.success value rest)) :
    request.report.seen =
      ⟨request.page value rest, "",
        request.logged rule ++ (leftOver? (.success value rest)).toList.map .leftOver,
        .ok true⟩ := by
  rw [report_of_success hrule h, Report.seen_log_append, ← List.singleton_append,
    Output.stdout_append, Output.stderr_append, Output.records_append, Output.stdout_log,
    Output.stderr_log, Output.records_log]
  simp [Output.stdout, Output.stderr, Output.records]

/-- **A text that is not read.** -/
theorem seen_of_failure (hrule : request.rule = rule.name)
    (h : (rule.parse request.source.toList).outcome = .ok (.failure why)) :
    request.report.seen =
      ⟨"", "Parse error: " ++ why.message ++ "\n", request.logged rule, .ok false⟩ := by
  rw [report_of_failure hrule h, Report.seen_log_append]
  simp [Output.stdout, Output.stderr, Output.records]

/-- A report on a rule comes to a verdict. -/
theorem exists_verdict (hrule : request.rule = rule.name) :
    ∃ read, request.report.verdict = .ok read := by
  obtain ⟨result, h⟩ := rule.exists_outcome_parse request.source.toList
  cases result with
  | success value rest => exact ⟨true, congrArg Seen.verdict (seen_of_success hrule h)⟩
  | failure why => exact ⟨false, congrArg Seen.verdict (seen_of_failure hrule h)⟩

/-- What a report on a rule writes on standard error ends a line. -/
theorem exists_line_of_err (hrule : request.rule = rule.name) :
    ∀ text, .err text ∈ request.report.outputs → ∃ line, text = line ++ "\n" := by
  intro text htext
  obtain ⟨result, h⟩ := rule.exists_outcome_parse request.source.toList
  cases result with
  | success value rest =>
      rw [report_of_success hrule h] at htext
      simp at htext
  | failure why =>
      rw [report_of_failure hrule h] at htext
      obtain rfl : text = "Parse error: " ++ why.message ++ "\n" := by simpa using htext
      exact ⟨_, rfl⟩

/-- The verdict is that a text was read only where it was. -/
theorem exists_of_verdict (hrule : request.rule = rule.name)
    (h : request.report.verdict = .ok true) :
    ∃ value rest, (rule.parse request.source.toList).outcome = .ok (.success value rest) := by
  obtain ⟨result, hparse⟩ := rule.exists_outcome_parse request.source.toList
  cases result with
  | success value rest => exact ⟨value, rest, hparse⟩
  | failure why =>
      have hverdict : request.report.verdict = .ok false :=
        congrArg Seen.verdict (seen_of_failure hrule hparse)
      rw [h] at hverdict
      cases hverdict

/-- **A complaint.**  A report complains of what made the reading fail, and of nothing else. -/
theorem seen_error_iff {result : Result Expr} {message : String} (hrule : request.rule = rule.name)
    (h : (rule.parse request.source.toList).outcome = .ok result) :
    request.report.seen.verdict = .ok false ∧ request.report.seen.stdout = "" ∧
      request.report.seen.stderr = "Parse error: " ++ message ++ "\n" ↔
        result.FailsWith message := by
  cases result with
  | success value rest =>
      rw [seen_of_success hrule h]
      constructor
      · rintro ⟨hverdict, -, -⟩
        cases hverdict
      · exact fun hfails => absurd hfails (Result.not_failsWith_success _ _ _)
  | failure why =>
      rw [seen_of_failure hrule h, Result.failsWith_failure_iff]
      simp only [true_and, String.append_left_inj, String.append_right_inj]

end Rule

/-- On two stacks that the text is read alike on, the report is the same. -/
theorem report_congr {stack other : Stack} {request : Request} {rule : Rule}
    (hrule : request.rule = rule.name)
    (h : @Rule.parse other rule request.source.toList =
      @Rule.parse stack rule request.source.toList) :
    @report other request = @report stack request := by
  unfold report
  rw [@parseByName_eq other _ _ hrule, @parseByName_eq stack _ _ hrule, h]

/-! ### Pages -/

/-- The page of a report without a layout of its own is the printed form of the result. -/
theorem page_plain (source name : String) (value : Expr) (rest : List Char) :
    page ⟨source, name, false, false⟩ value rest =
      "Success(" ++ printed value ++ ", " ++ printed rest ++ ")\n" := by
  have hprinted : printed (Result.success value rest) =
      "Success(" ++ printed value ++ ", " ++ printed rest ++ ")" := rfl
  change printed (Result.success value rest) ++ "\n" = _
  rw [hprinted, String.append_assoc]
  rfl

/-- A text between the banners, or in front of a line end. -/
def framed (request : Request) (text : String) : String :=
  if request.pretty then
    banner ++ "\nParsed [" ++ request.rule ++ "]\n" ++ banner ++ "\n" ++ text ++ "\n" ++ banner ++
      "\n"
  else text ++ "\n"

theorem page_eq (request : Request) (value : Expr) (rest : List Char) :
    request.page value rest = request.framed (request.shown value rest) := rfl

/-- What stands around a text can be told apart from it. -/
theorem framed_inj {request : Request} {a b : String} (h : request.framed a = request.framed b) :
    a = b := by
  rw [framed, framed] at h
  split at h <;> simpa only [String.append_left_inj, String.append_right_inj] using h

end Request

end FlatExpr
