import FlatExpr.Proofs.Dialogue
import FlatExpr.Proofs.Printed
import FlatExpr.Proofs.Report.Json
import FlatExpr.Proofs.Report.Log
import FlatExpr.Stack.Calls

/-!
# Dialogue — Agreement

A session and a report make the same of a text.

* `Dialogue.Plain`: a line that is a text to be read, and nothing that a session takes for itself.
* `Dialogue.text_answer_of_success`, `Dialogue.text_answer_of_failure`: what a session answers to
  such a text, as characters.  The answers to a text that is read cannot be taken for a complaint,
  as no printed form of an expression begins with a bracket
  (`Dialogue.printed_append_ne_bracket`).
* `Dialogue.talk_agrees_with_report`: the session complains exactly where the report does, of the
  same; and else it shows the same value, the same tree and the same text left over.
-/

namespace FlatExpr

namespace Dialogue
open Text

/-! ### Lines that are texts to be read -/

/-- A trimmed line that is neither empty nor a comment, and none of a session's own words. -/
structure Plain (text : List Char) : Prop where
  trimmed : trim text = text
  nonempty : text ≠ []
  comment : text.head? ≠ some '#'
  exit : text ≠ "exit".toList
  quit : text ≠ "quit".toList
  toggle : Command.lower text ≠ "verbose-mode".toList
  rule : ∀ word more, words text = word :: more → Command.lower word ≠ "rule".toList

variable {text : List Char}

theorem Plain.ruleCommand?_eq_none (h : Plain text) : Command.ruleCommand? text = none := by
  unfold Command.ruleCommand?
  split
  · rfl
  · next hwords => exact if_neg (h.rule _ _ hwords)

/-- Such a line asks to be read. -/
theorem Plain.ofLine (h : Plain text) : Command.ofLine text = .read text := by
  have hlast : ¬ (text = "exit".toList ∨ text = "quit".toList) := by
    rintro (hexit | hquit)
    · exact h.exit hexit
    · exact h.quit hquit
  have hskip : ¬ (text.isEmpty = true ∨ text.head? = some '#') := by
    rintro (hempty | hcomment)
    · exact h.nonempty (List.isEmpty_iff.mp hempty)
    · exact h.comment hcomment
  rw [Command.ofLine, h.trimmed, Command.ofTrimmed, if_neg hlast, if_neg hskip, if_neg h.toggle,
    h.ruleCommand?_eq_none]
  rfl

theorem Plain.talk [Stack] (h : Plain text) (state : Dialogue) (more : List Input) :
    state.talk (.line text :: more) = state.answer text :: state.talk more := by
  have hlast : isLast text = false := by
    cases hl : isLast text with
    | false => rfl
    | true => exact absurd (h.ofLine ▸ ofLine_eq_quit_iff.mpr hl) nofun
  rw [talk_of_not_isLast state hlast, h.ofLine]
  rfl

/-! ### Answers as characters -/

/-- No printed form of an expression begins with a bracket. -/
theorem printed_append_ne_bracket (e : Expr) (behind more : List Char) :
    (printed e).toList ++ behind ≠ '[' :: more := by
  intro h
  have hleading := Value.leading_chars (Value.declared_ofExpr e) behind
  have hchars : (Value.ofExpr e).chars ++ behind = '[' :: more := h
  rw [hchars] at hleading
  have hlist : (Value.ofExpr e).typeName = "list" := hleading.symm
  cases e <;> simp [Value.ofExpr, Value.typeName] at hlist

/-- No value can be taken for a complaint. -/
theorem printed_append_ne_error (e : Expr) (s message : String) :
    printed e ++ s ≠ "[error] >>> " ++ message ++ "\n" := by
  intro h
  have hlist := congrArg String.toList h
  rw [String.toList_append, String.toList_append, String.toList_append, List.append_assoc] at hlist
  exact printed_append_ne_bracket e s.toList _ hlist

section OnStack

variable [Stack]

section Answer

variable {rule : Rule} {value : Expr} {rest : List Char} {why : Complaint} (verbose : Bool)

theorem text_answer_of_failure (h : (rule.parse text).outcome = .ok (.failure why)) :
    (answer ⟨rule.name, verbose⟩ text).text = "[error] >>> " ++ why.message ++ "\n" := by
  rw [answer_of_failure rule verbose h, Turn.text, List.map_singleton, String.join_cons,
    String.join_nil, String.append_empty]
  rfl

theorem text_answer_of_success (h : (rule.parse text).outcome = .ok (.success value rest)) :
    (answer ⟨rule.name, verbose⟩ text).text =
      printed value ++ "\n" ++
        ((if verbose then "[tree] >>> " ++ value.toJson.compact ++ "\n" else "") ++
          if rest = [] then "" else "[warn] >>> Unparsed remainder: " ++ printed rest ++ "\n") := by
  rw [answer_of_success rule verbose h, Turn.text, List.map_cons, List.map_append,
    String.join_cons, String.join_append, apply_ite (List.map Reply.text),
    apply_ite (List.map Reply.text), apply_ite String.join, apply_ite String.join]
  simp only [List.map_cons, List.map_nil, String.join_cons, String.join_nil, String.append_empty]
  rfl

end Answer

/-! ### Agreement -/

/-- **A complaint.**  A session complains of what made the reading fail, and of nothing else. -/
theorem text_answer_eq_error_iff {rule : Rule} {result : Result Expr} {message : String}
    (verbose : Bool) (h : (rule.parse text).outcome = .ok result) :
    (answer ⟨rule.name, verbose⟩ text).text = "[error] >>> " ++ message ++ "\n" ↔
      result.FailsWith message := by
  cases result with
  | success value rest =>
      rw [text_answer_of_success verbose h, String.append_assoc]
      constructor
      · exact fun heq => absurd heq (printed_append_ne_error _ _ _)
      · exact fun hfails => absurd hfails (Result.not_failsWith_success _ _ _)
  | failure why =>
      rw [text_answer_of_failure verbose h, Result.failsWith_failure_iff]
      simp only [String.append_left_inj, String.append_right_inj]

/-- **Agreement.**  A session complains of a text exactly where the verdict of a report is that it
was not read: the report then shows nothing but the same complaint.  Everywhere else the report
shows the value and what was left over, and no complaint; the session shows the same value, when
verbose a tree that is read as the JSON value in the report's record, and the same text left over,
unless that is empty.  The report logs what is left over exactly if the session warns of it. -/
theorem talk_agrees_with_report (h : Plain text) (rule : Rule) (verbose : Bool)
    (more : List Input) :
    let request (json pretty : Bool) : Request := ⟨String.ofList text, rule.name, json, pretty⟩
    let report := (request false false).report
    ∃ (turn : Turn) (result : Result Expr),
      Dialogue.talk ⟨rule.name, verbose⟩ (.line text :: more) =
        turn :: Dialogue.talk ⟨rule.name, verbose⟩ more ∧
      (rule.parse text).outcome = .ok result ∧
      (∀ message,
        (turn.text = "[error] >>> " ++ message ++ "\n" ↔ result.FailsWith message) ∧
        (report.verdict = .ok false ∧ Output.stdout report.outputs = "" ∧
          Output.stderr report.outputs = "Parse error: " ++ message ++ "\n" ↔
            result.FailsWith message)) ∧
      ((∀ message, ¬ result.FailsWith message) → ∃ value rest tree,
        result = .success value rest ∧ report.verdict = .ok true ∧
        Output.stdout report.outputs =
          "Success(" ++ printed value ++ ", " ++ printed rest ++ ")\n" ∧
        Output.stderr report.outputs = "" ∧
        turn.text = printed value ++ "\n" ++
          ((if verbose then "[tree] >>> " ++ tree ++ "\n" else "") ++
            if rest = [] then "" else
              "[warn] >>> Unparsed remainder: " ++ printed rest ++ "\n") ∧
        (∀ pretty, ∃ json part, (request true pretty).Prints json ∧
          json.member? "value" = some part ∧ Json.read tree.toList = some part) ∧
        (∀ left, .leftOver left ∈ Output.records report.outputs ↔ left = rest ∧ rest ≠ [])) := by
  intro request report
  have hsource : ∀ json pretty, (request json pretty).source.toList = text :=
    fun _ _ => String.toList_ofList
  obtain ⟨result, hparse⟩ := rule.exists_outcome_parse text
  have hreport : ∀ json pretty,
      (rule.parse (request json pretty).source.toList).outcome = .ok result := by
    intro json pretty
    rw [hsource, hparse]
  refine ⟨_, result, h.talk _ more, hparse, fun message => ?_, fun hread => ?_⟩
  · exact ⟨text_answer_eq_error_iff verbose hparse,
      Request.seen_error_iff rfl (hreport false false)⟩
  · cases result with
    | failure why => exact absurd ⟨why, rfl, rfl⟩ (hread why.message)
    | success value rest =>
        have hseen := Request.seen_of_success rfl (hreport false false)
        refine ⟨value, rest, value.toJson.compact, rfl, congrArg Seen.verdict hseen,
          (congrArg Seen.stdout hseen).trans (Request.page_plain _ _ value rest),
          congrArg Seen.stderr hseen,
          text_answer_of_success verbose hparse, fun pretty => ?_, fun left => ?_⟩
        · have hprints := (Request.prints_iff (request true pretty) rfl rfl
            (hreport true pretty)).mpr rfl
          exact ⟨_, value.toJson, hprints, rfl, (Json.renders_compact value.toJson).read⟩
        · exact Request.leftOver_mem_records_iff (request false false) rfl (hreport false false)

end OnStack

/-- A text that begins with the word for a rule command and ends in the word for the end. -/
theorem talk_agrees_with_report_rules :
    let text := "rules+1 exit".toList
    Plain text ∧ ∃ turn tree, Dialogue.talk ⟨"expr", true⟩ [.line text] =
        [turn, ⟨[.interrupted], []⟩] ∧
      turn.text = printed (Expr.binary "+" (.name "rules") (.number 1)) ++ "\n" ++
        ("[tree] >>> " ++ tree ++ "\n" ++
          ("[warn] >>> Unparsed remainder: " ++ printed " exit".toList ++ "\n")) := by
  intro text
  have hwords : words text = ["rules+1".toList, "exit".toList] := by decide +kernel
  have plain : Plain text := by
    refine ⟨by decide +kernel, by decide +kernel, by decide +kernel, by decide +kernel,
      by decide +kernel, by decide +kernel, fun word more h => ?_⟩
    obtain ⟨rfl, -⟩ := List.cons.inj (hwords.symm.trans h)
    decide +kernel
  have hparse : (Rule.expr.parse text).outcome =
      .ok (.success (.binary "+" (.name "rules") (.number 1)) " exit".toList) := by decide +kernel
  have hleft : " exit".toList ≠ [] := by decide +kernel
  obtain ⟨turn, result, htalk, hresult, -, hread⟩ := talk_agrees_with_report plain .expr true []
  obtain rfl := Except.ok.inj (hparse.symm.trans hresult)
  obtain ⟨value, rest, tree, heq, -, -, -, htext, -, -⟩ :=
    hread fun message => Result.not_failsWith_success _ _ message
  obtain ⟨rfl, rfl⟩ := Result.success.inj heq
  rw [if_pos rfl, if_neg hleft] at htext
  exact ⟨plain, turn, tree, htalk, htext⟩

end Dialogue

end FlatExpr
