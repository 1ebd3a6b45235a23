import FlatExpr.Dialogue
import FlatExpr.Proofs.Grammar.Reference
import FlatExpr.Stack.Calls
import Mathlib.Logic.Function.Iterate

/-!
# Dialogue — sessions

What a session answers, said of the lines that went before and not of a state.

* `Dialogue.activeRule`, `Dialogue.isVerbose`: the rule that is active behind some lines, and
  whether the session is verbose there; both are read off the lines.
* `Dialogue.perform_ofLine`: one line takes the state to the one that is read off it.
* `Dialogue.talk_eq_answers`: every line up to the one that ends the session is answered by the
  line, trimmed, and by these two; then comes the farewell, once, and nothing behind it is heard.
  A line that leaves the state alone can be taken out without changing any other answer.
-/

namespace FlatExpr
open Text

/-- Neither a farewell nor a report of trouble. -/
def Reply.IsOrdinary : Reply → Prop
  | .farewell | .interrupted | .trouble _ | .halted => False
  | _ => True

namespace Dialogue

/-! ### What a line says about the state -/

/-- The rule that a line makes active: its first word is `rule`, in any case, and its second one
is the rule's name. -/
def chosenRule? (line : List Char) : Option Rule :=
  match words (trim line) with
  | word :: name :: _ =>
      if Command.lower word = "rule".toList then Rule.ofName? (String.ofList name) else none
  | _ => none

/-- A line that turns verbose mode on or off. -/
def isToggle (line : List Char) : Bool := Command.lower (trim line) == "verbose-mode".toList

/-- A line that ends the session. -/
def isLast (line : List Char) : Bool := trim line == "exit".toList || trim line == "quit".toList

/-- The rule that is active behind some lines: the one chosen last. -/
def activeRule (rule : Rule) (earlier : List (List Char)) : Rule :=
  (earlier.filterMap chosenRule?).getLastD rule

/-- Whether a session is verbose behind some lines: each that says so has turned it around. -/
def isVerbose (verbose : Bool) (earlier : List (List Char)) : Bool :=
  not^[earlier.countP isToggle] verbose

/-- The lines that are answered before the session ends. -/
def answered (lines : List (List Char)) : List (List Char) :=
  lines.takeWhile fun line => !isLast line

/-- The answer that ends a session: to a line that ends it, or to the end of the input. -/
def ending (lines : List (List Char)) : Turn :=
  ⟨[if lines.any isLast then .farewell else .interrupted], []⟩

/-- The answer to a trimmed line where a rule is active. -/
def answerTo [Stack] (rule : Rule) (verbose : Bool) (text : List Char) : Turn :=
  (perform ⟨rule.name, verbose⟩ (Command.ofTrimmed text)).1

/-- The answers to some lines, each by the line itself and by what the earlier ones left behind. -/
def answers [Stack] (rule : Rule) (verbose : Bool) (lines : List (List Char)) : List Turn :=
  lines.mapIdx fun i line =>
    answerTo (activeRule rule (lines.take i)) (isVerbose verbose (lines.take i)) (trim line)

/-- What a session remembers behind some lines. -/
def remembers [Stack] (state : Dialogue) (lines : List (List Char)) : Dialogue :=
  lines.foldl (fun state line => (state.perform (Command.ofLine line)).2) state

/-- A line that leaves the state alone: blank, a comment, a text that is read, a question for the
active rule, or a choice of a rule that there is not. -/
inductive Idle (line : List Char) : Prop where
  | blank (h : trim line = [])
  | comment (h : (trim line).head? = some '#')
  | expression {text : List Char} (h : Command.ofLine line = .read text)
  | question (h : Command.ofLine line = .tellRule)
  | unknownRule {name : String} (h : Command.ofLine line = .useRule name)
      (hn : Rule.ofName? name = none)

section Line

variable {line : List Char}

theorem isLast_iff :
    isLast line = true ↔ trim line = "exit".toList ∨ trim line = "quit".toList := by
  simp [isLast]

theorem toLower_of_isBlank {c : Char} (h : isBlank c = true) : c.toLower = c := by
  -- no blank is a capital letter
  have none : ∀ n ∈ blankPoints, ¬ (65 ≤ n ∧ n ≤ 90) := by decide
  exact dif_neg (none c.toNat (toNat_mem_blankPoints h))

theorem exists_of_isToggle (h : isToggle line = true) :
    ∃ c text, trim line = c :: text ∧ c.toLower = 'v' := by
  have h : (trim line).map Char.toLower = 'v' :: "erbose-mode".toList := beq_iff_eq.mp h
  obtain ⟨c, text, ht, hc, -⟩ := List.map_eq_cons_iff.mp h
  exact ⟨c, text, ht, hc⟩

theorem isToggle_of_skip (h : trim line = [] ∨ (trim line).head? = some '#') :
    isToggle line = false := by
  cases ht : isToggle line with
  | false => rfl
  | true =>
      obtain ⟨c, text, hline, hc⟩ := exists_of_isToggle ht
      rw [hline] at h
      rcases h with h | h
      · cases h
      · cases h
        exact absurd hc (by decide)

/-- A line that does not begin with the letter of `rule` chooses none. -/
theorem chosenRule?_of_head {c : Char} {text : List Char} (ht : trim line = c :: text)
    (hb : isBlank c = false) (hc : c.toLower ≠ 'r') : chosenRule? line = none := by
  obtain ⟨w, more, hwords⟩ := exists_words_cons hb text
  unfold chosenRule?
  rw [ht, hwords]
  split
  · next heq =>
      cases heq
      exact if_neg fun h => hc (List.cons.inj h).1
  · rfl

theorem chosenRule?_of_skip (h : trim line = [] ∨ (trim line).head? = some '#') :
    chosenRule? line = none := by
  rcases h with h | h
  · rw [chosenRule?, h]
    rfl
  · obtain ⟨text, ht⟩ := List.head?_eq_some_iff.mp h
    exact chosenRule?_of_head ht (by decide) (by decide)

theorem chosenRule?_of_words
    (h : ∀ word more, words (trim line) = word :: more → Command.lower word ≠ "rule".toList) :
    chosenRule? line = none := by
  unfold chosenRule?
  split
  · next heq => exact if_neg (h _ _ heq)
  · rfl

theorem chosenRule?_of_isToggle (h : isToggle line = true) : chosenRule? line = none := by
  obtain ⟨c, text, ht, hc⟩ := exists_of_isToggle h
  refine chosenRule?_of_head ht ?_ (by rw [hc]; decide)
  cases hb : isBlank c with
  | false => rfl
  | true =>
      rw [toLower_of_isBlank hb] at hc
      exact absurd (hc ▸ hb) (by decide)

/-! ### What a line asks for -/

/-- What a line asks for, with the reason why. -/
inductive Asks (line : List Char) : Command → Prop where
  | quit (h : isLast line = true) : Asks line .quit
  | skip (h : trim line = [] ∨ (trim line).head? = some '#') : Asks line .skip
  | toggle (h : isToggle line = true) : Asks line .toggle
  | tellRule {word : List Char} (h : words (trim line) = [word]) (ht : isToggle line = false) :
      Asks line .tellRule
  | useRule {word name : List Char} {more : List (List Char)}
      (h : words (trim line) = word :: name :: more) (hword : Command.lower word = "rule".toList)
      (ht : isToggle line = false) : Asks line (.useRule (String.ofList name))
  | read (h : ∀ word more, words (trim line) = word :: more → Command.lower word ≠ "rule".toList)
      (ht : isToggle line = false) : Asks line (.read (trim line))

/-- **What a line asks for.** -/
theorem asks_ofLine (line : List Char) : Asks line (Command.ofLine line) := by
  rw [Command.ofLine, Command.ofTrimmed]
  split
  · next h => exact .quit (isLast_iff.mpr h)
  · split
    · next h => exact .skip (h.imp_left List.isEmpty_iff.mp)
    · split
      · next h => exact .toggle (beq_iff_eq.mpr h)
      · next h =>
          have ht : isToggle line = false := beq_false_of_ne h
          unfold Command.ruleCommand?
          cases hwords : words (trim line) with
          | nil => exact .read (fun word more h => by rw [hwords] at h; cases h) ht
          | cons word more =>
              by_cases hword : Command.lower word = "rule".toList
              · simp only [if_pos hword]
                cases more with
                | nil => exact .tellRule hwords ht
                | cons name more => exact .useRule hwords hword ht
              · simp only [if_neg hword]
                refine .read (fun first rest h => ?_) ht
                rw [hwords] at h
                cases h
                exact hword

/-- The lines that end the session ask for that, and no others do. -/
theorem ofLine_eq_quit_iff : Command.ofLine line = .quit ↔ isLast line = true := by
  constructor
  · intro hquit
    have h := asks_ofLine line
    rw [hquit] at h
    cases h with | quit h => exact h
  · exact fun h => if_pos (isLast_iff.mp h)

/-- An idle line does not end the session, chooses no rule and turns nothing on or off. -/
theorem stays_of_idle (h : Idle line) :
    isLast line = false ∧ chosenRule? line = none ∧ isToggle line = false := by
  have notLast : ∀ {command}, Command.ofLine line = command → command ≠ .quit →
      isLast line = false := fun hc hne => by
    cases hl : isLast line with
    | false => rfl
    | true => exact absurd (hc ▸ ofLine_eq_quit_iff.mpr hl) hne
  have asks := asks_ofLine line
  cases h with
  | blank h =>
      refine ⟨?_, chosenRule?_of_skip (.inl h), isToggle_of_skip (.inl h)⟩
      rw [isLast, h]
      rfl
  | comment h =>
      refine ⟨?_, chosenRule?_of_skip (.inr h), isToggle_of_skip (.inr h)⟩
      obtain ⟨text, ht⟩ := List.head?_eq_some_iff.mp h
      rw [isLast, ht]
      rfl
  | expression h =>
      rw [h] at asks
      cases asks with
      | read hwords ht => exact ⟨notLast h nofun, chosenRule?_of_words hwords, ht⟩
  | question h =>
      rw [h] at asks
      cases asks with
      | tellRule hwords ht => exact ⟨notLast h nofun, by rw [chosenRule?, hwords], ht⟩
  | unknownRule h hn =>
      rw [h] at asks
      cases asks with
      | useRule hwords hword ht =>
          refine ⟨notLast h nofun, ?_, ht⟩
          simp only [chosenRule?, hwords, if_pos hword, hn]

theorem answered_of_isLast (h : isLast line = true) (more : List (List Char)) :
    answered (line :: more) = [] := List.takeWhile_cons_of_neg (by simp [h])

theorem answered_cons (h : isLast line = false) (more : List (List Char)) :
    answered (line :: more) = line :: answered more := List.takeWhile_cons_of_pos (by simp [h])

theorem ending_cons (h : isLast line = false) (more : List (List Char)) :
    ending (line :: more) = ending more := by
  rw [ending, List.any_cons, h, Bool.false_or]
  rfl

theorem isLast_of_mem_answered {lines : List (List Char)} :
    ∀ line ∈ answered lines, isLast line = false := by
  intro line hline
  simpa using List.mem_takeWhile_imp hline

theorem chunks_append_singleton (turns : List Turn) (last : Turn) :
    chunks (turns ++ [last]) = turns.map (fun turn => turn.text ++ prompt) ++ [last.text] := by
  induction turns with
  | nil => rfl
  | cons turn turns ih =>
      rw [List.cons_append, List.map_cons, List.cons_append, ← ih]
      cases turns <;> rfl

end Line

/-! ### What is remembered -/

section State

variable (rule : Rule) (verbose : Bool)

/-- Choosing a name makes the rule of that name active, if there is one. -/
theorem choose_state (name : String) :
    (choose ⟨rule.name, verbose⟩ name).2 = ⟨((Rule.ofName? name).getD rule).name, verbose⟩ := by
  unfold choose
  cases h : Rule.ofName? name with
  | none => rfl
  | some chosen => rw [Rule.ofName?_eq_some_iff.mp h]; rfl

theorem isOrdinary_choose (state : Dialogue) (name : String) :
    (state.choose name).1.IsOrdinary := by
  unfold choose
  split <;> trivial

theorem activeRule_cons (line : List Char) (more : List (List Char)) :
    activeRule rule (line :: more) = activeRule ((chosenRule? line).getD rule) more := by
  unfold activeRule
  cases h : chosenRule? line with
  | none => rw [List.filterMap_cons_none h, Option.getD_none]
  | some chosen => rw [List.filterMap_cons_some h, List.getLastD_cons, Option.getD_some]

theorem isVerbose_cons (line : List Char) (more : List (List Char)) :
    isVerbose verbose (line :: more) =
      isVerbose (if isToggle line then !verbose else verbose) more := by
  unfold isVerbose
  cases h : isToggle line with
  | false => rw [List.countP_cons_of_neg (by simp [h])]; rfl
  | true => rw [List.countP_cons_of_pos h, Function.iterate_succ_apply]; rfl

end State

/-! ### One line -/

section OnStack

variable [Stack] {line : List Char} (rule : Rule) (verbose : Bool)

/-- **One line** takes the state to the one that is read off the line. -/
theorem perform_ofLine (h : isLast line = false) :
    (perform ⟨rule.name, verbose⟩ (Command.ofLine line)).2 =
      ⟨((chosenRule? line).getD rule).name, if isToggle line then !verbose else verbose⟩ := by
  have asks := asks_ofLine line
  generalize Command.ofLine line = command at asks
  cases asks with
  | quit hlast => rw [h] at hlast; cases hlast
  | skip hskip => rw [chosenRule?_of_skip hskip, isToggle_of_skip hskip]; rfl
  | toggle ht => rw [chosenRule?_of_isToggle ht, ht]; rfl
  | tellRule hwords ht => rw [chosenRule?, hwords, ht]; rfl
  | useRule hwords hword ht =>
      simp only [chosenRule?, hwords, if_pos hword, ht]
      exact choose_state rule verbose _
  | read hwords ht => rw [chosenRule?_of_words hwords, ht]; rfl

theorem answers_cons (line : List Char) (more : List (List Char)) :
    answers rule verbose (line :: more) =
      answerTo rule verbose (trim line) ::
        answers ((chosenRule? line).getD rule) (if isToggle line then !verbose else verbose)
          more := by
  unfold answers
  rw [List.mapIdx_cons]
  simp only [List.take_succ_cons, activeRule_cons, isVerbose_cons]
  rfl

/-- The answer to a text that is not read. -/
theorem answer_of_failure {text : List Char} {why : Complaint}
    (h : (rule.parse text).outcome = .ok (.failure why)) :
    answer ⟨rule.name, verbose⟩ text =
      ⟨[.failed why], Record.ofHistory (rule.parse text).history⟩ := by
  rw [answer, parseByName, Rule.ofName?_name]
  simp only [h]

/-- The answer to a text that is read: the mode decides on the tree alone. -/
theorem answer_of_success {text rest : List Char} {value : Expr}
    (h : (rule.parse text).outcome = .ok (.success value rest)) :
    answer ⟨rule.name, verbose⟩ text =
      ⟨.value value :: ((if verbose then [.tree value] else []) ++
        if rest = [] then [] else [.leftOver rest]),
        Record.ofHistory (rule.parse text).history⟩ := by
  rw [answer, parseByName, Rule.ofName?_name]
  simp only [h, List.isEmpty_iff, List.cons_append]

/-- A text that is read is answered by a value or by a failure. -/
theorem isOrdinary_answer (text : List Char) :
    ∀ reply ∈ (answer ⟨rule.name, verbose⟩ text).replies, reply.IsOrdinary := by
  obtain ⟨result, h⟩ := rule.exists_outcome_parse text
  cases result with
  | failure why =>
      rw [answer_of_failure rule verbose h]
      intro reply hreply
      cases List.mem_singleton.mp hreply
      trivial
  | success value rest =>
      rw [answer_of_success rule verbose h]
      intro reply hreply
      simp only [List.mem_cons, List.mem_append] at hreply
      rcases hreply with rfl | hreply | hreply
      · trivial
      · split at hreply
        · cases List.mem_singleton.mp hreply
          trivial
        · cases hreply
      · split at hreply
        · cases hreply
        · cases List.mem_singleton.mp hreply
          trivial

/-- A line that does not end the session is answered without a farewell and without trouble. -/
theorem isOrdinary_answerTo (h : isLast line = false) :
    ∀ reply ∈ (answerTo rule verbose (trim line)).replies, reply.IsOrdinary := by
  intro reply hreply
  have hreply : reply ∈ (perform ⟨rule.name, verbose⟩ (Command.ofLine line)).1.replies := hreply
  have asks := asks_ofLine line
  generalize Command.ofLine line = command at asks hreply
  cases asks with
  | quit hlast => rw [h] at hlast; cases hlast
  | skip => cases hreply
  | toggle | tellRule =>
      cases List.mem_singleton.mp hreply
      trivial
  | useRule =>
      cases List.mem_singleton.mp hreply
      exact isOrdinary_choose _ _
  | read => exact isOrdinary_answer rule verbose _ reply hreply

/-! ### Whole sessions -/

theorem talk_of_isLast (state : Dialogue) (h : isLast line = true) (more : List Input) :
    state.talk (.line line :: more) = [⟨[.farewell], []⟩] := by
  rw [talk]
  exact if_pos (ofLine_eq_quit_iff.mpr h)

theorem talk_of_not_isLast (state : Dialogue) (h : isLast line = false) (more : List Input) :
    state.talk (.line line :: more) =
      (state.perform (Command.ofLine line)).1 ::
        (state.perform (Command.ofLine line)).2.talk more := by
  have hquit : Command.ofLine line ≠ .quit := fun hc => by
    rw [ofLine_eq_quit_iff.mp hc] at h
    cases h
  rw [talk]
  exact if_neg hquit

theorem talk_cons (h : isLast line = false) (more : List Input) :
    talk ⟨rule.name, verbose⟩ (.line line :: more) =
      answerTo rule verbose (trim line) ::
        talk ⟨((chosenRule? line).getD rule).name, if isToggle line then !verbose else verbose⟩
          more := by
  rw [talk_of_not_isLast _ h, perform_ofLine rule verbose h]
  rfl

theorem talk_map_line (lines : List (List Char)) :
    talk ⟨rule.name, verbose⟩ (lines.map .line) =
      answers rule verbose (answered lines) ++ [ending lines] := by
  induction lines generalizing rule verbose with
  | nil => rfl
  | cons line more ih =>
      rw [List.map_cons]
      cases h : isLast line with
      | true =>
          rw [talk_of_isLast _ h, answered_of_isLast h, ending, List.any_cons, h]
          rfl
      | false =>
          rw [talk_cons rule verbose h, ih, answered_cons h, answers_cons, List.cons_append,
            ending_cons h]

/-- What a session remembers is read off the lines. -/
theorem remembers_of_forall_not_isLast {lines : List (List Char)}
    (h : ∀ line ∈ lines, isLast line = false) :
    remembers ⟨rule.name, verbose⟩ lines =
      ⟨(activeRule rule lines).name, isVerbose verbose lines⟩ := by
  induction lines generalizing rule verbose with
  | nil => rfl
  | cons line more ih =>
      obtain ⟨hline, hmore⟩ := List.forall_mem_cons.mp h
      rw [activeRule_cons, isVerbose_cons, ← ih _ _ hmore, remembers, List.foldl_cons,
        perform_ofLine rule verbose hline]
      rfl

theorem isOrdinary_of_mem_answers {lines : List (List Char)}
    (h : ∀ line ∈ lines, isLast line = false) :
    ∀ turn ∈ answers rule verbose lines, ∀ reply ∈ turn.replies, reply.IsOrdinary := by
  intro turn hturn
  obtain ⟨i, hi, rfl⟩ := List.mem_mapIdx.mp hturn
  exact isOrdinary_answerTo _ _ (h _ (List.getElem_mem hi))

/-- What stands behind a line that ends the session is not heard. -/
theorem talk_append_of_isLast (state : Dialogue) {lines : List (List Char)}
    (h : lines.any isLast = true) (more : List (List Char)) :
    state.talk ((lines ++ more).map .line) = state.talk (lines.map .line) := by
  induction lines generalizing state with
  | nil => cases h
  | cons line lines ih =>
      rw [List.cons_append, List.map_cons, List.map_cons]
      cases hl : isLast line with
      | true => rw [talk_of_isLast state hl, talk_of_isLast state hl]
      | false =>
          rw [List.any_cons, hl, Bool.false_or] at h
          rw [talk_of_not_isLast state hl, talk_of_not_isLast state hl, ih _ h]

/-- Without an idle line the other answers are the same. -/
theorem talk_eraseIdx {lines : List (List Char)} {i : Nat} (hi : lines[i]? = some line)
    (h : Idle line) :
    talk ⟨rule.name, verbose⟩ ((lines.eraseIdx i).map .line) =
      (talk ⟨rule.name, verbose⟩ (lines.map .line)).eraseIdx i := by
  induction i generalizing lines rule verbose with
  | zero =>
      obtain ⟨more, rfl⟩ := List.head?_eq_some_iff.mp (List.head?_eq_getElem? ▸ hi)
      obtain ⟨hlast, hchosen, htoggle⟩ := stays_of_idle h
      rw [List.map_cons, talk_cons rule verbose hlast, hchosen, htoggle]
      rfl
  | succ i ih =>
      cases lines with
      | nil => cases hi
      | cons first more =>
          rw [List.eraseIdx_cons_succ, List.map_cons, List.map_cons]
          cases hl : isLast first with
          | true => rw [talk_of_isLast _ hl, talk_of_isLast _ hl]; rfl
          | false =>
              rw [talk_cons rule verbose hl, talk_cons rule verbose hl, List.eraseIdx_cons_succ,
                ih _ _ hi]

/-- **Sessions.**  Every line up to the one that ends the session is answered by the line,
trimmed, and by the rule and the mode that are read off the lines before it, and that is what the
session remembers; none of these answers is a farewell or a report of trouble.  Then comes the
farewell, and nothing behind it is heard.  Without a line that leaves the state alone all other
answers are the same. -/
theorem talk_eq_answers (rule : Rule) (verbose : Bool) (lines : List (List Char)) :
    let start : Dialogue := ⟨rule.name, verbose⟩
    let turns := answers rule verbose (answered lines)
    start.talk (lines.map .line) = turns ++ [ending lines] ∧
    start.transcript (lines.map .line) =
      (start.greeting ++ prompt) ::
        (turns.map (fun turn => turn.text ++ prompt) ++ [(ending lines).text]) ∧
    start.remembers (answered lines) =
      ⟨(activeRule rule (answered lines)).name, isVerbose verbose (answered lines)⟩ ∧
    (∀ turn ∈ turns, ∀ reply ∈ turn.replies, reply.IsOrdinary) ∧
    (lines.any isLast = true → ∀ more,
      start.talk ((lines ++ more).map .line) = start.talk (lines.map .line)) ∧
    (∀ i line, lines[i]? = some line → Idle line →
      start.talk ((lines.eraseIdx i).map .line) =
        (start.talk (lines.map .line)).eraseIdx i) := by
  have htalk := talk_map_line rule verbose lines
  refine ⟨htalk, ?_, ?_, ?_, ?_, ?_⟩
  · rw [transcript, htalk, chunks_append_singleton]
  · exact remembers_of_forall_not_isLast rule verbose isLast_of_mem_answered
  · exact isOrdinary_of_mem_answers rule verbose isLast_of_mem_answered
  · exact fun hlast more => talk_append_of_isLast _ hlast more
  · exact fun i line hi h => talk_eraseIdx rule verbose hi h

end OnStack

/-- A rule is chosen in capitals, a comment is idle, and a line behind the last is not heard. -/
theorem talk_eq_answers_script :
    let lines := ["RULE  term".toList, "# note".toList, " Verbose-Mode ".toList, "a*b-c".toList,
      "quit ".toList]
    lines.any isLast = true ∧ Idle "# note".toList ∧
    remembers ⟨"expr", false⟩ (answered lines) = ⟨"term", true⟩ ∧
    talk ⟨"expr", false⟩ ((lines ++ ["1".toList]).map .line) =
      talk ⟨"expr", false⟩ (lines.map .line) ∧
    talk ⟨"expr", false⟩ ((lines.eraseIdx 1).map .line) =
      (talk ⟨"expr", false⟩ (lines.map .line)).eraseIdx 1 := by
  intro lines
  have hlast : lines.any isLast = true := by decide +kernel
  have idle : Idle "# note".toList := .comment (by decide +kernel)
  obtain ⟨-, -, hstate, -, hend, herase⟩ := talk_eq_answers .expr false lines
  refine ⟨hlast, idle, hstate.trans ?_, hend hlast _, herase 1 _ rfl idle⟩
  decide +kernel

end Dialogue

end FlatExpr
