import FlatExpr.Proofs.Grammar
import FlatExpr.Stack.Calls

/-!
# Grammar — Reference

What reading a text by a rule answers, without and with the guard against nesting, said by the
one-pass reading of `Reading.lean`.

* `Rule.answer`: the answer of each rule where nothing is nested too deeply; `Rule.depth`: how
  many assignments are nested on the way to it.
* `Rule.outcome_readWithin`: without the guard a rule gives that answer, or is stopped if the depth
  is above the limit; `Rule.outcome_parse`: with the guard the stop becomes a failure, and the
  limit is the room on the stack.
* `Rule.parse_eq_reading`: the composite rules agree with the reading on every text.
-/

namespace FlatExpr.Rule
open Text

/-! ### The answers of the rules -/

section Wanting

variable (p : Char → Bool) (wanted : String) (next : Char → List Char → Result Expr)

/-- The answer where a text has to begin with a character that `p` holds of: `next` of that
character and what is behind it. -/
def wanting : List Char → Result Expr
  | [] => .failure .nothingLeft
  | c :: rest => if p c then next c rest else .failure (.unexpected c wanted)

variable {p} {c : Char} {rest text : List Char}

theorem wanting_of_pos (h : p c = true) : wanting p wanted next (c :: rest) = next c rest :=
  if_pos h

theorem wanting_of_stopsAt (h : StopsAt p text) :
    wanting p wanted next text = .failure (lacking wanted text) := by
  cases text with
  | nil => rfl
  | cons c rest => exact if_neg (by simp [h c rfl])

/-- Where it succeeds, the wanted character is there. -/
theorem exists_of_wanting_eq_success {e : Expr} {left : List Char}
    (h : wanting p wanted next text = .success e left) :
    ∃ c rest, text = c :: rest ∧ p c = true ∧ next c rest = .success e left := by
  by_cases hs : StopsAt p text
  · rw [wanting_of_stopsAt wanted next hs] at h
    cases h
  · obtain ⟨c, rest, rfl, hc⟩ := exists_of_not_stopsAt hs
    rw [wanting_of_pos wanted next hc] at h
    exact ⟨c, rest, rfl, hc, h⟩

end Wanting

/-- What a rule answers where nothing is nested too deeply. -/
def answer (rule : Rule) (text : List Char) : Result Expr :=
  match rule with
  | .number =>
      wanting isDigit "digit" (fun _ _ =>
        if (text.takeWhile isDigit).length ≤ 4300 then
          .success (.number (positional (text.takeWhile isDigit))) (text.dropWhile isDigit)
        else .failure .numberTooLong) text
  | .variable => .success (.name (nameOf text)) (text.dropWhile isNameChar)
  | .operator =>
      wanting isOperatorChar "/" (fun c rest => .success (.operator (String.ofList [c])) rest) text
  | .factor => .success (operand text).1 (operand text).2
  | .term =>
      wanting isOperatorChar "/" (fun c rest =>
        .success (.binary (String.ofList [c]) (operand text).1 (operand rest).1) (operand rest).2)
        (operand text).2
  | .assignment =>
      wanting (· == '=') "=" (fun _ rest =>
        .success (.assign (nameOf text) (reading rest).1) (reading rest).2)
        (text.dropWhile isNameChar)
  | .expr => .success (reading text).1 (reading text).2

/-- How many assignments a rule reads one inside the other. -/
def depth (rule : Rule) (text : List Char) : Nat :=
  match rule with
  | .assignment | .expr => nesting text
  | _ => 0

/-- Nothing is nested where there is no assignment. -/
theorem depth_of_not_assigned {text : List Char} (h : assigned? text = none) (rule : Rule) :
    rule.depth text = 0 := by
  cases rule <;> first | rfl | exact nesting_of_not_assigned h

theorem depth_eq_nesting_of_pos {rule : Rule} {text : List Char} (h : 0 < rule.depth text) :
    rule.depth text = nesting text := by
  cases rule with
  | assignment | expr => rfl
  | _ => exact absurd h (Nat.lt_irrefl 0)

theorem answer_assignment_of_assigned {text rest : List Char} (h : assigned? text = some rest) :
    assignment.answer text = .success (reading text).1 (reading text).2 := by
  rw [answer, dropWhile_of_assigned h, wanting_of_pos _ _ (by rfl), reading_of_assigned h]

theorem answer_assignment_of_not_assigned {text : List Char} (h : assigned? text = none) :
    assignment.answer text = .failure (lacking "=" (text.dropWhile isNameChar)) :=
  wanting_of_stopsAt _ _ (stopsAt_of_not_assigned h)

/-- A rule that nests assignments succeeds. -/
theorem exists_answer_of_depth_pos {rule : Rule} {text : List Char} (h : 0 < rule.depth text) :
    ∃ e rest, rule.answer text = .success e rest := by
  cases rule with
  | expr => exact ⟨_, _, rfl⟩
  | assignment =>
      cases ha : assigned? text with
      | some rest => exact ⟨_, _, answer_assignment_of_assigned ha⟩
      | none =>
          rw [depth_of_not_assigned ha] at h
          exact absurd h (Nat.lt_irrefl 0)
  | _ => exact absurd h (Nat.lt_irrefl 0)

/-! ### Without the guard -/

/-- A rule whose parser is quiet whatever reads for the references. -/
theorem readWithin_eq_of_readWith {rule : Rule} {text : List Char} {run : Run (Result Expr)}
    (h : ∀ call : (α : Type) → Grammar.Self α → Reader α,
      (rule.parser .expr).readWith call text = run) (limit : Nat) :
    rule.readWithin limit text = run := by
  obtain ⟨call, hcall⟩ := Parser.exists_read_eq_readWith Grammar.resolve limit
  rw [readWithin, hcall]
  exact h call

section Quiet

variable (call : (α : Type) → Grammar.Self α → Reader α) (text : List Char)

theorem readWith_number :
    (number.parser .expr).readWith call text = .pure (number.answer text) := by
  show Reader.number text = .pure (number.answer text)
  rw [answer]
  by_cases hs : StopsAt isDigit text
  · rw [Reader.number_of_stopsAt hs, wanting_of_stopsAt _ _ hs]
  · obtain ⟨c, rest, rfl, hc⟩ := exists_of_not_stopsAt hs
    rw [Reader.number_of_isDigit hc, wanting_of_pos _ _ hc]
    exact (apply_ite _ _ _ _).symm

theorem readWith_operator :
    (operator.parser .expr).readWith call text = .pure (operator.answer text) := by
  rw [parser, answer]
  by_cases hs : StopsAt isOperatorChar text
  · rw [Grammar.readWith_operator_of_stopsAt call hs, wanting_of_stopsAt _ _ hs]
  · obtain ⟨c, rest, rfl, hc⟩ := exists_of_not_stopsAt hs
    rw [Grammar.readWith_operator_of_pos call hc, wanting_of_pos _ _ hc]

theorem readWith_term :
    (term.parser .expr).readWith call text = .pure (term.answer text) := by
  rw [parser, answer]
  by_cases hs : StopsAt isOperatorChar (operand text).2
  · rw [Grammar.readWith_term_of_stopsAt call hs, wanting_of_stopsAt _ _ hs]
  · obtain ⟨c, rest, hr, hc⟩ := exists_of_not_stopsAt hs
    rw [Grammar.readWith_term_of_pos call hr hc, hr, wanting_of_pos _ _ hc]

end Quiet

/-- A rule that nests nothing is quiet, and gives its answer. -/
theorem readWithin_eq_pure {rule : Rule} (ha : rule ≠ .assignment) (he : rule ≠ .expr)
    (limit : Nat) (text : List Char) : rule.readWithin limit text = .pure (rule.answer text) := by
  refine readWithin_eq_of_readWith (fun call => ?_) limit
  cases rule with
  | number => exact readWith_number call text
  | «variable» => exact Grammar.readWith_name call text
  | operator => exact readWith_operator call text
  | factor => exact Grammar.readWith_factor call text
  | term => exact readWith_term call text
  | assignment => exact absurd rfl ha
  | expr => exact absurd rfl he

/-- So is an assignment where there is none. -/
theorem readWithin_assignment_of_not_assigned (limit : Nat) {text : List Char}
    (h : assigned? text = none) :
    assignment.readWithin limit text = .pure (assignment.answer text) := by
  rw [answer_assignment_of_not_assigned h]
  refine readWithin_eq_of_readWith (fun call => ?_) limit
  exact Grammar.readWith_assignment_of_not_assigned call .expr h

theorem outcome_readingWithin (limit : Nat) (text : List Char) :
    (Grammar.readingWithin limit text).outcome =
      if nesting text ≤ limit then .ok (.success (reading text).1 (reading text).2)
      else .error .tooDeep := by
  rw [Grammar.readingWithin]
  split <;> rfl

/-- **Without the guard.**  A rule gives its answer, or is stopped above the limit. -/
theorem outcome_readWithin (rule : Rule) (limit : Nat) (text : List Char) :
    (rule.readWithin limit text).outcome =
      if rule.depth text ≤ limit then .ok (rule.answer text) else .error .tooDeep := by
  by_cases ha : rule = .assignment
  · subst ha
    cases h : assigned? text with
    | some rest =>
        rw [answer_assignment_of_assigned h]
        exact (congrArg Run.outcome (Grammar.read_assignment_of_assigned limit h)).trans
          (outcome_readingWithin limit text)
    | none =>
        rw [readWithin_assignment_of_not_assigned limit h, depth, nesting_of_not_assigned h,
          if_pos (Nat.zero_le limit)]
        rfl
  · by_cases he : rule = .expr
    · subst he
      exact (congrArg Run.outcome (Grammar.read_expr limit text)).trans
        (outcome_readingWithin limit text)
    · have hd : rule.depth text = 0 := by cases rule <;> first | rfl | contradiction
      rw [readWithin_eq_pure ha he, hd, if_pos (Nat.zero_le limit)]
      rfl

/-! ### On a stack -/

section OnStack

variable [Stack]

theorem read_eq_pure {rule : Rule} (ha : rule ≠ .assignment) (he : rule ≠ .expr)
    (text : List Char) : rule.read text = .pure (rule.answer text) :=
  readWithin_eq_pure ha he (Stack.room rule text) text

theorem outcome_read (rule : Rule) (text : List Char) :
    (rule.read text).outcome =
      if rule.depth text ≤ Stack.room rule text then .ok (rule.answer text)
      else .error .tooDeep :=
  outcome_readWithin rule (Stack.room rule text) text

/-- There is room for 40 assignments on every stack. -/
theorem le_room_of_le_forty {rule : Rule} {text : List Char} {n : Nat} (h : n ≤ 40) :
    n ≤ Stack.room rule text := h.trans (Stack.forty_le_room rule text)

/-! ### With the guard -/

/-- The guard changes no run that ends with an answer. -/
theorem parse_eq_read {rule : Rule} {text : List Char}
    (h : rule.depth text ≤ Stack.room rule text) : rule.parse text = rule.read text := by
  have hok : (rule.read text).outcome = .ok (rule.answer text) := by
    rw [outcome_read, if_pos h]
  rw [parse]
  simp only [hok]
  exact Run.ext rfl hok.symm

/-- **With the guard.**  A rule gives its answer, or the failure for deep nesting. -/
theorem outcome_parse (rule : Rule) (text : List Char) :
    (rule.parse text).outcome =
      .ok (if rule.depth text ≤ Stack.room rule text then rule.answer text
        else .failure .nestedTooDeeply) := by
  by_cases h : rule.depth text ≤ Stack.room rule text
  · rw [parse_eq_read h, outcome_read, if_pos h, if_pos h]
  · have hdeep : (rule.read text).outcome = .error .tooDeep := by
      rw [outcome_read, if_neg h]
    rw [if_neg h, parse]
    simp only [hdeep]

/-- Every rule ends with a result. -/
theorem exists_outcome_parse (rule : Rule) (text : List Char) :
    ∃ result, (rule.parse text).outcome = .ok result := ⟨_, outcome_parse rule text⟩

theorem outcome_parse_of_le {rule : Rule} {text : List Char}
    (h : rule.depth text ≤ Stack.room rule text) :
    (rule.parse text).outcome = .ok (rule.answer text) := by
  rw [outcome_parse, if_pos h]

/-- What is parsed is the answer, where there is room on the stack for the text. -/
theorem outcome_parse_eq_success_iff {rule : Rule} {text rest : List Char} {e : Expr} :
    (rule.parse text).outcome = .ok (.success e rest) ↔
      rule.depth text ≤ Stack.room rule text ∧ rule.answer text = .success e rest := by
  by_cases h : rule.depth text ≤ Stack.room rule text
  · rw [outcome_parse_of_le h, Except.ok.injEq, and_iff_right h]
  · rw [outcome_parse, if_neg h]
    constructor
    · exact fun heq => nomatch heq
    · exact fun hp => absurd hp.1 h

/-! ### The composite rules -/

/-- **Reference.**  Every composite rule reads a text as the one-pass reading says, value and rest:
an expression is the reading where at most 40 assignments are nested; a factor is the operand; a
term is the operand joined with the first operation, where an operator follows the operand; an
assignment is the reading where the longest name is followed by an equals sign.  Without that
operator or that equals sign the term and the assignment fail.  Where an operator follows the
operand, no operator is left behind the reading. -/
theorem parse_eq_reading (text : List Char) :
    (nesting text ≤ 40 →
      (expr.parse text).outcome = .ok (.success (reading text).1 (reading text).2)) ∧
    (factor.parse text).outcome = .ok (.success (operand text).1 (operand text).2) ∧
    (∀ c rest, (operand text).2 = c :: rest → isOperatorChar c = true →
      (term.parse text).outcome =
        .ok (.success (.binary (String.ofList [c]) (operand text).1 (operand rest).1)
          (operand rest).2)) ∧
    (startsWithOperator (operand text).2 = false →
      ∃ why, (term.parse text).outcome = .ok (.failure why)) ∧
    (∀ rest, text.dropWhile isNameChar = '=' :: rest → nesting text ≤ 40 →
      (assignment.parse text).outcome = .ok (.success (reading text).1 (reading text).2)) ∧
    ((∀ rest, text.dropWhile isNameChar ≠ '=' :: rest) →
      ∃ why, (assignment.parse text).outcome = .ok (.failure why)) ∧
    (startsWithOperator (operand text).2 = true → StopsAt isOperatorChar (reading text).2) := by
  have hterm : (term.parse text).outcome = .ok (term.answer text) :=
    outcome_parse_of_le (Nat.zero_le _)
  refine ⟨fun h => ?_, ?_, fun c rest hr hc => ?_, fun hs => ?_, fun rest hrest h => ?_,
    fun hne => ?_, fun h => ?_⟩
  · have few : expr.depth text ≤ Stack.room expr text := le_room_of_le_forty h
    exact outcome_parse_of_le few
  · have few : factor.depth text ≤ Stack.room factor text := Nat.zero_le _
    exact outcome_parse_of_le few
  · rw [hterm, answer, hr, wanting_of_pos _ _ hc]
  · rw [hterm, answer, wanting_of_stopsAt _ _ (startsWithOperator_eq_false_iff.mp hs)]
    exact ⟨_, rfl⟩
  · have ha : assigned? text = some rest := by simp only [assigned?, hrest]
    have few : assignment.depth text ≤ Stack.room assignment text := le_room_of_le_forty h
    rw [outcome_parse_of_le few, answer_assignment_of_assigned ha]
  · have ha : assigned? text = none := by
      rw [Option.eq_none_iff_forall_ne_some]
      exact fun rest h => hne rest (dropWhile_of_assigned h)
    have hd : assignment.depth text ≤ Stack.room assignment text := by
      rw [depth_of_not_assigned ha]
      exact Nat.zero_le _
    rw [outcome_parse_of_le hd, answer_assignment_of_not_assigned ha]
    exact ⟨_, rfl⟩
  · rw [reading, if_pos h]
    exact stopsAt_operations _

end OnStack

/-- A number that is a name, an empty name, and two scripts in one number. -/
theorem parse_eq_reading_nested :
    nesting "12x==٣4+y4*5=z".toList ≤ 40 ∧
    (expr.parse "12x==٣4+y4*5=z".toList).outcome =
      .ok (.success (.assign "12x" (.assign ""
        (.binary "*" (.binary "+" (.number 34) (.name "y4")) (.number 5)))) "=z".toList) := by
  have few : nesting "12x==٣4+y4*5=z".toList ≤ 40 := by decide +kernel
  refine ⟨few, ((parse_eq_reading _).1 few).trans ?_⟩
  decide +kernel

end FlatExpr.Rule
