import FlatExpr.Proofs.Grammar.Reference

/-!
# Grammar — Failure

Which rule fails on which text, and with which message.

* `Lacks`: a text does not begin with a character that is wanted there, with the message for it.
* `Refused`: the failures, one case for each.  A variable and a factor have none, and an
  expression has only the one for deep nesting.  A term fails for what follows its first operand
  and an assignment for what follows its name: never for what is behind the operator or the
  equals sign, though that was the last thing tried.
* `Rule.failsWith_iff_refused`: a rule ends with a result on every text, and fails exactly as
  `Refused` says.
-/

namespace FlatExpr
open Text

/-! ### Failures and their messages -/

/-- The result is a failure with this message. -/
def Result.FailsWith {α : Type} (result : Result α) (message : String) : Prop :=
  ∃ why, result = .failure why ∧ why.message = message

theorem Result.not_failsWith_success {α : Type} (value : α) (rest : List Char) (message : String) :
    ¬ (success value rest).FailsWith message := by
  rintro ⟨why, h, -⟩
  cases h

theorem Result.failsWith_failure_iff {α : Type} {why : Complaint} {message : String} :
    (failure why : Result α).FailsWith message ↔ why.message = message := by
  constructor
  · rintro ⟨other, h, rfl⟩
    cases h
    rfl
  · exact fun h => ⟨why, rfl, h⟩

/-- The text does not begin with a character that `p` holds of; the message says so. -/
inductive Lacks (p : Char → Bool) (wanted : String) : List Char → String → Prop where
  | nothing : Lacks p wanted [] "Parsing failure, empty string"
  | other {c : Char} {rest : List Char} (h : p c = false) :
      Lacks p wanted (c :: rest)
        ("Parsing failure, got " ++ String.ofList [c] ++ " expected " ++ wanted)

/-- A text on which a rule fails, and the message of the failure. -/
inductive Refused [Stack] : Rule → List Char → String → Prop where
  | number {text : List Char} {message : String} (h : Lacks isDigit "digit" text message) :
      Refused .number text message
  | long {text : List Char} (h : 4300 < (text.takeWhile isDigit).length) :
      Refused .number text "Parsing failure, number too long"
  | operator {text : List Char} {message : String} (h : Lacks isOperatorChar "/" text message) :
      Refused .operator text message
  | term {text : List Char} {message : String}
      (h : Lacks isOperatorChar "/" (operand text).2 message) : Refused .term text message
  | assignment {text : List Char} {message : String}
      (h : Lacks (· == '=') "=" (text.dropWhile isNameChar) message) :
      Refused .assignment text message
  | assignmentDeep {text : List Char} (h : Stack.room .assignment text < nesting text) :
      Refused .assignment text "Parsing failure, input nested too deeply"
  | exprDeep {text : List Char} (h : Stack.room .expr text < nesting text) :
      Refused .expr text "Parsing failure, input nested too deeply"

namespace Rule

/-! ### The failures of an answer -/

section Wanting

variable {p : Char → Bool} {wanted : String} {next : Char → List Char → Result Expr}
  {text : List Char} {message : String}

/-- Where a character is wanted, what fails is that or what comes next. -/
theorem wanting_failsWith_iff :
    (wanting p wanted next text).FailsWith message ↔
      Lacks p wanted text message ∨
        ∃ c rest, text = c :: rest ∧ p c = true ∧ (next c rest).FailsWith message := by
  by_cases hs : StopsAt p text
  · rw [wanting_of_stopsAt wanted next hs, Result.failsWith_failure_iff]
    constructor
    · rintro rfl
      left
      cases text with
      | nil => exact .nothing
      | cons c rest => exact .other (hs c rfl)
    · rintro (h | ⟨c, rest, rfl, hc, -⟩)
      · cases h <;> rfl
      · exact absurd (hs c rfl) (by simp [hc])
  · obtain ⟨c, rest, rfl, hc⟩ := exists_of_not_stopsAt hs
    rw [wanting_of_pos wanted next hc]
    constructor
    · exact fun h => .inr ⟨c, rest, rfl, hc, h⟩
    · rintro (h | ⟨_, _, heq, -, h⟩)
      · cases h with | other h => exact absurd h (by simp [hc])
      · cases heq
        exact h

/-- Where what comes next never fails, only the wanted character can be lacking. -/
theorem wanting_failsWith_iff_lacks (h : ∀ c rest, ¬ (next c rest).FailsWith message) :
    (wanting p wanted next text).FailsWith message ↔ Lacks p wanted text message := by
  rw [wanting_failsWith_iff, or_iff_left]
  rintro ⟨c, rest, -, -, hnext⟩
  exact h c rest hnext

end Wanting

/-- Nothing is nested where there is no equals sign behind the name. -/
theorem nesting_of_lacks {text : List Char} {message : String}
    (h : Lacks (· == '=') "=" (text.dropWhile isNameChar) message) : nesting text = 0 := by
  cases ha : assigned? text with
  | none => exact nesting_of_not_assigned ha
  | some rest =>
      rw [dropWhile_of_assigned ha] at h
      cases h with | other h => cases h

/-- What is assigned is never the reason, unless it is nested too deeply. -/
theorem answer_assignment_failsWith_iff {text : List Char} {message : String} :
    (assignment.answer text).FailsWith message ↔
      Lacks (· == '=') "=" (text.dropWhile isNameChar) message := by
  rw [answer, wanting_failsWith_iff_lacks fun _ _ => Result.not_failsWith_success _ _ _]

section OnStack

variable [Stack]

/-- More than 4300 digits, or no digit at all. -/
theorem answer_number_failsWith_iff {text : List Char} {message : String} :
    (number.answer text).FailsWith message ↔ Refused .number text message := by
  rw [answer, wanting_failsWith_iff]
  constructor
  · rintro (h | ⟨c, rest, rfl, -, h⟩)
    · exact .number h
    · split at h
      · exact absurd h (Result.not_failsWith_success _ _ _)
      · next hlong =>
          obtain rfl := Result.failsWith_failure_iff.mp h
          exact .long (Nat.not_le.mp hlong)
  · intro h
    cases h with
    | number h => exact .inl h
    | long hlong =>
        -- a run of so many digits begins with one
        have hs : ¬ StopsAt isDigit text := by
          intro hs
          rw [hs.takeWhile] at hlong
          exact absurd hlong (Nat.not_lt_zero 4300)
        obtain ⟨c, rest, rfl, hc⟩ := exists_of_not_stopsAt hs
        refine .inr ⟨c, rest, rfl, hc, ?_⟩
        rw [if_neg (Nat.not_le.mpr hlong), Result.failsWith_failure_iff]
        rfl

theorem answer_operator_failsWith_iff {text : List Char} {message : String} :
    (operator.answer text).FailsWith message ↔ Refused .operator text message := by
  rw [answer, wanting_failsWith_iff_lacks fun _ _ => Result.not_failsWith_success _ _ _]
  exact ⟨.operator, fun h => by cases h with | operator h => exact h⟩

/-- The second operand of a term is never the reason. -/
theorem answer_term_failsWith_iff {text : List Char} {message : String} :
    (term.answer text).FailsWith message ↔ Refused .term text message := by
  rw [answer, wanting_failsWith_iff_lacks fun _ _ => Result.not_failsWith_success _ _ _]
  exact ⟨.term, fun h => by cases h with | term h => exact h⟩

/-! ### The law -/

variable {rule : Rule} {text : List Char}

/-- Where there is room a rule is refused as its answer says. -/
theorem answer_failsWith_iff (hd : rule.depth text ≤ Stack.room rule text) (message : String) :
    (rule.answer text).FailsWith message ↔ Refused rule text message := by
  cases rule with
  | number => exact answer_number_failsWith_iff
  | «variable» => exact ⟨fun h => absurd h (Result.not_failsWith_success _ _ _), nofun⟩
  | operator => exact answer_operator_failsWith_iff
  | factor => exact ⟨fun h => absurd h (Result.not_failsWith_success _ _ _), nofun⟩
  | term => exact answer_term_failsWith_iff
  | assignment =>
      rw [answer_assignment_failsWith_iff]
      constructor
      · exact .assignment
      · intro h
        cases h with
        | assignment h => exact h
        | assignmentDeep deep => exact absurd hd (Nat.not_le.mpr deep)
  | expr =>
      constructor
      · exact fun h => absurd h (Result.not_failsWith_success _ _ _)
      · intro h
        cases h with | exprDeep deep => exact absurd hd (Nat.not_le.mpr deep)

/-- Where there is none it is refused for that alone. -/
theorem refused_iff_of_deep (hd : Stack.room rule text < rule.depth text) (message : String) :
    Complaint.nestedTooDeeply.message = message ↔ Refused rule text message := by
  cases rule with
  | assignment =>
      constructor
      · rintro rfl
        exact .assignmentDeep hd
      · intro h
        cases h with
        | assignment h =>
            -- without an equals sign nothing is nested
            rw [depth, nesting_of_lacks h] at hd
            exact absurd hd (Nat.not_lt_zero _)
        | assignmentDeep => rfl
  | expr =>
      constructor
      · rintro rfl
        exact .exprDeep hd
      · intro h
        cases h with | exprDeep => rfl
  | _ => exact absurd hd (Nat.not_lt_zero _)

/-- **Failure.**  Every rule ends with a result on every text, and the failures are those of
`Refused`, with their messages. -/
theorem failsWith_iff_refused (rule : Rule) (text : List Char) :
    ∃ result, (rule.parse text).outcome = .ok result ∧
      ∀ message, result.FailsWith message ↔ Refused rule text message := by
  refine ⟨_, outcome_parse rule text, fun message => ?_⟩
  by_cases hd : rule.depth text ≤ Stack.room rule text
  · rw [if_pos hd]
    exact answer_failsWith_iff hd message
  · rw [if_neg hd, Result.failsWith_failure_iff]
    exact refused_iff_of_deep (Nat.not_le.mp hd) message

end OnStack

end Rule

end FlatExpr
