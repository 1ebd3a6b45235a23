import FlatExpr.Proofs.Grammar.Reference
import FlatExpr.Proofs.Spelling
import FlatExpr.Stack.Calls

/-!
# Grammar — RoundTrip

Writing a tree and parsing the text gives the tree back, with nothing left over
(`Rule.parse_unparse`): by `expr` always, by `assignment` where the tree is an assignment, and by
`term` where it is two operands joined by an operator.  Nothing in the text marks where an operand
ends; it is the shapes of `Tree.lean` that make the longest runs end where the tree's parts do.
-/

namespace FlatExpr.Rule
open Text

/-- The answer of `term` to the text of two operands joined by an operator. -/
theorem answer_term_unparse {c : Char} {left right : Expr} (hc : isOperatorChar c = true)
    (hl : IsOperand left) (hr : IsOperand right) :
    term.answer (unparse (.binary (String.ofList [c]) left right)) =
      .success (.binary (String.ofList [c]) left right) [] := by
  have first := operand_unparse hl (.cons (isNameChar_of_isOperatorChar hc) :
    StopsAt isNameChar (c :: unparse right))
  have second := operand_unparse hr .nil
  rw [List.append_nil] at second
  rw [unparse_binary, answer, first, wanting_of_pos _ _ hc, second]

section OnStack

variable [Stack]

/-- **Round trip.**  A tree of at most 40 assignments is parsed from its own text, and nothing is
left over. -/
theorem parse_unparse {e : Expr} (h : IsTree e) (few : assignments e ≤ 40) :
    (expr.parse (unparse e)).outcome = .ok (.success e []) ∧
    (∀ target value, e = .assign target value →
      (assignment.parse (unparse e)).outcome = .ok (.success e [])) ∧
    (∀ symbol left right, e = .binary symbol left right → IsOperand left → IsOperand right →
      (term.parse (unparse e)).outcome = .ok (.success e [])) := by
  have few : nesting (unparse e) ≤ 40 := by rwa [nesting_unparse h]
  have whole : expr.answer (unparse e) = .success e [] := by rw [answer, reading_unparse h]
  refine ⟨?_, ?_, ?_⟩
  · have hdepth : expr.depth (unparse e) ≤ Stack.room expr (unparse e) := le_room_of_le_forty few
    rw [outcome_parse_of_le hdepth, whole]
  · rintro target value rfl
    -- an assignment is no operand, so the tree is one by its own constructor
    cases h with
    | chain h => cases h with | operand h => cases h
    | assign htarget _ =>
        have hdepth : assignment.depth (unparse (.assign target value)) ≤
            Stack.room assignment (unparse (.assign target value)) := le_room_of_le_forty few
        rw [outcome_parse_of_le hdepth, answer_assignment_of_assigned (assigned_unparse htarget)]
        exact congrArg Except.ok whole
  · rintro symbol left right rfl hl hr
    cases h with
    | chain h =>
        cases h with
        | operand h => cases h
        | @binary c _ _ hc _ _ =>
            have hdepth : term.depth (unparse (.binary (String.ofList [c]) left right)) ≤
              Stack.room term (unparse (.binary (String.ofList [c]) left right)) := Nat.zero_le _
            rw [outcome_parse_of_le hdepth, answer_term_unparse hc hl hr]

end OnStack

/-- Targets that are a number or empty, an empty operand, and two operators that meet. -/
theorem parse_unparse_empty_names :
    let e : Expr := .assign "12" (.assign ""
      (.binary "*" (.binary "+" (.number 7) (.name "")) (.name "x_9")))
    IsTree e ∧ assignments e ≤ 40 ∧ unparse e = "12==7+*x_9".toList ∧
      (expr.parse (unparse e)).outcome = .ok (.success e []) := by
  have tree : IsTree (.assign "12" (.assign ""
      (.binary "*" (.binary "+" (.number 7) (.name "")) (.name "x_9")))) := by
    have short : (decimalDigits 7).length ≤ 4300 := by decide
    have low : 7 < 10 ^ 4300 :=
      (length_decimalDigits_le_iff (n := 7) (k := 4300) (by decide)).mp short
    have seven : IsOperand (.number 7) := .number low
    have empty : IsOperand (.name "") := .name (by decide) (.inl (by decide))
    have x : IsOperand (.name "x_9") := .name (by decide) (.inl (by decide))
    have sum : IsChain (.binary (String.ofList ['+']) (.number 7) (.name "")) :=
      .binary (by decide) (.operand seven) empty
    have product : IsChain (.binary (String.ofList ['*'])
        (.binary (String.ofList ['+']) (.number 7) (.name "")) (.name "x_9")) :=
      .binary (by decide) sum x
    exact .assign (by decide) (.assign (by decide) (.chain product))
  exact ⟨tree, by decide, by decide, (parse_unparse tree (by decide)).1⟩

end FlatExpr.Rule
