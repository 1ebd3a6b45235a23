import FlatExpr.Proofs.Grammar.Reference
import FlatExpr.Proofs.Spelling

/-!
# Grammar — Reads

What each rule reads, by the expression and what is left over, not by the text.

* `Reads`: the expressions that a rule can read, each with what may be left over behind it.
* `Rule.outcome_parse_eq_success_iff_reads`: a text is parsed as an expression exactly if it is a
  spelling of that expression in front of what is left over, the rule reads the one in front of
  the other, and there is room for its assignments.

So what a rule answers to a text is decided without following the rule's own steps.
-/

namespace FlatExpr
open Text

/-- The rule reads a spelling of the expression where the rest stands behind it. -/
inductive Reads : Rule → Expr → List Char → Prop where
  | number {value : Int} {rest : List Char} (h : IsOperand (.number value))
      (hr : StopsAt isDigit rest) : Reads .number (.number value) rest
  | variable {name : String} {rest : List Char} (h : IsName name)
      (hr : StopsAt isNameChar rest) : Reads .variable (.name name) rest
  | operator {c : Char} {rest : List Char} (h : isOperatorChar c = true) :
      Reads .operator (.operator (String.ofList [c])) rest
  | factor {e : Expr} {rest : List Char} (h : IsOperand e) (hr : Ends e rest) :
      Reads .factor e rest
  | term {c : Char} {left right : Expr} {rest : List Char} (h : isOperatorChar c = true)
      (hleft : IsOperand left) (hright : IsOperand right) (hr : Ends right rest) :
      Reads .term (.binary (String.ofList [c]) left right) rest
  | assignment {target : String} {value : Expr} {rest : List Char} (h : IsName target)
      (hv : IsTree value) (hr : Closes value rest) : Reads .assignment (.assign target value) rest
  | expr {e : Expr} {rest : List Char} (h : IsTree e) (hr : Closes e rest) : Reads .expr e rest

namespace Rule

variable {rule : Rule} {text front rest : List Char} {e : Expr}

/-! ### Every answer is read -/

theorem isOperand_of_digits {digits : List Char} (h : digits.length ≤ 4300) :
    IsOperand (.number (positional digits)) := .number (positional_lt_of_length_le h)

/-- What a rule answers is spelled by the text, and the rule reads it. -/
theorem exists_spells_of_answer (h : rule.answer text = .success e rest) :
    ∃ front, text = front ++ rest ∧ Spells e front ∧ Reads rule e rest := by
  cases rule with
  | number =>
      obtain ⟨c, more, htext, hc, h⟩ := exists_of_wanting_eq_success _ _ h
      split at h
      · next short =>
          cases h
          refine ⟨text.takeWhile isDigit, List.takeWhile_append_dropWhile.symm, ?_, ?_⟩
          · refine .number ?_ (fun d hd => List.mem_takeWhile_imp hd) short rfl
            rw [htext, List.takeWhile_cons_of_pos hc]
            exact List.cons_ne_nil _ _
          · exact .number (isOperand_of_digits short) (stopsAt_dropWhile isDigit text)
      · cases h
  | «variable» =>
      cases h
      refine ⟨(nameOf text).toList, ?_, .name _, .variable (isName_nameOf text) ?_⟩
      · rw [nameOf, String.toList_ofList, List.takeWhile_append_dropWhile]
      · exact stopsAt_dropWhile isNameChar text
  | operator =>
      obtain ⟨c, more, rfl, hc, h⟩ := exists_of_wanting_eq_success _ _ h
      cases h
      refine ⟨[c], rfl, ?_, .operator hc⟩
      have hspells := Spells.operator (String.ofList [c])
      rwa [String.toList_ofList] at hspells
  | factor =>
      cases h
      obtain ⟨front, htext, hspells, ends⟩ := exists_spells_operand text
      exact ⟨front, htext, hspells, .factor (isOperand_operand text) ends⟩
  | term =>
      obtain ⟨c, more, hleft, hc, h⟩ := exists_of_wanting_eq_success _ _ h
      cases h
      obtain ⟨first, htext, hfirst, -⟩ := exists_spells_operand text
      obtain ⟨second, hmore, hsecond, ends⟩ := exists_spells_operand more
      refine ⟨_, ?_, .binary _ hfirst hsecond,
        .term hc (isOperand_operand text) (isOperand_operand more) ends⟩
      rw [String.toList_ofList, List.append_assoc, List.append_assoc, ← hmore,
        List.singleton_append, ← hleft, ← htext]
  | assignment =>
      obtain ⟨c, more, hdrop, hc, h⟩ := exists_of_wanting_eq_success _ _ h
      cases h
      obtain rfl := beq_iff_eq.mp hc
      obtain ⟨second, hmore, hsecond, closes⟩ := exists_spells_reading more
      refine ⟨_, ?_, .assign (nameOf text) hsecond,
        .assignment (isName_nameOf text) (isTree_reading more) closes⟩
      rw [List.append_assoc, List.cons_append, ← hmore, ← hdrop, nameOf, String.toList_ofList,
        List.takeWhile_append_dropWhile]
  | expr =>
      cases h
      obtain ⟨front, htext, hspells, closes⟩ := exists_spells_reading text
      exact ⟨front, htext, hspells, .expr (isTree_reading text) closes⟩

/-! ### All that is read is the answer -/

theorem answer_number_of_spells {value : Int} (h : Spells (.number value) front)
    (hr : StopsAt isDigit rest) :
    number.answer (front ++ rest) = .success (.number value) rest := by
  cases h with
  | number hne hd short hv =>
      have hfront := takeWhile_append_of_stopsAt hd hr
      obtain ⟨c, more, rfl⟩ := List.exists_cons_of_ne_nil hne
      rw [answer, List.cons_append, wanting_of_pos _ _ (hd c (by simp)), ← List.cons_append,
        hfront, if_pos short, hv, dropWhile_append_of_stopsAt hd hr]

/-- What a rule reads is what it answers to every spelling, and there are as many assignments one
inside the other as in the expression. -/
theorem answer_of_reads (h : Reads rule e rest) (hs : Spells e front) :
    rule.answer (front ++ rest) = .success e rest ∧
      rule.depth (front ++ rest) = assignments e := by
  cases h with
  | number h hr => exact ⟨answer_number_of_spells hs hr, rfl⟩
  | @«variable» name _ h hr =>
      cases hs
      rw [answer, nameOf_append h hr, dropWhile_append_of_stopsAt h hr]
      exact ⟨rfl, rfl⟩
  | operator h =>
      cases hs
      rw [answer, String.toList_ofList, List.singleton_append, wanting_of_pos _ _ h]
      exact ⟨rfl, rfl⟩
  | factor h hr =>
      rw [answer, operand_of_spells hs h hr, h.assignments_eq_zero]
      exact ⟨rfl, rfl⟩
  | @term c left right _ hc hleft hright hr =>
      cases hs with
      | @binary _ _ _ first second hfirst hsecond =>
          have stop : StopsAt isNameChar (c :: (second ++ rest)) :=
            .cons (isNameChar_of_isOperatorChar hc)
          rw [String.toList_ofList, List.append_assoc, List.append_assoc, List.singleton_append,
            answer, operand_of_spells hfirst hleft (ends_of_stopsAt left stop),
            wanting_of_pos _ _ hc, operand_of_spells hsecond hright hr, assignments,
            hleft.assignments_eq_zero, hright.assignments_eq_zero]
          exact ⟨rfl, rfl⟩
  | @assignment target value _ h hv hr =>
      have tree : IsTree (.assign target value) := .assign h hv
      obtain ⟨hreading, hnesting⟩ := reading_of_spells hs tree hr
      cases hs with
      | @assign _ _ text hs =>
          have ha : assigned? (target.toList ++ '=' :: text ++ rest) = some (text ++ rest) :=
            assigned?_eq_some_iff.mpr ⟨target.toList, h, by simp⟩
          rw [answer_assignment_of_assigned ha, hreading]
          exact ⟨rfl, hnesting⟩
  | expr h hr =>
      obtain ⟨hreading, hnesting⟩ := reading_of_spells hs h hr
      rw [answer, hreading]
      exact ⟨rfl, hnesting⟩

/-- **What a rule reads.** -/
theorem outcome_parse_eq_success_iff_reads [Stack] :
    (rule.parse text).outcome = .ok (.success e rest) ↔
      assignments e ≤ Stack.room rule text ∧
        ∃ front, text = front ++ rest ∧ Spells e front ∧ Reads rule e rest := by
  rw [outcome_parse_eq_success_iff]
  constructor
  · rintro ⟨hdepth, h⟩
    obtain ⟨front, rfl, hs, hr⟩ := exists_spells_of_answer h
    exact ⟨(answer_of_reads hr hs).2 ▸ hdepth, front, rfl, hs, hr⟩
  · rintro ⟨few, front, rfl, hs, hr⟩
    obtain ⟨hanswer, hdepth⟩ := answer_of_reads hr hs
    exact ⟨hdepth ▸ few, hanswer⟩

end Rule

end FlatExpr
