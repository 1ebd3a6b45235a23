import FlatExpr.Proofs.Grammar.Reads
import FlatExpr.Stack.Calls

/-!
# Grammar — NormalForm

The normal form of a text under a rule: what was read is written plainly, in front of what was
left over.

* `Rule.normalForm`: that text; a text that is not read is its own normal form.
* `Rule.room_le_of_reads`: written plainly, what was read leaves no less room on the stack; number
  by number, from left to right.
* `Rule.parse_normalForm`: the text that was read differs from its normal form in the spelling of
  numbers alone, and the normal form is parsed as the text is, so that taking it again changes
  nothing.
-/

namespace FlatExpr.Rule
open Text

variable {rule : Rule} {text rest : List Char} {e : Expr}

/-- What is read is a tree, or it is spelled in one way only. -/
theorem tree_or_eq_unparse_of_reads (h : Reads rule e rest) :
    (IsTree e ∧ Ends e rest) ∨ ∀ front, Spells e front → front = unparse e := by
  cases h with
  | number h hr => exact .inl ⟨.chain (.operand h), hr⟩
  | «variable» | operator => exact .inr fun front h => by cases h; rfl
  | factor h hr => exact .inl ⟨.chain (.operand h), hr⟩
  | term hc hleft hright hr => exact .inl ⟨.chain (.binary hc (.operand hleft) hright), hr⟩
  | assignment h hv hr =>
      have tree := IsTree.assign h hv
      exact .inl ⟨tree, tree.ends hr⟩
  | expr h hr => exact .inl ⟨h, h.ends hr⟩

section OnStack

variable [Stack]

/-! ### The room for what is written plainly -/

section Plain

variable {before front : List Char}

/-- An operand written plainly, between what stands before and behind it. -/
theorem room_le_of_operand (rule : Rule) (hbefore : ∀ c ∈ before.getLast?, isNameChar c = false)
    (h : Spells e front) (he : IsOperand e) (hr : Ends e rest) :
    Stack.room rule (before ++ (front ++ rest)) ≤
      Stack.room rule (before ++ (unparse e ++ rest)) := by
  cases h with
  | number hne hd short hv =>
      subst hv
      have low : 0 < front.length := List.length_pos_iff.mpr hne
      rw [unparse_number]
      exact Stack.room_le_of_shortened rule (.digits hbefore hd
        (fun _ hc => isDigit_of_mem_decimalDigits hc) (decimalDigits_ne_nil _)
        ((length_decimalDigits_le_iff low).mpr (positional_lt front)) short hr)
  | name name => exact le_rfl
  | operator | assign | binary => cases he

/-- A chain, its first operations before its last operand. -/
theorem room_le_of_chain (rule : Rule) (hbefore : ∀ c ∈ before.getLast?, isNameChar c = false)
    (h : Spells e front) (he : IsChain e) (hr : Ends e rest) :
    Stack.room rule (before ++ (front ++ rest)) ≤
      Stack.room rule (before ++ (unparse e ++ rest)) := by
  induction he generalizing front rest with
  | operand he => exact room_le_of_operand rule hbefore h he hr
  | @binary c left right hc _ hright ih =>
      cases h with
      | @binary _ _ _ first second hfirst hsecond =>
          have hname := isNameChar_of_isOperatorChar hc
          have ends : Ends left (c :: (second ++ rest)) := ends_of_stopsAt left (.cons hname)
          have hlast : ∀ d ∈ (before ++ (unparse left ++ [c])).getLast?,
              isNameChar d = false := by simp [hname]
          have plain := room_le_of_operand rule hlast hsecond hright hr
          simp only [List.append_assoc, List.singleton_append] at plain
          rw [String.toList_ofList, unparse_binary, List.append_assoc, List.append_assoc,
            List.append_assoc, List.singleton_append, List.cons_append]
          exact (ih hfirst ends).trans plain

/-- A tree, behind its targets. -/
theorem room_le_of_tree (rule : Rule) (hbefore : ∀ c ∈ before.getLast?, isNameChar c = false)
    (h : Spells e front) (he : IsTree e) (hr : Ends e rest) :
    Stack.room rule (before ++ (front ++ rest)) ≤
      Stack.room rule (before ++ (unparse e ++ rest)) := by
  induction he generalizing before front with
  | chain he => exact room_le_of_chain rule hbefore h he hr
  | @assign target value _ _ ih =>
      cases h with
      | @assign _ _ text h =>
          have hlast : ∀ d ∈ (before ++ (target.toList ++ ['='])).getLast?,
              isNameChar d = false := by simp [isNameChar_equals]
          have plain := ih hlast h hr
          simp only [List.append_assoc, List.singleton_append] at plain
          simp only [unparse, List.append_assoc, List.cons_append]
          exact plain

end Plain

/-- What was read leaves no less room where it is written plainly. -/
theorem room_le_of_reads (h : Reads rule e rest) {front : List Char} (hs : Spells e front) :
    Stack.room rule (front ++ rest) ≤ Stack.room rule (unparse e ++ rest) := by
  rcases tree_or_eq_unparse_of_reads h with ⟨tree, ends⟩ | same
  · have hnothing : ∀ c ∈ ([] : List Char).getLast?, isNameChar c = false := nofun
    exact room_le_of_tree rule hnothing hs tree ends
  · rw [same front hs]

/-! ### The normal form -/

/-- What a rule read from a text, written plainly in front of what was left over. -/
def normalForm (rule : Rule) (text : List Char) : List Char :=
  match (rule.parse text).outcome with
  | .ok (.success e rest) => unparse e ++ rest
  | _ => text

theorem normalForm_of_success (h : (rule.parse text).outcome = .ok (.success e rest)) :
    rule.normalForm text = unparse e ++ rest := by
  rw [normalForm, h]

/-- **Normal form.**  A text that is parsed is a spelling of the value in front of what is left
over.  Written plainly instead, the value is parsed with the same text left over, so that the
normal form of the normal form is that text again. -/
theorem parse_normalForm (h : (rule.parse text).outcome = .ok (.success e rest)) :
    (∃ front, text = front ++ rest ∧ Spells e front) ∧
    (rule.parse (unparse e ++ rest)).outcome = .ok (.success e rest) ∧
    rule.normalForm text = unparse e ++ rest ∧
    rule.normalForm (rule.normalForm text) = rule.normalForm text := by
  obtain ⟨few, front, htext, hs, hreads⟩ := outcome_parse_eq_success_iff_reads.mp h
  have room : assignments e ≤ Stack.room rule (unparse e ++ rest) := by
    rw [htext] at few
    exact few.trans (room_le_of_reads hreads hs)
  have again : (rule.parse (unparse e ++ rest)).outcome = .ok (.success e rest) :=
    outcome_parse_eq_success_iff_reads.mpr ⟨room, _, rfl, hs.spells_unparse, hreads⟩
  refine ⟨⟨front, htext, hs⟩, again, normalForm_of_success h, ?_⟩
  rw [normalForm_of_success h, normalForm_of_success again]

end OnStack

/-- Zeros in front and digits of another script are written plainly, and a name still follows the
number; the target keeps its zeros. -/
theorem parse_normalForm_mixed_digits :
    (expr.parse "00=007*٠٣4x".toList).outcome =
      .ok (.success (.assign "00" (.binary "*" (.number 7) (.number 34))) "x".toList) ∧
    (expr.parse "00=7*34x".toList).outcome =
      .ok (.success (.assign "00" (.binary "*" (.number 7) (.number 34))) "x".toList) := by
  have h : (expr.parse "00=007*٠٣4x".toList).outcome =
      .ok (.success (.assign "00" (.binary "*" (.number 7) (.number 34))) "x".toList) := by
    decide +kernel
  exact ⟨h, (parse_normalForm h).2.1⟩

end FlatExpr.Rule
