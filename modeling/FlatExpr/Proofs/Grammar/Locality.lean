import FlatExpr.Proofs.Grammar.Reads
import FlatExpr.Proofs.Nesting
import FlatExpr.Stack.Calls

/-!
# Grammar — Locality

What is left over does not influence what was read.  A rule looks beyond what it reads: past the
last operand for an operator, and past a whole name for an equals sign.  What it finds there can
only make it read on; where it stopped, it stops at everything that cannot go on.

* `Apart`: nothing, or a text that begins with a character which no rule goes on with.
* `Rule.parse_append_iff_reads`: which texts may stand behind what was read, exactly.
* `Rule.parse_apart`: nothing at all may, and so may every text that is apart, if there is room on
  the stack in front of it.
* `Rule.parse_deep_in_front_of_blank`: in front of nothing there may be more room.
-/

namespace FlatExpr
open Text

/-- Nothing, or a text that begins with a character which neither a name nor an operation nor an
assignment goes on with. -/
def Apart (rest : List Char) : Prop :=
  ∀ c ∈ rest.head?, isLetter c = false ∧ isDigit c = false ∧ c ≠ '_' ∧ c ≠ '=' ∧
    c ≠ '+' ∧ c ≠ '-' ∧ c ≠ '*' ∧ c ≠ '/'

namespace Apart

variable {rule : Rule} {e : Expr} {rest more : List Char}

theorem nil : Apart [] := by simp [Apart]

theorem stopsAt_nameChar (h : Apart rest) : StopsAt isNameChar rest := by
  intro c hc
  obtain ⟨letter, digit, underscore, -⟩ := h c hc
  simp [isNameChar, letter, digit, underscore]

theorem stopsAt_operatorChar (h : Apart rest) : StopsAt isOperatorChar rest := by
  intro c hc
  obtain ⟨-, -, -, -, plus, minus, times, divide⟩ := h c hc
  simp [isOperatorChar, plus, minus, times, divide]

/-- Neither a name nor an equals sign comes first, so there is no assignment. -/
theorem not_assigned (h : Apart rest) : assigned? rest = none := by
  rw [Option.eq_none_iff_forall_ne_some]
  intro behind ha
  have heq := dropWhile_of_assigned ha
  rw [h.stopsAt_nameChar.dropWhile] at heq
  obtain ⟨-, -, -, equals, -⟩ := h '=' (by simp [heq])
  exact equals rfl

/-- What goes on with neither a name nor an operation nor an assignment is apart. -/
theorem of_stopsAt (hname : StopsAt isNameChar rest) (hop : StopsAt isOperatorChar rest)
    (hassign : assigned? rest = none) : Apart rest := by
  intro c hc
  have hn := hname c hc
  have ho := hop c hc
  have he : (c == '=') = false := stopsAt_of_not_assigned hassign c (by rwa [hname.dropWhile])
  simp only [isNameChar, isOperatorChar, Bool.or_eq_false_iff, beq_eq_false_iff_ne] at hn ho he
  tauto

/-- It goes on with no expression at all. -/
theorem closes (h : Apart rest) (e : Expr) : Closes e rest := by
  induction e with
  | assign target value ih => exact ih
  | binary symbol left right _ _ =>
      exact ⟨ends_of_stopsAt right h.stopsAt_nameChar, h.stopsAt_operatorChar⟩
  | _ => exact ⟨ends_of_stopsAt _ h.stopsAt_nameChar, h.stopsAt_operatorChar, h.not_assigned⟩

/-- What a rule reads it reads as well where something apart is left over. -/
theorem reads (hmore : Apart more) (h : Reads rule e rest) : Reads rule e more := by
  cases h with
  | number h _ => exact .number h hmore.stopsAt_nameChar.isDigit
  | «variable» h _ => exact .variable h hmore.stopsAt_nameChar
  | operator h => exact .operator h
  | factor h _ => exact .factor h (ends_of_stopsAt e hmore.stopsAt_nameChar)
  | term h hleft hright _ =>
      exact .term h hleft hright (ends_of_stopsAt _ hmore.stopsAt_nameChar)
  | assignment h hv _ => exact .assignment h hv (hmore.closes _)
  | expr h _ => exact .expr h (hmore.closes e)

end Apart

namespace Rule

variable {rule : Rule} {text front rest : List Char} {e : Expr}

section OnStack

variable [Stack]

/-- In front of what a rule reads a spelling with, the spelling is read, if there is room. -/
theorem outcome_parse_of_spells (hs : Spells e front) (h : Reads rule e rest) :
    (rule.parse (front ++ rest)).outcome =
      .ok (if assignments e ≤ Stack.room rule (front ++ rest) then .success e rest
        else .failure .nestedTooDeeply) := by
  obtain ⟨hanswer, hdepth⟩ := answer_of_reads h hs
  rw [outcome_parse, hanswer, hdepth]

/-- Behind what was read there may stand what the rule reads it in front of, and nothing else. -/
theorem parse_append_iff_reads (h : (rule.parse (front ++ rest)).outcome = .ok (.success e rest))
    {more : List Char} (room : assignments e ≤ Stack.room rule (front ++ more)) :
    (rule.parse (front ++ more)).outcome = .ok (.success e more) ↔ Reads rule e more := by
  obtain ⟨-, front', heq, hs, -⟩ := outcome_parse_eq_success_iff_reads.mp h
  obtain rfl := List.append_cancel_right heq
  rw [outcome_parse_eq_success_iff_reads]
  constructor
  · rintro ⟨-, -, -, -, hreads⟩
    exact hreads
  · exact fun hreads => ⟨room, front, rfl, hs, hreads⟩

/-- By itself a spelling is read where it is read in front of something: there is no less room. -/
theorem outcome_parse_front (h : (rule.parse (front ++ rest)).outcome = .ok (.success e rest))
    (hs : Spells e front) (hreads : Reads rule e rest) :
    (rule.parse front).outcome = .ok (.success e []) := by
  obtain ⟨few, -⟩ := outcome_parse_eq_success_iff.mp h
  have hdepth := (answer_of_reads hreads hs).2
  have alone := answer_of_reads (Apart.nil.reads hreads) hs
  rw [List.append_nil] at alone
  refine outcome_parse_eq_success_iff.mpr ⟨?_, alone.1⟩
  rw [hdepth] at few
  rw [alone.2]
  by_cases flat : assignments e = 0
  · rw [flat]
    exact Nat.zero_le _
  · -- both texts begin with the assignments of the expression
    have low : 0 < assignments e := Nat.pos_of_ne_zero flat
    have same : nesting (front ++ rest) = nesting front := by
      rw [← depth_eq_nesting_of_pos (hdepth ▸ low), ← depth_eq_nesting_of_pos (alone.2 ▸ low),
        hdepth, alone.2]
    exact few.trans (Stack.room_le_of_shortened rule (.cut (behindEquals_append same)))

/-- **Locality.**  What was read is a front of the text.  By itself it is read as the same value,
and nothing is left over.  Any text that is apart may stand behind it instead of what was left
over: the same value is read and that text is left over, unless there is no room for its assignments
in front of that text, which is then the failure.  There is always room for 40. -/
theorem parse_apart (h : (rule.parse text).outcome = .ok (.success e rest)) :
    ∃ front, text = front ++ rest ∧ (rule.parse front).outcome = .ok (.success e []) ∧
      ∀ more, Apart more →
        ((rule.parse (front ++ more)).outcome = .ok (.success e more) ∨
          (rule.parse (front ++ more)).outcome = .ok (.failure .nestedTooDeeply) ∧
            Stack.room rule (front ++ more) < assignments e) ∧
        (assignments e ≤ 40 → (rule.parse (front ++ more)).outcome = .ok (.success e more)) := by
  obtain ⟨-, front, rfl, hs, hreads⟩ := outcome_parse_eq_success_iff_reads.mp h
  refine ⟨front, rfl, outcome_parse_front h hs hreads, fun more hmore => ⟨?_, fun few => ?_⟩⟩
  · rw [outcome_parse_of_spells hs (hmore.reads hreads)]
    split
    · exact .inl rfl
    · next few => exact .inr ⟨rfl, Nat.not_le.mp few⟩
  · rw [parse_append_iff_reads h (le_room_of_le_forty few)]
    exact hmore.reads hreads

end OnStack

/-- The chain behind an empty name ends at a name, at a bracket in its place, and at nothing. -/
theorem parse_apart_chain :
    (expr.parse "=1+2x=3".toList).outcome =
      .ok (.success (.assign "" (.binary "+" (.number 1) (.number 2))) "x=3".toList) ∧
    (expr.parse "=1+2)x=3".toList).outcome =
      .ok (.success (.assign "" (.binary "+" (.number 1) (.number 2))) ")x=3".toList) ∧
    (expr.parse "=1+2".toList).outcome =
      .ok (.success (.assign "" (.binary "+" (.number 1) (.number 2))) []) := by
  have h : (expr.parse "=1+2x=3".toList).outcome =
      .ok (.success (.assign "" (.binary "+" (.number 1) (.number 2))) "x=3".toList) := by
    decide +kernel
  obtain ⟨front, heq, alone, behind⟩ := parse_apart h
  obtain rfl : "=1+2".toList = front := List.append_cancel_right heq
  have apart : Apart ")x=3".toList := by
    intro c hc
    obtain rfl : ')' = c := Option.some.inj hc
    decide
  exact ⟨h, (behind ")x=3".toList apart).2 (by decide), alone⟩

/-- There is room for seventy assignments in front of nothing and none in front of a blank, where it
takes one more call to see that a name is at its end. -/
theorem parse_deep_in_front_of_blank :
    let deep := leads (List.replicate 70 "a") "x".toList
    (∃ e, (expr.parse deep).outcome = .ok (.success e [])) ∧ Apart " ".toList ∧
      (expr.parse (deep ++ " ".toList)).outcome = .ok (.failure .nestedTooDeeply) := by
  intro deep
  have hnames : ∀ name ∈ List.replicate 70 "a", IsName name := by decide +kernel
  have nested : ∀ text, assigned? text = none →
      nesting (leads (List.replicate 70 "a") text) = 70 := by
    intro text h
    rw [nesting_leads hnames, nesting_of_not_assigned h, List.length_replicate]
  refine ⟨⟨(reading deep).1, ?_⟩, ?_, ?_⟩
  · have hdepth : expr.depth deep ≤ Stack.room expr deep := by
      rw [depth, nested "x".toList (by decide +kernel)]
      decide +kernel
    have hrest : (reading deep).2 = [] := by decide +kernel
    rw [outcome_parse_of_le hdepth, answer, hrest]
  · intro c hc
    obtain rfl : ' ' = c := Option.some.inj hc
    decide
  · have hdepth : ¬ expr.depth (deep ++ " ".toList) ≤ Stack.room expr (deep ++ " ".toList) := by
      rw [depth, ← leads_append, nested _ (by decide +kernel)]
      decide +kernel
    rw [outcome_parse, if_neg hdepth]

end Rule

end FlatExpr
