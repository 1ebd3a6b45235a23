import FlatExpr.Proofs.Grammar.Reference
import FlatExpr.Proofs.Nesting
import FlatExpr.Stack.Calls

/-!
# Grammar — Guard

When the guard against nesting matters.

* `Rule.GivesUp`: reading is stopped, and the guard makes a failure of it.
* `Rule.parse_guards_nesting`: up to 40 levels an expression or an assignment is read as if there
  were no guard, from 1000 on it is given up whatever follows; the other rules never notice the
  guard, and neither does any text whose leading names end at anything but an equals sign.
-/

namespace FlatExpr.Rule
open Text

theorem depth_le_nesting (rule : Rule) (text : List Char) : rule.depth text ≤ nesting text := by
  cases rule with
  | assignment | expr => exact le_rfl
  | _ => exact Nat.zero_le _

theorem depth_eq_nesting {rule : Rule} (h : rule = .expr ∨ rule = .assignment)
    (text : List Char) : rule.depth text = nesting text := by
  rcases h with rfl | rfl <;> rfl

/-- An assignment that is read is the reading of the text. -/
theorem answer_eq_reading {rule : Rule} (h : rule = .expr ∨ rule = .assignment)
    {text rest : List Char} {e : Expr} (he : rule.answer text = .success e rest) :
    (reading text).1 = e := by
  rcases h with rfl | rfl
  · cases he
    rfl
  · cases ha : assigned? text with
    | some behind =>
        rw [answer_assignment_of_assigned ha] at he
        cases he
        rfl
    | none =>
        rw [answer_assignment_of_not_assigned ha] at he
        cases he

section OnStack

variable [Stack]

/-- Reading is stopped, and the guard makes a failure of it. -/
def GivesUp (rule : Rule) (text : List Char) : Prop :=
  (rule.read text).outcome = .error .tooDeep ∧
    ∃ why, (rule.parse text).outcome = .ok (.failure why) ∧
      why.message = "Parsing failure, input nested too deeply"

theorem givesUp_of_lt_depth {rule : Rule} {text : List Char}
    (h : Stack.room rule text < rule.depth text) : GivesUp rule text := by
  refine ⟨?_, .nestedTooDeeply, ?_, rfl⟩
  · rw [outcome_read, if_neg (Nat.not_le.mpr h)]
  · rw [outcome_parse, if_neg (Nat.not_le.mpr h)]

/-- **Guard.**  Up to 40 levels of assignments are read as without the guard, and the value has
just as many; 1000 levels are given up, by what stands up to the last of them.  The other rules
read every text as without the guard, and so does every rule where something else than an equals
sign follows a name behind at most 40 names, whatever comes after it. -/
theorem parse_guards_nesting (rule : Rule) (text : List Char) :
    (rule = .expr ∨ rule = .assignment →
      (nesting text ≤ 40 →
        rule.parse text = rule.read text ∧
        ∀ e rest, (rule.parse text).outcome = .ok (.success e rest) → Nested (nesting text) e) ∧
      (1000 ≤ nesting text →
        GivesUp rule text ∧
        ∃ front rest, text = front ++ rest ∧ behind 1000 text = some rest ∧
          ∀ more, GivesUp rule (front ++ more))) ∧
    (rule ≠ .expr → rule ≠ .assignment → rule.parse text = rule.read text) ∧
    (∀ names name c rest, names.length ≤ 40 → (∀ lead ∈ names, IsName lead) → IsName name →
      isNameChar c = false → c ≠ '=' → text = leads names (name.toList ++ c :: rest) →
      rule.parse text = rule.read text) := by
  have shallow : ∀ {rule : Rule} {text}, rule.depth text ≤ 40 → rule.parse text = rule.read text :=
    fun h => parse_eq_read (le_room_of_le_forty h)
  refine ⟨fun hrule => ⟨fun few => ?_, fun many => ?_⟩, fun he ha => ?_, ?_⟩
  · have hdepth : rule.depth text ≤ 40 := depth_eq_nesting hrule text ▸ few
    refine ⟨shallow hdepth, fun e rest h => ?_⟩
    rw [outcome_parse_of_le (le_room_of_le_forty hdepth)] at h
    rw [← answer_eq_reading hrule (Except.ok.inj h)]
    exact nested_reading text
  · have deep : ∀ {text}, 1000 ≤ nesting text → GivesUp rule text := fun {text} h =>
      givesUp_of_lt_depth
        (depth_eq_nesting hrule text ▸ Nat.lt_of_lt_of_le (Stack.room_lt_thousand rule text) h)
    obtain ⟨names, rest, hlength, hnames, rfl⟩ := exists_leads_of_le_nesting many
    refine ⟨deep many, leads names [], rest, leads_append names [] rest, ?_, fun more => ?_⟩
    · rw [← hlength, behind_leads hnames]
    · -- a thousand names are in front, whatever is put behind them
      rw [← leads_append, List.nil_append]
      refine deep ?_
      rw [nesting_leads hnames, hlength]
      exact Nat.le_add_right _ _
  · rw [read_eq_pure ha he]
    refine (shallow ?_).trans (read_eq_pure ha he text)
    cases rule <;> first | exact Nat.zero_le 40 | contradiction
  · rintro names name c rest few hnames hname hc hne rfl
    refine shallow ((depth_le_nesting rule _).trans ?_)
    rw [nesting_leads hnames, nesting_of_not_assigned (not_assigned_of_stop hname hc hne rest)]
    exact few

end OnStack

/-- A thousand names are given up, though the text that they lead ends there; two are not, though
a thousand more stand behind the chain. -/
theorem parse_guards_nesting_thousand :
    let many := List.replicate 1000 "a"
    1000 ≤ nesting (leads many []) ∧ GivesUp .expr (leads many []) ∧
      expr.parse (leads ["a", ""] ("x".toList ++ '+' :: '1' :: '=' :: leads many [])) =
        expr.read (leads ["a", ""] ("x".toList ++ '+' :: '1' :: '=' :: leads many [])) := by
  intro many
  have hmany : ∀ name ∈ many, IsName name := by
    intro name hname
    rw [List.eq_of_mem_replicate hname]
    decide
  have deep : 1000 ≤ nesting (leads many []) := by
    rw [nesting_leads hmany, List.length_replicate]
    exact Nat.le_add_right _ _
  refine ⟨deep, (((parse_guards_nesting expr _).1 (.inl rfl)).2 deep).1, ?_⟩
  have hleads : ∀ name ∈ ["a", ""], IsName name := by decide
  have hname : IsName "x" := by decide
  exact (parse_guards_nesting expr _).2.2 ["a", ""] "x" '+' _ (by decide) hleads hname
    (by decide) (by decide) rfl

end FlatExpr.Rule
