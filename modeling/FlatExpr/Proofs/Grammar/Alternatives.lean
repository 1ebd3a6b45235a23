import FlatExpr.Proofs.Grammar.Shape
import FlatExpr.Stack.Calls

/-!
# Grammar — Alternatives

The first two alternatives of an expression exclude each other, although one reads what a text
begins with as a number first and the other one as a name.

* `Grammar.not_succeeds_term_of_assigned`: a text is an assignment only if no operator follows its
  operand, so that a term fails on it.
* `Grammar.readWith_swapped`: whatever reads for the reference, an expression is read the same with
  its first two alternatives swapped; by induction on the limit the grammar is, where the
  expressions inside are swapped as well (`Grammar.read_swapped`).
* `Rule.expr_by_alternatives`: what is read as an expression is an assignment, an operation or an
  operand exactly according to which alternative succeeds.
-/

namespace FlatExpr
open Text

namespace Run

variable {α : Type}

/-- The run ends with a value. -/
def Succeeds (run : Run (Result α)) : Prop :=
  ∃ value rest, run.outcome = .ok (.success value rest)

theorem not_succeeds_of_failure {run : Run (Result α)} {why : Complaint}
    (h : run.outcome = .ok (.failure why)) : ¬ run.Succeeds := by
  rintro ⟨value, rest, hvalue⟩
  rw [h] at hvalue
  cases hvalue

end Run

namespace Grammar

variable {ρ : Type → Type} (call : (α : Type) → ρ α → Reader α)

/-! ### A term or an assignment -/

/-- No term is read where there is an assignment. -/
theorem not_succeeds_term_of_assigned {text rest : List Char} (h : assigned? text = some rest) :
    ¬ ((term : Parser ρ Expr).readWith call text).Succeeds := by
  rw [readWith_term_of_stopsAt call (stopsAt_operand_of_assigned h)]
  exact Run.not_succeeds_of_failure rfl

/-- An assignment is read only where there is one. -/
theorem exists_assigned_of_succeeds {self : ρ Expr} {text : List Char}
    (h : ((assignment self).readWith call text).Succeeds) : ∃ rest, assigned? text = some rest := by
  cases ha : assigned? text with
  | some rest => exact ⟨rest, rfl⟩
  | none =>
      rw [readWith_assignment_of_not_assigned call self ha] at h
      exact absurd h (Run.not_succeeds_of_failure rfl)

/-- **Exclusion.**  At no limit do a term and an assignment both succeed on a text. -/
theorem not_succeeds_term_and_assignment (limit : Nat) (text : List Char) :
    ¬ ((term.read resolve limit text).Succeeds ∧
      ((assignment .expr).read resolve limit text).Succeeds) := by
  rintro ⟨hterm, hassign⟩
  obtain ⟨call, hcall⟩ := Parser.exists_read_eq_readWith resolve limit
  rw [hcall] at hterm hassign
  obtain ⟨rest, ha⟩ := exists_assigned_of_succeeds call hassign
  exact not_succeeds_term_of_assigned call ha hterm

/-! ### The alternatives swapped -/

/-- An expression with its first two alternatives swapped; `self` refers to it. -/
def swapped (self : ρ Expr) : Parser ρ Expr := ((assignment self).orElse chain).orElse factor

/-- The reference of the grammar, where it stands for an expression with its first two
alternatives swapped. -/
def resolveSwapped : Resolver Self
  | _, .expr => (none, .ok (swapped .expr))

/-- With the first two alternatives swapped the same is read. -/
theorem readWith_swapped (self : ρ Expr) :
    (swapped self).readWith call = (expr self).readWith call := by
  funext text
  rw [swapped, Parser.readWith_orElse, Parser.readWith_orElse]
  cases h : assigned? text with
  | some rest =>
      -- the chain is tried last but one, and fails without being noticed
      obtain ⟨why, hchain⟩ := readWith_chain_of_stopsAt call (stopsAt_operand_of_assigned h)
      rw [readWith_expr_of_assigned call self h, Run.onFailure_onFailure, hchain]
      simp only [Run.onFailure_pure_failure, readWith_factor]
  | none =>
      rw [readWith_assignment_of_not_assigned call self h, Run.onFailure_pure_failure,
        expr, Parser.readWith_orElse, Parser.readWith_orElse, Run.onFailure_onFailure]
      simp only [readWith_assignment_of_not_assigned call self h, Run.onFailure_pure_failure]

/-- **Swapped alternatives.**  The grammar with the alternatives swapped, inside assignments as
well, has the same runs. -/
theorem read_swapped (limit : Nat) :
    (swapped .expr).read resolveSwapped limit = (expr .expr).read resolve limit := by
  induction limit with
  | zero => exact readWith_swapped _ Self.expr
  | succ limit ih =>
      rw [Parser.read_succ, Parser.read_succ, readWith_swapped]
      -- the reference leads to expressions with one level less
      congr 1
      funext α target text
      cases target
      have hturned : (resolveSwapped.build Self.expr).bind
          (fun q => q.read resolveSwapped limit text) =
            (swapped .expr).read resolveSwapped limit text := Run.pure_bind _ _
      have hcall : (resolve.build Self.expr).bind (fun q => q.read resolve limit text) =
          (expr .expr).read resolve limit text := Run.pure_bind _ _
      rw [hturned, hcall, ih]

end Grammar

namespace Rule

/-! ### What an expression is read as -/

variable {text : List Char}

/-- Operations joined onto an operation make one again. -/
theorem isBinary_joined {e : Expr} (h : IsBinary e) (more : List (String × Expr)) :
    IsBinary (joined e more) := by
  induction more generalizing e with
  | nil => exact h
  | cons operation more ih => exact ih (.intro _ _ _)

/-- Where an operator follows the operand, an operation is read. -/
theorem isBinary_chainFrom (h : ¬ StopsAt isOperatorChar (operand text).2) :
    IsBinary (chainFrom (operand text)).1 := by
  obtain ⟨c, rest, hr, hc⟩ := exists_of_not_stopsAt h
  rw [chainFrom, hr, operations_cons hc]
  exact isBinary_joined (.intro _ _ _) _

/-- Up to 40 levels a text is read as an expression, whatever deeper levels are allowed. -/
theorem readWithin_expr_of_few {limit : Nat} (low : 40 ≤ limit) (few : nesting text ≤ 40) :
    expr.readWithin limit text = Grammar.readingWithin 40 text := by
  have hread : expr.readWithin limit text = Grammar.readingWithin limit text :=
    Grammar.read_expr limit text
  rw [hread, Grammar.readingWithin, Grammar.readingWithin, if_pos (few.trans low), if_pos few]

section OnStack

variable [Stack]

theorem parse_expr_of_few (few : nesting text ≤ 40) :
    expr.parse text = Grammar.readingWithin 40 text := by
  have hdepth : expr.depth text ≤ Stack.room expr text := le_room_of_le_forty few
  rw [parse_eq_read hdepth]
  exact readWithin_expr_of_few (Stack.forty_le_room expr text) few

/-- Where there is an assignment, an expression is read as one. -/
theorem parse_expr_of_assigned {rest : List Char} (h : assigned? text = some rest)
    (few : nesting text ≤ 40) : expr.parse text = assignment.parse text := by
  have hroom : nesting text ≤ Stack.room assignment text := le_room_of_le_forty few
  have hdepth : assignment.depth text ≤ Stack.room assignment text := hroom
  have hread : assignment.read text =
      Grammar.readingWithin (Stack.room assignment text) text :=
    Grammar.read_assignment_of_assigned _ h
  rw [parse_expr_of_few few, parse_eq_read hdepth, hread, Grammar.readingWithin,
    Grammar.readingWithin, if_pos few, if_pos hroom]

theorem outcome_parse_expr_of_not_assigned (h : assigned? text = none) :
    (expr.parse text).outcome =
      .ok (.success (chainFrom (operand text)).1 (chainFrom (operand text)).2) := by
  have few : expr.depth text ≤ Stack.room expr text := by
    rw [depth_of_not_assigned h]
    exact Nat.zero_le _
  rw [outcome_parse_of_le few, answer, reading_of_not_assigned h]

/-- An assignment succeeds on the texts that are one, if there is room for them. -/
theorem succeeds_assignment_iff :
    (assignment.parse text).Succeeds ↔
      (∃ rest, assigned? text = some rest) ∧ nesting text ≤ Stack.room assignment text := by
  constructor
  · rintro ⟨e, left, h⟩
    obtain ⟨few, hanswer⟩ := outcome_parse_eq_success_iff.mp h
    refine ⟨?_, few⟩
    cases ha : assigned? text with
    | some rest => exact ⟨rest, rfl⟩
    | none =>
        rw [answer_assignment_of_not_assigned ha] at hanswer
        cases hanswer
  · rintro ⟨⟨rest, h⟩, few⟩
    exact ⟨_, _, outcome_parse_eq_success_iff.mpr ⟨few, answer_assignment_of_assigned h⟩⟩

/-- A term succeeds where an operator follows the operand. -/
theorem succeeds_term_iff :
    (term.parse text).Succeeds ↔ ¬ StopsAt isOperatorChar (operand text).2 := by
  have hterm : (term.parse text).outcome = .ok (term.answer text) :=
    outcome_parse_of_le (Nat.zero_le _)
  rw [Run.Succeeds, hterm, answer]
  constructor
  · rintro ⟨e, left, h⟩ hs
    rw [wanting_of_stopsAt _ _ hs] at h
    cases h
  · intro hs
    obtain ⟨c, rest, hr, hc⟩ := exists_of_not_stopsAt hs
    rw [hr, wanting_of_pos _ _ hc]
    exact ⟨_, _, rfl⟩

/-- What an expression is read as where that is no assignment: an operation, if an operator follows
the operand, and else the operand. -/
theorem isBinary_or_isLeaf_of_not_assigned {e : Expr} {rest : List Char}
    (ha : assigned? text = none) (h : (expr.parse text).outcome = .ok (.success e rest)) :
    (¬ StopsAt isOperatorChar (operand text).2 ∧ IsBinary e) ∨
      (StopsAt isOperatorChar (operand text).2 ∧ IsLeaf e ∧ (e, rest) = operand text) := by
  rw [outcome_parse_expr_of_not_assigned ha] at h
  by_cases hs : StopsAt isOperatorChar (operand text).2
  · rw [chainFrom_of_stopsAt hs] at h
    cases h
    exact .inr ⟨hs, (isOperand_operand text).isLeaf, rfl⟩
  · cases h
    exact .inl ⟨hs, isBinary_chainFrom hs⟩

/-- An assignment is read exactly where the rule for it succeeds. -/
theorem parse_expr_eq_assign_iff (few : nesting text ≤ 40) :
    (∃ target value rest, (expr.parse text).outcome = .ok (.success (.assign target value) rest)) ↔
      (assignment.parse text).Succeeds := by
  constructor
  · rintro ⟨target, value, rest, h⟩
    cases ha : assigned? text with
    | some behind =>
        rw [parse_expr_of_assigned ha few] at h
        exact ⟨_, _, h⟩
    | none =>
        rcases isBinary_or_isLeaf_of_not_assigned ha h with ⟨-, he⟩ | ⟨-, he, -⟩ <;> cases he
  · intro h
    obtain ⟨⟨behind, ha⟩, hroom⟩ := succeeds_assignment_iff.mp h
    have hdepth : assignment.depth text ≤ Stack.room assignment text := hroom
    rw [parse_expr_of_assigned ha few, outcome_parse_of_le hdepth, answer_assignment_of_assigned ha,
      reading_of_assigned ha]
    exact ⟨_, _, _, rfl⟩

/-- An operation is read exactly where a term is. -/
theorem parse_expr_eq_binary_iff :
    (∃ symbol left right rest,
      (expr.parse text).outcome = .ok (.success (.binary symbol left right) rest)) ↔
      (term.parse text).Succeeds := by
  rw [succeeds_term_iff]
  constructor
  · rintro ⟨symbol, left, right, rest, h⟩
    cases ha : assigned? text with
    | some behind =>
        -- what is read there is an assignment
        have hanswer := (outcome_parse_eq_success_iff.mp h).2
        rw [answer, reading_of_assigned ha] at hanswer
        cases hanswer
    | none =>
        rcases isBinary_or_isLeaf_of_not_assigned ha h with ⟨hs, -⟩ | ⟨-, he, -⟩
        · exact hs
        · cases he
  · intro hs
    have ha : assigned? text = none := by
      cases ha : assigned? text with
      | some behind => exact absurd (stopsAt_operand_of_assigned ha) hs
      | none => rfl
    have hread := outcome_parse_expr_of_not_assigned ha
    have hbinary := isBinary_chainFrom hs
    generalize (chainFrom (operand text)).1 = e at hread hbinary
    cases hbinary
    exact ⟨_, _, _, _, hread⟩

/-- An operand is read where neither a term nor an assignment is. -/
theorem parse_expr_eq_factor (few : nesting text ≤ 40)
    (hassign : ¬ (assignment.parse text).Succeeds) (hterm : ¬ (term.parse text).Succeeds) :
    ∃ e rest, IsLeaf e ∧ (expr.parse text).outcome = .ok (.success e rest) ∧
      (factor.parse text).outcome = .ok (.success e rest) := by
  have hdepth : factor.depth text ≤ Stack.room factor text := Nat.zero_le _
  have hfactor : (factor.parse text).outcome =
      .ok (.success (operand text).1 (operand text).2) := outcome_parse_of_le hdepth
  have hs : StopsAt isOperatorChar (operand text).2 := by
    rw [succeeds_term_iff] at hterm
    exact not_not.mp hterm
  cases ha : assigned? text with
  | some behind =>
      have hsome := succeeds_assignment_iff.mpr ⟨⟨behind, ha⟩, le_room_of_le_forty few⟩
      exact absurd hsome hassign
  | none =>
      have hread := outcome_parse_expr_of_not_assigned ha
      rw [chainFrom_of_stopsAt hs] at hread
      exact ⟨_, _, (isOperand_operand text).isLeaf, hread, hfactor⟩

/-- **Alternatives.**  At no limit do a term and an assignment both succeed on a text; so the
grammar with these alternatives swapped, inside assignments as well, has the same runs, and up to
40 assignments they are what is parsed, wherever so many can be nested.  A text of at most 40 on
which the rule for an assignment succeeds is read by it as by the one for expressions.  An
expression is an assignment exactly where that rule succeeds, an operation exactly where a term
does, and the operand where neither does. -/
theorem expr_by_alternatives (text : List Char) :
    (∀ limit, ¬ ((Grammar.term.read Grammar.resolve limit text).Succeeds ∧
      ((Grammar.assignment .expr).read Grammar.resolve limit text).Succeeds)) ∧
    (∀ limit, (Grammar.swapped .expr).read Grammar.resolveSwapped limit text =
      (Grammar.expr .expr).read Grammar.resolve limit text) ∧
    (nesting text ≤ 40 → (expr.parse text).Succeeds ∧
      ∀ limit, 40 ≤ limit →
        (Grammar.swapped .expr).read Grammar.resolveSwapped limit text = expr.parse text) ∧
    (nesting text ≤ 40 → (assignment.parse text).Succeeds →
      expr.parse text = assignment.parse text) ∧
    (nesting text ≤ 40 → ((∃ target value rest,
      (expr.parse text).outcome = .ok (.success (.assign target value) rest)) ↔
        (assignment.parse text).Succeeds)) ∧
    ((∃ symbol left right rest,
      (expr.parse text).outcome = .ok (.success (.binary symbol left right) rest)) ↔
        (term.parse text).Succeeds) ∧
    (nesting text ≤ 40 → ¬ (assignment.parse text).Succeeds → ¬ (term.parse text).Succeeds →
      ∃ e rest, IsLeaf e ∧ (expr.parse text).outcome = .ok (.success e rest) ∧
        (factor.parse text).outcome = .ok (.success e rest)) := by
  refine ⟨fun limit => Grammar.not_succeeds_term_and_assignment limit text,
    fun limit => congrFun (Grammar.read_swapped limit) text, fun few => ⟨?_, fun limit low => ?_⟩,
    fun few h => ?_, parse_expr_eq_assign_iff, parse_expr_eq_binary_iff, parse_expr_eq_factor⟩
  · have hdepth : expr.depth text ≤ Stack.room expr text := le_room_of_le_forty few
    exact ⟨_, _, outcome_parse_of_le hdepth⟩
  · rw [Grammar.read_swapped, parse_expr_of_few few]
    exact readWithin_expr_of_few low few
  · obtain ⟨⟨rest, ha⟩, -⟩ := succeeds_assignment_iff.mp h
    exact parse_expr_of_assigned ha few

end OnStack

/-- Digits that are a name in front of an equals sign, and a number in front of a bracket. -/
theorem expr_by_alternatives_digits :
    nesting "12=x*3".toList ≤ 40 ∧ (assignment.parse "12=x*3".toList).Succeeds ∧
      expr.parse "12=x*3".toList = assignment.parse "12=x*3".toList ∧
    nesting "12(x=3".toList ≤ 40 ∧ ¬ (assignment.parse "12(x=3".toList).Succeeds ∧
      ¬ (term.parse "12(x=3".toList).Succeeds ∧
      ∃ e rest, IsLeaf e ∧ (expr.parse "12(x=3".toList).outcome = .ok (.success e rest) ∧
        (factor.parse "12(x=3".toList).outcome = .ok (.success e rest) := by
  have one : nesting "12=x*3".toList ≤ 40 := by decide +kernel
  have hassign : (assignment.parse "12=x*3".toList).Succeeds :=
    ⟨.assign "12" (.binary "*" (.name "x") (.number 3)), [], by decide +kernel⟩
  have few : nesting "12(x=3".toList ≤ 40 := by decide +kernel
  have hno : (assignment.parse "12(x=3".toList).outcome = .ok (.failure (.unexpected '(' "=")) := by
    decide +kernel
  have hterm : (term.parse "12(x=3".toList).outcome = .ok (.failure (.unexpected '(' "/")) := by
    decide +kernel
  obtain ⟨-, -, -, hsame, -, -, -⟩ := expr_by_alternatives "12=x*3".toList
  obtain ⟨-, -, -, -, -, -, hfactor⟩ := expr_by_alternatives "12(x=3".toList
  have hno := Run.not_succeeds_of_failure hno
  have hterm := Run.not_succeeds_of_failure hterm
  exact ⟨one, hassign, hsame one hassign, few, hno, hterm, hfactor few hno hterm⟩

end Rule

end FlatExpr
