import FlatExpr.Proofs.Grammar.Reads
import FlatExpr.Stack.Calls
import Mathlib.Algebra.Group.Int.Defs

/-!
# Grammar — Shape

What every expression that is read looks like.

* `parts`: the expressions that an expression is made of; `spine`: those of them that are met on
  the way from the root through the values of assignments.
* `WellFormed`: the shape of what a rule reads, said of the parts.
* `Rule.parse_wellFormed`: whatever a rule reads has that shape.

A tree in the sense of `Tree.lean` has this shape because its parts are trees again
(`IsTree.part`), and every reading is a tree.
-/

namespace FlatExpr
open Text

/-! ### The parts of an expression -/

/-- The expressions that an expression is made of, itself first. -/
def parts : Expr → List Expr
  | .assign target value => .assign target value :: parts value
  | .binary symbol left right => .binary symbol left right :: (parts left ++ parts right)
  | e => [e]

/-- The expressions met on the way from the root through the values of assignments. -/
def spine : Expr → List Expr
  | .assign target value => .assign target value :: spine value
  | e => [e]

/-- A number or a variable. -/
inductive IsLeaf : Expr → Prop where
  | number (value : Int) : IsLeaf (.number value)
  | name (name : String) : IsLeaf (.name name)

/-- Two expressions joined by an operator. -/
inductive IsBinary : Expr → Prop where
  | intro (symbol : String) (left right : Expr) : IsBinary (.binary symbol left right)

/-- One of the four operators. -/
def IsSymbol (symbol : String) : Prop := symbol ∈ ["+", "-", "*", "/"]

instance (symbol : String) : Decidable (IsSymbol symbol) :=
  inferInstanceAs (Decidable (symbol ∈ ["+", "-", "*", "/"]))

/-- **The shape of what a rule reads.**  Numbers are natural and have at most 4300 digits; an
operator stands alone only as the whole of what `operator` reads; an operation has a leaf on its
right and a leaf or an operation on its left, and no assignment anywhere below it; assignments
are met from the root through the values of assignments alone; names consist of name characters,
and a variable that is an operand does not begin with digits that could be read as a number. -/
structure WellFormed (rule : Rule) (e : Expr) : Prop where
  number : ∀ value, .number value ∈ parts e → 0 ≤ value ∧ value < 10 ^ 4300
  operator : ∀ symbol, .operator symbol ∈ parts e →
    IsSymbol symbol ∧ rule = .operator ∧ e = .operator symbol
  binary : ∀ symbol left right, .binary symbol left right ∈ parts e →
    IsSymbol symbol ∧ (IsLeaf left ∨ IsBinary left) ∧ IsLeaf right
  below : ∀ symbol left right, .binary symbol left right ∈ parts e →
    ∀ part ∈ parts left ++ parts right, IsLeaf part ∨ IsBinary part
  assign : ∀ target value, .assign target value ∈ parts e →
    .assign target value ∈ spine e ∧ IsName target
  name : ∀ name, .name name ∈ parts e → IsName name
  operand : rule ≠ .variable → ∀ name, .name name ∈ parts e →
    name.toList.takeWhile isDigit = [] ∨ 4300 < (name.toList.takeWhile isDigit).length
  bare : .bare ∉ parts e
  term : rule = .term → ∃ symbol left right,
    e = .binary symbol left right ∧ IsLeaf left ∧ IsLeaf right
  assignment : rule = .assignment → ∃ target value, e = .assign target value

theorem isSymbol_of_isOperatorChar {c : Char} (h : isOperatorChar c = true) :
    IsSymbol (String.ofList [c]) := by
  rcases isOperatorChar_iff.mp h with rfl | rfl | rfl | rfl <;> decide

theorem natCast_lt_pow {n k : Nat} (h : n < 10 ^ k) : (n : Int) < 10 ^ k := by exact_mod_cast h

/-! ### The parts of trees -/

theorem IsOperand.isLeaf {e : Expr} (h : IsOperand e) : IsLeaf e := by
  cases h with
  | number h => exact .number _
  | name h digits => exact .name _

theorem IsOperand.parts_eq {e : Expr} (h : IsOperand e) : parts e = [e] := by
  cases h <;> rfl

theorem IsChain.isLeaf_or_isBinary {e : Expr} (h : IsChain e) : IsLeaf e ∨ IsBinary e := by
  cases h with
  | operand h => exact .inl h.isLeaf
  | binary hc hl hr => exact .inr (.intro _ _ _)

/-- Every part of a chain is a chain. -/
theorem IsChain.part {e part : Expr} (h : IsChain e) (hp : part ∈ parts e) : IsChain part := by
  induction h with
  | operand h =>
      rw [h.parts_eq, List.mem_singleton] at hp
      exact hp ▸ .operand h
  | binary hc hl hr ih =>
      rw [parts, List.mem_cons, List.mem_append, hr.parts_eq, List.mem_singleton] at hp
      rcases hp with rfl | hp | rfl
      · exact .binary hc hl hr
      · exact ih hp
      · exact .operand hr

/-- Every part of a tree is a tree. -/
theorem IsTree.part {e part : Expr} (h : IsTree e) (hp : part ∈ parts e) : IsTree part := by
  induction h with
  | chain h => exact .chain (h.part hp)
  | assign htarget hv ih =>
      rw [parts, List.mem_cons] at hp
      rcases hp with rfl | hp
      · exact .assign htarget hv
      · exact ih hp

theorem IsChain.not_assign {target : String} {value : Expr} :
    ¬ IsChain (.assign target value) := by
  intro h
  cases h with | operand h => cases h

/-- An assignment in a tree is met through the values of assignments alone. -/
theorem IsTree.mem_spine {e value : Expr} {target : String} (h : IsTree e)
    (hp : .assign target value ∈ parts e) : .assign target value ∈ spine e := by
  induction h with
  | chain h => exact absurd (h.part hp) IsChain.not_assign
  | assign htarget hv ih =>
      rw [parts, List.mem_cons] at hp
      rw [spine, List.mem_cons]
      exact hp.imp_right ih

theorem IsTree.operand_of_number {value : Int} (h : IsTree (.number value)) :
    IsOperand (.number value) := by
  cases h with | chain h => cases h with | operand h => exact h

theorem IsTree.operand_of_name {name : String} (h : IsTree (.name name)) :
    IsOperand (.name name) := by
  cases h with | chain h => cases h with | operand h => exact h

theorem IsTree.chain_of_binary {symbol : String} {left right : Expr}
    (h : IsTree (.binary symbol left right)) :
    IsSymbol symbol ∧ IsChain left ∧ IsOperand right := by
  cases h with
  | chain h =>
      cases h with
      | operand h => cases h
      | binary hc hl hr => exact ⟨isSymbol_of_isOperatorChar hc, hl, hr⟩

/-- A tree has the shape of what is read by every rule that may read it. -/
theorem IsTree.wellFormed {rule : Rule} {e : Expr} (h : IsTree e)
    (term : rule = .term → ∃ symbol left right,
      e = .binary symbol left right ∧ IsLeaf left ∧ IsLeaf right)
    (assignment : rule = .assignment → ∃ target value, e = .assign target value) :
    WellFormed rule e where
  number value hp := by
    cases (h.part hp).operand_of_number with
    | @number n hn => exact ⟨Int.natCast_nonneg n, natCast_lt_pow hn⟩
  operator symbol hp := by
    cases h.part hp with | chain h => cases h with | operand h => cases h
  binary symbol left right hp := by
    obtain ⟨hs, hl, hr⟩ := (h.part hp).chain_of_binary
    exact ⟨hs, hl.isLeaf_or_isBinary, hr.isLeaf⟩
  below symbol left right hp part hpart := by
    obtain ⟨-, hl, hr⟩ := (h.part hp).chain_of_binary
    rw [List.mem_append, hr.parts_eq, List.mem_singleton] at hpart
    rcases hpart with hpart | rfl
    · exact (hl.part hpart).isLeaf_or_isBinary
    · exact .inl hr.isLeaf
  assign target value hp := by
    refine ⟨h.mem_spine hp, ?_⟩
    cases h.part hp with
    | chain h => exact absurd h IsChain.not_assign
    | assign htarget _ => exact htarget
  name name hp := by
    cases (h.part hp).operand_of_name with | name hname _ => exact hname
  operand _ name hp := by
    cases (h.part hp).operand_of_name with | name _ digits => exact digits
  bare hp := by
    cases h.part hp with | chain h => cases h with | operand h => cases h
  term := term
  assignment := assignment

/-! ### What the rules read -/

namespace Rule

variable {text rest : List Char} {e : Expr}

/-- A variable is a leaf of its own, whose name may begin with any digits. -/
theorem wellFormed_name {name : String} (h : IsName name) :
    WellFormed .variable (.name name) where
  number _ hp := nomatch List.mem_singleton.mp hp
  operator _ hp := nomatch List.mem_singleton.mp hp
  binary _ _ _ hp := nomatch List.mem_singleton.mp hp
  below _ _ _ hp := nomatch List.mem_singleton.mp hp
  assign _ _ hp := nomatch List.mem_singleton.mp hp
  name _ hp := by cases List.mem_singleton.mp hp; exact h
  operand hrule := absurd rfl hrule
  bare hp := nomatch List.mem_singleton.mp hp
  term := nofun
  assignment := nofun

/-- An operator that stands alone. -/
theorem wellFormed_operator {symbol : String} (h : IsSymbol symbol) :
    WellFormed .operator (.operator symbol) where
  number _ hp := nomatch List.mem_singleton.mp hp
  operator _ hp := by cases List.mem_singleton.mp hp; exact ⟨h, rfl, rfl⟩
  binary _ _ _ hp := nomatch List.mem_singleton.mp hp
  below _ _ _ hp := nomatch List.mem_singleton.mp hp
  assign _ _ hp := nomatch List.mem_singleton.mp hp
  name _ hp := nomatch List.mem_singleton.mp hp
  operand _ _ hp := nomatch List.mem_singleton.mp hp
  bare hp := nomatch List.mem_singleton.mp hp
  term := nofun
  assignment := nofun

theorem wellFormed_of_reads {rule : Rule} (h : Reads rule e rest) : WellFormed rule e := by
  cases h with
  | number h _ => exact (IsTree.chain (.operand h)).wellFormed nofun nofun
  | «variable» h _ => exact wellFormed_name h
  | operator h => exact wellFormed_operator (isSymbol_of_isOperatorChar h)
  | factor h _ => exact (IsTree.chain (.operand h)).wellFormed nofun nofun
  | term h hleft hright _ =>
      refine (IsTree.chain (.binary h (.operand hleft) hright)).wellFormed (fun _ => ?_) nofun
      exact ⟨_, _, _, rfl, hleft.isLeaf, hright.isLeaf⟩
  | assignment h hv _ => exact (IsTree.assign h hv).wellFormed nofun fun _ => ⟨_, _, rfl⟩
  | expr h _ => exact h.wellFormed nofun nofun

/-- **Shape.**  Whatever a rule reads from a text is well formed. -/
theorem parse_wellFormed [Stack] {rule : Rule}
    (h : (rule.parse text).outcome = .ok (.success e rest)) :
    WellFormed rule e := by
  obtain ⟨-, front, -, -, hreads⟩ := outcome_parse_eq_success_iff_reads.mp h
  exact wellFormed_of_reads hreads

/-- Assignments to a number and to nothing, around a chain with an empty operand. -/
theorem parse_wellFormed_nested :
    (expr.parse "12==3+*y=z".toList).outcome =
      .ok (.success (.assign "12" (.assign ""
        (.binary "*" (.binary "+" (.number 3) (.name "")) (.name "y")))) "=z".toList) ∧
    WellFormed .expr (.assign "12" (.assign ""
      (.binary "*" (.binary "+" (.number 3) (.name "")) (.name "y")))) := by
  have h : (expr.parse "12==3+*y=z".toList).outcome =
      .ok (.success (.assign "12" (.assign ""
        (.binary "*" (.binary "+" (.number 3) (.name "")) (.name "y")))) "=z".toList) := by
    decide +kernel
  exact ⟨h, parse_wellFormed h⟩

end Rule

end FlatExpr
