import FlatExpr.Proofs.Grammar.Guard
import FlatExpr.Proofs.Grammar.Locality
import FlatExpr.Proofs.Progress

/-!
# Grammar — Progress

Every rule ends on every text.  A variable and a factor may read nothing, but what the grammar
repeats begins with a character that has to be there, and so does what stands in front of its
reference: an operator in front of an operand, an equals sign in front of an expression.

* `Grammar.Repeated`: what the grammar repeats, and that all of it advances.
* `Rule.parser_guarded`: the reference stands behind an equals sign.
* `Grammar.Bounded`: how often a run repeats, and how deep it refers.
* `Rule.ReadsNothing`: where a rule succeeds without reading anything.
* `Rule.run_progresses`: all this together.
-/

namespace FlatExpr
open Text

namespace Grammar

variable {ρ : Type → Type} {α : Type}

/-! ### What advances -/

theorem advances_character (c : Char) : (Parser.character c : Parser ρ Char).Advances :=
  (Reader.Consumes.satisfying _ _).advances

theorem advances_ofPrimitive (which : Primitive) :
    (Parser.ofPrimitive which : Parser ρ Char).Advances := by
  cases which <;> exact (Reader.Consumes.satisfying _ _).advances

theorem advances_nameChar : (nameChar : Parser ρ Char).Advances :=
  ⟨⟨advances_ofPrimitive _, advances_ofPrimitive _⟩, advances_ofPrimitive _⟩

theorem advances_operator : (operator : Parser ρ Expr).Advances :=
  ⟨⟨⟨advances_ofPrimitive _, advances_ofPrimitive _⟩, advances_ofPrimitive _⟩,
    advances_ofPrimitive _⟩

/-- The operator has to be there; the operand may be empty. -/
theorem advances_operation : (operation : Parser ρ (Expr × Expr)).Advances := .inl advances_operator

/-- The operand in front may be empty, the operation behind it may not. -/
theorem advances_term : (term : Parser ρ Expr).Advances := .inr advances_operation

/-- The equals sign has to be there; the name in front of it may be empty. -/
theorem advances_target :
    ((word : Parser ρ String).seq (Parser.character '=')).Advances := .inr (advances_character '=')

theorem advances_assignment (self : ρ Expr) : (assignment self).Advances := .inl advances_target

/-! ### What is repeated, and what is referred to -/

/-- What the grammar repeats: the characters of a name, and the operations behind a term. -/
inductive Repeated : (α : Type) → Parser ρ α → Prop where
  | nameChar : Repeated Char nameChar
  | operation : Repeated (Expr × Expr) operation

namespace Repeated

variable {body : Parser ρ α}

theorem advances (h : Repeated α body) : body.Advances := by
  cases h with
  | nameChar => exact advances_nameChar
  | operation => exact advances_operation

theorem leavesSuffix (h : Repeated α body) : body.LeavesSuffix := by
  cases h with
  | nameChar =>
      exact ⟨⟨leavesSuffix_ofPrimitive _, leavesSuffix_ofPrimitive _⟩, leavesSuffix_ofPrimitive _⟩
  | operation => exact leavesSuffix_operation

end Repeated

section Guarded

variable (before : Prop)

theorem guarded_word : (word : Parser ρ String).Guarded Repeated before :=
  ⟨.nameChar, ⟨trivial, trivial⟩, trivial⟩

theorem guarded_operator : (operator : Parser ρ Expr).Guarded Repeated before :=
  ⟨⟨⟨trivial, trivial⟩, trivial⟩, trivial⟩

theorem guarded_factor : (factor : Parser ρ Expr).Guarded Repeated before :=
  ⟨trivial, guarded_word before⟩

theorem guarded_operation : (operation : Parser ρ (Expr × Expr)).Guarded Repeated before :=
  ⟨guarded_operator before, guarded_factor _⟩

theorem guarded_term : (term : Parser ρ Expr).Guarded Repeated before :=
  ⟨guarded_factor before, guarded_operation _⟩

theorem guarded_assignment (self : ρ Expr) : (assignment self).Guarded Repeated before :=
  ⟨⟨guarded_word before, trivial⟩, .inr advances_target⟩

theorem guarded_expr (self : ρ Expr) : (expr self).Guarded Repeated before :=
  ⟨⟨⟨guarded_term before, .operation, guarded_operation _⟩, guarded_assignment before self⟩,
    guarded_factor before⟩

end Guarded

theorem guarded_resolve : resolve.Guarded Repeated := by
  intro α target p h
  cases target
  cases h
  exact guarded_expr False _

/-! ### What a run may cost -/

/-- No loop makes more attempts than the text has characters, expressions inside an assignment start
on less than the assignment, and they are nested at most as deep as the text has characters. -/
structure Bounded (name : (α : Type) → Self α → String) (call : Call) : Prop where
  /-- The attempts of each loop, the one that fails among them. -/
  loops : ∀ loop : Call, loop.Inside call → ∀ (α : Type) (body : Parser Self α), Repeated α body →
    ∀ depth place ended, Parser.Runs resolve name depth place (.many body) loop ended →
      loop.inner.length ≤ call.text.length
  /-- The texts on which an assignment has expressions built and started. -/
  assignments : ∀ whole : Call, whole.Inside call →
    ∀ depth place ended, Parser.Runs resolve name depth place (assignment .expr) whole ended →
      ∀ part : Call, part.Inside whole → part.built.isSome = true →
        part.text.length < whole.text.length
  /-- The expressions one inside the other, but for the outermost that nothing refers to. -/
  levels : call.levels ≤ call.text.length

variable {name : (α : Type) → Self α → String} {depth : Nat} {id : String} {call : Call}

theorem descends_of_runs {p : Parser Self α} {outcome : Except Stop (Result α)}
    (hp : p.LeavesSuffix) (hg : p.Guarded Repeated False)
    (h : Parser.Runs resolve name depth id p call outcome) : call.Descends call.text.length :=
  h.descends leavesSuffix_resolve guarded_resolve hp hg le_rfl False.elim

/-- **Bounds.**  Every run of a guarded parser of the grammar is bounded. -/
theorem bounded_of_runs {p : Parser Self α} {outcome : Except Stop (Result α)}
    (hp : p.LeavesSuffix) (hg : p.Guarded Repeated False)
    (h : Parser.Runs resolve name depth id p call outcome) : Bounded name call where
  loops loop hloop β body hbody depth place ended hrun := by
    have hleaves : (Parser.many body).LeavesSuffix := hbody.leavesSuffix
    have hadv : (Parser.many body).RepeatsAdvancing := hbody.advances
    -- the loop starts on what is left of the text, so its bound is below the one for the whole
    exact (hrun.length_inner_le leavesSuffix_resolve hleaves hadv).trans
      (h.suffix_of_inside leavesSuffix_resolve hp hloop).length_le
  assignments whole _ depth place ended hrun part hpart hbuilt :=
    (descends_of_runs (leavesSuffix_assignment _) (guarded_assignment False _)
      hrun).length_lt_of_inside hpart hbuilt
  levels := (descends_of_runs hp hg h).levels_le

end Grammar

namespace Rule

variable {rule : Rule} {text rest : List Char} {e : Expr}

/-! ### Where nothing is read -/

/-- The rule succeeds on the text, guarded or with references followed to some limit. -/
def Yields [Stack] (rule : Rule) (text : List Char) (e : Expr) (rest : List Char) : Prop :=
  (rule.parse text).outcome = .ok (.success e rest) ∨
    ∃ limit, (rule.readWithin limit text).outcome = .ok (.success e rest)

theorem Yields.exists_readWithin [Stack] (h : rule.Yields text e rest) :
    ∃ limit, (rule.readWithin limit text).outcome = .ok (.success e rest) := by
  rcases h with h | h
  · obtain ⟨hdepth, hanswer⟩ := outcome_parse_eq_success_iff.mp h
    refine ⟨Stack.room rule text, ?_⟩
    rw [outcome_readWithin, if_pos hdepth, hanswer]
  · exact h

theorem Yields.answer_eq [Stack] (h : rule.Yields text e rest) :
    rule.answer text = .success e rest := by
  obtain ⟨limit, h⟩ := h.exists_readWithin
  rw [outcome_readWithin] at h
  split at h
  · exact Except.ok.inj h
  · cases h

/-- A text on which a rule succeeds without reading anything. -/
inductive ReadsNothing : Rule → List Char → Prop where
  | variable {text : List Char} (h : StopsAt isNameChar text) : ReadsNothing .variable text
  | factor {text : List Char} (h : StopsAt isNameChar text) : ReadsNothing .factor text
  | expr {text : List Char} (h : Apart text) : ReadsNothing .expr text

/-- An operand that is spelled by nothing at all is a name. -/
theorem exists_name_of_spells_nil (h : IsOperand e) (hs : Spells e []) :
    ∃ name, e = .name name := by
  cases h with
  | name => exact ⟨_, rfl⟩
  | number =>
      cases hs with
      | number hne => exact absurd rfl hne

/-- Where a rule reads an expression that is spelled by nothing, it reads nothing. -/
theorem readsNothing_of_reads (h : Reads rule e text) (hs : Spells e []) :
    rule.ReadsNothing text := by
  -- the spelling is a variable while the cases of what spells it are taken
  generalize hnil : ([] : List Char) = front at hs
  cases h with
  | number => cases hs with | number hne => exact absurd hnil.symm hne
  | «variable» _ hr => exact .variable hr
  | operator => cases hs; simp at hnil
  | factor h hr =>
      obtain ⟨name, rfl⟩ := exists_name_of_spells_nil h (hnil ▸ hs)
      exact .factor hr
  | term => cases hs; simp at hnil
  | assignment => cases hs; simp at hnil
  | expr h hr =>
      cases h with
      | assign => cases hs; simp at hnil
      | chain h =>
          cases h with
          | binary => cases hs; simp at hnil
          | operand h =>
              obtain ⟨name, rfl⟩ := exists_name_of_spells_nil h (hnil ▸ hs)
              exact .expr (.of_stopsAt hr.1 hr.2.1 hr.2.2)

/-- Where it reads nothing it reads a name without characters. -/
theorem ReadsNothing.reads (h : rule.ReadsNothing text) : Reads rule (.name "") text := by
  have hname : IsName "" := by decide
  have operand : IsOperand (.name "") := .name hname (.inl rfl)
  cases h with
  | «variable» h => exact .variable hname h
  | factor h => exact .factor operand h
  | expr h => exact .expr (.chain (.operand operand)) (h.closes _)

/-- **Nothing read.**  All of the text is left over exactly where the rule reads nothing. -/
theorem eq_text_iff_readsNothing (h : rule.answer text = .success e rest) :
    rest = text ↔ rule.ReadsNothing text := by
  constructor
  · rintro rfl
    obtain ⟨front, htext, hs, hr⟩ := exists_spells_of_answer h
    obtain rfl : front = [] := List.self_eq_append_left.mp htext
    exact readsNothing_of_reads hr hs
  · intro hnothing
    have hanswer : rule.answer text = .success (.name "") text :=
      (answer_of_reads hnothing.reads (.name "")).1
    rw [hanswer] at h
    cases h
    rfl

/-! ### Every rule ends -/

theorem parser_guarded {ρ : Type → Type} (self : ρ Expr) (rule : Rule) :
    (rule.parser self).Guarded Grammar.Repeated False := by
  cases rule with
  | number => trivial
  | «variable» => exact Grammar.guarded_word False
  | operator => exact Grammar.guarded_operator False
  | factor => exact Grammar.guarded_factor False
  | term => exact Grammar.guarded_term False
  | assignment => exact Grammar.guarded_assignment False self
  | expr => exact Grammar.guarded_expr False self

theorem parser_advances {ρ : Type → Type} (self : ρ Expr)
    (h : rule ∈ [.number, .operator, .term, .assignment]) : (rule.parser self).Advances := by
  cases rule with
  | number => exact Reader.advances_number
  | operator => exact Grammar.advances_operator
  | term => exact Grammar.advances_term
  | assignment => exact Grammar.advances_assignment self
  | _ => simp at h

/-- References are not followed deeper than the text is long. -/
theorem outcome_readWithin_of_length_le (rule : Rule) {limit : Nat} (h : text.length ≤ limit) :
    (rule.readWithin limit text).outcome = .ok (rule.answer text) := by
  have hdepth := (depth_le_nesting rule text).trans (nesting_le_length text)
  rw [outcome_readWithin, if_pos (hdepth.trans h)]

/-- **Progress and termination.**  Where a number, an operator, a term or an assignment is read less
is left over than there was; a variable, a factor and an expression read nothing exactly where
nothing that they could begin with comes first.  What the grammar repeats, the digits of a number
included, never reads nothing, and its reference stands behind an equals sign.  So in every run,
however deep the reference is followed, no loop is run more often than there are characters, an
assignment has expressions started on shorter texts only, and with the outermost there are at most
as many of them one inside the other as there are characters and one.  Followed as deep as the text
is long, or guarded, every rule ends with a result. -/
theorem run_progresses [Stack] (rule : Rule) (text : List Char) :
    (∀ e rest, rule.Yields text e rest →
      (rule ∈ [.number, .operator, .term, .assignment] → rest.length < text.length) ∧
      (rest = text ↔ rule.ReadsNothing text)) ∧
    (rule.parser Grammar.Self.expr).Guarded Grammar.Repeated False ∧
    (∀ (α : Type) (body : Parser Grammar.Self α), Grammar.Repeated α body →
      ∀ limit, (body.read Grammar.resolve limit).Advances) ∧
    Reader.digit.Advances ∧
    (∃ steps left, Reader.Attempts Reader.digit text steps left ∧
      (Reader.digit.many text).outcome = .ok (.success (steps.map Prod.fst) left) ∧
      (Reader.attempted text steps).length ≤ text.length) ∧
    (∀ name limit id,
      let watched := (rule.parser Grammar.Self.expr).watch id
      ∃ call : Call,
        (watched.read (Resolver.watch name Grammar.resolve) limit text).history = call.events ∧
        call.text = text ∧
        Parser.Runs Grammar.resolve name limit id (rule.parser .expr) call
          (rule.readWithin limit text).outcome ∧
        Grammar.Bounded name call) ∧
    (∃ result, ∀ limit, text.length ≤ limit →
      (rule.readWithin limit text).outcome = .ok result) ∧
    ∃ result, (rule.parse text).outcome = .ok result := by
  have leaves : (rule.parser Grammar.Self.expr).LeavesSuffix := parser_leavesSuffix _ rule
  have digits : Reader.digit.Consumes := .satisfying _ _
  refine ⟨fun e rest h => ⟨fun hmem => ?_, eq_text_iff_readsNothing h.answer_eq⟩,
    parser_guarded _ rule, fun α body hbody limit => ?_, digits.advances, ?_,
    fun name limit id => ?_, ⟨_, fun _ h => outcome_readWithin_of_length_le rule h⟩,
    exists_outcome_parse rule text⟩
  · obtain ⟨limit, h⟩ := h.exists_readWithin
    exact (parser_advances _ hmem).read Grammar.leavesSuffix_resolve leaves limit h
  · exact hbody.advances.read Grammar.leavesSuffix_resolve hbody.leavesSuffix limit
  · -- an allowance of the length of the text is enough for the digits
    obtain ⟨steps, left, attempts⟩ := Reader.exists_attempts digits text
    have run := Reader.manyWithin_of_attempts digits attempts text le_rfl
    exact ⟨steps, left, attempts, congrArg Run.outcome run, attempts.length_attempted_le digits⟩
  · obtain ⟨call, history, htext, hrun⟩ :=
      Parser.exists_runs Grammar.resolve name limit id (rule.parser .expr) text
    exact ⟨call, history, htext, hrun, Grammar.bounded_of_runs leaves (parser_guarded _ rule) hrun⟩

/-- An assignment inside another one, whose name is empty, stops before a bracket; the expression
that a bracket begins with is empty. -/
theorem run_progresses_brackets :
    let text := "a==x+12)".toList
    let inner : Expr := .binary "+" (.name "x") (.number 12)
    (assignment.Yields text (.assign "a" (.assign "" inner)) ")".toList ∧
      ")".toList.length < text.length ∧ ¬ assignment.ReadsNothing text) ∧
    (expr.Yields ")".toList (.name "") ")".toList ∧ expr.ReadsNothing ")".toList) ∧
    (Grammar.Repeated (Expr × Expr) (Grammar.operation : Parser Grammar.Self (Expr × Expr)) ∧
      ((Grammar.operation.read Grammar.resolve 0) "+12)".toList).outcome =
        .ok (.success (.operator "+", .number 12) ")".toList) ∧
      ")".toList.length < "+12)".toList.length) ∧
    text.length ≤ 8 ∧ ∃ result, (assignment.readWithin 8 text).outcome = .ok result := by
  intro text inner
  have hnested : assignment.Yields text (.assign "a" (.assign "" inner)) ")".toList :=
    .inl (by decide +kernel)
  have hempty : expr.Yields ")".toList (.name "") ")".toList := .inl (by decide +kernel)
  have hoperation : (Grammar.operation.read Grammar.resolve 0 "+12)".toList).outcome =
      .ok (.success (.operator "+", .number 12) ")".toList) := by decide +kernel
  have hlength : text.length ≤ 8 := by decide
  obtain ⟨reads, -, advances, -, -, -, ⟨result, ends⟩, -⟩ := run_progresses assignment text
  obtain ⟨shorter, nothing⟩ := reads _ _ hnested
  have hempty' := ((run_progresses expr ")".toList).1 _ _ hempty).2.mp rfl
  exact ⟨⟨hnested, shorter (by decide), fun h => absurd (nothing.mpr h) (by decide)⟩,
    ⟨hempty, hempty'⟩,
    ⟨.operation, hoperation, advances _ _ .operation 0 hoperation⟩,
    hlength, result, ends 8 hlength⟩

end Rule

end FlatExpr
