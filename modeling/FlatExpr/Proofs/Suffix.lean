import FlatExpr.Blueprint
import FlatExpr.Proofs.Grammar.Reference

/-!
# Suffix — what is left over

What is left over where a text is read is a suffix of it: nothing is put back, and nothing made up.

* `Run.LeavesSuffix`: whatever is read, what is left over is a suffix of the text.  Such runs put
  one behind the other are such runs again (`Run.LeavesSuffix.bind`), and so one line is enough
  for each way in which readers are put together.
* `Parser.LeavesSuffix.read`: a parser whose leaves leave suffixes does so too, however deep its
  references are followed, if what they are resolved to does.
* `Rule.leavesSuffix_parse`: that is so for the rules of the grammar.
* `Blueprint.leavesSuffix_build`, `Blueprint.leavesSuffix_resolve`: it is so for the parser of every
  blueprint, whatever its names stand for.
-/

namespace FlatExpr

universe u

/-! ### Runs -/

namespace Run

variable {α β : Type} {text : List Char}

/-- Whatever is read, what is left over is a suffix of the text. -/
def LeavesSuffix (r : Run (Result α)) (text : List Char) : Prop :=
  ∀ ⦃value : α⦄ ⦃rest : List Char⦄, r.outcome = .ok (.success value rest) → rest <:+ text

namespace LeavesSuffix

theorem success {a : α} {rest : List Char} (h : rest <:+ text) :
    (Run.pure (.success a rest)).LeavesSuffix text := by
  intro value left heq
  cases heq
  exact h

theorem failure {why : Complaint} : (Run.pure (.failure why : Result α)).LeavesSuffix text := by
  intro value left heq
  cases heq

theorem stop {why : Stop} : (Run.stop why : Run (Result α)).LeavesSuffix text := by
  intro value left heq
  cases heq

theorem after {r : Run (Result α)} {event : Event} (h : r.LeavesSuffix text) :
    (r.after event).LeavesSuffix text := h

theorem of_suffix {r : Run (Result α)} {rest : List Char} (h : r.LeavesSuffix rest)
    (hr : rest <:+ text) : r.LeavesSuffix text :=
  fun _ _ heq => (h heq).trans hr

/-- What counts is the run that the answer leads to. -/
theorem bind {γ : Type u} {r : Run γ} {f : γ → Run (Result β)}
    (h : ∀ a, r.outcome = .ok a → (f a).LeavesSuffix text) : (r.bind f).LeavesSuffix text := by
  obtain ⟨history, outcome⟩ := r
  cases outcome with
  | error why => exact fun _ _ heq => nomatch heq
  | ok a => exact h a rfl

theorem onSuccess {r : Run (Result α)} {f : α → List Char → Run (Result β)}
    (h : r.LeavesSuffix text) (hf : ∀ a rest, rest <:+ text → (f a rest).LeavesSuffix text) :
    (r.onSuccess f).LeavesSuffix text := by
  refine .bind fun result heq => ?_
  cases result with
  | success a rest => exact hf a rest (h heq)
  | failure why => exact .failure

end LeavesSuffix

end Run

/-! ### Readers -/

namespace Reader

variable {α β : Type} {p : Reader α} {q : Reader β}

/-- On every text, what is left over is a suffix of it. -/
def LeavesSuffix (p : Reader α) : Prop := ∀ text, (p text).LeavesSuffix text

namespace LeavesSuffix

theorem satisfying (accepts : Char → Bool) (wanted : String) :
    (satisfying accepts wanted).LeavesSuffix := by
  intro text
  cases text with
  | nil => exact .failure
  | cons c rest =>
      rw [Reader.satisfying]
      split
      · exact .success (List.suffix_cons c rest)
      · exact .failure

theorem seq (hp : p.LeavesSuffix) (hq : q.LeavesSuffix) : (p.seq q).LeavesSuffix := by
  intro text
  refine (hp text).onSuccess fun a rest hrest => ?_
  refine ((hq rest).of_suffix hrest).onSuccess fun b left hleft => ?_
  exact .success hleft

theorem orElse {q : Reader α} (hp : p.LeavesSuffix) (hq : q.LeavesSuffix) :
    (p.orElse q).LeavesSuffix := by
  intro text
  refine .bind fun result heq => ?_
  cases result with
  | success a rest => exact .success (hp text heq)
  | failure why => exact hq text

theorem apply (f : α → List Note × Except Fault β) (hp : p.LeavesSuffix) :
    (p.apply f).LeavesSuffix := by
  intro text
  refine (hp text).onSuccess fun a rest hrest => ?_
  exact .bind fun b _ => .success hrest

theorem manyWithin (hp : p.LeavesSuffix) (attempts text : List Char) :
    (manyWithin p attempts text).LeavesSuffix text := by
  induction attempts generalizing text with
  | nil =>
      cases text with
      | nil => exact .success List.suffix_rfl
      | cons c text => exact .stop
  | cons _ attempts ih =>
      cases text with
      | nil => exact .success List.suffix_rfl
      | cons c text =>
          refine .bind fun result heq => ?_
          cases result with
          | failure why => exact .success List.suffix_rfl
          | success a rest =>
              -- the other attempts start on a suffix, and leave a suffix of that
              have hrest := (ih rest).of_suffix (hp _ heq)
              exact hrest.onSuccess fun more left hleft => .success hleft

theorem many (hp : p.LeavesSuffix) : p.many.LeavesSuffix := fun text => manyWithin hp text text

theorem probe (id : String) (hp : p.LeavesSuffix) : (p.probe id).LeavesSuffix := by
  intro text
  refine .after (.bind fun result heq => ?_)
  cases result with
  | success a rest => exact .after (.success (hp text heq))
  | failure why => exact .after .failure

theorem number : number.LeavesSuffix := by
  have digit : digit.LeavesSuffix := satisfying _ _
  intro text
  refine (digit.seq digit.many text).onSuccess fun (first, more) rest hrest => ?_
  cases h : Text.integer? (first :: more) with
  | some value => simp only [h]; exact .success hrest
  | none => simp only [h]; exact .failure

end LeavesSuffix

end Reader

/-! ### Parsers -/

namespace Parser

variable {ρ : Type → Type} {α : Type}

/-- Every leaf leaves a suffix of its text. -/
def LeavesSuffix : {α : Type} → Parser ρ α → Prop
  | _, .leaf _ reader => reader.LeavesSuffix
  | _, .seq p q => p.LeavesSuffix ∧ q.LeavesSuffix
  | _, .orElse p q => p.LeavesSuffix ∧ q.LeavesSuffix
  | _, .apply _ p => p.LeavesSuffix
  | _, .many p => p.LeavesSuffix
  | _, .probe _ p => p.LeavesSuffix
  | _, .later _ => True

end Parser

/-- Every leaf of what a reference is resolved to leaves a suffix of its text. -/
def Resolver.LeavesSuffix {ρ : Type → Type} (resolve : Resolver ρ) : Prop :=
  ∀ ⦃α : Type⦄ ⦃target : ρ α⦄ ⦃p : Parser ρ α⦄, (resolve α target).2 = .ok p → p.LeavesSuffix

namespace Parser.LeavesSuffix

variable {ρ : Type → Type} {α : Type} {p : Parser ρ α}

/-- One level: what reads for the references leaves suffixes. -/
theorem readWith {call : (α : Type) → ρ α → Reader α}
    (hcall : ∀ α target, (call α target).LeavesSuffix) (h : p.LeavesSuffix) :
    (p.readWith call).LeavesSuffix := by
  induction p with
  | leaf _ reader => exact h
  | seq p q ihp ihq => exact (ihp h.1).seq (ihq h.2)
  | orElse p q ihp ihq => exact (ihp h.1).orElse (ihq h.2)
  | apply f p ih => exact (ih h).apply f
  | many p ih => exact (ih h).many
  | probe id p ih => exact (ih h).probe id
  | later target => exact hcall _ target

theorem of_build {resolve : Resolver ρ} (hresolve : resolve.LeavesSuffix) {target : ρ α}
    (h : (resolve.build target).outcome = .ok p) : p.LeavesSuffix := by
  have h : (Run.ofExcept (resolve α target).2).outcome = .ok p := h
  cases hq : (resolve α target).2 with
  | error cause =>
      rw [hq] at h
      cases h
  | ok q =>
      rw [hq] at h
      cases h
      exact hresolve hq

/-- **Parsers.**  A parser whose leaves leave suffixes leaves suffixes, however deep its references
are followed. -/
theorem read {resolve : Resolver ρ} (hresolve : resolve.LeavesSuffix) (depth : Nat)
    (h : p.LeavesSuffix) : (p.read resolve depth).LeavesSuffix := by
  induction depth generalizing α with
  | zero => exact h.readWith fun _ _ _ => .stop
  | succ depth ih =>
      refine h.readWith fun β target text => .bind fun q hq => ?_
      exact ih (of_build hresolve hq) text

end Parser.LeavesSuffix

/-! ### The grammar -/

namespace Grammar

variable {ρ : Type → Type}

theorem leavesSuffix_character (c : Char) :
    (Parser.character c : Parser ρ Char).LeavesSuffix := .satisfying _ _

theorem leavesSuffix_of_characterOf {text : List Char} {p : Parser ρ Char}
    (h : Parser.characterOf text = .ok p) : p.LeavesSuffix := by
  unfold Parser.characterOf at h
  split at h
  · cases h
    exact leavesSuffix_character _
  · cases h

theorem leavesSuffix_ofPrimitive (which : Primitive) :
    (Parser.ofPrimitive which : Parser ρ Char).LeavesSuffix := by
  cases which <;> exact .satisfying _ _

theorem leavesSuffix_word : (word : Parser ρ String).LeavesSuffix :=
  ⟨⟨leavesSuffix_ofPrimitive _, leavesSuffix_ofPrimitive _⟩, leavesSuffix_ofPrimitive _⟩

theorem leavesSuffix_operator : (operator : Parser ρ Expr).LeavesSuffix :=
  ⟨⟨⟨leavesSuffix_ofPrimitive _, leavesSuffix_ofPrimitive _⟩, leavesSuffix_ofPrimitive _⟩,
    leavesSuffix_ofPrimitive _⟩

theorem leavesSuffix_factor : (factor : Parser ρ Expr).LeavesSuffix := ⟨.number, leavesSuffix_word⟩

theorem leavesSuffix_operation : (operation : Parser ρ (Expr × Expr)).LeavesSuffix :=
  ⟨leavesSuffix_operator, leavesSuffix_factor⟩

theorem leavesSuffix_term : (term : Parser ρ Expr).LeavesSuffix :=
  ⟨leavesSuffix_factor, leavesSuffix_operation⟩

theorem leavesSuffix_assignment (self : ρ Expr) : (assignment self).LeavesSuffix :=
  ⟨⟨leavesSuffix_word, leavesSuffix_character _⟩, trivial⟩

theorem leavesSuffix_expr (self : ρ Expr) : (expr self).LeavesSuffix :=
  ⟨⟨⟨leavesSuffix_term, leavesSuffix_operation⟩, leavesSuffix_assignment self⟩,
    leavesSuffix_factor⟩

theorem leavesSuffix_resolve : resolve.LeavesSuffix := by
  intro α target p h
  cases target
  cases h
  exact leavesSuffix_expr _

end Grammar

namespace Rule

theorem parser_leavesSuffix {ρ : Type → Type} (self : ρ Expr) (rule : Rule) :
    (rule.parser self).LeavesSuffix := by
  cases rule with
  | number => exact .number
  | «variable» => exact Grammar.leavesSuffix_word
  | operator => exact Grammar.leavesSuffix_operator
  | factor => exact Grammar.leavesSuffix_factor
  | term => exact Grammar.leavesSuffix_term
  | assignment => exact Grammar.leavesSuffix_assignment self
  | expr => exact Grammar.leavesSuffix_expr self

/-- **Rules.**  A rule leaves a suffix of every text; the guard changes no success. -/
theorem leavesSuffix_parse [Stack] (rule : Rule) (text : List Char) :
    (rule.parse text).LeavesSuffix text := by
  intro value rest h
  obtain ⟨hdepth, hanswer⟩ := outcome_parse_eq_success_iff.mp h
  have hread : (rule.read text).outcome = .ok (.success value rest) := by
    rw [outcome_read, if_pos hdepth, hanswer]
  exact (parser_leavesSuffix _ rule).read Grammar.leavesSuffix_resolve _ text hread

end Rule

/-! ### Blueprints -/

namespace Reader.LeavesSuffix

theorem oneOf (chars : List Char) (label : String) : (oneOf chars label).LeavesSuffix := by
  intro text
  cases text with
  | nil => exact .failure
  | cons c rest =>
      rw [Reader.oneOf]
      split
      · exact .success (List.suffix_cons c rest)
      · exact .failure

theorem take (count : Nat) : (take count).LeavesSuffix := by
  intro text
  rw [Reader.take]
  split
  · exact .success (List.drop_suffix count text)
  · exact .failure

theorem nothing {α : Type} (value : α) : (nothing value).LeavesSuffix :=
  fun _ => .success List.suffix_rfl

theorem fail {α : Type} (message : String) : (fail message : Reader α).LeavesSuffix :=
  fun _ => .failure

theorem explode {α : Type} : (explode : Reader α).LeavesSuffix := fun _ => .stop

end Reader.LeavesSuffix

/-- A changed answer is the change of an answer. -/
theorem exists_of_map_eq_ok {ε : Type u} {α β : Type*} {r : Except ε α} {f : α → β} {b : β}
    (h : r.map f = .ok b) : ∃ a, r = .ok a ∧ f a = b := by
  cases r with
  | error why => cases h
  | ok a => exact ⟨a, rfl, Except.ok.inj h⟩

namespace Blueprint

/-- Whatever is built has only leaves that leave suffixes. -/
theorem leavesSuffix_build {blueprint : Blueprint} {p : Parser Link Value}
    (h : blueprint.build = .ok p) : p.LeavesSuffix := by
  induction blueprint generalizing p with
  | character text =>
      obtain ⟨q, hq, rfl⟩ := exists_of_map_eq_ok h
      exact (Grammar.leavesSuffix_of_characterOf hq : q.LeavesSuffix)
  | primitive which => cases h; exact Grammar.leavesSuffix_ofPrimitive which
  | rule name =>
      rw [build] at h
      split at h
      · cases h
        exact Rule.parser_leavesSuffix _ _
      · cases h
  | oneOf chars label => cases h; exact .oneOf chars label
  | take count => cases h; exact .take count
  | pure value => cases h; exact .nothing _
  | fail message => cases h; exact .fail message
  | explode => cases h; exact .explode
  | notRunnable found => cases h
  | probe id of ih | map change of ih | many of ih =>
      obtain ⟨q, hq, rfl⟩ := exists_of_map_eq_ok h
      exact (ih hq : q.LeavesSuffix)
  | seq a b iha ihb | orElse a b iha ihb =>
      rw [build] at h
      cases ha : a.build with
      | error cause => rw [ha] at h; cases h
      | ok q =>
          cases hb : b.build with
          | error cause => rw [ha, hb] at h; cases h
          | ok r =>
              rw [ha, hb] at h
              cases h
              exact ⟨iha ha, ihb hb⟩
  | later id of | named name => cases h; trivial

/-- **Blueprints.**  Whatever the names in a blueprint stand for, and however they refer to one
another, they stand for parsers whose leaves leave suffixes. -/
theorem leavesSuffix_resolve (definitions : Definitions) :
    (resolve definitions).LeavesSuffix := by
  intro α target p h
  cases target with
  | expr => cases h; exact Grammar.leavesSuffix_expr _
  | later id of => exact leavesSuffix_build h
  | named name =>
      simp only [resolve] at h
      split at h
      · exact leavesSuffix_build h
      · cases h

end Blueprint

end FlatExpr
