import FlatExpr.Blueprint
import FlatExpr.Proofs.Alike

/-!
# Algebra — parsers put together another way

The laws of sequence, ordered choice and changes of the value.  All but one of them leave whole runs
as they are, history and answer; where a sequence is distributed over a choice its first part may be
run twice, and only the answers stay the same.

* `Reader.seq_seq`, `Reader.orElse_orElse`, and the laws for changed values: equations of readers.
* `Reader.alike_seq_orElse`: a sequence distributed over the choice behind it.  A choice in front of
  a sequence cannot be distributed: it is settled before what comes behind is read.
* `Parser.Regrouping`: the six laws, as a law of rewriting.
* `Parser.regrouping_laws`: the laws for parsers, and that grammars which differ by any number of
  them, anywhere, answer alike.
-/

namespace FlatExpr

/-! ### Readers -/

namespace Reader

variable {α β γ δ : Type}

/-- A pair of a pair and a third value, the other way round. -/
def regroup : (α × β) × γ → α × β × γ := fun ((a, b), c) => (a, b, c)

/-- The reader with its value changed by a function that never refuses. -/
def map (f : α → β) (p : Reader α) : Reader β := p.apply fun a => ([], .ok (f a))

theorem map_eq (f : α → β) (p : Reader α) (text : List Char) :
    p.map f text = (p text).onSuccess fun a rest => .pure (.success (f a) rest) := rfl

/-- **Choices** among three readers, from the left or from the right. -/
theorem orElse_orElse (p q r : Reader α) : (p.orElse q).orElse r = p.orElse (q.orElse r) := by
  funext text
  exact Run.onFailure_onFailure _ _ _

/-- **Sequences** of three readers, from the left or from the right. -/
theorem seq_seq (p : Reader α) (q : Reader β) (r : Reader γ) :
    ((p.seq q).seq r).map regroup = p.seq (q.seq r) := by
  funext text
  simp only [map_eq, seq, Run.onSuccess_onSuccess, Run.onSuccess_pure_success]
  rfl

/-- A value is changed in either alternative, also by a function that refuses. -/
theorem apply_orElse (f : α → List Note × Except Fault β) (p q : Reader α) :
    (p.orElse q).apply f = (p.apply f).orElse (q.apply f) := by
  funext text
  simp only [apply, orElse, Run.onSuccess, Run.onFailure, Run.bind_assoc]
  congr 1
  funext result
  cases result with
  | success a rest =>
      -- what is changed or refused here is no failure, so the second alternative stays out
      simp [Run.bind_assoc]
  | failure why => simp

theorem seq_map (f : α → γ) (g : β → δ) (p : Reader α) (q : Reader β) :
    (p.map f).seq (q.map g) = (p.seq q).map (Prod.map f g) := by
  funext text
  simp only [map_eq, seq, Run.onSuccess_onSuccess, Run.onSuccess_pure_success]
  rfl

theorem map_map (f : α → β) (g : β → γ) (p : Reader α) : (p.map f).map g = p.map (g ∘ f) := by
  funext text
  simp only [map_eq, Run.onSuccess_onSuccess, Run.onSuccess_pure_success]
  rfl

section Distribution

variable {p : Reader α} {text rest : List Char} {a : α}

/-- Behind a success, a sequence is its second part with the value in front. -/
theorem outcome_seq_of_success (h : (p text).outcome = .ok (.success a rest)) (q : Reader β) :
    (p.seq q text).outcome = (q.map (Prod.mk a) rest).outcome := by
  rw [seq, Run.onSuccess_of_success h, map_eq]

theorem outcome_seq_of_failure {why : Complaint} (h : (p text).outcome = .ok (.failure why))
    (q : Reader β) : (p.seq q text).outcome = .ok (.failure why) := by
  rw [seq, Run.onSuccess_of_failure h]

theorem outcome_seq_of_error {why : Stop} (h : (p text).outcome = .error why) (q : Reader β) :
    (p.seq q text).outcome = .error why := by
  simp only [seq, Run.onSuccess, Run.bind, h]

/-- **Distribution.**  If `q` fails, `p` has succeeded: it succeeds again, and `r` is given the same
text.  If `p` fails, it fails once more, in the same way. -/
theorem alike_seq_orElse (p : Reader α) (q r : Reader β) :
    (p.seq (q.orElse r)).Alike ((p.seq q).orElse (p.seq r)) := by
  intro text
  cases hp : (p text).outcome with
  | error why => simp only [outcome_seq_of_error hp, orElse, Run.onFailure, Run.bind]
  | ok first =>
      cases first with
      | failure why =>
          rw [outcome_seq_of_failure hp, orElse,
            Run.onFailure_of_failure (outcome_seq_of_failure hp q), outcome_seq_of_failure hp]
      | success a rest =>
          calc (p.seq (q.orElse r) text).outcome
              = ((q.orElse r).map (Prod.mk a) rest).outcome := outcome_seq_of_success hp _
            _ = ((q.map (Prod.mk a)).orElse (r.map (Prod.mk a)) rest).outcome := by
                rw [map, apply_orElse]; rfl
            _ = ((p.seq q).orElse (p.seq r) text).outcome :=
                Run.outcome_onFailure_congr (outcome_seq_of_success hp q).symm fun _ =>
                  (outcome_seq_of_success hp r).symm

end Distribution

/-- A choice in front of a sequence is settled by its first alternative alone. -/
example : let a := satisfying (· == 'a') "a"
    (((a.orElse (nothing 'b')).seq a) ['a']).outcome ≠
      (((a.seq a).orElse ((nothing 'b').seq a)) ['a']).outcome := by decide

end Reader

/-! ### Parsers -/

namespace Parser

variable {ρ : Type → Type}

/-- The laws, as what a parser may be replaced by. -/
inductive Regrouping : Law ρ where
  | choices {α : Type} (p q r : Parser ρ α) :
      Regrouping α ((p.orElse q).orElse r) (p.orElse (q.orElse r))
  | sequences {α β γ : Type} (p : Parser ρ α) (q : Parser ρ β) (r : Parser ρ γ) :
      Regrouping (α × β × γ) (((p.seq q).seq r).map Reader.regroup) (p.seq (q.seq r))
  | distributed {α β : Type} (p : Parser ρ α) (q r : Parser ρ β) :
      Regrouping (α × β) (p.seq (q.orElse r)) ((p.seq q).orElse (p.seq r))
  | eitherChanged {α β : Type} (f : α → β) (p q : Parser ρ α) :
      Regrouping β ((p.orElse q).map f) ((p.map f).orElse (q.map f))
  | bothChanged {α β γ δ : Type} (f : α → γ) (g : β → δ) (p : Parser ρ α) (q : Parser ρ β) :
      Regrouping (γ × δ) ((p.map f).seq (q.map g)) ((p.seq q).map (Prod.map f g))
  | changedTwice {α β γ : Type} (f : α → β) (g : β → γ) (p : Parser ρ α) :
      Regrouping γ ((p.map f).map g) (p.map (g ∘ f))

/-- Each law relates parsers that are alike. -/
theorem Regrouping.sound : Law.Sound (Regrouping : Law ρ) := by
  intro call α p q h
  cases h with
  | choices p q r => exact .of_eq (Reader.orElse_orElse _ _ _)
  | sequences p q r => exact .of_eq (Reader.seq_seq _ _ _)
  | distributed p q r => exact Reader.alike_seq_orElse _ _ _
  | eitherChanged f p q => exact .of_eq (Reader.apply_orElse _ _ _)
  | bothChanged f g p q => exact .of_eq (Reader.seq_map f g _ _)
  | changedTwice f g p => exact .of_eq (Reader.map_map f g _)

/-- **Regrouping.**  Choices and sequences can be grouped in either way, and a change of the value
can be made in both alternatives, in both parts or in one step, without any difference in what is
noticed or answered.  A sequence can be distributed over the choice behind it with the same answer.
So parsers that differ by these laws, anywhere in them and in what their references stand for,
answer alike, however deep references are followed. -/
theorem regrouping_laws (resolve : Resolver ρ) (depth : Nat) :
    (∀ {α : Type} (p q r : Parser ρ α),
      ((p.orElse q).orElse r).read resolve depth = (p.orElse (q.orElse r)).read resolve depth) ∧
    (∀ {α β γ : Type} (p : Parser ρ α) (q : Parser ρ β) (r : Parser ρ γ),
      (((p.seq q).seq r).map fun ((a, b), c) => (a, (b, c))).read resolve depth =
        (p.seq (q.seq r)).read resolve depth) ∧
    (∀ {α β : Type} (p : Parser ρ α) (q r : Parser ρ β) (text : List Char),
      ((p.seq (q.orElse r)).read resolve depth text).outcome =
        (((p.seq q).orElse (p.seq r)).read resolve depth text).outcome) ∧
    (∀ {α β : Type} (f : α → β) (p q : Parser ρ α),
      ((p.orElse q).map f).read resolve depth = ((p.map f).orElse (q.map f)).read resolve depth) ∧
    (∀ {α β γ δ : Type} (f : α → γ) (g : β → δ) (p : Parser ρ α) (q : Parser ρ β),
      ((p.map f).seq (q.map g)).read resolve depth =
        ((p.seq q).map fun (a, b) => (f a, g b)).read resolve depth) ∧
    (∀ {α β γ : Type} (f : α → β) (g : β → γ) (p : Parser ρ α),
      ((p.map f).map g).read resolve depth = (p.map fun a => g (f a)).read resolve depth) ∧
    ∀ other : Resolver ρ, Resolver.Rewritten Regrouping resolve other →
      ∀ {α : Type} {p q : Parser ρ α}, Rewritten Regrouping p q → ∀ text,
        (p.read resolve depth text).outcome = (q.read other depth text).outcome := by
  obtain ⟨call, hcall⟩ := exists_read_eq_readWith resolve depth
  simp only [hcall]
  refine ⟨fun p q r => ?_, fun p q r => ?_, fun p q r => ?_, fun f p q => ?_, fun f g p q => ?_,
    fun f g p => ?_, fun other hother α p q h => ?_⟩
  · exact Reader.orElse_orElse _ _ _
  · exact Reader.seq_seq _ _ _
  · exact Reader.alike_seq_orElse _ _ _
  · exact Reader.apply_orElse _ _ _
  · exact Reader.seq_map f g _ _
  · exact Reader.map_map f g _
  · rw [← hcall]
    exact h.read Regrouping.sound hother depth

end Parser

namespace Grammar

variable {ρ : Type → Type}

/-- A chain whose operations are told apart by their operand before the operator is read. -/
def regroupedChain : Parser ρ Expr :=
  (term.seq ((operator.seq number).orElse (operator.seq name)).many).apply fold

/-- An expression with such chains, and its alternatives grouped from the right. -/
def regrouped (self : ρ Expr) : Parser ρ Expr :=
  regroupedChain.orElse ((assignment self).orElse factor)

/-- The reference of the grammar, where it stands for a regrouped expression. -/
def resolveRegrouped : Resolver Self
  | _, .expr => (none, .ok (regrouped .expr))

/-- The regrouped grammar reads chains inside assignments as the grammar does. -/
theorem regrouping_laws_nested :
    let text := "x=y=1+2*z=3".toList
    Parser.Rewritten Parser.Regrouping (expr Self.expr) (regrouped .expr) ∧
      Resolver.Rewritten Parser.Regrouping resolve resolveRegrouped ∧
      ((expr .expr).read resolve 2 text).outcome =
        ((regrouped .expr).read resolveRegrouped 2 text).outcome ∧
      ((regrouped .expr).read resolveRegrouped 2 text).outcome =
        .ok (.success (.assign "x" (.assign "y"
          (.binary "*" (.binary "+" (.number 1) (.number 2)) (.name "z")))) "=3".toList) := by
  intro text
  have chains : Parser.Rewritten Parser.Regrouping chain (regroupedChain : Parser Self Expr) :=
    .apply fold (.seq (.refl term) (.many (.of (.distributed operator number name))))
  have rewritten : Parser.Rewritten Parser.Regrouping (expr Self.expr) (regrouped .expr) :=
    .trans (.of (.choices _ _ _)) (.orElse chains (.refl _))
  have resolved : Resolver.Rewritten Parser.Regrouping resolve resolveRegrouped := by
    rintro α ⟨⟩
    exact .inr ⟨_, _, rfl, rfl, rewritten⟩
  obtain ⟨-, -, -, -, -, -, agree⟩ := Parser.regrouping_laws resolve 2
  exact ⟨rewritten, resolved, agree _ resolved rewritten text, by decide +kernel⟩

end Grammar

end FlatExpr
