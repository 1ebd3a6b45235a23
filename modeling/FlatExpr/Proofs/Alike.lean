import FlatExpr.Proofs.Reader

/-!
# Alike — readers that answer alike

Two readers are alike if on every text they end in the same way, whatever is noticed meanwhile.
What is assembled from readers that are alike is alike: nothing depends on how a part came by its
answer.

* `Reader.Alike`, with one line for each way in which readers are put together.
* `Parser.Rewritten`: one parser is the other, with parts of it replaced by others as a law allows,
  as often as one likes and in both directions.
* `Parser.Rewritten.read`: if a law relates only parsers that are alike, so are parsers rewritten by
  it, with what their references stand for rewritten as well.
-/

namespace FlatExpr

universe u v

/-! ### Runs -/

namespace Run

variable {α β : Type}

theorem outcome_bind_congr {α : Type u} {β : Type v} {r s : Run α} {f g : α → Run β}
    (h : r.outcome = s.outcome) (hf : ∀ a, (f a).outcome = (g a).outcome) :
    (r.bind f).outcome = (s.bind g).outcome := by
  obtain ⟨history, outcome⟩ := r
  obtain ⟨others, outcome'⟩ := s
  obtain rfl : outcome = outcome' := h
  cases outcome with
  | error why => rfl
  | ok a => exact hf a

theorem outcome_onSuccess_congr {r s : Run (Result α)} {f g : α → List Char → Run (Result β)}
    (h : r.outcome = s.outcome) (hf : ∀ a rest, (f a rest).outcome = (g a rest).outcome) :
    (r.onSuccess f).outcome = (s.onSuccess g).outcome := by
  refine outcome_bind_congr h fun result => ?_
  cases result with
  | success a rest => exact hf a rest
  | failure why => rfl

theorem outcome_onFailure_congr {r s : Run (Result α)} {f g : Complaint → Run (Result α)}
    (h : r.outcome = s.outcome) (hf : ∀ why, (f why).outcome = (g why).outcome) :
    (r.onFailure f).outcome = (s.onFailure g).outcome := by
  refine outcome_bind_congr h fun result => ?_
  cases result with
  | success a rest => rfl
  | failure why => exact hf why

end Run

/-! ### Readers -/

namespace Reader

variable {α β : Type} {p p' : Reader α} {q q' : Reader β}

/-- On every text the readers end in the same way. -/
def Alike (p q : Reader α) : Prop := ∀ text, (p text).outcome = (q text).outcome

namespace Alike

theorem of_eq {q : Reader α} (h : p = q) : p.Alike q := fun text => by rw [h]

theorem refl (p : Reader α) : p.Alike p := .of_eq rfl

theorem symm {q : Reader α} (h : p.Alike q) : q.Alike p := fun text => (h text).symm

theorem trans {q r : Reader α} (h : p.Alike q) (h' : q.Alike r) : p.Alike r :=
  fun text => (h text).trans (h' text)

theorem seq (hp : p.Alike p') (hq : q.Alike q') : (p.seq q).Alike (p'.seq q') := fun text =>
  Run.outcome_onSuccess_congr (hp text) fun _ rest =>
    Run.outcome_onSuccess_congr (hq rest) fun _ _ => rfl

theorem orElse {q q' : Reader α} (hp : p.Alike p') (hq : q.Alike q') :
    (p.orElse q).Alike (p'.orElse q') := fun text =>
  Run.outcome_onFailure_congr (hp text) fun _ => hq text

theorem apply (f : α → List Note × Except Fault β) (hp : p.Alike p') :
    (p.apply f).Alike (p'.apply f) := fun text =>
  Run.outcome_onSuccess_congr (hp text) fun _ _ => rfl

theorem manyWithin (hp : p.Alike p') (attempts text : List Char) :
    (manyWithin p attempts text).outcome = (manyWithin p' attempts text).outcome := by
  induction attempts generalizing text with
  | nil => cases text <;> rfl
  | cons _ attempts ih =>
      cases text with
      | nil => rfl
      | cons c text =>
          refine Run.outcome_bind_congr (hp (c :: text)) fun result => ?_
          cases result with
          | success a rest => exact Run.outcome_onSuccess_congr (ih rest) fun _ _ => rfl
          | failure why => rfl

theorem many (hp : p.Alike p') : p.many.Alike p'.many := fun text => hp.manyWithin text text

/-- A probe changes no answer. -/
theorem probe (id : String) (p : Reader α) : (p.probe id).Alike p := by
  intro text
  refine Eq.trans ?_ (congrArg Run.outcome (Run.bind_pure (p text)))
  refine Run.outcome_bind_congr rfl fun result => ?_
  cases result <;> rfl

theorem probe_congr (id : String) (hp : p.Alike p') : (p.probe id).Alike (p'.probe id) :=
  (probe id p).trans (hp.trans (probe id p').symm)

end Alike

end Reader

/-! ### Parsers -/

namespace Parser

variable {ρ : Type → Type} {α : Type}

/-- What one parser may be replaced by. -/
abbrev Law (ρ : Type → Type) := (α : Type) → Parser ρ α → Parser ρ α → Prop

/-- The law relates only parsers that are alike, whatever reads for their references. -/
def Law.Sound (law : Law ρ) : Prop :=
  ∀ (call : (α : Type) → ρ α → Reader α) ⦃α : Type⦄ ⦃p q : Parser ρ α⦄, law α p q →
    (p.readWith call).Alike (q.readWith call)

/-- The parsers differ by a law, used anywhere in them. -/
inductive Rewritten (law : Law ρ) : {α : Type} → Parser ρ α → Parser ρ α → Prop where
  | of {α : Type} {p q : Parser ρ α} (h : law α p q) : Rewritten law p q
  | refl {α : Type} (p : Parser ρ α) : Rewritten law p p
  | symm {α : Type} {p q : Parser ρ α} (h : Rewritten law p q) : Rewritten law q p
  | trans {α : Type} {p q r : Parser ρ α} (h : Rewritten law p q) (h' : Rewritten law q r) :
      Rewritten law p r
  | seq {α β : Type} {p p' : Parser ρ α} {q q' : Parser ρ β} (hp : Rewritten law p p')
      (hq : Rewritten law q q') : Rewritten law (p.seq q) (p'.seq q')
  | orElse {α : Type} {p p' q q' : Parser ρ α} (hp : Rewritten law p p')
      (hq : Rewritten law q q') : Rewritten law (p.orElse q) (p'.orElse q')
  | apply {α β : Type} {p p' : Parser ρ α} (f : α → List Note × Except Fault β)
      (hp : Rewritten law p p') : Rewritten law (.apply f p) (.apply f p')
  | many {α : Type} {p p' : Parser ρ α} (hp : Rewritten law p p') :
      Rewritten law p.many p'.many
  | probe {α : Type} {p p' : Parser ρ α} (id : String) (hp : Rewritten law p p') :
      Rewritten law (.probe id p) (.probe id p')

end Parser

/-- Every reference stands for parsers that differ by a law, or is refused by both resolvers for the
same reason. -/
def Resolver.Rewritten {ρ : Type → Type} (law : Parser.Law ρ) (s t : Resolver ρ) : Prop :=
  ∀ (α : Type) (target : ρ α),
    (∃ cause, (s α target).2 = .error cause ∧ (t α target).2 = .error cause) ∨
      ∃ p q, (s α target).2 = .ok p ∧ (t α target).2 = .ok q ∧ Parser.Rewritten law p q

namespace Parser

variable {ρ : Type → Type} {α : Type}

/-- Readers for the references that are alike make readers that are alike. -/
theorem alike_readWith {call call' : (α : Type) → ρ α → Reader α}
    (hcall : ∀ α target, (call α target).Alike (call' α target)) (p : Parser ρ α) :
    (p.readWith call).Alike (p.readWith call') := by
  induction p with
  | leaf _ reader => exact .refl reader
  | seq p q ihp ihq => exact ihp.seq ihq
  | orElse p q ihp ihq => exact ihp.orElse ihq
  | apply f p ih => exact ih.apply f
  | many p ih => exact ih.many
  | probe id p ih => exact ih.probe_congr id
  | later target => exact hcall _ target

namespace Rewritten

variable {law : Law ρ} {p q : Parser ρ α}

/-- One level: what reads for the references is the same. -/
theorem readWith (sound : law.Sound) (call : (α : Type) → ρ α → Reader α)
    (h : Rewritten law p q) : (p.readWith call).Alike (q.readWith call) := by
  induction h with
  | of h => exact sound call h
  | refl p => exact .refl _
  | symm _ ih => exact ih.symm
  | trans _ _ ih ih' => exact ih.trans ih'
  | seq _ _ ihp ihq => exact ihp.seq ihq
  | orElse _ _ ihp ihq => exact ihp.orElse ihq
  | apply f _ ih => exact ih.apply f
  | many _ ih => exact ih.many
  | probe id _ ih => exact ih.probe_congr id

/-- **Rewriting.**  Parsers that differ by a sound law are alike, however deep references are
followed that stand for parsers differing by it. -/
theorem read {s t : Resolver ρ} (sound : law.Sound) (hst : Resolver.Rewritten law s t) (depth : Nat)
    (h : Rewritten law p q) : (p.read s depth).Alike (q.read t depth) := by
  induction depth generalizing α with
  | zero => exact h.readWith sound _
  | succ depth ih =>
      rw [read_succ, read_succ]
      refine (alike_readWith (fun β target text => ?_) p).trans (h.readWith sound _)
      rcases hst β target with ⟨cause, hs, ht⟩ | ⟨p', q', hs, ht, h'⟩
      · simp only [Resolver.build, hs, ht]
        rfl
      · simp only [Resolver.build, hs, ht]
        exact ih h' text

end Rewritten

end Parser

end FlatExpr
