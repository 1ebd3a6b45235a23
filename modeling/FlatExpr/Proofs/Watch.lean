import FlatExpr.Proofs.Reader

/-!
# Watch — what probes see, and what they leave alone

Watching is harmless: what is seen of watched parsers can be taken out of a history, and what is
left is the run without the probes.

* `Run.unwatched`: a run without what was seen of watched parsers.  Taking it out goes through every
  way in which readers are put together (`unwatched_seq` and the equations beside it), and so
  through parsers as a whole (`Parser.unwatched_read`).
* `Parser.watchLeaves`: the parser with each of its leaves watched, and nothing else.  Its runs are
  those of the parser but for what is seen of the leaves (`Parser.unwatched_read_watchLeaves`).
-/

namespace FlatExpr

universe u v

/-- Whether an event is something seen of a watched parser. -/
def Event.isWatched : Event → Bool
  | .entered _ _ | .succeeded _ _ | .failed _ _ _ => true
  | .built _ | .noted _ => false

/-! ### Runs -/

namespace Run

section Unwatched

variable {α : Type u} {β : Type v}

/-- The run without what was seen of watched parsers. -/
def unwatched (r : Run α) : Run α := ⟨r.history.filter fun event => !event.isWatched, r.outcome⟩

@[simp] theorem unwatched_pure (a : α) : (Run.pure a).unwatched = .pure a := rfl

@[simp] theorem unwatched_unwatched (r : Run α) : r.unwatched.unwatched = r.unwatched := by
  simp [unwatched]

theorem unwatched_after (r : Run α) {event : Event} (h : event.isWatched = true) :
    (r.after event).unwatched = r.unwatched := by
  simp [unwatched, after, h]

@[simp] theorem unwatched_ofNoted (noted : List Note × Except Fault α) :
    (ofNoted noted).unwatched = ofNoted noted := by
  ext1
  · refine List.filter_eq_self.mpr fun event hevent => ?_
    obtain ⟨note, -, rfl⟩ := List.mem_map.mp hevent
    rfl
  · rfl

theorem unwatched_bind (r : Run α) (f : α → Run β) :
    (r.bind f).unwatched = r.unwatched.bind fun a => (f a).unwatched := by
  obtain ⟨history, outcome⟩ := r
  cases outcome with
  | error why => rfl
  | ok a => simp [Run.bind, unwatched]

end Unwatched

variable {α β : Type}

@[simp] theorem unwatched_onSuccess (r : Run (Result α)) (f : α → List Char → Run (Result β)) :
    (r.onSuccess f).unwatched = r.unwatched.onSuccess fun a rest => (f a rest).unwatched := by
  rw [onSuccess, onSuccess, unwatched_bind]
  congr 1
  funext result
  cases result <;> rfl

@[simp] theorem unwatched_onFailure (r : Run (Result α)) (f : Complaint → Run (Result α)) :
    (r.onFailure f).unwatched = r.unwatched.onFailure fun why => (f why).unwatched := by
  rw [onFailure, onFailure, unwatched_bind]
  congr 1
  funext result
  cases result <;> rfl

end Run

/-! ### Readers -/

namespace Reader

variable {α β : Type}

/-- The reader without what is seen of watched parsers. -/
def unwatched (p : Reader α) : Reader α := fun text => (p text).unwatched

@[simp] theorem unwatched_unwatched (p : Reader α) : p.unwatched.unwatched = p.unwatched := by
  funext text
  exact Run.unwatched_unwatched (p text)

@[simp] theorem unwatched_seq (p : Reader α) (q : Reader β) :
    (p.seq q).unwatched = p.unwatched.seq q.unwatched := by
  funext text
  simp [unwatched, seq]

@[simp] theorem unwatched_orElse (p q : Reader α) :
    (p.orElse q).unwatched = p.unwatched.orElse q.unwatched := by
  funext text
  simp [unwatched, orElse]

@[simp] theorem unwatched_apply (f : α → List Note × Except Fault β) (p : Reader α) :
    (p.apply f).unwatched = p.unwatched.apply f := by
  funext text
  simp [unwatched, apply, Run.unwatched_bind]

theorem unwatched_manyWithin (p : Reader α) (attempts text : List Char) :
    (manyWithin p attempts text).unwatched = manyWithin p.unwatched attempts text := by
  induction attempts generalizing text with
  | nil => cases text <;> rfl
  | cons _ attempts ih =>
      cases text with
      | nil => rfl
      | cons c text =>
          rw [manyWithin, manyWithin, Run.unwatched_bind]
          congr 1
          funext result
          cases result with
          | failure why => rfl
          | success a rest => simp [ih rest]

@[simp] theorem unwatched_many (p : Reader α) : p.many.unwatched = p.unwatched.many := by
  funext text
  exact unwatched_manyWithin p text text

/-- A probe adds nothing but what it sees. -/
@[simp] theorem unwatched_probe (id : String) (p : Reader α) :
    (p.probe id).unwatched = p.unwatched := by
  funext text
  rw [unwatched, probe, Run.unwatched_after _ rfl, Run.unwatched_bind]
  refine Eq.trans (congrArg _ (funext fun result => ?_)) (Run.bind_pure _)
  cases result with
  | success a rest => exact Run.unwatched_after _ rfl
  | failure why => exact Run.unwatched_after _ rfl

end Reader

/-! ### Parsers -/

namespace Parser

variable {ρ : Type → Type}

/-- The parser without its probes, and with nothing seen of watched parsers in its leaves. -/
def unwatched : {α : Type} → Parser ρ α → Parser ρ α
  | _, .leaf sort reader => .leaf sort reader.unwatched
  | _, .seq p q => .seq p.unwatched q.unwatched
  | _, .orElse p q => .orElse p.unwatched q.unwatched
  | _, .apply f p => .apply f p.unwatched
  | _, .many p => .many p.unwatched
  | _, .probe _ p => p.unwatched
  | _, .later target => .later target

/-- The parser with its leaves watched under `id`, and nothing else. -/
def watchLeaves (id : String) : {α : Type} → Parser ρ α → Parser ρ α
  | _, .leaf sort reader => .probe id (.leaf sort reader.unwatched)
  | _, .seq p q => .seq (p.watchLeaves id) (q.watchLeaves id)
  | _, .orElse p q => .orElse (p.watchLeaves id) (q.watchLeaves id)
  | _, .apply f p => .apply f (p.watchLeaves id)
  | _, .many p => .many (p.watchLeaves id)
  | _, .probe _ p => p.watchLeaves id
  | _, .later target => .later target

theorem unwatched_watchLeaves (id : String) {α : Type} (p : Parser ρ α) :
    (p.watchLeaves id).unwatched = p.unwatched := by
  induction p with
  | leaf sort reader => simp [watchLeaves, unwatched]
  | seq p q ihp ihq | orElse p q ihp ihq => simp [watchLeaves, unwatched, ihp, ihq]
  | apply f p ih | many p ih => simp [watchLeaves, unwatched, ih]
  | probe other p ih => exact ih
  | later target => rfl

end Parser

/-- The resolver with each parser that it builds changed. -/
def Resolver.map {ρ : Type → Type} (change : {α : Type} → Parser ρ α → Parser ρ α)
    (resolve : Resolver ρ) : Resolver ρ :=
  fun α target => ((resolve α target).1, (resolve α target).2.map change)

/-- What is built is changed, and what is seen of the building stays. -/
theorem Resolver.build_map {ρ : Type → Type} {α β : Type}
    (change : {α : Type} → Parser ρ α → Parser ρ α) (resolve : Resolver ρ) (target : ρ α)
    (f : Parser ρ α → Run β) :
    ((resolve.map change).build target).bind f =
      (resolve.build target).bind fun p => f (change p) := by
  simp only [build, Resolver.map]
  cases (resolve α target).2 <;> rfl

theorem Resolver.unwatched_build {ρ : Type → Type} {α : Type} (resolve : Resolver ρ)
    (target : ρ α) : (resolve.build target).unwatched = resolve.build target := by
  simp only [build]
  cases (resolve α target).1 <;> rfl

namespace Parser

variable {ρ : Type → Type} {α : Type}

theorem unwatched_readWith (call : (α : Type) → ρ α → Reader α) (p : Parser ρ α) :
    (p.readWith call).unwatched =
      p.unwatched.readWith fun α target => (call α target).unwatched := by
  induction p with
  | leaf sort reader => rfl
  | seq p q ihp ihq | orElse p q ihp ihq => simp [readWith, unwatched, ihp, ihq]
  | apply f p ih | many p ih | probe id p ih => simp [readWith, unwatched, ih]
  | later target => rfl

/-- **Watching.**  What is left of a run without what was seen of watched parsers is the run of the
parser without its probes. -/
theorem unwatched_read (resolve : Resolver ρ) (depth : Nat) (p : Parser ρ α) :
    (p.read resolve depth).unwatched = p.unwatched.read (resolve.map unwatched) depth := by
  induction depth generalizing α with
  | zero => exact unwatched_readWith _ p
  | succ depth ih =>
      rw [read_succ, read_succ, unwatched_readWith]
      congr 1
      funext β target text
      rw [Reader.unwatched, Run.unwatched_bind, Resolver.unwatched_build, Resolver.build_map]
      exact congrArg _ (funext fun q => congrFun (ih q) text)

/-- The leaves can be watched. -/
theorem unwatched_read_watchLeaves (id : String) (resolve : Resolver ρ) (depth : Nat)
    (p : Parser ρ α) :
    ((p.watchLeaves id).read (resolve.map (watchLeaves id)) depth).unwatched =
      (p.read resolve depth).unwatched := by
  have same : (resolve.map (watchLeaves id)).map unwatched = resolve.map unwatched := by
    funext β target
    simp only [Resolver.map]
    cases (resolve β target).2 <;> simp [Except.map, unwatched_watchLeaves]
  rw [unwatched_read, unwatched_read, same, unwatched_watchLeaves]

end Parser

end FlatExpr
