import FlatExpr.Expr
import FlatExpr.Result

/-!
# Run

What happens while a text is read: a history of events and, unless the run was stopped, an
answer.  Runs are put one behind the other with `Run.bind`; a stop ends everything, and what was
noticed before it is kept.

* `Run.pure_bind`, `Run.bind_pure`, `Run.bind_assoc`: putting runs one behind the other is
  associative, and answering at once is its unit.
-/

namespace FlatExpr

universe u v w

/-- Something worth a record in a log. -/
inductive Note where
  /-- The operations behind the first one are folded onto it. -/
  | folded (first : Expr) (more : List (Expr × Expr))
  /-- Reading a text of so many characters was given up as nested too deeply. -/
  | gaveUp (length : Nat)
  deriving Repr, DecidableEq

/-- Something noticed while a text is read. -/
inductive Event where
  /-- A watched parser starts on a text. -/
  | entered (id : String) (text : List Char)
  /-- A watched parser succeeded and left `rest`. -/
  | succeeded (id : String) (rest : List Char)
  /-- A watched parser failed on a text. -/
  | failed (id : String) (text : List Char) (why : Complaint)
  /-- A parser put off until now is built. -/
  | built (id : String)
  /-- Something is noted for the log. -/
  | noted (note : Note)
  deriving Repr, DecidableEq

/-- Why a run ended without an answer. -/
inductive Stop where
  /-- Something was misused. -/
  | fault (cause : Fault)
  /-- Parsers refer to parsers deeper than the limit. -/
  | tooDeep
  /-- A parser that is repeated succeeded without reading anything. -/
  | stalled
  deriving Repr, DecidableEq

/-- Outcomes are compared by what they hold. -/
instance decidableEqOutcome {ε : Type u} {α : Type v} [DecidableEq ε] [DecidableEq α] :
    DecidableEq (Except ε α)
  | .ok a, .ok b => decidable_of_iff (a = b) (by simp)
  | .error x, .error y => decidable_of_iff (x = y) (by simp)
  | .ok _, .error _ => isFalse nofun
  | .error _, .ok _ => isFalse nofun

/-- A history of events and an answer or the reason why there is none. -/
structure Run (α : Type u) where
  /-- What was noticed, in order. -/
  history : List Event
  /-- The answer, if the run was not stopped. -/
  outcome : Except Stop α
  deriving DecidableEq

namespace Run

variable {α : Type u} {β : Type v} {γ : Type w}

@[ext] theorem ext {r s : Run α} (h : r.history = s.history) (o : r.outcome = s.outcome) :
    r = s := by
  cases r; cases s; simp_all

/-- Answers at once. -/
@[inline] protected def pure (a : α) : Run α := ⟨[], .ok a⟩

/-- A run, and behind it the one that its answer leads to. -/
@[inline] protected def bind (r : Run α) (f : α → Run β) : Run β :=
  match r.outcome with
  | .ok a => ⟨r.history ++ (f a).history, (f a).outcome⟩
  | .error why => ⟨r.history, .error why⟩

/-- Notices an event, in front of a run. -/
@[inline] def after (r : Run α) (event : Event) : Run α := ⟨event :: r.history, r.outcome⟩

/-- Ends without an answer. -/
@[inline] def stop (why : Stop) : Run α := ⟨[], .error why⟩

/-- Ends with a fault. -/
@[inline] def refuse (cause : Fault) : Run α := stop (.fault cause)

/-- An answer or a fault, as a run. -/
def ofExcept : Except Fault α → Run α
  | .ok a => .pure a
  | .error cause => refuse cause

/-- An answer or a fault behind some notes. -/
def ofNoted (noted : List Note × Except Fault α) : Run α :=
  ⟨noted.1.map .noted, (ofExcept noted.2).outcome⟩

@[simp] theorem pure_bind (a : α) (f : α → Run β) : (Run.pure a).bind f = f a := by
  ext <;> simp [Run.pure, Run.bind]

@[simp] theorem bind_pure (r : Run α) : r.bind Run.pure = r := by
  obtain ⟨h, o⟩ := r
  cases o <;> simp [Run.pure, Run.bind]

theorem bind_assoc (r : Run α) (f : α → Run β) (g : β → Run γ) :
    (r.bind f).bind g = r.bind fun a => (f a).bind g := by
  obtain ⟨h, o⟩ := r
  cases o with
  | error why => rfl
  | ok a =>
      simp only [Run.bind]
      cases (f a).outcome <;> simp

end Run

end FlatExpr
