import FlatExpr.Proofs.Alike

/-!
# Call — a history with its nesting

What is seen of watched parsers is a flat list of events.  A call is one run of a watched parser as
a whole: where it starts, the calls inside it, and how it ends.

* `Call.events`: the events of a call.  It begins with its start and, unless it is stopped, ends
  with how it ended; the calls inside stand between, one behind the other.
* `Call.Inside`: a call is another one or inside it, at any depth.
* `Reader.history_probe`: what a probe adds to a history.
-/

namespace FlatExpr

/-- How a run ends, whatever value it has. -/
abbrev Finish := Except Stop (Result Unit)

/-- How a run with this outcome ends. -/
def Finish.of {α : Type} (outcome : Except Stop (Result α)) : Finish :=
  outcome.map fun result => result.map fun _ => ()

/-- A change of the value is not seen. -/
theorem Finish.of_map {α β : Type} (outcome : Except Stop (Result α)) (f : α → β) :
    Finish.of (outcome.map fun result => result.map f) = .of outcome := by
  cases outcome with
  | error why => rfl
  | ok result => cases result <;> rfl

theorem Finish.of_eq_error_iff {α : Type} {outcome : Except Stop (Result α)} {why : Stop} :
    Finish.of outcome = .error why ↔ outcome = .error why := by
  cases outcome <;> simp [of, Except.map]

/-- What is seen of the end of a watched parser that was started on a text. -/
def Finish.events (id : String) (text : List Char) : Finish → List Event
  | .ok (.success _ rest) => [.succeeded id rest]
  | .ok (.failure why) => [.failed id text why]
  | .error _ => []

/-- A run of a watched parser. -/
structure Call where
  /-- What the parser is watched under. -/
  id : String
  /-- The text that it starts on. -/
  text : List Char
  /-- What is built at the start, if the parser was put off until then. -/
  built : Option String
  /-- The runs of its parts, in order. -/
  inner : List Call
  /-- What it notices itself, behind its parts. -/
  noticed : List Event
  /-- How it ends. -/
  finish : Finish

namespace Call

mutual

/-- The events of a call, in order. -/
def events : Call → List Event
  | ⟨id, text, built, inner, noticed, finish⟩ =>
      .entered id text ::
        ((built.map .built).toList ++ (eventsOf inner ++ (noticed ++ finish.events id text)))

/-- The events of calls, one behind the other. -/
def eventsOf : List Call → List Event
  | [] => []
  | call :: more => call.events ++ eventsOf more

end

@[simp] theorem eventsOf_nil : eventsOf [] = [] := rfl

@[simp] theorem eventsOf_cons (call : Call) (more : List Call) :
    eventsOf (call :: more) = call.events ++ eventsOf more := rfl

theorem eventsOf_append (calls more : List Call) :
    eventsOf (calls ++ more) = eventsOf calls ++ eventsOf more := by
  induction calls with
  | nil => rfl
  | cons call calls ih => simp [ih]

theorem events_eq (call : Call) :
    call.events = .entered call.id call.text :: ((call.built.map .built).toList ++
      (eventsOf call.inner ++ (call.noticed ++ call.finish.events call.id call.text))) := by
  cases call
  rfl

/-- The call `part` is `whole` or, at any depth, inside it. -/
inductive Inside (part : Call) : Call → Prop where
  | self : Inside part part
  | deeper {call whole : Call} (h : call ∈ whole.inner) (t : Inside part call) : Inside part whole

/-- Where nothing is noticed behind the last of the calls inside, and the end is not seen, that call
is the end of the whole. -/
theorem events_suffix_of_inner {part whole : Call} {earlier : List Call} {why : Stop}
    (hinner : whole.inner = earlier ++ [part]) (hnoticed : whole.noticed = [])
    (hfinish : whole.finish = .error why) : part.events <:+ whole.events := by
  refine ⟨.entered whole.id whole.text :: ((whole.built.map .built).toList ++ eventsOf earlier), ?_⟩
  simp [events_eq whole, hinner, hnoticed, hfinish, eventsOf_append, Finish.events]

end Call

/-! ### Probes -/

namespace Reader

variable {α : Type}

/-- A probe sees where the reader starts and, unless it is stopped, how it ends. -/
theorem history_probe (id : String) (p : Reader α) (text : List Char) :
    (p.probe id text).history =
      .entered id text :: ((p text).history ++ (Finish.of (p text).outcome).events id text) := by
  cases h : (p text).outcome with
  | error why => simp [probe, Run.bind, Run.after, h, Finish.of, Except.map, Finish.events]
  | ok result =>
      cases result <;>
        simp [probe, Run.bind, Run.after, Run.pure, h, Finish.of, Except.map, Result.map,
          Finish.events]

end Reader

end FlatExpr
