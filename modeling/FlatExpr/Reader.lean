import FlatExpr.Run

/-!
# Reader

Functions that read from the front of a text, and the five ways in which they are put together:
one after the other, ordered choice, a change of the value, repetition, and watching.

* Ordered choice gives the second reader the text that the first one was given.
* Repetition goes on until the text is at its end or an attempt fails, and never fails itself.
  Every attempt must read something, so a text allows at most as many attempts as it has
  characters; a repetition that has spent them on successes that read nothing is stopped.
-/

namespace FlatExpr

/-- Reads a value from the front of a text. -/
abbrev Reader (α : Type) := List Char → Run (Result α)

/-- Goes on with the value and the text left over; a failure is passed on. -/
@[inline] def Run.onSuccess {α β : Type} (r : Run (Result α))
    (f : α → List Char → Run (Result β)) : Run (Result β) :=
  r.bind fun
    | .success value rest => f value rest
    | .failure why => .pure (.failure why)

/-- Passes a success on; after a failure, does something else. -/
@[inline] def Run.onFailure {α : Type} (r : Run (Result α)) (f : Complaint → Run (Result α)) :
    Run (Result α) :=
  r.bind fun
    | .success value rest => .pure (.success value rest)
    | .failure why => f why

namespace Reader

variable {α β : Type}

/-! ### Leaves -/

/-- Reads one character that `accepts` holds of; `wanted` names what was wanted. -/
def satisfying (accepts : Char → Bool) (wanted : String) : Reader Char
  | [] => .pure (.failure .nothingLeft)
  | c :: rest =>
      if accepts c then .pure (.success c rest) else .pure (.failure (.unexpected c wanted))

/-! ### Putting readers together -/

/-- Reads with `p`, then with `q` from where `p` stopped, and pairs the values. -/
def seq (p : Reader α) (q : Reader β) : Reader (α × β) := fun text =>
  (p text).onSuccess fun a rest => (q rest).onSuccess fun b rest => .pure (.success (a, b) rest)

/-- Reads with `p`; if that fails, with `q` from the same place. -/
def orElse (p q : Reader α) : Reader α := fun text => (p text).onFailure fun _ => q text

/-- Reads with `p` and changes the value; the change can note something or be refused. -/
def apply (f : α → List Note × Except Fault β) (p : Reader α) : Reader β := fun text =>
  (p text).onSuccess fun a rest => (Run.ofNoted (f a)).bind fun b => .pure (.success b rest)

/-- Reads with `p` as often as it succeeds; `attempts` holds a character for every success that
is still allowed to leave text behind. -/
def manyWithin (p : Reader α) : (attempts : List Char) → Reader (List α)
  | _, [] => .pure (.success [] [])
  | [], _ :: _ => .stop .stalled
  | _ :: attempts, c :: text =>
      (p (c :: text)).bind fun
        | .failure _ => .pure (.success [] (c :: text))
        | .success a rest =>
            (manyWithin p attempts rest).onSuccess fun more rest =>
              .pure (.success (a :: more) rest)

/-- Reads with `p` as often as it succeeds. -/
def many (p : Reader α) : Reader (List α) := fun text => manyWithin p text text

/-- Reads with `p`, noticing under `id` when it starts and how it ends. -/
def probe (id : String) (p : Reader α) : Reader α := fun text =>
  ((p text).bind fun
    | .success a rest => (Run.pure (.success a rest)).after (.succeeded id rest)
    | .failure why => (Run.pure (.failure why)).after (.failed id text why)).after
    (.entered id text)

end Reader

end FlatExpr
