import FlatExpr.Parser
import FlatExpr.Proofs.Text.Numeral
import FlatExpr.Reader.Number

/-!
# Reader — what quiet readers read

A reader is quiet on a text when it notices nothing and answers: its run is `Run.pure` of a
result.  The combinators of quiet readers are quiet, and their results are computed from the
parts' results by the rules below.

* `Reader.many_eq`: a repetition answers with the values of the attempts that succeed one behind
  the other, as `Reader.Repeats` lists them.  Each of them reads something, so there are never
  more of them than the text has characters.
* `Reader.satisfying_of_stopsAt`: where the wanted character is lacking, a reader for it fails with
  the complaint that says so (`lacking`).
* `Reader.orElse_satisfying`, `Reader.many_satisfying`: a choice between two readers for one
  character is again one, and repeating it reads the longest run of the characters it accepts.
* `Reader.number_of_isDigit`: a number is the longest run of digits, or a failure if there are
  too many of them.
-/

namespace FlatExpr

namespace Run

variable {α β : Type}

@[simp] theorem onSuccess_pure_success (a : α) (rest : List Char)
    (f : α → List Char → Run (Result β)) :
    (Run.pure (.success a rest)).onSuccess f = f a rest := pure_bind _ _

@[simp] theorem onSuccess_pure_failure (why : Complaint) (f : α → List Char → Run (Result β)) :
    (Run.pure (.failure why)).onSuccess f = .pure (.failure why) := pure_bind _ _

@[simp] theorem onFailure_pure_success (a : α) (rest : List Char)
    (f : Complaint → Run (Result α)) :
    (Run.pure (.success a rest)).onFailure f = .pure (.success a rest) := pure_bind _ _

@[simp] theorem onFailure_pure_failure (why : Complaint) (f : Complaint → Run (Result α)) :
    (Run.pure (.failure why)).onFailure f = f why := pure_bind _ _

/-! ### Runs that answer -/

section Answers

variable {r : Run (Result α)} {a : α} {rest : List Char} {why : Complaint}

/-- What is noticed is noticed, and goes in front of what comes next. -/
theorem onSuccess_of_success (h : r.outcome = .ok (.success a rest))
    (f : α → List Char → Run (Result β)) :
    r.onSuccess f = ⟨r.history ++ (f a rest).history, (f a rest).outcome⟩ := by
  simp only [onSuccess, Run.bind, h]

theorem onSuccess_of_failure (h : r.outcome = .ok (.failure why))
    (f : α → List Char → Run (Result β)) : r.onSuccess f = ⟨r.history, .ok (.failure why)⟩ := by
  simp only [onSuccess, Run.bind, h, Run.pure, List.append_nil]

theorem onSuccess_of_error {why : Stop} (h : r.outcome = .error why)
    (f : α → List Char → Run (Result β)) : r.onSuccess f = ⟨r.history, .error why⟩ := by
  simp only [onSuccess, Run.bind, h]

theorem onFailure_of_success (h : r.outcome = .ok (.success a rest))
    (f : Complaint → Run (Result α)) : r.onFailure f = r := by
  ext <;> simp [onFailure, Run.bind, h, Run.pure]

theorem onFailure_of_not_failure (h : ∀ why, r.outcome ≠ .ok (.failure why))
    (f : Complaint → Run (Result α)) : r.onFailure f = r := by
  obtain ⟨history, outcome⟩ := r
  cases outcome with
  | error why => rfl
  | ok result =>
      cases result with
      | success a rest => exact onFailure_of_success rfl f
      | failure why => exact absurd rfl (h why)

theorem onFailure_of_failure (h : r.outcome = .ok (.failure why))
    (f : Complaint → Run (Result α)) :
    r.onFailure f = ⟨r.history ++ (f why).history, (f why).outcome⟩ := by
  simp only [onFailure, Run.bind, h]

end Answers

/-- A change of the value is noticed nowhere else. -/
theorem onSuccess_map (r : Run (Result α)) (f : α → β) :
    (r.onSuccess fun a rest => .pure (.success (f a) rest)) =
      ⟨r.history, r.outcome.map fun result => result.map f⟩ := by
  obtain ⟨history, outcome⟩ := r
  cases outcome with
  | error why => rfl
  | ok result => cases result <;> simp [onSuccess, Run.bind, Run.pure, Except.map, Result.map]

/-! ### One behind the other -/

/-- What comes next may be put together first. -/
theorem onSuccess_onSuccess {γ : Type} (r : Run (Result α)) (f : α → List Char → Run (Result β))
    (g : β → List Char → Run (Result γ)) :
    (r.onSuccess f).onSuccess g = r.onSuccess fun a rest => (f a rest).onSuccess g := by
  simp only [onSuccess, bind_assoc]
  congr 1
  funext result
  cases result with
  | success a rest => rfl
  | failure why => exact pure_bind _ _

/-- Alternatives are tried one behind the other. -/
theorem onFailure_onFailure (r : Run (Result α)) (f g : Complaint → Run (Result α)) :
    (r.onFailure f).onFailure g = r.onFailure fun why => (f why).onFailure g := by
  simp only [onFailure, bind_assoc]
  congr 1
  funext result
  cases result with
  | success a rest => exact pure_bind _ _
  | failure why => rfl

end Run

/-- The complaint about a text that does not begin with what is wanted. -/
def lacking (wanted : String) (text : List Char) : Complaint :=
  text.head?.elim .nothingLeft (.unexpected · wanted)

namespace Reader

variable {α : Type} {p : Reader α}

/-! ### Repetition -/

/-- `p` succeeds on `text` with `values`, one behind the other, and there is nothing `left` then,
or `p` fails on it. -/
inductive Repeats (p : Reader α) : List Char → List α → List Char → Prop where
  | ended : Repeats p [] [] []
  | failed {c : Char} {text : List Char} {why : Complaint}
      (h : p (c :: text) = .pure (.failure why)) : Repeats p (c :: text) [] (c :: text)
  | more {c : Char} {text rest left : List Char} {a : α} {values : List α}
      (h : p (c :: text) = .pure (.success a rest)) (shorter : rest.length ≤ text.length)
      (t : Repeats p rest values left) : Repeats p (c :: text) (a :: values) left

theorem manyWithin_eq {text left : List Char} {values : List α} (h : Repeats p text values left) :
    ∀ attempts : List Char, text.length ≤ attempts.length →
      manyWithin p attempts text = .pure (.success values left) := by
  induction h with
  | ended => intro attempts _; cases attempts <;> rfl
  | failed h =>
      intro attempts hlen
      cases attempts with
      | nil => simp at hlen
      | cons _ attempts => rw [manyWithin, h, Run.pure_bind]
  | more h shorter _ ih =>
      intro attempts hlen
      cases attempts with
      | nil => simp at hlen
      | cons _ attempts =>
          -- every attempt that succeeds uses up a character, so enough attempts are left
          have : _ ≤ attempts.length := shorter.trans (Nat.le_of_succ_le_succ hlen)
          rw [manyWithin, h, Run.pure_bind]
          simp only [ih attempts this, Run.onSuccess_pure_success]

/-- **Repetition.**  It reads what the attempts that succeed read, and never fails. -/
theorem many_eq {text left : List Char} {values : List α} (h : Repeats p text values left) :
    p.many text = .pure (.success values left) :=
  manyWithin_eq h text le_rfl

/-! ### One character -/

section Satisfying

open Text

variable {accepts : Char → Bool} {wanted : String} {c : Char} {text : List Char}

theorem satisfying_of_pos (h : accepts c = true) :
    satisfying accepts wanted (c :: text) = .pure (.success c text) := if_pos h

/-- Where no accepted character comes first, it is complained about. -/
theorem satisfying_of_stopsAt (h : StopsAt accepts text) :
    satisfying accepts wanted text = .pure (.failure (lacking wanted text)) := by
  cases text with
  | nil => rfl
  | cons c text => exact if_neg (by simp [h c rfl])

/-- A choice between two readers for one character accepts what either of them does, and wants
what the second one wants. -/
theorem orElse_satisfying (p q : Char → Bool) (first second : String) :
    (satisfying p first).orElse (satisfying q second) =
      satisfying (fun c => p c || q c) second := by
  funext text
  cases text with
  | nil => rfl
  | cons c text =>
      cases hp : p c with
      | true => simp [orElse, satisfying, hp]
      | false => cases hq : q c <;> simp [orElse, satisfying, hp, hq]

/-- Repeating a reader for one character reads the longest run of characters it accepts. -/
theorem many_satisfying (accepts : Char → Bool) (wanted : String) (text : List Char) :
    (satisfying accepts wanted).many text =
      .pure (.success (text.takeWhile accepts) (text.dropWhile accepts)) := by
  refine many_eq ?_
  induction text with
  | nil => exact .ended
  | cons c text ih =>
      cases hc : accepts c with
      | true =>
          rw [List.takeWhile_cons_of_pos hc, List.dropWhile_cons_of_pos hc]
          exact .more (satisfying_of_pos hc) le_rfl ih
      | false =>
          rw [List.takeWhile_cons_of_neg (by simp [hc]), List.dropWhile_cons_of_neg (by simp [hc])]
          exact .failed (satisfying_of_stopsAt (.cons hc))

end Satisfying

/-! ### A number -/

section Number

open Text

variable {c : Char} {rest : List Char}

theorem number_of_stopsAt {text : List Char} (h : StopsAt isDigit text) :
    number text = .pure (.failure (lacking "digit" text)) := by
  have head : digit text = .pure (.failure (lacking "digit" text)) := satisfying_of_stopsAt h
  simp only [number, seq, head, Run.onSuccess_pure_failure]

/-- **A number.**  It is the longest run of digits, unless that is too long. -/
theorem number_of_isDigit (h : isDigit c = true) :
    number (c :: rest) =
      if ((c :: rest).takeWhile isDigit).length ≤ maxDigits then
        .pure (.success (.number (positional ((c :: rest).takeWhile isDigit)))
          ((c :: rest).dropWhile isDigit))
      else .pure (.failure .numberTooLong) := by
  have digits : ∀ d ∈ c :: rest.takeWhile isDigit, isDigit d = true := by
    intro d hd
    rcases List.mem_cons.mp hd with rfl | hd
    · exact h
    · exact List.mem_takeWhile_imp hd
  have head : digit (c :: rest) = .pure (.success c rest) := satisfying_of_pos h
  have tail : digit.many rest =
      .pure (.success (rest.takeWhile isDigit) (rest.dropWhile isDigit)) :=
    many_satisfying isDigit "digit" rest
  rw [List.takeWhile_cons_of_pos h, List.dropWhile_cons_of_pos h]
  simp only [number, seq, head, tail, Run.onSuccess_pure_success,
    integer?_digits (List.cons_ne_nil _ _) digits]
  by_cases short : (c :: rest.takeWhile isDigit).length ≤ maxDigits
  · simp only [if_pos short]; rfl
  · simp only [if_neg short]

end Number

end Reader

/-! ### Parsers -/

namespace Parser

variable {ρ : Type → Type} {α β : Type} (call : (α : Type) → ρ α → Reader α)

@[simp] theorem readWith_leaf (sort : LeafSort) (reader : Reader α) (text : List Char) :
    (leaf sort reader : Parser ρ α).readWith call text = reader text := rfl

@[simp] theorem readWith_seq (p : Parser ρ α) (q : Parser ρ β) (text : List Char) :
    (p.seq q).readWith call text = (p.readWith call text).onSuccess fun a rest =>
      (q.readWith call rest).onSuccess fun b rest => .pure (.success (a, b) rest) := rfl

@[simp] theorem readWith_orElse (p q : Parser ρ α) (text : List Char) :
    (p.orElse q).readWith call text =
      (p.readWith call text).onFailure fun _ => q.readWith call text := rfl

@[simp] theorem readWith_apply (f : α → List Note × Except Fault β) (p : Parser ρ α)
    (text : List Char) :
    (apply f p).readWith call text = (p.readWith call text).onSuccess fun a rest =>
      (Run.ofNoted (f a)).bind fun b => .pure (.success b rest) := rfl

@[simp] theorem readWith_map (f : α → β) (p : Parser ρ α) (text : List Char) :
    (p.map f).readWith call text =
      (p.readWith call text).onSuccess fun a rest => .pure (.success (f a) rest) := rfl

@[simp] theorem readWith_many (p : Parser ρ α) (text : List Char) :
    p.many.readWith call text = (p.readWith call).many text := rfl

@[simp] theorem readWith_later (target : ρ α) (text : List Char) :
    (later target).readWith call text = call α target text := rfl

/-- At every depth there is one way to read for the references. -/
theorem exists_read_eq_readWith (resolve : Resolver ρ) (depth : Nat) :
    ∃ call : (α : Type) → ρ α → Reader α,
      ∀ (α : Type) (p : Parser ρ α), p.read resolve depth = p.readWith call := by
  cases depth with
  | zero => exact ⟨_, fun _ _ => rfl⟩
  | succ depth => exact ⟨_, fun _ _ => rfl⟩

end Parser

end FlatExpr
