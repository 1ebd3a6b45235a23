import FlatExpr.Blueprint
import FlatExpr.Proofs.Reader

/-!
# Repetition — the attempts one behind the other

A repetition is greedy: it goes on as long as an attempt succeeds, and what it leaves over is what
the last success left, whatever the attempt that failed had read by then.

* `Reader.Consumes`: the reader always answers, and a success leaves a strictly shorter suffix.
* `Reader.Attempts`: the successes one behind the other, up to the end of the text or to an attempt
  that fails.  Every text has exactly one such list (`exists_attempts`, `Attempts.unique`), and it
  is not longer than the text (`Attempts.length_le`).
* `Reader.manyWithin_of_attempts`: the repetition answers with their values and notices what they
  notice, one attempt for each text that is not empty (`attempted`).
* `Again.unrolled`: the same said by recursion, one value in front of the others or else none.
* `Reader.many_iterates`: all this together, and that the two agree.
-/

namespace FlatExpr

variable {α β : Type}

namespace Reader

variable {p : Reader α} {q : Reader β} {text rest left : List Char} {a : α}
  {steps : List (α × List Char)}

/-! ### Readers that consume -/

/-- The reader answers to every text, and a success leaves a strictly shorter suffix of it. -/
def Consumes (p : Reader α) : Prop :=
  ∀ text, ∃ result, (p text).outcome = .ok result ∧
    ∀ a rest, result = .success a rest → rest <:+ text ∧ rest.length < text.length

namespace Consumes

theorem shorter (hp : p.Consumes) (h : (p text).outcome = .ok (.success a rest)) :
    rest <:+ text ∧ rest.length < text.length := by
  obtain ⟨result, hresult, short⟩ := hp text
  rw [hresult] at h
  exact short a rest (Except.ok.inj h)

/-- Nothing is shorter than the empty text, so it is refused. -/
theorem exists_failure_nil (hp : p.Consumes) : ∃ why, (p []).outcome = .ok (.failure why) := by
  obtain ⟨result, hresult, short⟩ := hp []
  cases result with
  | success a rest => exact absurd (short a rest rfl).2 (Nat.not_lt_zero _)
  | failure why => exact ⟨why, hresult⟩

theorem satisfying (accepts : Char → Bool) (wanted : String) :
    (satisfying accepts wanted).Consumes := by
  intro text
  cases text with
  | nil => exact ⟨_, rfl, by simp⟩
  | cons c rest =>
      rw [Reader.satisfying]
      split
      · refine ⟨_, rfl, ?_⟩
        rintro a left ⟨⟩
        exact ⟨List.suffix_cons c rest, Nat.lt_succ_self _⟩
      · exact ⟨_, rfl, by simp⟩

theorem seq (hp : p.Consumes) (hq : q.Consumes) : (p.seq q).Consumes := by
  intro text
  obtain ⟨first, hfirst, -⟩ := hp text
  rw [Reader.seq]
  cases first with
  | failure why =>
      rw [Run.onSuccess_of_failure hfirst]
      exact ⟨_, rfl, by simp⟩
  | success a rest =>
      obtain ⟨second, hsecond, -⟩ := hq rest
      rw [Run.onSuccess_of_success hfirst]
      cases second with
      | failure why =>
          rw [Run.onSuccess_of_failure hsecond]
          exact ⟨_, rfl, by simp⟩
      | success b left =>
          rw [Run.onSuccess_of_success hsecond]
          refine ⟨_, rfl, ?_⟩
          rintro pair left' ⟨⟩
          obtain ⟨hrest, shorter⟩ := hp.shorter hfirst
          obtain ⟨hleft, short⟩ := hq.shorter hsecond
          exact ⟨hleft.trans hrest, short.trans shorter⟩

end Consumes

/-! ### Attempts -/

/-- The attempts of `p` from `text` on: every step is a success, with its value and what it leaves
for the next one; what is `left` at last is empty, or the attempt on it fails. -/
inductive Attempts (p : Reader α) : List Char → List (α × List Char) → List Char → Prop where
  | ended : Attempts p [] [] []
  | failed {text : List Char} {why : Complaint} (h : (p text).outcome = .ok (.failure why)) :
      Attempts p text [] text
  | more {text rest left : List Char} {a : α} {steps : List (α × List Char)}
      (h : (p text).outcome = .ok (.success a rest)) (t : Attempts p rest steps left) :
      Attempts p text ((a, rest) :: steps) left

/-- The texts that attempts are made on: the first one and what each step leaves, unless that is
empty. -/
def attempted (text : List Char) (steps : List (α × List Char)) : List (List Char) :=
  (text :: steps.map Prod.snd).filter fun t => !t.isEmpty

/-- From every text on there are attempts. -/
theorem exists_attempts (hp : p.Consumes) (text : List Char) :
    ∃ steps left, Attempts p text steps left := by
  obtain ⟨result, hresult, short⟩ := hp text
  cases result with
  | failure why => exact ⟨[], text, .failed hresult⟩
  | success a rest =>
      have shorter := (short a rest rfl).2
      obtain ⟨steps, left, attempts⟩ := exists_attempts hp rest
      exact ⟨(a, rest) :: steps, left, .more hresult attempts⟩
termination_by text.length

namespace Attempts

/-- There is only one way to go on, and only one place to stop. -/
theorem unique (hp : p.Consumes) (h : Attempts p text steps left)
    {others : List (α × List Char)} {rest : List Char} (h' : Attempts p text others rest) :
    others = steps ∧ rest = left := by
  induction h generalizing others with
  | ended =>
      cases h' with
      | ended => exact ⟨rfl, rfl⟩
      | failed _ => exact ⟨rfl, rfl⟩
      | more h _ => exact absurd (hp.shorter h).2 (Nat.not_lt_zero _)
  | failed hfail =>
      cases h' with
      | ended => exact ⟨rfl, rfl⟩
      | failed _ => exact ⟨rfl, rfl⟩
      | more h _ => cases hfail.symm.trans h
  | more hsuccess _ ih =>
      cases h' with
      | ended => exact absurd (hp.shorter hsuccess).2 (Nat.not_lt_zero _)
      | failed h => cases hsuccess.symm.trans h
      | more h t =>
          cases hsuccess.symm.trans h
          obtain ⟨rfl, rfl⟩ := ih t
          exact ⟨rfl, rfl⟩

/-- Every success reads a character at least. -/
theorem length_le (hp : p.Consumes) (h : Attempts p text steps left) :
    steps.length ≤ text.length := by
  induction h with
  | ended | failed => exact Nat.zero_le _
  | more h _ ih => exact Nat.succ_le_of_lt (ih.trans_lt (hp.shorter h).2)

/-- What is left over is what the last success left; nothing is read if there was none. -/
theorem getLast?_eq (h : Attempts p text steps left) :
    (text :: steps.map Prod.snd).getLast? = some left := by
  induction h with
  | ended | failed => rfl
  | more _ _ ih => rwa [List.map_cons, List.getLast?_cons_cons]

end Attempts

theorem attempted_cons (hne : text ≠ []) (step : α × List Char) (steps : List (α × List Char)) :
    attempted text (step :: steps) = text :: attempted step.2 steps := by
  rw [attempted, List.filter_cons_of_pos (by simpa using hne)]
  rfl

/-! ### The repetition -/

/-- **Repetition.**  It answers with the values of the attempts and leaves what they leave, however
many more of them had been allowed. -/
theorem manyWithin_of_attempts (hp : p.Consumes) (h : Attempts p text steps left)
    (allowed : List Char) (enough : text.length ≤ allowed.length) :
    manyWithin p allowed text =
      ⟨(attempted text steps).flatMap fun t => (p t).history,
        .ok (.success (steps.map Prod.fst) left)⟩ := by
  induction h generalizing allowed with
  | ended => cases allowed <;> rfl
  | @failed text why h =>
      cases text with
      | nil => cases allowed <;> rfl
      | cons c text =>
          cases allowed with
          | nil => exact absurd enough (Nat.not_succ_le_zero _)
          | cons _ allowed =>
              rw [manyWithin, Run.bind]
              simp only [h]
              simp [attempted, Run.pure]
  | @more text rest left a steps h _ ih =>
      have shorter := (hp.shorter h).2
      cases text with
      | nil => exact absurd shorter (Nat.not_lt_zero _)
      | cons c text =>
          cases allowed with
          | nil => exact absurd enough (Nat.not_succ_le_zero _)
          | cons _ allowed =>
              -- a success uses up a character, so enough attempts are still allowed
              have enough : rest.length ≤ allowed.length :=
                (Nat.le_of_lt_succ shorter).trans (Nat.le_of_succ_le_succ enough)
              rw [manyWithin, Run.bind, attempted_cons (List.cons_ne_nil c text)]
              simp only [h, ih allowed enough]
              simp [Run.onSuccess, Run.bind, Run.pure]

end Reader

/-! ### By recursion -/

/-- The reference by which a repetition refers to itself. -/
inductive Again (α : Type) : Type → Type where
  | again : Again α (List α)

namespace Again

/-- A value and the others behind it, or else none. -/
def unrolled (p : Reader α) : Parser (Again α) (List α) :=
  (((Parser.leaf .given p).seq (.later .again)).map fun (a, more) => a :: more).orElse
    (.leaf .given (Reader.nothing []))

/-- What the reference stands for. -/
def resolve (p : Reader α) : Resolver (Again α)
  | _, .again => (none, .ok (unrolled p))

section Unrolled

variable (call : (β : Type) → Again α β → Reader β) {p : Reader α} {text rest left : List Char}
  {a : α}

/-- Where no value is read, none is behind it either. -/
theorem outcome_unrolled_of_failure {why : Complaint}
    (h : (p text).outcome = .ok (.failure why)) :
    ((unrolled p).readWith call text).outcome = .ok (.success [] text) := by
  rw [unrolled, Parser.readWith_orElse, Parser.readWith_map, Parser.readWith_seq,
    Parser.readWith_leaf, Run.onSuccess_of_failure h, Run.onSuccess_of_failure rfl,
    Run.onFailure_of_failure rfl]
  rfl

theorem outcome_unrolled_of_success {more : List α} (h : (p text).outcome = .ok (.success a rest))
    (hmore : (call _ .again rest).outcome = .ok (.success more left)) :
    ((unrolled p).readWith call text).outcome = .ok (.success (a :: more) left) := by
  rw [unrolled, Parser.readWith_orElse, Parser.readWith_map, Parser.readWith_seq,
    Parser.readWith_leaf, Run.onSuccess_of_success h, Parser.readWith_later,
    Run.onSuccess_of_success hmore, Run.onSuccess_of_success rfl, Run.onFailure_of_success rfl]
  rfl

end Unrolled

/-- **Recursion.**  It reads the values of the attempts as well, if its reference is followed as
deep as the text is long. -/
theorem outcome_read_unrolled {p : Reader α} {text left : List Char}
    {steps : List (α × List Char)} (hp : p.Consumes) (h : Reader.Attempts p text steps left)
    (depth : Nat) (deep : text.length ≤ depth) :
    ((unrolled p).read (resolve p) depth text).outcome =
      .ok (.success (steps.map Prod.fst) left) := by
  induction h generalizing depth with
  | ended =>
      obtain ⟨why, h⟩ := hp.exists_failure_nil
      cases depth <;> exact outcome_unrolled_of_failure _ h
  | failed h => cases depth <;> exact outcome_unrolled_of_failure _ h
  | more h _ ih =>
      have shorter := (hp.shorter h).2
      cases depth with
      | zero => exact absurd (shorter.trans_le deep) (Nat.not_lt_zero _)
      | succ depth =>
          have deep := Nat.le_of_lt_succ (shorter.trans_le deep)
          exact outcome_unrolled_of_success _ h
            ((congrArg Run.outcome (Run.pure_bind _ _)).trans (ih depth deep))

end Again

namespace Reader

/-- **Iteration.**  From every text on there is one list of attempts that succeed, up to the end of
the text or to one that fails, and it is not longer than the text.  The repetition answers with
their values, leaves what the last of them left, and tries exactly these attempts and, unless the
text is at its end, the one that fails.  It does so however many attempts it is allowed, and agrees
with the repetition by recursion, however deep that may go. -/
theorem many_iterates {p : Reader α} (hp : p.Consumes) (text : List Char) :
    ∃ steps left, Attempts p text steps left ∧
      (∀ others rest, Attempts p text others rest → others = steps ∧ rest = left) ∧
      steps.length ≤ text.length ∧
      (text :: steps.map Prod.snd).getLast? = some left ∧
      p.many text = ⟨(attempted text steps).flatMap fun t => (p t).history,
        .ok (.success (steps.map Prod.fst) left)⟩ ∧
      (∀ allowed : List Char, text.length ≤ allowed.length →
        manyWithin p allowed text = p.many text) ∧
      ∀ depth, text.length ≤ depth →
        ((Again.unrolled p).read (Again.resolve p) depth text).outcome = (p.many text).outcome := by
  obtain ⟨steps, left, h⟩ := exists_attempts hp text
  have run : p.many text = _ := manyWithin_of_attempts hp h text le_rfl
  refine ⟨steps, left, h, fun _ _ h' => h.unique hp h', h.length_le hp, h.getLast?_eq, run,
    fun allowed enough => ?_, fun depth deep => ?_⟩
  · rw [run, manyWithin_of_attempts hp h allowed enough]
  · rw [run, Again.outcome_read_unrolled hp h depth deep]

/-- The last attempt reads a letter before it fails, and leaves it where it was. -/
theorem many_iterates_pairs :
    let p := (satisfying Text.isLetter "letter").seq (satisfying Text.isDigit "digit")
    p.Consumes ∧
      (p.many "a1b2c+".toList).outcome =
        .ok (.success [('a', '1'), ('b', '2')] "c+".toList) := by
  intro p
  have hp : p.Consumes := .seq (.satisfying _ _) (.satisfying _ _)
  have refused : (p "c+".toList).outcome = .ok (.failure (.unexpected '+' "digit")) := rfl
  have attempts : Attempts p "a1b2c+".toList
      [(('a', '1'), "b2c+".toList), (('b', '2'), "c+".toList)] "c+".toList :=
    .more rfl (.more rfl (.failed refused))
  obtain ⟨steps, left, -, only, -, -, run, -⟩ := many_iterates hp "a1b2c+".toList
  obtain ⟨rfl, rfl⟩ := only _ _ attempts
  exact ⟨hp, congrArg Run.outcome run⟩

end Reader

end FlatExpr
