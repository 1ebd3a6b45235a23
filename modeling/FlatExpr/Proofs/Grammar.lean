import FlatExpr.Grammar
import FlatExpr.Proofs.Reader
import FlatExpr.Proofs.Reading

/-!
# Grammar — what each rule reads

One statement for each rule and each way it can go, with the whole run: what is noticed, and the
answer.  Every rule but `expr` and `assignment` is quiet and refers to nothing, so its statement
holds whatever reads for the references (`call`).

* `readWith_factor`: a factor is the operand the text begins with, and never fails.
* `readWith_operation_many`: the repeated operations are those of `operations`.
* `readWith_term_of_pos`, `readWith_chain_of_pos`: where an operator follows the operand, a term
  and a chain succeed; joining never refuses, as what stands in the operator's place is an
  operator (`joinAll_asNodes`).
* `readWith_expr_of_assigned`, `readWith_expr_of_not_assigned`: an expression is an assignment
  where `assigned?` finds one, and else the operand with the operations behind it.
-/

namespace FlatExpr.Grammar
open Text

variable {ρ : Type → Type} (call : (α : Type) → ρ α → Reader α)

/-! ### Characters -/

theorem readWith_nameChar :
    (nameChar : Parser ρ Char).readWith call = Reader.satisfying isNameChar "_" := by
  show ((Reader.satisfying isLetter "letter").orElse (Reader.satisfying isDigit "digit")).orElse
    (Reader.satisfying (· == '_') "_") = _
  rw [Reader.orElse_satisfying, Reader.orElse_satisfying]
  rfl

theorem readWith_symbol :
    (symbol : Parser ρ Char).readWith call = Reader.satisfying isOperatorChar "/" := by
  show (((Reader.satisfying (· == '+') "+").orElse (Reader.satisfying (· == '-') "-")).orElse
    (Reader.satisfying (· == '*') "*")).orElse (Reader.satisfying (· == '/') "/") = _
  rw [Reader.orElse_satisfying, Reader.orElse_satisfying, Reader.orElse_satisfying]
  rfl

/-! ### Names, numbers and operands -/

theorem readWith_word (text : List Char) :
    (word : Parser ρ String).readWith call text =
      .pure (.success (nameOf text) (text.dropWhile isNameChar)) := by
  rw [word, Parser.readWith_map, Parser.readWith_many, readWith_nameChar, Reader.many_satisfying]
  rfl

theorem readWith_name (text : List Char) :
    (name : Parser ρ Expr).readWith call text =
      .pure (.success (.name (nameOf text)) (text.dropWhile isNameChar)) := by
  rw [name, Parser.readWith_map, readWith_word]
  rfl

/-- A number fails where no digit comes first and where too many do. -/
theorem readWith_number_of_name {text : List Char}
    (h : (text.takeWhile isDigit).length = 0 ∨ maxDigits < (text.takeWhile isDigit).length) :
    ∃ why, (number : Parser ρ Expr).readWith call text = .pure (.failure why) := by
  by_cases hs : StopsAt isDigit text
  · exact ⟨_, Reader.number_of_stopsAt hs⟩
  · obtain ⟨c, rest, rfl, hc⟩ := exists_of_not_stopsAt hs
    rcases h with h | h
    · rw [List.takeWhile_cons_of_pos hc] at h
      cases h
    · exact ⟨_, (Reader.number_of_isDigit hc).trans (if_neg (Nat.not_le.mpr h))⟩

theorem readWith_number_of_digits {text : List Char} (h : 1 ≤ (text.takeWhile isDigit).length)
    (short : (text.takeWhile isDigit).length ≤ maxDigits) :
    (number : Parser ρ Expr).readWith call text =
      .pure (.success (.number (positional (text.takeWhile isDigit)))
        (text.dropWhile isDigit)) := by
  have hs : ¬ StopsAt isDigit text := by
    intro hs
    rw [hs.takeWhile] at h
    cases h
  obtain ⟨c, rest, rfl, hc⟩ := exists_of_not_stopsAt hs
  exact (Reader.number_of_isDigit hc).trans (if_pos short)

/-- **An operand.**  A factor is the operand a text begins with; it never fails. -/
theorem readWith_factor (text : List Char) :
    (factor : Parser ρ Expr).readWith call text =
      .pure (.success (operand text).1 (operand text).2) := by
  rw [factor, Parser.readWith_orElse]
  rcases operand_eq_or text with ⟨low, high, h⟩ | ⟨hd, h⟩
  · rw [readWith_number_of_digits call low high, h]
    rfl
  · obtain ⟨why, hn⟩ := readWith_number_of_name call hd
    rw [hn, Run.onFailure_pure_failure, readWith_name, h]

/-! ### Operations -/

section Operator

variable {c : Char} {text : List Char}

theorem readWith_operator_of_pos (h : isOperatorChar c = true) :
    (operator : Parser ρ Expr).readWith call (c :: text) =
      .pure (.success (.operator (String.ofList [c])) text) := by
  rw [operator, Parser.readWith_map, readWith_symbol, Reader.satisfying_of_pos h]
  rfl

theorem readWith_operator_of_stopsAt (h : StopsAt isOperatorChar text) :
    (operator : Parser ρ Expr).readWith call text = .pure (.failure (lacking "/" text)) := by
  rw [operator, Parser.readWith_map, readWith_symbol, Reader.satisfying_of_stopsAt h]
  rfl

theorem readWith_operation_of_pos (h : isOperatorChar c = true) :
    (operation : Parser ρ (Expr × Expr)).readWith call (c :: text) =
      .pure (.success (.operator (String.ofList [c]), (operand text).1) (operand text).2) := by
  rw [operation, Parser.readWith_seq, readWith_operator_of_pos call h,
    Run.onSuccess_pure_success, readWith_factor]
  rfl

theorem readWith_operation_of_stopsAt (h : StopsAt isOperatorChar text) :
    (operation : Parser ρ (Expr × Expr)).readWith call text =
      .pure (.failure (lacking "/" text)) := by
  rw [operation, Parser.readWith_seq, readWith_operator_of_stopsAt call h]
  rfl

end Operator

/-- An operation with its operator as a node of its own. -/
def asNodes (operation : String × Expr) : Expr × Expr := (.operator operation.1, operation.2)

/-- The repeated operations are the longest run of them. -/
theorem readWith_operation_many (text : List Char) :
    (operation : Parser ρ (Expr × Expr)).many.readWith call text =
      .pure (.success ((operations text).1.map asNodes) (operations text).2) := by
  refine Reader.many_eq ?_
  induction text using operations.induct with
  | case1 => rw [operations]; exact .ended
  | case2 c text h ih =>
      rw [operations_cons h]
      exact .more (readWith_operation_of_pos call h) (length_operand_le text) ih
  | case3 c text h =>
      have hs : StopsAt isOperatorChar (c :: text) := .cons (by simpa using h)
      rw [operations_of_stopsAt hs]
      exact .failed (readWith_operation_of_stopsAt call hs)

/-! ### Terms and chains -/

/-- Joining operations whose operators are operators never refuses. -/
theorem joinAll_asNodes (first : Expr) (more : List (String × Expr)) :
    joinAll first (more.map asNodes) = .ok (joined first more) := by
  induction more generalizing first with
  | nil => rfl
  | cons operation more ih => exact ih (.binary operation.1 first operation.2)

/-- A term succeeds where an operator follows the operand. -/
theorem readWith_term_of_pos {c : Char} {text rest : List Char}
    (hr : (operand text).2 = c :: rest) (h : isOperatorChar c = true) :
    (term : Parser ρ Expr).readWith call text =
      .pure (.success (.binary (String.ofList [c]) (operand text).1 (operand rest).1)
        (operand rest).2) := by
  rw [term, Parser.readWith_apply, Parser.readWith_seq, readWith_factor,
    Run.onSuccess_pure_success, hr, readWith_operation_of_pos call h]
  rfl

/-- A term fails where no operator follows the operand, as the operator does there. -/
theorem readWith_term_of_stopsAt {text : List Char} (h : StopsAt isOperatorChar (operand text).2) :
    (term : Parser ρ Expr).readWith call text =
      .pure (.failure (lacking "/" (operand text).2)) := by
  rw [term, Parser.readWith_apply, Parser.readWith_seq, readWith_factor,
    Run.onSuccess_pure_success, readWith_operation_of_stopsAt call h]
  rfl

/-- What is noticed where an operand and the operations behind it are joined. -/
def chainNotes (text : List Char) : List Event :=
  match (operations (operand text).2).1 with
  | (symbol, right) :: next :: more =>
      [.noted (.folded (.binary symbol (operand text).1 right) ((next :: more).map asNodes))]
  | _ => []

/-- **A chain.**  It succeeds where an operator follows the operand, and joins all operations. -/
theorem readWith_chain_of_pos {c : Char} {text rest : List Char}
    (hr : (operand text).2 = c :: rest) (h : isOperatorChar c = true) :
    (chain : Parser ρ Expr).readWith call text =
      ⟨chainNotes text,
        .ok (.success (chainFrom (operand text)).1 (chainFrom (operand text)).2)⟩ := by
  rw [chain, Parser.readWith_apply, Parser.readWith_seq, readWith_term_of_pos call hr h,
    Run.onSuccess_pure_success, readWith_operation_many, Run.onSuccess_pure_success,
    Run.onSuccess_pure_success]
  have hops : operations (c :: rest) = _ := operations_cons h
  rw [chainNotes, chainFrom, hr, hops, fold, joinAll_asNodes]
  -- the joining is noted exactly if there is an operation behind the term
  cases (operations (operand rest).2).1 <;> rfl

theorem readWith_chain_of_stopsAt {text : List Char}
    (h : StopsAt isOperatorChar (operand text).2) :
    ∃ why, (chain : Parser ρ Expr).readWith call text = .pure (.failure why) := by
  rw [chain, Parser.readWith_apply, Parser.readWith_seq, readWith_term_of_stopsAt call h]
  exact ⟨_, rfl⟩

/-! ### Assignments and expressions -/

section Assigned

variable (self : ρ Expr) {text rest : List Char}

theorem readWith_assignment_of_assigned (h : assigned? text = some rest) :
    (assignment self).readWith call text =
      (call Expr self rest).onSuccess fun value left =>
        .pure (.success (.assign (nameOf text) value) left) := by
  have equals : (Parser.character '=' : Parser ρ Char).readWith call ('=' :: rest) =
      .pure (.success '=' rest) := rfl
  rw [assignment, Parser.readWith_map, Parser.readWith_seq, Parser.readWith_seq, readWith_word,
    Run.onSuccess_pure_success, dropWhile_of_assigned h, equals, Run.onSuccess_pure_success,
    Run.onSuccess_pure_success, Parser.readWith_later]
  simp only [Run.onSuccess, Run.bind_assoc]
  congr 1
  funext result
  cases result with
  | success value left => exact Run.pure_bind _ _
  | failure why => exact Run.pure_bind _ _

/-- Where there is no assignment it fails, as the equals sign does behind the name. -/
theorem readWith_assignment_of_not_assigned (h : assigned? text = none) :
    (assignment self).readWith call text =
      .pure (.failure (lacking "=" (text.dropWhile isNameChar))) := by
  have equals : (Parser.character '=' : Parser ρ Char).readWith call (text.dropWhile isNameChar) =
      .pure (.failure (lacking "=" (text.dropWhile isNameChar))) :=
    Reader.satisfying_of_stopsAt (stopsAt_of_not_assigned h)
  rw [assignment, Parser.readWith_map, Parser.readWith_seq, Parser.readWith_seq, readWith_word,
    Run.onSuccess_pure_success, equals]
  rfl

/-- Where there is an assignment no chain is read, and the assignment is tried. -/
theorem readWith_expr_of_assigned (h : assigned? text = some rest) :
    (expr self).readWith call text =
      ((assignment self).readWith call text).onFailure fun _ =>
        .pure (.success (operand text).1 (operand text).2) := by
  obtain ⟨why, hchain⟩ := readWith_chain_of_stopsAt call (stopsAt_operand_of_assigned h)
  rw [expr, Parser.readWith_orElse, Parser.readWith_orElse, hchain, Run.onFailure_pure_failure]
  simp only [readWith_factor]

/-- Where there is none, the operand is read with the operations behind it. -/
theorem readWith_expr_of_not_assigned (h : assigned? text = none) :
    (expr self).readWith call text =
      ⟨chainNotes text,
        .ok (.success (chainFrom (operand text)).1 (chainFrom (operand text)).2)⟩ := by
  rw [expr, Parser.readWith_orElse, Parser.readWith_orElse]
  by_cases hop : StopsAt isOperatorChar (operand text).2
  · obtain ⟨why, hchain⟩ := readWith_chain_of_stopsAt call hop
    have hnotes : chainNotes text = [] := by rw [chainNotes, operations_of_stopsAt hop]
    rw [hchain, Run.onFailure_pure_failure, readWith_assignment_of_not_assigned call self h,
      Run.onFailure_pure_failure, readWith_factor, hnotes, chainFrom_of_stopsAt hop]
    rfl
  · obtain ⟨c, left, hr, hc⟩ := exists_of_not_stopsAt hop
    rw [readWith_chain_of_pos call hr hc]
    simp [Run.onFailure, Run.bind, Run.pure]

end Assigned

/-! ### References followed up to a limit -/

/-- The run that reads a text as an expression: its reading where no more assignments are nested
than the limit allows; else a stop, before anything is noticed. -/
def readingWithin (limit : Nat) (text : List Char) : Run (Result Expr) :=
  if nesting text ≤ limit then
    ⟨chainNotes (body text), .ok (.success (reading text).1 (reading text).2)⟩
  else .stop .tooDeep

theorem readingWithin_of_not_assigned {limit : Nat} {text : List Char}
    (h : assigned? text = none) :
    readingWithin limit text =
      ⟨chainNotes text,
        .ok (.success (chainFrom (operand text)).1 (chainFrom (operand text)).2)⟩ := by
  rw [readingWithin, nesting_of_not_assigned h, body_of_not_assigned h, reading_of_not_assigned h]
  rfl

theorem readingWithin_zero_of_assigned {text rest : List Char} (h : assigned? text = some rest) :
    readingWithin 0 text = .stop .tooDeep := by
  rw [readingWithin, nesting_of_assigned h]
  rfl

/-- One assignment takes one level of the limit. -/
theorem readingWithin_succ_of_assigned {limit : Nat} {text rest : List Char}
    (h : assigned? text = some rest) :
    (readingWithin limit rest).onSuccess (fun value left =>
        .pure (.success (.assign (nameOf text) value) left)) = readingWithin (limit + 1) text := by
  rw [readingWithin, readingWithin, nesting_of_assigned h, body_of_assigned h,
    reading_of_assigned h]
  by_cases hlimit : nesting rest ≤ limit
  · rw [if_pos hlimit, if_pos (Nat.succ_le_succ hlimit)]
    simp [Run.onSuccess, Run.bind, Run.pure]
  · rw [if_neg hlimit, if_neg fun hle => hlimit (Nat.le_of_succ_le_succ hle)]
    rfl

/-- An expression never fails, so nothing is tried behind it. -/
theorem readingWithin_onFailure (limit : Nat) (text : List Char)
    (f : Complaint → Run (Result Expr)) :
    (readingWithin limit text).onFailure f = readingWithin limit text := by
  rw [readingWithin]
  split
  · simp [Run.onFailure, Run.bind, Run.pure]
  · rfl

/-- The step of the induction below, which is also what it says of `assignment`. -/
theorem read_assignment_succ {limit : Nat} {text rest : List Char}
    (h : assigned? text = some rest)
    (hrest : (expr .expr).read resolve limit rest = readingWithin limit rest) :
    (assignment .expr).read resolve (limit + 1) text = readingWithin (limit + 1) text := by
  rw [Parser.read_succ, readWith_assignment_of_assigned _ _ h]
  have hcall : (resolve.build Self.expr).bind (fun q => q.read resolve limit rest) =
      (expr .expr).read resolve limit rest := Run.pure_bind _ _
  rw [hcall, hrest]
  exact readingWithin_succ_of_assigned h

/-- **An expression.**  A text is read as an expression by one pass over it. -/
theorem read_expr (limit : Nat) (text : List Char) :
    (expr .expr).read resolve limit text = readingWithin limit text := by
  induction limit generalizing text with
  | zero =>
      rw [Parser.read_zero]
      cases h : assigned? text with
      | none => rw [readWith_expr_of_not_assigned _ _ h, readingWithin_of_not_assigned h]
      | some rest =>
          -- the reference stops the run, so that the operand behind the choice is not tried
          rw [readWith_expr_of_assigned _ _ h, readWith_assignment_of_assigned _ _ h,
            readingWithin_zero_of_assigned h]
          rfl
  | succ limit ih =>
      cases h : assigned? text with
      | none =>
          rw [Parser.read_succ, readWith_expr_of_not_assigned _ _ h,
            readingWithin_of_not_assigned h]
      | some rest =>
          have hassign := read_assignment_succ h (ih rest)
          rw [Parser.read_succ] at hassign ⊢
          rw [readWith_expr_of_assigned _ _ h, hassign, readingWithin_onFailure]

/-- **An assignment.**  A text with one is read by the rule `assignment` as by `expr`. -/
theorem read_assignment_of_assigned (limit : Nat) {text rest : List Char}
    (h : assigned? text = some rest) :
    (assignment .expr).read resolve limit text = readingWithin limit text := by
  cases limit with
  | zero =>
      rw [Parser.read_zero, readWith_assignment_of_assigned _ _ h,
        readingWithin_zero_of_assigned h]
      rfl
  | succ limit => exact read_assignment_succ h (read_expr limit rest)

end FlatExpr.Grammar
