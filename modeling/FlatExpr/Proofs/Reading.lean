import FlatExpr.Expr
import FlatExpr.Proofs.Text.Numeral

/-!
# Reading — the expression a text begins with

The reading of a text, said in one pass from left to right and without trying anything twice.
An *operand* is the longest run of digits, or, where there are none or too many of them, the
longest run of name characters.  The reading is

* the operand and the operations behind it, if an operator follows the operand (`chainFrom`);
* else, if `=` follows the longest run of name characters, the assignment to that name of the
  reading of what is behind the `=` (`assigned?`);
* else the operand.

`nesting` counts the assignments.  A text is an assignment exactly if it is a name in front of an
`=` (`assigned?_eq_some_iff`); then no operator follows its operand, so that the order of the
first two cases does not matter (`nesting_of_assigned`, `reading_of_assigned`).
-/

namespace FlatExpr
open Text

/-! ### Operands -/

/-- The longest run of name characters. -/
def nameOf (text : List Char) : String := String.ofList (text.takeWhile isNameChar)

/-- The operand that a text begins with, and what is left behind it. -/
def operand (text : List Char) : Expr × List Char :=
  let digits := text.takeWhile isDigit
  if 1 ≤ digits.length ∧ digits.length ≤ 4300 then
    (.number (positional digits), text.dropWhile isDigit)
  else (.name (nameOf text), text.dropWhile isNameChar)

theorem operand_of_number {text : List Char} (h : 1 ≤ (text.takeWhile isDigit).length)
    (short : (text.takeWhile isDigit).length ≤ maxDigits) :
    operand text = (.number (positional (text.takeWhile isDigit)), text.dropWhile isDigit) :=
  if_pos ⟨h, short⟩

theorem operand_of_name {text : List Char}
    (h : (text.takeWhile isDigit).length = 0 ∨ maxDigits < (text.takeWhile isDigit).length) :
    operand text = (.name (nameOf text), text.dropWhile isNameChar) := by
  refine if_neg fun ⟨low, high⟩ => ?_
  rcases h with h | h
  · omega
  · exact absurd high (Nat.not_le.mpr h)

/-- An operand is a number or a name. -/
theorem operand_eq_or (text : List Char) :
    (1 ≤ (text.takeWhile isDigit).length ∧ (text.takeWhile isDigit).length ≤ maxDigits ∧
      operand text = (.number (positional (text.takeWhile isDigit)), text.dropWhile isDigit)) ∨
    (((text.takeWhile isDigit).length = 0 ∨ maxDigits < (text.takeWhile isDigit).length) ∧
      operand text = (.name (nameOf text), text.dropWhile isNameChar)) := by
  by_cases low : 1 ≤ (text.takeWhile isDigit).length
  · by_cases high : (text.takeWhile isDigit).length ≤ maxDigits
    · exact .inl ⟨low, high, operand_of_number low high⟩
    · have high : maxDigits < (text.takeWhile isDigit).length := Nat.not_le.mp high
      exact .inr ⟨.inr high, operand_of_name (.inr high)⟩
  · have low : (text.takeWhile isDigit).length = 0 := Nat.lt_one_iff.mp (Nat.not_le.mp low)
    exact .inr ⟨.inl low, operand_of_name (.inl low)⟩

theorem length_operand_le (text : List Char) : (operand text).2.length ≤ text.length := by
  rcases operand_eq_or text with ⟨-, -, h⟩ | ⟨-, h⟩
  · rw [h]; exact length_dropWhile_le _ _
  · rw [h]; exact length_dropWhile_le _ _

/-! ### Chains -/

/-- Whether a text begins with an operator. -/
def startsWithOperator : List Char → Bool
  | [] => false
  | c :: _ => isOperatorChar c

theorem startsWithOperator_eq_false_iff {text : List Char} :
    startsWithOperator text = false ↔ StopsAt isOperatorChar text := by
  cases text <;> simp [startsWithOperator, StopsAt]

/-- The longest run of operators, each with the operand behind it, and what is left. -/
def operations : List Char → List (String × Expr) × List Char
  | [] => ([], [])
  | c :: text =>
      if isOperatorChar c then
        ((String.ofList [c], (operand text).1) :: (operations (operand text).2).1,
          (operations (operand text).2).2)
      else ([], c :: text)
termination_by text => text.length
decreasing_by all_goals exact Nat.lt_succ_of_le (length_operand_le text)

theorem operations_of_stopsAt {text : List Char} (h : StopsAt isOperatorChar text) :
    operations text = ([], text) := by
  cases text with
  | nil => rw [operations]
  | cons c text => rw [operations, if_neg (by simp [h c rfl])]

theorem operations_cons {c : Char} {text : List Char} (h : isOperatorChar c = true) :
    operations (c :: text) =
      ((String.ofList [c], (operand text).1) :: (operations (operand text).2).1,
        (operations (operand text).2).2) := by
  rw [operations, if_pos h]

/-- No operation is left behind the longest run of them. -/
theorem stopsAt_operations (text : List Char) : StopsAt isOperatorChar (operations text).2 := by
  induction text using operations.induct with
  | case1 => rw [operations]; exact .nil
  | case2 c text h ih => rw [operations_cons h]; exact ih
  | case3 c text h =>
      have stop : StopsAt isOperatorChar (c :: text) := .cons (by simpa using h)
      rw [operations_of_stopsAt stop]
      exact stop

/-- Operations joined onto an expression from left to right. -/
def joined (first : Expr) (more : List (String × Expr)) : Expr :=
  more.foldl (fun left operation => .binary operation.1 left operation.2) first

/-- An expression with the operations that follow it joined on, and what is left. -/
def chainFrom (start : Expr × List Char) : Expr × List Char :=
  (joined start.1 (operations start.2).1, (operations start.2).2)

theorem chainFrom_of_stopsAt {start : Expr × List Char} (h : StopsAt isOperatorChar start.2) :
    chainFrom start = start := by
  rw [chainFrom, operations_of_stopsAt h]
  rfl

theorem chainFrom_cons {e : Expr} {c : Char} {text : List Char} (h : isOperatorChar c = true) :
    chainFrom (e, c :: text) =
      chainFrom (.binary (String.ofList [c]) e (operand text).1, (operand text).2) := by
  rw [chainFrom, operations_cons h]
  rfl

/-! ### Assignments -/

/-- What is behind the `=` that follows the longest run of name characters. -/
def assigned? (text : List Char) : Option (List Char) :=
  match text.dropWhile isNameChar with
  | '=' :: rest => some rest
  | _ => none

theorem dropWhile_of_assigned {text rest : List Char} (h : assigned? text = some rest) :
    text.dropWhile isNameChar = '=' :: rest := by
  unfold assigned? at h
  split at h
  · next heq => rw [heq, Option.some.inj h]
  · cases h

/-- Where there is no assignment, no `=` follows the name. -/
theorem stopsAt_of_not_assigned {text : List Char} (h : assigned? text = none) :
    StopsAt (· == '=') (text.dropWhile isNameChar) := by
  unfold assigned? at h
  split at h
  · cases h
  · next hne =>
      intro c hc
      obtain ⟨rest, hrest⟩ := List.head?_eq_some_iff.mp hc
      exact beq_false_of_ne fun heq => hne rest (heq ▸ hrest)

/-- A text is an assignment exactly if it is a name in front of an `=`. -/
theorem assigned?_eq_some_iff {text rest : List Char} :
    assigned? text = some rest ↔
      ∃ name, (∀ c ∈ name, isNameChar c = true) ∧ text = name ++ '=' :: rest := by
  constructor
  · intro h
    refine ⟨text.takeWhile isNameChar, fun c hc => List.mem_takeWhile_imp hc, ?_⟩
    rw [← dropWhile_of_assigned h, List.takeWhile_append_dropWhile]
  · rintro ⟨name, hname, rfl⟩
    unfold assigned?
    simp only [dropWhile_append_of_stopsAt hname (.cons isNameChar_equals)]

theorem length_lt_of_assigned {text rest : List Char} (h : assigned? text = some rest) :
    rest.length < text.length := by
  obtain ⟨name, -, rfl⟩ := assigned?_eq_some_iff.mp h
  simp only [List.length_append, List.length_cons]
  omega

/-- No operator follows the operand of an assignment. -/
theorem stopsAt_operand_of_assigned {text rest : List Char} (h : assigned? text = some rest) :
    StopsAt isOperatorChar (operand text).2 := by
  have hdrop := dropWhile_of_assigned h
  have hstop : StopsAt isOperatorChar ('=' :: rest) := .cons isOperatorChar_equals
  obtain ⟨name, hname, rfl⟩ := assigned?_eq_some_iff.mp h
  rcases operand_eq_or (name ++ '=' :: rest) with ⟨-, -, h⟩ | ⟨-, h⟩
  · -- behind the digits stands another name character, or the `=`
    rw [h]
    refine hstop.dropWhile_append (fun c hc => isOperatorChar_of_isNameChar (hname c hc)) ?_
    exact .cons (isDigit_eq_false_of_isNameChar isNameChar_equals)
  · rw [h, hdrop]
    exact hstop

/-! ### The reading -/

/-- The expression that a text begins with, and what is left behind it. -/
def reading (text : List Char) : Expr × List Char :=
  if startsWithOperator (operand text).2 then chainFrom (operand text)
  else
    match _ : assigned? text with
    | some rest => (.assign (nameOf text) (reading rest).1, (reading rest).2)
    | none => operand text
termination_by text.length
decreasing_by all_goals exact length_lt_of_assigned ‹_›

/-- How many assignments are nested in the expression that a text begins with. -/
def nesting (text : List Char) : Nat :=
  if startsWithOperator (operand text).2 then 0
  else
    match _ : assigned? text with
    | some rest => nesting rest + 1
    | none => 0
termination_by text.length
decreasing_by all_goals exact length_lt_of_assigned ‹_›

theorem reading_of_assigned {text rest : List Char} (h : assigned? text = some rest) :
    reading text = (.assign (nameOf text) (reading rest).1, (reading rest).2) := by
  have hop := startsWithOperator_eq_false_iff.mpr (stopsAt_operand_of_assigned h)
  rw [reading, if_neg (by simp [hop])]
  split
  · next heq => cases h.symm.trans heq; rfl
  · next heq => cases h.symm.trans heq

theorem reading_of_not_assigned {text : List Char} (h : assigned? text = none) :
    reading text = chainFrom (operand text) := by
  rw [reading]
  split
  · rfl
  · next hop =>
      have hop : StopsAt isOperatorChar (operand text).2 :=
        startsWithOperator_eq_false_iff.mp (by simpa using hop)
      rw [chainFrom_of_stopsAt hop]
      split
      · next heq => cases h.symm.trans heq
      · rfl

theorem nesting_of_assigned {text rest : List Char} (h : assigned? text = some rest) :
    nesting text = nesting rest + 1 := by
  have hop := startsWithOperator_eq_false_iff.mpr (stopsAt_operand_of_assigned h)
  rw [nesting, if_neg (by simp [hop])]
  split
  · next heq => cases h.symm.trans heq; rfl
  · next heq => cases h.symm.trans heq

theorem nesting_of_not_assigned {text : List Char} (h : assigned? text = none) :
    nesting text = 0 := by
  rw [nesting]
  split
  · rfl
  · split
    · next heq => cases h.symm.trans heq
    · rfl

/-- What is behind the last of the assignments that a text begins with. -/
def body (text : List Char) : List Char :=
  match _ : assigned? text with
  | some rest => body rest
  | none => text
termination_by text.length
decreasing_by exact length_lt_of_assigned ‹_›

theorem body_of_assigned {text rest : List Char} (h : assigned? text = some rest) :
    body text = body rest := by
  rw [body]
  split
  · next heq => cases h.symm.trans heq; rfl
  · next heq => cases h.symm.trans heq

theorem body_of_not_assigned {text : List Char} (h : assigned? text = none) :
    body text = text := by
  rw [body]
  split
  · next heq => cases h.symm.trans heq
  · rfl

end FlatExpr
