import FlatExpr.Proofs.Reading

/-!
# Tree — the expressions that texts are read as

An *operand* is a number of at most 4300 digits, or a variable whose name does not begin with a
run of digits that would be read as a number.  A *chain* is an operand, or a chain joined with an
operand.  A *tree* is a chain inside any number of assignments.  Names may be empty, and the
target of an assignment may begin with digits.

`unparse` writes a tree without blanks or brackets.  Nothing but trees is ever read: the reading of
any text is one (`isTree_reading`).
-/

namespace FlatExpr
open Text

/-! ### Shapes -/

/-- A text of name characters. -/
def IsName (name : String) : Prop := ∀ c ∈ name.toList, isNameChar c = true

instance (name : String) : Decidable (IsName name) :=
  decidable_of_iff (name.toList.all isNameChar = true) List.all_eq_true

/-- A number that can be read, or a variable whose name is not read as a number. -/
inductive IsOperand : Expr → Prop where
  | number {n : Nat} (h : n < 10 ^ 4300) : IsOperand (.number n)
  | name {name : String} (h : IsName name)
      (digits : name.toList.takeWhile isDigit = [] ∨
        4300 < (name.toList.takeWhile isDigit).length) : IsOperand (.name name)

/-- An operand, or a chain joined with an operand by one of the four operators. -/
inductive IsChain : Expr → Prop where
  | operand {e : Expr} (h : IsOperand e) : IsChain e
  | binary {c : Char} {left right : Expr} (h : isOperatorChar c = true) (hl : IsChain left)
      (hr : IsOperand right) : IsChain (.binary (String.ofList [c]) left right)

/-- A chain, or an assignment of a tree to a name. -/
inductive IsTree : Expr → Prop where
  | chain {e : Expr} (h : IsChain e) : IsTree e
  | assign {target : String} {value : Expr} (h : IsName target) (hv : IsTree value) :
      IsTree (.assign target value)

/-- How many assignments there are in an expression. -/
def assignments : Expr → Nat
  | .assign _ value => assignments value + 1
  | .binary _ left right => assignments left + assignments right
  | _ => 0

/-- The text of an expression, without blanks or brackets. -/
def unparse : Expr → List Char
  | .bare => []
  | .number value => (decimal value).toList
  | .name text => text.toList
  | .operator symbol => symbol.toList
  | .assign target value => target.toList ++ '=' :: unparse value
  | .binary symbol left right => unparse left ++ (symbol.toList ++ unparse right)

theorem unparse_number (n : Nat) : unparse (.number n) = decimalDigits n := by
  show (String.ofList (decimalDigits n)).toList = decimalDigits n
  rw [String.toList_ofList]

theorem unparse_binary (c : Char) (left right : Expr) :
    unparse (.binary (String.ofList [c]) left right) = unparse left ++ c :: unparse right := by
  rw [unparse, String.toList_ofList]
  rfl

theorem IsOperand.assignments_eq_zero {e : Expr} (h : IsOperand e) : assignments e = 0 := by
  cases h <;> rfl

theorem IsChain.assignments_eq_zero {e : Expr} (h : IsChain e) : assignments e = 0 := by
  induction h with
  | operand h => exact h.assignments_eq_zero
  | binary _ _ hr ih => rw [assignments, ih, hr.assignments_eq_zero]

/-! ### Names -/

/-- The name of a text that begins with one. -/
theorem nameOf_append {name : String} {rest : List Char} (h : IsName name)
    (hr : StopsAt isNameChar rest) : nameOf (name.toList ++ rest) = name := by
  rw [nameOf, takeWhile_append_of_stopsAt h hr, String.ofList_toList]

theorem assigned_unparse {target : String} {value : Expr} (h : IsName target) :
    assigned? (unparse (.assign target value)) = some (unparse value) :=
  assigned?_eq_some_iff.mpr ⟨target.toList, h, rfl⟩

/-! ### What is read -/

theorem isName_nameOf (text : List Char) : IsName (nameOf text) := by
  intro c hc
  rw [nameOf, String.toList_ofList] at hc
  exact List.mem_takeWhile_imp hc

/-- A name begins with the digits that its text begins with. -/
theorem takeWhile_isDigit_nameOf (text : List Char) :
    (nameOf text).toList.takeWhile isDigit = text.takeWhile isDigit := by
  rw [nameOf, String.toList_ofList]
  induction text with
  | nil => rfl
  | cons c text ih =>
      by_cases hd : isDigit c = true
      · rw [List.takeWhile_cons_of_pos (isNameChar_of_isDigit hd), List.takeWhile_cons_of_pos hd,
          List.takeWhile_cons_of_pos hd, ih]
      · have stop : StopsAt isDigit (c :: text) := .cons (by simpa using hd)
        rw [stop.takeWhile]
        by_cases hn : isNameChar c = true
        · rw [List.takeWhile_cons_of_pos hn, List.takeWhile_cons_of_neg hd]
        · rw [List.takeWhile_cons_of_neg hn, List.takeWhile_nil]

theorem isOperand_operand (text : List Char) : IsOperand (operand text).1 := by
  rcases operand_eq_or text with ⟨-, high, h⟩ | ⟨hd, h⟩
  · rw [h]
    exact .number (positional_lt_of_length_le high)
  · rw [h]
    refine .name (isName_nameOf text) ?_
    rw [takeWhile_isDigit_nameOf]
    exact hd.imp List.eq_nil_of_length_eq_zero id

/-- The operations behind a chain make a chain of it. -/
theorem isChain_chainFrom {e : Expr} (h : IsChain e) (text : List Char) :
    IsChain (chainFrom (e, text)).1 := by
  induction text using operations.induct generalizing e with
  | case1 => rwa [chainFrom_of_stopsAt .nil]
  | case2 c text hc ih =>
      rw [chainFrom_cons hc]
      exact ih (.binary hc h (isOperand_operand text))
  | case3 c text hc => rwa [chainFrom_of_stopsAt (.cons (by simpa using hc))]

/-- **Every reading is a tree.** -/
theorem isTree_reading (text : List Char) : IsTree (reading text).1 := by
  induction text using body.induct with
  | case1 text rest h ih =>
      rw [reading_of_assigned h]
      exact .assign (isName_nameOf text) ih
  | case2 text h =>
      rw [reading_of_not_assigned h]
      exact .chain (isChain_chainFrom (.operand (isOperand_operand text)) _)

end FlatExpr
