import FlatExpr.Proofs.Tree

/-!
# Spelling — the texts that are read as a tree

An expression is spelled by every text that is its own (`unparse`) but for the digits of its
numbers: a number is spelled by any run of at most 4300 digits that denotes it, scripts mixed and
zeros in front.

Which of the spellings a text begins with does not matter to what is read (`operand_of_spells`,
`chainFrom_of_spells`, `reading_of_spells`), as long as what stands behind it does not go on with
it:

* `Ends`: the last operand is not longer.  A number ends at anything but a digit, so a name may
  stand behind it; a name ends at anything but a character of a name.
* `Closes`: there is no operation behind it, and an operand is not the target of an assignment.

Every text begins with a spelling of its reading, and what is behind it closes it
(`exists_spells_reading`).
-/

namespace FlatExpr
open Text

/-! ### Spellings -/

/-- A text that spells an expression: its own text, with any digits for its numbers. -/
inductive Spells : Expr → List Char → Prop where
  | number {value : Int} {digits : List Char} (hne : digits ≠ [])
      (h : ∀ c ∈ digits, isDigit c = true) (short : digits.length ≤ 4300)
      (hv : value = positional digits) : Spells (.number value) digits
  | name (name : String) : Spells (.name name) name.toList
  | operator (symbol : String) : Spells (.operator symbol) symbol.toList
  | assign (target : String) {value : Expr} {text : List Char} (h : Spells value text) :
      Spells (.assign target value) (target.toList ++ '=' :: text)
  | binary (symbol : String) {left right : Expr} {front back : List Char}
      (hl : Spells left front) (hr : Spells right back) :
      Spells (.binary symbol left right) (front ++ (symbol.toList ++ back))

theorem spells_decimalDigits {n : Nat} (h : n < 10 ^ 4300) :
    Spells (.number n) (decimalDigits n) :=
  .number (decimalDigits_ne_nil n) (fun _ hc => isDigit_of_mem_decimalDigits hc)
    ((length_decimalDigits_le_iff (by decide)).mpr h) (by rw [positional_decimalDigits])

/-- What can be spelled is spelled by its own text. -/
theorem Spells.spells_unparse {e : Expr} {text : List Char} (h : Spells e text) :
    Spells e (unparse e) := by
  induction h with
  | number hne h short hv =>
      subst hv
      rw [unparse_number]
      exact spells_decimalDigits (positional_lt_of_length_le short)
  | name name => exact .name name
  | operator symbol => exact .operator symbol
  | assign target _ ih => exact .assign target ih
  | binary symbol _ _ ihl ihr => exact .binary symbol ihl ihr

theorem IsOperand.spells_unparse {e : Expr} (h : IsOperand e) : Spells e (unparse e) := by
  cases h with
  | number h =>
      rw [unparse_number]
      exact spells_decimalDigits h
  | name h digits => exact .name _

theorem IsChain.spells_unparse {e : Expr} (h : IsChain e) : Spells e (unparse e) := by
  induction h with
  | operand h => exact h.spells_unparse
  | binary hc hl hr ih => exact .binary _ ih hr.spells_unparse

/-- A tree is spelled by its own text. -/
theorem IsTree.spells_unparse {e : Expr} (h : IsTree e) : Spells e (unparse e) := by
  induction h with
  | chain h => exact h.spells_unparse
  | assign htarget hv ih => exact .assign _ ih

/-! ### What may stand behind a spelling -/

/-- What stands behind an expression does not go on with its last operand. -/
def Ends : Expr → List Char → Prop
  | .number _, rest => StopsAt isDigit rest
  | .assign _ value, rest => Ends value rest
  | .binary _ _ right, rest => Ends right rest
  | _, rest => StopsAt isNameChar rest

/-- What stands behind an expression does not go on with it in any way. -/
def Closes : Expr → List Char → Prop
  | .assign _ value, rest => Closes value rest
  | .binary _ _ right, rest => Ends right rest ∧ StopsAt isOperatorChar rest
  | e, rest => Ends e rest ∧ StopsAt isOperatorChar rest ∧ assigned? rest = none

section Behind

variable {e : Expr} {rest : List Char}

theorem ends_of_stopsAt (e : Expr) (h : StopsAt isNameChar rest) : Ends e rest := by
  induction e with
  | number value => exact h.isDigit
  | assign target value ih => exact ih
  | binary symbol left right _ ih => exact ih
  | _ => exact h

theorem IsOperand.closes (he : IsOperand e) (h : Ends e rest) (stop : StopsAt isOperatorChar rest)
    (hn : assigned? rest = none) : Closes e rest := by
  cases he <;> exact ⟨h, stop, hn⟩

/-- Nothing at all closes every expression. -/
theorem closes_nil (e : Expr) : Closes e [] := by
  induction e with
  | assign target value ih => exact ih
  | binary symbol left right _ _ => exact ⟨ends_of_stopsAt right .nil, .nil⟩
  | _ => exact ⟨ends_of_stopsAt _ .nil, .nil, rfl⟩

theorem Closes.chain (he : IsChain e) (h : Closes e rest) :
    Ends e rest ∧ StopsAt isOperatorChar rest := by
  cases he with
  | operand he => cases he <;> exact ⟨h.1, h.2.1⟩
  | binary => exact h

/-- What closes a tree does not go on with its last operand. -/
theorem IsTree.ends (he : IsTree e) (h : Closes e rest) : Ends e rest := by
  induction he with
  | chain he => exact (h.chain he).1
  | assign _ _ ih => exact ih h

theorem Closes.not_assigned (he : IsOperand e) (h : Closes e rest) : assigned? rest = none := by
  cases he <;> exact h.2.2

end Behind

/-! ### Reading a spelling -/

section Reading

variable {e : Expr} {front rest : List Char}

/-- Whether there is an assignment is decided behind the name that a text begins with. -/
theorem assigned_append (h : ∀ c ∈ front, isNameChar c = true) (rest : List Char) :
    assigned? (front ++ rest) = assigned? rest := by
  unfold assigned?
  rw [List.dropWhile_append_of_pos h]

/-- **An operand** is read back from any spelling. -/
theorem operand_of_spells (h : Spells e front) (he : IsOperand e) (hr : Ends e rest) :
    operand (front ++ rest) = (e, rest) := by
  cases h with
  | number hne hd short hv =>
      have hfront := takeWhile_append_of_stopsAt hd hr
      have low : 1 ≤ front.length := List.length_pos_iff.mpr hne
      rw [operand_of_number (by rwa [hfront]) (by rwa [hfront]), hfront,
        dropWhile_append_of_stopsAt hd hr, hv]
  | name name =>
      cases he with
      | name hname digits =>
          have hr : StopsAt isNameChar rest := hr
          -- what follows adds nothing to the digits in front of the name, so it stays a name
          have hfront := takeWhile_append_stopsAt name.toList hr.isDigit
          have long : ((name.toList ++ rest).takeWhile isDigit).length = 0 ∨
              maxDigits < ((name.toList ++ rest).takeWhile isDigit).length := by
            rw [hfront]
            exact digits.imp (congrArg List.length) id
          rw [operand_of_name long, nameOf_append hname hr, dropWhile_append_of_stopsAt hname hr]
  | operator | assign | binary => cases he

/-- **A chain** is read back operation by operation, joined from the left. -/
theorem chainFrom_of_spells (h : Spells e front) (he : IsChain e) (hr : Ends e rest) :
    chainFrom (operand (front ++ rest)) = chainFrom (e, rest) := by
  induction he generalizing front rest with
  | operand he => rw [operand_of_spells h he hr]
  | @binary c left right hc _ hright ih =>
      cases h with
      | @binary _ _ _ first second hfirst hsecond =>
          have stop : StopsAt isNameChar (c :: (second ++ rest)) :=
            .cons (isNameChar_of_isOperatorChar hc)
          rw [String.toList_ofList, List.append_assoc, List.append_assoc, List.singleton_append,
            ih hfirst (ends_of_stopsAt left stop), chainFrom_cons hc,
            operand_of_spells hsecond hright hr]

/-- An operator that stands behind a chain stays behind its first operand. -/
theorem not_stopsAt_operand_of_spells {c : Char} (hc : isOperatorChar c = true) (h : Spells e front)
    (he : IsChain e) : ¬ StopsAt isOperatorChar (operand (front ++ c :: rest)).2 := by
  have hn : StopsAt isNameChar (c :: rest) := .cons (isNameChar_of_isOperatorChar hc)
  induction he generalizing front c rest with
  | operand he =>
      rw [operand_of_spells h he (ends_of_stopsAt _ hn)]
      exact fun hs => absurd (hs c rfl) (by simp [hc])
  | @binary d left right hd _ _ ih =>
      cases h with
      | @binary _ _ _ first second hfirst _ =>
          rw [String.toList_ofList, List.append_assoc, List.append_assoc, List.singleton_append]
          exact ih hd hfirst (.cons (isNameChar_of_isOperatorChar hd))

theorem Spells.isNameChar (h : Spells e front) (he : IsOperand e) :
    ∀ c ∈ front, isNameChar c = true := by
  cases h with
  | number _ hd _ _ => exact fun c hc => isNameChar_of_isDigit (hd c hc)
  | name name => cases he with | name hname _ => exact hname
  | operator | assign | binary => cases he

/-- No chain is the target of an assignment. -/
theorem not_assigned_of_spells (h : Spells e front) (he : IsChain e) (hr : Closes e rest) :
    assigned? (front ++ rest) = none := by
  cases he with
  | operand he => rw [assigned_append (h.isNameChar he), hr.not_assigned he]
  | @binary c left right hc hl _ =>
      cases h with
      | @binary _ _ _ first second hfirst _ =>
          rw [String.toList_ofList, List.append_assoc, List.append_assoc, List.singleton_append,
            Option.eq_none_iff_forall_ne_some]
          exact fun behind ha =>
            not_stopsAt_operand_of_spells hc hfirst hl (stopsAt_operand_of_assigned ha)

/-- **A tree** is the reading of any of its spellings, and as many assignments are nested in the
text as there are in the tree. -/
theorem reading_of_spells (h : Spells e front) (he : IsTree e) (hr : Closes e rest) :
    reading (front ++ rest) = (e, rest) ∧ nesting (front ++ rest) = assignments e := by
  induction he generalizing front with
  | chain he =>
      have hn := not_assigned_of_spells h he hr
      obtain ⟨ends, stop⟩ := hr.chain he
      rw [reading_of_not_assigned hn, nesting_of_not_assigned hn, chainFrom_of_spells h he ends,
        he.assignments_eq_zero]
      exact ⟨chainFrom_of_stopsAt stop, rfl⟩
  | @assign target value htarget _ ih =>
      cases h with
      | @assign _ _ text h =>
          obtain ⟨hreading, hnesting⟩ := ih h hr
          have hname : nameOf (target.toList ++ '=' :: (text ++ rest)) = target :=
            nameOf_append htarget (.cons isNameChar_equals)
          have ha : assigned? (target.toList ++ '=' :: (text ++ rest)) = some (text ++ rest) :=
            assigned?_eq_some_iff.mpr ⟨target.toList, htarget, rfl⟩
          rw [List.append_assoc, List.cons_append, reading_of_assigned ha, hreading, hname,
            nesting_of_assigned ha, hnesting, assignments]
          exact ⟨rfl, rfl⟩

end Reading

/-! ### Reading a tree's own text -/

/-- An operand is read back where no name character follows it. -/
theorem operand_unparse {e : Expr} (h : IsOperand e) {rest : List Char}
    (hr : StopsAt isNameChar rest) : operand (unparse e ++ rest) = (e, rest) :=
  operand_of_spells h.spells_unparse h (ends_of_stopsAt e hr)

/-- A tree is the reading of its text, and nothing is left. -/
theorem reading_unparse {e : Expr} (h : IsTree e) : reading (unparse e) = (e, []) := by
  have hreading := (reading_of_spells h.spells_unparse h (closes_nil e)).1
  rwa [List.append_nil] at hreading

theorem nesting_unparse {e : Expr} (h : IsTree e) : nesting (unparse e) = assignments e := by
  have hnesting := (reading_of_spells h.spells_unparse h (closes_nil e)).2
  rwa [List.append_nil] at hnesting

/-! ### Every text begins with a spelling of its reading -/

theorem exists_spells_operand (text : List Char) :
    ∃ front, text = front ++ (operand text).2 ∧ Spells (operand text).1 front ∧
      Ends (operand text).1 (operand text).2 := by
  rcases operand_eq_or text with ⟨low, high, h⟩ | ⟨-, h⟩
  · rw [h]
    refine ⟨text.takeWhile isDigit, List.takeWhile_append_dropWhile.symm, ?_, ?_⟩
    · exact .number (List.ne_nil_of_length_pos low) (fun c hc => List.mem_takeWhile_imp hc) high rfl
    · exact stopsAt_dropWhile isDigit text
  · rw [h]
    refine ⟨text.takeWhile isNameChar, List.takeWhile_append_dropWhile.symm, ?_, ?_⟩
    · have hname := Spells.name (nameOf text)
      rwa [nameOf, String.toList_ofList] at hname
    · exact stopsAt_dropWhile isNameChar text

/-- With the operations behind it, what was spelled so far is spelled still. -/
theorem exists_spells_chainFrom {e : Expr} {front text : List Char} (h : Spells e front)
    (hr : StopsAt isOperatorChar text → Closes e text) :
    ∃ more, text = more ++ (chainFrom (e, text)).2 ∧
      Spells (chainFrom (e, text)).1 (front ++ more) ∧
      Closes (chainFrom (e, text)).1 (chainFrom (e, text)).2 := by
  induction text using operations.induct generalizing e front with
  | case1 =>
      rw [chainFrom_of_stopsAt .nil]
      exact ⟨[], rfl, by rwa [List.append_nil], hr .nil⟩
  | case2 c text hc ih =>
      rw [chainFrom_cons hc]
      obtain ⟨second, htext, hsecond, ends⟩ := exists_spells_operand text
      have hjoined := Spells.binary (String.ofList [c]) h hsecond
      obtain ⟨more, hmore, hspells, closes⟩ := ih hjoined fun stop => ⟨ends, stop⟩
      refine ⟨c :: (second ++ more), ?_, ?_, closes⟩
      · rw [List.cons_append, List.append_assoc, ← hmore, ← htext]
      · rw [String.toList_ofList, List.append_assoc, List.append_assoc,
          List.singleton_append] at hspells
        exact hspells
  | case3 c text hc =>
      have stop : StopsAt isOperatorChar (c :: text) := .cons (by simpa using hc)
      rw [chainFrom_of_stopsAt stop]
      exact ⟨[], rfl, by rwa [List.append_nil], hr stop⟩

/-- **Every text begins with a spelling of its reading.** -/
theorem exists_spells_reading (text : List Char) :
    ∃ front, text = front ++ (reading text).2 ∧ Spells (reading text).1 front ∧
      Closes (reading text).1 (reading text).2 := by
  induction text using body.induct with
  | case1 text rest ha ih =>
      obtain ⟨front, hrest, hspells, closes⟩ := ih
      rw [reading_of_assigned ha]
      refine ⟨(nameOf text).toList ++ '=' :: front, ?_, .assign _ hspells, closes⟩
      rw [List.append_assoc, List.cons_append, ← hrest, ← dropWhile_of_assigned ha, nameOf,
        String.toList_ofList, List.takeWhile_append_dropWhile]
  | case2 text hn =>
      rw [reading_of_not_assigned hn]
      obtain ⟨front, htext, hspells, ends⟩ := exists_spells_operand text
      have operand := isOperand_operand text
      obtain ⟨more, hmore, hspells, closes⟩ := exists_spells_chainFrom hspells fun stop => by
        refine operand.closes ends stop ?_
        rw [← assigned_append (hspells.isNameChar operand), ← htext, hn]
      exact ⟨front ++ more, by rw [List.append_assoc, ← hmore, ← htext], hspells, closes⟩

end FlatExpr
