import FlatExpr.Proofs.Text.Numeral
import FlatExpr.Proofs.Text.Quoted
import FlatExpr.Result
import FlatExpr.Value.Same

/-!
# Printed — what a printed form tells

A printed form tells what was printed: two values print alike only if they are the same
(`Value.printed_eq_iff`), and so do two results (`Result.same_iff_printed_eq`).  That is said of
the values of the declared kinds, in which every number is an integer; a truth value is the same
as an integer and prints differently.

The statement that carries the induction is about a printed form that stands in front of another
text (`Value.Legible`): the value can be told, and so can the place where its printed form ends.
Only an integer needs help there, that no further digit stands behind it.  Everywhere else the
first two characters tell the kind of the value (`leading_chars`), and the fields are read off one
after another.
-/

namespace FlatExpr
open Text

namespace Value

/-- A value of the declared kinds: nothing, an integer, a text, a tuple or a list of such values,
or a node with such values in its places. -/
inductive Declared : Value → Prop
  | none : Declared .none
  | int (value : Int) : Declared (.int value)
  | text (value : String) : Declared (.text value)
  | tuple {items : List Value} (h : ∀ item ∈ items, Declared item) : Declared (.tuple items)
  | list {items : List Value} (h : ∀ item ∈ items, Declared item) : Declared (.list items)
  | bare : Declared .bare
  | number (value : Int) : Declared (.number value)
  | name (word : String) : Declared (.name word)
  | operator (symbol : String) : Declared (.operator symbol)
  | assign (target : String) {value : Value} (h : Declared value) :
      Declared (.assign target value)
  | binary (symbol : String) {left right : Value} (hl : Declared left) (hr : Declared right) :
      Declared (.binary symbol left right)

/-- An expression is of the declared kinds. -/
theorem declared_ofExpr (e : Expr) : (ofExpr e).Declared := by
  induction e with
  | bare => exact .bare
  | number value => exact .number value
  | name word => exact .name word
  | operator symbol => exact .operator symbol
  | assign target value ih => exact .assign target ih
  | binary symbol left right ihl ihr => exact .binary symbol ihl ihr

/-! ### Sameness -/

theorem sameItems_iff {items : List Value}
    (h : ∀ item ∈ items, ∀ {other}, Declared other → (item.same other = true ↔ item = other))
    {others : List Value} (ho : ∀ other ∈ others, Declared other) :
    sameItems items others = true ↔ items = others := by
  induction items generalizing others with
  | nil => cases others <;> simp [sameItems]
  | cons item items ih =>
      cases others with
      | nil => simp [sameItems]
      | cons other others =>
          have hhead := h item List.mem_cons_self (ho other List.mem_cons_self)
          have htail := ih (fun x hx => h x (List.mem_cons_of_mem item hx))
            fun x hx => ho x (List.mem_cons_of_mem other hx)
          rw [sameItems, Bool.and_eq_true, hhead, htail, List.cons.injEq]

/-- Values of the declared kinds are the same only if they are equal. -/
theorem same_iff {v w : Value} (hv : Declared v) (hw : Declared w) :
    v.same w = true ↔ v = w := by
  induction hv generalizing w with
  | tuple h ih =>
      cases hw with
      | tuple hw => rw [same, sameItems_iff ih hw, Value.tuple.injEq]
      | _ => simp [same, number?, sameNumbers]
  | list h ih =>
      cases hw with
      | list hw => rw [same, sameItems_iff ih hw, Value.list.injEq]
      | _ => simp [same, number?, sameNumbers]
  | assign target h ih =>
      cases hw with
      | assign target' hw => simp [same, ih hw]
      | _ => simp [same, number?, sameNumbers]
  | binary symbol hl hr ihl ihr =>
      cases hw with
      | binary symbol' hl' hr' => simp [same, ihl hl', ihr hr']
      | _ => simp [same, number?, sameNumbers]
  -- of two kinds that differ at most one is a number, so there are no two numbers to compare
  | _ => cases hw <;> simp [same, number?, sameNumbers, sameNumber]

/-! ### Printed forms as characters -/

/-- The printed form, as characters. -/
def chars (value : Value) : List Char := value.printed.toList

/-- The printed forms of some values, each behind a comma. -/
def charsBehind (items : List Value) : List Char :=
  items.flatMap fun item => ", ".toList ++ item.chars

/-- What stands behind the items of a tuple: a single one has a comma behind it. -/
def closing (items : List Value) : List Char :=
  if items.length = 1 then ",)".toList else ")".toList

theorem toList_printedItems_cons (item : Value) (more : List Value) :
    (printedItems (item :: more)).toList = item.chars ++ charsBehind more := by
  induction more generalizing item with
  | nil => exact (List.append_nil _).symm
  | cons next more ih =>
      rw [printedItems, String.toList_append, String.toList_append, ih, List.append_assoc]
      · rfl
      · exact nofun

theorem chars_text (value : String) : (text value).chars = quotedChars value.toList :=
  String.toList_ofList

theorem chars_tuple (items : List Value) :
    (tuple items).chars = "(".toList ++ ((printedItems items).toList ++ closing items) := by
  match items with
  | [] => rfl
  | [item] => simp [chars, Value.printed, printedItems, closing]
  | item :: next :: more => simp [chars, Value.printed, closing]

theorem chars_list (items : List Value) :
    (list items).chars = "[".toList ++ ((printedItems items).toList ++ "]".toList) := by
  simp only [chars, printed_list, String.toList_append, List.append_assoc]

theorem chars_number (value : Int) :
    (number value).chars = "Number(".toList ++ ((decimal value).toList ++ ")".toList) := by
  simp only [chars, Value.printed, String.toList_append, List.append_assoc]

theorem chars_name (word : String) :
    (name word).chars = "Variable(".toList ++ (quotedChars word.toList ++ ")".toList) := by
  rw [← chars_text]
  simp only [chars, Value.printed, String.toList_append, List.append_assoc]

theorem chars_operator (symbol : String) :
    (operator symbol).chars = "Operator(".toList ++ (quotedChars symbol.toList ++ ")".toList) := by
  rw [← chars_text]
  simp only [chars, Value.printed, printedOperator, String.toList_append, List.append_assoc]

theorem chars_assign (target : String) (value : Value) :
    (assign target value).chars = "Assignment(".toList ++
      (quotedChars target.toList ++ (", ".toList ++ (value.chars ++ ")".toList))) := by
  rw [← chars_text]
  simp only [chars, Value.printed, String.toList_append, List.append_assoc]

theorem chars_binary (symbol : String) (left right : Value) :
    (binary symbol left right).chars = "BinOp(".toList ++ ((operator symbol).chars ++
      (", ".toList ++ (left.chars ++ (", ".toList ++ (right.chars ++ ")".toList))))) := by
  simp only [chars, Value.printed, String.toList_append, List.append_assoc]

/-! ### The kind of a value -/

/-- The kind of the value that a printed form begins with, as far as its first two characters
tell. -/
def leading : List Char → String
  | [] => ""
  | c :: more =>
      if c = '-' ∨ isDigit c = true then "int"
      else match c, more with
        | 'N', 'o' :: _ => "NoneType"
        | 'N', _ => "Number"
        | '\'', _ | '"', _ => "str"
        | '(', _ => "tuple"
        | '[', _ => "list"
        | 'E', _ => "Expr"
        | 'V', _ => "Variable"
        | 'O', _ => "Operator"
        | 'A', _ => "Assignment"
        | 'B', _ => "BinOp"
        | _, _ => ""

/-- **The first two characters** of a printed form tell the kind of the value. -/
theorem leading_chars {v : Value} (hv : Declared v) (rest : List Char) :
    leading (v.chars ++ rest) = v.typeName := by
  cases hv with
  | int value =>
      obtain ⟨c, more, hc, h⟩ := exists_decimal value
      rw [chars, Value.printed, hc]
      exact if_pos h
  | text value =>
      rw [chars_text]
      rcases isQuote_quoteFor value.toList with hq | hq <;> rw [quotedChars, hq] <;> rfl
  | tuple h => rw [chars_tuple]; rfl
  | list h => rw [chars_list]; rfl
  | none | bare => rfl
  | number value => rw [chars_number]; rfl
  | name word => rw [chars_name]; rfl
  | operator symbol => rw [chars_operator]; rfl
  | assign target h => rw [chars_assign]; rfl
  | binary symbol hl hr => rw [chars_binary]; rfl

/-! ### Legible values -/

/-- The value can be told from a text that begins with its printed form, and so can what stands
behind it, if that does not begin with a digit. -/
def Legible (v : Value) : Prop :=
  ∀ ⦃w : Value⦄ ⦃rest rest' : List Char⦄, Declared w → StopsAt isDigit rest →
    StopsAt isDigit rest' → v.chars ++ rest = w.chars ++ rest' → v = w ∧ rest = rest'

/-- Values of different kinds print differently, so a value is legible among all of the declared
kinds if it is among those of its own. -/
theorem legible_of_kind {v : Value} (hv : Declared v)
    (h : ∀ ⦃w : Value⦄ ⦃rest rest' : List Char⦄, Declared w → v.typeName = w.typeName →
      StopsAt isDigit rest → StopsAt isDigit rest' → v.chars ++ rest = w.chars ++ rest' →
        v = w ∧ rest = rest') :
    Legible v := by
  intro w rest rest' hw hr hr' heq
  refine h hw ?_ hr hr' heq
  rw [← leading_chars hv rest, heq, leading_chars hw]

/-- What stands behind items begins with a closing bracket, or with the comma behind a single
one and the bracket. -/
def EndsItems (text : List Char) : Prop :=
  ∃ more, text = ')' :: more ∨ text = ']' :: more ∨ text = ',' :: ')' :: more

section Items

variable {text : List Char}

theorem EndsItems.stopsAt (h : EndsItems text) : StopsAt isDigit text := by
  obtain ⟨more, rfl | rfl | rfl⟩ := h <;> exact .cons (by decide)

theorem EndsItems.leading (h : EndsItems text) : leading text = "" := by
  obtain ⟨more, rfl | rfl | rfl⟩ := h <;> rfl

theorem EndsItems.ne_comma (h : EndsItems text) (more : List Char) : text ≠ ',' :: ' ' :: more := by
  obtain ⟨_, rfl | rfl | rfl⟩ := h <;> simp

theorem endsItems_bracket (rest : List Char) : EndsItems ("]".toList ++ rest) :=
  ⟨rest, .inr (.inl rfl)⟩

theorem endsItems_closing (items : List Value) (rest : List Char) :
    EndsItems (closing items ++ rest) := by
  unfold closing
  split
  · exact ⟨rest, .inr (.inr rfl)⟩
  · exact ⟨rest, .inl rfl⟩

theorem charsBehind_cons (item : Value) (more : List Value) :
    charsBehind (item :: more) = ',' :: ' ' :: (item.chars ++ charsBehind more) := rfl

theorem stopsAt_charsBehind (items : List Value) (h : StopsAt isDigit text) :
    StopsAt isDigit (charsBehind items ++ text) := by
  cases items with
  | nil => exact h
  | cons item more => exact .cons (by decide)

variable {items others : List Value} {rest rest' : List Char}

theorem charsBehind_append_inj (hi : ∀ item ∈ items, Legible item)
    (ho : ∀ other ∈ others, Declared other) (hr : EndsItems rest) (hr' : EndsItems rest')
    (h : charsBehind items ++ rest = charsBehind others ++ rest') :
    items = others ∧ rest = rest' := by
  induction items generalizing others with
  | nil =>
      cases others with
      | nil => exact ⟨rfl, h⟩
      | cons other others =>
          rw [charsBehind_cons] at h
          exact absurd h (hr.ne_comma _)
  | cons item items ih =>
      cases others with
      | nil =>
          rw [charsBehind_cons] at h
          exact absurd h.symm (hr'.ne_comma _)
      | cons other others =>
          rw [charsBehind_cons, charsBehind_cons] at h
          simp only [List.cons_append, List.append_assoc, List.cons.injEq, true_and] at h
          obtain ⟨rfl, hbehind⟩ := hi item List.mem_cons_self (ho other List.mem_cons_self)
            (stopsAt_charsBehind items hr.stopsAt) (stopsAt_charsBehind others hr'.stopsAt) h
          obtain ⟨rfl, hrest⟩ := ih (fun x hx => hi x (List.mem_cons_of_mem item hx))
            (fun x hx => ho x (List.mem_cons_of_mem item hx)) hbehind
          exact ⟨rfl, hrest⟩

/-- No printed form begins where items end. -/
theorem chars_append_ne_of_endsItems {v : Value} (hv : Declared v) (hr : EndsItems rest)
    (rest' : List Char) : v.chars ++ rest' ≠ rest := by
  intro heq
  have hkind : v.typeName = "" := by rw [← leading_chars hv rest', heq, hr.leading]
  cases hv <;> simp [typeName] at hkind

/-- **Items** can be told apart, and so can the place where they end. -/
theorem printedItems_append_inj (hd : ∀ item ∈ items, Declared item)
    (hi : ∀ item ∈ items, Legible item) (ho : ∀ other ∈ others, Declared other)
    (hr : EndsItems rest) (hr' : EndsItems rest')
    (h : (printedItems items).toList ++ rest = (printedItems others).toList ++ rest') :
    items = others ∧ rest = rest' := by
  cases items with
  | nil =>
      cases others with
      | nil => exact ⟨rfl, h⟩
      | cons other others =>
          rw [toList_printedItems_cons, List.append_assoc] at h
          exact absurd h.symm (chars_append_ne_of_endsItems (ho other List.mem_cons_self) hr _)
  | cons item items =>
      cases others with
      | nil =>
          rw [toList_printedItems_cons, List.append_assoc] at h
          exact absurd h (chars_append_ne_of_endsItems (hd item List.mem_cons_self) hr' _)
      | cons other others =>
          rw [toList_printedItems_cons, toList_printedItems_cons] at h
          -- with a comma in front of both, they are items that stand behind others
          exact charsBehind_append_inj hi ho hr hr' (congrArg (", ".toList ++ ·) h)

end Items

theorem stopsAt_comma (rest : List Char) : StopsAt isDigit (", ".toList ++ rest) :=
  .cons (by decide)

theorem stopsAt_bracket (rest : List Char) : StopsAt isDigit (")".toList ++ rest) :=
  .cons (by decide)

theorem legible_none : Legible .none := by
  refine legible_of_kind .none fun w rest rest' hw hkind _ _ h => ?_
  cases hw with
  | none => exact ⟨rfl, List.append_cancel_left h⟩
  | _ => simp [typeName] at hkind

theorem legible_int (value : Int) : Legible (.int value) := by
  refine legible_of_kind (.int value) fun w rest rest' hw hkind hr hr' h => ?_
  cases hw with
  | int value' =>
      obtain ⟨rfl, hrest⟩ := decimal_append_inj hr hr' h
      exact ⟨rfl, hrest⟩
  | _ => simp [typeName] at hkind

theorem legible_text (value : String) : Legible (.text value) := by
  refine legible_of_kind (.text value) fun w rest rest' hw hkind _ _ h => ?_
  cases hw with
  | text value' =>
      rw [chars_text, chars_text] at h
      obtain ⟨rfl, hrest⟩ := quotedChars_toList_append_inj h
      exact ⟨rfl, hrest⟩
  | _ => simp [typeName] at hkind

theorem legible_bare : Legible .bare := by
  refine legible_of_kind .bare fun w rest rest' hw hkind _ _ h => ?_
  cases hw with
  | bare => exact ⟨rfl, List.append_cancel_left h⟩
  | _ => simp [typeName] at hkind

theorem legible_number (value : Int) : Legible (.number value) := by
  refine legible_of_kind (.number value) fun w rest rest' hw hkind _ _ h => ?_
  cases hw with
  | number value' =>
      simp only [chars_number, List.append_assoc] at h
      obtain ⟨rfl, hrest⟩ := decimal_append_inj (stopsAt_bracket rest) (stopsAt_bracket rest')
        (List.append_cancel_left h)
      exact ⟨rfl, List.append_cancel_left hrest⟩
  | _ => simp [typeName] at hkind

theorem legible_name (word : String) : Legible (.name word) := by
  refine legible_of_kind (.name word) fun w rest rest' hw hkind _ _ h => ?_
  cases hw with
  | name word' =>
      simp only [chars_name, List.append_assoc] at h
      obtain ⟨rfl, hrest⟩ := quotedChars_toList_append_inj (List.append_cancel_left h)
      exact ⟨rfl, List.append_cancel_left hrest⟩
  | _ => simp [typeName] at hkind

theorem legible_operator (symbol : String) : Legible (.operator symbol) := by
  refine legible_of_kind (.operator symbol) fun w rest rest' hw hkind _ _ h => ?_
  cases hw with
  | operator symbol' =>
      simp only [chars_operator, List.append_assoc] at h
      obtain ⟨rfl, hrest⟩ := quotedChars_toList_append_inj (List.append_cancel_left h)
      exact ⟨rfl, List.append_cancel_left hrest⟩
  | _ => simp [typeName] at hkind

section Compound

variable {items : List Value} {value left right : Value}

theorem legible_tuple (hd : ∀ item ∈ items, Declared item) (hi : ∀ item ∈ items, Legible item) :
    Legible (.tuple items) := by
  refine legible_of_kind (.tuple hd) fun w rest rest' hw hkind _ _ h => ?_
  cases hw with
  | tuple ho =>
      simp only [chars_tuple, List.append_assoc] at h
      obtain ⟨rfl, hrest⟩ := printedItems_append_inj hd hi ho (endsItems_closing _ _)
        (endsItems_closing _ _) (List.append_cancel_left h)
      -- the items are the same, and they decide whether there is a comma behind them
      exact ⟨rfl, List.append_cancel_left hrest⟩
  | _ => simp [typeName] at hkind

theorem legible_list (hd : ∀ item ∈ items, Declared item) (hi : ∀ item ∈ items, Legible item) :
    Legible (.list items) := by
  refine legible_of_kind (.list hd) fun w rest rest' hw hkind _ _ h => ?_
  cases hw with
  | list ho =>
      simp only [chars_list, List.append_assoc] at h
      obtain ⟨rfl, hrest⟩ := printedItems_append_inj hd hi ho (endsItems_bracket _)
        (endsItems_bracket _) (List.append_cancel_left h)
      exact ⟨rfl, List.append_cancel_left hrest⟩
  | _ => simp [typeName] at hkind

theorem legible_assign (target : String) (hd : Declared value) (hv : Legible value) :
    Legible (.assign target value) := by
  refine legible_of_kind (.assign target hd) fun w rest rest' hw hkind _ _ h => ?_
  cases hw with
  | assign target' hother =>
      simp only [chars_assign, List.append_assoc] at h
      obtain ⟨rfl, hvalues⟩ := quotedChars_toList_append_inj (List.append_cancel_left h)
      obtain ⟨rfl, hrest⟩ := hv hother (stopsAt_bracket rest) (stopsAt_bracket rest')
        (List.append_cancel_left hvalues)
      exact ⟨rfl, List.append_cancel_left hrest⟩
  | _ => simp [typeName] at hkind

theorem legible_binary (symbol : String) (hdl : Declared left) (hdr : Declared right)
    (hl : Legible left) (hr : Legible right) : Legible (.binary symbol left right) := by
  refine legible_of_kind (.binary symbol hdl hdr) fun w rest rest' hw hkind _ _ h => ?_
  cases hw with
  | binary symbol' hleft hright =>
      simp only [chars_binary, List.append_assoc] at h
      obtain ⟨hsymbol, hoperands⟩ := legible_operator symbol (.operator symbol')
        (stopsAt_comma _) (stopsAt_comma _) (List.append_cancel_left h)
      obtain rfl := Value.operator.inj hsymbol
      obtain ⟨rfl, hlast⟩ := hl hleft (stopsAt_comma _) (stopsAt_comma _)
        (List.append_cancel_left hoperands)
      obtain ⟨rfl, hrest⟩ := hr hright (stopsAt_bracket rest) (stopsAt_bracket rest')
        (List.append_cancel_left hlast)
      exact ⟨rfl, List.append_cancel_left hrest⟩
  | _ => simp [typeName] at hkind

end Compound

/-- **Every value of the declared kinds is legible.** -/
theorem legible_of_declared {v : Value} (hv : Declared v) : Legible v := by
  induction hv with
  | none => exact legible_none
  | int value => exact legible_int value
  | text value => exact legible_text value
  | tuple hd ih => exact legible_tuple hd ih
  | list hd ih => exact legible_list hd ih
  | bare => exact legible_bare
  | number value => exact legible_number value
  | name word => exact legible_name word
  | operator symbol => exact legible_operator symbol
  | assign target hd ih => exact legible_assign target hd ih
  | binary symbol hl hr ihl ihr => exact legible_binary symbol hl hr ihl ihr

/-- Values of the declared kinds print alike only if they are equal. -/
theorem printed_eq_iff {v w : Value} (hv : Declared v) (hw : Declared w) :
    printed v = printed w ↔ v = w := by
  constructor
  · intro h
    have h : v.chars ++ [] = w.chars ++ [] := congrArg (fun text => text.toList ++ []) h
    exact (legible_of_declared hv hw .nil .nil h).1
  · rintro rfl
    rfl

end Value

namespace Result

/-- A result whose value, if there is one, is of the declared kinds. -/
def Declared : Result Value → Prop
  | .success value _ => value.Declared
  | .failure _ => True

theorem toList_printed_success (value : Value) (rest : List Char) :
    (printed (success value rest)).toList = "Success(".toList ++
      (value.chars ++ (", ".toList ++ (quotedChars rest ++ ")".toList))) := by
  have hrest : (printed rest).toList = quotedChars rest := String.toList_ofList
  change ("Success" ++ "(" ++ value.printed ++ ", " ++ printed rest ++ ")").toList = _
  simp only [String.toList_append, hrest, List.append_assoc]
  rfl

theorem toList_printed_failure (why : Complaint) :
    (printed (failure why : Result Value)).toList =
      "Failure(".toList ++ (quotedChars why.message.toList ++ ")".toList) := by
  have hwhy : (printed why.message).toList = quotedChars why.message.toList :=
    String.toList_ofList
  change ("Failure" ++ "(" ++ printed why.message ++ ")").toList = _
  simp only [String.toList_append, hwhy, List.append_assoc]
  rfl

/-- A success and a failure print differently. -/
theorem printed_success_ne (value : Value) (rest : List Char) (why : Complaint) :
    printed (success value rest) ≠ printed (failure why : Result Value) := by
  intro h
  have h := congrArg String.toList h
  rw [toList_printed_success, toList_printed_failure] at h
  exact absurd (List.cons.inj h).1 (by decide)

theorem printed_success_eq_iff {v w : Value} {rest rest' : List Char} (hv : v.Declared)
    (hw : w.Declared) :
    printed (success v rest) = printed (success w rest') ↔ v = w ∧ rest = rest' := by
  constructor
  · intro h
    have h := congrArg String.toList h
    rw [toList_printed_success, toList_printed_success] at h
    obtain ⟨rfl, hbehind⟩ := Value.legible_of_declared hv hw (Value.stopsAt_comma _)
      (Value.stopsAt_comma _) (List.append_cancel_left h)
    exact ⟨rfl, (quotedChars_append_inj (List.append_cancel_left hbehind)).1⟩
  · rintro ⟨rfl, rfl⟩
    rfl

theorem printed_failure_eq_iff {why why' : Complaint} :
    printed (failure why : Result Value) = printed (failure why' : Result Value) ↔
      why.message = why'.message := by
  constructor
  · intro h
    have h := congrArg String.toList h
    rw [toList_printed_failure, toList_printed_failure] at h
    exact (quotedChars_toList_append_inj (List.append_cancel_left h)).1
  · intro h
    exact String.toList_inj.mp (by rw [toList_printed_failure, toList_printed_failure, h])

/-- **Printed forms are faithful.**  Two results whose values are of the declared kinds are the
same exactly if they print alike.  In particular a success never prints like a failure, and the
values of two successes print alike only if they are equal, kind by kind and field by field. -/
theorem same_iff_printed_eq {r s : Result Value} (hr : r.Declared) (hs : s.Declared) :
    (r.same Value.same s = true ↔ printed r = printed s) ∧
    (printed r = printed s → r.succeeded = s.succeeded) ∧
    ∀ v rest w rest', r = .success v rest → s = .success w rest' →
      (printed v = printed w ↔ v = w) := by
  refine ⟨?_, ?_, ?_⟩
  · cases r with
    | success v rest =>
        cases s with
        | success w rest' =>
            rw [printed_success_eq_iff hr hs, same, Bool.and_eq_true, Value.same_iff hr hs,
              beq_iff_eq]
        | failure why => simp [same, printed_success_ne]
    | failure why =>
        cases s with
        | success w rest' => simp [same, (printed_success_ne w rest' why).symm]
        | failure why' => rw [printed_failure_eq_iff, same, beq_iff_eq]
  · cases r with
    | success v rest =>
        cases s with
        | success w rest' => exact fun _ => rfl
        | failure why => exact fun h => absurd h (printed_success_ne v rest why)
    | failure why =>
        cases s with
        | success w rest' => exact fun h => absurd h.symm (printed_success_ne w rest' why)
        | failure why' => exact fun _ => rfl
  · rintro v rest w rest' rfl rfl
    exact Value.printed_eq_iff hr hs

/-- A quote inside a text is told from the quotes around it, whatever commas stand between. -/
theorem same_iff_printed_eq_quotes :
    let r := success (Value.tuple [.text "a', 'b", .name "\\\n"]) ['"', '\'']
    let s := success (Value.tuple [.text "a", .text "b", .name "\\\n"]) ['"', '\'']
    Declared r ∧ Declared s ∧ printed r ≠ printed s := by
  intro r s
  have hr : Declared r := Value.Declared.tuple (by
    rintro item (_ | ⟨_, _ | ⟨_, h⟩⟩)
    · exact .text _
    · exact .name _
    · cases h)
  have hs : Declared s := Value.Declared.tuple (by
    rintro item (_ | ⟨_, _ | ⟨_, _ | ⟨_, h⟩⟩⟩)
    · exact .text _
    · exact .text _
    · exact .name _
    · cases h)
  have differ : r.same Value.same s ≠ true := by decide
  exact ⟨hr, hs, fun h => differ ((same_iff_printed_eq hr hs).1.mpr h)⟩

end Result
end FlatExpr
