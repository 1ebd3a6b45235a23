import FlatExpr.Proofs.Tree
import FlatExpr.Stack

/-!
# Nesting — how deep the assignments of a text go

A text whose assignments are nested `n` deep is `n` names, each followed by an equals sign, in
front of a text that is no assignment.  Equals signs farther on do not count.

* `nesting_leads`: every name in front of a text adds one level, whatever the text is.
* `exists_leads_of_le_nesting`: where there are `n` levels, the text begins with `n` names.
* `nesting_le_length`: a text has at most as many levels as characters.
* `behindEquals_append`: a text has the same assignments in front if it is cut off behind them.
* `nested_reading`: the reading is as many assignments, one inside the other, around an
  expression without any.
-/

namespace FlatExpr
open Text

/-! ### Names in front of a text -/

/-- The names, each followed by an equals sign, in front of a text. -/
def leads : List String → List Char → List Char
  | [], text => text
  | name :: names, text => name.toList ++ '=' :: leads names text

/-- What is behind the `n`-th nested equals sign of a text. -/
def behind : Nat → List Char → Option (List Char)
  | 0, text => some text
  | n + 1, text => (assigned? text).bind (behind n)

theorem assigned_leads {name : String} (h : IsName name) (names : List String)
    (text : List Char) : assigned? (leads (name :: names) text) = some (leads names text) :=
  assigned?_eq_some_iff.mpr ⟨name.toList, h, rfl⟩

theorem leads_append (names : List String) (text more : List Char) :
    leads names (text ++ more) = leads names text ++ more := by
  induction names with
  | nil => rfl
  | cons name names ih => rw [leads, leads, ih, List.append_assoc, List.cons_append]

/-- Every name in front of a text adds one level. -/
theorem nesting_leads {names : List String} (h : ∀ name ∈ names, IsName name)
    (text : List Char) : nesting (leads names text) = names.length + nesting text := by
  induction names with
  | nil => rw [leads, List.length_nil, Nat.zero_add]
  | cons name names ih =>
      obtain ⟨hname, hnames⟩ := List.forall_mem_cons.mp h
      rw [nesting_of_assigned (assigned_leads hname names text), ih hnames, List.length_cons]
      omega

theorem behind_leads {names : List String} (h : ∀ name ∈ names, IsName name)
    (text : List Char) : behind names.length (leads names text) = some text := by
  induction names with
  | nil => rfl
  | cons name names ih =>
      obtain ⟨hname, hnames⟩ := List.forall_mem_cons.mp h
      rw [List.length_cons, behind, assigned_leads hname names text, Option.bind_some, ih hnames]

/-- Where there are `n` levels, `n` names are in front. -/
theorem exists_leads_of_le_nesting {n : Nat} {text : List Char} (h : n ≤ nesting text) :
    ∃ names rest, names.length = n ∧ (∀ name ∈ names, IsName name) ∧ text = leads names rest := by
  induction n generalizing text with
  | zero => exact ⟨[], text, rfl, nofun, rfl⟩
  | succ n ih =>
      cases ha : assigned? text with
      | none =>
          rw [nesting_of_not_assigned ha] at h
          exact absurd h (Nat.not_succ_le_zero n)
      | some behind =>
          rw [nesting_of_assigned ha] at h
          -- the other levels are those of what is behind the first equals sign
          obtain ⟨names, rest, hlength, hnames, rfl⟩ := ih (Nat.le_of_succ_le_succ h)
          obtain ⟨name, hname, rfl⟩ := assigned?_eq_some_iff.mp ha
          have hfirst : IsName (String.ofList name) := by rwa [IsName, String.toList_ofList]
          refine ⟨String.ofList name :: names, rest, congrArg Nat.succ hlength,
            List.forall_mem_cons.mpr ⟨hfirst, hnames⟩, ?_⟩
          rw [leads, String.toList_ofList]

/-! ### Behind the assignments -/

theorem behindEqualsFrom_of_not_assigned {text : List Char} (h : assigned? text = none)
    (start : List Char) : behindEqualsFrom start text = start := by
  rw [← List.takeWhile_append_dropWhile (p := isNameChar) (l := text),
    behindEqualsFrom_append fun c hc => List.mem_takeWhile_imp hc]
  have equals := stopsAt_of_not_assigned h
  have name := stopsAt_dropWhile isNameChar text
  cases hdrop : text.dropWhile isNameChar with
  | nil => rfl
  | cons c rest =>
      rw [hdrop] at equals name
      have hc : (c == '=') = false := equals c rfl
      rw [behindEqualsFrom, hc, name c rfl, if_neg Bool.false_ne_true, if_neg Bool.false_ne_true]

theorem behindEquals_eq_body (text : List Char) : behindEquals text = body text := by
  induction text using body.induct with
  | case1 text rest h ih =>
      rw [body_of_assigned h, ← ih]
      obtain ⟨name, hname, rfl⟩ := assigned?_eq_some_iff.mp h
      rw [behindEquals, behindEqualsFrom_append hname]
      rfl
  | case2 text h => rw [body_of_not_assigned h, behindEquals, behindEqualsFrom_of_not_assigned h]

/-- What is behind the assignments is cut off where the text is, if none of them is lost. -/
theorem behindEquals_append {front rest : List Char} (h : nesting (front ++ rest) = nesting front) :
    behindEquals (front ++ rest) = behindEquals front ++ rest := by
  rw [behindEquals_eq_body, behindEquals_eq_body]
  induction front using body.induct with
  | case1 front behind ha ih =>
      obtain ⟨name, hname, rfl⟩ := assigned?_eq_some_iff.mp ha
      have ha' : assigned? ((name ++ '=' :: behind) ++ rest) = some (behind ++ rest) :=
        assigned?_eq_some_iff.mpr ⟨name, hname, by simp⟩
      rw [nesting_of_assigned ha, nesting_of_assigned ha'] at h
      rw [body_of_assigned ha, body_of_assigned ha', ih (Nat.succ.inj h)]
  | case2 front ha =>
      rw [nesting_of_not_assigned ha] at h
      cases ha' : assigned? (front ++ rest) with
      | none => rw [body_of_not_assigned ha, body_of_not_assigned ha']
      | some behind => rw [nesting_of_assigned ha'] at h; cases h

/-- Every level takes an equals sign. -/
theorem nesting_le_length (text : List Char) : nesting text ≤ text.length := by
  induction text using body.induct with
  | case1 text rest h ih =>
      rw [nesting_of_assigned h]
      exact (Nat.succ_le_succ ih).trans (length_lt_of_assigned h)
  | case2 text h =>
      rw [nesting_of_not_assigned h]
      exact Nat.zero_le _

/-- A name that anything but an equals sign follows is no assignment. -/
theorem not_assigned_of_stop {name : String} {c : Char} (h : IsName name)
    (hc : isNameChar c = false) (hne : c ≠ '=') (rest : List Char) :
    assigned? (name.toList ++ c :: rest) = none := by
  unfold assigned?
  rw [dropWhile_append_of_stopsAt h (.cons hc)]
  split
  · next heq => exact absurd (List.cons.inj heq).1 hne
  · rfl

/-! ### The levels of a tree -/

/-- `n` assignments, one inside the other, around an expression without assignments. -/
inductive Nested : Nat → Expr → Prop where
  | plain {e : Expr} (h : assignments e = 0) : Nested 0 e
  | assign {n : Nat} {target : String} {value : Expr} (h : Nested n value) :
      Nested (n + 1) (.assign target value)

theorem assignments_operand (text : List Char) : assignments (operand text).1 = 0 := by
  rcases operand_eq_or text with ⟨-, -, h⟩ | ⟨-, h⟩ <;> rw [h] <;> rfl

/-- The operations behind an expression bring no assignment. -/
theorem assignments_chainFrom (e : Expr) (text : List Char) :
    assignments (chainFrom (e, text)).1 = assignments e := by
  induction text using operations.induct generalizing e with
  | case1 => rw [chainFrom_of_stopsAt .nil]
  | case2 c text h ih => rw [chainFrom_cons h, ih, assignments, assignments_operand, Nat.add_zero]
  | case3 c text h => rw [chainFrom_of_stopsAt (.cons (by simpa using h))]

/-- The reading is as many nested assignments as the text has levels. -/
theorem nested_reading (text : List Char) : Nested (nesting text) (reading text).1 := by
  induction text using body.induct with
  | case1 text rest h ih =>
      rw [nesting_of_assigned h, reading_of_assigned h]
      exact .assign ih
  | case2 text h =>
      rw [nesting_of_not_assigned h, reading_of_not_assigned h]
      exact .plain ((assignments_chainFrom _ _).trans (assignments_operand text))

end FlatExpr
