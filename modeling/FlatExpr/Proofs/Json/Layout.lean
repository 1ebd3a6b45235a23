import FlatExpr.Proofs.Json.Reader

/-!
# Json — Layout

What is written is read back, and is plain ASCII.

* `CutsAs`: a text that is cut into the tokens of a value, whatever stands behind it but a digit.
* `recordChars`: a record with any white space behind its first brace, behind its commas and in
  front of its last brace.  The two layouts are such texts, and differ in the white space alone.
* `Renders`: plain ASCII that is cut into the tokens of a value, and so read as that value.
* `renders_compact`, `renders_indentedAt`: both layouts are such texts, at every depth.
-/

namespace FlatExpr.Json
open Text

section Record

variable (write : Json → List Char) (opening gap closing : List Char)

/-- A member as it is written, with its value written by `write`. -/
def memberChars (member : String × Json) : List Char :=
  (quoted member.1).toList ++ ':' :: ' ' :: write member.2

/-- Members as they are written, each behind a comma and `gap`. -/
def charsBehind (more : List (String × Json)) : List Char :=
  more.flatMap fun member => ',' :: (gap ++ memberChars write member)

/-- A record as it is written, with `opening` behind its first brace and `closing` in front of the
last one. -/
def recordChars : List (String × Json) → List Char
  | [] => ['\x7b', '\x7d']
  | member :: more => '\x7b' :: (opening ++ (memberChars write member ++
      (charsBehind write gap more ++ (closing ++ ['\x7d']))))

/-! ### Tokens -/

/-- The text is cut into the tokens of the value wherever it stands in front of anything but a
digit. -/
def CutsAs (chars : List Char) (json : Json) : Prop :=
  ∀ ⦃rest : List Char⦄ ⦃tokens : List Token⦄, StopsAt Char.isDigit rest → Cut rest tokens →
    Cut (chars ++ rest) (spelled json ++ tokens)

variable {write opening gap closing} {members more : List (String × Json)} {rest : List Char}
  {tokens : List Token}

theorem stopsAt_of_isSpace (h : ∀ c ∈ gap, isSpace c = true) (hr : StopsAt Char.isDigit rest) :
    StopsAt Char.isDigit (gap ++ rest) := by
  cases gap with
  | nil => exact hr
  | cons c gap =>
      have hc : isSpace c = true := h c List.mem_cons_self
      simp only [isSpace, Bool.or_eq_true, beq_iff_eq] at hc
      rcases hc with ((rfl | rfl) | rfl) | rfl <;> exact .cons (by decide)

theorem stopsAt_charsBehind (hr : StopsAt Char.isDigit rest) :
    StopsAt Char.isDigit (charsBehind write gap more ++ rest) := by
  cases more with
  | nil => exact hr
  | cons member more => exact .cons (by decide)

theorem cut_memberChars {member : String × Json} (h : CutsAs (write member.2) member.2)
    (hr : StopsAt Char.isDigit rest) (t : Cut rest tokens) :
    Cut (memberChars write member ++ rest)
      (.text member.1 :: .colon :: (spelled member.2 ++ tokens)) := by
  rw [memberChars, List.append_assoc, List.cons_append, List.cons_append]
  exact cut_quoted member.1 (.token rfl (.space rfl (h hr t)))

theorem cut_charsBehind (hgap : ∀ c ∈ gap, isSpace c = true)
    (h : ∀ member ∈ more, CutsAs (write member.2) member.2) (hr : StopsAt Char.isDigit rest)
    (t : Cut rest tokens) :
    Cut (charsBehind write gap more ++ rest) (spelledBehind more ++ tokens) := by
  induction more with
  | nil => exact t
  | cons member more ih =>
      obtain ⟨hmember, hmore⟩ := List.forall_mem_cons.mp h
      have hbehind := cut_memberChars hmember (stopsAt_charsBehind hr) (ih hmore)
      simp only [charsBehind, List.flatMap_cons, spelledBehind, List.cons_append,
        List.append_assoc]
      exact .token rfl (cut_space hgap hbehind)

/-- **A record** is cut into its tokens if its members are, whatever white space the layout puts
between them. -/
theorem cutsAs_record (hopening : ∀ c ∈ opening, isSpace c = true)
    (hgap : ∀ c ∈ gap, isSpace c = true) (hclosing : ∀ c ∈ closing, isSpace c = true)
    (h : ∀ member ∈ members, CutsAs (write member.2) member.2) :
    CutsAs (recordChars write opening gap closing members) (.record members) := by
  intro rest tokens _ t
  cases members with
  | nil => exact .token rfl (.token rfl t)
  | cons member more =>
      obtain ⟨hmember, hmore⟩ := List.forall_mem_cons.mp h
      have hend : Cut (closing ++ ('\x7d' :: rest)) (.closing :: tokens) :=
        cut_space hclosing (.token rfl t)
      have hstop : StopsAt Char.isDigit (closing ++ ('\x7d' :: rest)) :=
        stopsAt_of_isSpace hclosing (.cons (by decide))
      have hbehind := cut_charsBehind hgap hmore hstop hend
      have hrecord := cut_space hopening
        (cut_memberChars hmember (stopsAt_charsBehind hstop) hbehind)
      simp only [recordChars, spelled, List.cons_append, List.append_assoc, List.nil_append]
      exact .token rfl hrecord

/-! ### Plain ASCII -/

/-- A text of plain ASCII. -/
def IsAscii (chars : List Char) : Prop := ∀ c ∈ chars, c.toNat < 128

theorem IsAscii.nil : IsAscii [] := by
  intro c hc
  cases hc

theorem IsAscii.append {chars more : List Char} (h : IsAscii chars) (hm : IsAscii more) :
    IsAscii (chars ++ more) := by
  intro c hc
  rcases List.mem_append.mp hc with hc | hc
  · exact h c hc
  · exact hm c hc

theorem IsAscii.cons {c : Char} {chars : List Char} (hc : c.toNat < 128) (h : IsAscii chars) :
    IsAscii (c :: chars) :=
  List.forall_mem_cons.mpr ⟨hc, h⟩

theorem isAscii_flatMap {α : Type} {items : List α} {f : α → List Char}
    (h : ∀ item ∈ items, IsAscii (f item)) : IsAscii (items.flatMap f) := by
  intro c hc
  obtain ⟨item, hitem, hc⟩ := List.mem_flatMap.mp hc
  exact h item hitem c hc

theorem isAscii_of_isSpace (h : ∀ c ∈ gap, isSpace c = true) : IsAscii gap := by
  intro c hc
  have hc : isSpace c = true := h c hc
  simp only [isSpace, Bool.or_eq_true, beq_iff_eq] at hc
  rcases hc with ((rfl | rfl) | rfl) | rfl <;> decide

theorem isAscii_decimalDigits (n : Nat) : IsAscii (decimalDigits n) := by
  intro c hc
  have hdigit : c.isDigit = true := Nat.isDigit_of_mem_toDigits (by decide) (by decide) hc
  obtain ⟨-, hhigh⟩ := Char.isDigit_iff_toNat.mp hdigit
  exact Nat.lt_of_le_of_lt hhigh (by decide)

theorem isAscii_decimal (value : Int) : IsAscii (decimal value).toList := by
  cases value with
  | ofNat n =>
      rw [toList_decimal_ofNat]
      exact isAscii_decimalDigits n
  | negSucc n =>
      rw [toList_decimal_negSucc]
      exact .cons (by decide) (isAscii_decimalDigits (n + 1))

theorem isAscii_quoted (value : String) : IsAscii (quoted value).toList := by
  rw [quoted, String.toList_ofList]
  refine .cons (by decide) (.append (isAscii_flatMap ?_) (.cons (by decide) .nil))
  intro c _ d hd
  exact toNat_lt_of_mem_escape hd

theorem isAscii_memberChars {member : String × Json} (h : IsAscii (write member.2)) :
    IsAscii (memberChars write member) :=
  .append (isAscii_quoted member.1) (.cons (by decide) (.cons (by decide) h))

theorem isAscii_record (hopening : ∀ c ∈ opening, isSpace c = true)
    (hgap : ∀ c ∈ gap, isSpace c = true) (hclosing : ∀ c ∈ closing, isSpace c = true)
    (h : ∀ member ∈ members, IsAscii (write member.2)) :
    IsAscii (recordChars write opening gap closing members) := by
  cases members with
  | nil => exact .cons (by decide) (.cons (by decide) .nil)
  | cons member more =>
      obtain ⟨hmember, hmore⟩ := List.forall_mem_cons.mp h
      have hbehind : IsAscii (charsBehind write gap more) := by
        refine isAscii_flatMap fun next hnext => ?_
        exact .cons (by decide) ((isAscii_of_isSpace hgap).append
          (isAscii_memberChars (hmore next hnext)))
      have hend : IsAscii (closing ++ ['\x7d']) :=
        (isAscii_of_isSpace hclosing).append (.cons (by decide) .nil)
      exact .cons (by decide) ((isAscii_of_isSpace hopening).append
        ((isAscii_memberChars hmember).append (hbehind.append hend)))

end Record

/-! ### What is written -/

/-- A written form of a value: plain ASCII that is cut into the value's tokens. -/
structure Renders (chars : List Char) (json : Json) : Prop where
  ascii : IsAscii chars
  cuts : CutsAs chars json

theorem Renders.read {chars : List Char} {json : Json} (h : Renders chars json) :
    Json.read chars = some json := by
  have hcut := h.cuts .nil .ended
  rw [List.append_nil, List.append_nil] at hcut
  exact read_of_cut hcut

theorem renders_decimal (value : Int) : Renders (decimal value).toList (.int value) where
  ascii := isAscii_decimal value
  cuts _ _ hr t := cut_decimal value hr t

theorem renders_quoted (value : String) : Renders (quoted value).toList (.text value) where
  ascii := isAscii_quoted value
  cuts _ _ _ t := cut_quoted value t

theorem renders_record {write : Json → List Char} {opening gap closing : List Char}
    {members : List (String × Json)} (hopening : ∀ c ∈ opening, isSpace c = true)
    (hgap : ∀ c ∈ gap, isSpace c = true) (hclosing : ∀ c ∈ closing, isSpace c = true)
    (h : ∀ member ∈ members, Renders (write member.2) member.2) :
    Renders (recordChars write opening gap closing members) (.record members) where
  ascii := isAscii_record hopening hgap hclosing fun member hm => (h member hm).ascii
  cuts := cutsAs_record hopening hgap hclosing fun member hm => (h member hm).cuts

theorem toList_compactMembers_cons (member : String × Json) (more : List (String × Json)) :
    (compactMembers (member :: more)).toList =
      memberChars (fun json => (compact json).toList) member ++
        charsBehind (fun json => (compact json).toList) [' '] more := by
  induction more generalizing member with
  | nil =>
      obtain ⟨key, value⟩ := member
      simp [compactMembers, memberChars, charsBehind]
  | cons next more ih =>
      obtain ⟨key, value⟩ := member
      rw [compactMembers]
      · simp [ih, memberChars, charsBehind]
      · exact nofun

/-- The layout on one line is a record's with nothing behind its braces. -/
theorem toList_compact_record (members : List (String × Json)) :
    (compact (.record members)).toList =
      recordChars (fun json => (compact json).toList) [] [' '] [] members := by
  cases members with
  | nil => rfl
  | cons member more =>
      simp [compact, toList_compactMembers_cons, recordChars]

theorem renders_compact (json : Json) : Renders (compact json).toList json := by
  induction json using members_induction with
  | int value => exact renders_decimal value
  | text value => exact renders_quoted value
  | record members ih =>
      rw [toList_compact_record]
      have hgap : ∀ c ∈ [' '], isSpace c = true := List.forall_mem_singleton.mpr rfl
      exact renders_record nofun hgap nofun ih

theorem isSpace_newline (depth : Nat) : ∀ c ∈ (newline depth).toList, isSpace c = true := by
  rw [newline, String.toList_ofList]
  intro c hc
  rcases List.mem_cons.mp hc with rfl | hc
  · rfl
  · rw [List.eq_of_mem_replicate hc]
    rfl

theorem toList_indentedMembers_cons (depth : Nat) (member : String × Json)
    (more : List (String × Json)) :
    (indentedMembers depth (member :: more)).toList =
      memberChars (fun json => (indentedAt depth json).toList) member ++
        charsBehind (fun json => (indentedAt depth json).toList) (newline depth).toList more := by
  induction more generalizing member with
  | nil =>
      obtain ⟨key, value⟩ := member
      simp [indentedMembers, memberChars, charsBehind]
  | cons next more ih =>
      obtain ⟨key, value⟩ := member
      rw [indentedMembers]
      · simp [ih, memberChars, charsBehind]
      · exact nofun

/-- The layout with a line for every member is a record's with new lines for white space. -/
theorem toList_indentedAt_record (depth : Nat) (members : List (String × Json)) :
    (indentedAt depth (.record members)).toList =
      recordChars (fun json => (indentedAt (depth + 1) json).toList) (newline (depth + 1)).toList
        (newline (depth + 1)).toList (newline depth).toList members := by
  cases members with
  | nil => rw [indentedAt]; rfl
  | cons member more => simp [indentedAt, toList_indentedMembers_cons, recordChars]

theorem renders_indentedAt (depth : Nat) (json : Json) :
    Renders (indentedAt depth json).toList json := by
  induction json using members_induction generalizing depth with
  | int value => exact renders_decimal value
  | text value => exact renders_quoted value
  | record members ih =>
      rw [toList_indentedAt_record]
      exact renders_record (isSpace_newline _) (isSpace_newline _) (isSpace_newline _)
        fun member hm => ih member hm (depth + 1)

end FlatExpr.Json
