import FlatExpr.Stack

/-!
# Stack — Calls

A stack of calls, counted.  Every assignment keeps fourteen calls pending while its expression is
read.  What is behind the last one needs some more; how many depends on how far it is tried, first
as a chain, then as an assignment and then as an operand.

* `Calls.forOperand`, `Calls.forExpression`: the calls that reading an operand, or an expression
  without assignments, makes one inside the other.
* `Stack.counted`: the stack on which some calls are pending already; what is logged is written
  there as well if the log is loud.
-/

namespace FlatExpr
open Text

namespace Calls

/-- How many calls may be pending at a time. -/
def limit : Nat := 999

/-- How many calls an assignment keeps pending while its expression is read. -/
def perAssignment : Nat := 14

/-! ### Operands -/

/-- Whether a text begins with digits that are read as a number. -/
def startsWithNumber (text : List Char) : Bool :=
  let digits := text.takeWhile isDigit
  decide (1 ≤ digits.length) && decide (digits.length ≤ 4300)

/-- What is left behind the operand that a text begins with. -/
def behindOperand (text : List Char) : List Char :=
  if startsWithNumber text then text.dropWhile isDigit else text.dropWhile isNameChar

/-- The calls that reading an operand makes one inside the other.  It takes one more to find that
a digit is not followed by another one, and two more to find that a character is no letter. -/
def forOperand (text : List Char) : Nat :=
  if startsWithNumber text then if text.length = 1 then 9 else 10
  else if text.isEmpty then 8
  else if text.all isLetter then 9
  else 11

/-! ### Expressions -/

/-- The calls that reading an expression without assignments makes one inside the other.  A loud
log writes down what is folded onto the first operation, which takes more calls than reading it. -/
def forExpression (loud : Bool) (text : List Char) : Nat :=
  match behindOperand text with
  | [] => if text.all isLetter then 17 else 18
  | c :: rest =>
      if isOperatorChar c then
        if loud && (behindOperand rest).head?.any isOperatorChar then 23
        else 11 + forOperand rest
      else 18

/-- The calls that a rule does without.  An expression comes to an assignment by seven calls; the
rule for assignments begins there. -/
def spared : Rule → Nat
  | .assignment => 7
  | _ => 0

/-- How many assignments fit on a stack on which `pending` calls are pending already. -/
def room (pending : Nat) (loud : Bool) (rule : Rule) (text : List Char) : Nat :=
  (limit + spared rule - pending - forExpression loud (behindEquals text)) / perAssignment

/-! ### Bounds -/

theorem forOperand_le (text : List Char) : forOperand text ≤ 11 := by
  unfold forOperand
  split
  · split <;> decide
  · split
    · decide
    · split <;> decide

theorem forExpression_le (loud : Bool) (text : List Char) : forExpression loud text ≤ 23 := by
  unfold forExpression
  split
  · split <;> decide
  · next rest _ =>
      split
      · split
        · exact Nat.le_refl 23
        · have := forOperand_le rest
          omega
      · decide

/-- A loud log saves no calls. -/
theorem forExpression_loud_le (text : List Char) :
    forExpression false text ≤ forExpression true text := by
  unfold forExpression
  split
  · exact Nat.le_refl _
  · next rest _ =>
      split
      · have := forOperand_le rest
        rw [if_neg (by simp)]
        split <;> omega
      · exact Nat.le_refl 18

/-- What starts with a number is not letters alone. -/
theorem all_isLetter_of_startsWithNumber {text : List Char} (h : startsWithNumber text = true) :
    text.all isLetter = false := by
  cases text with
  | nil => cases h
  | cons c text =>
      cases hc : isDigit c with
      | true => simp [isLetter_eq_false_of_isDigit hc]
      | false =>
          rw [startsWithNumber, List.takeWhile_cons_of_neg (by simp [hc])] at h
          cases h

theorem forOperand_of_number {text : List Char} (h : startsWithNumber text = true) :
    forOperand text = if text.length = 1 then 9 else 10 := by
  rw [forOperand, if_pos h]

theorem forOperand_of_other {text : List Char} (h : startsWithNumber text = false)
    (hne : text ≠ []) (letters : text.all isLetter = false) : forOperand text = 11 := by
  rw [forOperand, h, if_neg Bool.false_ne_true, letters, if_neg Bool.false_ne_true, if_neg]
  exact fun empty => hne (List.isEmpty_iff.mp empty)

theorem forOperand_of_letters {text : List Char} (hne : text ≠ [])
    (letters : text.all isLetter = true) : forOperand text = 9 := by
  have h : startsWithNumber text = false := by
    cases h : startsWithNumber text with
    | false => rfl
    | true => rw [all_isLetter_of_startsWithNumber h] at letters; cases letters
  rw [forOperand, h, if_neg Bool.false_ne_true, if_neg (by simp [hne]), if_pos letters]

/-- Finding that nothing is there takes the fewest. -/
theorem le_forOperand (text : List Char) :
    8 ≤ forOperand text ∧ (text ≠ [] → 9 ≤ forOperand text) := by
  unfold forOperand
  split
  · split <;> omega
  · split
    · next empty => exact ⟨Nat.le_refl 8, fun hne => absurd (List.isEmpty_iff.mp empty) hne⟩
    · split <;> omega

/-- A single name takes the fewest, and it takes one more to see that it is at its end. -/
theorem le_forExpression (loud : Bool) (text : List Char) :
    17 ≤ forExpression loud text ∧ (text.all isLetter = false → 18 ≤ forExpression loud text) := by
  unfold forExpression
  split
  · split
    · next letters => exact ⟨Nat.le_refl 17, fun other => by rw [other] at letters; cases letters⟩
    · exact ⟨by decide, fun _ => Nat.le_refl 18⟩
  · next rest _ =>
      have := (le_forOperand rest).1
      split
      · split <;> omega
      · exact ⟨by decide, fun _ => Nat.le_refl 18⟩

theorem spared_le (rule : Rule) : spared rule ≤ 7 := by cases rule <;> decide

theorem room_lt (pending : Nat) (loud : Bool) (rule : Rule) (text : List Char) :
    room pending loud rule text < 1000 := by
  have := spared_le rule
  unfold room limit perAssignment
  omega

theorem forty_le_room {pending : Nat} (h : pending ≤ 400) (loud : Bool) (rule : Rule)
    (text : List Char) : 40 ≤ room pending loud rule text := by
  have := forExpression_le loud (behindEquals text)
  unfold room limit perAssignment
  omega

theorem room_loud_le (pending : Nat) (rule : Rule) (text : List Char) :
    room pending true rule text ≤ room pending false rule text := by
  have := forExpression_loud_le (behindEquals text)
  exact Nat.div_le_div_right (by omega)

/-! ### Behind a character of no name -/

section Parted

variable {c : Char} (hc : isNameChar c = false) (front rest : List Char)

include hc

theorem startsWithNumber_parted :
    startsWithNumber (front ++ c :: rest) = startsWithNumber front := by
  have stop : StopsAt isDigit (c :: rest) := .cons (isDigit_eq_false_of_isNameChar hc)
  rw [startsWithNumber, takeWhile_append_stopsAt front stop, startsWithNumber]

theorem behindOperand_parted :
    behindOperand (front ++ c :: rest) = behindOperand front ++ c :: rest := by
  have name : StopsAt isNameChar (c :: rest) := .cons hc
  rw [behindOperand, startsWithNumber_parted hc, behindOperand,
    dropWhile_append_stopsAt front name.isDigit, dropWhile_append_stopsAt front name]
  split <;> rfl

theorem all_isLetter_parted : (front ++ c :: rest).all isLetter = false := by
  have letter : isLetter c = false := by
    simp only [isNameChar, Bool.or_eq_false_iff] at hc
    exact hc.1.1
  simp [letter]

/-- Only what is in front of the character matters to an operand. -/
theorem forOperand_parted :
    forOperand (front ++ c :: rest) = if startsWithNumber front then 10 else 11 := by
  rw [forOperand, startsWithNumber_parted hc, all_isLetter_parted hc]
  cases hnumber : startsWithNumber front with
  | false => simp
  | true =>
      -- a number is at least one character more
      have low : front ≠ [] := by
        rintro rfl
        cases hnumber
      have := List.length_pos_iff.mpr low
      rw [if_pos rfl, if_pos rfl, if_neg]
      simp only [List.length_append, List.length_cons]
      omega

end Parted

/-! ### Fewer digits -/

section Digits

variable {digits fewer behind : List Char} (hdigits : ∀ c ∈ digits, isDigit c = true)
  (hne : digits ≠ []) (short : digits.length ≤ 4300) (hbehind : StopsAt isDigit behind)

include hdigits hbehind

theorem startsWithNumber_digits (hne : digits ≠ []) (short : digits.length ≤ 4300) :
    startsWithNumber (digits ++ behind) = true := by
  have low : 1 ≤ digits.length := List.length_pos_iff.mpr hne
  rw [startsWithNumber, takeWhile_append_of_stopsAt hdigits hbehind]
  simp only [low, short, decide_true, Bool.and_true]

include hne short

theorem behindOperand_digits : behindOperand (digits ++ behind) = behind := by
  rw [behindOperand, startsWithNumber_digits hdigits hbehind hne short, if_pos rfl,
    dropWhile_append_of_stopsAt hdigits hbehind]

theorem forOperand_digits :
    forOperand (digits ++ behind) = if (digits ++ behind).length = 1 then 9 else 10 := by
  exact forOperand_of_number (startsWithNumber_digits hdigits hbehind hne short)

end Digits

/-- Where a scan begins matters only if it meets no equals sign. -/
theorem behindEqualsFrom_start (text : List Char) :
    (∀ start, behindEqualsFrom start text = start) ∨
      ∃ last, ∀ start, behindEqualsFrom start text = last := by
  induction text with
  | nil => exact .inl fun _ => rfl
  | cons c rest ih =>
      by_cases heq : (c == '=') = true
      · exact .inr ⟨_, fun start => by rw [behindEqualsFrom, if_pos heq]⟩
      · by_cases hname : isNameChar c = true
        · simpa only [behindEqualsFrom, if_neg heq, if_pos hname] using ih
        · exact .inl fun start => by rw [behindEqualsFrom, if_neg heq, if_neg hname]

/-- A text behind a character of no name is scanned by itself, or not scanned at all. -/
theorem behindEqualsFrom_parted {c : Char} (hc : isNameChar c = false) (before front : List Char) :
    (∀ rest, behindEqualsFrom (before ++ (front ++ c :: rest)) (front ++ c :: rest) =
      behindEquals rest) ∨
    ∃ start d, isNameChar d = false ∧ ∀ rest,
      behindEqualsFrom (before ++ (front ++ c :: rest)) (front ++ c :: rest) =
        start ++ d :: rest := by
  induction front generalizing before with
  | nil =>
      by_cases heq : (c == '=') = true
      · exact .inl fun rest => by rw [List.nil_append, behindEqualsFrom, if_pos heq, behindEquals]
      · have hname : ¬ isNameChar c = true := by simp [hc]
        refine .inr ⟨before, c, hc, fun rest => ?_⟩
        rw [List.nil_append, behindEqualsFrom, if_neg heq, if_neg hname]
  | cons d front ih =>
      simp only [List.cons_append, behindEqualsFrom]
      by_cases heq : (d == '=') = true
      · simpa only [if_pos heq, List.nil_append] using ih []
      · by_cases hname : isNameChar d = true
        · have step := ih (before ++ [d])
          simpa only [if_neg heq, if_pos hname, List.append_assoc, List.singleton_append]
            using step
        · refine .inr ⟨before ++ d :: front, c, hc, fun rest => ?_⟩
          rw [if_neg heq, if_neg hname, List.append_assoc, List.cons_append]

theorem ne_nil_of_length_le {digits fewer : List Char} (hne : fewer ≠ [])
    (hle : fewer.length ≤ digits.length) : digits ≠ [] := by
  have := List.length_pos_iff.mpr hne
  exact List.length_pos_iff.mp (by omega)

section Shortened

variable {digits fewer behind : List Char} (hdigits : ∀ c ∈ digits, isDigit c = true)
  (hfewer : ∀ c ∈ fewer, isDigit c = true) (hne : fewer ≠ [])
  (hle : fewer.length ≤ digits.length) (short : digits.length ≤ 4300)
  (hbehind : StopsAt isDigit behind)

include hdigits hfewer hne hle short hbehind

/-- An operand is read with no more calls. -/
theorem forOperand_shortened :
    forOperand (fewer ++ behind) ≤ forOperand (digits ++ behind) := by
  have hne' := ne_nil_of_length_le hne hle
  have low := List.length_pos_iff.mpr hne
  rw [forOperand_digits hfewer hne (Nat.le_trans hle short) hbehind,
    forOperand_digits hdigits hne' short hbehind]
  simp only [List.length_append]
  split <;> split <;> omega

/-- An expression that begins with the number is read with the same calls. -/
theorem forExpression_digits (loud : Bool) :
    forExpression loud (fewer ++ behind) = forExpression loud (digits ++ behind) := by
  have hne' := ne_nil_of_length_le hne hle
  have number := startsWithNumber_digits hdigits hbehind hne' short
  have number' := startsWithNumber_digits hfewer hbehind hne (Nat.le_trans hle short)
  unfold forExpression
  rw [behindOperand_digits hfewer hne (Nat.le_trans hle short) hbehind,
    behindOperand_digits hdigits hne' short hbehind, all_isLetter_of_startsWithNumber number,
    all_isLetter_of_startsWithNumber number']

/-- So is one in which a character of no name stands in front of the number, unless the number is
its second operand: that is read with no more calls. -/
theorem forExpression_parted (loud : Bool) {c : Char} (hc : isNameChar c = false)
    (front : List Char) :
    forExpression loud (front ++ c :: (fewer ++ behind)) ≤
      forExpression loud (front ++ c :: (digits ++ behind)) := by
  have hne' := ne_nil_of_length_le hne hle
  unfold forExpression
  rw [behindOperand_parted hc, behindOperand_parted hc]
  cases behindOperand front with
  | nil =>
      have operand := forOperand_shortened hdigits hfewer hne hle short hbehind
      simp only [List.nil_append]
      rw [behindOperand_digits hfewer hne (Nat.le_trans hle short) hbehind,
        behindOperand_digits hdigits hne' short hbehind]
      split
      · split
        · exact Nat.le_refl 23
        · omega
      · exact Nat.le_refl 18
  | cons d more =>
      simp only [List.cons_append]
      rw [behindOperand_parted hc, behindOperand_parted hc, forOperand_parted hc,
        forOperand_parted hc]
      cases behindOperand more <;> exact Nat.le_refl _

/-- A number with fewer digits in the place of another leaves the calls as they are, or less. -/
theorem forExpression_behindEquals (loud : Bool) {front : List Char}
    (hfront : ∀ c ∈ front.getLast?, isNameChar c = false) :
    forExpression loud (behindEquals (front ++ (fewer ++ behind))) ≤
      forExpression loud (behindEquals (front ++ (digits ++ behind))) := by
  -- the number itself is a name to the scan
  have alone : forExpression loud (behindEquals (fewer ++ behind)) ≤
      forExpression loud (behindEquals (digits ++ behind)) := by
    rw [behindEquals, behindEqualsFrom_append fun c h => isNameChar_of_isDigit (hfewer c h),
      behindEquals, behindEqualsFrom_append fun c h => isNameChar_of_isDigit (hdigits c h)]
    rcases behindEqualsFrom_start behind with h | ⟨last, h⟩
    · rw [h, h]
      exact Nat.le_of_eq (forExpression_digits hdigits hfewer hne hle short hbehind loud)
    · exact Nat.le_of_eq (by rw [h, h])
  cases hlast : front.getLast? with
  | none =>
      rw [List.getLast?_eq_none_iff.mp hlast]
      exact alone
  | some c =>
      obtain ⟨before, rfl⟩ := List.getLast?_eq_some_iff.mp hlast
      have hc := hfront c hlast
      rw [List.append_assoc, List.append_assoc, List.singleton_append, List.singleton_append]
      rcases behindEqualsFrom_parted hc [] before with h | ⟨start, d, hd, h⟩
      · rw [behindEquals, behindEquals]
        exact (h _).symm ▸ (h _).symm ▸ alone
      · rw [behindEquals, behindEquals]
        have step := forExpression_parted hdigits hfewer hne hle short hbehind loud hd start
        rw [← h, ← h] at step
        exact step

end Shortened

/-! ### Less behind -/

section Append

variable {front : List Char} (rest : List Char)

/-- What does not start with a number does not do so either with more behind it. -/
theorem startsWithNumber_append_of_not (h : startsWithNumber front = false) (hne : front ≠ []) :
    startsWithNumber (front ++ rest) = false := by
  have low := List.length_pos_iff.mpr hne
  simp only [startsWithNumber, ← Bool.decide_and, decide_eq_false_iff_not] at h ⊢
  rw [List.takeWhile_append]
  split
  · next all => rw [List.length_append]; omega
  · exact h

/-- Where something is behind an operand, it is behind it with more behind the whole as well. -/
theorem behindOperand_append {c : Char} {more : List Char} (h : behindOperand front = c :: more) :
    behindOperand (front ++ rest) = c :: (more ++ rest) := by
  have dropped : ∀ {p : Char → Bool}, front.dropWhile p = c :: more →
      (front ++ rest).dropWhile p = c :: (more ++ rest) := by
    intro p hp
    rw [List.dropWhile_append, hp]
    rfl
  rw [behindOperand] at h ⊢
  cases hn : startsWithNumber front with
  | true =>
      rw [hn, if_pos rfl] at h
      have shorter : ¬ (front.takeWhile isDigit).length = front.length := by
        have := congrArg List.length (List.takeWhile_append_dropWhile (p := isDigit) (l := front))
        rw [h, List.length_append, List.length_cons] at this
        omega
      have hn' : startsWithNumber (front ++ rest) = true := by
        rw [startsWithNumber, List.takeWhile_append, if_neg shorter]
        exact hn
      rw [hn', if_pos rfl]
      exact dropped h
  | false =>
      rw [hn, if_neg Bool.false_ne_true] at h
      have hne : front ≠ [] := by
        rintro rfl
        cases h
      rw [startsWithNumber_append_of_not rest hn hne, if_neg Bool.false_ne_true]
      exact dropped h

theorem startsWithNumber_of_append (h : startsWithNumber (front ++ rest) = true)
    (hne : front ≠ []) : startsWithNumber front = true := by
  cases hn : startsWithNumber front with
  | true => rfl
  | false => rw [startsWithNumber_append_of_not rest hn hne] at h; cases h

/-- An operand is read with no more calls if the text ends earlier. -/
theorem forOperand_le_append (front : List Char) :
    forOperand front ≤ forOperand (front ++ rest) := by
  by_cases hne : front = []
  · rw [hne]
    exact (le_forOperand _).1
  · have hne' : front ++ rest ≠ [] := by simp [hne]
    cases hn : startsWithNumber (front ++ rest) with
    | true =>
        have low := List.length_pos_iff.mpr hne
        rw [forOperand_of_number (startsWithNumber_of_append rest hn hne),
          forOperand_of_number hn, List.length_append]
        split <;> split <;> omega
    | false =>
        cases letters : front.all isLetter with
        | true =>
            rw [forOperand_of_letters hne letters]
            exact (le_forOperand _).2 hne'
        | false =>
            have letters' : (front ++ rest).all isLetter = false := by
              rw [List.all_append, letters, Bool.false_and]
            rw [forOperand_of_other hn hne' letters']
            exact forOperand_le front

/-- So is an expression. -/
theorem forExpression_le_append (loud : Bool) (front : List Char) :
    forExpression loud front ≤ forExpression loud (front ++ rest) := by
  cases hb : behindOperand front with
  | nil =>
      obtain ⟨low, more⟩ := le_forExpression loud (front ++ rest)
      rw [forExpression, hb]
      simp only
      split
      · exact low
      · next letters =>
          refine more ?_
          rw [List.all_append, Bool.eq_false_iff.mpr letters, Bool.false_and]
  | cons c behind =>
      have operand := forOperand_le_append rest behind
      have further : (behindOperand behind).head?.any isOperatorChar = true →
          (behindOperand (behind ++ rest)).head?.any isOperatorChar = true := by
        intro h
        cases hd : behindOperand behind with
        | nil => rw [hd] at h; cases h
        | cons d more =>
            rw [hd] at h
            rw [behindOperand_append rest hd]
            exact h
      rw [forExpression, forExpression, hb, behindOperand_append rest hb]
      simp only
      split
      · split
        · next h =>
            rw [Bool.and_eq_true] at h
            exact Nat.le_of_eq (by rw [further h.2, h.1, Bool.and_self, if_pos rfl])
        · have := forOperand_le behind
          split <;> omega
      · exact Nat.le_refl 18

end Append

theorem room_shortened {text shorter : List Char} (h : Shortened text shorter) (pending : Nat)
    (loud : Bool) (rule : Rule) : room pending loud rule text ≤ room pending loud rule shorter := by
  have fewer : forExpression loud (behindEquals shorter) ≤
      forExpression loud (behindEquals text) := by
    cases h with
    | digits hfront hdigits hfewer hne hle short hbehind =>
        exact forExpression_behindEquals hdigits hfewer hne hle short hbehind loud hfront
    | @cut front rest h =>
        rw [h]
        exact forExpression_le_append rest loud _
  exact Nat.div_le_div_right (by omega)

end Calls

/-! ### Stacks -/

/-- The stack on which `pending` calls are pending already. -/
@[reducible] def Stack.counted (pending : Nat) (loud : Bool) (h : pending ≤ 400) : Stack where
  room := Calls.room pending loud
  links := (Calls.limit - pending) / 3
  forty_le_room := Calls.forty_le_room h loud
  room_lt_thousand := Calls.room_lt pending loud
  room_le_of_shortened rule _ _ hshort := Calls.room_shortened hshort pending loud rule

/-- Where nothing else is said, a rule is asked for by the program itself: two calls are pending
and the log is silent. -/
instance : Stack := .counted 2 false (by decide)

end FlatExpr
