import FlatExpr.Text.CharClass

/-!
# Text — Span

The longest run of characters of one kind that a text begins with.  Where a text of such
characters stands in front of one that does not begin with another, the run is the first text
and what is left is the second (`takeWhile_append_of_stopsAt`, `dropWhile_append_of_stopsAt`).

The kinds are the characters of a name (`isNameChar`) and the four operators
(`isOperatorChar`); no operator, and no equals sign, is a character of a name.
-/

namespace FlatExpr.Text

/-- `text` does not begin with a character that `p` holds of. -/
def StopsAt (p : Char → Bool) (text : List Char) : Prop := ∀ c ∈ text.head?, p c = false

section Span

variable {p : Char → Bool} {front rest text : List Char}

theorem StopsAt.nil : StopsAt p [] := by simp [StopsAt]

theorem StopsAt.cons {c : Char} (h : p c = false) : StopsAt p (c :: rest) := by
  simpa [StopsAt] using h

theorem exists_of_not_stopsAt (h : ¬ StopsAt p text) : ∃ c rest, text = c :: rest ∧ p c = true := by
  cases text with
  | nil => exact absurd .nil h
  | cons c rest =>
      refine ⟨c, rest, rfl, ?_⟩
      cases hc : p c with
      | true => rfl
      | false => exact absurd (.cons hc) h

theorem StopsAt.takeWhile (h : StopsAt p rest) : rest.takeWhile p = [] := by
  cases rest with
  | nil => rfl
  | cons c rest => exact List.takeWhile_cons_of_neg (by simp [h c rfl])

theorem StopsAt.dropWhile (h : StopsAt p rest) : rest.dropWhile p = rest := by
  cases rest with
  | nil => rfl
  | cons c rest => exact List.dropWhile_cons_of_neg (by simp [h c rfl])

/-- What is left behind the longest run does not go on with it. -/
theorem stopsAt_dropWhile (p : Char → Bool) (text : List Char) :
    StopsAt p (text.dropWhile p) := by
  induction text with
  | nil => exact .nil
  | cons c text ih =>
      by_cases hc : p c = true
      · rwa [List.dropWhile_cons_of_pos hc]
      · rw [List.dropWhile_cons_of_neg hc]
        exact .cons (by simpa using hc)

theorem takeWhile_append_of_stopsAt (hf : ∀ c ∈ front, p c = true) (hr : StopsAt p rest) :
    (front ++ rest).takeWhile p = front := by
  rw [List.takeWhile_append_of_pos hf, hr.takeWhile, List.append_nil]

theorem dropWhile_append_of_stopsAt (hf : ∀ c ∈ front, p c = true) (hr : StopsAt p rest) :
    (front ++ rest).dropWhile p = rest := by
  rw [List.dropWhile_append_of_pos hf, hr.dropWhile]

/-- What does not go on with a run adds nothing to it. -/
theorem takeWhile_append_stopsAt (front : List Char) (hr : StopsAt p rest) :
    (front ++ rest).takeWhile p = front.takeWhile p := by
  induction front with
  | nil => exact hr.takeWhile
  | cons c front ih =>
      rw [List.cons_append]
      by_cases hc : p c = true
      · rw [List.takeWhile_cons_of_pos hc, List.takeWhile_cons_of_pos hc, ih]
      · rw [List.takeWhile_cons_of_neg hc, List.takeWhile_cons_of_neg hc]

theorem dropWhile_append_stopsAt (front : List Char) (hr : StopsAt p rest) :
    (front ++ rest).dropWhile p = front.dropWhile p ++ rest := by
  induction front with
  | nil => exact hr.dropWhile
  | cons c front ih =>
      rw [List.cons_append]
      by_cases hc : p c = true
      · rw [List.dropWhile_cons_of_pos hc, List.dropWhile_cons_of_pos hc, ih]
      · rw [List.dropWhile_cons_of_neg hc, List.dropWhile_cons_of_neg hc, List.cons_append]

/-- A text without characters of the kind `q` in front of one that does not begin with any does
not begin with one wherever a run of another kind is dropped from it. -/
theorem StopsAt.dropWhile_append {q : Char → Bool} (hf : ∀ c ∈ front, q c = false)
    (hr : StopsAt q rest) (hp : StopsAt p rest) : StopsAt q ((front ++ rest).dropWhile p) := by
  induction front with
  | nil => rw [List.nil_append, hp.dropWhile]; exact hr
  | cons c front ih =>
      rw [List.cons_append]
      by_cases hc : p c = true
      · rw [List.dropWhile_cons_of_pos hc]
        exact ih fun d hd => hf d (List.mem_cons_of_mem c hd)
      · rw [List.dropWhile_cons_of_neg hc]
        exact .cons (hf c (by simp))

theorem length_dropWhile_le (p : Char → Bool) (text : List Char) :
    (text.dropWhile p).length ≤ text.length :=
  (List.dropWhile_suffix p).length_le

end Span

/-! ### Kinds of characters -/

theorem isOperatorChar_iff {c : Char} :
    isOperatorChar c = true ↔ c = '+' ∨ c = '-' ∨ c = '*' ∨ c = '/' := by
  simp [isOperatorChar, or_assoc]

theorem isNameChar_of_isDigit {c : Char} (h : isDigit c = true) : isNameChar c = true := by
  simp [isNameChar, h]

theorem isNameChar_of_isOperatorChar {c : Char} (h : isOperatorChar c = true) :
    isNameChar c = false := by
  rcases isOperatorChar_iff.mp h with rfl | rfl | rfl | rfl <;> decide

theorem isOperatorChar_of_isNameChar {c : Char} (h : isNameChar c = true) :
    isOperatorChar c = false := by
  cases ho : isOperatorChar c with
  | false => rfl
  | true => rw [isNameChar_of_isOperatorChar ho] at h; exact absurd h (by decide)

theorem isNameChar_equals : isNameChar '=' = false := by decide

theorem isOperatorChar_equals : isOperatorChar '=' = false := by decide

theorem isDigit_eq_false_of_isNameChar {c : Char} (h : isNameChar c = false) :
    isDigit c = false := by
  cases hd : isDigit c with
  | false => rfl
  | true => rw [isNameChar_of_isDigit hd] at h; exact absurd h (by decide)

/-- A text that does not begin with a character of a name does not begin with a digit. -/
theorem StopsAt.isDigit {rest : List Char} (h : StopsAt isNameChar rest) :
    StopsAt isDigit rest :=
  fun c hc => isDigit_eq_false_of_isNameChar (h c hc)

end FlatExpr.Text
