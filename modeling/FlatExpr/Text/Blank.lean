/-!
# Text — Blank

White space of Unicode 14.0, and the two things done with it: trimming a text and splitting it
into words.

* `exists_words_cons`: the first word begins as the text does, where that is not with a blank.
-/

namespace FlatExpr.Text

/-- White space: the tab to the carriage return, the four separator controls, the spaces, and
the line and paragraph separators. -/
def isBlank (c : Char) : Bool :=
  let n := c.toNat
  (decide (0x9 ≤ n) && decide (n ≤ 0xd)) || (decide (0x1c ≤ n) && decide (n ≤ 0x20)) ||
  n == 0x85 || n == 0xa0 || n == 0x1680 || (decide (0x2000 ≤ n) && decide (n ≤ 0x200a)) ||
  n == 0x2028 || n == 0x2029 || n == 0x202f || n == 0x205f || n == 0x3000

/-- The text without the blanks it starts with. -/
def dropBlanks (text : List Char) : List Char := text.dropWhile isBlank

/-- The text without the blanks at its two ends. -/
def trim (text : List Char) : List Char := (dropBlanks (dropBlanks text).reverse).reverse

/-- The words of a text, in order; `word` holds the letters of the word being read, last first. -/
def wordsFrom (word : List Char) : List Char → List (List Char)
  | [] => if word.isEmpty then [] else [word.reverse]
  | c :: rest =>
      if isBlank c then
        if word.isEmpty then wordsFrom [] rest else word.reverse :: wordsFrom [] rest
      else wordsFrom (c :: word) rest

/-- The maximal runs of characters that are not blank, in order. -/
def words (text : List Char) : List (List Char) := wordsFrom [] text

/-- The letters of the word being read stand in front of the first word. -/
theorem exists_wordsFrom_cons {word : List Char} (h : word ≠ []) (text : List Char) :
    ∃ w more, wordsFrom word text = (word.reverse ++ w) :: more := by
  induction text generalizing word with
  | nil => exact ⟨[], [], by simp [wordsFrom, h]⟩
  | cons c text ih =>
      cases hc : isBlank c with
      | true => exact ⟨[], wordsFrom [] text, by simp [wordsFrom, hc, h]⟩
      | false =>
          obtain ⟨w, more, heq⟩ := ih (List.cons_ne_nil c word)
          exact ⟨c :: w, more, by simp [wordsFrom, hc, heq]⟩

/-- The first word begins as the text does, where that is not with a blank. -/
theorem exists_words_cons {c : Char} (h : isBlank c = false) (text : List Char) :
    ∃ w more, words (c :: text) = (c :: w) :: more := by
  obtain ⟨w, more, heq⟩ := exists_wordsFrom_cons (List.cons_ne_nil c []) text
  exact ⟨w, more, by simp [words, wordsFrom, h, heq]⟩

end FlatExpr.Text
