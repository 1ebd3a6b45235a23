import FlatExpr.Text.Span
import FlatExpr.Text.Decimal
import FlatExpr.Text.Integer
import Mathlib.Algebra.Group.Nat.Defs
import Mathlib.Data.List.Basic
import Mathlib.Data.List.TakeWhile
import Mathlib.Data.List.Induction

/-!
# Text — Numeral

Runs of digits as integers, and the decimal digits of an integer as such a run.

* `integer?_digits`: a run of digits denotes its positional value, unless it is longer than can
  be converted; that is the only way in which it denotes nothing.
* `positional_lt`: what a run of `k` digits denotes is below `10 ^ k`.
* `positional_decimalDigits`, `length_decimalDigits_le_iff`: the decimal digits of a number denote
  it, and there are at most `k` of them exactly if it is below `10 ^ k`.
* `decimal_append_inj`: an integer, and where its text ends, can be told from a text that goes on
  with something else than a digit.
-/

namespace FlatExpr.Text

/-! ### Digits stand for themselves -/

/-- The code points of the blanks. -/
def blankPoints : List Nat := [
  0x9, 0xa, 0xb, 0xc, 0xd, 0x1c, 0x1d, 0x1e, 0x1f, 0x20, 0x85, 0xa0, 0x1680, 0x2000, 0x2001,
  0x2002, 0x2003, 0x2004, 0x2005, 0x2006, 0x2007, 0x2008, 0x2009, 0x200a, 0x2028, 0x2029, 0x202f,
  0x205f, 0x3000]

theorem toNat_mem_blankPoints {c : Char} (h : isBlank c = true) : c.toNat ∈ blankPoints := by
  simp only [isBlank, Bool.or_eq_true, Bool.and_eq_true, decide_eq_true_eq, beq_iff_eq] at h
  simp only [blankPoints, List.mem_cons, List.not_mem_nil, or_false]
  omega

/-- No digit is a blank. -/
theorem isBlank_of_isDigit {c : Char} (h : isDigit c = true) : isBlank c = false := by
  -- none of the blanks is in the table of the digits
  have none : ∀ n ∈ blankPoints, (offsetFromZero digitZeros n).isSome = false := by decide
  cases hb : isBlank c with
  | false => rfl
  | true =>
      have := none c.toNat (toNat_mem_blankPoints hb)
      rw [isDigit, digitValue?, this] at h
      exact absurd h (by decide)

theorem dropBlanks_of_digits {text : List Char} (h : ∀ c ∈ text, isDigit c = true) :
    dropBlanks text = text := by
  refine StopsAt.dropWhile fun c hc => isBlank_of_isDigit (h c ?_)
  exact List.mem_of_mem_head? hc

theorem trim_of_digits {text : List Char} (h : ∀ c ∈ text, isDigit c = true) :
    trim text = text := by
  unfold trim
  rw [dropBlanks_of_digits h, dropBlanks_of_digits fun c hc => h c (List.mem_reverse.mp hc),
    List.reverse_reverse]

theorem ungrouped?_of_digits {text : List Char} (hne : text ≠ [])
    (h : ∀ c ∈ text, isDigit c = true) : ungrouped? text = some text := by
  induction text with
  | nil => exact absurd rfl hne
  | cons c more ih =>
      have hc : isDigit c = true := h c (by simp)
      cases more with
      | nil => simp [ungrouped?, hc]
      | cons d more =>
          have hd : isDigit d = true := h d (by simp)
          have hu : d ≠ '_' := by rintro rfl; exact absurd hd (by decide)
          have := ih (by simp) fun x hx => h x (List.mem_cons_of_mem c hx)
          simp [ungrouped?, hu, hc, this]

/-- **Conversion.**  A run of digits denotes its positional value, unless there are too many. -/
theorem integer?_digits {text : List Char} (hne : text ≠ [])
    (h : ∀ c ∈ text, isDigit c = true) :
    integer? text =
      if text.length ≤ maxDigits then some (Int.ofNat (positional text)) else none := by
  have hn : natural? text = if text.length ≤ maxDigits then some (positional text) else none := by
    simp [natural?, ungrouped?_of_digits hne h]
  unfold integer?
  rw [trim_of_digits h]
  -- a sign is no digit, so the text is read as it stands
  split
  · exact absurd (h '-' (by simp)) (by decide)
  · exact absurd (h '+' (by simp)) (by decide)
  · rw [hn]
    split <;> rfl

/-! ### Positional values -/

/-- A digit behind a run weighs one, and what stands before it ten times as much as it did. -/
theorem positional_append_singleton (digits : List Char) (c : Char) :
    positional (digits ++ [c]) = 10 * positional digits + digitValue c := by
  rw [positional, List.foldl_append]
  rfl

theorem positional_lt (digits : List Char) : positional digits < 10 ^ digits.length := by
  induction digits using List.reverseRecOn with
  | nil => exact Nat.one_pos
  | append_singleton digits c ih =>
      have hc := digitValue_lt c
      rw [positional_append_singleton, List.length_append, List.length_singleton, Nat.pow_succ]
      omega

theorem positional_lt_of_length_le {digits : List Char} {k : Nat} (h : digits.length ≤ k) :
    positional digits < 10 ^ k :=
  (positional_lt digits).trans_le (Nat.pow_le_pow_right (by decide) h)

/-! ### Decimal digits -/

theorem digitValue?_of_isDigit {c : Char} (h : c.isDigit = true) :
    digitValue? c = some (c.toNat - '0'.toNat) := by
  obtain ⟨low, high⟩ := Char.isDigit_iff_toNat.mp h
  have low : ¬ c.toNat < 0x30 := Nat.not_lt.mpr low
  have high : c.toNat < 0x30 + 10 := Nat.lt_succ_of_le high
  unfold digitValue? digitZeros
  rw [offsetFromZero, if_neg low, if_pos high]
  rfl

theorem isDigit_of_mem_decimalDigits {n : Nat} {c : Char} (h : c ∈ decimalDigits n) :
    isDigit c = true := by
  have hc : c.isDigit = true := Nat.isDigit_of_mem_toDigits (by decide) (by decide) h
  simp [isDigit, digitValue?_of_isDigit hc]

theorem decimalDigits_ne_nil (n : Nat) : decimalDigits n ≠ [] := Nat.toDigits_ne_nil

/-- The decimal digits of a number denote it. -/
theorem positional_decimalDigits (n : Nat) : positional (decimalDigits n) = n := by
  calc positional (decimalDigits n)
      = Nat.ofDigitChars 10 (decimalDigits n) 0 := by
        refine List.foldl_ext _ _ _ fun total c hc => ?_
        have hc : c.isDigit = true := Nat.isDigit_of_mem_toDigits (by decide) (by decide) hc
        rw [digitValue, digitValue?_of_isDigit hc, Option.getD_some]
    _ = n := Nat.ofDigitChars_ten_toDigits

theorem length_decimalDigits_le_iff {n k : Nat} (hk : 0 < k) :
    (decimalDigits n).length ≤ k ↔ n < 10 ^ k :=
  Nat.length_toDigits_le_iff (by decide) hk

/-! ### Decimal texts -/

section Decimal

variable {n m : Nat} {v w : Int} {rest rest' : List Char}

/-- Decimal digits end where no digit stands behind them. -/
theorem decimalDigits_append_inj (hr : StopsAt isDigit rest) (hr' : StopsAt isDigit rest')
    (h : decimalDigits n ++ rest = decimalDigits m ++ rest') : n = m ∧ rest = rest' := by
  have digits (n : Nat) : ∀ c ∈ decimalDigits n, isDigit c = true :=
    fun c hc => isDigit_of_mem_decimalDigits hc
  have front : decimalDigits n = decimalDigits m := by
    rw [← takeWhile_append_of_stopsAt (digits n) hr, h, takeWhile_append_of_stopsAt (digits m) hr']
  have value : n = m := by
    rw [← positional_decimalDigits n, front, positional_decimalDigits]
  subst value
  exact ⟨rfl, List.append_cancel_left h⟩

theorem exists_decimalDigits (n : Nat) :
    ∃ c more, decimalDigits n = c :: more ∧ isDigit c = true := by
  cases hn : decimalDigits n with
  | nil => exact absurd hn (decimalDigits_ne_nil n)
  | cons c more => exact ⟨c, more, rfl, isDigit_of_mem_decimalDigits (hn ▸ List.mem_cons_self)⟩

theorem toList_decimal_ofNat (n : Nat) : (decimal (.ofNat n)).toList = decimalDigits n :=
  String.toList_ofList

theorem toList_decimal_negSucc (n : Nat) :
    (decimal (.negSucc n)).toList = '-' :: decimalDigits (n + 1) := by
  rw [decimal, String.toList_append, String.toList_ofList, String.toList_ofList]
  rfl

/-- The text of an integer begins with a digit or with a minus sign. -/
theorem exists_decimal (v : Int) :
    ∃ c more, (decimal v).toList = c :: more ∧ (c = '-' ∨ isDigit c = true) := by
  cases v with
  | ofNat n =>
      obtain ⟨c, more, hn, hc⟩ := exists_decimalDigits n
      exact ⟨c, more, (toList_decimal_ofNat n).trans hn, .inr hc⟩
  | negSucc n => exact ⟨'-', _, toList_decimal_negSucc n, .inl rfl⟩

/-- Digits do not begin with a minus sign. -/
theorem decimalDigits_append_ne (n : Nat) (rest rest' : List Char) :
    decimalDigits n ++ rest ≠ '-' :: rest' := by
  obtain ⟨c, more, hn, hc⟩ := exists_decimalDigits n
  rw [hn]
  rintro h
  obtain ⟨rfl, -⟩ := List.cons.inj h
  exact absurd hc (by decide)

/-- **The text of an integer** ends where no digit stands behind it. -/
theorem decimal_append_inj (hr : StopsAt isDigit rest) (hr' : StopsAt isDigit rest')
    (h : (decimal v).toList ++ rest = (decimal w).toList ++ rest') : v = w ∧ rest = rest' := by
  cases v with
  | ofNat n =>
      cases w with
      | ofNat m =>
          rw [toList_decimal_ofNat, toList_decimal_ofNat] at h
          obtain ⟨rfl, hrest⟩ := decimalDigits_append_inj hr hr' h
          exact ⟨rfl, hrest⟩
      | negSucc m =>
          rw [toList_decimal_ofNat, toList_decimal_negSucc] at h
          exact absurd h (decimalDigits_append_ne n rest _)
  | negSucc n =>
      cases w with
      | ofNat m =>
          rw [toList_decimal_ofNat, toList_decimal_negSucc] at h
          exact absurd h.symm (decimalDigits_append_ne m rest' _)
      | negSucc m =>
          rw [toList_decimal_negSucc, toList_decimal_negSucc] at h
          obtain ⟨hnm, hrest⟩ := decimalDigits_append_inj hr hr' (List.cons.inj h).2
          obtain rfl := Nat.succ.inj hnm
          exact ⟨rfl, hrest⟩

end Decimal

end FlatExpr.Text
