import FlatExpr.Text.Quoted
import Mathlib.Algebra.Group.Nat.Defs
import Mathlib.Tactic.SplitIfs

/-!
# Text — Quoted

What is written between quotes can be told from its printed form, and so can its end: a printed
form is never continued by what stands behind it (`quotedChars_append_inj`).

* `unescape`: the first character of what stands between quotes, read back from its escape.
* `unescape_escape`: every escape is read back, whatever stands behind it.
* `flatMap_escape_append_inj`: up to the closing quote, which is no escape's first character,
  escapes can be read back one after another.
-/

namespace FlatExpr.Text

/-! ### Hexadecimal digits -/

/-- The value of a hexadecimal digit in lower case. -/
def hexDigit (c : Char) : Nat := if c.toNat < 0x3a then c.toNat - 0x30 else c.toNat - 0x57

/-- What a run of hexadecimal digits denotes. -/
def hexValue (digits : List Char) : Nat :=
  digits.foldl (fun total c => 16 * total + hexDigit c) 0

theorem hexDigit_digitChar : ∀ n < 16, hexDigit (Nat.digitChar n) = n := by decide

/-- A number below `16 ^ width` is read back from its digits. -/
theorem hexValue_hex {width n : Nat} (h : n < 16 ^ width) : hexValue (hex width n) = n := by
  induction width generalizing n with
  | zero => exact (Nat.lt_one_iff.mp h).symm
  | succ width ih =>
      have front : hexValue (hex width (n / 16)) = n / 16 := ih (Nat.div_lt_of_lt_mul (by omega))
      rw [hexValue] at front
      rw [hex, hexValue, List.foldl_append, front, List.foldl_cons, List.foldl_nil,
        hexDigit_digitChar (n % 16) (Nat.mod_lt n (by decide))]
      exact Nat.div_add_mod n 16

/-! ### Escapes -/

/-- The character that the first `width` digits of `text` denote, and what stands behind them. -/
def numbered (width : Nat) (text : List Char) : Char × List Char :=
  (Char.ofNat (hexValue (text.take width)), text.drop width)

/-- The first character of what stands between quotes, and what stands behind it. -/
def unescape : List Char → Option (Char × List Char)
  | '\\' :: 'n' :: rest => some ('\n', rest)
  | '\\' :: 'r' :: rest => some ('\r', rest)
  | '\\' :: 't' :: rest => some ('\t', rest)
  | '\\' :: 'x' :: rest => some (numbered 2 rest)
  | '\\' :: 'u' :: rest => some (numbered 4 rest)
  | '\\' :: 'U' :: rest => some (numbered 8 rest)
  | '\\' :: c :: rest => some (c, rest)
  | c :: rest => some (c, rest)
  | [] => none

theorem numbered_hex {width : Nat} {c : Char} (h : c.toNat < 16 ^ width) (rest : List Char) :
    numbered width (hex width c.toNat ++ rest) = (c, rest) := by
  have hl : (hex width c.toNat).length = width := length_hex width c.toNat
  rw [numbered, List.take_left' hl, List.drop_left' hl, hexValue_hex h, Char.ofNat_toNat]

/-- A quote that texts are printed between. -/
def IsQuote (quote : Char) : Prop := quote = '\'' ∨ quote = '"'

theorem isQuote_quoteFor (text : List Char) : IsQuote (quoteFor text) := by
  unfold quoteFor
  split
  · exact .inr rfl
  · exact .inl rfl

section Escape

variable {quote : Char} (hq : IsQuote quote)

include hq

/-- **Escapes** are read back, whatever stands behind them. -/
theorem unescape_escape (c : Char) (rest : List Char) :
    unescape (escape quote c ++ rest) = some (c, rest) := by
  unfold escape
  split_ifs with hself hn hr ht hp hx hu
  · rcases hq with rfl | rfl <;> rcases hself with rfl | rfl <;> rfl
  · rw [hn]; rfl
  · rw [hr]; rfl
  · rw [ht]; rfl
  · have hc : c ≠ '\\' := fun h => hself (.inr h)
    simp [unescape, hc]
  · exact congrArg some (numbered_hex hx rest)
  · exact congrArg some (numbered_hex hu rest)
  · have hU : c.toNat < 16 ^ 8 := c.val.toNat_lt
    exact congrArg some (numbered_hex hU rest)

/-- No escape begins with the quote in use. -/
theorem exists_escape (c : Char) : ∃ d more, escape quote c = d :: more ∧ d ≠ quote := by
  have hb : '\\' ≠ quote := by rcases hq with rfl | rfl <;> decide
  unfold escape
  split_ifs with hself
  · exact ⟨'\\', [c], rfl, hb⟩
  · exact ⟨'\\', ['n'], rfl, hb⟩
  · exact ⟨'\\', ['r'], rfl, hb⟩
  · exact ⟨'\\', ['t'], rfl, hb⟩
  · exact ⟨c, [], rfl, fun h => hself (.inl h)⟩
  · exact ⟨'\\', 'x' :: hex 2 c.toNat, rfl, hb⟩
  · exact ⟨'\\', 'u' :: hex 4 c.toNat, rfl, hb⟩
  · exact ⟨'\\', 'U' :: hex 8 c.toNat, rfl, hb⟩

/-- Escapes up to the closing quote are read back one after another. -/
theorem flatMap_escape_append_inj {s t rest rest' : List Char}
    (h : s.flatMap (escape quote) ++ quote :: rest = t.flatMap (escape quote) ++ quote :: rest') :
    s = t ∧ rest = rest' := by
  -- where one text is at its end, an escape of the other would begin with the closing quote
  induction s generalizing t with
  | nil =>
      cases t with
      | nil => exact ⟨rfl, (List.cons.inj h).2⟩
      | cons d t =>
          obtain ⟨e, more, he, hne⟩ := exists_escape hq d
          rw [List.flatMap_cons, he] at h
          exact absurd (List.cons.inj h).1.symm hne
  | cons c s ih =>
      cases t with
      | nil =>
          obtain ⟨e, more, he, hne⟩ := exists_escape hq c
          rw [List.flatMap_cons, he] at h
          exact absurd (List.cons.inj h).1 hne
      | cons d t =>
          rw [List.flatMap_cons, List.flatMap_cons, List.append_assoc, List.append_assoc] at h
          have hread := congrArg unescape h
          rw [unescape_escape hq, unescape_escape hq, Option.some.injEq, Prod.mk.injEq] at hread
          obtain ⟨rfl, hbehind⟩ := hread
          obtain ⟨rfl, hrest⟩ := ih hbehind
          exact ⟨rfl, hrest⟩

end Escape

/-! ### Between quotes -/

/-- **A printed text** can be told from whatever it stands in front of: the quote in use is its
first character, and the next one that is not part of an escape closes it. -/
theorem quotedChars_append_inj {s t rest rest' : List Char}
    (h : quotedChars s ++ rest = quotedChars t ++ rest') : s = t ∧ rest = rest' := by
  simp only [quotedChars, List.cons_append, List.append_assoc] at h
  obtain ⟨hquote, h⟩ := List.cons.inj h
  rw [← hquote] at h
  exact flatMap_escape_append_inj (isQuote_quoteFor s) h

theorem quotedChars_toList_append_inj {s t : String} {rest rest' : List Char}
    (h : quotedChars s.toList ++ rest = quotedChars t.toList ++ rest') : s = t ∧ rest = rest' := by
  obtain ⟨hst, hrest⟩ := quotedChars_append_inj h
  exact ⟨String.toList_inj.mp hst, hrest⟩

end FlatExpr.Text
