import FlatExpr.Json
import Mathlib.Tactic.SplitIfs

/-!
# Json — Text

What stands between the quotes of a JSON text, read back.  The reader follows the format and not
the writer: it takes every escape that JSON has, hexadecimal digits in either case, and refuses
control characters, a quote or a backslash that stands alone, and half a surrogate pair.

* `character?`: the first character between the quotes; a surrogate pair is one character.
* `character?_escape`: every escape that is written is read back, whatever stands behind it.
* `characters?_flatMap_escape`: so is a whole text, up to the closing quote.
* `toNat_lt_of_mem_escape`: escapes are plain ASCII.
-/

namespace FlatExpr.Json
open Text

/-! ### Reading -/

/-- The value of a hexadecimal digit, in lower or upper case. -/
def hexDigit? (c : Char) : Option Nat :=
  if 0x30 ≤ c.toNat ∧ c.toNat ≤ 0x39 then some (c.toNat - 0x30)
  else if 0x61 ≤ c.toNat ∧ c.toNat ≤ 0x66 then some (c.toNat - 0x57)
  else if 0x41 ≤ c.toNat ∧ c.toNat ≤ 0x46 then some (c.toNat - 0x37)
  else none

/-- What four hexadecimal digits denote, and what stands behind them. -/
def unit? : List Char → Option (Nat × List Char)
  | a :: b :: c :: d :: rest => do
      let a ← hexDigit? a
      let b ← hexDigit? b
      let c ← hexDigit? c
      let d ← hexDigit? d
      return (0x1000 * a + 0x100 * b + 0x10 * c + d, rest)
  | _ => none

/-- The character that an escape of `unit` in front of `chars` stands for: the first half of a
surrogate pair stands for one together with the second half, which has to follow. -/
def ofUnit? (unit : Nat) (chars : List Char) : Option (Char × List Char) :=
  if unit < 0xd800 ∨ 0xdfff < unit then some (Char.ofNat unit, chars)
  else
    match chars with
    | '\\' :: 'u' :: chars => do
        let (second, rest) ← unit? chars
        if unit ≤ 0xdbff ∧ 0xdc00 ≤ second ∧ second ≤ 0xdfff then
          return (Char.ofNat (0x10000 + 0x400 * (unit - 0xd800) + (second - 0xdc00)), rest)
        else none
    | _ => none

/-- What a letter behind a backslash stands for. -/
def shortEscape? : Char → Option Char
  | '"' => some '"'
  | '\\' => some '\\'
  | '/' => some '/'
  | 'b' => some '\x08'
  | 'f' => some '\x0c'
  | 'n' => some '\n'
  | 'r' => some '\r'
  | 't' => some '\t'
  | _ => none

/-- The first character of what stands between quotes, and what stands behind it. -/
def character? : List Char → Option (Char × List Char)
  | '\\' :: 'u' :: chars => (unit? chars).bind fun (unit, rest) => ofUnit? unit rest
  | '\\' :: c :: rest => (shortEscape? c).map (·, rest)
  | c :: rest => if c = '\\' ∨ c = '"' ∨ c.toNat < 0x20 then none else some (c, rest)
  | [] => none

theorem length_of_unit? {chars rest : List Char} {n : Nat} (h : unit? chars = some (n, rest)) :
    chars.length = rest.length + 4 := by
  unfold unit? at h
  split at h
  · simp only [bind, Option.bind_eq_some_iff, pure, Option.some.injEq, Prod.mk.injEq] at h
    obtain ⟨_, -, _, -, _, -, _, -, -, rfl⟩ := h
    rfl
  · cases h

theorem length_le_of_ofUnit? {unit : Nat} {chars rest : List Char} {c : Char}
    (h : ofUnit? unit chars = some (c, rest)) : rest.length ≤ chars.length := by
  unfold ofUnit? at h
  split at h
  · cases h
    exact Nat.le_refl _
  · split at h
    · next chars _ =>
        simp only [bind, Option.bind_eq_some_iff] at h
        obtain ⟨⟨second, left⟩, hunit, h⟩ := h
        split at h
        · simp only [pure, Option.some.injEq, Prod.mk.injEq] at h
          obtain ⟨-, rfl⟩ := h
          have hlength := length_of_unit? hunit
          simp only [List.length_cons]
          omega
        · cases h
    · cases h

/-- Every character takes up some of the text. -/
theorem length_lt_of_character? {chars rest : List Char} {c : Char}
    (h : character? chars = some (c, rest)) : rest.length < chars.length := by
  unfold character? at h
  split at h
  · simp only [Option.bind_eq_some_iff] at h
    obtain ⟨⟨unit, left⟩, hunit, h⟩ := h
    have hlength := length_of_unit? hunit
    have hle : rest.length ≤ left.length := length_le_of_ofUnit? h
    simp only [List.length_cons]
    omega
  · obtain ⟨d, -, hd⟩ := Option.map_eq_some_iff.mp h
    cases hd
    simp only [List.length_cons]
    omega
  · split at h
    · cases h
    · cases h
      exact Nat.lt_succ_self _
  · cases h

/-- What stands in front of the closing quote, and what stands behind that. -/
def characters? : List Char → Option (List Char × List Char)
  | '"' :: rest => some ([], rest)
  | chars =>
      match _ : character? chars with
      | some (c, rest) => (characters? rest).map fun (more, left) => (c :: more, left)
      | none => none
termination_by chars => chars.length
decreasing_by exact length_lt_of_character? ‹_›

theorem characters?_of_character? {chars rest : List Char} {c : Char}
    (h : character? chars = some (c, rest)) :
    characters? chars = (characters? rest).map fun (more, left) => (c :: more, left) := by
  rw [characters?]
  · split
    · next heq => cases h.symm.trans heq; rfl
    · next heq => cases h.symm.trans heq
  · rintro left rfl
    cases h

/-! ### Reading what is written -/

theorem hexDigit?_digitChar : ∀ n < 16, hexDigit? (Nat.digitChar n) = some n := by decide

/-- An escape of four digits is read back. -/
theorem unit?_hex {n : Nat} (h : n < 0x10000) (rest : List Char) :
    unit? (hex 4 n ++ rest) = some (n, rest) := by
  have digit (k : Nat) : hexDigit? (Nat.digitChar (k % 16)) = some (k % 16) :=
    hexDigit?_digitChar _ (Nat.mod_lt k (by decide))
  simp only [hex, List.nil_append, List.cons_append, unit?, digit, bind, Option.bind_some, pure,
    Option.some.injEq, Prod.mk.injEq, and_true]
  omega

/-- A character is no half of a surrogate pair. -/
theorem not_surrogate (c : Char) : c.toNat < 0xd800 ∨ 0xdfff < c.toNat := by
  rcases c.valid with h | ⟨h, -⟩
  · exact .inl h
  · exact .inr h

theorem character?_unitEscape {c : Char} (h : c.toNat < 0x10000) (rest : List Char) :
    character? (unitEscape c.toNat ++ rest) = some (c, rest) := by
  simp only [unitEscape, List.cons_append, character?, unit?_hex h, Option.bind_some, ofUnit?,
    if_pos (not_surrogate c), Char.ofNat_toNat]

/-- Two halves of a surrogate pair are read as the character that they stand for. -/
theorem ofUnit?_pair {first second : Nat} (hf : first < 0x400) (hs : second < 0x400)
    (rest : List Char) :
    ofUnit? (0xd800 + first) (unitEscape (0xdc00 + second) ++ rest) =
      some (Char.ofNat (0x10000 + 0x400 * first + second), rest) := by
  have half : ¬ (0xd800 + first < 0xd800 ∨ 0xdfff < 0xd800 + first) := by omega
  have hunit : 0xdc00 + second < 0x10000 := by omega
  have pair : 0xd800 + first ≤ 0xdbff ∧ 0xdc00 ≤ 0xdc00 + second ∧ 0xdc00 + second ≤ 0xdfff := by
    omega
  simp only [ofUnit?, if_neg half, unitEscape, List.cons_append, unit?_hex hunit, bind,
    Option.bind_some, if_pos pair, Nat.add_sub_cancel_left, pure]

theorem character?_pair {c : Char} (h : 0x10000 ≤ c.toNat) (rest : List Char) :
    character? (unitEscape (0xd800 + (c.toNat - 0x10000) / 0x400) ++
      unitEscape (0xdc00 + (c.toNat - 0x10000) % 0x400) ++ rest) = some (c, rest) := by
  have high : c.toNat < 0x110000 := by
    rcases c.valid with h | ⟨-, h⟩
    · exact Nat.lt_trans h (by decide)
    · exact h
  have hf : (c.toNat - 0x10000) / 0x400 < 0x400 := by omega
  have hs : (c.toNat - 0x10000) % 0x400 < 0x400 := Nat.mod_lt _ (by decide)
  have hunit : 0xd800 + (c.toNat - 0x10000) / 0x400 < 0x10000 := by omega
  have joined : 0x10000 + 0x400 * ((c.toNat - 0x10000) / 0x400) + (c.toNat - 0x10000) % 0x400 =
      c.toNat := by omega
  rw [List.append_assoc]
  generalize hfirst : (c.toNat - 0x10000) / 0x400 = first at *
  generalize hsecond : (c.toNat - 0x10000) % 0x400 = second at *
  calc character? (unitEscape (0xd800 + first) ++ (unitEscape (0xdc00 + second) ++ rest))
      = ofUnit? (0xd800 + first) (unitEscape (0xdc00 + second) ++ rest) := by
        rw [unitEscape, List.cons_append, List.cons_append, character?, unit?_hex hunit,
          Option.bind_some]
    _ = some (c, rest) := by rw [ofUnit?_pair hf hs, joined, Char.ofNat_toNat]

/-- **Escapes** are read back, whatever stands behind them. -/
theorem character?_escape (c : Char) (rest : List Char) :
    character? (escape c ++ rest) = some (c, rest) := by
  unfold escape
  split_ifs with hself hn hr ht hb hf hplain hunit
  · rcases hself with rfl | rfl <;> rfl
  · rw [hn]; rfl
  · rw [hr]; rfl
  · rw [ht]; rfl
  · rw [hb]; rfl
  · rw [hf]; rfl
  · rw [not_or] at hself
    have hlow : ¬ c.toNat < 0x20 := Nat.not_lt.mpr hplain.1
    simp [character?, hself, hlow]
  · exact character?_unitEscape hunit rest
  · exact character?_pair (Nat.not_lt.mp hunit) rest

/-- **A text** is read back up to the closing quote. -/
theorem characters?_flatMap_escape (chars rest : List Char) :
    characters? (chars.flatMap escape ++ '"' :: rest) = some (chars, rest) := by
  induction chars with
  | nil => rw [List.flatMap_nil, List.nil_append, characters?]
  | cons c chars ih =>
      rw [List.flatMap_cons, List.append_assoc, characters?_of_character? (character?_escape c _),
        ih]
      rfl

/-! ### Plain ASCII -/

theorem toNat_digitChar_lt : ∀ n < 16, (Nat.digitChar n).toNat < 128 := by decide

theorem toNat_lt_of_mem_hex {width n : Nat} {c : Char} (h : c ∈ hex width n) : c.toNat < 128 := by
  induction width generalizing n with
  | zero => cases h
  | succ width ih =>
      rw [hex, List.mem_append, List.mem_singleton] at h
      rcases h with h | rfl
      · exact ih h
      · exact toNat_digitChar_lt _ (Nat.mod_lt n (by decide))

theorem toNat_lt_of_mem_unitEscape {unit : Nat} {c : Char} (h : c ∈ unitEscape unit) :
    c.toNat < 128 := by
  rw [unitEscape, List.mem_cons, List.mem_cons] at h
  rcases h with rfl | rfl | h
  · decide
  · decide
  · exact toNat_lt_of_mem_hex h

/-- Escapes are plain ASCII. -/
theorem toNat_lt_of_mem_escape {c d : Char} (h : d ∈ escape c) : d.toNat < 128 := by
  have both (a b : Char) (ha : a.toNat < 128) (hb : b.toNat < 128) :
      ∀ d ∈ [a, b], d.toNat < 128 := by
    simp [ha, hb]
  unfold escape at h
  split_ifs at h with hself hn hr ht hb hf hplain hunit
  · refine both '\\' c (by decide) ?_ d h
    rcases hself with rfl | rfl <;> decide
  · exact both '\\' 'n' (by decide) (by decide) d h
  · exact both '\\' 'r' (by decide) (by decide) d h
  · exact both '\\' 't' (by decide) (by decide) d h
  · exact both '\\' 'b' (by decide) (by decide) d h
  · exact both '\\' 'f' (by decide) (by decide) d h
  · rw [List.mem_singleton.mp h]
    omega
  · exact toNat_lt_of_mem_unitEscape h
  · rcases List.mem_append.mp h with h | h
    · exact toNat_lt_of_mem_unitEscape h
    · exact toNat_lt_of_mem_unitEscape h

end FlatExpr.Json
