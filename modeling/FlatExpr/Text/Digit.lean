/-!
# Text — Digit

Decimal digits of Unicode 14.0 (general category Nd).  Every script's ten digits stand side by
side, so a table of the zeros gives both the class and each digit's value.
-/

namespace FlatExpr.Text

/-- The code points of the digits of value zero, lowest first. -/
def digitZeros : List Nat := [
  0x30, 0x660, 0x6f0, 0x7c0, 0x966, 0x9e6, 0xa66, 0xae6, 0xb66, 0xbe6, 0xc66, 0xce6, 0xd66,
  0xde6, 0xe50, 0xed0, 0xf20, 0x1040, 0x1090, 0x17e0, 0x1810, 0x1946, 0x19d0, 0x1a80, 0x1a90,
  0x1b50, 0x1bb0, 0x1c40, 0x1c50, 0xa620, 0xa8d0, 0xa900, 0xa9d0, 0xa9f0, 0xaa50, 0xabf0, 0xff10,
  0x104a0, 0x10d30, 0x11066, 0x110f0, 0x11136, 0x111d0, 0x112f0, 0x11450, 0x114d0, 0x11650,
  0x116c0, 0x11730, 0x118e0, 0x11950, 0x11c50, 0x11d50, 0x11da0, 0x16a60, 0x16ac0, 0x16b50,
  0x1d7ce, 0x1d7d8, 0x1d7e2, 0x1d7ec, 0x1d7f6, 0x1e140, 0x1e2f0, 0x1e950, 0x1fbf0]

/-- How far `n` stands behind the zero of its own script, if it is one of that script's ten
digits; gives up at the first zero above `n`. -/
def offsetFromZero : List Nat → Nat → Option Nat
  | [], _ => none
  | base :: more, n =>
      if n < base then none
      else if n < base + 10 then some (n - base)
      else offsetFromZero more n

/-- The value of a decimal digit of any script. -/
def digitValue? (c : Char) : Option Nat := offsetFromZero digitZeros c.toNat

/-- A decimal digit of any script. -/
def isDigit (c : Char) : Bool := (digitValue? c).isSome

/-- The value of a digit; anything else counts as zero. -/
def digitValue (c : Char) : Nat := (digitValue? c).getD 0

/-- What a run of digits denotes in base ten, the first digit weighing most. -/
def positional (digits : List Char) : Nat :=
  digits.foldl (fun total c => 10 * total + digitValue c) 0

theorem offsetFromZero_lt {zeros : List Nat} {n k : Nat} (h : offsetFromZero zeros n = some k) :
    k < 10 := by
  induction zeros with
  | nil => simp [offsetFromZero] at h
  | cons base more ih =>
      unfold offsetFromZero at h
      split at h
      · simp at h
      · split at h
        · simp only [Option.some.injEq] at h
          omega
        · exact ih h

/-- What stands behind the zero of its own script is in the ten places there. -/
theorem exists_zero_of_offsetFromZero {zeros : List Nat} {n k : Nat}
    (h : offsetFromZero zeros n = some k) : ∃ base ∈ zeros, base ≤ n ∧ n < base + 10 := by
  induction zeros with
  | nil => simp [offsetFromZero] at h
  | cons base more ih =>
      unfold offsetFromZero at h
      split at h
      · simp at h
      · next low =>
          split at h
          · next high => exact ⟨base, List.mem_cons_self, Nat.not_lt.mp low, high⟩
          · obtain ⟨other, hmem, hother⟩ := ih h
            exact ⟨other, List.mem_cons_of_mem base hmem, hother⟩

/-- A digit stands among the ten of some script. -/
theorem exists_zero_of_isDigit {c : Char} (h : isDigit c = true) :
    ∃ base ∈ digitZeros, base ≤ c.toNat ∧ c.toNat < base + 10 := by
  obtain ⟨k, hk⟩ := Option.isSome_iff_exists.mp h
  exact exists_zero_of_offsetFromZero hk

/-- A digit's value is below ten. -/
theorem digitValue_lt (c : Char) : digitValue c < 10 := by
  unfold digitValue
  cases h : digitValue? c with
  | none => simp
  | some k => exact offsetFromZero_lt h

end FlatExpr.Text
