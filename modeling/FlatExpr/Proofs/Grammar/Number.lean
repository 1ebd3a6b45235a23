import FlatExpr.Proofs.Grammar.Reads
import FlatExpr.Stack.Calls
import Mathlib.Data.Nat.Digits.Lemmas

/-!
# Grammar — Number

What a run of digits is read as by the two rules that read numbers, `number` and `factor`.

* `weighed`: the sum of the digits, each times its power of ten.  Reading goes from left to right
  and multiplies what it has so far by ten (`positional`); that gives the same
  (`positional_eq_weighed`).
* `positional_append_of_zero`, `positional_congr`: zeros in front add nothing, and digits of the
  same values have the same value in any script.
* `Rule.parse_digits`: within the limit both rules read the value of the run, so a number is read
  back from any of its spellings; beyond the limit one fails and the other reads a name.
-/

namespace FlatExpr
open Text

/-! ### Values of runs -/

namespace Text

variable {digits others zeros : List Char}

/-- The sum of the digits, each times its power of ten; the last one weighs one. -/
def weighed (digits : List Char) : Nat :=
  ((digits.reverse.map digitValue).mapIdx fun i k => k * 10 ^ i).sum

/-- Multiplying by ten from left to right weighs every digit. -/
theorem positional_eq_weighed (digits : List Char) : positional digits = weighed digits := by
  rw [weighed, ← Nat.ofDigits_eq_sum_mapIdx]
  induction digits using List.reverseRecOn with
  | nil => rfl
  | append_singleton digits c ih =>
      rw [positional_append_singleton, ih, List.reverse_append, List.reverse_singleton,
        List.singleton_append, List.map_cons, Nat.ofDigits_cons, Nat.add_comm]

/-- Zeros in front of a run add nothing to it. -/
theorem positional_append_of_zero (h : ∀ c ∈ zeros, digitValue c = 0) :
    positional (zeros ++ digits) = positional digits := by
  have hzeros : zeros.foldl (fun total c => 10 * total + digitValue c) 0 = 0 := by
    induction zeros with
    | nil => rfl
    | cons c zeros ih =>
        rw [List.foldl_cons, h c (by simp)]
        exact ih fun d hd => h d (List.mem_cons_of_mem c hd)
  rw [positional, List.foldl_append, hzeros]
  rfl

/-- The value depends on the values of the digits alone. -/
theorem positional_congr (h : others.map digitValue? = digits.map digitValue?) :
    positional others = positional digits := by
  have folded (run : List Char) : positional run =
      (run.map digitValue?).foldl (fun total k => 10 * total + k.getD 0) 0 := by
    rw [List.foldl_map]
    rfl
  rw [folded, folded, h]

theorem isDigit_of_digitValue? {c : Char} {k : Nat} (h : digitValue? c = some k) :
    isDigit c = true := by
  rw [isDigit, h]
  rfl

theorem digitValue_of_digitValue? {c : Char} {k : Nat} (h : digitValue? c = some k) :
    digitValue c = k := by
  rw [digitValue, h]
  rfl

/-- A text of the same digits as a run is a run. -/
theorem isDigit_of_map_digitValue? (h : others.map digitValue? = digits.map digitValue?)
    (hd : ∀ c ∈ digits, isDigit c = true) : ∀ c ∈ others, isDigit c = true := by
  intro c hc
  have mem : digitValue? c ∈ digits.map digitValue? := h ▸ List.mem_map_of_mem hc
  obtain ⟨d, hmem, heq⟩ := List.mem_map.mp mem
  have digit := hd d hmem
  rwa [isDigit, heq] at digit

end Text

namespace Rule

variable {text digits others zeros rest : List Char}

section OnStack

variable [Stack]

/-- Both rules that read numbers read one off the text. -/
def ReadNumber (text : List Char) (value : Int) (rest : List Char) : Prop :=
  ∀ rule ∈ [number, factor], (rule.parse text).outcome = .ok (.success (.number value) rest)

/-! ### Within the limit -/

/-- A run of digits that is not too long is read as its value. -/
theorem readNumber_digits (hne : digits ≠ []) (h : ∀ c ∈ digits, isDigit c = true)
    (short : digits.length ≤ 4300) (hr : StopsAt isDigit rest) :
    ReadNumber (digits ++ rest) (positional digits) rest := by
  have operand : IsOperand (.number (positional digits)) := isOperand_of_digits short
  have spells : Spells (.number (positional digits)) digits := .number hne h short rfl
  intro rule hrule
  rw [outcome_parse_eq_success_iff_reads]
  refine ⟨Nat.zero_le _, digits, rfl, spells, ?_⟩
  rcases List.mem_pair.mp hrule with rfl | rfl
  · exact .number operand hr
  · exact .factor operand hr

theorem readNumber_of_leading_zeros (hne : digits ≠ []) (h : ∀ c ∈ digits, isDigit c = true)
    (hz : ∀ c ∈ zeros, digitValue? c = some 0) (short : (zeros ++ digits).length ≤ 4300)
    (hr : StopsAt isDigit rest) :
    ReadNumber (zeros ++ digits ++ rest) (positional digits) rest := by
  have all : ∀ c ∈ zeros ++ digits, isDigit c = true := by
    intro c hc
    rcases List.mem_append.mp hc with hc | hc
    · exact isDigit_of_digitValue? (hz c hc)
    · exact h c hc
  have read := readNumber_digits (by simp [hne]) all short hr
  rwa [positional_append_of_zero fun c hc => digitValue_of_digitValue? (hz c hc)] at read

theorem readNumber_of_digit_behind {c : Char} {k : Nat} (h : ∀ c ∈ digits, isDigit c = true)
    (hc : digitValue? c = some k) (short : digits.length < 4300) (hr : StopsAt isDigit rest) :
    ReadNumber (digits ++ c :: rest) (10 * positional digits + k) rest := by
  have all : ∀ d ∈ digits ++ [c], isDigit d = true := by
    intro d hd
    rcases List.mem_append.mp hd with hd | hd
    · exact h d hd
    · obtain rfl := List.mem_singleton.mp hd
      exact isDigit_of_digitValue? hc
  have short : (digits ++ [c]).length ≤ 4300 := by simpa using short
  have read := readNumber_digits (by simp) all short hr
  rw [positional_append_singleton, digitValue_of_digitValue? hc, List.append_assoc] at read
  exact_mod_cast read

theorem readNumber_of_other_script (hne : digits ≠ []) (h : ∀ c ∈ digits, isDigit c = true)
    (heq : others.map digitValue? = digits.map digitValue?) (short : digits.length ≤ 4300)
    (hr : StopsAt isDigit rest) : ReadNumber (others ++ rest) (positional digits) rest := by
  have hlength : others.length = digits.length := by simpa using congrArg List.length heq
  have hothers : others ≠ [] := by
    rintro rfl
    exact hne (List.eq_nil_of_length_eq_zero hlength.symm)
  have read := readNumber_digits hothers (isDigit_of_map_digitValue? heq h)
    (hlength.trans_le short) hr
  rwa [positional_congr heq] at read

/-- An integer below the limit is read back from its decimal text. -/
theorem readNumber_decimal {value : Int} (low : 0 ≤ value) (high : value < 10 ^ 4300)
    (hr : StopsAt isDigit rest) : ReadNumber ((decimal value).toList ++ rest) value rest := by
  obtain ⟨n, rfl⟩ := Int.eq_ofNat_of_zero_le low
  have high : n < 10 ^ 4300 := by exact_mod_cast high
  have read := readNumber_digits (decimalDigits_ne_nil n)
    (fun _ hc => isDigit_of_mem_decimalDigits hc)
    ((length_decimalDigits_le_iff (by decide)).mpr high) hr
  rwa [positional_decimalDigits, ← toList_decimal_ofNat] at read

/-! ### Beyond the limit -/

/-- A run of digits that is too long cannot be converted. -/
theorem outcome_parse_number_of_long (h : ∀ c ∈ digits, isDigit c = true)
    (long : 4300 < digits.length) (hr : StopsAt isDigit rest) :
    (number.parse (digits ++ rest)).outcome = .ok (.failure .numberTooLong) := by
  have hdepth : number.depth (digits ++ rest) ≤ Stack.room number (digits ++ rest) :=
    Nat.zero_le _
  have hfront := takeWhile_append_of_stopsAt h hr
  obtain ⟨c, more, rfl⟩ := List.exists_cons_of_length_pos (Nat.zero_lt_of_lt long)
  rw [outcome_parse_of_le hdepth, answer, List.cons_append, wanting_of_pos _ _ (h c (by simp)),
    ← List.cons_append, hfront, if_neg (Nat.not_le.mpr long)]

/-- As an operand it is the name that the text begins with. -/
theorem outcome_parse_factor_of_long (h : ∀ c ∈ digits, isDigit c = true)
    (long : 4300 < digits.length) (hr : StopsAt isDigit rest) :
    (factor.parse (digits ++ rest)).outcome =
      .ok (.success (.name (nameOf (digits ++ rest))) ((digits ++ rest).dropWhile isNameChar)) := by
  have hdepth : factor.depth (digits ++ rest) ≤ Stack.room factor (digits ++ rest) :=
    Nat.zero_le _
  have long : maxDigits < ((digits ++ rest).takeWhile isDigit).length := by
    rwa [takeWhile_append_of_stopsAt h hr]
  rw [outcome_parse_of_le hdepth, answer, operand_of_name (.inr long)]

/-! ### Both -/

/-- **Numbers.**  A run of at most 4300 digits, of any scripts, is read as the sum of its digits,
each times its power of ten, and a longer one is too long for a number and so is a name.  Within the
limit zeros in front change nothing, another digit behind the run makes ten times the value and the
digit of it, and other digits of the same values denote the same.  Every integer below the limit is
read back from its decimal text. -/
theorem parse_digits (hr : StopsAt isDigit rest) :
    (∀ digits, digits ≠ [] → (∀ c ∈ digits, isDigit c = true) →
      (digits.length ≤ 4300 → ReadNumber (digits ++ rest) (weighed digits) rest) ∧
      (4300 < digits.length →
        (∃ why, (number.parse (digits ++ rest)).outcome = .ok (.failure why) ∧
          why.message = "Parsing failure, number too long") ∧
        (factor.parse (digits ++ rest)).outcome =
          .ok (.success (.name (nameOf (digits ++ rest)))
            ((digits ++ rest).dropWhile isNameChar))) ∧
      (∀ zeros, (∀ c ∈ zeros, digitValue? c = some 0) → (zeros ++ digits).length ≤ 4300 →
        ReadNumber (zeros ++ digits ++ rest) (weighed digits) rest) ∧
      (∀ c k, digitValue? c = some k → digits.length < 4300 →
        ReadNumber (digits ++ c :: rest) (10 * weighed digits + k) rest) ∧
      (∀ others, others.map digitValue? = digits.map digitValue? → digits.length ≤ 4300 →
        ReadNumber (others ++ rest) (weighed digits) rest)) ∧
    (∀ value : Int, 0 ≤ value → value < 10 ^ 4300 →
      ReadNumber ((decimal value).toList ++ rest) value rest) := by
  refine ⟨fun digits hne h => ?_, fun value low high => readNumber_decimal low high hr⟩
  rw [← positional_eq_weighed]
  refine ⟨fun short => ?_, fun long => ⟨?_, ?_⟩, fun zeros hz short => ?_, fun c k hc short => ?_,
    fun others heq short => ?_⟩
  · exact readNumber_digits hne h short hr
  · exact ⟨_, outcome_parse_number_of_long h long hr, rfl⟩
  · exact outcome_parse_factor_of_long h long hr
  · exact readNumber_of_leading_zeros hne h hz short hr
  · exact readNumber_of_digit_behind h hc short hr
  · exact readNumber_of_other_script hne h heq short hr

end OnStack

/-- A zero and two scripts in front of a name, and a run of zeros that is too long. -/
theorem parse_digits_mixed_scripts :
    StopsAt isDigit "x".toList ∧ ReadNumber "0٣4x".toList 34 "x".toList ∧
      ∃ why, (number.parse (List.replicate 4301 '0' ++ "x".toList)).outcome = .ok (.failure why) ∧
        why.message = "Parsing failure, number too long" := by
  have hr : StopsAt isDigit "x".toList := StopsAt.cons (by decide)
  obtain ⟨read, -⟩ := parse_digits hr
  refine ⟨hr, ?_, ?_⟩
  · have mixed : ∀ c ∈ "0٣4".toList, isDigit c = true := List.all_eq_true.mp (by decide)
    exact (read "0٣4".toList (by decide) mixed).1 (by decide)
  · have zero : ∀ c ∈ List.replicate 4301 '0', isDigit c = true := by
      intro c hc
      obtain rfl := List.eq_of_mem_replicate hc
      decide
    have long : 4300 < (List.replicate 4301 '0').length := by
      rw [List.length_replicate]
      exact Nat.lt_succ_self 4300
    exact ((read _ (List.ne_nil_of_length_pos (Nat.zero_lt_of_lt long)) zero).2.1 long).1

end Rule

end FlatExpr
