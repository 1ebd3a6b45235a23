/-!
# Text — Ranges

Sets of code points written as ascending lists of closed ranges.  A look-up walks the list and
stops at the first range that begins above the code point, so characters low in the table cost
little.

* `Ranges.contains_iff`: on an ascending list the early stop loses nothing, so `contains` is
  membership in one of the ranges.
-/

namespace FlatExpr.Text

/-- Closed ranges of code points, lowest first. -/
abbrev Ranges := List (Nat × Nat)

namespace Ranges

/-- Whether `n` lies in one of the ranges; gives up at the first range above `n`. -/
def contains : Ranges → Nat → Bool
  | [], _ => false
  | (low, high) :: more, n => if n < low then false else decide (n ≤ high) || contains more n

/-- Every range is inhabited and ends before the next one begins. -/
def ascending : Ranges → Bool
  | [] => true
  | [(low, high)] => decide (low ≤ high)
  | (low, high) :: (low', high') :: more =>
      decide (low ≤ high) && decide (high < low') && ascending ((low', high') :: more)

/-- In an ascending list every range but the first begins above the first one's end. -/
theorem high_lt_of_ascending {low high : Nat} {rs : Ranges}
    (h : ascending ((low, high) :: rs) = true) : ∀ r ∈ rs, high < r.1 := by
  induction rs generalizing low high with
  | nil => simp
  | cons r rs ih =>
      obtain ⟨low', high'⟩ := r
      simp only [ascending, Bool.and_eq_true, decide_eq_true_eq] at h
      obtain ⟨⟨_, hlt⟩, hrest⟩ := h
      have hle : low' ≤ high' := by
        cases rs <;> simp_all [ascending]
      intro r hr
      rcases List.mem_cons.mp hr with rfl | hr
      · exact hlt
      · have := ih hrest r hr
        omega

/-- A tail of an ascending list is ascending. -/
theorem ascending_tail {r : Nat × Nat} {rs : Ranges} (h : ascending (r :: rs) = true) :
    ascending rs = true := by
  cases rs with
  | nil => rfl
  | cons r' rs => obtain ⟨_, _⟩ := r; obtain ⟨_, _⟩ := r'; simp_all [ascending]

/-- On an ascending list `contains` is membership in one of the ranges. -/
theorem contains_iff {rs : Ranges} (h : ascending rs = true) (n : Nat) :
    contains rs n = true ↔ ∃ r ∈ rs, r.1 ≤ n ∧ n ≤ r.2 := by
  induction rs with
  | nil => simp [contains]
  | cons r rs ih =>
      obtain ⟨low, high⟩ := r
      have above := high_lt_of_ascending h
      have hle : low ≤ high := by
        cases rs <;> simp_all [ascending]
      unfold contains
      split
      · rename_i hn
        simp only [Bool.false_eq_true, List.mem_cons, false_iff, not_exists, not_and]
        rintro r (rfl | hr) h₁
        · omega
        · have := above r hr
          omega
      · rename_i hn
        simp only [Bool.or_eq_true, decide_eq_true_eq, ih (ascending_tail h), List.mem_cons,
          exists_eq_or_imp]
        constructor
        · rintro (h₁ | h₁)
          · exact .inl ⟨by omega, h₁⟩
          · exact .inr h₁
        · rintro (h₁ | h₁)
          · exact .inl h₁.2
          · exact .inr h₁

end Ranges

end FlatExpr.Text
