import FlatExpr.Fault
import FlatExpr.Value

/-!
# Value — Same

Sameness of values, and digests for looking values up.  Numbers are compared by what they denote,
so the truth value *true*, the integer 1 and the double 1.0 are the same; all else is compared by
kind and content.  Lists and records, and what holds one, cannot be looked up.

* `Value.same_ofExpr_iff`: two expressions are the same values only if they are equal.
* `Value.digest_eq_of_same`: values that are the same have the same digest.
-/

namespace FlatExpr.Value

/-! ### Numbers -/

/-- The number that a plain value denotes, as a numerator and the power of two that divides it. -/
def number? : Value → Option (Int × Nat)
  | .bool value => some (if value then 1 else 0, 0)
  | .int value => some (value, 0)
  | .double value => value.dyadic?
  | _ => Option.none

/-- Whether two numerators over powers of two denote the same number. -/
def sameNumber (a b : Int × Nat) : Bool :=
  a.1 * Int.ofNat (Nat.pow 2 b.2) == b.1 * Int.ofNat (Nat.pow 2 a.2)

/-- Whether two numbers, if there are two, are the same. -/
def sameNumbers : Option (Int × Nat) → Option (Int × Nat) → Bool
  | some a, some b => sameNumber a b
  | _, _ => false

/-- Without a second number there are no two. -/
theorem sameNumbers_none (a : Option (Int × Nat)) : sameNumbers a Option.none = false := by
  cases a <;> rfl

/-- The whole part of a number. -/
def wholePart (a : Int × Nat) : Int := a.1 / Int.ofNat (Nat.pow 2 a.2)

/-- Numbers that are the same have the same whole part. -/
theorem wholePart_eq_of_sameNumber {a b : Int × Nat} (h : sameNumber a b = true) :
    wholePart a = wholePart b := by
  have hpos (n : Nat) : 0 < Int.ofNat (Nat.pow 2 n) := by
    simp only [Int.ofNat_eq_natCast, Int.natCast_pos]
    exact Nat.pow_pos (by decide)
  have h : a.1 * Int.ofNat (Nat.pow 2 b.2) = b.1 * Int.ofNat (Nat.pow 2 a.2) := by
    simpa [sameNumber] using h
  simp only [wholePart]
  rw [← Int.mul_ediv_mul_of_pos_left a.1 _ (hpos b.2), h, Int.mul_comm (Int.ofNat (Nat.pow 2 a.2)),
    Int.mul_ediv_mul_of_pos_left b.1 _ (hpos a.2)]

/-! ### Sameness -/

mutual

/-- Whether two values are the same. -/
def same : Value → Value → Bool
  | .none, .none => true
  | .text s, .text t => s == t
  | .tuple xs, .tuple ys => sameItems xs ys
  | .list xs, .list ys => sameItems xs ys
  | .record xs, .record ys => sameMembers xs ys
  | .double (.infinite s), .double (.infinite t) => s == t
  | .bare, .bare => true
  | .number v, .number w => v == w
  | .name s, .name t => s == t
  | .operator s, .operator t => s == t
  | .assign s v, .assign t w => s == t && v.same w
  | .binary s l r, .binary t l' r' => s == t && (l.same l' && r.same r')
  | a, b => sameNumbers a.number? b.number?

/-- Whether two lists of values are the same, item by item. -/
def sameItems : List Value → List Value → Bool
  | [], [] => true
  | x :: xs, y :: ys => x.same y && sameItems xs ys
  | _, _ => false

/-- Whether two lists of members are the same, member by member. -/
def sameMembers : List (String × Value) → List (String × Value) → Bool
  | [], [] => true
  | (key, x) :: xs, (key', y) :: ys => key == key' && (x.same y && sameMembers xs ys)
  | _, _ => false

end

/-- Two expressions are the same values only if they are equal. -/
theorem same_ofExpr_iff (a b : Expr) : (ofExpr a).same (ofExpr b) = true ↔ a = b := by
  induction a generalizing b with
  | assign s v ih => cases b <;> simp [ofExpr, same, number?, sameNumbers_none, ih]
  | binary s l r ihl ihr =>
      cases b <;> simp [ofExpr, same, number?, sameNumbers_none, ihl, ihr]
  | _ => cases b <;> simp [ofExpr, same, number?, sameNumbers_none]

/-! ### Looking up -/

/-- A number computed from a value, for looking it up: from the whole part of a number, the
characters of a text, the kind and the fields of every node, and the kind of anything else. -/
def digest : Value → UInt64
  | .none => 1
  | .text value => mixHash 2 (hash value)
  | .tuple _ => 3
  | .list _ => 4
  | .record _ => 5
  | .bare => 6
  | .number value => mixHash 7 (hash value)
  | .name word => mixHash 8 (hash word)
  | .operator symbol => mixHash 9 (hash symbol)
  | .assign target value => mixHash 10 (mixHash (hash target) value.digest)
  | .binary symbol left right =>
      mixHash 11 (mixHash (hash symbol) (mixHash left.digest right.digest))
  | value =>
      match value.number? with
      | some n => mixHash 12 (hash (wholePart n))
      | Option.none => 13

/-- The digest of a number is computed from its whole part. -/
theorem digest_of_number? {a : Value} {m : Int × Nat} (h : a.number? = some m) :
    a.digest = mixHash 12 (hash (wholePart m)) := by
  cases a <;> simp_all [number?, digest]

/-- What is the same as a number is that number. -/
theorem sameNumber_of_same {a b : Value} {m : Int × Nat} (ha : a.number? = some m)
    (h : a.same b = true) : ∃ n, b.number? = some n ∧ sameNumber m n = true := by
  have h : sameNumbers (some m) b.number? = true := by
    rw [← ha]
    match a with
    | .bool _ | .int _ | .double (.finite _ _ _) => cases b <;> exact h
    | .double (.infinite _) => simp [number?, Double.dyadic?] at ha
    | .none | .text _ | .tuple _ | .list _ | .record _ | .bare | .number _ | .name _
    | .operator _ | .assign _ _ | .binary _ _ _ => simp [number?] at ha
  cases hn : b.number? with
  | some n => exact ⟨n, rfl, by rwa [hn] at h⟩
  | none => simp [hn, sameNumbers_none] at h

/-- Values that are the same have the same digest. -/
theorem digest_eq_of_same {a b : Value} (h : a.same b = true) : a.digest = b.digest := by
  cases hm : a.number? with
  | some m =>
      obtain ⟨n, hn, hmn⟩ := sameNumber_of_same hm h
      rw [digest_of_number? hm, digest_of_number? hn, wholePart_eq_of_sameNumber hmn]
  | none =>
      match a with
      | .assign s v =>
          cases b <;> simp_all only [same, number?, sameNumbers, Bool.false_eq_true,
            Bool.and_eq_true, beq_iff_eq]
          simp only [digest, digest_eq_of_same h.2]
      | .binary s l r =>
          cases b <;> simp_all only [same, number?, sameNumbers, Bool.false_eq_true,
            Bool.and_eq_true, beq_iff_eq]
          simp only [digest, digest_eq_of_same h.2.1, digest_eq_of_same h.2.2]
      | .double (.infinite s) =>
          cases b with
          | double x => cases x <;> simp_all [same, number?, sameNumbers, Double.dyadic?]
          | _ => simp_all [same, number?, sameNumbers, Double.dyadic?]
      | .bool _ | .int _ | .double (.finite _ _ _) => simp [number?, Double.dyadic?] at hm
      | .none | .text _ | .tuple _ | .list _ | .record _ | .bare | .number _ | .name _
      | .operator _ => cases b <;> simp_all [same, number?, sameNumbers, digest]

mutual

/-- Why a value cannot be looked up: the first list or record in it. -/
def keyFault? : Value → Option Fault
  | .list items => some (.unhashable (typeName (.list items)))
  | .record members => some (.unhashable (typeName (.record members)))
  | .tuple items => keyFaultItems? items
  | .assign _ value => value.keyFault?
  | .binary _ left right =>
      match left.keyFault? with
      | some cause => some cause
      | Option.none => right.keyFault?
  | _ => Option.none

/-- Why a list of values cannot be looked up as one: the first list or record in it. -/
def keyFaultItems? : List Value → Option Fault
  | [] => Option.none
  | item :: more =>
      match item.keyFault? with
      | some cause => some cause
      | Option.none => keyFaultItems? more

end

example : same (.bool true) (.int 1) = true ∧ same (.tuple []) (.list []) = false ∧
    same (.int 9007199254740993) (.double (.ofDecimal false 9007199254740993 0)) = false ∧
    same (.double (.ofDecimal true 0 0)) (.int 0) = true := by decide +kernel

end FlatExpr.Value
