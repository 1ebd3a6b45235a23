import FlatExpr.Value.Same

/-!
# Value — Distinct

Values as keys.  A value is looked up by its digest and then by comparison; the values of a list
are numbered by their structure, in the order in which the structures first appear.

* `Value.sameKey_eq_same`: looking up by the digest first changes nothing.
-/

namespace FlatExpr.Value

/-- Whether two values are one key: their digests agree and they are the same. -/
def sameKey (a b : Value) : Bool := a.digest == b.digest && a.same b

/-- Where a value stands among the different ones seen so far, and those with it. -/
def place (seen : List Value) (value : Value) : Nat × List Value :=
  match seen.findIdx? (sameKey value) with
  | some i => (i, seen)
  | Option.none => (seen.length, seen ++ [value])

/-- For each value the number of its structure, and the different values in the order of their
first appearance, where `seen` have appeared already. -/
def numberFrom (seen : List Value) : List Value → List Nat × List Value
  | [] => ([], seen)
  | value :: more =>
      let (i, seen) := place seen value
      let (rest, seen) := numberFrom seen more
      (i :: rest, seen)

/-- For each value the number of its structure, and the different values in the order of their
first appearance. -/
def distinct (values : List Value) : List Nat × List Value := numberFrom [] values

/-- Looking up by the digest first changes nothing. -/
theorem sameKey_eq_same (a b : Value) : sameKey a b = a.same b := by
  cases h : a.same b with
  | true => simp [sameKey, h, digest_eq_of_same h]
  | false => simp [sameKey, h]

end FlatExpr.Value
