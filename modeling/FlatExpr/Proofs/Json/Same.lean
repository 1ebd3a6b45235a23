import FlatExpr.Expr
import FlatExpr.Value.Same

/-!
# Json — Same

Sameness of JSON values.  The order of a record's members does not count: two records are the same
if they have as many members and every key of the one is a key of the other, with the same value.

* `Json.same`: whether two values are the same.
* `same_toJson`: two expressions are the same exactly if their records are.
-/

namespace FlatExpr.Json

mutual

/-- Whether two values are the same. -/
def same : Json → Json → Bool
  | .int v, .int w => v == w
  | .text v, .text w => v == w
  | .record members, .record others =>
      members.length == others.length && sameMembers members others
  | _, _ => false

/-- Whether every member has its like, under the same key, among `others`. -/
def sameMembers : List (String × Json) → List (String × Json) → Bool
  | [], _ => true
  | (key, value) :: more, others =>
      (others.lookup key).any (same value) && sameMembers more others

end

/-- The value of a record's member. -/
def member? (key : String) : Json → Option Json
  | .record members => members.lookup key
  | _ => none

theorem same_toJson_iff (a b : Expr) : same a.toJson b.toJson = true ↔ a = b := by
  induction a generalizing b with
  | assign target value ih =>
      cases b <;> simp [Expr.toJson, Expr.operatorRecord, same, sameMembers, List.lookup_cons, ih]
  | binary symbol left right ihl ihr =>
      cases b <;>
        simp [Expr.toJson, Expr.operatorRecord, same, sameMembers, List.lookup_cons, ihl, ihr]
  | _ => cases b <;> simp [Expr.toJson, Expr.operatorRecord, same, sameMembers, List.lookup_cons]

/-- **Two expressions** are the same exactly if their records are. -/
theorem same_toJson (a b : Expr) :
    same a.toJson b.toJson = (Value.ofExpr a).same (Value.ofExpr b) := by
  rw [Bool.eq_iff_iff, same_toJson_iff, Value.same_ofExpr_iff]

end FlatExpr.Json
