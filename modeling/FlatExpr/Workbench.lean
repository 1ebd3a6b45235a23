import FlatExpr.Construction
import FlatExpr.Value.Distinct

/-!
# Workbench

Nodes by name.  New nodes are put together and named; the others are compared, shown, and asked to
change, which they always refuse.

* `Workbench.refuse`: setting or deleting a field is refused whatever the field, and changes
  nothing.
-/

namespace FlatExpr

/-- Named nodes, the latest first. -/
abbrev Workbench := List (String × Value)

/-- What is done at a workbench. -/
inductive Task where
  /-- A node is put together and named. -/
  | create (id : String) (node : Construction)
  /-- Two nodes are compared. -/
  | compare (a b : Construction)
  /-- A node's field is to be set or deleted. -/
  | alter (id : String) (field : String)
  /-- The different structures among named nodes are numbered. -/
  | number (ids : List String)
  /-- A node is printed. -/
  | show (id : String)
  deriving Repr

/-- What comes of a task. -/
inductive Outcome where
  /-- The node made. -/
  | created (node : Value)
  /-- Whether two nodes are the same, and whether their digests are. -/
  | compared (same sameDigest : Bool)
  /-- How many different structures there are, and the number of each node's. -/
  | numbered (count : Nat) (index : List Nat)
  /-- A printed form. -/
  | printed (text : String)

namespace Workbench

/-- The node of a name. -/
def find (bench : Workbench) (id : String) : Except Fault Value :=
  match bench.lookup id with
  | some node => .ok node
  | none => .error (.undefined id)

/-- How a node answers to being changed. -/
def refuse (node : Value) : Fault := .immutable node.typeName

/-- A value, if it can be looked up. -/
def asKey (value : Value) : Except Fault Value :=
  match value.keyFault? with
  | some cause => .error cause
  | none => .ok value

/-- How two values compare.  Values that are the same are looked up as well. -/
def comparison (a b : Value) : Except Fault Outcome := do
  if a.same b then
    let a ← asKey a
    let b ← asKey b
    return .compared true (a.digest == b.digest)
  else return .compared false (a.digest == b.digest)

/-- Carries out one task: what comes of it, and the workbench after it. -/
def perform (bench : Workbench) : Task → Except Fault Outcome × Workbench
  | .create id construction =>
      match construction.build bench.find with
      | .ok node => (.ok (.created node), (id, node) :: bench)
      | .error cause => (.error cause, bench)
  | .compare a b =>
      (do
        let a ← a.build bench.find
        let b ← b.build bench.find
        comparison a b, bench)
  | .alter id _ =>
      (match bench.find id with
        | .ok node => .error (refuse node)
        | .error cause => .error cause, bench)
  | .number ids =>
      (do
        let nodes ← ids.mapM fun id => do asKey (← bench.find id)
        let (index, seen) := Value.distinct nodes
        return .numbered seen.length index, bench)
  | .show id => (do return .printed (FlatExpr.printed (← bench.find id)), bench)

/-- Carries out tasks one after the other. -/
def performAll (bench : Workbench) : List Task → List (Except Fault Outcome) × Workbench
  | [] => ([], bench)
  | task :: more =>
      let (outcome, bench) := bench.perform task
      let (outcomes, bench) := performAll bench more
      (outcome :: outcomes, bench)

end Workbench

end FlatExpr
