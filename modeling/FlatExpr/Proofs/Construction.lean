import FlatExpr.Workbench

/-!
# Construction — nodes are put together once

Which constructions give a node, what that node is made of, and that it stays so.

* `Construction.joints`: what is put in the operators' places, in the order in which the operations
  are put together; an operation comes behind all that stands in its three places.
* `Construction.settled`: the first of these that is no operator is what a construction is refused
  for.  If all of them are operators it gives the node made of just its parts
  (`Value.takenApart`, `Construction.expanded`).
* `Construction.build_takenApart`, `Value.exists_of_mem_joints_takenApart`: a node is what its parts
  give, and only operators stand in the operators' places.
* `Workbench.performAll_attempts`: however often nodes are asked to change, they refuse, and
  whatever is done later comes out as if they had not been asked.
* `Workbench.nodes_joined_by_operators`: all of these.
-/

namespace FlatExpr

namespace Construction

/-- What is put in the operators' places, in the order of the operations. -/
def joints : Construction → List Construction
  | .assign _ value => value.joints
  | .binary joint left right => joint.joints ++ left.joints ++ right.joints ++ [joint]
  | _ => []

/-- The names of the nodes that a construction uses. -/
def names : Construction → List String
  | .assign _ value => value.names
  | .binary joint left right => joint.names ++ left.names ++ right.names
  | .known id => [id]
  | _ => []

/-- Every node that a construction uses has been named. -/
def Known (find : String → Except Fault Value) (c : Construction) : Prop :=
  ∀ id ∈ c.names, ∃ node, find id = .ok node

end Construction

namespace Value

/-- A node as the construction of its parts; a plain value is a part by itself. -/
def takenApart : Value → Construction
  | .bare => .bare
  | .number value => .number value
  | .name word => .name word
  | .operator symbol => .operator symbol
  | .assign target value => .assign target value.takenApart
  | .binary symbol left right => .binary (.operator symbol) left.takenApart right.takenApart
  | value => .plain value

/-- In a node, only operators stand in the operators' places. -/
theorem exists_of_mem_joints_takenApart (v : Value) {joint : Construction}
    (h : joint ∈ v.takenApart.joints) : ∃ symbol, joint = .operator symbol := by
  match v with
  | .assign target value => exact exists_of_mem_joints_takenApart value h
  | .binary symbol left right =>
      simp only [takenApart, Construction.joints, List.nil_append, List.mem_append,
        List.mem_singleton] at h
      rcases h with (hl | hr) | rfl
      · exact exists_of_mem_joints_takenApart left hl
      · exact exists_of_mem_joints_takenApart right hr
      · exact ⟨symbol, rfl⟩
  | .none | .bool _ | .int _ | .double _ | .text _ | .tuple _ | .list _ | .record _ | .bare
  | .number _ | .name _ | .operator _ => cases h

/-- The word for its type tells an operator from anything else. -/
theorem typeName_eq_operator_iff {v : Value} :
    v.typeName = "Operator" ↔ ∃ symbol, v = .operator symbol := by
  cases v <;> simp [typeName]

theorem join_of_typeName_ne {joint : Value} (h : joint.typeName ≠ "Operator")
    (left right : Value) : join joint left right = .error (.notAnOperator joint.typeName) := by
  cases joint with
  | operator symbol => exact absurd rfl h
  | _ => rfl

end Value

namespace Construction

section Build

variable (find : String → Except Fault Value)

/-- The word for the type of what a construction gives. -/
def heading : Construction → String
  | .bare => "Expr"
  | .number _ => "Number"
  | .name _ => "Variable"
  | .operator _ => "Operator"
  | .assign _ _ => "Assignment"
  | .binary _ _ _ => "BinOp"
  | .known id =>
      match find id with
      | .ok node => node.typeName
      | .error _ => ""
  | .plain value => value.typeName

/-- Whether a construction gives no operator. -/
def isMisfit (c : Construction) : Bool := c.heading find != "Operator"

/-- The construction with the nodes that it uses taken apart as well. -/
def expanded : Construction → Construction
  | .assign target value => .assign target value.expanded
  | .binary joint left right => .binary joint.expanded left.expanded right.expanded
  | .known id =>
      match find id with
      | .ok node => node.takenApart
      | .error _ => .known id
  | .plain value => value.takenApart
  | c => c

/-- The construction is refused for its first misfit, by the type of what that gives. -/
structure RefusedFor (c misfit : Construction) : Prop where
  first : c.joints.find? (isMisfit find) = some misfit
  received : ∃ v, misfit.build find = .ok v ∧ v.typeName = misfit.heading find
  build_eq : c.build find = .error (.notAnOperator (misfit.heading find))

/-- The construction has no misfit and gives `node`, of the kind and of the parts that one sees. -/
structure Gives (c : Construction) (node : Value) : Prop where
  fits : c.joints.find? (isMisfit find) = none
  build_eq : c.build find = .ok node
  typeName_eq : node.typeName = c.heading find
  takenApart_eq : node.takenApart = c.expanded find

variable {find} {target : String} {c value joint left right misfit : Construction}
  {j l r v node : Value}

/-! ### Carrying a construction out -/

theorem RefusedFor.assign (h : value.RefusedFor find misfit) :
    (assign target value).RefusedFor find misfit :=
  ⟨h.first, h.received, by simp [build, h.build_eq, bind, Except.bind]⟩

theorem Gives.assign (h : value.Gives find v) :
    (assign target value).Gives find (.assign target v) where
  fits := h.fits
  build_eq := by simp [build, h.build_eq, bind, Except.bind, pure, Except.pure]
  typeName_eq := rfl
  takenApart_eq := by simp [Value.takenApart, expanded, h.takenApart_eq]

theorem RefusedFor.of_joint (h : joint.RefusedFor find misfit) :
    (binary joint left right).RefusedFor find misfit where
  first := by simp [joints, List.find?_append, h.first]
  received := h.received
  build_eq := by simp [build, h.build_eq, bind, Except.bind]

theorem RefusedFor.of_left (hj : joint.Gives find j) (h : left.RefusedFor find misfit) :
    (binary joint left right).RefusedFor find misfit where
  first := by simp [joints, List.find?_append, hj.fits, h.first]
  received := h.received
  build_eq := by simp [build, hj.build_eq, h.build_eq, bind, Except.bind]

theorem RefusedFor.of_right (hj : joint.Gives find j) (hl : left.Gives find l)
    (h : right.RefusedFor find misfit) : (binary joint left right).RefusedFor find misfit where
  first := by simp [joints, List.find?_append, hj.fits, hl.fits, h.first]
  received := h.received
  build_eq := by simp [build, hj.build_eq, hl.build_eq, h.build_eq, bind, Except.bind]

/-- When its three places are filled, an operation depends on what joins it. -/
theorem build_binary (hj : joint.Gives find j) (hl : left.Gives find l) (hr : right.Gives find r) :
    (binary joint left right).build find = Value.join j l r := by
  simp [build, hj.build_eq, hl.build_eq, hr.build_eq, bind, Except.bind]

/-- When its three places are filled, an operation can have no misfit but what joins it. -/
theorem find?_joints_binary (hj : joint.Gives find j) (hl : left.Gives find l)
    (hr : right.Gives find r) : (binary joint left right).joints.find? (isMisfit find) =
      [joint].find? (isMisfit find) := by
  simp [joints, List.find?_append, hj.fits, hl.fits, hr.fits]

theorem RefusedFor.of_misfit (hj : joint.Gives find j) (hl : left.Gives find l)
    (hr : right.Gives find r) (hmisfit : j.typeName ≠ "Operator") :
    (binary joint left right).RefusedFor find joint where
  first := by
    rw [find?_joints_binary hj hl hr]
    simp [isMisfit, ← hj.typeName_eq, hmisfit]
  received := ⟨j, hj.build_eq, hj.typeName_eq⟩
  build_eq := by rw [build_binary hj hl hr, Value.join_of_typeName_ne hmisfit, hj.typeName_eq]

theorem Gives.binary {symbol : String} (hj : joint.Gives find (.operator symbol))
    (hl : left.Gives find l) (hr : right.Gives find r) :
    (binary joint left right).Gives find (.binary symbol l r) where
  fits := by
    rw [find?_joints_binary hj hl hr]
    simp [isMisfit, ← hj.typeName_eq, Value.typeName]
  build_eq := build_binary hj hl hr
  typeName_eq := rfl
  takenApart_eq := by
    simp [Value.takenApart, expanded, ← hj.takenApart_eq, ← hl.takenApart_eq, ← hr.takenApart_eq]

/-- **Constructions.**  A construction is refused for its first misfit, or it gives a node. -/
theorem settled (hknown : c.Known find) :
    (∃ misfit, c.RefusedFor find misfit) ∨ ∃ node, c.Gives find node := by
  induction c with
  | bare | number | name | operator => exact .inr ⟨_, rfl, rfl, rfl, rfl⟩
  | plain value => exact .inr ⟨value, rfl, rfl, rfl, rfl⟩
  | known id =>
      obtain ⟨node, hnode⟩ := hknown id (List.mem_singleton_self id)
      exact .inr ⟨node, rfl, hnode, by simp [heading, hnode], by simp [expanded, hnode]⟩
  | assign target value ih =>
      rcases ih hknown with ⟨misfit, h⟩ | ⟨node, h⟩
      · exact .inl ⟨misfit, h.assign⟩
      · exact .inr ⟨_, h.assign⟩
  | binary joint left right ihj ihl ihr =>
      simp only [Known, names, List.mem_append] at hknown
      -- The places are filled in this order, and the first misfit ends it.
      rcases ihj fun id h => hknown id (.inl (.inl h)) with ⟨misfit, hj⟩ | ⟨j, hj⟩
      · exact .inl ⟨misfit, hj.of_joint⟩
      rcases ihl fun id h => hknown id (.inl (.inr h)) with ⟨misfit, hl⟩ | ⟨l, hl⟩
      · exact .inl ⟨misfit, .of_left hj hl⟩
      rcases ihr fun id h => hknown id (.inr h) with ⟨misfit, hr⟩ | ⟨r, hr⟩
      · exact .inl ⟨misfit, .of_right hj hl hr⟩
      by_cases hoperator : j.typeName = "Operator"
      · obtain ⟨symbol, rfl⟩ := Value.typeName_eq_operator_iff.mp hoperator
        exact .inr ⟨_, hj.binary hl hr⟩
      · exact .inl ⟨joint, .of_misfit hj hl hr hoperator⟩

/-- A construction is refused if and only if something in an operator's place gives none. -/
theorem exists_build_eq_error_iff (hknown : c.Known find) :
    (∃ cause, c.build find = .error cause) ↔
      ∃ joint ∈ c.joints, joint.heading find ≠ "Operator" := by
  rcases settled hknown with ⟨misfit, h⟩ | ⟨node, h⟩
  · refine iff_of_true ⟨_, h.build_eq⟩ ⟨misfit, List.mem_of_find?_eq_some h.first, ?_⟩
    simpa [isMisfit] using List.find?_some h.first
  · refine iff_of_false (by simp [h.build_eq]) ?_
    simpa [isMisfit] using h.fits

theorem exists_refusedFor_of_build_eq_error {cause : Fault} (hknown : c.Known find)
    (hbuild : c.build find = .error cause) :
    ∃ misfit, c.RefusedFor find misfit ∧ cause = .notAnOperator (misfit.heading find) := by
  rcases settled hknown with ⟨misfit, h⟩ | ⟨node, h⟩
  · exact ⟨misfit, h, by simpa [h.build_eq] using hbuild.symm⟩
  · simp [h.build_eq] at hbuild

theorem gives_of_build_eq_ok (hknown : c.Known find) (hbuild : c.build find = .ok node) :
    c.Gives find node := by
  rcases settled hknown with ⟨misfit, h⟩ | ⟨node', h⟩
  · simp [h.build_eq] at hbuild
  · obtain rfl : node' = node := by simpa [h.build_eq] using hbuild
    exact h

/-- A node is what its parts give. -/
theorem build_takenApart (node : Value) : node.takenApart.build find = .ok node := by
  match node with
  | .assign target value =>
      simp [Value.takenApart, build, build_takenApart value, bind, Except.bind, pure, Except.pure]
  | .binary symbol left right =>
      simp [Value.takenApart, build, build_takenApart left, build_takenApart right, bind,
        Except.bind, Value.join]
  | .none | .bool _ | .int _ | .double _ | .text _ | .tuple _ | .list _ | .record _ | .bare
  | .number _ | .name _ | .operator _ => rfl

end Build

end Construction

/-! ### Asking nodes to change -/

namespace Workbench

/-- A named node that is asked to set or delete a field. -/
structure Attempt (bench : Workbench) where
  id : String
  node : Value
  field : String
  isNode : node.isNode = true
  found : bench.find id = .ok node

namespace Attempt

variable {bench : Workbench}

/-- What is asked for. -/
def task (attempt : bench.Attempt) : Task := .alter attempt.id attempt.field

/-- The answer to it. -/
def refusal (attempt : bench.Attempt) : Except Fault Outcome :=
  .error (.immutable attempt.node.typeName)

theorem perform_task (attempt : bench.Attempt) :
    bench.perform attempt.task = (attempt.refusal, bench) := by
  simp [perform, task, refusal, refuse, attempt.found]

end Attempt

/-- **Nodes do not change.**  Each attempt is refused, and what is done later comes out as if there
had been none. -/
theorem performAll_attempts (bench : Workbench) (attempts : List bench.Attempt)
    (later : List Task) :
    bench.performAll (attempts.map Attempt.task ++ later) =
      (attempts.map Attempt.refusal ++ (bench.performAll later).1, (bench.performAll later).2) := by
  induction attempts with
  | nil => rfl
  | cons attempt more ih =>
      simp only [List.map_cons, List.cons_append, performAll, attempt.perform_task, ih]

/-- **Nodes joined by operators.**  A construction is refused if and only if something that is no
operator stands in an operator's place; it is refused for the first of these, by the type of what
stands there.  What it gives otherwise is the node made of its parts, which are joined by operators
throughout.  A node that is asked to change refuses, and leaves everything as it was. -/
theorem nodes_joined_by_operators (bench : Workbench) :
    (∀ c : Construction, c.Known bench.find →
      ((∃ cause, c.build bench.find = .error cause) ↔
        ∃ joint ∈ c.joints, joint.heading bench.find ≠ "Operator") ∧
      (∀ cause, c.build bench.find = .error cause → ∃ joint received,
        c.joints.find? (·.heading bench.find != "Operator") = some joint ∧
        joint.build bench.find = .ok received ∧ cause = .notAnOperator received.typeName) ∧
      ∀ node, c.build bench.find = .ok node →
        node.typeName = c.heading bench.find ∧ node.takenApart = c.expanded bench.find) ∧
    (∀ node : Value, node.takenApart.build bench.find = .ok node ∧
      ∀ joint ∈ node.takenApart.joints, ∃ symbol, joint = .operator symbol) ∧
    (∀ (attempts : List bench.Attempt) (later : List Task),
      bench.performAll (attempts.map Attempt.task ++ later) =
        (attempts.map Attempt.refusal ++ (bench.performAll later).1,
          (bench.performAll later).2)) ∧
    ∀ heading, (Fault.notAnOperator heading).message =
        "BinOp operator must be an Operator, got " ++ heading ∧
      (Fault.immutable heading).message = heading ++ " is immutable" := by
  refine ⟨fun c hknown => ⟨Construction.exists_build_eq_error_iff hknown, ?_, ?_⟩, ?_,
    performAll_attempts bench, fun _ => ⟨rfl, rfl⟩⟩
  · intro cause hbuild
    obtain ⟨joint, h, hcause⟩ := Construction.exists_refusedFor_of_build_eq_error hknown hbuild
    obtain ⟨received, hreceived, hheading⟩ := h.received
    exact ⟨joint, received, h.first, hreceived, by rw [hcause, hheading]⟩
  · intro node hbuild
    have h := Construction.gives_of_build_eq_ok hknown hbuild
    exact ⟨h.typeName_eq, h.takenApart_eq⟩
  · intro node
    exact ⟨Construction.build_takenApart node, fun _ => node.exists_of_mem_joints_takenApart⟩

/-- `x`, named, and an operation on it that has two misfits: the list behind it is met before the
`x` that joins the whole. -/
theorem nodes_joined_by_operators_twice :
    (∃ joint received,
      (Construction.binary (.known "x") (.known "x")
        (.binary (.plain (.list [.int 1])) .bare (.known "x"))).joints.find?
          (·.heading (find [("x", .name "x")]) != "Operator") = some joint ∧
      joint.build (find [("x", .name "x")]) = .ok received ∧
      Fault.notAnOperator "list" = .notAnOperator received.typeName) ∧
    performAll [("x", .name "x")] [.alter "x" "name", .alter "x" "kind", .show "x"] =
      ([.error (.immutable "Variable"), .error (.immutable "Variable"),
        .ok (.printed "Variable('x')")], [("x", .name "x")]) := by
  have h := nodes_joined_by_operators [("x", .name "x")]
  refine ⟨(h.1 _ ?_).2.1 _ rfl, ?_⟩
  · intro id hid
    obtain rfl : id = "x" := by simpa [Construction.names] using hid
    exact ⟨.name "x", rfl⟩
  · have hlater := h.2.2.1 [⟨"x", .name "x", "name", rfl, rfl⟩, ⟨"x", .name "x", "kind", rfl, rfl⟩]
      [.show "x"]
    have hshown : printed (Value.name "x") = "Variable('x')" := by decide +kernel
    simpa [Attempt.task, Attempt.refusal, performAll, perform, find, hshown, Value.typeName, pure,
      Except.pure, bind, Except.bind] using hlater

end Workbench

end FlatExpr
