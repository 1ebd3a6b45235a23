import FlatExpr.Proofs.Printed
import FlatExpr.Workbench
import Mathlib.Data.Finset.Card
import Mathlib.Data.List.Perm.Basic

/-!
# Distinct — one number for each structure

Nodes as keys: each structure among the nodes of a list has one number, and the numbers count the
structures as they appear.

* `Value.typeName_eq_of_same`, `Value.isNode_eq_of_same`: sameness tells the kinds of nodes apart,
  and nodes from anything else.
* `Value.numberBy`: numbering by any test of what has been seen already.  It depends on nothing but
  the test (`Value.numberBy_map`), and by equality it numbers the list without its repetitions
  (`Value.numberBy_eq`).
* `Value.distinct_ofExpr`: that is how nodes are numbered.
* `Value.numberBy_sameAt`: nodes that lie somewhere are looked up by where they lie first, which
  changes nothing.
* `Workbench.number_distinct`: all of these.
-/

namespace FlatExpr

namespace Value

/-! ### Sameness of nodes -/

/-- A node is the same as nodes only. -/
theorem isNode_eq_of_same {a b : Value} (h : a.same b = true) : a.isNode = b.isNode := by
  cases a <;> cases b <;> simp_all [isNode, same, number?, sameNumbers]

/-- A node is the same as nodes of its kind only. -/
theorem typeName_eq_of_same {a b : Value} (ha : a.isNode = true) (h : a.same b = true) :
    a.typeName = b.typeName := by
  cases a with
  | bare | number | name | operator | assign | binary =>
      cases b <;> simp_all [typeName, same, number?, sameNumbers]
  | _ => simp [isNode] at ha

theorem sameKey_ofExpr (a b : Expr) : sameKey (ofExpr a) (ofExpr b) = decide (a = b) := by
  rw [sameKey_eq_same, Bool.eq_iff_iff, same_ofExpr_iff, decide_eq_true_iff]

/-- Nodes print alike only if they are equal. -/
theorem printed_expr_iff (a b : Expr) : printed a = printed b ↔ a = b := by
  constructor
  · intro h
    have h : ofExpr a = ofExpr b := (printed_eq_iff (declared_ofExpr a) (declared_ofExpr b)).mp h
    rw [← same_ofExpr_iff, h, same_ofExpr_iff]
  · rintro rfl
    rfl

/-- On nodes, sameness is an equivalence. -/
theorem same_ofExpr_equivalence :
    Equivalence fun a b : Expr => (ofExpr a).same (ofExpr b) = true := by
  simp only [same_ofExpr_iff]
  exact eq_equivalence

theorem keyFault?_ofExpr (e : Expr) : (ofExpr e).keyFault? = Option.none := by
  induction e with
  | assign target value ih => exact ih
  | binary symbol left right ihl ihr => simp [ofExpr, keyFault?, ihl, ihr]
  | bare | number | name | operator => rfl

/-! ### Numbering by any test -/

section NumberBy

variable {α β : Type} (key : α → α → Bool)

/-- Where something stands among the different ones seen so far, and those with it. -/
def placeBy (seen : List α) (a : α) : Nat × List α :=
  match seen.findIdx? (key a) with
  | some i => (i, seen)
  | Option.none => (seen.length, seen ++ [a])

/-- Numbering, as `numberFrom` does it, where `key` tells what has been seen already. -/
def numberBy (seen : List α) : List α → List Nat × List α
  | [] => ([], seen)
  | a :: more =>
      let (i, seen) := placeBy key seen a
      let (rest, seen) := numberBy seen more
      (i :: rest, seen)

theorem numberFrom_eq_numberBy (seen values : List Value) :
    numberFrom seen values = numberBy sameKey seen values := by
  induction values generalizing seen with
  | nil => rfl
  | cons value more ih =>
      have hplace : place seen value = placeBy sameKey seen value := rfl
      simp only [numberFrom, numberBy, hplace, ih]

variable {key} {key' : β → β → Bool} {f : α → β}

theorem placeBy_map (h : ∀ a b, key a b = key' (f a) (f b)) (seen : List α) (a : α) :
    placeBy key' (seen.map f) (f a) = ((placeBy key seen a).1, (placeBy key seen a).2.map f) := by
  have hfind : (seen.map f).findIdx? (key' (f a)) = seen.findIdx? (key a) := by
    rw [List.findIdx?_map]
    exact congrArg (seen.findIdx? ·) (funext fun b => (h a b).symm)
  simp only [placeBy, hfind]
  cases seen.findIdx? (key a) <;> simp

/-- Numbering is the same wherever the tests agree. -/
theorem numberBy_map (h : ∀ a b, key a b = key' (f a) (f b)) (seen as : List α) :
    numberBy key' (seen.map f) (as.map f) =
      ((numberBy key seen as).1, (numberBy key seen as).2.map f) := by
  induction as generalizing seen with
  | nil => rfl
  | cons a more ih => simp only [List.map_cons, numberBy, placeBy_map h, ih]

end NumberBy

/-! ### Numbering by equality -/

section Equality

variable {α : Type} [DecidableEq α]

theorem eraseDups_concat (done : List α) (a : α) :
    (done ++ [a]).eraseDups = if a ∈ done then done.eraseDups else done.eraseDups ++ [a] := by
  by_cases h : a ∈ done <;> simp [List.eraseDups_append, List.removeAll, List.eraseDups_cons, h]

theorem nodup_eraseDups (as : List α) : as.eraseDups.Nodup := by
  induction as using List.reverseRecOn with
  | nil => exact List.nodup_nil
  | append_singleton done a ih =>
      rw [eraseDups_concat]
      split
      · exact ih
      · rename_i h
        simpa [List.nodup_append, ih] using fun b hb (hba : b = a) => h (hba ▸ hb)

theorem length_eraseDups (as : List α) : as.eraseDups.length = as.toFinset.card := by
  rw [← List.toFinset_card_of_nodup (nodup_eraseDups as)]
  congr 1
  ext a
  simp

/-- The first of its kind is numbered by how many kinds there are before it. -/
theorem idxOf_eraseDups_append {before : List α} {a : α} (h : a ∉ before) (after : List α) :
    (before ++ a :: after).eraseDups.idxOf a = before.toFinset.card := by
  have hbefore : a ∉ before.eraseDups := by simpa using h
  rw [List.eraseDups_append, List.idxOf_append_of_notMem hbefore, length_eraseDups]
  simp [List.removeAll, h, List.eraseDups_cons]

theorem placeBy_eq (done : List α) (a : α) :
    placeBy (fun a b => decide (a = b)) done.eraseDups a =
      ((done ++ [a]).eraseDups.idxOf a, (done ++ [a]).eraseDups) := by
  have hmem : a ∈ (done ++ [a]).eraseDups := by simp
  by_cases h : a ∈ done
  · have hfind : done.eraseDups.findIdx? (fun b => decide (a = b)) =
        some (done.eraseDups.idxOf a) := by
      rw [List.findIdx?_eq_some_iff_findIdx_eq]
      simp [List.idxOf, List.findIdx_lt_length, h, beq_eq_decide, eq_comm]
    simp [placeBy, eraseDups_concat, h, hfind]
  · have hfind : done.eraseDups.findIdx? (fun b => decide (a = b)) = Option.none := by
      simpa using fun b hb (hab : a = b) => h (hab ▸ hb)
    simp [placeBy, eraseDups_concat, h, hfind, List.idxOf_append_of_notMem]

/-- Numbering by equality. -/
theorem numberBy_eq (done more : List α) :
    numberBy (fun a b => decide (a = b)) done.eraseDups more =
      (more.map (done ++ more).eraseDups.idxOf, (done ++ more).eraseDups) := by
  induction more generalizing done with
  | nil => simp [numberBy]
  | cons a more ih =>
      have hsplit : done ++ a :: more = (done ++ [a]) ++ more := by simp
      have hfirst : (done ++ [a] ++ more).eraseDups.idxOf a = (done ++ [a]).eraseDups.idxOf a := by
        rw [List.eraseDups_append, List.idxOf_append_of_mem (by simp)]
      simp only [numberBy, placeBy_eq, ih, List.map_cons, hsplit, hfirst]

theorem numberBy_eq_nil (as : List α) :
    numberBy (fun a b => decide (a = b)) [] as =
      (as.map as.eraseDups.idxOf, as.eraseDups) := by
  simpa using numberBy_eq [] as

end Equality

/-- How nodes are numbered. -/
theorem distinct_ofExpr (nodes : List Expr) :
    distinct (nodes.map ofExpr) =
      (nodes.map nodes.eraseDups.idxOf, nodes.eraseDups.map ofExpr) := by
  rw [distinct, numberFrom_eq_numberBy, ← List.map_nil,
    numberBy_map (fun a b => (sameKey_ofExpr a b).symm), numberBy_eq_nil]

/-! ### Where nodes lie -/

/-- Whether what lies in two places is one key: the places are one, or the nodes are. -/
def sameAt (heap : Nat → Expr) (a b : Nat) : Bool :=
  a == b || sameKey (ofExpr (heap a)) (ofExpr (heap b))

theorem sameAt_eq (heap : Nat → Expr) (a b : Nat) :
    sameAt heap a b = decide (heap a = heap b) := by
  rw [sameAt, sameKey_ofExpr]
  by_cases h : a = b <;> simp [h]

/-- Looking at the places first changes nothing. -/
theorem numberBy_sameAt (heap : Nat → Expr) (places : List Nat) :
    (numberBy (sameAt heap) [] places).1 = (distinct ((places.map heap).map ofExpr)).1 ∧
      (numberBy (sameAt heap) [] places).2.map heap = (places.map heap).eraseDups := by
  have h : numberBy (fun a b => decide (a = b)) [] (places.map heap) =
      ((numberBy (sameAt heap) [] places).1, (numberBy (sameAt heap) [] places).2.map heap) :=
    numberBy_map (fun a b => sameAt_eq heap a b) [] places
  rw [numberBy_eq_nil, Prod.mk.injEq] at h
  rw [distinct_ofExpr]
  exact ⟨h.1.symm, h.2.symm⟩

end Value

namespace Workbench

variable {bench : Workbench} {ids : List String} {nodes : List Expr}

/-- Nodes that have been named are found, and can be looked up. -/
theorem mapM_asKey
    (h : List.Forall₂ (fun id node => bench.find id = .ok (.ofExpr node)) ids nodes) :
    (ids.mapM fun id => do asKey (← bench.find id)) = .ok (nodes.map Value.ofExpr) := by
  induction h with
  | nil => rfl
  | cons hfound _ ih =>
      rw [List.mapM_cons, hfound, ih]
      simp [asKey, Value.keyFault?_ofExpr, bind, Except.bind, pure, Except.pure]

theorem perform_number
    (h : List.Forall₂ (fun id node => bench.find id = .ok (.ofExpr node)) ids nodes) :
    bench.perform (.number ids) =
      (.ok (.numbered nodes.toFinset.card (nodes.map nodes.eraseDups.idxOf)), bench) := by
  rw [perform, mapM_asKey h]
  simp [Value.distinct_ofExpr, Value.length_eraseDups, bind, Except.bind, pure, Except.pure]

/-- **Numbering nodes.**  Named nodes are numbered by their structure.  Two have one number if and
only if they are equal, that is, print alike, that is, are the same; the first of its structure is
numbered by how many structures there are before it, and there are as many numbers as structures.
Where the nodes lie makes no difference, and the order of the names makes none to how many numbers
there are.  What this rests on: sameness of nodes is an equivalence, and what is the same has one
digest, is a node or is none, and is of one kind. -/
theorem number_distinct
    (h : List.Forall₂ (fun id node => bench.find id = .ok (.ofExpr node)) ids nodes) :
    (∃ number : Expr → Nat,
      bench.perform (.number ids) =
        (.ok (.numbered nodes.toFinset.card (nodes.map number)), bench) ∧
      (∀ a ∈ nodes, ∀ b ∈ nodes, (number a = number b ↔ a = b) ∧
        (number a = number b ↔ printed a = printed b) ∧
        (number a = number b ↔ (Value.ofExpr a).same (.ofExpr b) = true)) ∧
      (∀ before node after, nodes = before ++ node :: after → node ∉ before →
        number node = before.toFinset.card) ∧
      ∀ (heap : Nat → Expr) (places : List Nat), places.map heap = nodes →
        (Value.numberBy (Value.sameAt heap) [] places).1 = nodes.map number ∧
        (Value.numberBy (Value.sameAt heap) [] places).2.length = nodes.toFinset.card) ∧
    (∀ ids', ids'.Perm ids → ∃ index,
      bench.perform (.number ids') = (.ok (.numbered nodes.toFinset.card index), bench)) ∧
    (Equivalence fun a b : Expr => (Value.ofExpr a).same (.ofExpr b) = true) ∧
    ∀ a b : Value, a.same b = true → a.digest = b.digest ∧ a.isNode = b.isNode ∧
      (a.isNode = true → a.typeName = b.typeName) := by
  refine ⟨⟨nodes.eraseDups.idxOf, perform_number h, ?_, ?_, ?_⟩, ?_,
    Value.same_ofExpr_equivalence, fun a b hsame => ⟨Value.digest_eq_of_same hsame,
      Value.isNode_eq_of_same hsame, fun hnode => Value.typeName_eq_of_same hnode hsame⟩⟩
  · intro a ha b _
    have hnumber : nodes.eraseDups.idxOf a = nodes.eraseDups.idxOf b ↔ a = b :=
      List.idxOf_inj (List.mem_eraseDups.mpr ha)
    exact ⟨hnumber, hnumber.trans (Value.printed_expr_iff a b).symm,
      hnumber.trans (Value.same_ofExpr_iff a b).symm⟩
  · rintro before node after rfl hfirst
    exact Value.idxOf_eraseDups_append hfirst after
  · rintro heap places rfl
    obtain ⟨hindex, hentries⟩ := Value.numberBy_sameAt heap places
    rw [hindex, Value.distinct_ofExpr, ← Value.length_eraseDups, ← hentries, List.length_map]
    exact ⟨rfl, rfl⟩
  · intro ids' hids
    obtain ⟨nodes', h', hnodes⟩ := List.perm_comp_forall₂ hids h
    exact ⟨_, by rw [perform_number h', List.toFinset_eq_of_perm _ _ hnodes]⟩

/-- A variable and an operator of one spelling, and the variable once more. -/
theorem number_distinct_kinds :
    List.Forall₂ (fun id node =>
        find [("v", .name "+"), ("o", .operator "+"), ("w", .name "+")] id = .ok (.ofExpr node))
      ["v", "o", "w"] [.name "+", .operator "+", .name "+"] ∧
    perform [("v", .name "+"), ("o", .operator "+"), ("w", .name "+")] (.number ["v", "o", "w"]) =
      (.ok (.numbered 2 [0, 1, 0]),
        [("v", .name "+"), ("o", .operator "+"), ("w", .name "+")]) := by
  have hfound : List.Forall₂ (fun id node =>
        find [("v", .name "+"), ("o", .operator "+"), ("w", .name "+")] id = .ok (.ofExpr node))
      ["v", "o", "w"] [.name "+", .operator "+", .name "+"] :=
    .cons rfl (.cons rfl (.cons rfl .nil))
  obtain ⟨⟨number, hperform, -, hfirst, -⟩, -⟩ := number_distinct hfound
  have hname : number (.name "+") = 0 := hfirst [] _ _ rfl (by decide)
  have hoperator : number (.operator "+") = 1 := hfirst [.name "+"] _ _ rfl (by decide)
  refine ⟨hfound, ?_⟩
  rw [hperform, List.map, List.map, List.map, List.map, hname, hoperator]
  rfl

end Workbench

end FlatExpr
