import FlatExpr.Proofs.Suffix
import FlatExpr.Proofs.Watch

/-!
# Origin — where a failure comes from

A parser that fails has run a leaf, and its failure is that of the leaf it ran last: an alternative
that was given up and the attempt that ends a repetition are followed by another leaf, or else by a
success.

* `Run.FailsLast`: if the run fails, the last that is seen of watched parsers is one of them that
  starts on a suffix of the text and fails in just this way.  One rule is enough for each way in
  which readers are put together; an ordered choice asks it of its second reader alone.
* `Run.NeverFails`: the run succeeds or is stopped.  A repetition does so whatever it repeats
  (`Reader.neverFails_many`).
* `Parser.failsLast_read_watchLeaves`: a parser whose leaves are watched fails last in a leaf,
  however deep its references are followed.
* `Parser.failure_of_last_leaf`: the two together, for the parser as it is and its leaves watched.
-/

namespace FlatExpr

universe u v

/-! ### Runs -/

namespace Run

/-- What the run shows of watched parsers, in order. -/
def seen {α : Type u} (r : Run α) : List Event := r.history.filter Event.isWatched

theorem seen_unwatched {α : Type u} (r : Run α) : r.unwatched.seen = [] := by
  simp [seen, unwatched]

variable {α β : Type} {id : String} {text : List Char}

/-- The run has no failure for an answer. -/
def NeverFails (r : Run (Result α)) : Prop := ∀ ⦃why : Complaint⦄, r.outcome ≠ .ok (.failure why)

namespace NeverFails

theorem success (a : α) (rest : List Char) : (Run.pure (.success a rest)).NeverFails := nofun

theorem stop (why : Stop) : (Run.stop why : Run (Result α)).NeverFails := nofun

theorem bind {γ : Type u} {r : Run γ} {f : γ → Run (Result β)}
    (h : ∀ a, r.outcome = .ok a → (f a).NeverFails) : (r.bind f).NeverFails := by
  obtain ⟨history, outcome⟩ := r
  cases outcome with
  | error why => exact nofun
  | ok a => exact h a rfl

theorem onSuccess {r : Run (Result α)} {f : α → List Char → Run (Result β)} (h : r.NeverFails)
    (hf : ∀ a rest, (f a rest).NeverFails) : (r.onSuccess f).NeverFails := by
  refine .bind fun result heq => ?_
  cases result with
  | success a rest => exact hf a rest
  | failure why => exact (h heq).elim

end NeverFails

/-- If the run fails, the last that it shows of watched parsers is that `id` starts on a suffix of
the text and fails in this way. -/
def FailsLast (r : Run (Result α)) (id : String) (text : List Char) : Prop :=
  ∀ ⦃why : Complaint⦄, r.outcome = .ok (.failure why) →
    ∃ earlier rest, rest <:+ text ∧ r.seen = earlier ++ [.entered id rest, .failed id rest why]

namespace FailsLast

theorem of_neverFails {r : Run (Result α)} (h : r.NeverFails) : r.FailsLast id text :=
  fun _ heq => (h heq).elim

theorem of_suffix {r : Run (Result α)} {rest : List Char} (h : r.FailsLast id rest)
    (hr : rest <:+ text) : r.FailsLast id text := by
  intro why heq
  obtain ⟨earlier, last, hlast, seen⟩ := h heq
  exact ⟨earlier, last, hlast.trans hr, seen⟩

/-- What is seen before counts as seen earlier. -/
theorem bind {γ : Type u} {r : Run γ} {f : γ → Run (Result β)}
    (h : ∀ a, r.outcome = .ok a → (f a).FailsLast id text) : (r.bind f).FailsLast id text := by
  obtain ⟨history, outcome⟩ := r
  cases outcome with
  | error why => exact nofun
  | ok a =>
      intro why heq
      obtain ⟨earlier, rest, hrest, seen⟩ := h a rfl heq
      refine ⟨history.filter Event.isWatched ++ earlier, rest, hrest, ?_⟩
      rw [List.append_assoc, ← seen]
      exact List.filter_append _ _

theorem onSuccess {r : Run (Result α)} {f : α → List Char → Run (Result β)}
    (h : r.FailsLast id text)
    (hf : ∀ a rest, r.outcome = .ok (.success a rest) → (f a rest).FailsLast id text) :
    (r.onSuccess f).FailsLast id text := by
  cases hr : r.outcome with
  | error why => exact .bind fun result heq => nomatch hr.symm.trans heq
  | ok result =>
      cases result with
      | success a rest =>
          refine .bind fun result heq => ?_
          cases hr.symm.trans heq
          exact hf a rest hr
      | failure why =>
          -- nothing is run behind a failure, so what failed last fails last
          rw [onSuccess_of_failure hr]
          rintro _ ⟨⟩
          exact h hr

/-- The first run may fail as it likes. -/
theorem onFailure {r : Run (Result α)} {f : Complaint → Run (Result α)}
    (hf : ∀ why, (f why).FailsLast id text) : (r.onFailure f).FailsLast id text := by
  refine .bind fun result _ => ?_
  cases result with
  | success a rest => exact .of_neverFails (.success a rest)
  | failure why => exact hf why

end FailsLast

end Run

/-! ### Readers -/

namespace Reader

variable {α β : Type} {id : String} {p : Reader α}

theorem neverFails_manyWithin (p : Reader α) (attempts text : List Char) :
    (manyWithin p attempts text).NeverFails := by
  induction attempts generalizing text with
  | nil =>
      cases text with
      | nil => exact .success _ _
      | cons c text => exact .stop _
  | cons _ attempts ih =>
      cases text with
      | nil => exact .success _ _
      | cons c text =>
          refine .bind fun result _ => ?_
          cases result with
          | failure why => exact .success _ _
          | success a rest => exact (ih rest).onSuccess fun more left => .success _ _

/-- **Repetition.**  It never fails. -/
theorem neverFails_many (p : Reader α) (text : List Char) : (p.many text).NeverFails :=
  neverFails_manyWithin p text text

theorem neverFails_apply (f : α → List Note × Except Fault β) {text : List Char}
    (h : (p text).NeverFails) : (p.apply f text).NeverFails :=
  h.onSuccess fun _ _ => .bind fun _ _ => .success _ _

/-- On every text, a run that fails fails last in a watched parser. -/
def FailsLast (p : Reader α) (id : String) : Prop := ∀ text, (p text).FailsLast id text

namespace FailsLast

theorem seq {q : Reader β} (hp : p.FailsLast id) (hq : q.FailsLast id) (suffix : p.LeavesSuffix) :
    (p.seq q).FailsLast id := by
  intro text
  refine (hp text).onSuccess fun a rest h => ?_
  have hrest := (hq rest).of_suffix (suffix text h)
  exact hrest.onSuccess fun b left _ => .of_neverFails (.success _ _)

theorem orElse {q : Reader α} (hq : q.FailsLast id) : (p.orElse q).FailsLast id :=
  fun text => .onFailure fun _ => hq text

theorem apply (f : α → List Note × Except Fault β) (hp : p.FailsLast id) :
    (p.apply f).FailsLast id :=
  fun text => (hp text).onSuccess fun _ _ _ => .of_neverFails (.bind fun _ _ => .success _ _)

theorem many : p.many.FailsLast id := fun text => .of_neverFails (neverFails_many p text)

/-- Where nothing else is seen, the probe itself is seen last. -/
theorem probe (quiet : ∀ text, (p text).seen = []) : (p.probe id).FailsLast id := by
  intro text why heq
  have hp : (p text).outcome = .ok (.failure why) :=
    (congrArg Run.outcome (congrFun (unwatched_probe id p) text)).symm.trans heq
  have seen : (p.probe id text).seen =
      .entered id text :: (p text).seen ++ [.failed id text why] := by
    simp [Run.seen, Reader.probe, Run.bind, hp, Run.after, Run.pure, List.filter_cons,
      Event.isWatched]
  rw [quiet text] at seen
  exact ⟨[], text, List.suffix_rfl, seen⟩

end FailsLast

end Reader

/-! ### Parsers -/

namespace Parser

variable {ρ : Type → Type} {α : Type} {id : String} {p : Parser ρ α}

/-- Watching leaves no more over and no less. -/
theorem LeavesSuffix.watchLeaves (id : String) (h : p.LeavesSuffix) :
    (p.watchLeaves id).LeavesSuffix := by
  induction p with
  | leaf sort reader => exact h
  | seq p q ihp ihq | orElse p q ihp ihq => exact ⟨ihp h.1, ihq h.2⟩
  | apply f p ih | many p ih | probe other p ih => exact ih h
  | later target => trivial

theorem LeavesSuffix.resolve_watchLeaves {resolve : Resolver ρ} (id : String)
    (h : resolve.LeavesSuffix) : (resolve.map (Parser.watchLeaves id)).LeavesSuffix := by
  intro β target q hq
  obtain ⟨built, hbuilt, rfl⟩ := exists_of_map_eq_ok hq
  exact (h hbuilt).watchLeaves id

/-- One level: what reads for the references fails last in a leaf. -/
theorem failsLast_readWith_watchLeaves {call : (α : Type) → ρ α → Reader α}
    (hcall : ∀ α target, (call α target).FailsLast id)
    (suffix : ∀ α target, (call α target).LeavesSuffix) (h : p.LeavesSuffix) :
    ((p.watchLeaves id).readWith call).FailsLast id := by
  induction p with
  | leaf sort reader => exact .probe fun text => Run.seen_unwatched (reader text)
  | seq p q ihp ihq => exact (ihp h.1).seq (ihq h.2) ((h.1.watchLeaves id).readWith suffix)
  | orElse p q ihp ihq => exact (ihq h.2).orElse
  | apply f p ih => exact (ih h).apply f
  | many p ih => exact .many
  | probe other p ih => exact ih h
  | later target => exact hcall _ target

/-- **Parsers.**  Whatever fails, fails last in a leaf. -/
theorem failsLast_read_watchLeaves {resolve : Resolver ρ} (hresolve : resolve.LeavesSuffix)
    (id : String) (depth : Nat) (h : p.LeavesSuffix) :
    ((p.watchLeaves id).read (resolve.map (watchLeaves id)) depth).FailsLast id := by
  induction depth generalizing α with
  | zero =>
      rw [read_zero]
      exact failsLast_readWith_watchLeaves (fun _ _ _ => .of_neverFails (.stop _))
        (fun _ _ _ => .stop) h
  | succ depth ih =>
      rw [read_succ]
      refine failsLast_readWith_watchLeaves (fun β target text => ?_) (fun β target text => ?_) h
      · rw [Resolver.build_map]
        exact .bind fun q hq => ih (.of_build hresolve hq) text
      · have hresolve := LeavesSuffix.resolve_watchLeaves id hresolve
        exact .bind fun q hq => (LeavesSuffix.of_build hresolve hq).read hresolve depth text

theorem neverFails_read_many (resolve : Resolver ρ) (depth : Nat) (p : Parser ρ α)
    (text : List Char) : (p.many.read resolve depth text).NeverFails := by
  cases depth <;> exact Reader.neverFails_many _ text

/-- **Where a failure comes from.**  When a parser fails, the last of its leaves to be run is run on
a suffix of the text and fails in just this way: that is what is seen last when all leaves are
watched, and watching them changes nothing else.  A repetition never fails, nor does one with its
values changed. -/
theorem failure_of_last_leaf {resolve : Resolver ρ} (hresolve : resolve.LeavesSuffix)
    (id : String) (depth : Nat) :
    (∀ {α : Type} (p : Parser ρ α), p.LeavesSuffix → ∀ text why,
      (p.read resolve depth text).outcome = .ok (.failure why) →
        let watched := (p.watchLeaves id).read (resolve.map (watchLeaves id)) depth text
        watched.unwatched = (p.read resolve depth text).unwatched ∧
          ∃ earlier rest, rest <:+ text ∧
            watched.seen = earlier ++ [.entered id rest, .failed id rest why]) ∧
      ∀ {α β : Type} (p : Parser ρ α) (f : List α → List Note × Except Fault β) text,
        (p.many.read resolve depth text).NeverFails ∧
          ((apply f p.many).read resolve depth text).NeverFails := by
  constructor
  · intro α p suffix text why hfail watched
    have same : watched.unwatched = (p.read resolve depth text).unwatched :=
      congrFun (unwatched_read_watchLeaves id resolve depth p) text
    have failed : watched.outcome = .ok (.failure why) := (congrArg Run.outcome same).trans hfail
    exact ⟨same, failsLast_read_watchLeaves hresolve id depth suffix text failed⟩
  · intro α β p f text
    have never := neverFails_read_many resolve depth p text
    refine ⟨never, ?_⟩
    cases depth <;> exact Reader.neverFails_apply f never

end Parser

namespace Blueprint

/-- A number in any number of pairs of parentheses. -/
def nested : Definitions :=
  [("nested", .orElse (.seq (.character ['(']) (.seq (.named "nested") (.character [')'])))
    (.rule "number"))]

/-- It is the second alternative that fails last, not the parenthesis that is missing. -/
theorem failure_of_last_leaf_nested :
    let p : Parser Link Value := .later (.named "nested")
    let text := "(1x".toList
    let watched := (resolve nested).map (Parser.watchLeaves "leaf")
    p.LeavesSuffix ∧ (resolve nested).LeavesSuffix ∧
      (p.read (resolve nested) 2 text).outcome = .ok (.failure (.unexpected '(' "digit")) ∧
      ∃ earlier rest, rest <:+ text ∧
        ((p.watchLeaves "leaf").read watched 2 text).seen =
          earlier ++ [.entered "leaf" rest, .failed "leaf" rest (.unexpected '(' "digit")] := by
  intro p text watched
  have hresolve := leavesSuffix_resolve nested
  have failed : (p.read (resolve nested) 2 text).outcome =
      .ok (.failure (.unexpected '(' "digit")) := rfl
  obtain ⟨last, -⟩ := Parser.failure_of_last_leaf hresolve "leaf" 2
  exact ⟨trivial, hresolve, failed, (last p trivial text _ failed).2⟩

end Blueprint

end FlatExpr
