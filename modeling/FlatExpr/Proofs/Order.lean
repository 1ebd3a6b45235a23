import FlatExpr.Proofs.Call
import FlatExpr.Proofs.Suffix

/-!
# Order — which parts are run, and on what

The order of evaluation of a parser, told by what is seen when each of its parts is watched.

* `Parser.watch`: the parser with each of its parts watched, under an identifier that tells where
  the part stands; `Resolver.watch`: the same for whatever is built meanwhile, and the building.
* `Parser.Runs`: a call is a run of the parser, with this outcome.  There is one rule for each thing
  that can happen: which parts have been started by then, on which texts, and what that makes of
  the outcome.  A repetition is given up only where its attempts are spent (`Parser.Successive`),
  and a reference only where the depth is.
* `Parser.seenAs_read`: what is seen of the watched parser is the events of such a call.  By
  induction on the depth, and for each depth on the parser (`Parser.seenAs_readWith`).
* `Parser.Runs.exists_of_inner`, `Parser.Runs.last`: one call and those directly inside it.  Each of
  them starts on a suffix, and if one is stopped nothing comes behind it.
* `Parser.run_in_order`: all this together, for calls at any depth, and that probes change no
  result.
-/

namespace FlatExpr

namespace Parser

variable {ρ : Type → Type}

/-! ### Watching each part -/

/-- The parser with each of its parts watched in place of its probes; the whole is watched under
`id`. -/
def watch : {α : Type} → (id : String) → Parser ρ α → Parser ρ α
  | _, id, .leaf sort reader => .probe id (.leaf sort reader)
  | _, id, .seq p q => .probe id (.seq (p.watch (id ++ ".1")) (q.watch (id ++ ".2")))
  | _, id, .orElse p q => .probe id (.orElse (p.watch (id ++ ".1")) (q.watch (id ++ ".2")))
  | _, id, .apply f p => .probe id (.apply f (p.watch (id ++ ".1")))
  | _, id, .many p => .probe id (.many (p.watch (id ++ ".1")))
  | _, id, .probe _ p => p.watch id
  | _, id, .later target => .probe id (.later target)

/-- A parser may be watched. -/
inductive Watching : Law ρ where
  | probe {α : Type} (id : String) (p : Parser ρ α) : Watching α p (.probe id p)

theorem Watching.sound : Law.Sound (Watching : Law ρ) := by
  rintro call α p q ⟨id, p⟩
  exact (Reader.Alike.probe id _).symm

theorem watch_rewritten {α : Type} (id : String) (p : Parser ρ α) :
    Rewritten Watching p (p.watch id) := by
  induction p generalizing id with
  | leaf sort reader => exact .of (.probe id _)
  | seq p q ihp ihq => exact .trans (.seq (ihp _) (ihq _)) (.of (.probe id _))
  | orElse p q ihp ihq => exact .trans (.orElse (ihp _) (ihq _)) (.of (.probe id _))
  | apply f p ih => exact .trans (.apply f (ih _)) (.of (.probe id _))
  | many p ih => exact .trans (.many (ih _)) (.of (.probe id _))
  | probe other p ih => exact .trans (.symm (.of (.probe other p))) (ih id)
  | later target => exact .of (.probe id _)

end Parser

/-- The resolver with everything that it builds watched, and the building as well, under the name of
the reference. -/
def Resolver.watch {ρ : Type → Type} (name : (α : Type) → ρ α → String) (resolve : Resolver ρ) :
    Resolver ρ :=
  fun α target => (some (name α target), (resolve α target).2.map (Parser.watch (name α target)))

theorem Resolver.watch_rewritten {ρ : Type → Type} (name : (α : Type) → ρ α → String)
    (resolve : Resolver ρ) :
    Resolver.Rewritten Parser.Watching resolve (Resolver.watch name resolve) := by
  intro α target
  cases h : (resolve α target).2 with
  | error cause => exact .inl ⟨cause, rfl, by simp [watch, h, Except.map]⟩
  | ok p => exact .inr ⟨p, _, rfl, by simp [watch, h, Except.map]; rfl, p.watch_rewritten _⟩

namespace Parser

variable {ρ : Type → Type}

/-! ### The rules -/

/-- The attempts of a repetition from a text on, each with its outcome, and the outcome of the
repetition; so many attempts are allowed.  None is made on the empty text; the next one is made on
what a success leaves. -/
inductive Successive {α : Type} : (allowed : Nat) → List Char →
    List (Call × Except Stop (Result α)) → Except Stop (Result (List α)) → Prop where
  | ended {n : Nat} : Successive n [] [] (.ok (.success [] []))
  | failed {n : Nat} {c : Call} {why : Complaint} (hne : c.text ≠ []) :
      Successive (n + 1) c.text [(c, .ok (.failure why))] (.ok (.success [] c.text))
  | stopped {n : Nat} {c : Call} {why : Stop} (hne : c.text ≠ []) :
      Successive (n + 1) c.text [(c, .error why)] (.error why)
  | stalled {text : List Char} (hne : text ≠ []) : Successive 0 text [] (.error .stalled)
  | more {n : Nat} {c : Call} {a : α} {rest : List Char}
      {attempts : List (Call × Except Stop (Result α))}
      {outcome : Except Stop (Result (List α))} (hne : c.text ≠ [])
      (t : Successive n rest attempts outcome) :
      Successive (n + 1) c.text ((c, .ok (.success a rest)) :: attempts)
        (outcome.map fun result => result.map (a :: ·))

section Runs

variable (resolve : Resolver ρ) (name : (α : Type) → ρ α → String)

/-- The call is a run of the parser that stands at `id`, with references followed at most `depth`
deep, and has this outcome. -/
inductive Runs : {α : Type} → (depth : Nat) → String → Parser ρ α → Call →
    Except Stop (Result α) → Prop where
  /-- A leaf has no parts. -/
  | leaf {α : Type} {depth : Nat} {id : String} {sort : LeafSort} {reader : Reader α}
      {text : List Char} :
      Runs depth id (.leaf sort reader)
        ⟨id, text, none, [], (reader text).history, .of (reader text).outcome⟩
        (reader text).outcome
  /-- Where the first part is stopped the second one is not started. -/
  | seqStopped {α β : Type} {depth : Nat} {id : String} {p : Parser ρ α} {q : Parser ρ β}
      {first : Call} {why : Stop} (hp : Runs depth (id ++ ".1") p first (.error why)) :
      Runs depth id (.seq p q) ⟨id, first.text, none, [first], [], .error why⟩ (.error why)
  /-- Where the first part fails the second one is not started. -/
  | seqFailed {α β : Type} {depth : Nat} {id : String} {p : Parser ρ α} {q : Parser ρ β}
      {first : Call} {why : Complaint}
      (hp : Runs depth (id ++ ".1") p first (.ok (.failure why))) :
      Runs depth id (.seq p q) ⟨id, first.text, none, [first], [], .ok (.failure why)⟩
        (.ok (.failure why))
  /-- The second part is started on what the first one left. -/
  | seq {α β : Type} {depth : Nat} {id : String} {p : Parser ρ α} {q : Parser ρ β}
      {first second : Call} {a : α} {outcome : Except Stop (Result β)}
      (hp : Runs depth (id ++ ".1") p first (.ok (.success a second.text)))
      (hq : Runs depth (id ++ ".2") q second outcome) :
      Runs depth id (.seq p q) ⟨id, first.text, none, [first, second], [], .of outcome⟩
        (outcome.map fun result => result.map (Prod.mk a))
  /-- Where the first alternative succeeds or is stopped the second one is not started. -/
  | orElseFirst {α : Type} {depth : Nat} {id : String} {p q : Parser ρ α} {first : Call}
      {outcome : Except Stop (Result α)} (hp : Runs depth (id ++ ".1") p first outcome)
      (hne : ∀ why, outcome ≠ .ok (.failure why)) :
      Runs depth id (.orElse p q) ⟨id, first.text, none, [first], [], .of outcome⟩ outcome
  /-- The second alternative is started where the first one was. -/
  | orElse {α : Type} {depth : Nat} {id : String} {p q : Parser ρ α} {first second : Call}
      {why : Complaint} {outcome : Except Stop (Result α)}
      (hp : Runs depth (id ++ ".1") p first (.ok (.failure why)))
      (hq : Runs depth (id ++ ".2") q second outcome) (htext : second.text = first.text) :
      Runs depth id (.orElse p q) ⟨id, first.text, none, [first, second], [], .of outcome⟩ outcome
  /-- Where there is no value nothing is changed. -/
  | applyStopped {α β : Type} {depth : Nat} {id : String} {f : α → List Note × Except Fault β}
      {p : Parser ρ α} {part : Call} {why : Stop}
      (hp : Runs depth (id ++ ".1") p part (.error why)) :
      Runs depth id (.apply f p) ⟨id, part.text, none, [part], [], .error why⟩ (.error why)
  | applyFailed {α β : Type} {depth : Nat} {id : String} {f : α → List Note × Except Fault β}
      {p : Parser ρ α} {part : Call} {why : Complaint}
      (hp : Runs depth (id ++ ".1") p part (.ok (.failure why))) :
      Runs depth id (.apply f p) ⟨id, part.text, none, [part], [], .ok (.failure why)⟩
        (.ok (.failure why))
  /-- A change that is refused is the end. -/
  | applyRefused {α β : Type} {depth : Nat} {id : String} {f : α → List Note × Except Fault β}
      {p : Parser ρ α} {part : Call} {a : α} {rest : List Char} {cause : Fault}
      (hp : Runs depth (id ++ ".1") p part (.ok (.success a rest)))
      (hf : (f a).2 = .error cause) :
      Runs depth id (.apply f p)
        ⟨id, part.text, none, [part], (f a).1.map .noted, .error (.fault cause)⟩
        (.error (.fault cause))
  | apply {α β : Type} {depth : Nat} {id : String} {f : α → List Note × Except Fault β}
      {p : Parser ρ α} {part : Call} {a : α} {rest : List Char} {b : β}
      (hp : Runs depth (id ++ ".1") p part (.ok (.success a rest))) (hf : (f a).2 = .ok b) :
      Runs depth id (.apply f p)
        ⟨id, part.text, none, [part], (f a).1.map .noted, .ok (.success () rest)⟩
        (.ok (.success b rest))
  /-- The attempts are made on what is left, each time; as many are allowed as the text has
  characters. -/
  | many {α : Type} {depth : Nat} {id : String} {p : Parser ρ α} {text : List Char}
      {attempts : List (Call × Except Stop (Result α))} {outcome : Except Stop (Result (List α))}
      (hp : ∀ attempt ∈ attempts, Runs depth (id ++ ".1") p attempt.1 attempt.2)
      (hs : Successive text.length text attempts outcome) :
      Runs depth id (.many p) ⟨id, text, none, attempts.map Prod.fst, [], .of outcome⟩ outcome
  /-- A probe is nothing but what it sees. -/
  | probe {α : Type} {depth : Nat} {id other : String} {p : Parser ρ α} {call : Call}
      {outcome : Except Stop (Result α)} (hp : Runs depth id p call outcome) :
      Runs depth id (.probe other p) call outcome
  /-- References are followed no deeper. -/
  | laterTooDeep {α : Type} {id : String} {target : ρ α} {text : List Char} :
      Runs 0 id (.later target) ⟨id, text, none, [], [], .error .tooDeep⟩ (.error .tooDeep)
  /-- The building is refused. -/
  | laterRefused {α : Type} {depth : Nat} {id : String} {target : ρ α} {text : List Char}
      {cause : Fault} (h : (resolve α target).2 = .error cause) :
      Runs (depth + 1) id (.later target)
        ⟨id, text, some (name α target), [], [], .error (.fault cause)⟩ (.error (.fault cause))
  /-- A parser is built, and run on the text. -/
  | later {α : Type} {depth : Nat} {id : String} {target : ρ α} {p : Parser ρ α} {built : Call}
      {outcome : Except Stop (Result α)} (h : (resolve α target).2 = .ok p)
      (hp : Runs depth (name α target) p built outcome) :
      Runs (depth + 1) id (.later target)
        ⟨id, built.text, some (name α target), [built], [], .of outcome⟩ outcome

variable {resolve name}

/-- A call ends as its run does. -/
theorem Runs.finish_eq {α : Type} {depth : Nat} {id : String} {p : Parser ρ α} {call : Call}
    {outcome : Except Stop (Result α)} (h : Runs resolve name depth id p call outcome) :
    call.finish = .of outcome := by
  induction h with
  | seq => exact (Finish.of_map _ _).symm
  | probe _ ih => exact ih
  | _ => rfl

end Runs

end Parser

/-! ### Every run is seen as a call -/

namespace Reader

/-- Whatever text it reads, the reader is seen as a call of the given kind. -/
def SeenAs {α : Type} (p : Reader α) (kind : Call → Except Stop (Result α) → Prop) : Prop :=
  ∀ text, ∃ call, kind call (p text).outcome ∧ call.text = text ∧ (p text).history = call.events

namespace SeenAs

variable {ρ : Type → Type} {resolve : Resolver ρ} {name : (α : Type) → ρ α → String} {α β : Type}
  {depth : Nat} {id : String}

/-- A reader that is watched is seen as a call, if what it notices fits a call of the kind. -/
theorem probe {p : Reader α} {kind : Call → Except Stop (Result α) → Prop}
    (h : ∀ text, ∃ built inner noticed,
      kind ⟨id, text, built, inner, noticed, .of (p text).outcome⟩ (p text).outcome ∧
        (p text).history = (built.map .built).toList ++ (Call.eventsOf inner ++ noticed)) :
    (p.probe id).SeenAs kind := by
  intro text
  obtain ⟨built, inner, noticed, hkind, history⟩ := h text
  refine ⟨⟨id, text, built, inner, noticed, .of (p text).outcome⟩, ?_, rfl, ?_⟩
  · rwa [Alike.probe id p text]
  · rw [history_probe, history, Call.events_eq]
    simp

theorem leaf (sort : LeafSort) (reader : Reader α) :
    (reader.probe id).SeenAs (Parser.Runs resolve name depth id (.leaf sort reader)) :=
  .probe fun _ => ⟨none, [], _, .leaf, rfl⟩

theorem seq {p : Parser ρ α} {q : Parser ρ β} {first : Reader α} {second : Reader β}
    (hp : first.SeenAs (Parser.Runs resolve name depth (id ++ ".1") p))
    (hq : second.SeenAs (Parser.Runs resolve name depth (id ++ ".2") q)) :
    ((first.seq second).probe id).SeenAs (Parser.Runs resolve name depth id (.seq p q)) := by
  refine .probe fun text => ?_
  obtain ⟨call, hrun, rfl, seen⟩ := hp text
  rw [Reader.seq]
  cases houtcome : (first call.text).outcome with
  | error why =>
      rw [houtcome] at hrun
      rw [Run.onSuccess_of_error houtcome, seen]
      exact ⟨none, [call], [], .seqStopped hrun, by simp⟩
  | ok result =>
      rw [houtcome] at hrun
      cases result with
      | failure why =>
          rw [Run.onSuccess_of_failure houtcome, seen]
          exact ⟨none, [call], [], .seqFailed hrun, by simp⟩
      | success a rest =>
          obtain ⟨call', hrun', rfl, seen'⟩ := hq rest
          rw [Run.onSuccess_of_success houtcome, Run.onSuccess_map, seen, seen']
          refine ⟨none, [call, call'], [], ?_, by simp⟩
          rw [Finish.of_map]
          exact .seq hrun hrun'

theorem orElse {p q : Parser ρ α} {first second : Reader α}
    (hp : first.SeenAs (Parser.Runs resolve name depth (id ++ ".1") p))
    (hq : second.SeenAs (Parser.Runs resolve name depth (id ++ ".2") q)) :
    ((first.orElse second).probe id).SeenAs (Parser.Runs resolve name depth id (.orElse p q)) := by
  refine .probe fun text => ?_
  obtain ⟨call, hrun, rfl, seen⟩ := hp text
  rw [Reader.orElse]
  by_cases h : ∃ why, (first call.text).outcome = .ok (.failure why)
  · obtain ⟨why, houtcome⟩ := h
    obtain ⟨call', hrun', htext, seen'⟩ := hq call.text
    rw [houtcome] at hrun
    rw [Run.onFailure_of_failure houtcome, seen, seen']
    exact ⟨none, [call, call'], [], .orElse hrun hrun' htext, by simp⟩
  · have hne : ∀ why, (first call.text).outcome ≠ .ok (.failure why) := fun why heq => h ⟨why, heq⟩
    rw [Run.onFailure_of_not_failure hne]
    exact ⟨none, [call], [], .orElseFirst hrun hne, by simp [seen]⟩

theorem apply {f : α → List Note × Except Fault β} {p : Parser ρ α} {part : Reader α}
    (hp : part.SeenAs (Parser.Runs resolve name depth (id ++ ".1") p)) :
    ((part.apply f).probe id).SeenAs (Parser.Runs resolve name depth id (.apply f p)) := by
  refine .probe fun text => ?_
  obtain ⟨call, hrun, rfl, seen⟩ := hp text
  rw [Reader.apply]
  cases houtcome : (part call.text).outcome with
  | error why =>
      rw [houtcome] at hrun
      rw [Run.onSuccess_of_error houtcome, seen]
      exact ⟨none, [call], [], .applyStopped hrun, by simp⟩
  | ok result =>
      rw [houtcome] at hrun
      cases result with
      | failure why =>
          rw [Run.onSuccess_of_failure houtcome, seen]
          exact ⟨none, [call], [], .applyFailed hrun, by simp⟩
      | success a rest =>
          rw [Run.onSuccess_of_success houtcome, seen]
          refine ⟨none, [call], (f a).1.map .noted, ?_⟩
          cases hf : (f a).2 with
          | error cause =>
              simp only [Run.ofNoted, Run.ofExcept, Run.refuse, Run.stop, Run.bind, hf]
              exact ⟨.applyRefused hrun hf, by simp⟩
          | ok b =>
              simp only [Run.ofNoted, Run.ofExcept, Run.pure, Run.bind, hf]
              exact ⟨.apply hrun hf, by simp⟩

theorem exists_successive {p : Reader α} {kind : Call → Except Stop (Result α) → Prop}
    (hp : p.SeenAs kind) (allowed text : List Char) :
    ∃ attempts : List (Call × Except Stop (Result α)),
      (∀ attempt ∈ attempts, kind attempt.1 attempt.2) ∧
        Parser.Successive allowed.length text attempts (manyWithin p allowed text).outcome ∧
        (manyWithin p allowed text).history = Call.eventsOf (attempts.map Prod.fst) := by
  induction allowed generalizing text with
  | nil =>
      cases text with
      | nil => exact ⟨[], by simp, .ended, rfl⟩
      | cons c text => exact ⟨[], by simp, .stalled (List.cons_ne_nil c text), rfl⟩
  | cons _ allowed ih =>
      cases text with
      | nil => exact ⟨[], by simp, .ended, rfl⟩
      | cons c text =>
          obtain ⟨call, hkind, htext, seen⟩ := hp (c :: text)
          have hne : call.text ≠ [] := by simp [htext]
          rw [manyWithin, Run.bind]
          cases houtcome : (p (c :: text)).outcome with
          | error why =>
              rw [houtcome] at hkind
              refine ⟨[(call, .error why)], by simpa using hkind, ?_, by simp [seen]⟩
              rw [← htext]
              exact .stopped hne
          | ok result =>
              rw [houtcome] at hkind
              cases result with
              | failure why =>
                  refine ⟨[(call, .ok (.failure why))], by simpa using hkind, ?_,
                    by simp [seen, Run.pure]⟩
                  rw [← htext]
                  exact .failed hne
              | success a rest =>
                  obtain ⟨attempts, hattempts, hs, history⟩ := ih rest
                  simp only [Run.onSuccess_map, seen, history]
                  refine ⟨(call, .ok (.success a rest)) :: attempts,
                    List.forall_mem_cons.mpr ⟨hkind, hattempts⟩, ?_, by simp⟩
                  rw [← htext]
                  exact .more hne hs

theorem many {p : Parser ρ α} {part : Reader α}
    (hp : part.SeenAs (Parser.Runs resolve name depth (id ++ ".1") p)) :
    (part.many.probe id).SeenAs (Parser.Runs resolve name depth id (.many p)) := by
  refine .probe fun text => ?_
  obtain ⟨attempts, hattempts, hs, history⟩ := hp.exists_successive text text
  exact ⟨none, attempts.map Prod.fst, [], .many hattempts hs, by simp [Reader.many, history]⟩

end SeenAs

end Reader

namespace Parser

variable {ρ : Type → Type} {resolve : Resolver ρ} {name : (α : Type) → ρ α → String} {α : Type}
  {depth : Nat}

/-- One level: what reads for the references, watched, is seen as a call. -/
theorem seenAs_readWith {call : (α : Type) → ρ α → Reader α}
    (hcall : ∀ α id target,
      ((call α target).probe id).SeenAs (Runs resolve name depth id (.later target)))
    (id : String) (p : Parser ρ α) :
    ((p.watch id).readWith call).SeenAs (Runs resolve name depth id p) := by
  induction p generalizing id with
  | leaf sort reader => exact .leaf sort reader
  | seq p q ihp ihq => exact .seq (ihp _) (ihq _)
  | orElse p q ihp ihq => exact .orElse (ihp _) (ihq _)
  | apply f p ih => exact .apply (ih _)
  | many p ih => exact .many (ih _)
  | probe other p ih =>
      intro text
      obtain ⟨seen, hrun, htext, history⟩ := ih id text
      exact ⟨seen, .probe hrun, htext, history⟩
  | later target => exact hcall _ id target

/-- **Calls.**  However deep references are followed, what is seen of the watched parser is the
events of a call that runs the parser. -/
theorem seenAs_read (resolve : Resolver ρ) (name : (α : Type) → ρ α → String) (depth : Nat)
    (id : String) (p : Parser ρ α) :
    ((p.watch id).read (Resolver.watch name resolve) depth).SeenAs
      (Runs resolve name depth id p) := by
  induction depth generalizing α id with
  | zero =>
      exact seenAs_readWith (fun _ _ _ => .probe fun _ => ⟨none, [], [], .laterTooDeep, rfl⟩) id p
  | succ depth ih =>
      rw [read_succ]
      refine seenAs_readWith (fun β id target => .probe fun text => ?_) id p
      cases h : (resolve β target).2 with
      | error cause =>
          refine ⟨some (name β target), [], [], ?_⟩
          simp only [Resolver.build, Resolver.watch, h]
          exact ⟨.laterRefused h, rfl⟩
      | ok q =>
          obtain ⟨call, hrun, rfl, seen⟩ := ih (name β target) q text
          refine ⟨some (name β target), [call], [], ?_⟩
          simp only [Resolver.build, Resolver.watch, h]
          exact ⟨.later h hrun, by simp [Run.bind, Run.ofExcept, Run.pure, Except.map, seen]⟩

/-! ### One call and those inside it -/

namespace Successive

variable {n : Nat} {text : List Char} {attempts : List (Call × Except Stop (Result α))}
  {outcome : Except Stop (Result (List α))}

/-- Where successes leave suffixes, attempts are made on suffixes and a suffix is left. -/
theorem suffix (h : Successive n text attempts outcome)
    (hleft : ∀ attempt ∈ attempts, ∀ a rest, attempt.2 = .ok (.success a rest) →
      rest <:+ attempt.1.text) :
    (∀ attempt ∈ attempts, attempt.1.text <:+ text) ∧
      ∀ values rest, outcome = .ok (.success values rest) → rest <:+ text := by
  induction h with
  | ended => exact ⟨by simp, by rintro values rest ⟨⟩; exact List.suffix_rfl⟩
  | failed hne => exact ⟨by simp, by rintro values rest ⟨⟩; exact List.suffix_rfl⟩
  | stopped hne => exact ⟨by simp, nofun⟩
  | stalled hne => exact ⟨by simp, nofun⟩
  | @more n c a rest attempts outcome hne t ih =>
      obtain ⟨head, tail⟩ := List.forall_mem_cons.mp hleft
      have hrest : rest <:+ c.text := head a rest rfl
      obtain ⟨later, left⟩ := ih tail
      refine ⟨List.forall_mem_cons.mpr ⟨List.suffix_rfl, fun attempt hmem => ?_⟩, ?_⟩
      · exact (later attempt hmem).trans hrest
      · intro values behind heq
        obtain ⟨result, rfl, hresult⟩ := exists_of_map_eq_ok heq
        cases result with
        | failure why => cases hresult
        | success more left' =>
            cases hresult
            exact (left more _ rfl).trans hrest

/-- An attempt that is stopped is the last one, and stops the repetition. -/
theorem last (h : Successive n text attempts outcome)
    {attempt : Call × Except Stop (Result α)} (hmem : attempt ∈ attempts) {why : Stop}
    (hstop : attempt.2 = .error why) :
    outcome = .error why ∧ ∃ earlier, attempts = earlier ++ [attempt] := by
  induction h with
  | ended | stalled => cases hmem
  | failed hne =>
      obtain rfl := List.mem_singleton.mp hmem
      cases hstop
  | stopped hne =>
      obtain rfl := List.mem_singleton.mp hmem
      cases hstop
      exact ⟨rfl, [], rfl⟩
  | more hne t ih =>
      rcases List.mem_cons.mp hmem with rfl | hmem
      · cases hstop
      · obtain ⟨rfl, earlier, rfl⟩ := ih hmem
        exact ⟨rfl, _ :: earlier, rfl⟩

end Successive

namespace Runs

variable {id : String} {p : Parser ρ α} {call part : Call} {outcome : Except Stop (Result α)}

/-- What is left over at the end of a call is a suffix of its text. -/
theorem left_suffix (hresolve : resolve.LeavesSuffix) (hp : p.LeavesSuffix)
    (h : Runs resolve name depth id p call outcome) :
    ∀ a rest, outcome = .ok (.success a rest) → rest <:+ call.text := by
  induction h with
  | leaf => exact fun a rest heq => hp _ heq
  | seqStopped | seqFailed | applyStopped | applyFailed | applyRefused | laterTooDeep
  | laterRefused => exact nofun
  | seq _ _ ihp ihq =>
      intro pair rest heq
      obtain ⟨result, rfl, hresult⟩ := exists_of_map_eq_ok heq
      cases result with
      | failure why => cases hresult
      | success b left =>
          cases hresult
          exact (ihq hp.2 b _ rfl).trans (ihp hp.1 _ _ rfl)
  | orElseFirst _ _ ih => exact ih hp.1
  | orElse _ _ htext _ ihq => exact fun a rest heq => htext ▸ ihq hp.2 a rest heq
  | apply _ _ ih => rintro _ rest ⟨⟩; exact ih hp _ _ rfl
  | many _ hs ih => exact (hs.suffix fun attempt hmem => ih attempt hmem hp).2
  | probe _ ih => exact ih hp
  | later hbuilt _ ih => exact ih (hresolve hbuilt)

/-- **Parts.**  Directly inside a call there are only runs of parsers, each on a suffix of the
text. -/
theorem exists_of_inner (hresolve : resolve.LeavesSuffix) (hp : p.LeavesSuffix)
    (h : Runs resolve name depth id p call outcome) (hpart : part ∈ call.inner) :
    part.text <:+ call.text ∧ ∃ (below : Nat) (place : String) (β : Type) (q : Parser ρ β)
      (ended : Except Stop (Result β)),
        Runs resolve name below place q part ended ∧ q.LeavesSuffix := by
  induction h with
  | leaf | laterTooDeep | laterRefused => cases hpart
  | seqStopped h | seqFailed h =>
      obtain rfl := List.mem_singleton.mp hpart
      exact ⟨List.suffix_rfl, _, _, _, _, _, h, hp.1⟩
  | orElseFirst h =>
      obtain rfl := List.mem_singleton.mp hpart
      exact ⟨List.suffix_rfl, _, _, _, _, _, h, hp.1⟩
  | applyStopped h | applyFailed h | applyRefused h | apply h =>
      obtain rfl := List.mem_singleton.mp hpart
      exact ⟨List.suffix_rfl, _, _, _, _, _, h, hp⟩
  | seq h h' =>
      rcases List.mem_pair.mp hpart with rfl | rfl
      · exact ⟨List.suffix_rfl, _, _, _, _, _, h, hp.1⟩
      · exact ⟨h.left_suffix hresolve hp.1 _ _ rfl, _, _, _, _, _, h', hp.2⟩
  | orElse h h' htext =>
      rcases List.mem_pair.mp hpart with rfl | rfl
      · exact ⟨List.suffix_rfl, _, _, _, _, _, h, hp.1⟩
      · exact ⟨htext ▸ List.suffix_rfl, _, _, _, _, _, h', hp.2⟩
  | many h hs =>
      obtain ⟨attempt, hmem, rfl⟩ := List.mem_map.mp hpart
      have suffix := hs.suffix fun attempt hmem => (h attempt hmem).left_suffix hresolve hp
      exact ⟨suffix.1 attempt hmem, _, _, _, _, _, h attempt hmem, hp⟩
  | probe _ ih => exact ih hp hpart
  | later hbuilt h =>
      obtain rfl := List.mem_singleton.mp hpart
      exact ⟨List.suffix_rfl, _, _, _, _, _, h, hresolve hbuilt⟩

/-- **Stops.**  Where a call directly inside is stopped, all is stopped for the same reason, and
nothing happens any more. -/
theorem last (h : Runs resolve name depth id p call outcome) (hpart : part ∈ call.inner)
    {why : Stop} (hstop : part.finish = .error why) :
    call.finish = .error why ∧ part.events <:+ call.events := by
  induction h with
  | leaf | laterTooDeep | laterRefused => cases hpart
  | seqStopped h | applyStopped h =>
      obtain rfl := List.mem_singleton.mp hpart
      obtain rfl := Except.error.inj (h.finish_eq.symm.trans hstop)
      exact ⟨rfl, Call.events_suffix_of_inner (List.nil_append _).symm rfl rfl⟩
  | seqFailed h | applyFailed h | applyRefused h | apply h =>
      obtain rfl := List.mem_singleton.mp hpart
      cases h.finish_eq.symm.trans hstop
  | seq h h' | orElse h h' =>
      rcases List.mem_pair.mp hpart with rfl | rfl
      · cases h.finish_eq.symm.trans hstop
      · have finish := h'.finish_eq.symm.trans hstop
        exact ⟨finish, Call.events_suffix_of_inner (List.singleton_append).symm rfl finish⟩
  | orElseFirst h | later _ h =>
      obtain rfl := List.mem_singleton.mp hpart
      have finish := h.finish_eq.symm.trans hstop
      exact ⟨finish, Call.events_suffix_of_inner (List.nil_append _).symm rfl finish⟩
  | many h hs =>
      obtain ⟨attempt, hmem, rfl⟩ := List.mem_map.mp hpart
      have stopped := Finish.of_eq_error_iff.mp ((h attempt hmem).finish_eq.symm.trans hstop)
      obtain ⟨rfl, earlier, rfl⟩ := hs.last hmem stopped
      exact ⟨rfl, Call.events_suffix_of_inner (List.map_append ..) rfl rfl⟩
  | probe _ ih => exact ih hpart

/-- At any depth inside a call there are only runs of parsers. -/
theorem exists_of_inside (hresolve : resolve.LeavesSuffix) (hp : p.LeavesSuffix)
    (h : Runs resolve name depth id p call outcome) (hpart : part.Inside call) :
    ∃ (below : Nat) (place : String) (β : Type) (q : Parser ρ β) (ended : Except Stop (Result β)),
      Runs resolve name below place q part ended ∧ q.LeavesSuffix := by
  induction hpart generalizing α depth id with
  | self => exact ⟨depth, id, α, p, outcome, h, hp⟩
  | deeper hmem _ ih =>
      obtain ⟨-, below, place, β, q, ended, hq, suffix⟩ := h.exists_of_inner hresolve hp hmem
      exact ih suffix hq

/-- A call inside that is stopped, at any depth, is the end of everything. -/
theorem last_of_inside (hresolve : resolve.LeavesSuffix) (hp : p.LeavesSuffix)
    (h : Runs resolve name depth id p call outcome) (hpart : part.Inside call) {why : Stop}
    (hstop : part.finish = .error why) :
    outcome = .error why ∧ part.events <:+ call.events := by
  have whole : call.finish = .error why ∧ part.events <:+ call.events := by
    induction hpart generalizing α depth id with
    | self => exact ⟨hstop, List.suffix_rfl⟩
    | deeper hmem _ ih =>
        obtain ⟨-, below, place, β, q, ended, hq, suffix⟩ := h.exists_of_inner hresolve hp hmem
        obtain ⟨finish, behind⟩ := ih suffix hq
        obtain ⟨finish', behind'⟩ := h.last hmem finish
        exact ⟨finish', behind.trans behind'⟩
  exact ⟨Finish.of_eq_error_iff.mp (h.finish_eq.symm.trans whole.1), whole.2⟩

end Runs

/-- **Order of evaluation.**  What is seen of a parser with each of its parts watched is the events
of a call that runs it as the rules say, with the outcome it has when it is not watched.  Inside
each call the parts start on suffixes of its text.  A call that is stopped, wherever it is, stops
all with the same outcome, and it is the end of what is seen.  Wherever else probes are put in or
taken out, the outcome stays the same. -/
theorem run_in_order (hresolve : resolve.LeavesSuffix) (name : (α : Type) → ρ α → String)
    (depth : Nat) (id : String) {p : Parser ρ α} (hp : p.LeavesSuffix) (text : List Char) :
    let run := p.read resolve depth text
    let watched := (p.watch id).read (Resolver.watch name resolve) depth text
    (∃ call : Call, watched.history = call.events ∧ call.text = text ∧
      Runs resolve name depth id p call run.outcome ∧
      (∀ whole : Call, whole.Inside call → ∀ part ∈ whole.inner, part.text <:+ whole.text) ∧
      ∀ part : Call, part.Inside call → ∀ why, part.finish = .error why →
        run.outcome = .error why ∧ part.events <:+ watched.history) ∧
    ∀ (other : Resolver ρ) (q : Parser ρ α), Resolver.Rewritten Watching resolve other →
      Rewritten Watching p q → (q.read other depth text).outcome = run.outcome := by
  intro run watched
  have same {other : Resolver ρ} {q : Parser ρ α}
      (hother : Resolver.Rewritten Watching resolve other) (hq : Rewritten Watching p q) :
      (q.read other depth text).outcome = run.outcome :=
    (hq.read Watching.sound hother depth text).symm
  refine ⟨?_, fun other q => same⟩
  obtain ⟨call, hrun, htext, history⟩ := seenAs_read resolve name depth id p text
  rw [same (Resolver.watch_rewritten name resolve) (p.watch_rewritten id)] at hrun
  refine ⟨call, history, htext, hrun, fun whole hwhole part hpart => ?_, fun part hpart why => ?_⟩
  · obtain ⟨below, place, β, q, ended, hq, suffix⟩ := hrun.exists_of_inside hresolve hp hwhole
    exact (hq.exists_of_inner hresolve suffix hpart).1
  · intro hstop
    rw [show watched.history = call.events from history]
    exact hrun.last_of_inside hresolve hp hpart hstop

end Parser

/-- What a reference of a blueprint is watched under. -/
def Link.name : (α : Type) → Link α → String
  | _, .expr => "expr"
  | _, .named name => name
  | _, .later id _ => id

namespace Blueprint

/-- A parser that reads a character before it is refused. -/
def refusing : Definitions := [("refusing", .map .refuse (.take 1))]

/-- The first alternative fails, the second one reads a character; on what is left a parser is
built, whose change of the value is refused, and that is the end. -/
theorem run_in_order_refused :
    let p : Parser Link Value :=
      ((Parser.leaf .given (Reader.fail "no")).orElse (.leaf .given (Reader.take 1))).seq
        (.later (.named "refusing")) |>.map fun (v, w) => .tuple [v, w]
    let text := "xy".toList
    let run := p.read (resolve refusing) 1 text
    let watched := (p.watch "p").read (Resolver.watch Link.name (resolve refusing)) 1 text
    p.LeavesSuffix ∧ (resolve refusing).LeavesSuffix ∧
      watched.history = [.entered "p" "xy".toList, .entered "p.1" "xy".toList,
        .entered "p.1.1" "xy".toList, .entered "p.1.1.1" "xy".toList,
        .failed "p.1.1.1" "xy".toList (.other "no"), .entered "p.1.1.2" "xy".toList,
        .succeeded "p.1.1.2" "y".toList, .succeeded "p.1.1" "y".toList,
        .entered "p.1.2" "y".toList, .built "refusing", .entered "refusing" "y".toList,
        .entered "refusing.1" "y".toList, .succeeded "refusing.1" []] ∧
      run.outcome = .error (.fault .deliberate) ∧ watched.outcome = run.outcome ∧
      ∃ call : Call, watched.history = call.events ∧
        Parser.Runs (resolve refusing) Link.name 1 "p" p call run.outcome := by
  intro p text run watched
  have hp : p.LeavesSuffix := ⟨⟨.fail "no", .take 1⟩, trivial⟩
  have hresolve := leavesSuffix_resolve refusing
  obtain ⟨⟨call, history, -, hrun, -⟩, same⟩ :=
    Parser.run_in_order hresolve Link.name 1 "p" hp text
  exact ⟨hp, hresolve, by decide +kernel, rfl,
    same _ _ (Resolver.watch_rewritten _ _) (p.watch_rewritten "p"), call, history, hrun⟩

end Blueprint

end FlatExpr
