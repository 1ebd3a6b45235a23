import FlatExpr.Proofs.Order
import FlatExpr.Proofs.Repetition

/-!
# Progress — what is put off is put off for a shorter text

Nothing keeps a repetition from repeating what reads nothing, or a reference from leading back to
where it stands.  That neither happens is seen from how a parser is put together.

* `Parser.Advances`: a part that has to succeed reads something; so does the whole
  (`Parser.Runs.advances`, `Parser.Advances.read`).
* `Parser.Runs.length_inner_le`: a repetition of what advances makes at most as many attempts as
  its text has characters, and the one that fails is among them.
* `Parser.Guarded`: every reference stands behind a part that advances.
* `Call.Descends`: what is built inside what is built is built for a shorter text.  Every run of a
  guarded parser descends (`Parser.Runs.descends`), and so there are at most as many levels of it
  as its text has characters (`Call.Descends.levels_le`).
-/

namespace FlatExpr

/-! ### Readers -/

namespace Reader

variable {α : Type} {p : Reader α} {text left : List Char} {steps : List (α × List Char)}

/-- Every success leaves less than there was. -/
def Advances (p : Reader α) : Prop :=
  ∀ ⦃text : List Char⦄ ⦃a : α⦄ ⦃rest : List Char⦄,
    (p text).outcome = .ok (.success a rest) → rest.length < text.length

theorem Consumes.advances (hp : p.Consumes) : p.Advances := fun _ _ _ h => (hp.shorter h).2

theorem advances_number : number.Advances := by
  intro text e rest h
  by_cases hs : Text.StopsAt Text.isDigit text
  · rw [number_of_stopsAt hs] at h
    cases h
  · obtain ⟨c, more, rfl, hc⟩ := Text.exists_of_not_stopsAt hs
    rw [number_of_isDigit hc] at h
    split at h
    · cases h
      rw [List.dropWhile_cons_of_pos hc]
      exact Nat.lt_succ_of_le (Text.length_dropWhile_le _ more)
    · cases h

/-- The attempt that fails is made on something, and so it is counted as well. -/
theorem Attempts.length_attempted_le (hp : p.Consumes) (h : Attempts p text steps left) :
    (attempted text steps).length ≤ text.length := by
  induction h with
  | ended => exact le_rfl
  | @failed text why h => cases text <;> simp [attempted]
  | @more text rest left a steps h _ ih =>
      have shorter := (hp.shorter h).2
      have hne : text ≠ [] := List.ne_nil_of_length_pos (Nat.zero_lt_of_lt shorter)
      rw [attempted_cons hne, List.length_cons]
      exact Nat.succ_le_of_lt (ih.trans_lt shorter)

end Reader

/-! ### Levels of what is built -/

namespace Call

mutual

/-- How many parsers that were put off are built one inside the other. -/
def levels : Call → Nat
  | ⟨_, _, built, inner, _, _⟩ => levelsOf inner + if built.isSome then 1 else 0

/-- The most levels that one of the calls has. -/
def levelsOf : List Call → Nat
  | [] => 0
  | call :: more => max call.levels (levelsOf more)

end

theorem levels_eq (call : Call) :
    call.levels = levelsOf call.inner + if call.built.isSome then 1 else 0 := by
  cases call
  rfl

theorem levelsOf_le {calls : List Call} {n : Nat} (h : ∀ call ∈ calls, call.levels ≤ n) :
    levelsOf calls ≤ n := by
  induction calls with
  | nil => exact Nat.zero_le n
  | cons call calls ih =>
      obtain ⟨head, tail⟩ := List.forall_mem_cons.mp h
      exact max_le head (ih tail)

/-- Whatever is built is built for a text of less than `n` characters, and for a shorter one than
that for which it is built inside. -/
inductive Descends : Nat → Call → Prop where
  | plain {n : Nat} {call : Call} (hbuilt : call.built = none)
      (hinner : ∀ part ∈ call.inner, Descends n part) : Descends n call
  | builds {n : Nat} {call : Call} (hbuilt : call.built.isSome = true)
      (hlt : call.text.length < n) (hinner : ∀ part ∈ call.inner, Descends call.text.length part) :
      Descends n call

namespace Descends

variable {n : Nat} {call part : Call}

/-- **Levels.**  There is room for `n` of them below `n` characters. -/
theorem levels_le (h : Descends n call) : call.levels ≤ n := by
  induction h with
  | plain hbuilt _ ih =>
      rw [levels_eq, hbuilt]
      exact levelsOf_le ih
  | builds hbuilt hlt _ ih =>
      rw [levels_eq, if_pos hbuilt]
      exact (Nat.succ_le_succ (levelsOf_le ih)).trans hlt

/-- Whatever is built inside is built for a text of less than `n` characters. -/
theorem length_lt_of_inside (h : Descends n call) (hpart : part.Inside call)
    (hbuilt : part.built.isSome = true) : part.text.length < n := by
  induction hpart generalizing n with
  | self =>
      cases h with
      | plain hnone => rw [hnone] at hbuilt; cases hbuilt
      | builds _ hlt _ => exact hlt
  | deeper hmem _ ih =>
      cases h with
      | plain _ hinner => exact ih (hinner _ hmem)
      | builds _ hlt hinner => exact (ih (hinner _ hmem)).trans hlt

end Descends

end Call

/-! ### Parsers -/

namespace Parser

variable {ρ : Type → Type}

/-- A part that has to succeed reads something, if it succeeds. -/
def Advances : {α : Type} → Parser ρ α → Prop
  | _, .leaf _ reader => reader.Advances
  | _, .seq p q => p.Advances ∨ q.Advances
  | _, .orElse p q => p.Advances ∧ q.Advances
  | _, .apply _ p => p.Advances
  | _, .many _ => False
  | _, .probe _ p => p.Advances
  | _, .later _ => False

/-- The parser is a repetition of one that advances. -/
def RepeatsAdvancing : {α : Type} → Parser ρ α → Prop
  | _, .many p => p.Advances
  | _, _ => False

/-- What the parser repeats is of a kind, and each of its references stands behind a part that
advances, unless something has been read `before`. -/
def Guarded (kind : (α : Type) → Parser ρ α → Prop) :
    (before : Prop) → {α : Type} → Parser ρ α → Prop
  | _, _, .leaf _ _ => True
  | before, _, .seq p q => p.Guarded kind before ∧ q.Guarded kind (before ∨ p.Advances)
  | before, _, .orElse p q => p.Guarded kind before ∧ q.Guarded kind before
  | before, _, .apply _ p => p.Guarded kind before
  | before, _, .many p => kind _ p ∧ p.Guarded kind before
  | before, _, .probe _ p => p.Guarded kind before
  | before, _, .later _ => before

end Parser

/-- What a reference stands for is guarded by itself. -/
def Resolver.Guarded {ρ : Type → Type} (kind : (α : Type) → Parser ρ α → Prop)
    (resolve : Resolver ρ) : Prop :=
  ∀ ⦃α : Type⦄ ⦃target : ρ α⦄ ⦃p : Parser ρ α⦄, (resolve α target).2 = .ok p →
    p.Guarded kind False

namespace Parser

variable {ρ : Type → Type} {kind : (α : Type) → Parser ρ α → Prop} {resolve : Resolver ρ}
  {name : (α : Type) → ρ α → String} {α : Type} {depth : Nat} {id : String} {p : Parser ρ α}
  {call : Call} {outcome : Except Stop (Result α)}

/-- Where every success reads something there are no more attempts than characters. -/
theorem Successive.length_le {n : Nat} {text : List Char}
    {attempts : List (Call × Except Stop (Result α))}
    {outcome : Except Stop (Result (List α))} (h : Successive n text attempts outcome)
    (shorter : ∀ attempt ∈ attempts, ∀ a rest, attempt.2 = .ok (.success a rest) →
      rest.length < attempt.1.text.length) : attempts.length ≤ text.length := by
  induction h with
  | ended => exact le_rfl
  | failed hne | stopped hne => exact List.length_pos_of_ne_nil hne
  | stalled hne => exact Nat.zero_le _
  | more hne _ ih =>
      obtain ⟨head, tail⟩ := List.forall_mem_cons.mp shorter
      exact Nat.succ_le_of_lt ((ih tail).trans_lt (head _ _ rfl))

namespace Runs

/-- At any depth inside a call all is read from what is left of its text. -/
theorem suffix_of_inside {part : Call} (hresolve : resolve.LeavesSuffix) (hp : p.LeavesSuffix)
    (h : Runs resolve name depth id p call outcome) (hpart : part.Inside call) :
    part.text <:+ call.text := by
  induction hpart generalizing α depth id with
  | self => exact List.suffix_rfl
  | deeper hmem _ ih =>
      obtain ⟨hsuffix, below, place, β, q, ended, hq, hleaves⟩ := h.exists_of_inner hresolve hp hmem
      exact (ih hleaves hq).trans hsuffix

/-- **Progress.**  A run of a parser that advances leaves less than there was. -/
theorem advances (hresolve : resolve.LeavesSuffix) (hp : p.LeavesSuffix) (hadv : p.Advances)
    (h : Runs resolve name depth id p call outcome) :
    ∀ a rest, outcome = .ok (.success a rest) → rest.length < call.text.length := by
  induction h with
  | leaf => exact fun a rest heq => hadv heq
  | seqStopped | seqFailed | applyStopped | applyFailed | applyRefused | laterTooDeep
  | laterRefused => exact nofun
  | seq hrun hrun' ihp ihq =>
      intro pair rest heq
      obtain ⟨result, rfl, hresult⟩ := exists_of_map_eq_ok heq
      cases result with
      | failure why => cases hresult
      | success b left =>
          cases hresult
          rcases hadv with hadv | hadv
          · have hleft := (hrun'.left_suffix hresolve hp.2 b _ rfl).length_le
            exact hleft.trans_lt (ihp hp.1 hadv _ _ rfl)
          · have hrest := (hrun.left_suffix hresolve hp.1 _ _ rfl).length_le
            exact (ihq hp.2 hadv b _ rfl).trans_le hrest
  | orElseFirst _ _ ih => exact ih hp.1 hadv.1
  | orElse _ _ htext _ ihq => exact fun a rest heq => htext ▸ ihq hp.2 hadv.2 a rest heq
  | apply _ _ ih => rintro _ rest ⟨⟩; exact ih hp hadv _ _ rfl
  | many | later => exact hadv.elim
  | probe _ ih => exact ih hp hadv

/-- **Iterations.**  What advances is repeated at most as often as there are characters. -/
theorem length_inner_le (hresolve : resolve.LeavesSuffix) (hp : p.LeavesSuffix)
    (hadv : p.RepeatsAdvancing) (h : Runs resolve name depth id p call outcome) :
    call.inner.length ≤ call.text.length := by
  cases h with
  | many hattempts hs =>
      rw [List.length_map]
      exact hs.length_le fun attempt hmem => (hattempts attempt hmem).advances hresolve hp hadv
  | _ => exact hadv.elim

/-- **Descent.**  What a guarded parser builds is built for shorter and shorter texts. -/
theorem descends (hresolve : resolve.LeavesSuffix) (hguard : resolve.Guarded kind)
    {before : Prop} {n : Nat} (hp : p.LeavesSuffix) (hg : p.Guarded kind before)
    (hle : call.text.length ≤ n) (hlt : before → call.text.length < n)
    (h : Runs resolve name depth id p call outcome) : call.Descends n := by
  induction h generalizing before n with
  | leaf | laterTooDeep => exact .plain rfl nofun
  | seqStopped _ ih | seqFailed _ ih | orElseFirst _ _ ih =>
      exact .plain rfl (List.forall_mem_singleton.mpr (ih hp.1 hg.1 hle hlt))
  | applyStopped _ ih | applyFailed _ ih | applyRefused _ _ ih | apply _ _ ih =>
      exact .plain rfl (List.forall_mem_singleton.mpr (ih hp hg hle hlt))
  | @seq _ _ _ _ p q first second _ _ hrun _ ihp ihq =>
      have hrest : second.text.length ≤ first.text.length :=
        (hrun.left_suffix hresolve hp.1 _ _ rfl).length_le
      have hbehind : before ∨ p.Advances → second.text.length < n := by
        rintro (hbefore | hadv)
        · exact hrest.trans_lt (hlt hbefore)
        · exact (hrun.advances hresolve hp.1 hadv _ _ rfl).trans_le hle
      exact .plain rfl (List.forall_mem_cons.mpr ⟨ihp hp.1 hg.1 hle hlt,
        List.forall_mem_singleton.mpr (ihq hp.2 hg.2 (hrest.trans hle) hbehind)⟩)
  | orElse _ _ htext ihp ihq =>
      exact .plain rfl (List.forall_mem_cons.mpr ⟨ihp hp.1 hg.1 hle hlt,
        List.forall_mem_singleton.mpr (ihq hp.2 hg.2 (htext ▸ hle) (htext ▸ hlt))⟩)
  | many hattempts hs ih =>
      have suffix := hs.suffix fun attempt hmem =>
        (hattempts attempt hmem).left_suffix hresolve hp
      refine .plain rfl fun part hpart => ?_
      obtain ⟨attempt, hmem, rfl⟩ := List.mem_map.mp hpart
      have hrest := (suffix.1 attempt hmem).length_le
      exact ih attempt hmem hp hg.2 (hrest.trans hle) fun hbefore => hrest.trans_lt (hlt hbefore)
  | probe _ ih => exact ih hp hg hle hlt
  | laterRefused => exact .builds rfl (hlt hg) nofun
  | later hbuilt _ ih =>
      -- what is built starts anew, where nothing has been read yet
      have inner := ih (hresolve hbuilt) (hguard hbuilt) le_rfl False.elim
      exact .builds rfl (hlt hg) (List.forall_mem_singleton.mpr inner)

end Runs

/-! ### Reading -/

/-- What is seen of the watched parser is the events of a call that ends as the parser does. -/
theorem exists_runs (resolve : Resolver ρ) (name : (α : Type) → ρ α → String) (depth : Nat)
    (id : String) (p : Parser ρ α) (text : List Char) :
    ∃ call : Call,
      ((p.watch id).read (Resolver.watch name resolve) depth text).history = call.events ∧
        call.text = text ∧
        Runs resolve name depth id p call (p.read resolve depth text).outcome := by
  obtain ⟨call, hrun, htext, history⟩ := seenAs_read resolve name depth id p text
  have same := (p.watch_rewritten id).read Watching.sound (Resolver.watch_rewritten name resolve)
    depth text
  exact ⟨call, history, htext, same ▸ hrun⟩

/-- However deep its references are followed, a parser that advances does so when it reads. -/
theorem Advances.read (hresolve : resolve.LeavesSuffix) (hp : p.LeavesSuffix) (h : p.Advances)
    (depth : Nat) : (p.read resolve depth).Advances := by
  intro text a rest hread
  obtain ⟨call, -, rfl, hrun⟩ := exists_runs resolve (fun _ _ => "") depth "" p text
  exact hrun.advances hresolve hp h a rest hread

end Parser

end FlatExpr
