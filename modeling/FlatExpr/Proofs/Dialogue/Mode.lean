import FlatExpr.Proofs.Dialogue.Agreement
import FlatExpr.Stack.Calls

/-!
# Dialogue — Mode

What verbose mode does to a session: it shows the trees of what is read, and nothing else.

* `Reply.isTree_iff`: the lines of output that begin with the mark of a tree are the trees.
* `Dialogue.inModes_answerTo`, `Dialogue.withoutTrees_answerTo`: one line, answered in a verbose
  session and in one that is not.
* `Dialogue.talk_in_both_modes`: whole sessions.  Without the trees, and without the answers to the
  lines that turn the mode, a session is the one that is not verbose, on the other lines.  Two
  sessions that begin in opposite modes stay in opposite modes, and every line takes both of them
  to the same rule.
-/

namespace FlatExpr

/-! ### Trees -/

/-- A line of output that begins with the mark of a tree. -/
def Reply.isTree (reply : Reply) : Bool := "[tree]".toList.isPrefixOf reply.text.toList

/-- Only trees have that mark. -/
theorem Reply.isTree_iff {reply : Reply} : reply.isTree = true ↔ ∃ e, reply = .tree e := by
  rw [isTree, List.isPrefixOf_iff_prefix]
  constructor
  · intro h
    cases reply with
    | tree e => exact ⟨e, rfl⟩
    | value e =>
        obtain ⟨more, h⟩ := h
        have h : "[tree]".toList ++ more = (printed e ++ "\n").toList := h
        rw [String.toList_append] at h
        exact (Dialogue.printed_append_ne_bracket e "\n".toList _ h.symm).elim
    | farewell | interrupted | halted => exact absurd h (by decide)
    | _ =>
        -- the words that every other line begins with are longer than the mark, and differ from it
        change _ <+: (_ ++ _ : String).toList at h
        simp only [String.toList_append, List.append_assoc] at h
        have hlead := List.prefix_of_prefix_length_le h (List.prefix_append _ _) (by decide +kernel)
        exact absurd hlead (by decide +kernel)
  · rintro ⟨e, rfl⟩
    change _ <+: ("[tree] >>> " ++ e.toJson.compact ++ "\n").toList
    rw [String.append_assoc, String.toList_append]
    exact List.IsPrefix.trans (by decide) (List.prefix_append _ _)

theorem Reply.isTree_eq_false {reply : Reply} (h : ∀ e, reply ≠ .tree e) :
    reply.isTree = false := by
  rw [Bool.eq_false_iff, ne_eq, isTree_iff]
  rintro ⟨e, he⟩
  exact h e he

/-- What is left of a turn without its trees. -/
def Turn.withoutTrees (turn : Turn) : Turn :=
  { turn with replies := turn.replies.filter fun reply => !reply.isTree }

/-- A turn without trees is left as it is. -/
theorem Turn.withoutTrees_eq_self {turn : Turn} (h : ∀ reply ∈ turn.replies, reply.isTree = false) :
    turn.withoutTrees = turn := by
  have hreplies : turn.replies.filter (fun reply => !reply.isTree) = turn.replies := by
    rw [List.filter_eq_self]
    intro reply hreply
    rw [h reply hreply]
    rfl
  rw [withoutTrees, hreplies]

theorem Turn.withoutTrees_singleton {reply : Reply} (h : ∀ e, reply ≠ .tree e) :
    (⟨[reply], []⟩ : Turn).withoutTrees = ⟨[reply], []⟩ := by
  refine withoutTrees_eq_self fun other hother => ?_
  cases List.mem_singleton.mp hother
  exact Reply.isTree_eq_false h

namespace Dialogue
open Text

/-- What is left of the answers to some lines without those to the lines that turn the mode. -/
def withoutToggles : List (List Char) → List Turn → List Turn
  | line :: lines, turn :: turns =>
      if isToggle line then withoutToggles lines turns else turn :: withoutToggles lines turns
  | _, turns => turns

/-! ### One line -/

section Line

variable (rule : Rule) (verbose : Bool) {line : List Char}

/-- What was left over is shown without a tree. -/
theorem isTree_leftOver {rest : List Char} :
    ∀ reply ∈ (if rest = [] then [] else [Reply.leftOver rest]), reply.isTree = false := by
  intro reply hreply
  split at hreply
  · cases hreply
  · cases List.mem_singleton.mp hreply
    exact Reply.isTree_eq_false nofun

/-- The answer to the choice of a rule does not depend on the mode. -/
theorem choose_reply (name : String) (other : Bool) :
    (choose ⟨rule.name, verbose⟩ name).1 = (choose ⟨rule.name, other⟩ name).1 := by
  unfold choose
  split <;> rfl

theorem isTree_choose (name : String) : (choose ⟨rule.name, verbose⟩ name).1.isTree = false := by
  unfold choose
  split <;> exact Reply.isTree_eq_false nofun

/-- The answers to a line in a verbose session and in one that is not, where a rule is active. -/
inductive InModes [Stack] (rule : Rule) (line : List Char) : Turn → Turn → Prop where
  /-- The mode is turned off in the one and on in the other. -/
  | turned (h : isToggle line = true) : InModes rule line ⟨[.mode false], []⟩ ⟨[.mode true], []⟩
  /-- What is read is shown as a tree in the verbose one alone. -/
  | tree {text rest : List Char} {value : Expr} {more : List Reply} (records : List Record)
      (ht : isToggle line = false) (h : Command.ofLine line = .read text)
      (hread : (rule.parse text).outcome = .ok (.success value rest))
      (hmore : ∀ reply ∈ more, reply.isTree = false) :
      InModes rule line ⟨.value value :: .tree value :: more, records⟩
        ⟨.value value :: more, records⟩
  /-- Nothing is read, and both answer the same, without a tree. -/
  | alike {turn : Turn} (ht : isToggle line = false)
      (h : ∀ text, Command.ofLine line = .read text →
        ∃ why, (rule.parse text).outcome = .ok (.failure why))
      (hturn : ∀ reply ∈ turn.replies, reply.isTree = false) :
      InModes rule line turn turn

section OnStack

variable [Stack]

/-- **One line.**  The mode decides on the tree alone. -/
theorem inModes_answerTo (h : isLast line = false) :
    InModes rule line (answerTo rule true (trim line)) (answerTo rule false (trim line)) := by
  show InModes rule line (perform ⟨rule.name, true⟩ (Command.ofLine line)).1
    (perform ⟨rule.name, false⟩ (Command.ofLine line)).1
  have asks := asks_ofLine line
  generalize hc : Command.ofLine line = command at asks
  have notRead : (∀ text, command ≠ .read text) → ∀ text, Command.ofLine line = .read text →
      ∃ why, (rule.parse text).outcome = .ok (.failure why) := by
    intro hne text hread
    exact absurd (hc.symm.trans hread) (hne text)
  cases asks with
  | quit hlast => rw [h] at hlast; cases hlast
  | skip hskip => exact .alike (isToggle_of_skip hskip) (notRead nofun) nofun
  | toggle ht => exact .turned ht
  | tellRule _ ht =>
      refine .alike ht (notRead nofun) fun reply hreply => ?_
      cases List.mem_singleton.mp hreply
      exact Reply.isTree_eq_false nofun
  | useRule _ _ ht =>
      simp only [perform]
      rw [choose_reply rule true _ false]
      refine .alike ht (notRead nofun) fun reply hreply => ?_
      cases List.mem_singleton.mp hreply
      exact isTree_choose rule false _
  | read _ ht =>
      simp only [perform]
      obtain ⟨result, hread⟩ := rule.exists_outcome_parse (trim line)
      cases result with
      | failure why =>
          rw [answer_of_failure rule _ hread, answer_of_failure rule _ hread]
          refine .alike ht (fun text htext => ?_) fun reply hreply => ?_
          · cases hc.symm.trans htext
            exact ⟨why, hread⟩
          · cases List.mem_singleton.mp hreply
            exact Reply.isTree_eq_false nofun
      | success value rest =>
          rw [answer_of_success rule _ hread, answer_of_success rule _ hread]
          exact .tree _ ht hc hread isTree_leftOver

/-- Where the mode is not turned, the answers are the same without the trees, of which the silent
one has none. -/
theorem InModes.withoutTrees_eq {loud silent : Turn} (h : InModes rule line loud silent)
    (ht : isToggle line = false) :
    loud.withoutTrees = silent ∧ silent.withoutTrees = silent := by
  cases h with
  | turned h => rw [ht] at h; cases h
  | @tree text rest value more records _ _ hread hmore =>
      have hvalue : (Reply.value value).isTree = false := Reply.isTree_eq_false nofun
      have htree : (Reply.tree value).isTree = true := Reply.isTree_iff.mpr ⟨value, rfl⟩
      have hfilter : more.filter (fun reply => !reply.isTree) = more := by
        rw [List.filter_eq_self]
        intro reply hreply
        simp [hmore reply hreply]
      constructor
      · simp [Turn.withoutTrees, hvalue, htree, hfilter]
      · simp [Turn.withoutTrees, hvalue, hfilter]
  | alike _ _ hturn =>
      have hself := Turn.withoutTrees_eq_self hturn
      exact ⟨hself, hself⟩

/-- Where the mode is not turned, an answer without its trees is that of a silent session. -/
theorem withoutTrees_answerTo (h : isLast line = false) (ht : isToggle line = false) :
    (answerTo rule verbose (trim line)).withoutTrees = answerTo rule false (trim line) := by
  obtain ⟨hloud, hsilent⟩ := (inModes_answerTo rule h).withoutTrees_eq rule ht
  cases verbose with
  | true => exact hloud
  | false => exact hsilent

end OnStack

end Line

/-! ### Whole sessions -/

section Session

variable (rule : Rule) (verbose : Bool) {line : List Char}

theorem isToggle_of_isLast (h : isLast line = true) : isToggle line = false := by
  rw [isToggle]
  rcases isLast_iff.mp h with hline | hline
  · rw [hline]; decide
  · rw [hline]; decide

theorem withoutTrees_ending (lines : List (List Char)) :
    (ending lines).withoutTrees = ending lines := by
  refine Turn.withoutTrees_singleton fun e he => ?_
  split at he <;> cases he

theorem withoutToggles_nil (lines : List (List Char)) : withoutToggles lines [] = [] := by
  cases lines <;> rfl

theorem withoutToggles_of_isToggle (h : isToggle line = true) (lines : List (List Char))
    (turn : Turn) (turns : List Turn) :
    withoutToggles (line :: lines) (turn :: turns) = withoutToggles lines turns := if_pos h

theorem withoutToggles_of_not_isToggle (h : isToggle line = false) (lines : List (List Char))
    (turn : Turn) (turns : List Turn) :
    withoutToggles (line :: lines) (turn :: turns) = turn :: withoutToggles lines turns :=
  if_neg (by simp [h])

/-- Sessions that begin in opposite modes stay in opposite modes. -/
theorem isVerbose_not (lines : List (List Char)) :
    isVerbose (!verbose) lines = !isVerbose verbose lines := by
  rw [isVerbose, isVerbose, ← Function.iterate_succ_apply, Function.iterate_succ_apply']

section OnStack

variable [Stack]

/-- **Silence.**  Without the trees, and without the answers to the lines that turn the mode, a
session is the silent one on the other lines. -/
theorem talk_withoutTrees (lines : List (List Char)) :
    (withoutToggles lines (talk ⟨rule.name, verbose⟩ (lines.map .line))).map Turn.withoutTrees =
      talk ⟨rule.name, false⟩ ((lines.filter fun line => !isToggle line).map .line) := by
  induction lines generalizing rule verbose with
  | nil => exact congrArg (fun turn => [turn]) (withoutTrees_ending [])
  | cons line lines ih =>
      cases hl : isLast line with
      | true =>
          have ht := isToggle_of_isLast hl
          have hturn : (⟨[.farewell], []⟩ : Turn).withoutTrees = ⟨[.farewell], []⟩ :=
            Turn.withoutTrees_singleton nofun
          rw [List.filter_cons_of_pos (by simp [ht]), List.map_cons, List.map_cons,
            talk_of_isLast _ hl, talk_of_isLast _ hl, withoutToggles_of_not_isToggle ht,
            withoutToggles_nil, List.map_singleton, hturn]
      | false =>
          rw [List.map_cons, talk_cons rule verbose hl]
          cases ht : isToggle line with
          | true =>
              -- such a line chooses no rule
              rw [withoutToggles_of_isToggle ht, ih, chosenRule?_of_isToggle ht,
                List.filter_cons_of_neg (by simp [ht])]
              rfl
          | false =>
              rw [withoutToggles_of_not_isToggle ht, List.map_cons, ih,
                withoutTrees_answerTo rule verbose hl ht, List.filter_cons_of_pos (by simp [ht]),
                List.map_cons, talk_cons rule false hl, ht]
              rfl

theorem getElem?_answers {lines : List (List Char)} {i : Nat} (h : lines[i]? = some line) :
    (answers rule verbose lines)[i]? =
      some (answerTo (activeRule rule (lines.take i)) (isVerbose verbose (lines.take i))
        (trim line)) := by
  rw [answers, List.getElem?_mapIdx, h]
  rfl

/-- **Both modes.**  Without the trees, and without the answers to the lines that turn the mode, the
output of a session is that of the silent session on the other lines.  Two sessions that begin in
opposite modes answer every line alike, but that what is read is shown as a tree in the one that is
verbose there, and that the mode is turned off in that one where it is turned on in the other. -/
theorem talk_in_both_modes (lines : List (List Char)) :
    let start : Dialogue := ⟨rule.name, verbose⟩
    let opposite : Dialogue := ⟨rule.name, !verbose⟩
    let silent : Dialogue := ⟨rule.name, false⟩
    let kept := (withoutToggles lines (start.talk (lines.map .line))).map Turn.withoutTrees
    let others := (lines.filter fun line => !isToggle line).map Input.line
    let heard := answered lines
    kept = silent.talk others ∧
    silent.transcript others = (start.greeting ++ prompt) :: chunks kept ∧
    ∃ turns opposites,
      start.talk (lines.map .line) = turns ++ [ending lines] ∧
      opposite.talk (lines.map .line) = opposites ++ [ending lines] ∧
      turns.length = heard.length ∧ opposites.length = heard.length ∧
      ∀ i line, heard[i]? = some line → ∃ turn other,
        turns[i]? = some turn ∧ opposites[i]? = some other ∧
        if isVerbose verbose (heard.take i) then
          InModes (activeRule rule (heard.take i)) line turn other
        else InModes (activeRule rule (heard.take i)) line other turn := by
  intro start opposite silent kept others heard
  have hkept : kept = silent.talk others := talk_withoutTrees rule verbose lines
  refine ⟨hkept, ?_, answers rule verbose heard, answers rule (!verbose) heard,
    talk_map_line rule verbose lines, talk_map_line rule (!verbose) lines, List.length_mapIdx,
    List.length_mapIdx, fun i line hi => ?_⟩
  · rw [hkept]
    rfl
  · have hl : isLast line = false := isLast_of_mem_answered line (List.mem_of_getElem? hi)
    refine ⟨_, _, getElem?_answers rule verbose hi, getElem?_answers rule (!verbose) hi, ?_⟩
    rw [isVerbose_not]
    have hmodes := inModes_answerTo (activeRule rule (heard.take i)) hl
    cases isVerbose verbose (heard.take i) with
    | true => exact hmodes
    | false => exact hmodes

end OnStack

end Session

/-- A session that is made verbose and silent again, with a rule chosen in between. -/
theorem talk_in_both_modes_script :
    let lines := ["7".toList, "Verbose-Mode".toList, "rule term".toList, "a*b-c".toList,
      "verbose-mode ".toList, "1".toList]
    (withoutToggles lines (talk ⟨"expr", false⟩ (lines.map .line))).map Turn.withoutTrees =
      talk ⟨"expr", false⟩
        (["7".toList, "rule term".toList, "a*b-c".toList, "1".toList].map .line) ∧
    (answered lines)[3]? = some "a*b-c".toList ∧
    ∃ turn other, (talk ⟨"expr", false⟩ (lines.map .line))[3]? = some turn ∧
      (talk ⟨"expr", true⟩ (lines.map .line))[3]? = some other ∧
      InModes .term "a*b-c".toList turn other := by
  intro lines
  obtain ⟨hkept, -, turns, others, hturns, hothers, hlength, hlength', hmodes⟩ :=
    talk_in_both_modes .expr false lines
  have hheard : (answered lines)[3]? = some "a*b-c".toList := by decide +kernel
  have hlong : 3 < (answered lines).length := by decide +kernel
  have hrule : activeRule .expr ((answered lines).take 3) = .term := by decide +kernel
  have hverbose : isVerbose false ((answered lines).take 3) = true := by decide +kernel
  have hothersLines : (lines.filter fun line => !isToggle line) =
      ["7".toList, "rule term".toList, "a*b-c".toList, "1".toList] := by decide +kernel
  obtain ⟨turn, other, hturn, hother, h⟩ := hmodes 3 _ hheard
  rw [hverbose, if_pos rfl, hrule] at h
  rw [hothersLines] at hkept
  refine ⟨hkept, hheard, turn, other, ?_, ?_, h⟩
  · exact (congrArg (·[3]?) hturns).trans
      ((List.getElem?_append_left (hlength ▸ hlong)).trans hturn)
  · exact (congrArg (·[3]?) hothers).trans
      ((List.getElem?_append_left (hlength' ▸ hlong)).trans hother)

end Dialogue

end FlatExpr
