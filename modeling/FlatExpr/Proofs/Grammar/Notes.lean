import FlatExpr.Proofs.Grammar.Failure
import FlatExpr.Proofs.Tree

/-!
# Grammar — Notes

What is noted while a rule reads a text, said by the result alone.

* `core`: an expression without the assignments around it; `links`: the operations of a chain in
  the order of the text, each with the operand on its right; `innermost`: the first of them with
  both its operands.
* `joinAll_innermost`: the other links joined onto the innermost operation give back the chain.
* `Rule.noteOn`: nothing is noted but that a text was given up as nested too deeply, or how the
  chain that was read is joined.
* `Rule.history_parse`: that is the whole history.  What is tried in vain leaves no note behind: a
  chain is noted only where it succeeds, and then nothing else is tried.
* `Rule.parse_eq_or_of_room_le`: hence less room changes nothing but that what needs the room is
  given up.
-/

namespace FlatExpr
open Text

/-! ### Chains taken apart -/

/-- An expression without the assignments around it. -/
def core : Expr → Expr
  | .assign _ value => core value
  | e => e

/-- The operations of a chain, from left to right: the operator and the operand on its right. -/
def links : Expr → List (Expr × Expr)
  | .binary symbol left right => links left ++ [(.operator symbol, right)]
  | _ => []

/-- The leftmost operation of a chain. -/
def innermost : Expr → Expr
  | .binary symbol left right =>
      if (links left).isEmpty then .binary symbol left right else innermost left
  | e => e

theorem links_binary_ne_nil (symbol : String) (left right : Expr) :
    links (.binary symbol left right) ≠ [] := by
  simp [links]

theorem innermost_binary_of_ne_nil {symbol : String} {left right : Expr} (h : links left ≠ []) :
    innermost (.binary symbol left right) = innermost left := by
  rw [innermost, if_neg (by simpa using h)]

/-- The other links joined onto the innermost operation give back the chain. -/
theorem joinAll_innermost {e : Expr} (h : links e ≠ []) :
    Grammar.joinAll (innermost e) (links e).tail = .ok e := by
  induction e with
  | binary symbol left right ih _ =>
      by_cases hl : links left = []
      · rw [innermost, links, hl]
        rfl
      · rw [innermost_binary_of_ne_nil hl, links, List.tail_append_of_ne_nil hl, Grammar.joinAll,
          List.foldlM_append]
        have hleft : Grammar.joinAll (innermost left) (links left).tail = .ok left := ih hl
        rw [Grammar.joinAll] at hleft
        rw [hleft]
        rfl
  | _ => exact absurd rfl h

example : innermost (.binary "*" (.binary "+" (.name "a") (.number 1)) (.name "b")) =
      .binary "+" (.name "a") (.number 1) ∧
    (links (.binary "*" (.binary "+" (.name "a") (.number 1)) (.name "b"))).tail =
      [(.operator "*", .name "b")] := by decide

theorem links_joined (first : Expr) (more : List (String × Expr)) :
    links (joined first more) = links first ++ more.map Grammar.asNodes := by
  induction more generalizing first with
  | nil => exact (List.append_nil _).symm
  | cons operation more ih =>
      rw [joined, List.foldl_cons, ← joined, ih, links, List.append_assoc]
      rfl

/-- Joining more operations onto an operation does not change the innermost one. -/
theorem innermost_joined {first : Expr} (h : links first ≠ []) (more : List (String × Expr)) :
    innermost (joined first more) = innermost first := by
  induction more generalizing first with
  | nil => rfl
  | cons operation more ih =>
      rw [joined, List.foldl_cons, ← joined, ih (links_binary_ne_nil _ _ _),
        innermost_binary_of_ne_nil h]

theorem links_operand (text : List Char) : links (operand text).1 = [] := by
  rcases operand_eq_or text with ⟨-, -, h⟩ | ⟨-, h⟩ <;> rw [h] <;> rfl

theorem core_of_isChain {e : Expr} (h : IsChain e) : core e = e := by
  cases h with
  | operand h => cases h <;> rfl
  | binary => rfl

/-- What the assignments of a reading are around. -/
theorem core_reading (text : List Char) :
    core (reading text).1 = (chainFrom (operand (body text))).1 := by
  induction text using body.induct with
  | case1 text rest h ih => rw [reading_of_assigned h, body_of_assigned h, core, ih]
  | case2 text h =>
      rw [reading_of_not_assigned h, body_of_not_assigned h]
      exact core_of_isChain (isChain_chainFrom (.operand (isOperand_operand text)) _)

/-! ### Notes -/

/-- The note on how a chain of two or more operations is joined. -/
def foldNote (e : Expr) : Option Note :=
  if 2 ≤ (links e).length then some (.folded (innermost e) (links e).tail) else none

/-- What is noticed where a chain is read is the note on it. -/
theorem chainNotes_eq (text : List Char) :
    Grammar.chainNotes text =
      (foldNote (chainFrom (operand text)).1).toList.map .noted := by
  rw [Grammar.chainNotes, chainFrom, foldNote, links_joined, links_operand]
  cases h : (operations (operand text).2).1 with
  | nil => rfl
  | cons operation more =>
      obtain ⟨symbol, right⟩ := operation
      cases more with
      | nil => rfl
      | cons next more =>
          have hfirst : innermost (joined (operand text).1 ((symbol, right) :: next :: more)) =
              .binary symbol (operand text).1 right := by
            rw [joined, List.foldl_cons, ← joined,
              innermost_joined (links_binary_ne_nil _ _ _), innermost, links_operand]
            rfl
          rw [hfirst, if_pos (by simp)]
          rfl

namespace Rule

/-- The note on a result. -/
def noteOn (rule : Rule) (text : List Char) : Result Expr → Option Note
  | .success value _ => if rule = .expr ∨ rule = .assignment then foldNote (core value) else none
  | .failure .nestedTooDeeply => some (.gaveUp text.length)
  | .failure _ => none

theorem noteOn_wanting {rule : Rule} {text behind : List Char} {p : Char → Bool} {wanted : String}
    {next : Char → List Char → Result Expr} (h : ∀ c rest, rule.noteOn text (next c rest) = none) :
    rule.noteOn text (wanting p wanted next behind) = none := by
  cases behind with
  | nil => rfl
  | cons c rest =>
      rw [wanting]
      split
      · exact h c rest
      · rfl

/-- The message for a lacking character differs from that for deep nesting in its first word. -/
theorem not_lacks_deep {p : Char → Bool} {wanted : String} {text : List Char} :
    ¬ Lacks p wanted text Complaint.nestedTooDeeply.message := by
  generalize hm : Complaint.nestedTooDeeply.message = message
  intro h
  cases h with
  | nothing => exact absurd hm (by decide)
  | other h =>
      have hlength : 17 < "Parsing failure, got ".toList.length := by decide +kernel
      have hchar := congrArg (fun message => message.toList[17]?) hm
      simp only [String.toList_append, List.append_assoc,
        List.getElem?_append_left hlength] at hchar
      exact absurd hchar (by decide +kernel)

section OnStack

variable [Stack]

/-- A rule is quiet, without a note on its answer, or it reads a text as an expression. -/
theorem read_eq_or (rule : Rule) (text : List Char) :
    (rule.read text = .pure (rule.answer text) ∧ rule.noteOn text (rule.answer text) = none) ∨
      ((rule = .expr ∨ rule = .assignment) ∧
        rule.read text = Grammar.readingWithin (Stack.room rule text) text) := by
  cases rule with
  | number =>
      refine .inl ⟨read_eq_pure (by decide) (by decide) text, noteOn_wanting fun c rest => ?_⟩
      split <;> rfl
  | «variable» => exact .inl ⟨read_eq_pure (by decide) (by decide) text, rfl⟩
  | operator =>
      exact .inl ⟨read_eq_pure (by decide) (by decide) text, noteOn_wanting fun _ _ => rfl⟩
  | factor => exact .inl ⟨read_eq_pure (by decide) (by decide) text, rfl⟩
  | term => exact .inl ⟨read_eq_pure (by decide) (by decide) text, noteOn_wanting fun _ _ => rfl⟩
  | assignment =>
      cases h : assigned? text with
      | some rest =>
          exact .inr ⟨.inr rfl, Grammar.read_assignment_of_assigned _ h⟩
      | none =>
          have hread := readWithin_assignment_of_not_assigned (Stack.room assignment text) h
          refine .inl ⟨hread, ?_⟩
          rw [answer_assignment_of_not_assigned h]
          cases text.dropWhile isNameChar <;> rfl
  | expr => exact .inr ⟨.inl rfl, Grammar.read_expr _ text⟩

/-- **Notes.**  The history of a run is the note on its result. -/
theorem history_parse {rule : Rule} {text : List Char} {result : Result Expr}
    (h : (rule.parse text).outcome = .ok result) :
    (rule.parse text).history = (rule.noteOn text result).toList.map .noted := by
  rcases read_eq_or rule text with ⟨hread, hnote⟩ | ⟨hrule, hread⟩
  · have hparse : rule.parse text = .pure (rule.answer text) := by
      rw [parse, hread]
      rfl
    rw [hparse] at h ⊢
    cases h
    rw [hnote]
    rfl
  · by_cases few : nesting text ≤ Stack.room rule text
    · have hparse : rule.parse text =
          ⟨Grammar.chainNotes (body text),
            .ok (.success (reading text).1 (reading text).2)⟩ := by
        rw [parse, hread, Grammar.readingWithin, if_pos few]
      rw [hparse] at h ⊢
      cases h
      rw [noteOn, if_pos hrule, core_reading]
      exact chainNotes_eq _
    · have hparse : rule.parse text =
          ⟨[.noted (.gaveUp text.length)], .ok (.failure .nestedTooDeeply)⟩ := by
        rw [parse, hread, Grammar.readingWithin, if_neg few]
        rfl
      rw [hparse] at h ⊢
      cases h
      rfl

/-! ### The failure for deep nesting -/

/-- Only what is nested too deeply is refused with the message that says so. -/
theorem lt_depth_of_refused_deep {rule : Rule} {text : List Char}
    (h : Refused rule text Complaint.nestedTooDeeply.message) :
    Stack.room rule text < rule.depth text := by
  generalize hm : Complaint.nestedTooDeeply.message = message at h
  cases h with
  | number h | operator h | term h | assignment h => exact absurd (hm ▸ h) not_lacks_deep
  | long => exact absurd hm (by decide)
  | assignmentDeep deep => exact deep
  | exprDeep deep => exact deep

/-- No other failure of a rule has the message of the one for deep nesting. -/
theorem eq_deep_of_failsWith {rule : Rule} {text : List Char} {result : Result Expr}
    (h : (rule.parse text).outcome = .ok result)
    (hfails : result.FailsWith Complaint.nestedTooDeeply.message) :
    result = .failure .nestedTooDeeply := by
  rw [outcome_parse] at h
  split at h
  · next few =>
      cases h
      have hrefused := (answer_failsWith_iff few _).mp hfails
      exact absurd (lt_depth_of_refused_deep hrefused) (Nat.not_lt.mpr few)
  · exact (Except.ok.inj h).symm

end OnStack

/-! ### Two stacks -/

section TwoStacks

variable {stack other : Stack} {rule : Rule} {text : List Char}

/-- A text is read alike on two stacks if the outcome is the same. -/
theorem parse_eq_of_outcome_eq
    (h : (@parse other rule text).outcome = (@parse stack rule text).outcome) :
    @parse other rule text = @parse stack rule text := by
  obtain ⟨result, hresult⟩ := @exists_outcome_parse stack rule text
  refine Run.ext ?_ h
  rw [@history_parse stack _ _ _ hresult, @history_parse other _ _ _ (h.trans hresult)]

/-- On a stack with less room a text is read alike, unless the room that is lacking there is needed
for it. -/
theorem parse_eq_or_of_room_le (h : other.room rule text ≤ stack.room rule text) :
    @parse other rule text = @parse stack rule text ∨
      (other.room rule text < rule.depth text ∧ rule.depth text ≤ stack.room rule text) := by
  by_cases few : rule.depth text ≤ other.room rule text
  · refine .inl (parse_eq_of_outcome_eq ?_)
    rw [@outcome_parse_of_le other _ _ few, @outcome_parse_of_le stack _ _ (few.trans h)]
  · by_cases room : rule.depth text ≤ stack.room rule text
    · exact .inr ⟨Nat.lt_of_not_le few, room⟩
    · refine .inl (parse_eq_of_outcome_eq ?_)
      rw [@outcome_parse other, @outcome_parse stack, if_neg few, if_neg room]

end TwoStacks

end Rule

end FlatExpr
