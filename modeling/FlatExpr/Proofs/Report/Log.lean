import FlatExpr.Proofs.Grammar.Notes
import FlatExpr.Proofs.Report

/-!
# Report — Log

What a report logs, read off the result: the text and the rule; then the note on the result, if
there is one; then what is left over, if anything is.  How the report is laid out does not matter.

* `TakenApart`: a chain as its innermost operation and the operations behind it.
* `Request.records_eq`: the records are those three, and no others.
* `Request.report_records`: when each of them is there, and what it says.
-/

namespace FlatExpr

/-- A chain is its innermost operation with some more joined onto it, in the order of the text. -/
structure TakenApart (e first : Expr) (more : List (Expr × Expr)) : Prop where
  first_eq : first = innermost e
  more_eq : more = (links e).tail
  length_eq : more.length = (links e).length - 1
  joined : Grammar.joinAll first more = .ok e

/-- Every chain is taken apart in one way. -/
theorem takenApart_iff {e first : Expr} {more : List (Expr × Expr)} (h : 2 ≤ (links e).length) :
    TakenApart e first more ↔ first = innermost e ∧ more = (links e).tail := by
  constructor
  · exact fun apart => ⟨apart.first_eq, apart.more_eq⟩
  · rintro ⟨rfl, rfl⟩
    have hne : links e ≠ [] := by
      intro hnil
      rw [hnil] at h
      cases h
    exact ⟨rfl, rfl, List.length_tail, joinAll_innermost hne⟩

theorem foldNote_eq_some_iff {e first : Expr} {more : List (Expr × Expr)} :
    foldNote e = some (.folded first more) ↔ 2 ≤ (links e).length ∧ TakenApart e first more := by
  rw [foldNote]
  by_cases h : 2 ≤ (links e).length
  · rw [if_pos h, and_iff_right h, takenApart_iff h, Option.some.injEq, Note.folded.injEq,
      eq_comm, @eq_comm _ more]
  · rw [if_neg h]
    constructor
    · intro hnote
      cases hnote
    · exact fun hp => absurd hp.1 h

/-- A note on how a chain is joined is no note that a text was given up. -/
theorem foldNote_ne_gaveUp (e : Expr) (length : Nat) : foldNote e ≠ some (.gaveUp length) := by
  intro h
  rw [foldNote] at h
  split at h <;> cases h

namespace Rule

variable {rule : Rule} {text : List Char} {result : Result Expr}

theorem noteOn_eq_folded_iff {first : Expr} {more : List (Expr × Expr)} :
    rule.noteOn text result = some (.folded first more) ↔
      (rule = .expr ∨ rule = .assignment) ∧ ∃ value rest, result = .success value rest ∧
        2 ≤ (links (core value)).length ∧ TakenApart (core value) first more := by
  constructor
  · intro h
    cases result with
    | success value rest =>
        rw [noteOn] at h
        split at h
        · next hrule => exact ⟨hrule, value, rest, rfl, foldNote_eq_some_iff.mp h⟩
        · cases h
    | failure why => cases why <;> cases h
  · rintro ⟨hrule, value, rest, rfl, h⟩
    rw [noteOn, if_pos hrule]
    exact foldNote_eq_some_iff.mpr h

theorem noteOn_eq_gaveUp_iff [Stack] (h : (rule.parse text).outcome = .ok result) {length : Nat} :
    rule.noteOn text result = some (.gaveUp length) ↔
      result.FailsWith Complaint.nestedTooDeeply.message ∧ length = text.length := by
  constructor
  · intro hnote
    cases result with
    | success value rest =>
        rw [noteOn] at hnote
        split at hnote
        · exact absurd hnote (foldNote_ne_gaveUp _ _)
        · cases hnote
    | failure why =>
        cases why with
        | nestedTooDeeply =>
            cases hnote
            exact ⟨⟨_, rfl, rfl⟩, rfl⟩
        | _ => cases hnote
  · rintro ⟨hfails, rfl⟩
    rw [eq_deep_of_failsWith h hfails]
    rfl

end Rule

namespace Request

theorem leftOver?_eq_some_iff {result : Result Expr} {rest : List Char} :
    leftOver? result = some rest ↔ rest ≠ [] ∧ ∃ value, result = .success value rest := by
  constructor
  · intro h
    unfold leftOver? at h
    split at h
    · cases h
    · next hne => cases h; exact ⟨hne, _, rfl⟩
    · cases h
  · rintro ⟨hne, value, rfl⟩
    cases rest with
    | nil => exact absurd rfl hne
    | cons c rest => rfl

theorem ofHistory_map_noted (notes : List Note) :
    Record.ofHistory (notes.map .noted) = notes.map .noted := by
  rw [Record.ofHistory, List.filterMap_map, ← List.filterMap_eq_map]
  rfl

variable [Stack]

/-- **Records.**  A report logs the text and the rule, the note on the result, and what is left
over: nothing else. -/
theorem records_eq (request : Request) {rule : Rule} {result : Result Expr}
    (hrule : request.rule = rule.name)
    (h : (rule.parse request.source.toList).outcome = .ok result) :
    Output.records request.report.outputs =
      .parsing request.source.toList request.rule ::
        ((rule.noteOn request.source.toList result).toList.map .noted ++
          (leftOver? result).toList.map .leftOver) := by
  have hlogged : request.logged rule = .parsing request.source.toList request.rule ::
      (rule.noteOn request.source.toList result).toList.map .noted := by
    rw [logged, Rule.history_parse h, ofHistory_map_noted]
  cases result with
  | success value rest =>
      have hrecords := congrArg Seen.records (seen_of_success hrule h)
      rw [hlogged] at hrecords
      exact hrecords
  | failure why =>
      have hrecords := congrArg Seen.records (seen_of_failure hrule h)
      rw [hlogged] at hrecords
      rw [leftOver?, Option.toList_none, List.map_nil, List.append_nil]
      exact hrecords

/-- What is left over is logged exactly if it is not empty. -/
theorem leftOver_mem_records_iff (request : Request) {rule : Rule} {value : Expr}
    {rest left : List Char} (hrule : request.rule = rule.name)
    (h : (rule.parse request.source.toList).outcome = .ok (.success value rest)) :
    .leftOver left ∈ Output.records request.report.outputs ↔ left = rest ∧ rest ≠ [] := by
  have hleft : leftOver? (.success value rest) = some left ↔ left = rest ∧ rest ≠ [] := by
    rw [leftOver?_eq_some_iff]
    constructor
    · rintro ⟨hne, other, heq⟩
      cases heq
      exact ⟨rfl, hne⟩
    · rintro ⟨rfl, hne⟩
      exact ⟨hne, value, rfl⟩
  rw [records_eq request hrule h]
  simp [hleft]

/-- **Logs.**  Whatever the layout, a report on a rule logs that the text is read, then at most one
note, then what is left over, if that is anything; each with its level and its message.  The note
is that the text was given up, exactly where it is nested too deeply, with its length; or, exactly
where an expression or an assignment is read whose value is a chain of two or more operations
inside any assignments, how that chain is joined: its innermost operation, and the others in the
order of the text, which joined onto it give back the chain. -/
theorem report_records (rule : Rule) (source : String) (json pretty : Bool) :
    let records := Output.records (report ⟨source, rule.name, json, pretty⟩).outputs
    ∃ (result : Result Expr) (note : Option Note) (left : Option (List Char)),
      (rule.parse source.toList).outcome = .ok result ∧
      records = .parsing source.toList rule.name ::
        (note.toList.map .noted ++ left.toList.map .leftOver) ∧
      records.map (fun record => (record.level, record.message)) =
        (.debug, "parsing " ++ printed source.toList ++ " with rule " ++ printed rule.name) ::
          (note.toList.map (fun note => (.debug, Record.noteMessage note)) ++
            left.toList.map (fun rest => (.info, "unparsed remainder: " ++ printed rest))) ∧
      (∀ length, note = some (.gaveUp length) ↔
        result.FailsWith "Parsing failure, input nested too deeply" ∧ length = source.length) ∧
      (∀ first more, note = some (.folded first more) ↔
        (rule = .expr ∨ rule = .assignment) ∧ ∃ value rest, result = .success value rest ∧
          2 ≤ (links (core value)).length ∧ TakenApart (core value) first more) ∧
      (∀ rest, left = some rest ↔ rest ≠ [] ∧ ∃ value, result = .success value rest) := by
  intro records
  obtain ⟨result, h⟩ := rule.exists_outcome_parse source.toList
  have hrecords := records_eq ⟨source, rule.name, json, pretty⟩ rfl h
  refine ⟨result, rule.noteOn source.toList result, leftOver? result, h, hrecords, ?_,
    fun length => ?_, fun first more => Rule.noteOn_eq_folded_iff,
    fun rest => leftOver?_eq_some_iff⟩
  · rw [show records = _ from hrecords, List.map_cons, List.map_append, List.map_map, List.map_map]
    rfl
  · rw [Rule.noteOn_eq_gaveUp_iff h, String.length_toList]
    rfl

end Request

end FlatExpr
