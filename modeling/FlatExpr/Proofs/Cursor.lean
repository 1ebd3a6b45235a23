import FlatExpr.Cursor
import FlatExpr.Proofs.Suffix
import FlatExpr.Stack.Calls

/-!
# Cursor — moves over a text

Reading a text move by move takes pieces off its front, and nothing else happens to it.

* `Cursor.position`: where the cursor stands behind some moves; `Cursor.pieces`: what each of them
  took off the text.
* `Cursor.after_suffix`: one move leaves a suffix of the text, whatever comes of it;
  `Cursor.position_suffix`: so do any number of them.
* `Cursor.remainders_are_suffixes`: no parser whose leaves leave suffixes leaves anything else; so
  behind any moves the cursor stands on a suffix of where it stood before, and the pieces and the
  text at the cursor are the text that it started on.
-/

namespace FlatExpr.Cursor

variable {text rest : List Char} {value : Value}

theorem suffix_of_map {α : Type} {r : Run (Result α)} (h : r.LeavesSuffix text) {f : α → Value}
    (heq : (r.outcome.map fun result => result.map f) = .ok (.success value rest)) :
    rest <:+ text := by
  obtain ⟨result, hresult, hmap⟩ := exists_of_map_eq_ok heq
  cases result with
  | success a left =>
      cases hmap
      exact h hresult
  | failure why => cases hmap

section OnStack

variable [Stack]

/-- Where the cursor stands behind some moves. -/
def position (text : List Char) (moves : List Move) : List Char :=
  (follow text (moves.map .attempt)).2

/-- What a move takes off the text: as much as is missing behind it. -/
def taken (text : List Char) (move : Move) : List Char :=
  text.take (text.length - (after text (answer text move)).length)

/-- What some moves take off the text, piece by piece. -/
def pieces (text : List Char) : List Move → List (List Char)
  | [] => []
  | move :: more => taken text move :: pieces (after text (answer text move)) more

/-! ### One move -/

theorem leavesSuffix_parseByName (name : String) (text : List Char) :
    (parseByName name text).LeavesSuffix text := by
  unfold parseByName
  split
  · exact Rule.leavesSuffix_parse _ text
  · exact .stop

theorem answer_suffix {move : Move} (h : answer text move = .ok (.success value rest)) :
    rest <:+ text := by
  have character : ∀ {p}, p.LeavesSuffix → readCharacter p text = .ok (.success value rest) →
      rest <:+ text := fun hp =>
    suffix_of_map (hp.read Grammar.leavesSuffix_resolve 0 text)
  cases move with
  | rule name => exact suffix_of_map (leavesSuffix_parseByName name text) h
  | character chars =>
      rw [answer] at h
      split at h
      · next hp => exact character (Grammar.leavesSuffix_of_characterOf hp) h
      · cases h
  | primitive which => exact character (Grammar.leavesSuffix_ofPrimitive which) h

/-- **One move** leaves a suffix of the text: what is left over, or all of it. -/
theorem after_suffix (text : List Char) (move : Move) :
    after text (answer text move) <:+ text := by
  unfold after
  split
  · next h => exact answer_suffix h
  · exact List.suffix_rfl

theorem taken_append (text : List Char) (move : Move) :
    taken text move ++ after text (answer text move) = text :=
  List.suffix_iff_eq_append.mp (after_suffix text move)

/-! ### Many moves -/

theorem position_cons (text : List Char) (move : Move) (more : List Move) :
    position text (move :: more) = position (after text (answer text move)) more := rfl

theorem position_append (text : List Char) (earlier later : List Move) :
    position text (earlier ++ later) = position (position text earlier) later := by
  induction earlier generalizing text with
  | nil => rfl
  | cons move earlier ih => rw [List.cons_append, position_cons, position_cons, ih]

/-- **Moves** leave a suffix of the text. -/
theorem position_suffix (text : List Char) (moves : List Move) : position text moves <:+ text := by
  induction moves generalizing text with
  | nil => exact List.suffix_rfl
  | cons move more ih => exact (ih _).trans (after_suffix text move)

/-- The pieces and the text at the cursor are the whole text. -/
theorem flatten_pieces_append (text : List Char) (moves : List Move) :
    (pieces text moves).flatten ++ position text moves = text := by
  induction moves generalizing text with
  | nil => rfl
  | cons move more ih =>
      rw [pieces, List.flatten_cons, List.append_assoc, position_cons, ih, taken_append]

/-- **Suffixes.**  However deep the references of a parser are followed, what it leaves over is a
suffix of its text if that is so of its leaves and of those of everything it refers to; every rule
of the grammar leaves suffixes.  So behind any moves the cursor stands on a suffix of where it
stood before them; and the pieces they took and the text at the cursor are the text at the start. -/
theorem remainders_are_suffixes :
    (∀ (ρ : Type → Type) (resolve : Resolver ρ), resolve.LeavesSuffix →
      ∀ (depth : Nat) (α : Type) (p : Parser ρ α), p.LeavesSuffix →
      ∀ text value rest, (p.read resolve depth text).outcome = .ok (.success value rest) →
        rest <:+ text) ∧
    (∀ (rule : Rule) text value rest, (rule.parse text).outcome = .ok (.success value rest) →
      rest <:+ text) ∧
    (∀ start earlier later, position start (earlier ++ later) <:+ position start earlier) ∧
    (∀ start moves, position start moves <:+ start ∧
      (pieces start moves).flatten ++ position start moves = start) := by
  refine ⟨fun ρ resolve hresolve depth α p hp text value rest h => ?_,
    fun rule text value rest h => ?_, fun start earlier later => ?_, fun start moves => ?_⟩
  · exact hp.read hresolve depth text h
  · exact rule.leavesSuffix_parse text h
  · rw [position_append]
    exact position_suffix _ later
  · exact ⟨position_suffix start moves, flatten_pieces_append start moves⟩

end OnStack

/-- A parser that refers to itself, and a session with moves that fail or are refused. -/
theorem remainders_are_suffixes_nested :
    let moves := [.primitive .letter, .rule "operator", .rule "nothing", .character "==".toList,
      .character "=".toList, .rule "expr", .rule "number"]
    "=3".toList <:+ "a=b+c=3".toList ∧ position "a=b+c=3".toList moves = "=3".toList ∧
      (pieces "a=b+c=3".toList moves).flatten ++ "=3".toList = "a=b+c=3".toList := by
  intro moves
  obtain ⟨hparser, -, -, hmoves⟩ := remainders_are_suffixes
  have hread : ((Grammar.expr .expr).read Grammar.resolve 1 "a=b+c=3".toList).outcome =
      .ok (.success (.assign "a" (.binary "+" (.name "b") (.name "c"))) "=3".toList) := by
    decide +kernel
  have hposition : position "a=b+c=3".toList moves = "=3".toList := by decide +kernel
  refine ⟨?_, hposition, hposition ▸ (hmoves _ moves).2⟩
  exact hparser _ Grammar.resolve Grammar.leavesSuffix_resolve 1 _ _
    (Grammar.leavesSuffix_expr _) _ _ _ hread

end FlatExpr.Cursor
