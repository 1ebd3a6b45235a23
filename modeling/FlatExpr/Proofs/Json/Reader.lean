import FlatExpr.Proofs.Json.Text
import FlatExpr.Proofs.Text.Numeral

/-!
# Json — Reader

Reading JSON back.  A text is cut into tokens, with white space between them left out, and the
tokens are put together to a value, one record inside the other.

* `Json.read`: the value that a text spells, if it is JSON for an integer, a text or a record.
  Numbers with a fraction or an exponent, lists and the three words of JSON are refused.
* `Cut`: a text and its tokens; `tokens?_of_cut` says that the reader finds these.
* `value?_spelled`: the tokens that a value is written with are put together to it.
* `cut_decimal`, `cut_quoted`: an integer and a text are one token each, whatever stands behind
  them (behind an integer, no further digit).
-/

namespace FlatExpr.Json
open Text

/-! ### Tokens -/

/-- A token of a JSON text. -/
inductive Token where
  | opening | closing | colon | comma
  | int (value : Int)
  | text (value : String)
  deriving Repr, DecidableEq

/-- White space between tokens. -/
def isSpace (c : Char) : Bool := c == ' ' || c == '\t' || c == '\n' || c == '\r'

/-- The natural number that a text begins with, and what stands behind it; a number of more than
one digit does not begin with a zero. -/
def natural? (chars : List Char) : Option (Nat × List Char) :=
  match chars.takeWhile Char.isDigit with
  | [] => none
  | '0' :: _ :: _ => none
  | digits => some (positional digits, chars.dropWhile Char.isDigit)

/-- The integer that a text begins with, and what stands behind it. -/
def integer? : List Char → Option (Int × List Char)
  | '-' :: chars => (natural? chars).map fun (n, rest) => (-(n : Int), rest)
  | chars => (natural? chars).map fun (n, rest) => ((n : Int), rest)

/-- The token that a text begins with, and what stands behind it. -/
def token? : List Char → Option (Token × List Char)
  | '\x7b' :: rest => some (.opening, rest)
  | '\x7d' :: rest => some (.closing, rest)
  | ':' :: rest => some (.colon, rest)
  | ',' :: rest => some (.comma, rest)
  | '"' :: chars => (characters? chars).map fun (value, rest) => (.text (String.ofList value), rest)
  | chars => (integer? chars).map fun (value, rest) => (.int value, rest)

theorem length_lt_of_characters? {chars value rest : List Char}
    (h : characters? chars = some (value, rest)) : rest.length < chars.length := by
  induction chars using characters?.induct generalizing value with
  | case1 left =>
      rw [characters?] at h
      cases h
      exact Nat.lt_succ_self _
  | case2 chars hquote c left hc ih =>
      rw [characters?_of_character? hc] at h
      obtain ⟨⟨more, behind⟩, hmore, heq⟩ := Option.map_eq_some_iff.mp h
      cases heq
      exact (ih hmore).trans (length_lt_of_character? hc)
  | case3 chars hquote hc =>
      rw [characters?] at h
      · split at h
        · next heq => cases hc.symm.trans heq
        · cases h
      · exact hquote

theorem length_lt_of_natural? {chars rest : List Char} {n : Nat}
    (h : natural? chars = some (n, rest)) : rest.length < chars.length := by
  have hs : ¬ StopsAt Char.isDigit chars := by
    intro hs
    rw [natural?, hs.takeWhile] at h
    cases h
  obtain ⟨c, more, rfl, hc⟩ := exists_of_not_stopsAt hs
  unfold natural? at h
  split at h
  · cases h
  · cases h
  · cases h
    rw [List.dropWhile_cons_of_pos hc]
    exact Nat.lt_succ_of_le (length_dropWhile_le _ _)

theorem length_lt_of_integer? {chars rest : List Char} {value : Int}
    (h : integer? chars = some (value, rest)) : rest.length < chars.length := by
  unfold integer? at h
  split at h
  · obtain ⟨⟨n, left⟩, hn, heq⟩ := Option.map_eq_some_iff.mp h
    cases heq
    exact (length_lt_of_natural? hn).trans (Nat.lt_succ_self _)
  · obtain ⟨⟨n, left⟩, hn, heq⟩ := Option.map_eq_some_iff.mp h
    cases heq
    exact length_lt_of_natural? hn

/-- Every token takes up some of the text. -/
theorem length_lt_of_token? {chars rest : List Char} {token : Token}
    (h : token? chars = some (token, rest)) : rest.length < chars.length := by
  unfold token? at h
  split at h
  · cases h; exact Nat.lt_succ_self _
  · cases h; exact Nat.lt_succ_self _
  · cases h; exact Nat.lt_succ_self _
  · cases h; exact Nat.lt_succ_self _
  · obtain ⟨⟨value, left⟩, hvalue, heq⟩ := Option.map_eq_some_iff.mp h
    cases heq
    exact (length_lt_of_characters? hvalue).trans (Nat.lt_succ_self _)
  · obtain ⟨⟨value, left⟩, hvalue, heq⟩ := Option.map_eq_some_iff.mp h
    cases heq
    exact length_lt_of_integer? hvalue

/-- The tokens of a text. -/
def tokens? : List Char → Option (List Token)
  | [] => some []
  | c :: chars =>
      if isSpace c then tokens? chars
      else
        match _ : token? (c :: chars) with
        | some (token, rest) => (tokens? rest).map (token :: ·)
        | none => none
termination_by chars => chars.length
decreasing_by
  · exact Nat.lt_succ_self _
  · exact length_lt_of_token? ‹_›

/-- A text and its tokens, with white space in front of any of them. -/
inductive Cut : List Char → List Token → Prop where
  | ended : Cut [] []
  | space {c : Char} {chars : List Char} {tokens : List Token} (h : isSpace c = true)
      (t : Cut chars tokens) : Cut (c :: chars) tokens
  | token {chars rest : List Char} {token : Token} {tokens : List Token}
      (h : token? chars = some (token, rest)) (t : Cut rest tokens) : Cut chars (token :: tokens)

/-- No token begins with white space. -/
theorem token?_of_isSpace {c : Char} (h : isSpace c = true) (chars : List Char) :
    token? (c :: chars) = none := by
  simp only [isSpace, Bool.or_eq_true, beq_iff_eq] at h
  rcases h with ((rfl | rfl) | rfl) | rfl <;> rfl

theorem tokens?_of_cut {chars : List Char} {tokens : List Token} (h : Cut chars tokens) :
    tokens? chars = some tokens := by
  induction h with
  | ended => rw [tokens?]
  | space h _ ih => rw [tokens?, if_pos h, ih]
  | @token chars rest token tokens h _ ih =>
      cases chars with
      | nil => cases h
      | cons c chars =>
          have hc : ¬ isSpace c = true := by
            intro hc
            rw [token?_of_isSpace hc] at h
            cases h
          rw [tokens?, if_neg hc]
          split
          · next heq => cases h.symm.trans heq; rw [ih]; rfl
          · next heq => cases h.symm.trans heq

/-! ### Values -/

/-- A record that is being read: the members before, and the key whose value comes next. -/
structure Frame where
  members : List (String × Json)
  key : String

mutual

/-- The value that tokens begin with, and what comes of it inside the records of `frames`,
innermost first. -/
def value? : List Frame → List Token → Option Json
  | frames, .int value :: tokens => resume? frames (.int value) tokens
  | frames, .text value :: tokens => resume? frames (.text value) tokens
  | frames, .opening :: .closing :: tokens => resume? frames (.record []) tokens
  | frames, .opening :: .text key :: .colon :: tokens => value? (⟨[], key⟩ :: frames) tokens
  | _, _ => none

/-- What comes of a value that has been read inside the records of `frames`. -/
def resume? : List Frame → Json → List Token → Option Json
  | [], value, [] => some value
  | frame :: frames, value, .comma :: .text key :: .colon :: tokens =>
      value? (⟨frame.members ++ [(frame.key, value)], key⟩ :: frames) tokens
  | frame :: frames, value, .closing :: tokens =>
      resume? frames (.record (frame.members ++ [(frame.key, value)])) tokens
  | _, _, _ => none

end

/-- The value that a JSON text spells. -/
def read (chars : List Char) : Option Json := (tokens? chars).bind (value? [])

/-! ### The tokens of a value -/

/-- What holds of all values, if it holds of a record whenever it holds of the members. -/
@[elab_as_elim]
theorem members_induction {motive : Json → Prop} (int : ∀ value, motive (.int value))
    (text : ∀ value, motive (.text value))
    (record : ∀ members : List (String × Json), (∀ member ∈ members, motive member.2) →
      motive (.record members)) : ∀ json, motive json
  | .int value => int value
  | .text value => text value
  | .record members => record members fun member _ => members_induction int text record member.2
termination_by json => sizeOf json
decreasing_by
  have hmember := List.sizeOf_lt_of_mem ‹member ∈ members›
  obtain ⟨key, value⟩ := member
  simp only [Prod.mk.sizeOf_spec, Json.record.sizeOf_spec] at hmember ⊢
  omega

mutual

/-- The tokens that a value is written with. -/
def spelled : Json → List Token
  | .int value => [.int value]
  | .text value => [.text value]
  | .record [] => [.opening, .closing]
  | .record ((key, value) :: more) =>
      .opening :: .text key :: .colon :: (spelled value ++ (spelledBehind more ++ [.closing]))

/-- The tokens of members, each behind a comma. -/
def spelledBehind : List (String × Json) → List Token
  | [] => []
  | (key, value) :: more =>
      .comma :: .text key :: .colon :: (spelled value ++ spelledBehind more)

end

theorem resume?_spelledBehind {more : List (String × Json)}
    (h : ∀ member ∈ more, ∀ frames tokens,
      value? frames (spelled member.2 ++ tokens) = resume? frames member.2 tokens)
    (members : List (String × Json)) (key : String) (value : Json) (frames : List Frame)
    (tokens : List Token) :
    resume? (⟨members, key⟩ :: frames) value (spelledBehind more ++ .closing :: tokens) =
      resume? frames (.record (members ++ (key, value) :: more)) tokens := by
  induction more generalizing members key value with
  | nil => rw [spelledBehind, List.nil_append, resume?]
  | cons member more ih =>
      obtain ⟨next, other⟩ := member
      obtain ⟨hother, hmore⟩ := List.forall_mem_cons.mp h
      rw [spelledBehind, List.cons_append, List.cons_append, List.cons_append, resume?,
        List.append_assoc, hother, ih hmore, List.append_assoc]
      rfl

/-- **The tokens of a value** are put together to it, whatever stands behind them. -/
theorem value?_spelled (json : Json) (frames : List Frame) (tokens : List Token) :
    value? frames (spelled json ++ tokens) = resume? frames json tokens := by
  induction json using members_induction generalizing frames tokens with
  | int value => rw [spelled, List.singleton_append, value?]
  | text value => rw [spelled, List.singleton_append, value?]
  | record members ih =>
      cases members with
      | nil => rw [spelled, List.cons_append, List.singleton_append, value?]
      | cons member more =>
          obtain ⟨key, value⟩ := member
          obtain ⟨hvalue, hmore⟩ := List.forall_mem_cons.mp ih
          rw [spelled, List.cons_append, List.cons_append, List.cons_append, value?,
            List.append_assoc, List.append_assoc, List.singleton_append, hvalue,
            resume?_spelledBehind hmore]
          rfl

theorem read_of_cut {chars : List Char} {json : Json} (h : Cut chars (spelled json)) :
    read chars = some json := by
  have hvalue := value?_spelled json [] []
  rw [List.append_nil] at hvalue
  rw [read, tokens?_of_cut h, Option.bind_some, hvalue, resume?]

/-! ### Written tokens -/

section Cut

variable {rest : List Char} {tokens : List Token}

/-- Decimal digits have no zero in front. -/
theorem decimalDigits_ne_zero_cons (n : Nat) (c : Char) (more : List Char) :
    decimalDigits n ≠ '0' :: c :: more := by
  intro h
  have hn : n = positional (c :: more) := by
    rw [← positional_decimalDigits n, h]
    rfl
  have hlt : n < 10 ^ (c :: more).length := hn ▸ positional_lt (c :: more)
  have hle := (length_decimalDigits_le_iff (Nat.succ_pos more.length)).mpr hlt
  rw [h] at hle
  exact absurd hle (Nat.not_succ_le_self _)

theorem natural?_decimalDigits (n : Nat) (hr : StopsAt Char.isDigit rest) :
    natural? (decimalDigits n ++ rest) = some (n, rest) := by
  have digits : ∀ c ∈ decimalDigits n, c.isDigit = true := by
    intro c hc
    exact Nat.isDigit_of_mem_toDigits (by decide) (by decide) hc
  unfold natural?
  rw [takeWhile_append_of_stopsAt digits hr]
  split
  · next heq => exact absurd heq (decimalDigits_ne_nil n)
  · next heq => exact absurd heq (decimalDigits_ne_zero_cons n _ _)
  · rw [positional_decimalDigits, dropWhile_append_of_stopsAt digits hr]

theorem integer?_decimal (value : Int) (hr : StopsAt Char.isDigit rest) :
    integer? ((decimal value).toList ++ rest) = some (value, rest) := by
  cases value with
  | ofNat n =>
      have hn := natural?_decimalDigits n hr
      rw [toList_decimal_ofNat]
      unfold integer?
      split
      · next heq => exact absurd heq (decimalDigits_append_ne n rest _)
      · rw [hn]
        rfl
  | negSucc n =>
      rw [toList_decimal_negSucc, List.cons_append, integer?, natural?_decimalDigits (n + 1) hr]
      rfl

/-- An integer begins as no other token does. -/
theorem token?_of_integer? {chars : List Char} {value : Int}
    (h : integer? chars = some (value, rest)) : token? chars = some (.int value, rest) := by
  unfold token?
  split
  · cases h
  · cases h
  · cases h
  · cases h
  · cases h
  · rw [h]
    rfl

theorem cut_space {gap : List Char} (h : ∀ c ∈ gap, isSpace c = true) (t : Cut rest tokens) :
    Cut (gap ++ rest) tokens := by
  induction gap with
  | nil => exact t
  | cons c gap ih =>
      obtain ⟨hc, hgap⟩ := List.forall_mem_cons.mp h
      exact .space hc (ih hgap)

theorem cut_decimal (value : Int) (hr : StopsAt Char.isDigit rest) (t : Cut rest tokens) :
    Cut ((decimal value).toList ++ rest) (.int value :: tokens) :=
  .token (token?_of_integer? (integer?_decimal value hr)) t

theorem cut_quoted (value : String) (t : Cut rest tokens) :
    Cut ((quoted value).toList ++ rest) (.text value :: tokens) := by
  refine .token ?_ t
  rw [quoted, String.toList_ofList, List.cons_append, List.append_assoc, token?,
    List.singleton_append, characters?_flatMap_escape, Option.map_some]
  simp only [String.ofList_toList]

end Cut

end FlatExpr.Json
