import FlatExpr.Proofs.Json.Layout
import FlatExpr.Proofs.Json.Same
import FlatExpr.Proofs.Report
import FlatExpr.Stack.Calls

/-!
# Report — JSON

What a report writes as JSON is read back, and nothing is lost.

* `Request.Prints`: what stands between the banners is plain ASCII, and is read as a JSON value.
* `Request.prints_iff`: a text that is read prints the record of its value and of what is left
  over, in either layout, and no other JSON value.
* `Request.report_json_faithful`: so it does wherever the verdict is that the text was read; and
  two such records are the same exactly if the values and the texts left over are.
-/

namespace FlatExpr.Request

variable {rule : Rule} {value : Expr} {rest : List Char} {json : Json}

/-- Both layouts of the record are read back. -/
theorem renders_shown {request : Request} (hjson : request.json = true) (value : Expr)
    (rest : List Char) : Json.Renders (request.shown value rest).toList (payload value rest) := by
  rw [shown, if_pos hjson]
  split
  · exact Json.renders_indentedAt 0 _
  · exact Json.renders_compact _

/-- Two records are the same exactly if the values and the texts left over are. -/
theorem same_payload_iff {v w : Expr} {rest left : List Char} :
    (payload v rest).same (payload w left) = true ↔
      (Value.ofExpr v).same (Value.ofExpr w) = true ∧ rest = left := by
  rw [← Json.same_toJson]
  simp [payload, Json.same, Json.sameMembers, List.lookup_cons, String.ofList_inj]

section OnStack

variable [Stack]

/-- What stands between the banners of a report is plain ASCII, and is read as the JSON value. -/
def Prints (request : Request) (json : Json) : Prop :=
  ∃ text : String, Output.stdout request.report.outputs = request.framed text ∧
    Json.IsAscii text.toList ∧ Json.read text.toList = some json

/-- A report prints no two JSON values. -/
theorem Prints.unique {request : Request} {a b : Json} (ha : request.Prints a)
    (hb : request.Prints b) : a = b := by
  obtain ⟨s, hs, -, hread⟩ := ha
  obtain ⟨t, ht, -, hread'⟩ := hb
  obtain rfl := framed_inj (hs.symm.trans ht)
  exact Option.some.inj (hread.symm.trans hread')

/-- **What is printed** about a text that is read is its record, and nothing else. -/
theorem prints_iff (request : Request) (hjson : request.json = true)
    (hrule : request.rule = rule.name)
    (h : (rule.parse request.source.toList).outcome = .ok (.success value rest)) :
    request.Prints json ↔ json = payload value rest := by
  have hprints : request.Prints (payload value rest) := by
    have hstdout := congrArg Seen.stdout (seen_of_success hrule h)
    have hshown := renders_shown hjson value rest
    exact ⟨_, hstdout.trans (page_eq request value rest), hshown.ascii, hshown.read⟩
  constructor
  · exact fun hother => hother.unique hprints
  · rintro rfl
    exact hprints

/-- **JSON reports.**  Wherever the verdict is that a text was read, what is printed is plain ASCII,
with or without banners, and is read back as the record of the value and of what was left over.
Expressions are the same exactly if their records are; and so two such reports print the same JSON
value exactly if the values and the texts left over are the same. -/
theorem report_json_faithful :
    (∀ (rule : Rule) (source : String) (pretty : Bool),
      (report ⟨source, rule.name, true, pretty⟩).verdict = .ok true →
      ∃ value rest, (rule.parse source.toList).outcome = .ok (.success value rest) ∧
        ∀ banners, Prints ⟨source, rule.name, true, banners⟩
          (.record [("value", value.toJson), ("remainder", .text (String.ofList rest))])) ∧
    (∀ a b : Expr, (Value.ofExpr a).same (Value.ofExpr b) = a.toJson.same b.toJson) ∧
    (∀ (rule other : Rule) (source text : String) (pretty banners : Bool) (v w : Expr)
        (rest left : List Char) (j k : Json),
      (rule.parse source.toList).outcome = .ok (.success v rest) →
      (other.parse text.toList).outcome = .ok (.success w left) →
      Prints ⟨source, rule.name, true, pretty⟩ j → Prints ⟨text, other.name, true, banners⟩ k →
      (j.same k = true ↔ (Value.ofExpr v).same (Value.ofExpr w) = true ∧ rest = left)) := by
  refine ⟨fun rule source pretty hverdict => ?_, fun a b => (Json.same_toJson a b).symm, ?_⟩
  · obtain ⟨value, rest, h⟩ := exists_of_verdict rfl hverdict
    refine ⟨value, rest, h, fun banners => ?_⟩
    exact (prints_iff ⟨source, rule.name, true, banners⟩ rfl rfl h).mpr rfl
  · intro rule other source text pretty banners v w rest left j k hv hw hj hk
    rw [(prints_iff ⟨source, rule.name, true, pretty⟩ rfl rfl hv).mp hj,
      (prints_iff ⟨text, other.name, true, banners⟩ rfl rfl hw).mp hk]
    exact same_payload_iff

end OnStack

/-- A quotation mark and a character above U+FFFF are left over by two rules that agree. -/
theorem report_json_faithful_astral :
    let source := "x\"😀"
    let record : Json :=
      .record [("value", .record [("kind", .text "variable"), ("name", .text "x")]),
        ("remainder", .text "\"😀")]
    (report ⟨source, "factor", true, true⟩).verdict = .ok true ∧
      (∀ banners, Prints ⟨source, "factor", true, banners⟩ record) ∧
      (∀ j k, Prints ⟨source, "factor", true, false⟩ j → Prints ⟨source, "variable", true, true⟩ k →
        j.same k = true) := by
  intro source record
  obtain ⟨hprints, -, hsame⟩ := report_json_faithful
  have hverdict : (report ⟨source, Rule.factor.name, true, true⟩).verdict = .ok true := by
    decide +kernel
  have hfactor : (Rule.factor.parse source.toList).outcome =
      .ok (.success (.name "x") "\"😀".toList) := by decide +kernel
  have hvariable : (Rule.variable.parse source.toList).outcome =
      .ok (.success (.name "x") "\"😀".toList) := by decide +kernel
  refine ⟨hverdict, ?_, fun j k hj hk => ?_⟩
  · obtain ⟨value, rest, h, hall⟩ := hprints .factor source true hverdict
    cases hfactor.symm.trans h
    exact hall
  · exact (hsame .factor .variable source source false true _ _ _ _ j k hfactor hvariable hj hk).mpr
      ⟨by decide +kernel, rfl⟩

end FlatExpr.Request
