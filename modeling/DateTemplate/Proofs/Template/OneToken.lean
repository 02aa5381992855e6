import DateTemplate.Proofs.Template.Append
import DateTemplate.Proofs.Template.Braced
import DateTemplate.Proofs.Template.Substitution

set_option autoImplicit false

/-!
# One token of a text

A token can be taken out of its text and be evaluated or checked on its own, with its braces taken
off. Main statements: `ofText_eq_of_stands`, the text on either side of a token is cut up as if it
stood alone; `validate_eq_some_iff`, checking finds what keeps an evaluation from beginning;
`render_token`, what rendering makes of a token is what the token comes to on its own.
-/

namespace DateTemplate

namespace Template

/-! ## The place of a token -/

/-- A token of a text stands between a front, which has the tokens before it, and a back, which has
the tokens after it. -/
structure Stands (input : Text) (before : List Text) (token : Text) (after : List Text)
    (front back : Text) : Prop where
  text_eq : input = front ++ (token ++ back)
  extract_front : extract front = before
  extract_back : extract back = after

variable {input front back inner : Text} {before after : List Text}

/-- Taking a text apart at a token does not change what its sides are cut up into. -/
theorem ofText_eq_of_stands (h : extract input = before ++ braced inner :: after)
    (hstands : Stands input before (braced inner) after front back) :
    ofText input = ofText front ++ token [] inner (ofText back) := by
  obtain ⟨rfl, rfl, rfl⟩ := hstands
  have htokens : (ofText (front ++ (braced inner ++ back))).tokens =
      (ofText front ++ token [] inner (ofText back)).tokens := by
    apply tokens_eq_of_map_braced_eq
    rw [tokens_append, tokens, List.map_append, List.map_cons]
    exact h
  have htext : (ofText (front ++ (braced inner ++ back))).text =
      [] ++ (ofText front ++ token [] inner (ofText back)).text := by simp
  rw [eq_prepend_of_tokens_eq (leftmost_ofText _) htext htokens, prepend_nil]

theorem exists_stands (h : extract input = before ++ braced inner :: after) :
    ∃ front back, Stands input before (braced inner) after front back := by
  obtain ⟨before', rest, htokens, rfl, hrest⟩ := List.map_eq_append_iff.1 h
  obtain ⟨inner', after', rfl, hinner, rfl⟩ := List.map_eq_cons_iff.1 hrest
  obtain rfl := braced_injective hinner
  obtain ⟨front, back, htemplate, rfl, rfl⟩ := exists_append_token htokens
  have hleftmost := leftmost_ofText input
  rw [htemplate, leftmost_append_iff] at hleftmost
  obtain ⟨hfront, -, -, -, hback⟩ := hleftmost
  refine ⟨front.text, back.text, ?_, ?_, ?_⟩
  · rw [← text_ofText input, htemplate, text_append, text_token, List.nil_append]
  · rw [extract, hfront.ofText_text]
  · rw [extract, hback.ofText_text]

/-- A token stands in one place. -/
theorem stands_unique {front' back' : Text} (h : extract input = before ++ braced inner :: after)
    (hstands : Stands input before (braced inner) after front back)
    (hstands' : Stands input before (braced inner) after front' back') :
    front' = front ∧ back' = back := by
  have htemplate := (ofText_eq_of_stands h hstands').symm.trans (ofText_eq_of_stands h hstands)
  have htokens : (ofText front').tokens = (ofText front).tokens :=
    tokens_eq_of_map_braced_eq (hstands'.extract_front.trans hstands.extract_front.symm)
  obtain ⟨hfront, hback⟩ := append_token_inj htokens htemplate
  constructor
  · rw [← text_ofText front', hfront, text_ofText]
  · rw [← text_ofText back', hback, text_ofText]

end Template

/-! ## What becomes of a token -/

namespace Outcome

variable {o : Outcome}

theorem failure?_eq_some_iff {report : Failure} :
    o.failure? = some report ↔
      report.token = Template.braced o.inner ∧ o.result = .error report.error := by
  obtain ⟨token, error⟩ := report
  unfold failure?
  split
  · next value hresult => simp [hresult]
  · next e hresult =>
    rw [hresult, Option.some.injEq, Failure.mk.injEq, Except.error.injEq]
    exact and_congr_left fun _ => eq_comm

/-- A value without a report is the outcome of an evaluation that succeeds. -/
theorem eq_ok_iff {value : Text} :
    o.text = value ∧ o.failure? = none ↔ o.result = .ok value := by
  unfold text failure?
  cases o.result with
  | ok value' => simp
  | error e => simp

/-- A token left as it is, with a report, is the outcome of an evaluation that fails. -/
theorem eq_error_iff {e : ExprError} :
    o.text = Template.braced o.inner ∧ o.failure? = some ⟨Template.braced o.inner, e⟩ ↔
      o.result = .error e := by
  rw [failure?_eq_some_iff]
  constructor
  · rintro ⟨-, -, hresult⟩
    exact hresult
  · intro hresult
    refine ⟨?_, rfl, hresult⟩
    rw [text, hresult]

end Outcome

namespace Engine

variable {engine : Engine}

/-- Checking a text finds the failure of reading with which its evaluation ends. -/
theorem validate_eq_some_iff {input : Text} {e : SyntaxError} (context : Context) :
    engine.validate input = some e ↔
      engine.evaluate context (Template.stripBraces input) = .error (.parsing e) := by
  rw [evaluate_eq_error_parsing_iff, validate]
  cases engine.parse (Template.stripBraces input) with
  | error e' => simp
  | ok expr => simp

/-- **What rendering makes of a token is what the token comes to on its own.** Each token of a text
stands in one place. There it is replaced by a value without a report just if the text inside its
braces evaluates to that value, and else it stays and the failure of that evaluation is reported.
Checking the token refuses it just if the report is of a failure of reading, with the same
message. -/
theorem render_token (engine : Engine) (context : Context) (input token : Text)
    (before after : List Text) (h : Template.extract input = before ++ token :: after) :
    ∃ front back,
      Template.Stands input before token after front back ∧
      (∀ front' back', Template.Stands input before token after front' back' →
        front' = front ∧ back' = back) ∧
      ∃ (replacement : Text) (reports : List Failure),
        (engine.render context input).text =
          (engine.render context front).text ++
            (replacement ++ (engine.render context back).text) ∧
        (engine.render context input).failures =
          (engine.render context front).failures ++
            (reports ++ (engine.render context back).failures) ∧
        (∀ value, replacement = value ∧ reports = [] ↔
          engine.evaluate context (Template.stripBraces token) = .ok value) ∧
        (∀ e, replacement = token ∧ reports = [⟨token, e⟩] ↔
          engine.evaluate context (Template.stripBraces token) = .error e) ∧
        (engine.validate token ≠ none ↔ ∃ report ∈ reports,
          report.error.code = .parseError ∨ report.error.code = .expressionTooLong) ∧
        (∀ e, engine.validate token = some e →
          reports.map (fun report => report.error.message) = [e.message]) := by
  have hmem : token ∈ Template.extract input := by simp [h]
  obtain ⟨inner, -, rfl⟩ := List.mem_map.1 hmem
  obtain ⟨front, back, hstands⟩ := Template.exists_stands h
  have htemplate := Template.ofText_eq_of_stands h hstands
  have hvalidate : ∀ e, engine.validate (Template.braced inner) = some e ↔
      (engine.outcome context inner).result = .error (.parsing e) := by
    intro e
    rw [validate_eq_some_iff context, Template.stripBraces_braced, outcome]
  refine ⟨front, back, hstands, fun _ _ => Template.stands_unique h hstands,
    (engine.outcome context inner).text, (engine.outcome context inner).failure?.toList,
    ?_, ?_, ?_, ?_, ?_, ?_⟩
  · rw [render, htemplate, Template.fill_append]
    simp [Template.fill, render]
  · simp only [failures_render, htemplate, Template.tokens_append, Template.tokens,
      List.filterMap_append, List.filterMap_cons]
    cases (engine.outcome context inner).failure? <;> rfl
  · intro value
    rw [Option.toList_eq_nil_iff, Outcome.eq_ok_iff, Template.stripBraces_braced, outcome]
  · intro e
    rw [Option.toList_eq_singleton_iff, Template.stripBraces_braced]
    exact Outcome.eq_error_iff
  · simp only [Option.mem_toList, Outcome.failure?_eq_some_iff, ExprError.code_parsing_iff,
      Option.ne_none_iff_exists', hvalidate]
    constructor
    · rintro ⟨e, hresult⟩
      exact ⟨⟨Template.braced inner, .parsing e⟩, ⟨rfl, hresult⟩, e, rfl⟩
    · rintro ⟨report, ⟨-, hresult⟩, e, herror⟩
      exact ⟨e, hresult.trans (congrArg _ herror)⟩
  · intro e he
    have hreport : (engine.outcome context inner).failure? =
        some ⟨Template.braced inner, .parsing e⟩ :=
      Outcome.failure?_eq_some_iff.2 ⟨rfl, (hvalidate e).1 he⟩
    rw [hreport]
    rfl

/-- An ideographic space is taken off as a blank; the tokens beside this one have a brace too many
and nothing inside. -/
theorem render_token_padded :
    Template.extract (Template.braced "\x7bA".toList ++ Template.braced "\u3000A\t".toList ++
        "\x7d\x7d".toList ++ Template.braced []) =
      [Template.braced "\x7bA".toList] ++ Template.braced "\u3000A\t".toList ::
        [Template.braced []] ∧
    ∃ front back,
      ((mk .standard .empty).render (Bindings.empty.insert "A".toList "1.50".toList)
        (Template.braced "\x7bA".toList ++ Template.braced "\u3000A\t".toList ++
          "\x7d\x7d".toList ++ Template.braced [])).text =
        ((mk .standard .empty).render (Bindings.empty.insert "A".toList "1.50".toList) front).text ++
          ("1.5".toList ++ ((mk .standard .empty).render
            (Bindings.empty.insert "A".toList "1.50".toList) back).text) := by
  have h : Template.extract (Template.braced "\x7bA".toList ++
      Template.braced "\u3000A\t".toList ++ "\x7d\x7d".toList ++ Template.braced []) =
        [Template.braced "\x7bA".toList] ++ Template.braced "\u3000A\t".toList ::
          [Template.braced []] := by decide +kernel
  have hvalue : (mk .standard .empty).evaluate (Bindings.empty.insert "A".toList "1.50".toList)
      (Template.stripBraces (Template.braced "\u3000A\t".toList)) = .ok "1.5".toList :=
    evaluate_eq_ok_of_toOption (by decide +kernel)
  obtain ⟨front, back, -, -, replacement, reports, htext, -, hok, -⟩ := render_token
    (mk .standard .empty) (Bindings.empty.insert "A".toList "1.50".toList) _ _ _ _ h
  obtain ⟨rfl, -⟩ := (hok _).2 hvalue
  exact ⟨h, front, back, htext⟩

end Engine

end DateTemplate
