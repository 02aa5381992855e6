import DateTemplate.Proofs.Template.Substitution
import DateTemplate.Proofs.Value.Characters

set_option autoImplicit false

/-!
# Rendering a rendered text

Where values bring no opening braces, a text that was rendered has just the tokens that failed, so
rendering it once more changes nothing. Main statements: `Leftmost.settle`, the template that is
left is leftmost again, and `render_render`.
-/

namespace DateTemplate

namespace Template

/-- The template that is left when the tokens that have a value have given way to it. -/
def settle (value? : Text → Option Text) : Template → Template
  | last gap => last gap
  | token gap inner rest =>
    match value? inner with
    | some value => (rest.settle value?).prepend (gap ++ value)
    | none => token gap inner (rest.settle value?)

@[simp] theorem text_settle (value? : Text → Option Text) (template : Template) :
    (template.settle value?).text =
      template.fill fun inner => (value? inner).getD (braced inner) := by
  induction template with
  | last gap => rfl
  | token gap inner rest ih =>
    unfold settle
    cases hvalue : value? inner with
    | some value => simp [fill, hvalue, ih]
    | none => simp [fill, hvalue, ih]

@[simp] theorem tokens_settle (value? : Text → Option Text) (template : Template) :
    (template.settle value?).tokens =
      template.tokens.filter fun inner => (value? inner).isNone := by
  induction template with
  | last gap => rfl
  | token gap inner rest ih =>
    unfold settle
    cases hvalue : value? inner with
    | some value => simp [tokens, hvalue, ih]
    | none => simp [tokens, hvalue, ih]

/-- **Values without opening braces make no tokens.** Each gap in front of a token is quiet in front
of what takes its place, and such a value is quiet itself. -/
theorem Leftmost.settle {value? : Text → Option Text} {template : Template}
    (h : template.Leftmost)
    (hvalue : ∀ inner value, value? inner = some value → '{' ∉ value) :
    (template.settle value?).Leftmost := by
  induction template with
  | last gap => exact h
  | token gap inner rest ih =>
    obtain ⟨hgap, hinner, hrest⟩ := h
    have hquiet := hgap.before_token hinner.oneLine
    unfold Template.settle
    split
    · next value hsome =>
      refine leftmost_prepend_iff.2 ⟨quiet_append_iff.2 ⟨hquiet _, ?_⟩, ih hrest⟩
      exact quiet_of_not_mem (hvalue inner value hsome) _
    · exact ⟨hquiet _, hinner, ih hrest⟩

end Template

namespace Engine

variable {engine : Engine} {context : Context}

/-- The value of an expression has no opening brace unless a raw text has one. -/
theorem not_mem_of_evaluate_eq_ok
    (hraw : ∀ name raw, context.get? name = some raw → '{' ∉ raw) {input t : Text}
    (h : engine.evaluate context input = .ok t) : '{' ∉ t := by
  obtain ⟨e, value, -, hvalue, rfl⟩ := evaluate_eq_ok_iff.1 h
  unfold valueOf Expr.evaluate at hvalue
  split at hvalue
  · cases hvalue
  · next value' hresolve =>
    rcases Expr.run_eq_ok hvalue with rfl | ⟨d, rfl⟩
    · unfold resolve at hresolve
      split at hresolve
      · next raw hget =>
        cases hresolve
        exact Value.not_mem_toText_infer (hraw _ raw hget)
      · obtain ⟨d, -, rfl⟩ := Option.map_eq_some_iff.1 hresolve
        exact Value.not_mem_toText_date d
    · exact Value.not_mem_toText_date d

/-- The value of a token, if it has one. -/
def value? (engine : Engine) (context : Context) (inner : Text) : Option Text :=
  (engine.evaluate context (Text.trim inner)).toOption

theorem text_outcome (inner : Text) :
    (engine.outcome context inner).text =
      (engine.value? context inner).getD (Template.braced inner) := by
  unfold outcome Outcome.text value?
  cases engine.evaluate context (Text.trim inner) <;> rfl

/-- A token is reported just if it has no value. -/
theorem map_token_failure? (engine : Engine) (context : Context) (inner : Text) :
    (engine.outcome context inner).failure?.map Failure.token =
      if (engine.value? context inner).isNone then some (Template.braced inner) else none := by
  unfold outcome Outcome.failure? value?
  cases engine.evaluate context (Text.trim inner) <;> rfl

theorem failure?_eq_none (inner : Text) (h : ¬ (engine.value? context inner).isNone = true) :
    (engine.outcome context inner).failure? = none := by
  have htoken := map_token_failure? engine context inner
  rw [if_neg h, Option.map_eq_none_iff] at htoken
  exact htoken

/-- A rendered text has the tokens without a value and no others. -/
theorem ofText_text_render (engine : Engine) (input : Text)
    (hraw : ∀ name raw, context.get? name = some raw → '{' ∉ raw) :
    Template.ofText (engine.render context input).text =
      (Template.ofText input).settle (engine.value? context) := by
  have hvalue : ∀ inner value, engine.value? context inner = some value → '{' ∉ value := by
    intro inner value h
    unfold value? at h
    cases hval : engine.evaluate context (Text.trim inner) with
    | error e => rw [hval] at h; cases h
    | ok t =>
      rw [hval] at h
      cases h
      exact not_mem_of_evaluate_eq_ok hraw hval
  have htext : (engine.render context input).text =
      ((Template.ofText input).settle (engine.value? context)).text := by
    rw [Template.text_settle, render]
    exact Template.fill_congr fun inner _ => text_outcome inner
  rw [htext]
  exact ((Template.leftmost_ofText input).settle hvalue).ofText_text

/-- **Rendering twice is rendering once.** Where no raw text has an opening brace, rendering a
rendered text once more gives the same text and the same failures; its tokens are those that
failed. Closing braces in raw texts do no harm. -/
theorem render_render (engine : Engine) (context : Context) (input : Text)
    (hraw : ∀ name raw, context.get? name = some raw → '{' ∉ raw) :
    (engine.render context (engine.render context input).text).text =
      (engine.render context input).text ∧
    (engine.render context (engine.render context input).text).failures =
      (engine.render context input).failures ∧
    Template.extract (engine.render context input).text =
      (engine.render context input).failures.map Failure.token := by
  have htemplate := ofText_text_render engine input hraw
  refine ⟨?_, ?_, ?_⟩
  · have hleft : ∀ inner ∈ (Template.ofText (engine.render context input).text).tokens,
        (engine.outcome context inner).text = Template.braced inner := by
      intro inner hinner
      rw [htemplate, Template.tokens_settle, List.mem_filter, Option.isNone_iff_eq_none] at hinner
      rw [text_outcome, hinner.2, Option.getD_none]
    calc (engine.render context (engine.render context input).text).text
        = (Template.ofText (engine.render context input).text).text := Template.fill_congr hleft
      _ = (engine.render context input).text := Template.text_ofText _
  · rw [failures_render, failures_render, htemplate, Template.tokens_settle,
      List.filterMap_filter]
    refine congrArg (List.filterMap · _) (funext fun inner => ?_)
    split
    · rfl
    · next h => exact (failure?_eq_none inner h).symm
  · rw [Template.extract, htemplate, Template.tokens_settle, failures_render,
      List.map_filterMap, ← List.filterMap_eq_map, List.filterMap_filter]
    refine congrArg (List.filterMap · _) (funext fun inner => ?_)
    exact (map_token_failure? engine context inner).symm

/-- An opening that nothing closes, a value with a line break and closing braces, and a token that
fails. -/
theorem render_render_closing_braces :
    (∀ name raw, (Bindings.empty.insert "A".toList "x\n\x7d\x7d".toList).get? name = some raw →
      '{' ∉ raw) ∧
    ((mk .standard .empty).render (Bindings.empty.insert "A".toList "x\n\x7d\x7d".toList)
      ((mk .standard .empty).render (Bindings.empty.insert "A".toList "x\n\x7d\x7d".toList)
        "\x7b\x7b \n{{A}}\x7b {{A}}\x7d {{B}}".toList).text).text =
      "\x7b\x7b \nx\n\x7d\x7d\x7b x\n\x7d\x7d\x7d {{B}}".toList ∧
    ((mk .standard .empty).render (Bindings.empty.insert "A".toList "x\n\x7d\x7d".toList)
      ((mk .standard .empty).render (Bindings.empty.insert "A".toList "x\n\x7d\x7d".toList)
        "\x7b\x7b \n{{A}}\x7b {{A}}\x7d {{B}}".toList).text).failures.map Failure.token =
      ["{{B}}".toList] := by
  have hraw : ∀ name raw,
      (Bindings.empty.insert "A".toList "x\n\x7d\x7d".toList : Context).get? name = some raw →
        '{' ∉ raw := by
    intro name raw h
    rw [Bindings.get?_insert] at h
    split at h
    · cases h
      decide
    · cases h
  obtain ⟨htext, hfailures, -⟩ :=
    render_render (mk .standard .empty) (Bindings.empty.insert "A".toList "x\n\x7d\x7d".toList)
      "\x7b\x7b \n{{A}}\x7b {{A}}\x7d {{B}}".toList hraw
  refine ⟨hraw, htext.trans ?_, ?_⟩
  · decide +kernel
  · rw [hfailures]
    decide +kernel

end Engine

end DateTemplate
