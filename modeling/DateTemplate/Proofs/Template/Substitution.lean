import DateTemplate.Proofs.Template.Evaluate
import DateTemplate.Proofs.Template.Occurrence

set_option autoImplicit false

/-!
# Rendering as substitution

Rendering puts texts in the places of a text's tokens. Main statements: `render_replaces_tokens`,
the tokens that are replaced are those that extraction lists, and nothing else of the text changes;
`render_eq_of_resolve_eq`, the rendered text depends on the referenced variables only.
-/

namespace DateTemplate

namespace Template

theorem braced_injective {inner inner' : Text} (h : braced inner = braced inner') :
    inner = inner' := by
  simpa [braced] using h

theorem fill_congr {f g : Text → Text} {template : Template}
    (h : ∀ inner ∈ template.tokens, f inner = g inner) : template.fill f = template.fill g := by
  induction template with
  | last gap => rfl
  | token gap inner rest ih =>
    rw [tokens, List.forall_mem_cons] at h
    rw [fill, fill, h.1, ih h.2]

theorem fill_of_tokens_eq_nil {template : Template} (h : template.tokens = [])
    (f : Text → Text) : template.fill f = template.text :=
  fill_congr fun inner hinner => by simp [h] at hinner

theorem tokens_eq_of_map_braced_eq {template template' : Template}
    (h : template.tokens.map braced = template'.tokens.map braced) :
    template.tokens = template'.tokens :=
  (List.map_inj_right fun _ _ => braced_injective).1 h

end Template

namespace Engine

/-- Rendering depends on what becomes of the tokens. -/
theorem render_congr {engine engine' : Engine} {context context' : Context} {input : Text}
    (h : ∀ inner ∈ (Template.ofText input).tokens,
      engine.outcome context inner = engine'.outcome context' inner) :
    engine.render context input = engine'.render context' input := by
  unfold render
  rw [Rendered.mk.injEq]
  refine ⟨Template.fill_congr fun inner hinner => ?_, List.map_congr_left h⟩
  rw [h inner hinner]

theorem failures_render (engine : Engine) (context : Context) (input : Text) :
    (engine.render context input).failures =
      (Template.ofText input).tokens.filterMap fun inner =>
        (engine.outcome context inner).failure? := by
  rw [Rendered.failures, render, List.filterMap_map]
  rfl

/-- **Rendering replaces the tokens of a text and nothing else.** A text splits in exactly one way
into gaps and the tokens that extraction lists. The rendered text is that split with each token
replaced by the value of what stands between its braces, or left as it is where there is no value;
the failures are those of the tokens without a value, in their order. A value is not searched for
tokens, and a text without tokens stays as it is. -/
theorem render_replaces_tokens (engine : Engine) (context : Context) (input : Text) :
    ∃ split : Template,
      (split.text = input ∧ split.tokens.map Template.braced = Template.extract input) ∧
      (∀ other : Template, other.text = input →
        other.tokens.map Template.braced = Template.extract input → other = split) ∧
      (engine.render context input).text = split.fill (fun inner =>
        match engine.evaluate context (Text.trim inner) with
        | .ok value => value
        | .error _ => Template.braced inner) ∧
      (engine.render context input).failures = split.tokens.filterMap (fun inner =>
        match engine.evaluate context (Text.trim inner) with
        | .ok _ => none
        | .error e => some ⟨Template.braced inner, e⟩) ∧
      (Template.extract input = [] →
        (engine.render context input).text = input ∧
        (engine.render context input).failures = []) := by
  refine ⟨Template.ofText input, ⟨Template.text_ofText input, rfl⟩, ?_, rfl, ?_, ?_⟩
  · intro other htext htokens
    have hsame : (Template.ofText input).text = [] ++ other.text := by
      rw [Template.text_ofText, htext, List.nil_append]
    have heq := Template.eq_prepend_of_tokens_eq (Template.leftmost_ofText input) hsame
      (Template.tokens_eq_of_map_braced_eq htokens.symm)
    rw [heq, Template.prepend_nil]
  · exact failures_render engine context input
  · intro hnone
    have htokens : (Template.ofText input).tokens = [] := List.map_eq_nil_iff.1 hnone
    constructor
    · rw [render, Template.fill_of_tokens_eq_nil htokens, Template.text_ofText]
    · rw [failures_render, htokens, List.filterMap_nil]

/-- The value of the token looks like a token, and stays as it is. -/
example : ((mk .standard .empty).render (Bindings.empty.insert "A".toList "{{B}}".toList)
    "\x7b{{A}} {{A}}".toList).text = "\x7b{{A}} {{B}}".toList := by decide +kernel

/-- **Rendering depends on the referenced variables only.** Two sets of variables that agree on the
names that a text refers to give it the same rendered text and the same failures. -/
theorem render_eq_of_resolve_eq (limits : Limits) (system system' : SystemVariables)
    (context context' : Context) (input : Text)
    (h : ∀ name ∈ (mk limits system).references input,
      resolve context system name = resolve context' system' name) :
    (mk limits system).render context input = (mk limits system').render context' input := by
  refine render_congr fun inner hinner => ?_
  unfold outcome
  rw [evaluate_congr fun e he => h e.root (mem_references_iff.2 ⟨inner, hinner, e, he, rfl⟩)]

/-- A date-time of the caller and a date of the system are one value; a name that neither has is
missing in both. -/
theorem render_eq_of_same_date :
    (∀ name ∈ (mk .standard .empty).references "{{A + 1 month}}, {{B}} {{a}}".toList,
      resolve (Bindings.empty.insert "A".toList "2026-01-31T23:00:00-01:00".toList) .empty name =
        resolve .empty (Bindings.empty.insert "A".toList ⟨2026, 2, 1, by decide⟩) name) ∧
    (mk .standard .empty).render
        (Bindings.empty.insert "A".toList "2026-01-31T23:00:00-01:00".toList)
        "{{A + 1 month}}, {{B}} {{a}}".toList =
      (mk .standard (Bindings.empty.insert "A".toList ⟨2026, 2, 1, by decide⟩)).render .empty
        "{{A + 1 month}}, {{B}} {{a}}".toList := by
  have h : ∀ name ∈ (mk .standard .empty).references "{{A + 1 month}}, {{B}} {{a}}".toList,
      resolve (Bindings.empty.insert "A".toList "2026-01-31T23:00:00-01:00".toList) .empty name =
        resolve .empty (Bindings.empty.insert "A".toList ⟨2026, 2, 1, by decide⟩) name := by
    decide +kernel
  exact ⟨h, render_eq_of_resolve_eq .standard .empty _ _ _ _ h⟩

end Engine

end DateTemplate
