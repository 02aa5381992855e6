import DateTemplate.Proofs.Expr.Cited
import DateTemplate.Proofs.Template.OneToken

set_option autoImplicit false

/-!
# The places that failures cite

A failure of reading cites a part of the expression by its text and by its place, which counts the
characters before it. Main statements: `pointsInto_of_parse`, what is cited stands at that place of
the text that is read, without the blanks around it; `pointsInto_of_mem_failures`, for a token that is
what stands between its braces.
-/

namespace DateTemplate

/-- What an error says about a text. It has a place if its cause is a part of the text; what it cites
then stands there, and where the text has ended too early this is the empty part at the end. -/
structure ExprError.PointsInto (e : ExprError) (t : Text) : Prop where
  offset?_eq_none_iff : e.offset? = none ↔
    e.code = .expressionTooLong ∨ e.code = .undefinedVariable ∨ e.code = .typeError ∨
      e.code = .evaluationError
  standsAt : ∀ place, e.offset? = some place → ∃ part, e.token? = some part ∧ t.StandsAt part place
  early : ∀ expected found, e = .parsing (.unexpectedToken expected found) →
    found.kind = .endOfInput → found.text = [] ∧ found.offset = t.length

namespace ExprError

/-- The length of an expression has no place in it, and neither has what goes wrong once it is read. -/
theorem offset?_eq_none_iff_code (e : ExprError) :
    e.offset? = none ↔
      e.code = .expressionTooLong ∨ e.code = .undefinedVariable ∨ e.code = .typeError ∨
        e.code = .evaluationError := by
  cases e with
  | parsing e => cases e <;> simp [offset?, SyntaxError.offset?, code, SyntaxError.code]
  | evaluation e => cases e <;> simp [offset?, code, EvalError.code]

theorem pointsInto_evaluation (e : EvalError) (t : Text) : PointsInto (.evaluation e) t where
  offset?_eq_none_iff := offset?_eq_none_iff_code _
  standsAt := by
    intro place h
    cases h
  early := by
    intro expected found h
    cases h

theorem pointsInto_tooLong (length max : Nat) (t : Text) :
    PointsInto (.parsing (.tooLong length max)) t where
  offset?_eq_none_iff := offset?_eq_none_iff_code _
  standsAt := by
    intro place h
    cases h
  early := by
    intro expected found h
    cases h

theorem pointsInto_unexpectedChar {stray : StrayChar} {t : Text}
    (h : t.StandsAt [stray.char] stray.offset) :
    PointsInto (.parsing (.unexpectedChar stray)) t where
  offset?_eq_none_iff := offset?_eq_none_iff_code _
  standsAt := by
    intro place hplace
    cases hplace
    exact ⟨[stray.char], rfl, h⟩
  early := by
    intro expected found hfound
    cases hfound

theorem pointsInto_of_found? {e : SyntaxError} {token : Token} {t : Text}
    (hfound : e.found? = some token) (h : token.StandsIn 0 t) : PointsInto (.parsing e) t where
  offset?_eq_none_iff := offset?_eq_none_iff_code _
  standsAt := by
    intro place hplace
    have hoffset : some token.offset = some place :=
      (SyntaxError.offset?_of_found? hfound).symm.trans hplace
    obtain ⟨place', hat, hstands⟩ := h.standsAt
    rw [Nat.zero_add] at hat
    obtain rfl : place' = place := hat.symm.trans (Option.some.inj hoffset)
    exact ⟨token.text, SyntaxError.token?_of_found? hfound, hstands⟩
  early := by
    intro expected found he hend
    cases he
    cases hfound
    have hempty := h.isEmpty_iff.2 hend
    obtain ⟨place, hat, hstands⟩ := h.standsAt
    rw [hempty] at hstands
    exact ⟨hempty, by rw [hat, Nat.zero_add, hstands.eq_length]⟩

end ExprError

/-- Reading fails at a part of the text without the blanks around it, or for its length. -/
theorem pointsInto_of_parse {limits : Limits} {input : Text} {e : SyntaxError}
    (h : Expr.parse limits input = .error e) :
    (ExprError.parsing e).PointsInto (Text.trim input) := by
  unfold Expr.parse at h
  split at h
  · cases h
    exact ExprError.pointsInto_tooLong _ _ _
  · split at h
    · next stray hstray =>
      cases h
      obtain ⟨place, hoffset, hstands⟩ := Token.standsAt_of_scan_eq_error hstray
      rw [Nat.zero_add] at hoffset
      exact ExprError.pointsInto_unexpectedChar (hoffset ▸ hstands)
    · next ts hts =>
      have hlexes := Token.scan_eq_ok_iff.1 hts
      obtain ⟨token, hmem, hfound⟩ := Parser.exists_found?_of_ofTokens hlexes.endsMarked h
      exact ExprError.pointsInto_of_found? hfound (hlexes.standsIn_of_mem token hmem)

/-- **What a failure cites stands where it says.** A failure of rendering has no place just if its
cause is the length of the expression, its variable or its evaluation. If it has one, the text it
cites stands there in its token without braces and blanks around it, after exactly so many characters;
where more was expected it is the empty text at the end. The same holds for reading any text within any
limits. -/
theorem pointsInto_of_mem_failures (engine : Engine) (context : Context) (input : Text) :
    (∀ f ∈ (engine.render context input).failures,
      f.error.PointsInto (Template.stripBraces f.token)) ∧
    ∀ (limits : Limits) (e : SyntaxError), Expr.parse limits input = .error e →
      (ExprError.parsing e).PointsInto (Text.trim input) := by
  refine ⟨?_, fun limits e h => pointsInto_of_parse h⟩
  intro f hf
  rw [Engine.failures_render, List.mem_filterMap] at hf
  obtain ⟨inner, -, hreport⟩ := hf
  obtain ⟨htoken, hresult⟩ := Outcome.failure?_eq_some_iff.1 hreport
  have hstrip : Template.stripBraces f.token = Text.trim inner := by
    rw [htoken]
    exact Template.stripBraces_braced inner
  rw [hstrip]
  cases he : f.error with
  | evaluation e => exact ExprError.pointsInto_evaluation e _
  | parsing e =>
    have hparse : Expr.parse engine.limits (Text.trim inner) = .error e := by
      rw [he] at hresult
      exact Engine.evaluate_eq_error_parsing_iff.1 hresult
    have hpoints := pointsInto_of_parse hparse
    rwa [Text.trim_trim] at hpoints

/-- Blanks of any kind are counted as one character each, within the token and not around it. -/
theorem pointsInto_of_mem_failures_wide_blanks :
    (⟨Template.braced "\u3000A\u2003+ 2 hours".toList,
        .parsing (.unknownUnit ⟨.unit, "hours".toList, 6⟩)⟩ : Failure) ∈
      ((Engine.mk .standard .empty).render .empty
        (Template.braced "\u3000A\u2003+ 2 hours".toList)).failures ∧
    Text.StandsAt "A\u2003+ 2 hours".toList "hours".toList 6 ∧
    Expr.parse .standard "A\u2003+".toList =
      .error (.unexpectedToken .amount (Token.endAt 3)) ∧
    Text.StandsAt "A\u2003+".toList [] 3 := by
  have hmem : (⟨Template.braced "\u3000A\u2003+ 2 hours".toList,
      .parsing (.unknownUnit ⟨.unit, "hours".toList, 6⟩)⟩ : Failure) ∈
        ((Engine.mk .standard .empty).render .empty
          (Template.braced "\u3000A\u2003+ 2 hours".toList)).failures := by decide +kernel
  have hparse : Expr.parse .standard "A\u2003+".toList =
      .error (.unexpectedToken .amount (Token.endAt 3)) := by
    have hinvalid : (Engine.mk .standard .empty).validate "A\u2003+".toList =
        some (.unexpectedToken .amount (Token.endAt 3)) := by decide +kernel
    exact Engine.evaluate_eq_error_parsing_iff.1 ((Engine.validate_eq_some_iff .empty).1 hinvalid)
  have hstrip : Template.stripBraces (Template.braced "\u3000A\u2003+ 2 hours".toList) =
      "A\u2003+ 2 hours".toList := by decide
  obtain ⟨part, hpart, hstands⟩ := ((pointsInto_of_mem_failures _ .empty _).1 _ hmem).standsAt 6 rfl
  obtain ⟨part', hpart', hstands'⟩ :=
    ((pointsInto_of_mem_failures ⟨.standard, .empty⟩ .empty _).2 _ _ hparse).standsAt 3 rfl
  cases hpart
  cases hpart'
  exact ⟨hmem, hstrip ▸ hstands, hparse, hstands'⟩

end DateTemplate
