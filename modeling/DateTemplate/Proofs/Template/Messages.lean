import DateTemplate.Proofs.Expr.RoundTrip
import DateTemplate.Proofs.Template.ErrorPlace

set_option autoImplicit false

/-!
# Messages of one line

A token stands on one line, and what goes wrong with it is told on one line too: a message has its own
words, numbers and parts of the token, and never the text that a variable stands for. Main statement:
`Engine.oneLine_message`.
-/

namespace DateTemplate

/-! ## Strings of one line -/

/-- A string has no line feed. -/
def OneLine (s : String) : Prop := '\n' ∉ s.toList

instance (s : String) : Decidable (OneLine s) := inferInstanceAs (Decidable (_ ∉ _))

section OneLine

variable {s t : String} {part : Text}

theorem oneLine_append : OneLine (s ++ t) ↔ OneLine s ∧ OneLine t := by
  simp only [OneLine, String.toList_append, List.mem_append, not_or]

theorem oneLine_ofList : OneLine (String.ofList part) ↔ '\n' ∉ part := by
  rw [OneLine, String.toList_ofList]

theorem oneLine_char {c : Char} : OneLine (toString c) ↔ '\n' ∉ [c] := by
  have hc : (toString c).toList = [c] := String.toList_singleton c
  rw [OneLine, hc]

theorem oneLine_natural (n : Nat) : OneLine (toString n) := by
  rw [OneLine, Nat.toString_eq_repr, Nat.toList_repr]
  intro h
  cases Nat.isDigit_of_mem_toDigits (by decide) (by decide) h

end OneLine

/-! ## What messages say -/

theorem TokenKind.oneLine_name (kind : TokenKind) : OneLine kind.name := by
  cases kind <;> decide +kernel

theorem Expected.oneLine_phrase (expected : Expected) : OneLine expected.phrase := by
  cases expected <;> decide +kernel

theorem Token.oneLine_phrase {t : Token} (h : '\n' ∉ t.text) : OneLine t.phrase := by
  unfold phrase
  split
  · exact TokenKind.oneLine_name _
  · simp only [oneLine_append]
    exact ⟨⟨⟨t.kind.oneLine_name, by decide +kernel⟩, oneLine_ofList.2 h⟩, by decide +kernel⟩

/-- A message about a text has one line if the part of the text that it cites has. -/
theorem SyntaxError.oneLine_message {e : SyntaxError}
    (h : ∀ part, e.token? = some part → '\n' ∉ part) : OneLine e.message := by
  -- Between its own words a message has numbers and the part that it cites.
  cases e with
  | tooLong length max =>
    unfold message
    simp only [oneLine_append]
    exact ⟨⟨⟨by decide +kernel, oneLine_natural _⟩, by decide +kernel⟩, oneLine_natural _⟩
  | unexpectedChar stray =>
    unfold message
    simp only [oneLine_append]
    exact ⟨⟨⟨by decide +kernel, oneLine_char.2 (h _ rfl)⟩, by decide +kernel⟩, oneLine_natural _⟩
  | unexpectedToken expected found =>
    unfold message
    simp only [oneLine_append]
    exact ⟨⟨⟨⟨⟨by decide +kernel, expected.oneLine_phrase⟩, by decide +kernel⟩, oneLine_natural _⟩,
      by decide +kernel⟩, Token.oneLine_phrase (h _ rfl)⟩
  | nonPositiveAmount amount =>
    unfold message
    simp only [oneLine_append]
    exact ⟨⟨⟨by decide +kernel, oneLine_ofList.2 (h _ rfl)⟩, by decide +kernel⟩, by decide +kernel,
      oneLine_natural _⟩
  | amountTooLarge amount max =>
    unfold message
    simp only [oneLine_append]
    exact ⟨⟨⟨⟨⟨by decide +kernel, oneLine_ofList.2 (h _ rfl)⟩, by decide +kernel⟩,
      oneLine_natural _⟩, by decide +kernel⟩, by decide +kernel, oneLine_natural _⟩
  | unknownUnit unit =>
    unfold message
    simp only [oneLine_append]
    exact ⟨⟨⟨⟨⟨by decide +kernel, oneLine_ofList.2 (h _ rfl)⟩, by decide +kernel⟩,
      oneLine_natural _⟩, by decide +kernel⟩, by decide +kernel⟩
  | trailingToken found =>
    unfold message
    simp only [oneLine_append]
    exact ⟨⟨⟨by decide +kernel, Token.oneLine_phrase (h _ rfl)⟩, by decide +kernel⟩,
      oneLine_natural _⟩

theorem EvalError.oneLine_message {e : EvalError} (h : '\n' ∉ e.token) : OneLine e.message := by
  cases e with
  | undefinedVariable name =>
    unfold message
    simp only [oneLine_append]
    exact ⟨by decide +kernel, oneLine_ofList.2 h⟩
  | typeMismatch base found =>
    unfold message
    simp only [oneLine_append]
    have hkind : OneLine found.name := by cases found <;> decide +kernel
    exact ⟨⟨⟨by decide +kernel, oneLine_ofList.2 h⟩, by decide +kernel⟩, by decide +kernel, hkind⟩
  | outOfRange moved =>
    unfold message
    simp only [oneLine_append]
    exact ⟨⟨by decide +kernel, oneLine_ofList.2 h⟩, by decide +kernel⟩

/-! ## What messages cite -/

theorem Step.line_feed_notMem_text (s : Step) : '\n' ∉ s.text := by
  have hsymbol : '\n' ≠ s.direction.symbol := by cases s.direction <;> decide
  have hdigits : '\n' ∉ Decimal.digits s.amount := fun h => by
    cases Decimal.isDigit_of_mem_digits h
  have hword : '\n' ∉ s.unit.keyword s.amount := fun h => by
    cases TimeUnit.isBlank_eq_false_of_mem_keyword h
  simp [text, hsymbol, hdigits, hword]

namespace Expr

theorem line_feed_notMem_text {e : Expr} (h : '\n' ∉ e.root) : '\n' ∉ e.text := by
  rw [text, List.mem_append, not_or, List.mem_flatMap]
  refine ⟨h, ?_⟩
  rintro ⟨s, -, hs⟩
  exact s.line_feed_notMem_text hs

/-- The variable of an accepted expression has no line feed, for that is a blank. -/
theorem line_feed_notMem_root {limits : Limits} {input : Text} {e : Expr}
    (h : parse limits input = .ok e) : '\n' ∉ e.root := by
  intro hroot
  have hname := TokenKind.isRun_variableName_iff.2 (isWithin_of_parse h).root
  cases hname.isBlank_eq_false hroot

/-- What goes wrong with a step is told by the expression up to it. -/
theorem line_feed_notMem_of_run {done : Expr} {value : Value} {steps : List Step} {e : EvalError}
    (hroot : '\n' ∉ done.root) (h : run done value steps = .error e) : '\n' ∉ e.token := by
  induction steps generalizing done value with
  | nil => cases h
  | cons s steps ih =>
    have hpush : '\n' ∉ (done.push s).root := hroot
    unfold run at h
    split at h
    · split at h
      · exact ih hpush h
      · cases h
        exact line_feed_notMem_text hpush
    · cases h
      exact line_feed_notMem_text hroot

theorem line_feed_notMem_of_evaluate {values : Text → Option Value} {e : Expr} {err : EvalError}
    (hroot : '\n' ∉ e.root) (h : e.evaluate values = .error err) : '\n' ∉ err.token := by
  have hname : '\n' ∉ (ofName e.root).root := hroot
  unfold evaluate at h
  split at h
  · cases h
    exact hroot
  · exact line_feed_notMem_of_run hname h

/-- What a failure of reading cites is a part of what is read. -/
theorem subset_of_parse {limits : Limits} {input part : Text} {e : SyntaxError}
    (h : parse limits input = .error e) (hpart : e.token? = some part) : part ⊆ input := by
  obtain ⟨place, hplace⟩ : ∃ place, (ExprError.parsing e).offset? = some place := by
    cases e with
    | tooLong length max => cases hpart
    | _ => exact ⟨_, rfl⟩
  obtain ⟨part', hpart', front, back, htrim, -⟩ := (pointsInto_of_parse h).standsAt place hplace
  have hsame : some part = some part' := hpart.symm.trans hpart'
  obtain rfl := Option.some.inj hsame
  intro c hc
  obtain ⟨before, after, -, -, hinput⟩ := Text.exists_append_trim input
  rw [hinput, htrim]
  simp [hc]

end Expr

/-! ## The messages of tokens -/

/-- Every token of a leftmost template is on one line. -/
theorem Template.Leftmost.isInner_of_mem {template : Template} (h : template.Leftmost)
    {inner : Text} (hinner : inner ∈ template.tokens) : IsInner inner := by
  induction template with
  | last gap => cases hinner
  | token gap first rest ih =>
    obtain ⟨-, hfirst, hrest⟩ := h
    rcases List.mem_cons.1 hinner with rfl | hmem
    · exact hfirst
    · exact ih hrest hmem

theorem Template.line_feed_notMem_of_mem_tokens {input inner : Text}
    (h : inner ∈ (ofText input).tokens) : '\n' ∉ inner :=
  ((leftmost_ofText input).isInner_of_mem h).oneLine

/-- **What goes wrong with a text on one line is told on one line.** -/
theorem Engine.oneLine_message {engine : Engine} {context : Context} {input : Text} {e : ExprError}
    (hline : '\n' ∉ input) (h : engine.evaluate context input = .error e) : OneLine e.message := by
  cases e with
  | parsing e =>
    have hparse := evaluate_eq_error_parsing_iff.1 h
    exact SyntaxError.oneLine_message fun part hpart hmem =>
      hline (Expr.subset_of_parse hparse hpart hmem)
  | evaluation e =>
    obtain ⟨expr, hparse, hvalue⟩ := evaluate_eq_error_evaluation_iff.1 h
    exact EvalError.oneLine_message
      (Expr.line_feed_notMem_of_evaluate (Expr.line_feed_notMem_root hparse) hvalue)

end DateTemplate
