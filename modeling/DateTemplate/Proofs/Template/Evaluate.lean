import DateTemplate.Template.Engine

set_option autoImplicit false

/-!
# What one token comes to

The value of an expression is the value its variable resolves to or a date that its steps lead to,
and nothing but that variable is looked up. Main statements: `evaluate_eq_ok_iff`,
`evaluate_eq_error_evaluation_iff`, `mem_references_iff` and `evaluate_congr`.
-/

namespace DateTemplate

namespace Expr

/-- What steps lead to is a date; without steps it is the value they set out from. -/
theorem run_eq_ok {done : Expr} {value result : Value} {steps : List Step}
    (h : run done value steps = .ok result) : result = value ∨ ∃ d, result = .date d := by
  induction steps generalizing done value with
  | nil =>
    cases h
    exact Or.inl rfl
  | cons s steps ih =>
    simp only [run] at h
    split at h
    · split at h
      · next d' _ =>
        rcases ih h with rfl | hdate
        · exact Or.inr ⟨d', rfl⟩
        · exact Or.inr hdate
      · cases h
    · cases h

theorem evaluate_congr {values values' : Text → Option Value} {e : Expr}
    (h : values e.root = values' e.root) : e.evaluate values = e.evaluate values' := by
  simp only [evaluate, h]

end Expr

/-! ## The groups of failures -/

namespace ExprError

variable {e : ExprError}

/-- A failure of reading is known by its group. -/
theorem code_parsing_iff :
    e.code = .parseError ∨ e.code = .expressionTooLong ↔ ∃ e', e = .parsing e' := by
  cases e with
  | parsing e' => cases e' <;> simp [code, SyntaxError.code]
  | evaluation e' => cases e' <;> simp [code, EvalError.code]

/-- So is an undefined variable. -/
theorem code_undefinedVariable_iff :
    e.code = .undefinedVariable ↔ ∃ name, e = .evaluation (.undefinedVariable name) := by
  cases e with
  | parsing e' => cases e' <;> simp [code, SyntaxError.code]
  | evaluation e' => cases e' <;> simp [code, EvalError.code]

end ExprError

namespace Engine

variable {engine : Engine} {context : Context} {input : Text}

/-- An expression has a value if it can be read and what is read has one. -/
theorem evaluate_eq_ok_iff {t : Text} :
    engine.evaluate context input = .ok t ↔
      ∃ e value, engine.parse input = .ok e ∧ engine.valueOf context e = .ok value ∧
        t = value.toText := by
  unfold evaluate
  constructor
  · intro h
    split at h
    · cases h
    · next e he =>
      split at h
      · cases h
      · next value hvalue =>
        cases h
        exact ⟨e, value, he, hvalue, rfl⟩
  · rintro ⟨e, value, he, hvalue, rfl⟩
    simp only [he, hvalue]

/-- A text fails to be read as an expression just as reading alone fails. -/
theorem evaluate_eq_error_parsing_iff {err : SyntaxError} :
    engine.evaluate context input = .error (.parsing err) ↔ engine.parse input = .error err := by
  unfold evaluate
  cases engine.parse input with
  | error e => simp
  | ok e =>
    dsimp only
    cases engine.valueOf context e <;> simp

/-- An expression fails to have a value if it can be read and what is read has none. -/
theorem evaluate_eq_error_evaluation_iff {err : EvalError} :
    engine.evaluate context input = .error (.evaluation err) ↔
      ∃ e, engine.parse input = .ok e ∧ engine.valueOf context e = .error err := by
  unfold evaluate
  cases engine.parse input with
  | error e => simp
  | ok e =>
    dsimp only
    cases hvalue : engine.valueOf context e <;> simp [hvalue]

/-- The variables of a text are those its tokens begin with, where a token is an expression. -/
theorem mem_references_iff {name : Text} :
    name ∈ engine.references input ↔
      ∃ inner ∈ (Template.ofText input).tokens, ∃ e,
        engine.parse (Text.trim inner) = .ok e ∧ e.root = name := by
  rw [references, List.mem_eraseDups, List.mem_filterMap]
  refine exists_congr fun inner => and_congr_right fun _ => ?_
  cases engine.parse (Text.trim inner) with
  | error e => simp
  | ok e => simp

/-- An expression depends on the variable it begins with and on no other. -/
theorem evaluate_congr {limits : Limits} {system system' : SystemVariables}
    {context context' : Context}
    (h : ∀ e, Expr.parse limits input = .ok e →
      resolve context system e.root = resolve context' system' e.root) :
    (mk limits system).evaluate context input = (mk limits system').evaluate context' input := by
  unfold evaluate parse valueOf
  cases hparse : Expr.parse limits input with
  | error e => rfl
  | ok e => simp only [Expr.evaluate_congr (h e hparse)]

end Engine

end DateTemplate
