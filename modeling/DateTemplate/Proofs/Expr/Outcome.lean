import DateTemplate.Proofs.Expr.Nesting

set_option autoImplicit false

/-!
# What an expression comes to

From a date the steps are taken one after the other, and the first that leads out of the calendar is
the one that is cited; from any other value no step can be taken, and the variable is cited. Main
statement: `evaluate_outcomes`, which says of each value and of each failure just when an expression
comes to it.
-/

namespace DateTemplate

theorem Value.kind_eq_date_iff {value : Value} : value.kind = .date ↔ ∃ d, value = .date d := by
  cases value <;> simp [kind]

namespace Expr

variable {values : Text → Option Value} {e : Expr}

/-! ## From a date and from another value -/

/-- From a date the steps are walked along. -/
theorem evaluate_of_date {d : Date} (h : values e.root = some (.date d)) :
    e.evaluate values =
      match d.walk e.steps with
      | .ok d => .ok (.date d)
      | .error n => .error (.outOfRange ⟨e.root, e.steps.take (n + 1)⟩) := by
  rw [evaluate, h]
  exact run_date (ofName e.root) d e.steps

/-- No step can be taken from a number or a text. -/
theorem evaluate_of_not_date {value : Value} (h : values e.root = some value)
    (hkind : value.kind ≠ .date) :
    e.evaluate values =
      if e.steps = [] then .ok value else .error (.typeMismatch (ofName e.root) value.kind) := by
  rw [evaluate, h]
  dsimp only
  cases e.steps with
  | nil => rfl
  | cons s steps =>
    cases value with
    | date d => exact absurd rfl hkind
    | number x => rfl
    | text t => rfl

theorem evaluate_of_date_eq_ok_iff {d : Date} {value : Value}
    (h : values e.root = some (.date d)) :
    e.evaluate values = .ok value ↔ ∃ d', d.shiftAll? e.steps = some d' ∧ value = .date d' := by
  rw [evaluate_of_date h]
  simp only [← Date.walk_eq_ok_iff]
  cases d.walk e.steps <;> simp [eq_comm]

theorem evaluate_of_date_eq_outOfRange_iff {d : Date} {moved : Expr}
    (h : values e.root = some (.date d)) :
    e.evaluate values = .error (.outOfRange moved) ↔
      ∃ n, d.walk e.steps = .error n ∧ moved = ⟨e.root, e.steps.take (n + 1)⟩ := by
  rw [evaluate_of_date h]
  cases d.walk e.steps <;> simp [eq_comm]

/-- From a date the steps can only lead out of the calendar. -/
theorem evaluate_of_date_eq_error_iff {d : Date} {err : EvalError}
    (h : values e.root = some (.date d)) :
    e.evaluate values = .error err ↔
      ∃ n, d.walk e.steps = .error n ∧ err = .outOfRange ⟨e.root, e.steps.take (n + 1)⟩ := by
  rw [evaluate_of_date h]
  cases d.walk e.steps <;> simp [eq_comm]

theorem evaluate_of_date_ne_typeMismatch {d : Date} (h : values e.root = some (.date d))
    (base : Expr) (found : Value.Kind) :
    e.evaluate values ≠ .error (.typeMismatch base found) := by
  rw [evaluate_of_date h]
  cases d.walk e.steps <;> simp

/-! ## The outcomes -/

theorem evaluate_eq_ok_iff {value : Value} :
    e.evaluate values = .ok value ↔
      (e.steps = [] ∧ values e.root = some value) ∨
      ∃ d₀ d : Date, values e.root = some (.date d₀) ∧ d₀.shiftAll? e.steps = some d ∧
        value = .date d := by
  cases hroot : values e.root with
  | none => simp [evaluate, hroot]
  | some value₀ =>
    by_cases hkind : value₀.kind = .date
    · obtain ⟨d₀, rfl⟩ := Value.kind_eq_date_iff.1 hkind
      rw [evaluate_of_date_eq_ok_iff hroot]
      constructor
      · rintro ⟨d, hshift, rfl⟩
        exact Or.inr ⟨d₀, d, rfl, hshift, rfl⟩
      · rintro (⟨hsteps, hvalue⟩ | ⟨d, d', hd, hshift, rfl⟩)
        · cases hvalue
          exact ⟨d₀, by rw [hsteps, Date.shiftAll?_nil], rfl⟩
        · cases hd
          exact ⟨d', hshift, rfl⟩
    · rw [evaluate_of_not_date hroot hkind]
      constructor
      · intro h
        split at h
        · next hsteps =>
          cases h
          exact Or.inl ⟨hsteps, rfl⟩
        · cases h
      · rintro (⟨hsteps, hvalue⟩ | ⟨d, -, hd, -⟩)
        · cases hvalue
          exact if_pos hsteps
        · cases hd
          exact absurd rfl hkind

theorem evaluate_eq_typeMismatch_iff {base : Expr} {found : Value.Kind} :
    e.evaluate values = .error (.typeMismatch base found) ↔
      e.steps ≠ [] ∧ base = ofName e.root ∧
        ∃ value, values e.root = some value ∧ value.kind = found ∧ found ≠ .date := by
  cases hroot : values e.root with
  | none => simp [evaluate, hroot]
  | some value =>
    by_cases hkind : value.kind = .date
    · obtain ⟨d, rfl⟩ := Value.kind_eq_date_iff.1 hkind
      simp only [evaluate_of_date_ne_typeMismatch hroot, false_iff]
      rintro ⟨-, -, value, hvalue, rfl, hfound⟩
      cases hvalue
      exact hfound rfl
    · rw [evaluate_of_not_date hroot hkind]
      constructor
      · intro h
        split at h
        · cases h
        · next hsteps =>
          cases h
          exact ⟨hsteps, rfl, value, rfl, rfl, hkind⟩
      · rintro ⟨hsteps, rfl, value', hvalue, rfl, -⟩
        cases hvalue
        exact if_neg hsteps

theorem evaluate_eq_outOfRange_iff {moved : Expr} :
    e.evaluate values = .error (.outOfRange moved) ↔
      ∃ (d₀ d : Date) (n : Nat) (h : n < e.steps.length), values e.root = some (.date d₀) ∧
        d₀.shiftAll? (e.steps.take n) = some d ∧ e.steps[n].shift? d = none ∧
        moved = ⟨e.root, e.steps.take (n + 1)⟩ := by
  cases hroot : values e.root with
  | none => simp [evaluate, hroot]
  | some value =>
    by_cases hkind : value.kind = .date
    · obtain ⟨d₀, rfl⟩ := Value.kind_eq_date_iff.1 hkind
      rw [evaluate_of_date_eq_outOfRange_iff hroot]
      constructor
      · rintro ⟨n, hwalk, rfl⟩
        obtain ⟨d, hlt, htake, hstop⟩ := Date.walk_eq_error_iff.1 hwalk
        exact ⟨d₀, d, n, hlt, rfl, htake, hstop, rfl⟩
      · rintro ⟨d, d', n, hlt, hd, htake, hstop, rfl⟩
        cases hd
        exact ⟨n, Date.walk_eq_error_iff.2 ⟨d', hlt, htake, hstop⟩, rfl⟩
    · rw [evaluate_of_not_date hroot hkind]
      constructor
      · intro h
        split at h <;> cases h
      · rintro ⟨d, -, -, -, hd, -⟩
        cases hd
        exact absurd rfl hkind

/-- **Evaluation is the left fold of the steps, and these are its failures.** A variable without a
value is reported whatever the steps. The value of a variable alone is the value of the expression. A
number or a text is reported with the variable alone, whatever step comes first. From a date, the
expression has the date that the steps lead to; if one of them leads out of the calendar, the
expression is reported that ends with the first such step. A recursion from the last step down to the
variable comes to the same, on as many levels as there are steps and on no fewer. -/
theorem evaluate_outcomes (values : Text → Option Value) (e : Expr) :
    (∀ name, e.evaluate values = .error (.undefinedVariable name) ↔
      values e.root = none ∧ e.root = name) ∧
    (∀ value, e.evaluate values = .ok value ↔
      (e.steps = [] ∧ values e.root = some value) ∨
      ∃ d₀ d : Date, values e.root = some (.date d₀) ∧ d₀.shiftAll? e.steps = some d ∧
        value = .date d) ∧
    (∀ base found, e.evaluate values = .error (.typeMismatch base found) ↔
      e.steps ≠ [] ∧ base = ofName e.root ∧
        ∃ value, values e.root = some value ∧ value.kind = found ∧ found ≠ .date) ∧
    (∀ moved, e.evaluate values = .error (.outOfRange moved) ↔
      ∃ (d₀ d : Date) (n : Nat) (h : n < e.steps.length), values e.root = some (.date d₀) ∧
        d₀.shiftAll? (e.steps.take n) = some d ∧ e.steps[n].shift? d = none ∧
        moved = ⟨e.root, e.steps.take (n + 1)⟩) ∧
    ∀ levels, e.nesting.evaluate? values levels =
      if e.steps.length ≤ levels then some (e.evaluate values) else none := by
  refine ⟨fun _ => evaluate_eq_undefinedVariable_iff, fun _ => evaluate_eq_ok_iff,
    fun _ _ => evaluate_eq_typeMismatch_iff, fun _ => evaluate_eq_outOfRange_iff, ?_⟩
  intro levels
  rw [Nesting.evaluate?_eq, Nesting.expr_nesting]
  rfl

end Expr

end DateTemplate
