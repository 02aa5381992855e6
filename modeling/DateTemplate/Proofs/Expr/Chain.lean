import DateTemplate.Expr.Eval
import DateTemplate.Proofs.Calendar.Walk
import DateTemplate.Proofs.Value.NormalForm

set_option autoImplicit false

/-!
# Chains of steps

A chain moves a date step by step and stops at the first step that leads out of the calendar; what
the chain is called, and what was done before, matters only to the words of that failure. Main
statements: `run_date`, evaluation from a date is the walk along the steps; `evaluate_append`, an
evaluation can be stopped anywhere and taken up again; `evaluate_cut`, even from the text of the date
that was reached.
-/

namespace DateTemplate

namespace Expr

/-! ## Evaluation as a walk -/

/-- From a date the steps are walked along; the failure cites them up to the first that leads out of
the calendar. -/
theorem run_date (done : Expr) (d : Date) (steps : List Step) :
    run done (.date d) steps =
      match d.walk steps with
      | .ok d => .ok (.date d)
      | .error n => .error (.outOfRange ⟨done.root, done.steps ++ steps.take (n + 1)⟩) := by
  induction steps generalizing done d with
  | nil => rfl
  | cons s steps ih =>
    rw [run, Date.walk]
    cases hshift : s.shift? d with
    | none => rfl
    | some d' =>
      dsimp only
      rw [ih]
      cases d'.walk steps with
      | ok d'' => rfl
      | error n =>
        dsimp only [push]
        rw [List.append_assoc]
        rfl

/-- A run over two lists of steps goes on from the value that the first one leads to. -/
theorem run_append (done : Expr) (value : Value) (steps more : List Step) :
    run done value (steps ++ more) =
      match run done value steps with
      | .ok value => run ⟨done.root, done.steps ++ steps⟩ value more
      | .error e => .error e := by
  induction steps generalizing done value with
  | nil => simp [run]
  | cons s steps ih =>
    cases value with
    | date d =>
      simp only [List.cons_append, run]
      cases s.shift? d with
      | none => rfl
      | some d' => simp [ih, push]
    | number x => rfl
    | text t => rfl

theorem evaluate_append (values : Text → Option Value) (root : Text) (steps more : List Step) :
    (Expr.mk root (steps ++ more)).evaluate values =
      match (Expr.mk root steps).evaluate values with
      | .ok value => run ⟨root, steps⟩ value more
      | .error e => .error e := by
  unfold evaluate
  cases values root with
  | none => rfl
  | some value => exact run_append (ofName root) value steps more

theorem run_ne_undefinedVariable (done : Expr) (value : Value) (steps : List Step) (name : Text) :
    run done value steps ≠ .error (.undefinedVariable name) := by
  cases value with
  | date d =>
    rw [run_date]
    cases d.walk steps <;> simp
  | number x => cases steps <;> simp [run]
  | text t => cases steps <;> simp [run]

/-- The variable that is reported as undefined is the one the expression begins with. -/
theorem evaluate_eq_undefinedVariable_iff {values : Text → Option Value} {e : Expr} {name : Text} :
    e.evaluate values = .error (.undefinedVariable name) ↔ values e.root = none ∧ e.root = name := by
  unfold evaluate
  cases values e.root with
  | none => simp
  | some value => simp [run_ne_undefinedVariable]

/-! ## Chains cut in two -/

/-- The text of a date with four digits of a year stands for that date. -/
theorem resolve_of_get?_eq_text {context : Context} {system : SystemVariables} {name : Text}
    {d : Date} (hyear : 0 ≤ d.year ∧ d.year ≤ 9999)
    (h : context.get? name = some (Value.date d).toText) :
    resolve context system name = some (.date d) := by
  rw [resolve, h]
  dsimp only
  rw [Value.infer_toText_date, if_pos hyear]

/-- **A chain can be cut and taken up from its text.** Where the first steps of a chain lead to a
date whose year has four digits and no sign, the other steps behind any variable that is given the
text of that date come to what the whole chain comes to: the same value, or a failure at the same
step. -/
theorem evaluate_cut (context context' : Context) (system system' : SystemVariables) (e : Expr)
    (k : Nat) (d : Date) (name : Text)
    (hfront : (Expr.mk e.root (e.steps.take k)).evaluate (resolve context system) = .ok (.date d))
    (hyear : 0 ≤ d.year ∧ d.year ≤ 9999)
    (hname : context'.get? name = some (Value.date d).toText) :
    (∃ value, e.evaluate (resolve context system) = .ok value ∧
      (Expr.mk name (e.steps.drop k)).evaluate (resolve context' system') = .ok value) ∨
    ∃ n, k + n < e.steps.length ∧
      e.evaluate (resolve context system) =
        .error (.outOfRange ⟨e.root, e.steps.take (k + n + 1)⟩) ∧
      (Expr.mk name (e.steps.drop k)).evaluate (resolve context' system') =
        .error (.outOfRange ⟨name, (e.steps.drop k).take (n + 1)⟩) := by
  have hwhole : e.evaluate (resolve context system) =
      run ⟨e.root, e.steps.take k⟩ (.date d) (e.steps.drop k) := by
    have happend := evaluate_append (resolve context system) e.root (e.steps.take k)
      (e.steps.drop k)
    rwa [List.take_append_drop, hfront] at happend
  have hcut : (Expr.mk name (e.steps.drop k)).evaluate (resolve context' system') =
      run (ofName name) (.date d) (e.steps.drop k) := by
    rw [evaluate, resolve_of_get?_eq_text hyear hname]
  rw [hwhole, hcut, run_date, run_date]
  cases hwalk : d.walk (e.steps.drop k) with
  | ok d' => exact Or.inl ⟨.date d', rfl, rfl⟩
  | error n =>
    refine Or.inr ⟨n, ?_, ?_, rfl⟩
    · have hlt := Date.lt_length_of_walk hwalk
      rw [List.length_drop] at hlt
      omega
    · rw [Nat.add_assoc, List.take_add]

/-- Cut at the end of February, the chain goes on from the 28th as the whole chain does. -/
theorem evaluate_cut_month_end :
    (Expr.mk "A".toList [⟨.add, 1, .months⟩]).evaluate
        (resolve (Bindings.empty.insert "A".toList "2026-01-31".toList) .empty) =
      .ok (.date ⟨2026, 2, 28, by decide⟩) ∧
    (Bindings.empty.insert "B".toList "2026-02-28".toList : Context).get? "B".toList =
      some (Value.date ⟨2026, 2, 28, by decide⟩).toText ∧
    (Expr.mk "A".toList [⟨.add, 1, .months⟩, ⟨.add, 1, .months⟩]).evaluate
        (resolve (Bindings.empty.insert "A".toList "2026-01-31".toList) .empty) =
      .ok (.date ⟨2026, 3, 28, by decide⟩) ∧
    (Expr.mk "B".toList [⟨.add, 1, .months⟩]).evaluate
        (resolve (Bindings.empty.insert "B".toList "2026-02-28".toList) .empty) =
      .ok (.date ⟨2026, 3, 28, by decide⟩) := by
  have hfront : (Expr.mk "A".toList [⟨.add, 1, .months⟩]).evaluate
      (resolve (Bindings.empty.insert "A".toList "2026-01-31".toList) .empty) =
        .ok (.date ⟨2026, 2, 28, by decide⟩) := rfl
  have hname : (Bindings.empty.insert "B".toList "2026-02-28".toList : Context).get? "B".toList =
      some (Value.date ⟨2026, 2, 28, by decide⟩).toText := by decide +kernel
  have hwhole : (Expr.mk "A".toList [⟨.add, 1, .months⟩, ⟨.add, 1, .months⟩]).evaluate
      (resolve (Bindings.empty.insert "A".toList "2026-01-31".toList) .empty) =
        .ok (.date ⟨2026, 3, 28, by decide⟩) := rfl
  refine ⟨hfront, hname, hwhole, ?_⟩
  rcases evaluate_cut _ _ .empty .empty
    ⟨"A".toList, [⟨.add, 1, .months⟩, ⟨.add, 1, .months⟩]⟩ 1 _ _ hfront (by decide) hname with
    ⟨value, hvalue, hcut⟩ | ⟨n, -, herror, -⟩
  · rw [hwhole] at hvalue
    cases hvalue
    exact hcut
  · rw [hwhole] at herror
    cases herror

end Expr

end DateTemplate
