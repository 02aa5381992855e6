import DateTemplate.Proofs.Calendar.Days
import DateTemplate.Proofs.Expr.Outcome

set_option autoImplicit false

/-!
# Chains of days and weeks

Steps of days and weeks come to their net shift, so their order matters only to whether a day on the
way lies outside the calendar, and a step can be taken back. Main statements:
`evaluate_append_opposite`, a step and its opposite come to nothing; `evaluate_daily`, what such
expressions come to.
-/

namespace DateTemplate

namespace Date

open Step

/-- A step of days or weeks is taken back by its opposite. -/
theorem shift?_opposite {d e : Date} {s : Step} (hs : s.IsDaily) (h : s.shift? d = some e) :
    s.opposite.shift? e = some d := by
  rw [shift?_of_isDaily hs, addDays?_eq_some_iff] at h
  rw [shift?_of_isDaily (isDaily_opposite hs), addDays?_eq_some_iff, days_opposite]
  omega

theorem shiftAll?_append_opposite {d e : Date} {steps : List Step} {s : Step} (hs : s.IsDaily)
    (h : d.shiftAll? (steps ++ [s]) = some e) :
    d.shiftAll? (steps ++ [s, s.opposite]) = d.shiftAll? steps := by
  rw [shiftAll?_append] at h ⊢
  obtain ⟨d', hfront, hlast⟩ := Option.bind_eq_some_iff.1 h
  rw [shiftAll?_cons, Option.bind_eq_some_iff] at hlast
  obtain ⟨e', hmove, -⟩ := hlast
  rw [hfront, Option.bind_some, shiftAll?_cons, hmove, Option.bind_some, shiftAll?_cons,
    shift?_opposite hs hmove]
  rfl

end Date

namespace Expr

open Step

variable {values : Text → Option Value} {d : Date}

/-- A step of days or weeks with its opposite behind it leads back to the date before it. -/
theorem evaluate_append_opposite {root : Text} {steps : List Step} {s : Step} {value : Value}
    (hroot : values root = some (.date d)) (hs : s.IsDaily)
    (h : (Expr.mk root (steps ++ [s])).evaluate values = .ok value) :
    (Expr.mk root (steps ++ [s, s.opposite])).evaluate values =
      (Expr.mk root steps).evaluate values := by
  obtain ⟨e, he, -⟩ := (evaluate_of_date_eq_ok_iff (e := ⟨root, steps ++ [s]⟩) hroot).1 h
  have hback := Date.shiftAll?_append_opposite hs he
  rw [Date.shiftAll?_append, Option.bind_eq_some_iff] at he
  obtain ⟨d', hfront, -⟩ := he
  rw [hfront] at hback
  rw [(evaluate_of_date_eq_ok_iff (e := ⟨root, steps⟩) hroot).2 ⟨d', hfront, rfl⟩,
    (evaluate_of_date_eq_ok_iff (e := ⟨root, steps ++ [s, s.opposite]⟩) hroot).2 ⟨d', hback, rfl⟩]

theorem evaluate_daily_eq_ok_iff {e : Expr} {value : Value}
    (hroot : values e.root = some (.date d)) (hsteps : ∀ s ∈ e.steps, s.IsDaily) :
    e.evaluate values = .ok value ↔
      (∀ n < e.steps.length, d.daysOn? (netDays (e.steps.take (n + 1))) ≠ none) ∧
        ∃ d', d.daysOn? (netDays e.steps) = some d' ∧ value = .date d' := by
  rw [evaluate_of_date_eq_ok_iff hroot]
  simp only [Date.shiftAll?_daily_eq_some_iff hsteps, Date.daysOn?_eq_addDays?, and_assoc,
    exists_and_left]

theorem evaluate_daily_eq_error_iff {e : Expr} {err : EvalError}
    (hroot : values e.root = some (.date d)) (hsteps : ∀ s ∈ e.steps, s.IsDaily) :
    e.evaluate values = .error err ↔
      ∃ n < e.steps.length,
        (∀ m < n, d.daysOn? (netDays (e.steps.take (m + 1))) ≠ none) ∧
          d.daysOn? (netDays (e.steps.take (n + 1))) = none ∧
            err = .outOfRange ⟨e.root, e.steps.take (n + 1)⟩ := by
  rw [evaluate_of_date_eq_error_iff hroot]
  simp only [Date.walk_daily_eq_error_iff hsteps, Date.daysOn?_eq_addDays?, and_assoc]

/-- **Days and weeks come to their net shift.** From a date, an expression whose steps are all of days
or weeks has the date so many days on as the steps come to, a week counting seven, if the sum of the
steps up to each of them leads to a day of the calendar; otherwise it fails at the first step whose
sum does not. So the same steps in any order have the same value if they have one, and any step of days
or weeks is taken back by its opposite. -/
theorem evaluate_daily (values : Text → Option Value) (e : Expr) (d : Date)
    (hroot : values e.root = some (.date d)) (hsteps : ∀ s ∈ e.steps, s.IsDaily) :
    (∀ value, e.evaluate values = .ok value ↔
      (∀ n < e.steps.length, d.daysOn? (netDays (e.steps.take (n + 1))) ≠ none) ∧
        ∃ d', d.daysOn? (netDays e.steps) = some d' ∧ value = .date d') ∧
    (∀ err, e.evaluate values = .error err ↔
      ∃ n < e.steps.length,
        (∀ m < n, d.daysOn? (netDays (e.steps.take (m + 1))) ≠ none) ∧
          d.daysOn? (netDays (e.steps.take (n + 1))) = none ∧
            err = .outOfRange ⟨e.root, e.steps.take (n + 1)⟩) ∧
    (∀ steps value value', steps.Perm e.steps → e.evaluate values = .ok value →
      (Expr.mk e.root steps).evaluate values = .ok value' → value' = value) ∧
    ∀ steps s value, s.IsDaily → (Expr.mk e.root (steps ++ [s])).evaluate values = .ok value →
      (Expr.mk e.root (steps ++ [s, s.opposite])).evaluate values =
        (Expr.mk e.root steps).evaluate values := by
  refine ⟨fun value => evaluate_daily_eq_ok_iff hroot hsteps,
    fun err => evaluate_daily_eq_error_iff hroot hsteps, ?_,
    fun steps s value hs h => evaluate_append_opposite hroot hs h⟩
  intro steps value value' hperm hvalue hvalue'
  have hsteps' : ∀ s ∈ steps, s.IsDaily := fun s hs => hsteps s (hperm.subset hs)
  obtain ⟨-, d₁, hd₁, rfl⟩ := (evaluate_daily_eq_ok_iff hroot hsteps).1 hvalue
  obtain ⟨-, d₂, hd₂, rfl⟩ :=
    (evaluate_daily_eq_ok_iff (e := ⟨e.root, steps⟩) hroot hsteps').1 hvalue'
  dsimp only at hd₂
  rw [netDays_eq_of_perm hperm, hd₁] at hd₂
  cases hd₂
  rfl

/-- On the last day of the calendar a week back and seven days on come to that day, and in the other
order they lead out of the calendar at once. -/
theorem evaluate_daily_last_day :
    (∀ s ∈ [Step.mk .subtract 1 .weeks, Step.mk .add 7 .days], s.IsDaily) ∧
    (Expr.mk "A".toList [⟨.subtract, 1, .weeks⟩, ⟨.add, 7, .days⟩]).evaluate
      (fun _ => some (.date Date.last)) = .ok (.date Date.last) ∧
    (Expr.mk "A".toList [⟨.add, 7, .days⟩, ⟨.subtract, 1, .weeks⟩]).evaluate
      (fun _ => some (.date Date.last)) =
        .error (.outOfRange ⟨"A".toList, [⟨.add, 7, .days⟩]⟩) := by
  have hsteps : ∀ s ∈ [Step.mk .subtract 1 .weeks, Step.mk .add 7 .days], s.IsDaily := by decide
  have hsteps' : ∀ s ∈ [Step.mk .add 7 .days, Step.mk .subtract 1 .weeks], s.IsDaily := by decide
  obtain ⟨hvalue, -⟩ := evaluate_daily (fun _ => some (.date Date.last))
    ⟨"A".toList, [⟨.subtract, 1, .weeks⟩, ⟨.add, 7, .days⟩]⟩ _ rfl hsteps
  obtain ⟨-, herror, -⟩ := evaluate_daily (fun _ => some (.date Date.last))
    ⟨"A".toList, [⟨.add, 7, .days⟩, ⟨.subtract, 1, .weeks⟩]⟩ _ rfl hsteps'
  refine ⟨hsteps, (hvalue _).2 ⟨by decide +kernel, Date.last, by decide +kernel, rfl⟩, ?_⟩
  exact (herror _).2 ⟨0, by decide, by simp, by decide +kernel, rfl⟩

end Expr

end DateTemplate
