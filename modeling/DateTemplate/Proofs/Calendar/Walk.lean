import DateTemplate.Calendar.Interval

set_option autoImplicit false

/-!
# Steps one after the other

A chain of steps leads from date to date until all are taken or one leads out of the calendar. Main
statements: `walk_eq_ok_iff`, all are taken just if folding them over dates gives a date;
`walk_eq_error_iff`, a walk ends at the first step that leads out of the calendar.
-/

namespace DateTemplate

/-- The other direction. -/
def Direction.opposite : Direction → Direction
  | add => subtract
  | subtract => add

/-- The step as far in the other direction. -/
def Step.opposite (s : Step) : Step := { s with direction := s.direction.opposite }

theorem Direction.apply_opposite (direction : Direction) (n : Nat) :
    direction.opposite.apply n = -direction.apply n := by
  cases direction <;> simp [opposite, apply]

namespace Date

/-- The date that steps lead to, each taken from where the one before it leads; `none` when one of
them leads out of the calendar. -/
def shiftAll? (d : Date) (steps : List Step) : Option Date :=
  steps.foldlM (fun d s => s.shift? d) d

/-- The date that steps lead to, or the number of steps that can be taken before the first that leads
out of the calendar. -/
def walk (d : Date) : List Step → Except Nat Date
  | [] => .ok d
  | s :: steps =>
    match s.shift? d with
    | some d => (d.walk steps).mapError (· + 1)
    | none => .error 0

variable {d d' e : Date} {s : Step} {steps : List Step} {n : Nat}

@[simp] theorem shiftAll?_nil (d : Date) : d.shiftAll? [] = some d := rfl

theorem shiftAll?_cons (d : Date) (s : Step) (steps : List Step) :
    d.shiftAll? (s :: steps) = (s.shift? d).bind (·.shiftAll? steps) := by
  rw [shiftAll?, List.foldlM_cons]
  rfl

theorem shiftAll?_append (d : Date) (steps more : List Step) :
    d.shiftAll? (steps ++ more) = (d.shiftAll? steps).bind (·.shiftAll? more) := by
  rw [shiftAll?, List.foldlM_append]
  rfl

theorem walk_cons_of_eq_none (h : s.shift? d = none) : d.walk (s :: steps) = .error 0 := by
  rw [walk, h]

theorem walk_cons_of_eq_some (h : s.shift? d = some d') :
    d.walk (s :: steps) = (d'.walk steps).mapError (· + 1) := by
  rw [walk, h]

theorem walk_cons_eq_ok_iff (h : s.shift? d = some d') :
    d.walk (s :: steps) = .ok e ↔ d'.walk steps = .ok e := by
  rw [walk_cons_of_eq_some h]
  cases d'.walk steps with
  | ok d'' => exact Iff.rfl
  | error m =>
    show Except.error (m + 1) = .ok e ↔ Except.error m = .ok e
    simp

theorem walk_cons_eq_error_iff (h : s.shift? d = some d') :
    d.walk (s :: steps) = .error n ↔ ∃ m, d'.walk steps = .error m ∧ m + 1 = n := by
  rw [walk_cons_of_eq_some h]
  cases d'.walk steps with
  | ok d'' =>
    show Except.ok d'' = .error n ↔ ∃ m, Except.ok d'' = .error m ∧ m + 1 = n
    simp
  | error m =>
    show Except.error (m + 1) = .error n ↔ ∃ m', Except.error m = .error m' ∧ m' + 1 = n
    simp

theorem walk_eq_ok_iff : d.walk steps = .ok e ↔ d.shiftAll? steps = some e := by
  induction steps generalizing d with
  | nil => simp [walk]
  | cons s steps ih =>
    rw [shiftAll?_cons]
    cases hshift : s.shift? d with
    | none => simp [walk_cons_of_eq_none hshift]
    | some d' => rw [walk_cons_eq_ok_iff hshift, Option.bind_some, ih]

/-- A walk that ends early has taken the steps before one that leads out of the calendar. -/
theorem walk_eq_error_iff :
    d.walk steps = .error n ↔
      ∃ (e : Date) (h : n < steps.length), d.shiftAll? (steps.take n) = some e ∧
        steps[n].shift? e = none := by
  induction steps generalizing d n with
  | nil => simp [walk]
  | cons s steps ih =>
    cases hshift : s.shift? d with
    | none =>
      rw [walk_cons_of_eq_none hshift]
      cases n with
      | zero => simp [hshift]
      | succ n => simp [shiftAll?_cons, hshift]
    | some d' =>
      rw [walk_cons_eq_error_iff hshift]
      cases n with
      | zero => simp [hshift]
      | succ n => simp [shiftAll?_cons, hshift, ih]

theorem lt_length_of_walk (h : d.walk steps = .error n) : n < steps.length := by
  obtain ⟨-, hlt, -⟩ := walk_eq_error_iff.1 h
  exact hlt

end Date

end DateTemplate
