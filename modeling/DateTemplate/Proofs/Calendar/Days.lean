import DateTemplate.Proofs.Calendar.Succession
import DateTemplate.Proofs.Calendar.Walk
import Mathlib.Algebra.BigOperators.Group.List.Basic
import Mathlib.Algebra.Ring.Int.Defs

set_option autoImplicit false

/-!
# Moving by days

A step of days or weeks leads so many days on, whatever months it passes, so such steps add up. Main
statements: `daysOn?_eq_addDays?`, days are counted out one by one; `shiftAll?_daily_eq_some_iff`, a
chain of such steps leads to the day of its net shift if no day on the way lies outside the calendar;
`walk_daily_eq_error_iff`, and otherwise it ends at the first that does.
-/

namespace DateTemplate

/-! ## Steps of days and weeks -/

namespace Step

/-- A step of days or of weeks. -/
def IsDaily (s : Step) : Prop := s.unit = .days ∨ s.unit = .weeks

instance (s : Step) : Decidable s.IsDaily := inferInstanceAs (Decidable (_ ∨ _))

/-- The days that a step moves a date on, or back when their number is negative. A week is seven days;
months and years are no days. -/
def days (s : Step) : Int :=
  match s.unit with
  | .days => s.direction.apply s.amount
  | .weeks => s.direction.apply (7 * s.amount)
  | .months | .years => 0

/-- The days that steps move a date on one after the other, those back taken off. -/
def netDays (steps : List Step) : Int := (steps.map days).sum

theorem isDaily_opposite {s : Step} (h : s.IsDaily) : s.opposite.IsDaily := h

theorem days_opposite (s : Step) : s.opposite.days = -s.days := by
  unfold days opposite
  dsimp only
  split
  · exact s.direction.apply_opposite _
  · exact s.direction.apply_opposite _
  · rfl
  · rfl

/-- A step of days or weeks is a move by its days. -/
theorem shift?_of_isDaily {s : Step} (h : s.IsDaily) (d : Date) : s.shift? d = d.addDays? s.days := by
  obtain ⟨direction, n, unit⟩ := s
  rcases h with rfl | rfl
  · rfl
  · have hweeks : 7 * direction.apply n = direction.apply (7 * n) := by
      cases direction <;> simp only [Direction.apply] <;> omega
    show d.addDays? (7 * direction.apply n) = d.addDays? (direction.apply (7 * n))
    rw [hweeks]

@[simp] theorem netDays_nil : netDays [] = 0 := rfl

@[simp] theorem netDays_cons (s : Step) (steps : List Step) :
    netDays (s :: steps) = s.days + netDays steps := List.sum_cons

/-- The order of steps does not matter to their net shift. -/
theorem netDays_eq_of_perm {steps steps' : List Step} (h : steps.Perm steps') :
    netDays steps = netDays steps' := (h.map days).sum_eq

end Step

namespace Date

open Step

variable {d d' e : Date} {steps : List Step}

/-! ## Moves -/

/-- The date so many days on, or back when their number is negative, counted out from day to day. -/
def daysOn? (d : Date) (days : Int) : Option Date :=
  (Option.bind · (beside? (if 0 ≤ days then .add else .subtract)))^[days.natAbs] (some d)

theorem daysOn?_eq_addDays? (d : Date) (days : Int) : d.daysOn? days = d.addDays? days := by
  unfold daysOn?
  split
  · next hpos =>
    rw [← addDays?_apply, Direction.apply, Int.natAbs_of_nonneg hpos]
  · next hneg =>
    have hback : -(days.natAbs : Int) = days := by omega
    rw [← addDays?_apply, Direction.apply, hback]

/-- A move by days adds to the number of the day. -/
theorem addDays?_eq_some_iff {days : Int} :
    d.addDays? days = some e ↔ e.dayNumber = d.dayNumber + days := ofDayNumber?_eq_some_iff

@[simp] theorem addDays?_zero (d : Date) : d.addDays? 0 = some d := by
  rw [addDays?_eq_some_iff, Int.add_zero]

/-- A move from where another leads is one move. -/
theorem addDays?_of_eq_some {m : Int} (h : d.addDays? m = some d') (n : Int) :
    d'.addDays? n = d.addDays? (m + n) := by
  rw [addDays?, addDays?, addDays?_eq_some_iff.1 h, Int.add_assoc]

/-! ## Chains of moves -/

/-- Steps of days and weeks lead to the date of their net shift, if each of them leads to a date. -/
theorem shiftAll?_daily_eq_some_iff (h : ∀ s ∈ steps, s.IsDaily) :
    d.shiftAll? steps = some e ↔
      (∀ n < steps.length, d.addDays? (netDays (steps.take (n + 1))) ≠ none) ∧
        d.addDays? (netDays steps) = some e := by
  induction steps generalizing d with
  | nil => simp
  | cons s steps ih =>
    obtain ⟨hs, hsteps⟩ := List.forall_mem_cons.1 h
    rw [shiftAll?_cons, shift?_of_isDaily hs, List.length_cons, Nat.forall_lt_succ_left]
    simp only [List.take_succ_cons, netDays_cons, List.take_zero, netDays_nil, Int.add_zero]
    cases hmove : d.addDays? s.days with
    | none => simp
    | some d' =>
      rw [Option.bind_some, ih hsteps]
      simp [addDays?_of_eq_some hmove]

/-- A walk by days and weeks ends early at the first step that leads out of the calendar by the net
shift up to there. -/
theorem walk_daily_eq_error_iff {n : Nat} (h : ∀ s ∈ steps, s.IsDaily) :
    d.walk steps = .error n ↔
      n < steps.length ∧ (∀ m < n, d.addDays? (netDays (steps.take (m + 1))) ≠ none) ∧
        d.addDays? (netDays (steps.take (n + 1))) = none := by
  induction steps generalizing d n with
  | nil => simp [walk]
  | cons s steps ih =>
    obtain ⟨hs, hsteps⟩ := List.forall_mem_cons.1 h
    have hshift := shift?_of_isDaily hs d
    simp only [List.take_succ_cons, netDays_cons]
    cases hmove : d.addDays? s.days with
    | none =>
      rw [walk_cons_of_eq_none (hshift.trans hmove)]
      cases n with
      | zero => simp [hmove]
      | succ n =>
        rw [Nat.forall_lt_succ_left]
        simp [hmove]
    | some d' =>
      rw [walk_cons_eq_error_iff (hshift.trans hmove)]
      cases n with
      | zero => simp [hmove]
      | succ n =>
        rw [Nat.forall_lt_succ_left]
        simp [hmove, ih hsteps, addDays?_of_eq_some hmove]

end Date

end DateTemplate
