import DateTemplate.Proofs.Calendar.Succession
import DateTemplate.Proofs.Calendar.Walk

set_option autoImplicit false

/-!
# Moving by months

A step of months or years leads to the month so many on, and there to the same day, or to the last
where the month is shorter. Main statements: `addMonths?_eq_some_iff` and `addMonths?_eq_none_iff`,
where such a move leads and when it leads nowhere; `shift?_latest`, it leads to the latest date of that
month whose day is not above the day of the date that is moved.
-/

namespace DateTemplate

namespace Calendar

/-- The number of days in the month with a given number. -/
def monthLength (index : Int) : Nat := lengthOfMonth (index / 12) ((index % 12).toNat + 1)

theorem one_le_monthLength (index : Int) : 1 ≤ monthLength index := by
  have hlength : 28 ≤ monthLength index := le_lengthOfMonth _ (by omega) (by omega)
  omega

end Calendar

namespace Step

/-- A step of months or of years. -/
def IsMonthly (s : Step) : Prop := s.unit = .months ∨ s.unit = .years

instance (s : Step) : Decidable s.IsMonthly := inferInstanceAs (Decidable (_ ∨ _))

/-- The months that a step moves a date on, or back when their number is negative. A year is twelve
months; days and weeks are no months. -/
def months (s : Step) : Int :=
  match s.unit with
  | .months => s.direction.apply s.amount
  | .years => s.direction.apply (12 * s.amount)
  | .days | .weeks => 0

theorem isMonthly_opposite {s : Step} (h : s.IsMonthly) : s.opposite.IsMonthly := h

theorem months_opposite (s : Step) : s.opposite.months = -s.months := by
  unfold months opposite
  dsimp only
  split
  · exact s.direction.apply_opposite _
  · exact s.direction.apply_opposite _
  · rfl
  · rfl

/-- A step of months or years is a move by its months. -/
theorem shift?_of_isMonthly {s : Step} (h : s.IsMonthly) (d : Date) :
    s.shift? d = d.addMonths? s.months := by
  obtain ⟨direction, n, unit⟩ := s
  rcases h with rfl | rfl
  · rfl
  · have hyears : 12 * direction.apply n = direction.apply (12 * n) := by
      cases direction <;> simp only [Direction.apply] <;> omega
    show d.addMonths? (12 * direction.apply n) = d.addMonths? (direction.apply (12 * n))
    rw [hyears]

end Step

namespace Date

open Calendar

variable {d e : Date}

/-! ## The number of a month -/

theorem monthIndex_eq_iff {index : Int} :
    d.monthIndex = index ↔ d.year = index / 12 ∧ d.month = (index % 12).toNat + 1 := by
  obtain ⟨-, -, hmonth₁, hmonth₂, -⟩ := d.isReal
  unfold monthIndex
  omega

theorem monthIndex_eq_monthIndex_iff :
    d.monthIndex = e.monthIndex ↔ d.year = e.year ∧ d.month = e.month := by
  obtain ⟨hyear, hmonth⟩ := (monthIndex_eq_iff (d := e)).1 rfl
  rw [monthIndex_eq_iff, hyear, hmonth]

/-- A date lies within its month. -/
theorem day_le_monthLength (d : Date) : d.day ≤ monthLength d.monthIndex := by
  obtain ⟨-, -, -, -, -, hday⟩ := d.isReal
  obtain ⟨hyear, hmonth⟩ := (monthIndex_eq_iff (d := d)).1 rfl
  rwa [monthLength, ← hyear, ← hmonth]

/-- Within a month the days follow one another by their numbers. -/
theorem dayNumber_le_iff (h : d.monthIndex = e.monthIndex) :
    d.dayNumber ≤ e.dayNumber ↔ d.day ≤ e.day := by
  obtain ⟨hyear, hmonth⟩ := monthIndex_eq_monthIndex_iff.1 h
  obtain ⟨-, -, -, -, hday, -⟩ := d.isReal
  obtain ⟨-, -, -, -, hday', -⟩ := e.isReal
  rw [dayNumber, dayNumber, hyear, hmonth]
  omega

theorem monthIndex_first : first.monthIndex = minYear * 12 := rfl

theorem monthIndex_last : last.monthIndex = maxYear * 12 + 11 := rfl

theorem monthIndex_bounds (d : Date) :
    first.monthIndex ≤ d.monthIndex ∧ d.monthIndex ≤ last.monthIndex := by
  obtain ⟨hyear₁, hyear₂, hmonth₁, hmonth₂, -⟩ := d.isReal
  rw [monthIndex_first, monthIndex_last, monthIndex]
  omega

theorem eq_of_monthIndex_eq (h : d.monthIndex = e.monthIndex) (hday : d.day = e.day) : d = e := by
  obtain ⟨hyear, hmonth⟩ := monthIndex_eq_monthIndex_iff.1 h
  rw [← Option.some.injEq, ← ofYMD?_self d, ofYMD?_eq_some_iff]
  exact ⟨hyear.symm, hmonth.symm, hday.symm⟩

/-! ## Moves -/

/-- A move by months leads to the month so many on, and to the same day or the last of that month. -/
theorem addMonths?_eq_some_iff {months : Int} :
    d.addMonths? months = some e ↔
      e.monthIndex = d.monthIndex + months ∧
        e.day = min d.day (monthLength (d.monthIndex + months)) := by
  rw [addMonths?, daysInMonth_eq_lengthOfMonth, ofYMD?_eq_some_iff, monthIndex_eq_iff, and_assoc]
  rfl

/-- Only the first and the last month of the calendar bound the moves by months. -/
theorem addMonths?_eq_none_iff {months : Int} :
    d.addMonths? months = none ↔
      d.monthIndex + months < first.monthIndex ∨ last.monthIndex < d.monthIndex + months := by
  have hlength := one_le_monthLength (d.monthIndex + months)
  obtain ⟨-, -, -, -, hday, -⟩ := d.isReal
  rw [addMonths?, daysInMonth_eq_lengthOfMonth, ofYMD?_eq_none_iff, monthIndex_first, monthIndex_last]
  unfold monthLength at hlength
  unfold IsReal
  omega

/-- **Months and years lead to the latest date of their month whose day is not above the day of the
date.** The number of a month names one month of one year. There is no date just if the month reached
lies before the first of the calendar or after the last. Otherwise the date is in that month, it is
the latest of the dates there whose day of the month is at most that of the date moved, and it has
another day only where the month has no such day. The words that hold an amount of 32 bits, its months
and the year and month reached come to the same. -/
theorem shift?_latest (d : Date) (s : Step) (hs : s.IsMonthly) :
    (∀ a b : Date, a.monthIndex = b.monthIndex ↔ a.year = b.year ∧ a.month = b.month) ∧
    (s.shift? d = none ↔
      d.monthIndex + s.months < first.monthIndex ∨ last.monthIndex < d.monthIndex + s.months) ∧
    (∀ e, s.shift? d = some e →
      e.monthIndex = d.monthIndex + s.months ∧ e.day ≤ d.day ∧
      (∀ e' : Date, e'.monthIndex = d.monthIndex + s.months → e'.day ≤ d.day →
        e'.dayNumber ≤ e.dayNumber) ∧
      (e.day ≠ d.day → ∀ e' : Date, e'.monthIndex = d.monthIndex + s.months → e'.day ≠ d.day)) ∧
    ∀ amount : BitVec 32, amount.toNat = s.amount →
      Step.shiftInWords? s.direction amount s.unit d = s.shift? d := by
  have hwords : ∀ amount : BitVec 32, amount.toNat = s.amount →
      Step.shiftInWords? s.direction amount s.unit d = s.shift? d := by
    intro amount hamount
    rw [Step.shiftInWords?_eq, hamount]
  refine ⟨fun a b => monthIndex_eq_monthIndex_iff, ?_, ?_, hwords⟩
  · rw [Step.shift?_of_isMonthly hs]
    exact addMonths?_eq_none_iff
  intro e he
  rw [Step.shift?_of_isMonthly hs] at he
  obtain ⟨hmonth, hday⟩ := addMonths?_eq_some_iff.1 he
  refine ⟨hmonth, by omega, ?_, ?_⟩
  · intro e' hmonth' hday'
    have hlength := e'.day_le_monthLength
    rw [hmonth'] at hlength
    rw [dayNumber_le_iff (hmonth'.trans hmonth.symm)]
    omega
  · intro hne e' hmonth'
    have hlength := e'.day_le_monthLength
    rw [hmonth'] at hlength
    omega

/-- A year after a leap day the date is the last of February. -/
theorem shift?_latest_leap_day :
    (Step.mk .add 1 .years).IsMonthly ∧
    (Step.mk .add 1 .years).shift? ⟨2024, 2, 29, by decide⟩ = some ⟨2025, 2, 28, by decide⟩ ∧
    ∀ e : Date, e.monthIndex = (⟨2025, 2, 28, by decide⟩ : Date).monthIndex → e.day ≠ 29 := by
  have hs : (Step.mk .add 1 .years).IsMonthly := Or.inr rfl
  have hshift : (Step.mk .add 1 .years).shift? ⟨2024, 2, 29, by decide⟩ =
      some ⟨2025, 2, 28, by decide⟩ := by decide
  obtain ⟨-, -, hlatest, -⟩ := shift?_latest ⟨2024, 2, 29, by decide⟩ ⟨.add, 1, .years⟩ hs
  obtain ⟨hmonth, -, -, hno⟩ := hlatest _ hshift
  refine ⟨hs, hshift, ?_⟩
  intro e he
  exact hno (by decide) e (he.trans hmonth)

end Date

end DateTemplate
