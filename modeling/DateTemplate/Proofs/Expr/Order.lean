import DateTemplate.Proofs.Calendar.Days
import DateTemplate.Proofs.Calendar.Months
import DateTemplate.Proofs.Expr.Outcome

set_option autoImplicit false

/-!
# The order of dates

Dates follow one another by year, month and day, and so do their numbers. Main statements:
`le_iff_dayNumber_le`; `shift?_mono`, a step of any unit keeps the order of two dates, even where it
cuts a day down to the length of its month; `evaluate_mono`, so does a whole chain of steps.
-/

namespace DateTemplate

namespace Step

theorem isDaily_or_isMonthly (s : Step) : s.IsDaily ∨ s.IsMonthly := by
  unfold IsDaily IsMonthly
  cases s.unit <;> simp

end Step

namespace Date

open Calendar

/-- One date is no later than another: by its year, in the same year by its month, and in the same
month by its day. -/
instance : LE Date where
  le d e := d.year < e.year ∨
    d.year = e.year ∧ (d.month < e.month ∨ d.month = e.month ∧ d.day ≤ e.day)

instance (d e : Date) : Decidable (d ≤ e) := inferInstanceAs (Decidable (_ ∨ _ ∧ (_ ∨ _ ∧ _)))

variable {d d' e e' : Date} {s : Step} {steps : List Step}

/-! ## Months and days in order -/

theorem le_iff : d ≤ e ↔ d.year < e.year ∨
    d.year = e.year ∧ (d.month < e.month ∨ d.month = e.month ∧ d.day ≤ e.day) := Iff.rfl

theorem le_iff_monthIndex :
    d ≤ e ↔ d.monthIndex < e.monthIndex ∨ d.monthIndex = e.monthIndex ∧ d.day ≤ e.day := by
  obtain ⟨-, -, hmonth₁, hmonth₂, -⟩ := d.isReal
  obtain ⟨-, -, hmonth₁', hmonth₂', -⟩ := e.isReal
  rw [le_iff]
  unfold monthIndex
  omega

/-- A day lies before the first of the next month. -/
theorem dayNumber_lt_daysBeforeMonth (d : Date) :
    d.dayNumber < daysBeforeYear d.year + daysBeforeMonth d.year (d.month + 1) := by
  obtain ⟨-, -, -, -, hday₁, hday₂⟩ := d.isReal
  rw [dayNumber, daysBeforeMonth_add_one]
  omega

theorem dayNumber_lt_of_monthIndex_lt (h : d.monthIndex < e.monthIndex) :
    d.dayNumber < e.dayNumber := by
  obtain ⟨-, -, hmonth₁, hmonth₂, -⟩ := d.isReal
  obtain ⟨-, -, hmonth₁', hmonth₂', -⟩ := e.isReal
  have hnext := d.dayNumber_lt_daysBeforeMonth
  unfold monthIndex at h
  rcases Int.lt_trichotomy d.year e.year with hyear | hyear | hyear
  · -- The rest of the year of `d` lies between the two.
    have hmonths := daysBeforeMonth_mono d.year (show d.month + 1 ≤ 13 by omega)
    have hyears := daysBeforeYear_mono (Int.add_one_le_of_lt hyear)
    have hstart : daysBeforeYear e.year ≤ e.dayNumber := by
      unfold dayNumber
      omega
    rw [daysBeforeMonth_thirteen] at hmonths
    rw [daysBeforeYear_add_one] at hyears
    omega
  · have hmonths := daysBeforeMonth_mono d.year (show d.month + 1 ≤ e.month by omega)
    have hstart : daysBeforeYear e.year + daysBeforeMonth e.year e.month ≤ e.dayNumber := by
      unfold dayNumber
      omega
    rw [hyear] at hnext hmonths
    omega
  · omega

/-- The numbers of days follow the order of dates. -/
theorem le_iff_dayNumber_le : d ≤ e ↔ d.dayNumber ≤ e.dayNumber := by
  rw [le_iff_monthIndex]
  rcases Int.lt_trichotomy d.monthIndex e.monthIndex with hlt | heq | hgt
  · have := dayNumber_lt_of_monthIndex_lt hlt
    omega
  · rw [dayNumber_le_iff heq]
    omega
  · have := dayNumber_lt_of_monthIndex_lt hgt
    omega

/-! ## Moves in order -/

theorem addDays?_mono {n : Int} (hle : d ≤ e) (hd : d.addDays? n = some d')
    (he : e.addDays? n = some e') : d' ≤ e' := by
  rw [le_iff_dayNumber_le] at hle ⊢
  rw [addDays?_eq_some_iff] at hd he
  omega

/-- Two days of one month may be cut down to the same day, but not past each other. -/
theorem addMonths?_mono {n : Int} (hle : d ≤ e) (hd : d.addMonths? n = some d')
    (he : e.addMonths? n = some e') : d' ≤ e' := by
  rw [le_iff_monthIndex] at hle ⊢
  obtain ⟨hmonth, hday⟩ := addMonths?_eq_some_iff.1 hd
  obtain ⟨hmonth', hday'⟩ := addMonths?_eq_some_iff.1 he
  rcases hle with hlt | ⟨heq, hle⟩
  · exact Or.inl (by omega)
  · rw [← heq] at hday'
    exact Or.inr ⟨by omega, by omega⟩

/-- A step leads two dates to dates in the same order. -/
theorem shift?_mono (hle : d ≤ e) (hd : s.shift? d = some d') (he : s.shift? e = some e') :
    d' ≤ e' := by
  rcases s.isDaily_or_isMonthly with hs | hs
  · rw [Step.shift?_of_isDaily hs] at hd he
    exact addDays?_mono hle hd he
  · rw [Step.shift?_of_isMonthly hs] at hd he
    exact addMonths?_mono hle hd he

/-- So do steps taken one after the other. -/
theorem shiftAll?_mono (hle : d ≤ e) (hd : d.shiftAll? steps = some d')
    (he : e.shiftAll? steps = some e') : d' ≤ e' := by
  induction steps generalizing d e with
  | nil =>
    cases hd
    cases he
    exact hle
  | cons s steps ih =>
    rw [shiftAll?_cons, Option.bind_eq_some_iff] at hd he
    obtain ⟨d₁, hd₁, hd⟩ := hd
    obtain ⟨e₁, he₁, he⟩ := he
    exact ih (shift?_mono hle hd₁ he₁) hd he

end Date

namespace Expr

/-- **Chains of steps keep the order of dates.** Whatever the steps are, where two variables have
dates and the same steps behind each of them lead to values, these are dates too, and the one from the
earlier date is no later than the other. -/
theorem evaluate_mono (values values' : Text → Option Value) (root root' : Text)
    (steps : List Step) (d d' : Date) (value value' : Value)
    (hroot : values root = some (.date d)) (hroot' : values' root' = some (.date d'))
    (hle : d ≤ d') (hvalue : (Expr.mk root steps).evaluate values = .ok value)
    (hvalue' : (Expr.mk root' steps).evaluate values' = .ok value') :
    ∃ e e', value = .date e ∧ value' = .date e' ∧ e ≤ e' := by
  obtain ⟨e, he, rfl⟩ := (evaluate_of_date_eq_ok_iff (e := ⟨root, steps⟩) hroot).1 hvalue
  obtain ⟨e', he', rfl⟩ := (evaluate_of_date_eq_ok_iff (e := ⟨root', steps⟩) hroot').1 hvalue'
  exact ⟨e, e', rfl, rfl, Date.shiftAll?_mono hle he he'⟩

/-- The end of January is cut down to the end of February, and so it does not pass the first of March. -/
theorem evaluate_mono_month_end :
    (⟨2026, 1, 31, by decide⟩ : Date) ≤ ⟨2026, 2, 1, by decide⟩ ∧
    (Expr.mk "A".toList [⟨.add, 1, .months⟩, ⟨.subtract, 2, .weeks⟩]).evaluate
      (fun _ => some (.date ⟨2026, 1, 31, by decide⟩)) = .ok (.date ⟨2026, 2, 14, by decide⟩) ∧
    (Expr.mk "B".toList [⟨.add, 1, .months⟩, ⟨.subtract, 2, .weeks⟩]).evaluate
      (fun _ => some (.date ⟨2026, 2, 1, by decide⟩)) = .ok (.date ⟨2026, 2, 15, by decide⟩) ∧
    (⟨2026, 2, 14, by decide⟩ : Date) ≤ ⟨2026, 2, 15, by decide⟩ := by
  have hle : (⟨2026, 1, 31, by decide⟩ : Date) ≤ ⟨2026, 2, 1, by decide⟩ := by decide
  have hearly : (Expr.mk "A".toList [⟨.add, 1, .months⟩, ⟨.subtract, 2, .weeks⟩]).evaluate
      (fun _ => some (.date ⟨2026, 1, 31, by decide⟩)) = .ok (.date ⟨2026, 2, 14, by decide⟩) := rfl
  have hlate : (Expr.mk "B".toList [⟨.add, 1, .months⟩, ⟨.subtract, 2, .weeks⟩]).evaluate
      (fun _ => some (.date ⟨2026, 2, 1, by decide⟩)) = .ok (.date ⟨2026, 2, 15, by decide⟩) := rfl
  obtain ⟨e, e', he, he', hkept⟩ := evaluate_mono _ _ _ _ _ _ _ _ _ rfl rfl hle hearly hlate
  cases he
  cases he'
  exact ⟨hle, hearly, hlate, hkept⟩

end Expr

end DateTemplate
