import DateTemplate.Proofs.Calendar.Months
import DateTemplate.Proofs.Expr.Outcome

set_option autoImplicit false

/-!
# Chains of months and years

Steps of months and years add up to the month that they lead to, but each of them cuts the day down
to the length of its month, and none restores it. Main statements: `exists_shiftAll?_monthly_iff` and
`fields_of_shiftAll?_monthly`, where such steps lead; `evaluate_monthly`, what such expressions come
to.
-/

namespace DateTemplate

namespace Date

open Calendar

/-! ## The months on the way -/

/-- The months that steps lead to from a month, one after each step, by their numbers. -/
def monthsReached (index : Int) : List Step → List Int
  | [] => []
  | s :: steps => (index + s.months) :: monthsReached (index + s.months) steps

variable {d e : Date} {steps : List Step}

/-- Steps of months and years lead to a date just if all months on the way are in range. -/
theorem exists_shiftAll?_monthly_iff (h : ∀ s ∈ steps, s.IsMonthly) :
    (∃ e, d.shiftAll? steps = some e) ↔
      ∀ index ∈ monthsReached d.monthIndex steps,
        first.monthIndex ≤ index ∧ index ≤ last.monthIndex := by
  induction steps generalizing d with
  | nil => simp [monthsReached]
  | cons s steps ih =>
    obtain ⟨hs, hsteps⟩ := List.forall_mem_cons.1 h
    rw [shiftAll?_cons, Step.shift?_of_isMonthly hs, monthsReached, List.forall_mem_cons]
    -- Past a month out of range there is no date for the other steps to go on from.
    by_cases hin : first.monthIndex ≤ d.monthIndex + s.months ∧
        d.monthIndex + s.months ≤ last.monthIndex
    · have hne : d.addMonths? s.months ≠ none := by
        rw [Ne, addMonths?_eq_none_iff]
        omega
      obtain ⟨d', hmove⟩ := Option.ne_none_iff_exists'.1 hne
      rw [hmove, Option.bind_some, ih hsteps, (addMonths?_eq_some_iff.1 hmove).1]
      exact ⟨fun hrest => ⟨hin, hrest⟩, fun hall => hall.2⟩
    · have hmove : d.addMonths? s.months = none := by
        rw [addMonths?_eq_none_iff]
        omega
      simp [hmove, hin]

/-- Steps of months and years add up, and the day is cut down to the length of each month on the
way. -/
theorem fields_of_shiftAll?_monthly (h : ∀ s ∈ steps, s.IsMonthly)
    (hreached : d.shiftAll? steps = some e) :
    e.monthIndex = steps.foldl (fun index s => index + s.months) d.monthIndex ∧
      e.day = ((monthsReached d.monthIndex steps).map monthLength).foldl min d.day := by
  induction steps generalizing d with
  | nil =>
    cases hreached
    simp [monthsReached]
  | cons s steps ih =>
    obtain ⟨hs, hsteps⟩ := List.forall_mem_cons.1 h
    rw [shiftAll?_cons, Step.shift?_of_isMonthly hs, Option.bind_eq_some_iff] at hreached
    obtain ⟨d', hmove, hrest⟩ := hreached
    obtain ⟨hmonth, hday⟩ := addMonths?_eq_some_iff.1 hmove
    obtain ⟨hmonth', hday'⟩ := ih hsteps hrest
    rw [hmonth] at hmonth' hday'
    rw [hday] at hday'
    exact ⟨hmonth', hday'⟩

/-- There and back again by months, a date comes to its own month, on its own day or the last day of
the month between. -/
theorem exists_shiftAll?_opposite (d : Date) {s : Step} (hs : s.IsMonthly)
    (hlo : first.monthIndex ≤ d.monthIndex + s.months)
    (hhi : d.monthIndex + s.months ≤ last.monthIndex) :
    ∃ e, d.shiftAll? [s, s.opposite] = some e ∧ e.monthIndex = d.monthIndex ∧
      e.day = min d.day (monthLength (d.monthIndex + s.months)) := by
  have hsteps : ∀ s' ∈ [s, s.opposite], s'.IsMonthly := by
    simpa using ⟨hs, Step.isMonthly_opposite hs⟩
  have hback : d.monthIndex + s.months + s.opposite.months = d.monthIndex := by
    rw [Step.months_opposite]
    omega
  -- The way leads over the month between and ends in the month where it began.
  have hway : monthsReached d.monthIndex [s, s.opposite] =
      [d.monthIndex + s.months, d.monthIndex] := by
    rw [monthsReached, monthsReached, monthsReached, hback]
  have hrange : ∀ index ∈ monthsReached d.monthIndex [s, s.opposite],
      first.monthIndex ≤ index ∧ index ≤ last.monthIndex := by
    rw [hway]
    simpa using ⟨⟨hlo, hhi⟩, d.monthIndex_bounds⟩
  obtain ⟨e, he⟩ := (exists_shiftAll?_monthly_iff hsteps).2 hrange
  obtain ⟨hmonth, hday⟩ := fields_of_shiftAll?_monthly hsteps he
  rw [hway] at hday
  refine ⟨e, he, ?_, ?_⟩
  · rw [hmonth, List.foldl_cons, List.foldl_cons, List.foldl_nil, hback]
  · have hlength := d.day_le_monthLength
    simp only [List.map_cons, List.map_nil, List.foldl_cons, List.foldl_nil] at hday
    omega

end Date

namespace Expr

open Calendar

/-- **Months and years add up, and the shortest month on the way counts.** From a date, an expression
whose steps are all of months or years has a value just if each month on the way, by the sum of the
months up to there, is in range. The value is then a date in the month of the whole sum, and its day
is the least of the day of the first date and the lengths of the months on the way. So a step and its
opposite lead back to the date just if the month between has its day, and else to an earlier day of
its month. -/
theorem evaluate_monthly (values : Text → Option Value) (e : Expr) (d : Date)
    (hroot : values e.root = some (.date d)) (hsteps : ∀ s ∈ e.steps, s.IsMonthly) :
    ((∃ value, e.evaluate values = .ok value) ↔
      ∀ index ∈ Date.monthsReached d.monthIndex e.steps,
        Date.first.monthIndex ≤ index ∧ index ≤ Date.last.monthIndex) ∧
    (∀ value, e.evaluate values = .ok value →
      ∃ d', value = .date d' ∧
        d'.monthIndex = e.steps.foldl (fun index s => index + s.months) d.monthIndex ∧
        d'.day = ((Date.monthsReached d.monthIndex e.steps).map monthLength).foldl min d.day) ∧
    ∀ s : Step, s.IsMonthly → Date.first.monthIndex ≤ d.monthIndex + s.months →
      d.monthIndex + s.months ≤ Date.last.monthIndex →
      ∃ d', (Expr.mk e.root [s, s.opposite]).evaluate values = .ok (.date d') ∧
        d'.monthIndex = d.monthIndex ∧ (d' = d ↔ d.day ≤ monthLength (d.monthIndex + s.months)) ∧
        (d' ≠ d → d'.day < d.day) := by
  simp only [evaluate_of_date_eq_ok_iff hroot]
  refine ⟨?_, ?_, ?_⟩
  · rw [← Date.exists_shiftAll?_monthly_iff hsteps]
    constructor
    · rintro ⟨-, d', hreached, -⟩
      exact ⟨d', hreached⟩
    · rintro ⟨d', hreached⟩
      exact ⟨.date d', d', hreached, rfl⟩
  · rintro value ⟨d', hreached, rfl⟩
    exact ⟨d', rfl, Date.fields_of_shiftAll?_monthly hsteps hreached⟩
  · intro s hs hlo hhi
    obtain ⟨d', hreached, hmonth, hday⟩ := d.exists_shiftAll?_opposite hs hlo hhi
    have hsame : d' = d ↔ d.day ≤ monthLength (d.monthIndex + s.months) := by
      constructor
      · rintro rfl
        omega
      · intro hlong
        exact Date.eq_of_monthIndex_eq hmonth (by omega)
    refine ⟨d', ?_, hmonth, hsame, ?_⟩
    · rw [evaluate_of_date_eq_ok_iff (e := ⟨e.root, [s, s.opposite]⟩) hroot]
      exact ⟨d', hreached, rfl⟩
    · intro hne
      rw [Ne, hsame] at hne
      omega

/-- By way of February the end of January comes to the 28th of March. -/
theorem evaluate_monthly_february :
    (∀ s ∈ [Step.mk .add 1 .months, Step.mk .add 1 .months], s.IsMonthly) ∧
    ∃ d : Date, (Expr.mk "A".toList [⟨.add, 1, .months⟩, ⟨.add, 1, .months⟩]).evaluate
        (fun _ => some (.date ⟨2026, 1, 31, by decide⟩)) = .ok (.date d) ∧
      d.monthIndex = 2026 * 12 + 2 ∧ d.day = 28 := by
  have hsteps : ∀ s ∈ [Step.mk .add 1 .months, Step.mk .add 1 .months], s.IsMonthly := by decide
  obtain ⟨hrange, hvalue, -⟩ := evaluate_monthly (fun _ => some (.date ⟨2026, 1, 31, by decide⟩))
    ⟨"A".toList, [⟨.add, 1, .months⟩, ⟨.add, 1, .months⟩]⟩ _ rfl hsteps
  obtain ⟨value, heval⟩ := hrange.2 (by decide)
  obtain ⟨d, rfl, hmonth, hday⟩ := hvalue value heval
  exact ⟨hsteps, d, heval, hmonth, hday⟩

end Expr

end DateTemplate
