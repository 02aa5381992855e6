import DateTemplate.Calendar.DayNumber

set_option autoImplicit false

/-!
# The numbers of days

Every number of a day falls into one year, and there into one month. Main statements:
`ofDayNumber?_fields`, the day of a month is found again from its number, in range or not;
`ofDayNumber?_eq_some_iff`, the number of a day names that day and no other;
`ofDayNumber?_eq_none_iff`, the numbers without a day lie before the first year or behind the last.
-/

namespace DateTemplate

namespace Calendar

/-! ## Years -/

/-- The number of days in a year. -/
def daysInYear (year : Int) : Nat := if isLeapYear year then 366 else 365

theorem daysBeforeYear_add_one (year : Int) :
    daysBeforeYear (year + 1) = daysBeforeYear year + daysInYear year := by
  unfold daysBeforeYear daysInYear
  split
  · next hleap =>
    rw [isLeapYear_eq_true_iff] at hleap
    omega
  · next hcommon =>
    rw [isLeapYear_eq_true_iff] at hcommon
    omega

theorem daysBeforeYear_mono {y y' : Int} (h : y ≤ y') : daysBeforeYear y ≤ daysBeforeYear y' := by
  unfold daysBeforeYear
  omega

/-- Day `n` falls into a year. -/
def IsYearOf (n year : Int) : Prop := daysBeforeYear year ≤ n ∧ n < daysBeforeYear (year + 1)

theorem IsYearOf.unique {n y y' : Int} (h : IsYearOf n y) (h' : IsYearOf n y') : y = y' := by
  obtain ⟨hlo, hhi⟩ := h
  obtain ⟨hlo', hhi'⟩ := h'
  rcases Int.lt_trichotomy y y' with hlt | heq | hlt
  · have := daysBeforeYear_mono (Int.add_one_le_of_lt hlt)
    omega
  · exact heq
  · have := daysBeforeYear_mono (Int.add_one_le_of_lt hlt)
    omega

/-- The year that is estimated from a number of days is right or one too early. -/
theorem daysBeforeYear_estimate (n : Int) :
    daysBeforeYear (n * 400 / 146097 + 1) ≤ n ∧ n < daysBeforeYear (n * 400 / 146097 + 3) := by
  unfold daysBeforeYear
  omega

theorem isYearOf_yearOfDayNumber (n : Int) : IsYearOf n (yearOfDayNumber n) := by
  obtain ⟨hlo, hhi⟩ := daysBeforeYear_estimate n
  unfold yearOfDayNumber IsYearOf
  dsimp only
  split
  · next hlate => exact ⟨hlate, by rwa [Int.add_assoc, Int.add_assoc]⟩
  · next hearly => exact ⟨hlo, Int.not_le.1 hearly⟩

/-! ## Months -/

theorem daysBeforeMonth_add_one (year : Int) (month : Nat) :
    daysBeforeMonth year (month + 1) = daysBeforeMonth year month + lengthOfMonth year month := rfl

theorem daysBeforeMonth_one (year : Int) : daysBeforeMonth year 1 = 0 := rfl

/-- Twelve months make a year. -/
theorem daysBeforeMonth_thirteen (year : Int) : daysBeforeMonth year 13 = daysInYear year := by
  unfold daysInYear
  cases h : isLeapYear year <;> simp [daysBeforeMonth, lengthOfMonth, commonYear, leapDay_iff, h]

theorem daysBeforeMonth_mono (year : Int) {m m' : Nat} (h : m ≤ m') :
    daysBeforeMonth year m ≤ daysBeforeMonth year m' := by
  induction h with
  | refl => exact Nat.le_refl _
  | step _ ih => exact Nat.le_trans ih (Nat.le_add_right _ _)

/-- Day `k` of a year falls into a month. -/
def IsMonthOf (year : Int) (k month : Nat) : Prop :=
  daysBeforeMonth year month ≤ k ∧ k < daysBeforeMonth year (month + 1)

theorem IsMonthOf.unique {year : Int} {k m m' : Nat} (h : IsMonthOf year k m)
    (h' : IsMonthOf year k m') : m = m' := by
  obtain ⟨hlo, hhi⟩ := h
  obtain ⟨hlo', hhi'⟩ := h'
  rcases Nat.lt_trichotomy m m' with hlt | heq | hlt
  · have : daysBeforeMonth year (m + 1) ≤ daysBeforeMonth year m' := daysBeforeMonth_mono year hlt
    omega
  · exact heq
  · have : daysBeforeMonth year (m' + 1) ≤ daysBeforeMonth year m := daysBeforeMonth_mono year hlt
    omega

theorem IsMonthOf.one_le {year : Int} {k month : Nat} (h : IsMonthOf year k month) : 1 ≤ month := by
  refine Nat.one_le_iff_ne_zero.2 ?_
  rintro rfl
  have := h.2
  rw [Nat.zero_add, daysBeforeMonth_one] at this
  omega

/-- The search from the last month down stops at the month of a day. -/
theorem isMonthOf_monthOfYearDay {year : Int} {k bound : Nat}
    (h : k < daysBeforeMonth year (bound + 1)) : IsMonthOf year k (monthOfYearDay year k bound) := by
  induction bound with
  | zero => exact ⟨Nat.zero_le k, h⟩
  | succ bound ih =>
    unfold monthOfYearDay
    split
    · next hbegun => exact ⟨hbegun, h⟩
    · next hlater => exact ih (Nat.not_le.1 hlater)

theorem monthOfYearDay_le (year : Int) (k bound : Nat) : monthOfYearDay year k bound ≤ bound := by
  induction bound with
  | zero => exact Nat.le_refl 0
  | succ bound ih =>
    unfold monthOfYearDay
    split
    · exact Nat.le_refl _
    · exact Nat.le_succ_of_le ih

end Calendar

namespace Date

open Calendar

/-! ## Days -/

/-- The year and the month found for a number have a day with that number. -/
theorem exists_ofDayNumber?_eq (n : Int) :
    ∃ (year : Int) (month day : Nat), IsYearOf n year ∧ 1 ≤ month ∧ month ≤ 12 ∧ 1 ≤ day ∧
      day ≤ lengthOfMonth year month ∧
      n = daysBeforeYear year + daysBeforeMonth year month + (day - 1 : Nat) ∧
      ofDayNumber? n = ofYMD? year month day := by
  obtain ⟨hlo, hhi⟩ := isYearOf_yearOfDayNumber n
  have hk : (n - daysBeforeYear (yearOfDayNumber n)).toNat <
      daysBeforeMonth (yearOfDayNumber n) (12 + 1) := by
    rw [daysBeforeMonth_thirteen]
    rw [daysBeforeYear_add_one] at hhi
    omega
  have hone := (isMonthOf_monthOfYearDay hk).one_le
  have hle := monthOfYearDay_le (yearOfDayNumber n) (n - daysBeforeYear (yearOfDayNumber n)).toNat 12
  obtain ⟨hbegun, hnext⟩ := isMonthOf_monthOfYearDay hk
  rw [daysBeforeMonth_add_one] at hnext
  refine ⟨_, _, _, ⟨hlo, hhi⟩, hone, hle, Nat.succ_pos _, ?_, ?_, rfl⟩
  · omega
  · omega

/-- **The day of a month is found again from its number.** This is so in every year: where the year is
out of range, the number has no day. -/
theorem ofDayNumber?_fields {year : Int} {month day : Nat} (hmonth : 1 ≤ month ∧ month ≤ 12)
    (hday : 1 ≤ day ∧ day ≤ lengthOfMonth year month) :
    ofDayNumber? (daysBeforeYear year + daysBeforeMonth year month + (day - 1 : Nat)) =
      ofYMD? year month day := by
  obtain ⟨year', month', day', hyear', hmonth₁, hmonth₂, hday₁, hday₂, hn, heq⟩ :=
    exists_ofDayNumber?_eq (daysBeforeYear year + daysBeforeMonth year month + (day - 1 : Nat))
  have hinMonth : daysBeforeMonth year month + (day - 1) < daysBeforeMonth year (month + 1) := by
    rw [daysBeforeMonth_add_one]
    omega
  have hyear : IsYearOf (daysBeforeYear year + daysBeforeMonth year month + (day - 1 : Nat)) year := by
    have := daysBeforeMonth_mono year (show month + 1 ≤ 13 by omega)
    rw [daysBeforeMonth_thirteen] at this
    refine ⟨by omega, ?_⟩
    rw [daysBeforeYear_add_one]
    omega
  obtain rfl := hyear.unique hyear'
  have hmonthOf : IsMonthOf year (daysBeforeMonth year month + (day - 1)) month :=
    ⟨Nat.le_add_right _ _, hinMonth⟩
  have hmonthOf' : IsMonthOf year (daysBeforeMonth year month + (day - 1)) month' := by
    refine ⟨by omega, ?_⟩
    rw [daysBeforeMonth_add_one]
    omega
  obtain rfl := hmonthOf.unique hmonthOf'
  obtain rfl : day = day' := by omega
  exact heq

@[simp] theorem ofDayNumber?_dayNumber (d : Date) : ofDayNumber? d.dayNumber = some d := by
  obtain ⟨-, -, hmonth₁, hmonth₂, hday₁, hday₂⟩ := d.isReal
  rw [dayNumber, ofDayNumber?_fields ⟨hmonth₁, hmonth₂⟩ ⟨hday₁, hday₂⟩, ofYMD?_self]

/-- A number names the day that has it. -/
theorem ofDayNumber?_eq_some_iff {n : Int} {d : Date} :
    ofDayNumber? n = some d ↔ d.dayNumber = n := by
  constructor
  · intro h
    obtain ⟨year, month, day, -, -, -, -, -, hn, heq⟩ := exists_ofDayNumber?_eq n
    rw [heq, ofYMD?_eq_some_iff] at h
    obtain ⟨rfl, rfl, rfl⟩ := h
    exact hn.symm
  · rintro rfl
    exact ofDayNumber?_dayNumber d

/-- Only the years bound the numbers of days. -/
theorem ofDayNumber?_eq_none_iff {n : Int} :
    ofDayNumber? n = none ↔ n < daysBeforeYear minYear ∨ daysBeforeYear (maxYear + 1) ≤ n := by
  obtain ⟨year, month, day, ⟨hlo, hhi⟩, hmonth₁, hmonth₂, hday₁, hday₂, -, heq⟩ :=
    exists_ofDayNumber?_eq n
  rw [heq, ofYMD?_eq_none_iff]
  constructor
  · intro hreal
    by_cases hmin : minYear ≤ year
    · have hmax : ¬ year ≤ maxYear := fun hmax =>
        hreal ⟨hmin, hmax, hmonth₁, hmonth₂, hday₁, hday₂⟩
      have := daysBeforeYear_mono (Int.add_one_le_of_lt (Int.not_le.1 hmax))
      exact Or.inr (by omega)
    · have := daysBeforeYear_mono (Int.add_one_le_of_lt (Int.not_le.1 hmin))
      exact Or.inl (by omega)
  · rintro (hn | hn) ⟨hmin, hmax, -⟩
    · have := daysBeforeYear_mono hmin
      omega
    · have := daysBeforeYear_mono (Int.add_le_add_right hmax 1)
      omega

theorem dayNumber_bounds (d : Date) :
    daysBeforeYear minYear ≤ d.dayNumber ∧ d.dayNumber < daysBeforeYear (maxYear + 1) := by
  have h : ofDayNumber? d.dayNumber ≠ none := by simp
  rw [Ne, ofDayNumber?_eq_none_iff] at h
  omega

end Date

end DateTemplate
