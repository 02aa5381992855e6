set_option autoImplicit false

/-!
# Dates of the proleptic Gregorian calendar

A `Date` is a real day of one of the years -262143 to 262142; its validity is part of the type.
Year 0 is the year before year 1 and is a leap year. The calendar has a table of its months; the
program finds the number of days in a month by its own rules. Main statement:
`daysInMonth_eq_lengthOfMonth`, these agree with the table in every year.
-/

namespace DateTemplate

namespace Calendar

/-! ## Months -/

/-- The lengths of the months of a year that is no leap year. -/
def commonYear : List Nat := [31, 28, 31, 30, 31, 30, 31, 31, 30, 31, 30, 31]

/-- February has a day more if 4 divides the year and, where 100 does, 400 does too. -/
def LeapDay (year : Int) (month : Nat) : Prop :=
  month = 2 ∧ year % 4 = 0 ∧ (year % 100 = 0 → year % 400 = 0)

instance (year : Int) (month : Nat) : Decidable (LeapDay year month) :=
  inferInstanceAs (Decidable (_ ∧ _ ∧ _))

/-- The length of a month of the calendar, counted from 1; a number that names no month has none. -/
def lengthOfMonth (year : Int) (month : Nat) : Nat :=
  (0 :: commonYear).getD month 0 + if LeapDay year month then 1 else 0

/-- Every fourth year is a leap year, save the centuries that 400 does not divide. -/
def isLeapYear (year : Int) : Bool :=
  year % 4 == 0 && (year % 100 != 0 || year % 400 == 0)

/-- The number of days in a month, counted from 1; a number that names no month has none. -/
def daysInMonth (year : Int) (month : Nat) : Nat :=
  match month with
  | 1 | 3 | 5 | 7 | 8 | 10 | 12 => 31
  | 4 | 6 | 9 | 11 => 30
  | 2 => if isLeapYear year then 29 else 28
  | _ => 0

theorem isLeapYear_eq_true_iff {year : Int} :
    isLeapYear year = true ↔ year % 4 = 0 ∧ (year % 100 ≠ 0 ∨ year % 400 = 0) := by
  simp [isLeapYear]

theorem leapDay_iff {year : Int} {month : Nat} :
    LeapDay year month ↔ month = 2 ∧ isLeapYear year = true := by
  rw [LeapDay, isLeapYear_eq_true_iff, Decidable.imp_iff_not_or]

theorem month_cases {month : Nat} (h : month ≤ 12) :
    month = 0 ∨ month = 1 ∨ month = 2 ∨ month = 3 ∨ month = 4 ∨ month = 5 ∨ month = 6 ∨ month = 7 ∨
      month = 8 ∨ month = 9 ∨ month = 10 ∨ month = 11 ∨ month = 12 := by
  omega

/-- The number of days in a month is its length in the calendar. -/
theorem daysInMonth_eq_lengthOfMonth (year : Int) (month : Nat) :
    daysInMonth year month = lengthOfMonth year month := by
  by_cases hmonth : month ≤ 12
  · rcases month_cases hmonth with
      rfl | rfl | rfl | rfl | rfl | rfl | rfl | rfl | rfl | rfl | rfl | rfl | rfl
    all_goals simp [daysInMonth, lengthOfMonth, commonYear, leapDay_iff]
    -- February is left.
    split <;> rfl
  · have hlength : (0 :: commonYear).length ≤ month := Nat.lt_of_not_le hmonth
    have hleap : ¬ LeapDay year month := fun h => hmonth (by rw [h.1]; decide)
    rw [lengthOfMonth, if_neg hleap, List.getD_eq_getElem?_getD, List.getElem?_eq_none hlength,
      Option.getD_none]
    unfold daysInMonth
    split <;> omega

theorem lengthOfMonth_le (year : Int) (month : Nat) : lengthOfMonth year month ≤ 31 := by
  rw [← daysInMonth_eq_lengthOfMonth]
  unfold daysInMonth
  split <;> (try split) <;> decide

/-- A month has at least 28 days. -/
theorem le_lengthOfMonth {month : Nat} (year : Int) (hlo : 1 ≤ month) (hhi : month ≤ 12) :
    28 ≤ lengthOfMonth year month := by
  -- The table alone is enough, without the leap day.
  refine Nat.le_trans ?_ (Nat.le_add_right _ _)
  rcases month_cases hhi with
    rfl | rfl | rfl | rfl | rfl | rfl | rfl | rfl | rfl | rfl | rfl | rfl | rfl
  · exact absurd hlo (by decide)
  all_goals decide

end Calendar

namespace Date

/-- The earliest year of a date. -/
def minYear : Int := -262143

/-- The latest year of a date. -/
def maxYear : Int := 262142

/-- Year, month and day name a day that exists, in a year within the range. -/
def IsReal (year : Int) (month day : Nat) : Prop :=
  minYear ≤ year ∧ year ≤ maxYear ∧ 1 ≤ month ∧ month ≤ 12 ∧
    1 ≤ day ∧ day ≤ Calendar.lengthOfMonth year month

instance (year : Int) (month day : Nat) : Decidable (IsReal year month day) :=
  inferInstanceAs (Decidable (_ ∧ _ ∧ _ ∧ _ ∧ _ ∧ _))

theorem isReal_iff {year : Int} {month day : Nat} : IsReal year month day ↔
    minYear ≤ year ∧ year ≤ maxYear ∧ 1 ≤ month ∧ month ≤ 12 ∧
      1 ≤ day ∧ day ≤ Calendar.daysInMonth year month := by
  rw [IsReal, Calendar.daysInMonth_eq_lengthOfMonth]

end Date

/-- A calendar date without a time of day. -/
structure Date where
  year : Int
  month : Nat
  day : Nat
  isReal : Date.IsReal year month day := by decide
deriving DecidableEq

namespace Date

/-- The date of a year, month and day, if there is one. -/
def ofYMD? (year : Int) (month day : Nat) : Option Date :=
  if h : IsReal year month day then some ⟨year, month, day, h⟩ else none

theorem ofYMD?_eq_some_iff {year : Int} {month day : Nat} {d : Date} :
    ofYMD? year month day = some d ↔ d.year = year ∧ d.month = month ∧ d.day = day := by
  unfold ofYMD?
  constructor
  · intro h
    split at h
    · cases h
      exact ⟨rfl, rfl, rfl⟩
    · cases h
  · rintro ⟨rfl, rfl, rfl⟩
    simp [d.isReal]

theorem ofYMD?_eq_none_iff {year : Int} {month day : Nat} :
    ofYMD? year month day = none ↔ ¬ IsReal year month day := by
  unfold ofYMD?
  split <;> simp_all

@[simp] theorem ofYMD?_self (d : Date) : ofYMD? d.year d.month d.day = some d :=
  ofYMD?_eq_some_iff.2 ⟨rfl, rfl, rfl⟩

end Date

end DateTemplate
