import DateTemplate.Calendar.Date

set_option autoImplicit false

/-!
# Counting days and months

`Date.dayNumber` numbers the days one by one and `Date.ofDayNumber?` finds the day of a number, so a
date moves by days through its number. `Date.monthIndex` numbers the months, and a date moves by
months through that index, with its day cut down to the length of the month reached.
-/

namespace DateTemplate

namespace Calendar

/-- The days before 1 January of a year, from 1 January of year 1 on: 365 for each year between, and
one for each leap year between. -/
def daysBeforeYear (year : Int) : Int :=
  365 * (year - 1) + (year - 1) / 4 - (year - 1) / 100 + (year - 1) / 400

/-- The days of a year before the first of a month. -/
def daysBeforeMonth (year : Int) : Nat → Nat
  | 0 => 0
  | month + 1 => daysBeforeMonth year month + lengthOfMonth year month

/-- The year of the day with this number: 400 years are 146097 days, and the year so estimated is
never too late and at most one too early. -/
def yearOfDayNumber (n : Int) : Int :=
  let estimate := n * 400 / 146097 + 1
  if daysBeforeYear (estimate + 1) ≤ n then estimate + 1 else estimate

/-- The latest of the months up to a given one that has begun on the day `k` of a year, where day 0
is 1 January. -/
def monthOfYearDay (year : Int) (k : Nat) : Nat → Nat
  | 0 => 0
  | month + 1 =>
    if daysBeforeMonth year (month + 1) ≤ k then month + 1 else monthOfYearDay year k month

end Calendar

namespace Date

open Calendar

/-- The number of a day; 1 January of year 1 has number 0, and the next day's is one more. -/
def dayNumber (d : Date) : Int :=
  daysBeforeYear d.year + daysBeforeMonth d.year d.month + (d.day - 1 : Nat)

/-- The day with a given number, if it is in range. -/
def ofDayNumber? (n : Int) : Option Date :=
  let year := yearOfDayNumber n
  let k := (n - daysBeforeYear year).toNat
  let month := monthOfYearDay year k 12
  ofYMD? year month (k - daysBeforeMonth year month + 1)

/-- The date some days later, or earlier when their number is negative. -/
def addDays? (d : Date) (days : Int) : Option Date := ofDayNumber? (d.dayNumber + days)

/-- The number of a date's month; January of year 0 has number 0. -/
def monthIndex (d : Date) : Int := d.year * 12 + (d.month - 1 : Nat)

/-- The date some months later, or earlier when their number is negative: the same day of the month
reached, or its last day where that day does not exist. -/
def addMonths? (d : Date) (months : Int) : Option Date :=
  let index := d.monthIndex + months
  let year := index / 12
  let month := (index % 12).toNat + 1
  ofYMD? year month (min d.day (daysInMonth year month))

end Date

end DateTemplate
