import DateTemplate.Calendar.DayNumber
import DateTemplate.Text.Blank

set_option autoImplicit false

/-!
# Intervals

An interval is an amount of a calendar unit, added to a date or subtracted from it. This module has
the units and directions with their spellings, and the date an interval leads to.
-/

namespace DateTemplate

/-- The units in which a date moves. -/
inductive TimeUnit where
  | days
  | weeks
  | months
  | years
deriving DecidableEq, Repr

namespace TimeUnit

/-- The spelling of a unit beside an amount: the singular beside 1, else the plural. -/
def keyword : TimeUnit → Nat → Text
  | days, 1 => "day".toList
  | days, _ => "days".toList
  | weeks, 1 => "week".toList
  | weeks, _ => "weeks".toList
  | months, 1 => "month".toList
  | months, _ => "months".toList
  | years, 1 => "year".toList
  | years, _ => "years".toList

/-- The unit of a word; its singular and its plural are accepted, in lower case only. -/
def ofKeyword? (word : Text) : Option TimeUnit :=
  [days, weeks, months, years].find? fun unit => word == unit.keyword 1 || word == unit.keyword 2

@[simp] theorem ofKeyword?_keyword (unit : TimeUnit) (amount : Nat) :
    ofKeyword? (unit.keyword amount) = some unit := by
  cases unit <;> unfold keyword <;> split <;> first | decide | contradiction

end TimeUnit

/-- Whether an interval is added or subtracted. -/
inductive Direction where
  | add
  | subtract
deriving DecidableEq, Repr

namespace Direction

/-- The sign written for a direction. -/
def symbol : Direction → Char
  | add => '+'
  | subtract => '-'

/-- The direction of a text that is one sign. -/
def ofSymbol? : Text → Option Direction
  | ['+'] => some add
  | ['-'] => some subtract
  | _ => none

@[simp] theorem ofSymbol?_symbol (d : Direction) : ofSymbol? [d.symbol] = some d := by
  cases d <;> rfl

/-- An amount with the sign of a direction. -/
def apply : Direction → Nat → Int
  | add, amount => amount
  | subtract, amount => -amount

end Direction

/-- One move of a date, such as `+ 3 weeks`. -/
structure Step where
  direction : Direction
  amount : Nat
  unit : TimeUnit
deriving DecidableEq, Repr

/-- The date that a step leads to; `none` when it is out of range. Days and weeks are counted out
exactly; months and years keep the day of the month where they can. -/
def Step.shift? (s : Step) (d : Date) : Option Date :=
  let amount := s.direction.apply s.amount
  match s.unit with
  | .days => d.addDays? amount
  | .weeks => d.addDays? (7 * amount)
  | .months => d.addMonths? amount
  | .years => d.addMonths? (12 * amount)

end DateTemplate
