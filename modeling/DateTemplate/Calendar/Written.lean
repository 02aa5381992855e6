import DateTemplate.Calendar.Date
import DateTemplate.Text.Blank
import DateTemplate.Text.Decimal

set_option autoImplicit false

/-!
# Dates as plain text

`Date.text` writes `2026-01-05`; `Date.ofPlain?` reads the ten characters dddd-dd-dd. A year outside
0 to 9999 is written with a sign, and such a text is not a plain date.
-/

namespace DateTemplate.Date

open Decimal

/-- A year has at least four digits; a negative one has a minus sign and one above 9999 a plus
sign. -/
def yearText (year : Int) : Text :=
  if year < 0 then '-' :: padded 4 year.natAbs
  else if year ≤ 9999 then padded 4 year.natAbs
  else '+' :: padded 4 year.natAbs

/-- The text of a date: year, month and day joined by hyphens. -/
def text (d : Date) : Text :=
  yearText d.year ++ '-' :: padded 2 d.month ++ '-' :: padded 2 d.day

/-- The date written as four digits, two digits and two digits joined by hyphens. -/
def ofPlain? : Text → Option Date
  | [y₁, y₂, y₃, y₄, '-', m₁, m₂, '-', d₁, d₂] =>
    if [y₁, y₂, y₃, y₄, m₁, m₂, d₁, d₂].all Char.isDigit then
      ofYMD? (ofDigits [y₁, y₂, y₃, y₄]) (ofDigits [m₁, m₂]) (ofDigits [d₁, d₂])
    else none
  | _ => none

end DateTemplate.Date
