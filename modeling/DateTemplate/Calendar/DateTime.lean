import DateTemplate.Calendar.DayNumber
import DateTemplate.Calendar.Written

set_option autoImplicit false

/-!
# Reading dates and date-times

A date-time names an instant, and its date is the day of that instant in UTC. Two layouts are read.
The strict one is that of RFC 3339: every field has its full width, and `T`, `t` or a space parts
date and time. In the lenient one `T` parts them, the seconds and the offset may be left out, fields
may have one digit or blanks before them, and the year may have a sign. `Date.read?` takes a plain
date or a date-time in either layout.
-/

namespace DateTemplate

/-- The fields of a date-time, as they were written. -/
structure DateTime where
  year : Int
  month : Nat
  day : Nat
  hour : Nat
  minute : Nat
  second : Nat
  /-- Minutes that the clock is ahead of UTC. -/
  offset : Int
deriving DecidableEq, Repr

namespace DateTime

/-- The UTC date of a date-time whose day exists and whose time is at most 23:59:60. -/
def date? (t : DateTime) : Option Date :=
  if t.hour < 24 ∧ t.minute < 60 ∧ t.second ≤ 60 then
    -- No second moves the day: an offset is whole minutes, and a minute ends after its seconds.
    (Date.ofYMD? t.year t.month t.day).bind fun d =>
      d.addDays? ((t.hour * 60 + t.minute - t.offset) / 1440)
  else none

/-! ## Fields

Each reader returns what it read and the text after it. -/

/-- The number written by the digits at the front: at least one, at most `width`. -/
def number? (width : Nat) (t : Text) : Option (Nat × Text) :=
  let ds := (t.take width).takeWhile Char.isDigit
  if ds.isEmpty then none else some (Decimal.ofDigits ds, t.drop ds.length)

/-- A number of exactly two digits. -/
def twoDigits? : Text → Option (Nat × Text)
  | a :: b :: t => if a.isDigit && b.isDigit then some (Decimal.ofDigits [a, b], t) else none
  | _ => none

/-- The text after a given character. -/
def literal? (c : Char) : Text → Option Text
  | d :: t => if d = c then some t else none
  | [] => none

/-- A field of one or two digits, with blanks allowed before it. -/
def field? (t : Text) : Option (Nat × Text) := number? 2 (Text.trimStart t)

/-- A year: up to four digits, or a sign and any number of digits; blanks may stand before it. -/
def year? (t : Text) : Option (Int × Text) :=
  match Text.trimStart t with
  | '-' :: t => (number? t.length t).map fun (n, t) => (-(n : Int), t)
  | '+' :: t => (number? t.length t).map fun (n, t) => ((n : Int), t)
  | t => (number? 4 t).map fun (n, t) => ((n : Int), t)

/-- A fraction of a second, which no date depends on: where a point stands, a digit has to follow. -/
def fraction? : Text → Option Text
  | '.' :: t => if (t.takeWhile Char.isDigit).isEmpty then none else some (t.dropWhile Char.isDigit)
  | t => some t

/-- The sign of an offset; the minus sign of typography counts as a hyphen. -/
def offsetSign? : Text → Option (Bool × Text)
  | '+' :: t => some (false, t)
  | '-' :: t => some (true, t)
  | '\u2212' :: t => some (true, t)
  | _ => none

/-- An offset of a sign, two digits of hours, what `separator` allows and two digits of minutes, at
the end of the text. It is less than a day. -/
def offset? (separator : Text → Option Text) (t : Text) : Option Int := do
  let (negative, t) ← offsetSign? t
  let (hours, t) ← twoDigits? t
  let t ← separator t
  let (minutes, t) ← twoDigits? t
  if t.isEmpty && minutes < 60 && hours < 24 then
    let total : Int := (hours * 60 + minutes : Nat)
    some (if negative then -total else total)
  else none

/-- The end of a text that names its zone: `Z`, `z` or an offset. -/
def zone? (separator : Text → Option Text) : Text → Option Int
  | ['Z'] | ['z'] => some 0
  | t => offset? separator t

/-! ## Layouts -/

/-- The strict layout: `2026-01-15T10:30:00.25+02:00`. -/
def strict? (t : Text) : Option DateTime := do
  let (y₁, t) ← twoDigits? t
  let (y₂, t) ← twoDigits? t
  let t ← literal? '-' t
  let (month, t) ← twoDigits? t
  let t ← literal? '-' t
  let (day, t) ← twoDigits? t
  let t ← literal? 'T' t <|> literal? 't' t <|> literal? ' ' t
  let (hour, t) ← twoDigits? t
  let t ← literal? ':' t
  let (minute, t) ← twoDigits? t
  let t ← literal? ':' t
  let (second, t) ← twoDigits? t
  let t ← fraction? t
  let offset ← zone? (literal? ':') t
  return { year := (y₁ * 100 + y₂ : Nat), month, day, hour, minute, second, offset }

/-- Seconds, where a colon announces them, with their fraction. -/
def seconds? : Text → Option (Nat × Text)
  | ':' :: t => do
    let (second, t) ← field? t
    return (second, ← fraction? t)
  | t => some (0, t)

/-- The text after colons and blanks in any number. -/
def looseSeparator? (t : Text) : Option Text :=
  some (t.dropWhile fun c => c == ':' || Text.isBlank c)

/-- The zone of the lenient layout: none means UTC, blanks may stand before it, and colons and blanks
in any number between hours and minutes. -/
def looseZone? : Text → Option Int
  | [] => some 0
  | t => zone? looseSeparator? (Text.trimStart t)

/-- A layout up to its minutes, with its own readers for the seconds and for the end of the text. -/
def layout? (seconds? : Text → Option (Nat × Text)) (zone? : Text → Option Int) (t : Text) :
    Option DateTime := do
  let (year, t) ← year? t
  let t ← literal? '-' t
  let (month, t) ← field? t
  let t ← literal? '-' t
  let (day, t) ← field? t
  let t ← literal? 'T' t
  let (hour, t) ← field? t
  let t ← literal? ':' t
  let (minute, t) ← field? t
  let (second, t) ← seconds? t
  let offset ← zone? t
  return { year, month, day, hour, minute, second, offset }

/-- The lenient layout: `2026-1-5T9:30`, `+12026-01-05T09:30:00.5 +0200`. -/
def lenient? (t : Text) : Option DateTime := layout? seconds? looseZone? t

end DateTime

/-- The date that a text names: a plain date, or the UTC day of a date-time. -/
def Date.read? (t : Text) : Option Date :=
  Date.ofPlain? t <|> (DateTime.strict? t).bind DateTime.date?
    <|> (DateTime.lenient? t).bind DateTime.date?

end DateTemplate
