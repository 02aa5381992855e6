import DateTemplate.Calendar.DateTime

set_option autoImplicit false

/-!
# Dates and times in TOML

A date, a time of day, or both with or without an offset. Fields have their full width; the seconds
may be left out. A fraction of a second counts to nine digits.
-/

namespace DateTemplate.Toml

/-- A time of day. -/
structure LocalTime where
  hour : Nat
  minute : Nat
  second : Nat
  nanosecond : Nat
deriving DecidableEq, Repr

/-- How far a clock is ahead of UTC. -/
inductive Offset where
  | zulu
  | minutes (ahead : Int)
deriving DecidableEq, Repr

/-- A date, a time or both; an offset only behind both. -/
structure DateTime where
  date : Option (Nat × Nat × Nat)
  time : Option LocalTime
  offset : Option Offset
deriving DecidableEq, Repr

namespace DateTime

open DateTemplate.DateTime (twoDigits? literal?)

/-! ## Reading -/

/-- A date of four, two and two digits that exists. -/
def date? (t : Text) : Option ((Nat × Nat × Nat) × Text) := do
  let (y₁, t) ← twoDigits? t
  let (y₂, t) ← twoDigits? t
  let year := y₁ * 100 + y₂
  let t ← literal? '-' t
  let (month, t) ← twoDigits? t
  let t ← literal? '-' t
  let (day, t) ← twoDigits? t
  if 1 ≤ day && day ≤ Calendar.lengthOfMonth year month then some ((year, month, day), t) else none

/-- Billionths of a second written by the digits of a fraction; those behind the ninth do not
count. -/
def nanoseconds (ds : Text) : Nat :=
  Decimal.ofDigits (ds.take 9 ++ List.replicate (9 - ds.length) '0')

/-- The seconds and their fraction, where a colon announces them. -/
def seconds? : Text → Option ((Nat × Nat) × Text)
  | ':' :: t => do
    let (second, t) ← twoDigits? t
    match t with
    | '.' :: t =>
      let ds := t.takeWhile Char.isDigit
      if ds.isEmpty then none else some ((second, nanoseconds ds), t.dropWhile Char.isDigit)
    | t => some ((second, 0), t)
  | t => some ((0, 0), t)

/-- A time of day, the second 60 included. -/
def time? (t : Text) : Option (LocalTime × Text) := do
  let (hour, t) ← twoDigits? t
  let t ← literal? ':' t
  let (minute, t) ← twoDigits? t
  let ((second, nanosecond), t) ← seconds? t
  if hour < 24 && minute < 60 && second ≤ 60 then some (⟨hour, minute, second, nanosecond⟩, t)
  else none

/-- The offset at the end of a text, if there is one. -/
def offset? : Text → Option (Option Offset)
  | [] => some none
  | ['Z'] | ['z'] => some (some .zulu)
  | sign :: t => do
    let (hours, t) ← twoDigits? t
    let t ← literal? ':' t
    let (minutes, t) ← twoDigits? t
    let total : Int := (hours * 60 + minutes : Nat)
    if !t.isEmpty || 24 ≤ hours || 60 ≤ minutes then none
    else if sign = '+' then some (some (.minutes total))
    else if sign = '-' then some (some (.minutes (-total)))
    else none

/-- Reads a date, a time or both; `T`, `t` or a space parts them. -/
def read? (t : Text) : Option DateTime :=
  match date? t with
  | some (d, []) => some ⟨some d, none, none⟩
  | some (d, c :: t) =>
    if c = 'T' || c = 't' || c = ' ' then do
      let (time, t) ← time? t
      return ⟨some d, some time, ← offset? t⟩
    else none
  | none => do
    let (time, t) ← time? t
    if t.isEmpty then some ⟨none, some time, none⟩ else none

/-! ## Writing -/

open Decimal

/-- A date is written with hyphens. -/
def dateText : Nat × Nat × Nat → Text
  | (y, m, d) => padded 4 y ++ '-' :: padded 2 m ++ '-' :: padded 2 d

/-- A fraction is written without zeros at its end, and not at all if it is zero. -/
def fractionText (nanosecond : Nat) : Text :=
  if nanosecond = 0 then []
  else '.' :: ((padded 9 nanosecond).reverse.dropWhile (· == '0')).reverse

/-- A time is always written with its seconds. -/
def timeText (t : LocalTime) : Text :=
  padded 2 t.hour ++ ':' :: padded 2 t.minute ++ ':' :: padded 2 t.second
    ++ fractionText t.nanosecond

/-- An offset is written with its sign, zero with a plus. -/
def offsetText : Offset → Text
  | .zulu => ['Z']
  | .minutes m =>
    (if m < 0 then '-' else '+') :: padded 2 (m.natAbs / 60) ++ ':' :: padded 2 (m.natAbs % 60)

/-- The text of a date-time; `T` parts date and time. -/
def text (t : DateTime) : Text :=
  (t.date.map dateText).getD []
    ++ (if t.date.isSome && t.time.isSome then ['T'] else [])
    ++ (t.time.map timeText).getD []
    ++ (t.offset.map offsetText).getD []

end DateTime

end DateTemplate.Toml
