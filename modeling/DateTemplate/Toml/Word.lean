import DateTemplate.Number.Width
import DateTemplate.Toml.Node

set_option autoImplicit false

/-!
# Unquoted values in TOML

Integers in four bases, floats, booleans, dates and times. Underscores may part the digits of a
number, each between two digits, and a decimal number has no needless zero in front.
-/

namespace DateTemplate.Toml

/-- The digits of a run in which single underscores may part them; none if the run has anything else,
or no digit. -/
def groupedDigits? (isDigit : Char → Bool) : Text → Option Text
  | [] => none
  | [c] => if isDigit c then some [c] else none
  | c :: '_' :: t => if isDigit c then (groupedDigits? isDigit t).map (c :: ·) else none
  | c :: t => if isDigit c then (groupedDigits? isDigit t).map (c :: ·) else none

/-- The value of a digit up to `f`, in either case. -/
def hexValue (c : Char) : Nat :=
  if c.isDigit then c.toNat - '0'.toNat
  else if 'a' ≤ c && c ≤ 'f' then c.toNat - 'a'.toNat + 10
  else if 'A' ≤ c && c ≤ 'F' then c.toNat - 'A'.toNat + 10
  else 16

/-- Whether a character is a digit of a base up to sixteen. -/
def isDigitOf (base : Nat) (c : Char) : Bool := hexValue c < base

/-- The number that digits of a base denote. -/
def ofDigitsOf (base : Nat) (ds : Text) : Nat := ds.foldl (fun n c => base * n + hexValue c) 0

/-- The digits of a decimal number without a needless zero in front. -/
def wholeDigits? (t : Text) : Option Text :=
  match groupedDigits? Char.isDigit t with
  | some ('0' :: _ :: _) | none => none
  | some ds => some ds

/-- An integer in base ten with or without a sign, or without one behind `0x`, `0o` or `0b`. -/
def integer? : Text → Option Int
  | '0' :: 'x' :: t => (groupedDigits? (isDigitOf 16) t).map fun ds => ofDigitsOf 16 ds
  | '0' :: 'o' :: t => (groupedDigits? (isDigitOf 8) t).map fun ds => ofDigitsOf 8 ds
  | '0' :: 'b' :: t => (groupedDigits? (isDigitOf 2) t).map fun ds => ofDigitsOf 2 ds
  | '-' :: t => (wholeDigits? t).map fun ds => -(Decimal.ofDigits ds : Int)
  | '+' :: t => (wholeDigits? t).map fun ds => Decimal.ofDigits ds
  | t => (wholeDigits? t).map fun ds => Decimal.ofDigits ds

/-- The digits behind the point of a float, if it has one. -/
def floatFraction? : Text → Option Text
  | [] => some []
  | '.' :: t => groupedDigits? Char.isDigit t
  | _ => none

/-- The power of ten of a float, if it has one. -/
def floatPower? : Text → Option Int
  | [] => some 0
  | _ :: t =>
    let (negative, t) := Numeral.sign t
    (groupedDigits? Char.isDigit t).map fun ds =>
      if negative then -(Decimal.ofDigits ds : Int) else Decimal.ofDigits ds

/-- A float: digits, and a fraction, a power of ten or both; or infinity, or not a number. One beyond
the format is refused. -/
def float? (t : Text) : Option Float64 := do
  let (negative, t) := Numeral.sign t
  if t = "inf".toList then return .infinite negative
  if t = "nan".toList then return .nan
  let isPower (c : Char) : Bool := c == 'e' || c == 'E'
  let mantissa := t.takeWhile (!isPower ·)
  let whole ← wholeDigits? (mantissa.takeWhile (· != '.'))
  let fraction ← floatFraction? (mantissa.dropWhile (· != '.'))
  let power ← floatPower? (t.dropWhile (!isPower ·))
  let x ← Binary64.ofScientific? negative (Decimal.ofDigits (whole ++ fraction))
    (power - fraction.length)
  return .finite x

/-- The value of an unquoted run of characters; integers have at most 128 bits. -/
def word? (t : Text) : Option Node :=
  if t = "true".toList then some (.boolean true)
  else if t = "false".toList then some (.boolean false)
  else
    match integer? t with
    | some n => if Width.holds 128 n then some (.integer n) else none
    | none =>
      match float? t with
      | some x => some (.float x)
      | none => (DateTime.read? t).map .dateTime

end DateTemplate.Toml
