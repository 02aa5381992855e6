import DateTemplate.Number.Binary64
import DateTemplate.Text.Blank
import DateTemplate.Text.Decimal

set_option autoImplicit false

/-!
# Decimal numerals

A numeral is a sign, digits with at most one point among or beside them, and a power of ten:
`-12.50e+3`. `Binary64.read?` gives the binary64 number nearest to the number it denotes.
-/

namespace DateTemplate

/-- The number `± significand · 10 ^ exponent`. -/
structure Numeral where
  negative : Bool
  significand : Nat
  exponent : Int
deriving DecidableEq, Repr

namespace Numeral

/-- A sign at the front, if there is one, and the text after it; the flag says that it is a minus. -/
def sign : Text → Bool × Text
  | '-' :: t => (true, t)
  | '+' :: t => (false, t)
  | t => (false, t)

/-- The digits after a point, if there is one, and the text after them. -/
def fractionDigits : Text → Text × Text
  | '.' :: t => (t.takeWhile Char.isDigit, t.dropWhile Char.isDigit)
  | t => ([], t)

/-- The power of ten at the end of a numeral: nothing, or `e` or `E` and a signed number. -/
def power? : Text → Option Int
  | [] => some 0
  | c :: t =>
    if c = 'e' ∨ c = 'E' then
      let (negative, ds) := sign t
      if ds.isEmpty || !ds.all Char.isDigit then none
      else some (if negative then -(Decimal.ofDigits ds : Int) else Decimal.ofDigits ds)
    else none

/-- Reads a numeral; at least one digit stands before its power of ten. -/
def read? (t : Text) : Option Numeral :=
  let (negative, t) := sign t
  let whole := t.takeWhile Char.isDigit
  let (fraction, rest) := fractionDigits (t.dropWhile Char.isDigit)
  if whole.isEmpty && fraction.isEmpty then none
  else (power? rest).map fun p =>
    ⟨negative, Decimal.ofDigits (whole ++ fraction), p - fraction.length⟩

end Numeral

/-- The binary64 number nearest to `± n · 10 ^ p`; none if that is too large for the format. Powers
that decide the answer alone are never computed. -/
def Binary64.ofScientific? (negative : Bool) (n : Nat) (p : Int) : Option Binary64 :=
  let point := (Decimal.digits n).length + p
  if n = 0 ∨ point < -330 then some (zero negative)
  else if 310 < point then none
  else
    let (num, den) := scaled n 1 10 (-p)
    nearest? negative num den

/-- The finite binary64 number that a numeral denotes, rounded to nearest. -/
def Binary64.read? (t : Text) : Option Binary64 :=
  (Numeral.read? t).bind fun x => ofScientific? x.negative x.significand x.exponent

end DateTemplate
