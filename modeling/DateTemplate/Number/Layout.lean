import DateTemplate.Number.Shortest

set_option autoImplicit false

/-!
# The text of a number

A layout says how the digits of a number are set out. `Layout.positional` never writes a power of
ten and drops the point of a whole number; `Layout.scientific` writes a power where the point would
be far from the digits, and `.0` behind a whole number.
-/

namespace DateTemplate.Binary64

/-- How the digits of a number are set out. -/
structure Layout where
  /-- Where an exact tie between two shortest decimals goes. -/
  tie : Tie
  /-- What stands behind the digits of a whole number. -/
  whole : Text
  /-- The places of the point at which no power of ten is written. -/
  isPositional : Int → Bool
  /-- The name of positive infinity. -/
  infinity : Text
  /-- The name of what is not a number. -/
  nan : Text

/-- No power of ten, no point behind a whole number; ties go up. -/
def Layout.positional : Layout where
  tie := .up
  whole := []
  isPositional _ := true
  infinity := "inf".toList
  nan := "NaN".toList

/-- A power of ten below 0.00001 and from `1e16` on, `.0` behind a whole number; ties go to the even
digit. -/
def Layout.scientific : Layout where
  tie := .even
  whole := ".0".toList
  isPositional point := -5 < point && point ≤ 16
  infinity := ".inf".toList
  nan := ".nan".toList

/-- The digits with zeros at the end taken off; a single digit stays. -/
def withoutTrailingZeros (ds : Text) : Text :=
  match (ds.reverse.dropWhile (· == '0')).reverse with
  | [] => ['0']
  | ds => ds

/-- Digits with the point at a place from their front, zeros filling the room between. -/
def pointed (whole : Text) (ds : Text) (point : Int) : Text :=
  if point ≤ 0 then '0' :: '.' :: List.replicate point.natAbs '0' ++ ds
  else if point < ds.length then ds.take point.toNat ++ '.' :: ds.drop point.toNat
  else ds ++ List.replicate (point.toNat - ds.length) '0' ++ whole

/-- Digits with the point behind the first and a power of ten. -/
def powered (ds : Text) (point : Int) : Text :=
  let fraction := if ds.length ≤ 1 then [] else '.' :: ds.drop 1
  ds.take 1 ++ fraction ++ 'e' :: Decimal.signed (point - 1)

/-- The text of a number in a layout: a minus sign for a negative number, zero included, and the
shortest digits that read back. -/
def write (layout : Layout) (x : Binary64) : Text :=
  let (c, p) := x.shortest layout.tie
  let ds := Decimal.digits c
  let point := ds.length + p
  let ds := withoutTrailingZeros ds
  let body := if layout.isPositional point then pointed layout.whole ds point else powered ds point
  if x.negative then '-' :: body else body

end DateTemplate.Binary64

namespace DateTemplate

/-- A binary64 number, an infinity or what is not a number. -/
inductive Float64 where
  | finite (x : Binary64)
  | infinite (negative : Bool)
  | nan
deriving DecidableEq

/-- The text of a number in a layout; infinities and what is not a number have names. -/
def Float64.write (layout : Binary64.Layout) : Float64 → Text
  | finite x => x.write layout
  | infinite negative => if negative then '-' :: layout.infinity else layout.infinity
  | nan => layout.nan

end DateTemplate
