import DateTemplate.Number.Numeral

set_option autoImplicit false

/-!
# Shortest decimals

`Binary64.shortest` is the decimal with the fewest digits that reads back as the number, and of those
the nearest to it. It tries one digit, two digits, up to seventeen, and each time the two neighbours
of the number among the decimals of that length. The exact decimal stands in should none read back.
-/

namespace DateTemplate.Binary64

/-- Where an exact tie between two decimals of the same length goes. -/
inductive Tie where
  | up
  | even
deriving DecidableEq, Repr

/-- The place of the point: the positive `num / den` is below `10 ^ place`, and not below
`10 ^ (place - 1)`. -/
def pointPlace (num den : Nat) : Int :=
  -- No number of the format but zero is below `10 ^ -400`, so the quotient keeps a digit.
  (Decimal.digits (num * Nat.pow 10 400 / den)).length - (400 : Nat)

/-- Whether the upper of the neighbours `lower` and `lower + 1` of `num / den` is to be taken. -/
def Tie.takesUpper (tie : Tie) (lower num den : Nat) : Bool :=
  let twice := 2 * (num % den)
  den < twice || (den == twice && (tie == .up || lower % 2 == 1))

/-- The decimal `c · 10 ^ p` for a given `p` that reads back as the number, if one of the two next
to the number does; the nearer of two. -/
def ofPower? (tie : Tie) (x : Binary64) (p : Int) : Option (Nat × Int) :=
  let (num, den) := scaled x.quotient.1 x.quotient.2 10 p
  let lower := num / den
  let readsBack (c : Nat) : Bool := ofScientific? x.negative c p == some x
  match readsBack lower, readsBack (lower + 1) with
  | true, true => some (if tie.takesUpper lower num den then lower + 1 else lower, p)
  | true, false => some (lower, p)
  | false, true => some (lower + 1, p)
  | false, false => none

/-- The decimal with `length` digits that reads back as the number, if there is one. -/
def ofLength? (tie : Tie) (x : Binary64) (length : Nat) : Option (Nat × Int) :=
  ofPower? tie x (pointPlace x.quotient.1 x.quotient.2 - length)

/-- The decimal that equals the number. -/
def exact (x : Binary64) : Nat × Int :=
  match x.exponent with
  | .ofNat e => (x.mantissa * Nat.pow 2 e, 0)
  | .negSucc e => (x.mantissa * Nat.pow 5 (e + 1), .negSucc e)

/-- The shortest decimal `c · 10 ^ p` that reads back as the number. -/
def shortest (tie : Tie) (x : Binary64) : Nat × Int :=
  if x.mantissa = 0 then (0, 0)
  else ((List.range 17).findSome? fun i => ofLength? tie x (i + 1)).getD x.exact

end DateTemplate.Binary64
