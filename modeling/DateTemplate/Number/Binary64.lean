set_option autoImplicit false

/-!
# Finite binary64 numbers

A finite number of the format is `± mantissa · 2 ^ exponent` in canonical form, and the form is part
of the type. `nearest?` rounds a quotient of natural numbers to the format, a half going to the even
neighbour. Everything is exact arithmetic on natural numbers and integers.
-/

namespace DateTemplate

namespace Binary64

/-- The mantissa fills its 53 bits, or the exponent is the least; neither exceeds its range. -/
def IsCanonical (mantissa : Nat) (exponent : Int) : Prop :=
  mantissa < Nat.pow 2 53 ∧ -1074 ≤ exponent ∧ exponent ≤ 971
    ∧ (Nat.pow 2 52 ≤ mantissa ∨ exponent = -1074)

instance (mantissa : Nat) (exponent : Int) : Decidable (IsCanonical mantissa exponent) :=
  inferInstanceAs (Decidable (_ ∧ _ ∧ _ ∧ _))

end Binary64

/-- A finite binary64 number, `± mantissa · 2 ^ exponent`; zero has both signs. -/
structure Binary64 where
  negative : Bool
  mantissa : Nat
  exponent : Int
  isCanonical : Binary64.IsCanonical mantissa exponent
deriving DecidableEq

namespace Binary64

/-- A quotient rounded to the nearest natural number, a half to the even one. -/
def roundDiv (num den : Nat) : Nat :=
  let q := num / den
  let r := num % den
  if den < 2 * r || (den == 2 * r && q % 2 == 1) then q + 1 else q

/-- Numerator and denominator of `num / den / base ^ p`, for a power of either sign. -/
def scaled (num den base : Nat) : Int → Nat × Nat
  | .ofNat p => (num, den * base.pow p)
  | .negSucc p => (num * base.pow (p + 1), den)

/-- The least exponent, not below -1074, for which `num / den` has a mantissa below `2 ^ 53`. -/
def fittingExponent (num den : Nat) : Int :=
  -- The logarithms are rounded down, so this estimate is right or one too small.
  let e := max (-1074) ((num.log2 : Int) - (den.log2 : Int) - 53)
  let (n, d) := scaled num den 2 e
  if n / d < Nat.pow 2 53 then e else e + 1

/-- The number with a given mantissa and exponent, where the mantissa may be `2 ^ 53`; none if it is
too large for the format. -/
def carry? (negative : Bool) (mantissa : Nat) (exponent : Int) : Option Binary64 :=
  let (m, e) :=
    if mantissa = Nat.pow 2 53 then (Nat.pow 2 52, exponent + 1) else (mantissa, exponent)
  if h : IsCanonical m e then some ⟨negative, m, e, h⟩ else none

/-- The number nearest to `num / den`, a half going to the even mantissa; none if it is too large for
the format. -/
def nearest? (negative : Bool) (num den : Nat) : Option Binary64 :=
  let e := fittingExponent num den
  let (n, d) := scaled num den 2 e
  carry? negative (roundDiv n d) e

/-- Zero with a sign. -/
def zero (negative : Bool) : Binary64 := ⟨negative, 0, -1074, by decide⟩

/-- The magnitude of a number as a quotient. -/
def quotient (x : Binary64) : Nat × Nat :=
  match x.exponent with
  | .ofNat e => (x.mantissa * Nat.pow 2 e, 1)
  | .negSucc e => (x.mantissa, Nat.pow 2 (e + 1))

end Binary64

end DateTemplate
