set_option autoImplicit false

/-!
# The width of integers

An integer of some width is one that so many bits hold, either without a sign or with one.
-/

namespace DateTemplate.Width

/-- Whether so many bits hold an integer that has no sign. -/
def holdsUnsigned (bits : Nat) (n : Int) : Bool := 0 ≤ n && n.toNat < Nat.pow 2 bits

/-- Whether so many bits hold an integer that has a sign: those from `-2 ^ (bits - 1)` to
`2 ^ (bits - 1) - 1`. -/
def holdsSigned (bits : Nat) (n : Int) : Bool :=
  if 0 ≤ n then n.toNat < Nat.pow 2 (bits - 1) else n.natAbs ≤ Nat.pow 2 (bits - 1)

/-- Whether so many bits hold an integer, with or without a sign. -/
def holds (bits : Nat) (n : Int) : Bool := holdsUnsigned bits n || holdsSigned bits n

end DateTemplate.Width
