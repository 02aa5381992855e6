set_option autoImplicit false

/-!
# Ranges of characters

A class of characters is given by the code points at which it begins and ends by turns.
-/

namespace DateTemplate.Text

/-- Whether a code point lies in the class whose beginnings and ends by turns are listed. -/
def inRanges (bounds : List Nat) (n : Nat) : Bool := bounds.countP (· ≤ n) % 2 == 1

end DateTemplate.Text
