import DateTemplate.Text.Blank
import DateTemplate.Text.Printable

set_option autoImplicit false

/-!
# Quoted text

A text between double quotes in which every character can be seen: quotes and backslashes have a
backslash before them, the common controls a letter behind one, and other characters that do not
stand visibly by themselves are written `\u{301}`.
-/

namespace DateTemplate.Text

/-- One character of a quoted text. -/
def quotedChar (c : Char) : Text :=
  match c with
  | '\x00' => ['\\', '0']
  | '\t' => ['\\', 't']
  | '\n' => ['\\', 'n']
  | '\r' => ['\\', 'r']
  | '"' => ['\\', '"']
  | '\\' => ['\\', '\\']
  | c => if isPrintable c then [c] else '\\' :: 'u' :: '{' :: Nat.toDigits 16 c.toNat ++ ['}']

/-- A text between double quotes. -/
def quoted (t : Text) : Text := '"' :: t.flatMap quotedChar ++ ['"']

end DateTemplate.Text
