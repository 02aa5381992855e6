import DateTemplate.Text.Blank
import DateTemplate.Text.Decimal

set_option autoImplicit false

/-!
# JSON text

JSON values written over several lines, two blanks for each level. Only quotes, backslashes and
control characters are escaped.
-/

namespace DateTemplate

/-- A value that is written as JSON. -/
inductive Json where
  | string (t : Text)
  | number (n : Nat)
  | array (items : List Json)
  | object (members : List (Text × Json))

namespace Json

/-- A character of a text between quotes. -/
def escapedChar (c : Char) : Text :=
  match c with
  | '"' => ['\\', '"']
  | '\\' => ['\\', '\\']
  | '\x08' => ['\\', 'b']
  | '\x0c' => ['\\', 'f']
  | '\n' => ['\\', 'n']
  | '\r' => ['\\', 'r']
  | '\t' => ['\\', 't']
  | c =>
    if c.toNat < 32 then
      '\\' :: 'u' :: '0' :: '0' :: Nat.digitChar (c.toNat / 16) :: [Nat.digitChar (c.toNat % 16)]
    else [c]

/-- A text between quotes. -/
def quoted (t : Text) : Text := '"' :: t.flatMap escapedChar ++ ['"']

/-- The start of a line at some level. -/
def newLine (level : Nat) : Text := '\n' :: List.replicate (2 * level) ' '

mutual

/-- The text of a value whose first line stands at some level. -/
def text (level : Nat) : Json → Text
  | string t => quoted t
  | number n => Decimal.digits n
  | array [] => ['[', ']']
  | array (item :: rest) =>
    '[' :: newLine (level + 1) ++ item.text (level + 1) ++ itemsText (level + 1) rest
      ++ newLine level ++ [']']
  | object [] => ['{', '}']
  | object ((name, value) :: rest) =>
    '{' :: newLine (level + 1) ++ quoted name ++ ':' :: ' ' :: value.text (level + 1)
      ++ membersText (level + 1) rest ++ newLine level ++ ['}']

/-- The items behind the first one. -/
def itemsText (level : Nat) : List Json → Text
  | [] => []
  | item :: rest => ',' :: newLine level ++ item.text level ++ itemsText level rest

/-- The members behind the first one. -/
def membersText (level : Nat) : List (Text × Json) → Text
  | [] => []
  | (name, value) :: rest =>
    ',' :: newLine level ++ quoted name ++ ':' :: ' ' :: value.text level ++ membersText level rest

end

end Json

end DateTemplate
