import DateTemplate.Text.Blank

set_option autoImplicit false

/-!
# A place in a YAML stream

A cursor is the text still to be read with the line and column it begins at. Five characters or pairs
of them break a line, two are blanks, and a stream may hold only the characters that
`isStreamChar` allows.
-/

namespace DateTemplate.Yaml

/-- Whether a stream may hold a character: no controls but tabs and line breaks, and no code points
that stand for no character. -/
def isStreamChar (c : Char) : Bool :=
  let n := c.toNat
  n == 9 || n == 10 || n == 13 || (32 ≤ n && n ≤ 126) || n == 0x85 || (0xA0 ≤ n && n ≤ 0xD7FF)
    || (0xE000 ≤ n && n ≤ 0xFFFD) || (0x10000 ≤ n && n ≤ 0x10FFFF)

/-- Whether a character breaks a line. -/
def isBreak (c : Char) : Bool :=
  c == '\n' || c == '\r' || c == '\u0085' || c == '\u2028' || c == '\u2029'

/-- Whether a character is a blank of a line. -/
def isBlank (c : Char) : Bool := c == ' ' || c == '\t'

/-- Whether a character may stand in the name of an anchor, a handle or a directive. -/
def isNameChar (c : Char) : Bool := c.isAlphanum || c == '_' || c == '-'

/-- The text still to be read, and where it begins. -/
structure Cursor where
  rest : Text
  /-- The number of characters in the whole stream, which bounds every loop over the rest of it. -/
  size : Nat
  index : Nat
  line : Nat
  column : Nat

namespace Cursor

/-- The front of a text. -/
def ofText (t : Text) : Cursor := ⟨t, t.length, 0, 0, 0⟩

/-- The character some places ahead. -/
def ahead? (c : Cursor) (n : Nat) : Option Char := c.rest[n]?

/-- The next character. -/
def next? (c : Cursor) : Option Char := c.rest.head?

/-- Whether the next character is a given one. -/
def isAt (c : Cursor) (ch : Char) : Bool := c.next? == some ch

/-- Whether the character some places ahead breaks the line, or the stream ends there. -/
def endsLine (c : Cursor) (n : Nat) : Bool := (c.ahead? n).all isBreak

/-- Whether a word ends some places ahead: at a blank, a line break or the end. -/
def endsWord (c : Cursor) (n : Nat) : Bool := (c.ahead? n).all fun ch => isBlank ch || isBreak ch

/-- The place some characters further on the same line. -/
def skip (c : Cursor) (n : Nat) : Cursor :=
  { c with rest := c.rest.drop n, index := c.index + n, column := c.column + n }

/-- The characters of a class at the front, and the place behind them; none of them breaks a line. -/
def span (p : Char → Bool) (c : Cursor) : Text × Cursor :=
  let run := c.rest.takeWhile p
  (run, c.skip run.length)

/-- The place behind the characters of a class; none of them breaks a line. -/
def skipWhile (p : Char → Bool) (c : Cursor) : Cursor := (c.span p).2

/-- The line break at the front as it counts in a text, and the place behind it. -/
def lineBreak? (c : Cursor) : Option (Char × Cursor) :=
  let behind (n : Nat) : Cursor :=
    { c with rest := c.rest.drop n, index := c.index + n, line := c.line + 1, column := 0 }
  match c.rest with
  | '\r' :: '\n' :: _ => some ('\n', behind 2)
  | ch :: _ =>
    if ch == '\u2028' || ch == '\u2029' then some (ch, behind 1)
    else if isBreak ch then some ('\n', behind 1)
    else none
  | [] => none

/-- The place behind a line break, if one is at the front. -/
def skipBreak (c : Cursor) : Cursor := (c.lineBreak?.map (·.2)).getD c

/-- Whether a mark of three characters that bounds a document is at the front of a line. -/
def isAtMark (c : Cursor) (mark : Text) : Bool :=
  c.column == 0 && c.rest.take 3 == mark && c.endsWord 3

/-- Whether a document begins or ends here. -/
def isAtBoundary (c : Cursor) : Bool := c.isAtMark "---".toList || c.isAtMark "...".toList

end Cursor

end DateTemplate.Yaml
