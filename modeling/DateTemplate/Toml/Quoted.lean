import DateTemplate.Toml.Word

set_option autoImplicit false

/-!
# Quoted texts in TOML

Texts between quotes or apostrophes, on one line or, between three of them, on several. Backslashes
have a meaning between quotes only. Each reader starts behind the opening marks and returns the text
with what stands behind the closing marks.
-/

namespace DateTemplate.Toml

/-- Whether a character may stand in a line: tabs, and everything that is no control character. -/
def isLineChar (c : Char) : Bool := c == '\t' || (32 ≤ c.toNat && c.toNat != 127)

/-- The line break at the front of a text, and the text behind it. -/
def lineBreak? : Text → Option (Text × Text)
  | '\n' :: t => some (['\n'], t)
  | '\r' :: '\n' :: t => some (['\r', '\n'], t)
  | _ => none

/-- The character of a code point, if there is one. -/
def charOfCode? (n : Nat) : Option Char := if n.isValidChar then some (Char.ofNat n) else none

/-- The character written by a number of hexadecimal digits. -/
def codeEscape? (count : Nat) (t : Text) : Option (Char × Text) :=
  let ds := t.take count
  if ds.length = count && ds.all (isDigitOf 16) then
    (charOfCode? (ofDigitsOf 16 ds)).map fun c => (c, t.drop count)
  else none

/-- The character that the text behind a backslash stands for. -/
def escape? : Text → Option (Char × Text)
  | 'b' :: t => some ('\x08', t)
  | 't' :: t => some ('\t', t)
  | 'n' :: t => some ('\n', t)
  | 'f' :: t => some ('\x0c', t)
  | 'r' :: t => some ('\r', t)
  | 'e' :: t => some ('\x1b', t)
  | '"' :: t => some ('"', t)
  | '\\' :: t => some ('\\', t)
  | 'x' :: t => codeEscape? 2 t
  | 'u' :: t => codeEscape? 4 t
  | 'U' :: t => codeEscape? 8 t
  | _ => none

/-- A text on one line up to a quote. The first argument bounds the number of characters. -/
def basic? : Nat → Text → Option (Text × Text)
  | 0, _ => none
  | _ + 1, '"' :: t => some ([], t)
  | fuel + 1, '\\' :: t => do
    let (c, t) ← escape? t
    let (cs, t) ← basic? fuel t
    return (c :: cs, t)
  | fuel + 1, c :: t =>
    if isLineChar c then (basic? fuel t).map fun (cs, t) => (c :: cs, t) else none
  | _ + 1, [] => none

/-- A text on one line up to an apostrophe. -/
def literal? : Text → Option (Text × Text)
  | [] => none
  | c :: t =>
    if c = '\'' then some ([], t)
    else if isLineChar c then (literal? t).map fun (cs, t) => (c :: cs, t)
    else none

/-- The end of a text on several lines: three marks, behind up to two that belong to the text. -/
def closing? (mark : Char) (t : Text) : Option (Text × Text) :=
  let count := min 5 (t.takeWhile (· == mark)).length
  if 3 ≤ count then some (List.replicate (count - 3) mark, t.drop count) else none

/-- The text behind the blanks and line breaks at its front. The first argument bounds their number. -/
def skipSpace : Nat → Text → Text
  | 0, t => t
  | fuel + 1, t =>
    match lineBreak? t with
    | some (_, t) => skipSpace fuel t
    | none =>
      match t with
      | ' ' :: t | '\t' :: t => skipSpace fuel t
      | t => t

/-- The text behind a backslash at the end of a line, from the next character on that is neither a
blank nor a line break. The first argument bounds the characters left out. -/
def joinedLine? (fuel : Nat) (t : Text) : Option Text :=
  (lineBreak? (t.dropWhile fun c => c == ' ' || c == '\t')).map fun (_, t) => skipSpace fuel t

/-- A text on several lines up to three quotes. The first argument bounds the number of
characters. -/
def multilineBasic? : Nat → Text → Option (Text × Text)
  | 0, _ => none
  | fuel + 1, t =>
    match closing? '"' t with
    | some found => some found
    | none =>
      match t with
      | [] => none
      | '\\' :: t =>
        match joinedLine? fuel t with
        | some t => multilineBasic? fuel t
        | none => do
          let (c, t) ← escape? t
          let (cs, t) ← multilineBasic? fuel t
          return (c :: cs, t)
      | c :: rest => do
        let (front, rest) ← if isLineChar c then some ([c], rest) else lineBreak? t
        let (cs, rest) ← multilineBasic? fuel rest
        return (front ++ cs, rest)

/-- A text on several lines up to three apostrophes. The first argument bounds the number of
characters. -/
def multilineLiteral? : Nat → Text → Option (Text × Text)
  | 0, _ => none
  | fuel + 1, t =>
    match closing? '\'' t with
    | some found => some found
    | none =>
      match t with
      | [] => none
      | c :: rest => do
        let (front, rest) ← if isLineChar c then some ([c], rest) else lineBreak? t
        let (cs, rest) ← multilineLiteral? fuel rest
        return (front ++ cs, rest)

/-- A text without a line break at its front. -/
def withoutFirstBreak (t : Text) : Text :=
  match lineBreak? t with
  | some (_, t) => t
  | none => t

/-- A quoted text of any form, with what stands behind it. The first argument bounds the number of
characters. -/
def quoted? (fuel : Nat) : Text → Option (Text × Text)
  | '"' :: '"' :: '"' :: t => multilineBasic? fuel (withoutFirstBreak t)
  | '\'' :: '\'' :: '\'' :: t => multilineLiteral? fuel (withoutFirstBreak t)
  | '"' :: t => basic? fuel t
  | '\'' :: t => literal? t
  | _ => none

end DateTemplate.Toml
