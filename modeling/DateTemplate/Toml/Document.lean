import DateTemplate.Toml.Quoted

set_option autoImplicit false

/-!
# TOML documents

A document is read line by line into the entries of its outermost table. Between the brackets of an
array and the braces of an inline table, line breaks and comments may stand wherever blanks may, and
a comma behind the last element is allowed. Arrays and inline tables nest at most 80 deep.
-/

namespace DateTemplate.Toml

/-! ## What stands between -/

/-- Whether a character is a blank of a line. -/
def isLineBlank (c : Char) : Bool := c == ' ' || c == '\t'

/-- The text behind the blanks at its front. -/
def skipBlanks (t : Text) : Text := t.dropWhile isLineBlank

/-- The text behind a comment, if one stands at its front. -/
def skipComment : Text → Text
  | '#' :: t => t.dropWhile isLineChar
  | t => t

/-- The text behind the end of a line: blanks, a comment, and a line break or the end of the text. -/
def endOfLine? (t : Text) : Option Text :=
  match skipComment (skipBlanks t) with
  | [] => some []
  | t => (lineBreak? t).map (·.2)

/-- The text behind blanks, comments and line breaks. The first argument bounds their number. -/
def skipLines : Nat → Text → Text
  | 0, t => t
  | fuel + 1, t =>
    match lineBreak? (skipComment (skipBlanks t)) with
    | some (_, t) => skipLines fuel t
    | none => skipComment (skipBlanks t)

/-! ## Keys -/

/-- Whether a character may stand in a key without quotes. -/
def isBareKeyChar (c : Char) : Bool := c.isAlphanum || c == '_' || c == '-'

/-- One part of a key, bare or quoted on one line. The first argument bounds the number of
characters. -/
def simpleKey? (fuel : Nat) (t : Text) : Option (Text × Text) :=
  match t with
  | '"' :: t => basic? fuel t
  | '\'' :: t => literal? t
  | t =>
    let key := t.takeWhile isBareKeyChar
    if key.isEmpty then none else some (key, t.dropWhile isBareKeyChar)

/-- A key of parts joined by points: the parts before the last, the last, and the text behind it and
the blanks that follow. The first argument bounds the number of characters. -/
def key? : Nat → Text → Option (List Text × Text × Text)
  | 0, _ => none
  | fuel + 1, t => do
    let (part, t) ← simpleKey? fuel t
    match skipBlanks t with
    | '.' :: t =>
      let (path, last, t) ← key? fuel (skipBlanks t)
      return (part :: path, last, t)
    | t => return ([], part, t)

/-! ## Values -/

/-- Whether a character ends an unquoted value. -/
def endsWord (c : Char) : Bool :=
  isLineBlank c || c == '\n' || c == '\r' || c == '#' || c == ',' || c == ']' || c == '}'

/-- The unquoted run at the front of a text. A single space may part a date from its time. -/
def bareRun (t : Text) : Text × Text :=
  let run := t.takeWhile (!endsWord ·)
  let rest := t.dropWhile (!endsWord ·)
  -- Behind a whole date, a space and a digit belong to the value as its time.
  match DateTime.date? run, rest with
  | some (_, []), ' ' :: c :: t =>
    if c.isDigit then
      (run ++ ' ' :: c :: t.takeWhile (!endsWord ·), t.dropWhile (!endsWord ·))
    else (run, rest)
  | _, _ => (run, rest)

mutual

/-- A value, with the text behind it. The first argument bounds the work, the second the depth. -/
def value? : Nat → Nat → Text → Option (Node × Text)
  | 0, _, _ => none
  | fuel + 1, depth, t =>
    match t with
    | '[' :: t =>
      match depth with
      | 0 => none
      | depth + 1 =>
        (items? fuel depth (skipLines fuel t)).map fun (items, t) => (.array false items, t)
    | '{' :: t =>
      match depth with
      | 0 => none
      | depth + 1 =>
        (members? fuel depth [] (skipLines fuel t)).map fun (entries, t) =>
          (.table .inline entries, t)
    | '"' :: _ | '\'' :: _ => (quoted? fuel t).map fun (cs, t) => (.string cs, t)
    | t =>
      let (run, rest) := bareRun t
      (word? run).map fun node => (node, rest)

/-- The elements of an array up to its closing bracket. -/
def items? : Nat → Nat → Text → Option (List Node × Text)
  | 0, _, _ => none
  | _ + 1, _, ']' :: t => some ([], t)
  | fuel + 1, depth, t => do
    let (node, t) ← value? fuel depth t
    match skipLines fuel t with
    | ',' :: t =>
      let (items, t) ← items? fuel depth (skipLines fuel t)
      return (node :: items, t)
    | ']' :: t => return ([node], t)
    | _ => none

/-- The entries of an inline table up to its closing brace, behind those already read. -/
def members? : Nat → Nat → Entries → Text → Option (Entries × Text)
  | 0, _, _, _ => none
  | _ + 1, _, entries, '}' :: t => some (entries, t)
  | fuel + 1, depth, entries, t => do
    let (path, key, t) ← key? fuel t
    match t with
    | '=' :: t =>
      let (node, t) ← value? fuel depth (skipBlanks t)
      -- A key that stands twice is refused at once, whatever follows.
      let entries ← entries.insert? path key node .inline
      match skipLines fuel t with
      | ',' :: t => members? fuel depth entries (skipLines fuel t)
      | '}' :: t => return (entries, t)
      | _ => none
    | _ => none

end

/-! ## Lines -/

/-- What has been read of a document: its entries, and the table that the last header opened. -/
structure Progress where
  entries : Entries
  header : List Text

/-- Adds a key with its value to the table of the last header. -/
def Progress.insert? (p : Progress) (path : List Text) (key : Text) (node : Node) :
    Option Progress :=
  (Entries.descend? .implied (Entries.insert? path key node) p.header .defined p.entries).map
    fun entries => { p with entries }

/-- Opens the table of a header. -/
def Progress.openTable? (p : Progress) (path : List Text) (key : Text) : Option Progress :=
  (p.entries.openTable? path key).map fun entries => ⟨entries, path ++ [key]⟩

/-- Opens an element of the array of tables of a header. -/
def Progress.openElement? (p : Progress) (path : List Text) (key : Text) : Option Progress :=
  (p.entries.openElement? path key).map fun entries => ⟨entries, path ++ [key]⟩

/-- The deepest nesting of arrays and inline tables. -/
def maxDepth : Nat := 80

/-- Reads one line, which is not empty: a header, or a key with its value. The first argument bounds
the number of characters. -/
def line? (fuel : Nat) (p : Progress) (t : Text) : Option (Progress × Text) :=
  match t with
  | '[' :: '[' :: t => do
    let (path, key, t) ← key? fuel (skipBlanks t)
    match t with
    | ']' :: ']' :: t => return (← p.openElement? path key, t)
    | _ => none
  | '[' :: t => do
    let (path, key, t) ← key? fuel (skipBlanks t)
    match t with
    | ']' :: t => return (← p.openTable? path key, t)
    | _ => none
  | t => do
    let (path, key, t) ← key? fuel t
    match t with
    | '=' :: t =>
      let (node, t) ← value? (2 * fuel) maxDepth (skipBlanks t)
      return (← p.insert? path key node, t)
    | _ => none

/-- Reads the lines of a document. The first argument bounds the number of characters. -/
def lines? : Nat → Progress → Text → Option Progress
  | 0, _, _ => none
  | fuel + 1, p, t =>
    match skipLines fuel t with
    | [] => some p
    | t => do
      let (p, t) ← line? (fuel + 1) p t
      let t ← endOfLine? t
      lines? fuel p t

/-- The entries of the outermost table of a document; a byte order mark may stand in front. -/
def document? (t : Text) : Option Entries :=
  let t := match t with
    | '\uFEFF' :: t => t
    | t => t
  (lines? (t.length + 1) ⟨[], []⟩ t).map (·.entries)

end DateTemplate.Toml
