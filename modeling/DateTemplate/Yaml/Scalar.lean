import DateTemplate.Yaml.Cursor

set_option autoImplicit false

/-!
# Scalars in a YAML stream

Plain, quoted and block scalars, read with their line folding: a single line break counts as a space,
and of several the first is left out. Each reader returns the text of the scalar and the place behind
it. Their first argument bounds the characters to be read.
-/

namespace DateTemplate.Yaml

/-- What stood between two pieces of a scalar: blanks on one line, or line breaks. -/
structure Gap where
  /-- The blanks, last first. -/
  blanks : Text := []
  first : Option Char := none
  /-- The line breaks behind the first, last first. -/
  more : Text := []
  /-- Whether a line break was met. -/
  broken : Bool := false

namespace Gap

/-- The text of a gap: its blanks, or its line breaks folded. -/
def text (g : Gap) : Text :=
  if !g.broken then g.blanks.reverse
  else
    match g.first with
    | some '\n' => if g.more.isEmpty then [' '] else g.more.reverse
    | some c => c :: g.more.reverse
    | none => g.more.reverse

/-- The gap with one more blank. -/
def addBlank (g : Gap) (c : Char) : Gap :=
  if g.broken then g else { g with blanks := c :: g.blanks }

/-- The gap with one more line break. -/
def addBreak (g : Gap) (c : Char) : Gap :=
  if g.broken then { g with more := c :: g.more }
  else { g with blanks := [], first := some c, broken := true }

end Gap

/-! ## Plain scalars -/

/-- The blanks and line breaks behind a piece of a plain scalar. A tab may not stand where the
scalar's lines are indented. -/
def plainGap? (indent : Int) : Nat → Gap → Cursor → Option (Gap × Cursor)
  | 0, _, _ => none
  | fuel + 1, g, c =>
    match c.lineBreak? with
    | some (ch, c) => plainGap? indent fuel (g.addBreak ch) c
    | none =>
      match c.next? with
      | some ch =>
        if isBlank ch then
          if g.broken && (c.column : Int) < indent && ch == '\t' then none
          else plainGap? indent fuel (g.addBlank ch) (c.skip 1)
        else some (g, c)
      | none => some (g, c)

/-- Whether a character parts the entries of flow collections. -/
def isFlowMark (c : Char) : Bool := c == ',' || c == '[' || c == ']' || c == '{' || c == '}'

/-- The next piece of a plain scalar, without blanks. In a flow collection a colon may not stand right
before a mark. -/
def plainPiece? (inFlow : Bool) : Nat → Cursor → Option (Text × Cursor)
  | 0, _ => none
  | fuel + 1, c =>
    match c.next? with
    | none => some ([], c)
    | some ch =>
      if c.endsWord 0 then some ([], c)
      else if inFlow && ch == ':' && (c.ahead? 1).any fun d => isFlowMark d || d == '?' then none
      else if (ch == ':' && c.endsWord 1) || (inFlow && isFlowMark ch) then some ([], c)
      else (plainPiece? inFlow fuel (c.skip 1)).map fun (cs, c) => (ch :: cs, c)

/-- A plain scalar, from the place behind a gap on, whose lines are indented by at least `indent`. The
gap counts only if a piece follows it. The flag says whether the last line ended with the scalar. -/
def plain? (inFlow : Bool) (indent : Int) : Nat → Gap → Cursor → Option (Text × Bool × Cursor)
  | 0, _, _ => none
  | fuel + 1, g, c =>
    -- A number sign that is met here follows a blank, so it begins a comment.
    if c.isAtBoundary || c.isAt '#' then some ([], g.broken, c)
    else do
      let (piece, c) ← plainPiece? inFlow (c.size + 1) c
      let (front, g) := if piece.isEmpty then ([], g) else (g.text ++ piece, {})
      match c.next? with
      | none => return (front, g.broken, c)
      | some ch =>
        if !isBlank ch && !isBreak ch then return (front, g.broken, c)
        let (g, c) ← plainGap? indent (c.size + 1) g c
        if !inFlow && (c.column : Int) < indent then return (front, g.broken, c)
        let (rest, broken, c) ← plain? inFlow indent fuel g c
        return (front ++ rest, broken, c)

/-! ## Quoted scalars -/

/-- The value of a hexadecimal digit. -/
def hexDigit? (c : Char) : Option Nat :=
  if c.isDigit then some (c.toNat - '0'.toNat)
  else if 'a' ≤ c && c ≤ 'f' then some (c.toNat - 'a'.toNat + 10)
  else if 'A' ≤ c && c ≤ 'F' then some (c.toNat - 'A'.toNat + 10)
  else none

/-- The character written by a number of hexadecimal digits, and the place behind them. -/
def codeEscape? (count : Nat) (c : Cursor) : Option (Char × Cursor) := do
  let ds ← (c.rest.take count).mapM hexDigit?
  let n := ds.foldl (fun n d => 16 * n + d) 0
  if ds.length = count ∧ n.isValidChar then some (Char.ofNat n, c.skip count) else none

/-- The character that the text behind a backslash stands for, and the place behind it. -/
def escape? (c : Cursor) : Option (Char × Cursor) := do
  let code ← c.next?
  let c := c.skip 1
  match code with
  | '0' => some ('\x00', c)
  | 'a' => some ('\x07', c)
  | 'b' => some ('\x08', c)
  | 't' | '\t' => some ('\t', c)
  | 'n' => some ('\n', c)
  | 'v' => some ('\x0b', c)
  | 'f' => some ('\x0c', c)
  | 'r' => some ('\r', c)
  | 'e' => some ('\x1b', c)
  | ' ' => some (' ', c)
  | '"' => some ('"', c)
  | '/' => some ('/', c)
  | '\\' => some ('\\', c)
  | 'N' => some ('\u0085', c)
  | '_' => some ('\u00a0', c)
  | 'L' => some ('\u2028', c)
  | 'P' => some ('\u2029', c)
  | 'x' => codeEscape? 2 c
  | 'u' => codeEscape? 4 c
  | 'U' => codeEscape? 8 c
  | _ => none

/-- The next piece of a quoted scalar, without blanks. The flag says that it ended with a backslash
and a line break, which count for nothing. -/
def quotedPiece? (single : Bool) : Nat → Cursor → Option (Text × Bool × Cursor)
  | 0, _ => none
  | fuel + 1, c =>
    let goOn (ch : Char) (c : Cursor) : Option (Text × Bool × Cursor) :=
      (quotedPiece? single fuel c).map fun (cs, joined, c) => (ch :: cs, joined, c)
    match c.next? with
    | none => some ([], false, c)
    | some ch =>
      if c.endsWord 0 then some ([], false, c)
      else if single then
        if ch == '\'' then
          if c.ahead? 1 == some '\'' then goOn '\'' (c.skip 2) else some ([], false, c)
        else goOn ch (c.skip 1)
      else if ch == '"' then some ([], false, c)
      else if ch == '\\' then
        if (c.ahead? 1).any isBreak then some ([], true, (c.skip 1).skipBreak)
        else (escape? (c.skip 1)).bind fun (ch, c) => goOn ch c
      else goOn ch (c.skip 1)

/-- The blanks and line breaks behind a piece of a quoted scalar. -/
def quotedGap? : Nat → Gap → Cursor → Option (Gap × Cursor)
  | 0, _, _ => none
  | fuel + 1, g, c =>
    match c.lineBreak? with
    | some (ch, c) => quotedGap? fuel (g.addBreak ch) c
    | none =>
      match c.next? with
      | some ch => if isBlank ch then quotedGap? fuel (g.addBlank ch) (c.skip 1) else some (g, c)
      | none => some (g, c)

/-- A quoted scalar from behind its opening mark on; no document may begin or end in it. -/
def quoted? (single : Bool) : Nat → Cursor → Option (Text × Cursor)
  | 0, _ => none
  | fuel + 1, c =>
    if c.isAtBoundary || c.next?.isNone then none
    else do
      let (piece, joined, c) ← quotedPiece? single (c.size + 1) c
      if c.isAt (if single then '\'' else '"') then return (piece, c.skip 1)
      let (g, c) ← quotedGap? (c.size + 1) { broken := joined } c
      let (rest, c) ← quoted? single fuel c
      return (piece ++ g.text ++ rest, c)

/-! ## Block scalars -/

/-- What becomes of the line breaks at the end of a block scalar. -/
inductive Chomping where
  | strip
  | clip
  | keep
deriving DecidableEq

/-- The first line of a block scalar: its chomping and its own indentation, if they are given. -/
def blockHeader? (c : Cursor) : Option (Chomping × Option Nat × Cursor) := do
  let chomping? (c : Cursor) : Option (Chomping × Cursor) :=
    if c.isAt '+' then some (.keep, c.skip 1)
    else if c.isAt '-' then some (.strip, c.skip 1)
    else none
  let digit? (c : Cursor) : Option (Nat × Cursor) :=
    match c.next? with
    | some ch => if ch.isDigit then some (ch.toNat - '0'.toNat, c.skip 1) else none
    | none => none
  let (chomping, digit, c) := match chomping? c with
    | some (chomping, c) =>
      match digit? c with
      | some (n, c) => (chomping, some n, c)
      | none => (chomping, none, c)
    | none =>
      match digit? c with
      | some (n, c) =>
        match chomping? c with
        | some (chomping, c) => (chomping, some n, c)
        | none => (Chomping.clip, some n, c)
      | none => (Chomping.clip, none, c)
  if digit = some 0 then none
  let c := c.skipWhile isBlank
  let c := if c.isAt '#' then c.skipWhile (!isBreak ·) else c
  if c.endsLine 0 then some (chomping, digit, c.skipBreak) else none

/-- The empty lines before a line of a block scalar, and the place of its text. Without a given
indentation, the second number is the widest one met. A tab may not stand in the indentation. -/
def blockBreaks? (indent : Option Nat) : Nat → Nat → Cursor → Option (Text × Nat × Cursor)
  | 0, _, _ => none
  | fuel + 1, widest, c =>
    let isIndenting (column : Nat) : Bool := indent.all (column < ·)
    let spaces := (c.rest.takeWhile (· == ' ')).length
    let c := c.skip ((indent.map fun n => min spaces (n - c.column)).getD spaces)
    let widest := max widest c.column
    if isIndenting c.column && c.isAt '\t' then none
    else
      match c.lineBreak? with
      | some (ch, c) =>
        (blockBreaks? indent fuel widest c).map fun (breaks, result) => (ch :: breaks, result)
      | none => some ([], widest, c)

/-- The lines of a block scalar. `lead` is the line break before the next line, and `breaks` the empty
lines behind that. -/
def blockLines? (literal : Bool) (indent : Nat) : Nat → Bool → Option Char → Text → Cursor →
    Option (Text × Option Char × Text × Cursor)
  | 0, _, _, _, _ => none
  | fuel + 1, wasBlank, lead, breaks, c =>
    match c.next? with
    | none => some ([], lead, breaks, c)
    | some ch =>
      if c.column ≠ indent then some ([], lead, breaks, c)
      else do
        let startsBlank := isBlank ch
        -- Between lines of a folded scalar that begin with text, a single line break counts as a
        -- space and the first of several is left out.
        let joint : Text :=
          if !literal && lead == some '\n' && !wasBlank && !startsBlank then
            if breaks.isEmpty then [' '] else []
          else lead.toList
        let (line, c) := c.span (!isBreak ·)
        let (lead, c) := match c.lineBreak? with
          | some (b, c) => (some b, c)
          | none => (none, c)
        let front := joint ++ breaks ++ line
        let (breaks, _, c) ← blockBreaks? (some indent) (c.size + 1) 0 c
        let (rest, result) ← blockLines? literal indent fuel startsBlank lead breaks c
        return (front ++ rest, result)

/-- A block scalar from behind its mark on, in a block indented by `parent`. -/
def block? (literal : Bool) (parent : Int) (c : Cursor) : Option (Text × Cursor) := do
  let (chomping, digit, c) ← blockHeader? c
  let given := digit.map fun n => if 0 ≤ parent then parent.toNat + n else n
  let (breaks, widest, c) ← blockBreaks? given (c.size + 1) 0 c
  -- Where no indentation is given, the lines up to the first with text set it.
  let indent := given.getD (max (max widest (parent + 1).toNat) 1)
  let (text, lead, breaks, c) ← blockLines? literal indent (c.size + 1) false none breaks c
  let tail : Text := match chomping with
    | .strip => []
    | .clip => lead.toList
    | .keep => lead.toList ++ breaks
  return (text ++ tail, c)

end DateTemplate.Yaml
