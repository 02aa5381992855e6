import DateTemplate.Yaml.Token

set_option autoImplicit false

/-!
# Scanning a YAML stream

Turns a stream into tokens. A block collection is opened where a line is indented more than the
innermost open one, and closed where a line is indented less. What may turn out to be a key is
remembered until a colon follows it on the same line: the marks for the key and for its mapping are
then put in front of it.
-/

namespace DateTemplate.Yaml

/-- The place of what may turn out to be a key. -/
structure KeyCandidate where
  /-- Whether it can be nothing else. -/
  required : Bool
  /-- The number of tokens in front of it. -/
  number : Nat
  index : Nat
  line : Nat
  column : Nat

/-- How far the scanning of a stream has come. -/
structure Scan where
  cursor : Cursor
  /-- The columns of the open block collections, innermost first. -/
  columns : List Nat
  /-- Whether a key may begin here. -/
  keyAllowed : Bool
  /-- The last candidate for a key in the innermost flow collection, or outside of them. -/
  candidate : Option KeyCandidate
  /-- The candidates around the innermost flow collection, one for each open flow collection. -/
  outer : List (Option KeyCandidate)
  /-- The tokens so far, last first. -/
  tokens : List Token
  /-- The number of tokens so far. -/
  count : Nat

namespace Scan

/-- Whether a flow collection is open. -/
def inFlow (s : Scan) : Bool := !s.outer.isEmpty

/-- The column of the innermost open block collection; -1 outside of all. -/
def indent (s : Scan) : Int := (s.columns.head?.map Int.ofNat).getD (-1)

/-- Adds a token. -/
def emit (t : Token) (s : Scan) : Scan := { s with tokens := t :: s.tokens, count := s.count + 1 }

/-- Puts a token behind a number of tokens. -/
def insertAt (number : Nat) (t : Token) (s : Scan) : Scan :=
  let (behind, front) := s.tokens.splitAt (s.count - number)
  { s with tokens := behind ++ t :: front, count := s.count + 1 }

/-! ## Candidates for keys -/

/-- Gives the last candidate up, unless it has to be a key. -/
def forgetKey? (s : Scan) : Option Scan :=
  if s.candidate.any (·.required) then none else some { s with candidate := none }

/-- Remembers the present place as a candidate, if a key may begin here. -/
def noteKey? (s : Scan) : Option Scan :=
  let c := s.cursor
  let required := !s.inFlow && s.indent = c.column
  if s.keyAllowed then
    s.forgetKey?.map fun s =>
      { s with candidate := some ⟨required, s.count, c.index, c.line, c.column⟩ }
  else some s

/-- A candidate that can still be a key: on the same line and within 1024 characters. One that is too
old must not be required. -/
def liveKey? (c : Cursor) : Option KeyCandidate → Option (Option KeyCandidate)
  | none => some none
  | some k =>
    if k.line < c.line || k.index + 1024 < c.index then
      if k.required then none else some none
    else some (some k)

/-- Gives up the candidates that are too old. -/
def forgetOldKeys? (s : Scan) : Option Scan := do
  return { s with
    candidate := ← liveKey? s.cursor s.candidate
    outer := ← s.outer.mapM (liveKey? s.cursor) }

/-! ## Block collections -/

/-- Closes the block collections whose column is greater than a given one. -/
def closeBlocks (column : Int) (s : Scan) : Scan :=
  if s.inFlow then s
  else
    let closed := s.columns.takeWhile fun n : Nat => column < (n : Int)
    { s with
      columns := s.columns.drop closed.length
      tokens := List.replicate closed.length .blockEnd ++ s.tokens
      count := s.count + closed.length }

/-- Opens a block collection that begins behind a number of tokens, if its column is greater than
that of the innermost one. -/
def openBlock (start : Token) (column number : Nat) (s : Scan) : Scan :=
  if s.inFlow || column ≤ s.indent then s
  else { s with columns := column :: s.columns }.insertAt number start

/-- Opens a block collection that begins at the present place. -/
def openBlockHere (start : Token) (s : Scan) : Scan :=
  s.openBlock start s.cursor.column s.count

/-! ## Tokens -/

/-- Leaves out blanks, comments and line breaks. Behind a line break a key may begin, and where a key
may begin outside of flow collections tabs do not count as blanks. The first argument bounds the
number of lines. -/
def skipGap : Nat → Scan → Scan
  | 0, s => s
  | fuel + 1, s =>
    let c := s.cursor
    -- A byte order mark may stand at the front of the stream only.
    let c := if c.index = 0 && c.isAt '\uFEFF' then c.skip 1 else c
    let c := c.skipWhile fun ch => ch == ' ' || (ch == '\t' && (s.inFlow || !s.keyAllowed))
    let c := if c.isAt '#' then c.skipWhile (!isBreak ·) else c
    match c.lineBreak? with
    | some (_, c) => skipGap fuel { s with cursor := c, keyAllowed := s.keyAllowed || !s.inFlow }
    | none => { s with cursor := c }

/-- Goes on behind a mark, with a token for it. -/
def take (count : Nat) (t : Token) (keyAllowed : Bool) (s : Scan) : Scan :=
  { s with cursor := s.cursor.skip count, keyAllowed }.emit t

/-- Goes on behind a token that has been read. -/
def follow (keyAllowed : Bool) (s : Scan) (read : Token × Cursor) : Scan :=
  { s with cursor := read.2, keyAllowed }.emit read.1

/-- A directive, or a mark that bounds a document; all block collections end before it. -/
def document? (read : Cursor → Option (Token × Cursor)) (s : Scan) : Option Scan := do
  let s ← (s.closeBlocks (-1)).forgetKey?
  return s.follow false (← read s.cursor)

/-- The start of a flow collection. -/
def openFlow? (t : Token) (s : Scan) : Option Scan := do
  let s ← s.noteKey?
  return { s with outer := s.candidate :: s.outer, candidate := none }.take 1 t true

/-- The end of a flow collection. -/
def closeFlow? (t : Token) (s : Scan) : Option Scan := do
  let s ← s.forgetKey?
  let s := match s.outer with
    | candidate :: outer => { s with candidate, outer }
    | [] => s
  return s.take 1 t false

/-- The comma between the entries of a flow collection. -/
def flowEntry? (s : Scan) : Option Scan := s.forgetKey?.map (take 1 .flowEntry true)

/-- The hyphen before an entry of a block sequence. -/
def blockEntry? (s : Scan) : Option Scan := do
  if !s.inFlow && !s.keyAllowed then none
  let s ← (s.openBlockHere .blockSequenceStart).forgetKey?
  return s.take 1 .blockEntry true

/-- The question mark before a key. -/
def key? (s : Scan) : Option Scan := do
  if !s.inFlow && !s.keyAllowed then none
  let s ← (s.openBlockHere .blockMappingStart).forgetKey?
  return s.take 1 .key !s.inFlow

/-- The colon before a value; it makes the candidate a key. -/
def value? (s : Scan) : Option Scan :=
  match s.candidate with
  | some k =>
    -- The mark of the mapping goes in second and so comes to stand before that of the key.
    let s := (s.insertAt k.number .key).openBlock .blockMappingStart k.column k.number
    some ({ s with candidate := none }.take 1 .value false)
  | none =>
    if !s.inFlow && !s.keyAllowed then none
    else some ((s.openBlockHere .blockMappingStart).take 1 .value !s.inFlow)

/-- An anchor, an alias or a tag. -/
def property? (read : Cursor → Option (Token × Cursor)) (s : Scan) : Option Scan := do
  let s ← s.noteKey?
  return s.follow false (← read s.cursor)

/-- A name behind a mark. -/
def name? (make : Text → Token) (c : Cursor) : Option (Token × Cursor) :=
  (anchorName? (c.skip 1)).map fun (name, c) => (make name, c)

/-- A block scalar. -/
def blockScalar? (literal : Bool) (s : Scan) : Option Scan := do
  let s ← s.forgetKey?
  let (text, c) ← block? literal s.indent (s.cursor.skip 1)
  return s.follow true (.scalar false text, c)

/-- A quoted scalar. -/
def quotedScalar? (single : Bool) (s : Scan) : Option Scan := do
  let s ← s.noteKey?
  let (text, c) ← quoted? single (s.cursor.size + 1) (s.cursor.skip 1)
  return s.follow false (.scalar false text, c)

/-- A plain scalar; behind one that ends with a line, a key may begin. -/
def plainScalar? (s : Scan) : Option Scan := do
  let s ← s.noteKey?
  let (text, broken, c) ← plain? s.inFlow (s.indent + 1) (s.cursor.size + 1) {} s.cursor
  return s.follow broken (.scalar true text, c)

/-- Whether a plain scalar may begin here. -/
def isAtPlain (s : Scan) : Bool :=
  match s.cursor.next? with
  | none => false
  | some ch =>
    let lone := s.cursor.endsWord 1
    if ch == '-' then !lone
    else if ch == '?' || ch == ':' then !s.inFlow && !lone
    else !s.cursor.endsWord 0 && !",[]\x7b\x7d#&*!|>'\"%@\x60".toList.contains ch

/-- Reads the next token, which is not the end of the stream. -/
def step? (s : Scan) : Option Scan :=
  let c := s.cursor
  let lone := c.endsWord 1
  if c.column = 0 && c.isAt '%' then s.document? fun c => directive? (c.skip 1)
  else if c.isAtMark "---".toList then s.document? fun c => some (.documentStart, c.skip 3)
  else if c.isAtMark "...".toList then s.document? fun c => some (.documentEnd, c.skip 3)
  else if c.isAt '[' then s.openFlow? .flowSequenceStart
  else if c.isAt '{' then s.openFlow? .flowMappingStart
  else if c.isAt ']' then s.closeFlow? .flowSequenceEnd
  else if c.isAt '}' then s.closeFlow? .flowMappingEnd
  else if c.isAt ',' then s.flowEntry?
  -- Outside of flow collections these three are marks only where a word ends behind them.
  else if c.isAt '-' && lone then s.blockEntry?
  else if c.isAt '?' && (s.inFlow || lone) then s.key?
  else if c.isAt ':' && (s.inFlow || lone) then s.value?
  else if c.isAt '*' then s.property? (name? .aliasOf)
  else if c.isAt '&' then s.property? (name? .anchor)
  else if c.isAt '!' then s.property? (wholeTag? s.inFlow)
  else if c.isAt '|' && !s.inFlow then s.blockScalar? true
  else if c.isAt '>' && !s.inFlow then s.blockScalar? false
  else if c.isAt '\'' then s.quotedScalar? true
  else if c.isAt '"' then s.quotedScalar? false
  else if s.isAtPlain then s.plainScalar?
  else none

/-- Reads the tokens up to the end of the stream. The first argument bounds their number. -/
def run? : Nat → Scan → Option Scan
  | 0, _ => none
  | fuel + 1, s => do
    let s ← (s.skipGap (s.cursor.size + 1)).forgetOldKeys?
    -- A token that is indented less ends the collections around it before it is read.
    let s := s.closeBlocks s.cursor.column
    if s.cursor.rest.isEmpty then (s.closeBlocks (-1)).forgetKey?
    else run? fuel (← s.step?)

end Scan

/-- The tokens of a stream, which may hold certain characters only. -/
def tokens? (t : Text) : Option (List Token) :=
  if t.all isStreamChar then
    (Scan.run? (t.length + 1) ⟨.ofText t, [], true, none, [], [], 0⟩).map (·.tokens.reverse)
  else none

end DateTemplate.Yaml
