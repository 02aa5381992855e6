import DateTemplate.Text.Decimal
import DateTemplate.Yaml.Scalar

set_option autoImplicit false

/-!
# YAML tokens

What a YAML stream is made of once its indentation has been turned into marks: the start and the end
of each collection, the marks between its entries, and what stands in front of a node. The readers
of names, tags and directives return their token with the place behind it.
-/

namespace DateTemplate.Yaml

/-- A part of a stream. -/
inductive Token where
  /-- The version that a document is written in. -/
  | version (major minor : Nat)
  /-- A handle for tags that begin with a text. -/
  | tagHandle (handle front : Text)
  | documentStart
  | documentEnd
  | blockSequenceStart
  | blockMappingStart
  | blockEnd
  | flowSequenceStart
  | flowSequenceEnd
  | flowMappingStart
  | flowMappingEnd
  | blockEntry
  | flowEntry
  | key
  | value
  | aliasOf (name : Text)
  | anchor (name : Text)
  | tag (handle suffix : Text)
  /-- A scalar; the flag says that it stands without quotes. -/
  | scalar (plain : Bool) (text : Text)
deriving DecidableEq, Repr

/-! ## Names of anchors -/

/-- Whether a character may follow the name of an anchor, beside blanks and line breaks. -/
def endsName (c : Char) : Bool := "?:,]\x7d%@\x60".toList.contains c

/-- The name of an anchor from behind its mark on. -/
def anchorName? (c : Cursor) : Option (Text × Cursor) :=
  let (name, c) := c.span isNameChar
  if name.isEmpty then none
  else if c.endsWord 0 || c.next?.any endsName then some (name, c)
  else none

/-! ## Tags -/

/-- Whether a character may stand in a tag. Commas and brackets may where `wide` says so. -/
def isTagChar (wide : Bool) (c : Char) : Bool :=
  isNameChar c || ";/?:@&=+$.!~*'()".toList.contains c || (wide && ",[]".toList.contains c)

/-- One byte of an escaped character. -/
def escapedByte? (c : Cursor) : Option (Nat × Cursor) :=
  match c.rest with
  | '%' :: high :: low :: _ => do
    let high ← hexDigit? high
    let low ← hexDigit? low
    return (16 * high + low, c.skip 3)
  | _ => none

/-- The later bytes of an escaped character, six bits of its code point each. -/
def escapedBytes? : Nat → Nat → Cursor → Option (Nat × Cursor)
  | 0, code, c => some (code, c)
  | count + 1, code, c => do
    let (byte, c) ← escapedByte? c
    if byte / 64 = 2 then escapedBytes? count (64 * code + byte % 64) c else none

/-- A character of a tag that is written as the bytes of its UTF-8 form. -/
def escapedChar? (c : Cursor) : Option (Char × Cursor) := do
  let (byte, c) ← escapedByte? c
  let (count, front) ←
    if byte < 128 then some (0, byte)
    else if byte / 32 = 6 then some (1, byte % 32)
    else if byte / 16 = 14 then some (2, byte % 16)
    else if byte / 8 = 30 then some (3, byte % 8)
    else none
  let (code, c) ← escapedBytes? count front c
  if code.isValidChar then some (Char.ofNat code, c) else none

/-- The characters of a tag, which may be none. The first argument bounds their number. -/
def tagChars? (wide : Bool) : Nat → Cursor → Option (Text × Cursor)
  | 0, c => some ([], c)
  | fuel + 1, c =>
    match c.next? with
    | none => some ([], c)
    | some ch => do
      if ch == '%' then
        let (ch, c) ← escapedChar? c
        let (cs, c) ← tagChars? wide fuel c
        return (ch :: cs, c)
      else if isTagChar wide ch then
        let (cs, c) ← tagChars? wide fuel (c.skip 1)
        return (ch :: cs, c)
      else return ([], c)

/-- The characters of a tag, at least one. -/
def tagText? (wide : Bool) (c : Cursor) : Option (Text × Cursor) := do
  let (cs, c) ← tagChars? wide c.size c
  if cs.isEmpty then none else return (cs, c)

/-- A handle: an exclamation mark, and perhaps a name and another mark. -/
def handle? (c : Cursor) : Option (Text × Cursor) :=
  if c.isAt '!' then
    let (name, c) := (c.skip 1).span isNameChar
    if c.isAt '!' then some ('!' :: name ++ ['!'], c.skip 1) else some ('!' :: name, c)
  else none

/-- A tag: between angle brackets, behind a handle with two marks, behind a single mark, or such a
mark alone. -/
def tag? (c : Cursor) : Option (Token × Cursor) := do
  if c.ahead? 1 == some '<' then
    let (suffix, c) ← tagText? true (c.skip 2)
    if c.isAt '>' then return (.tag [] suffix, c.skip 1) else none
  else
    let (handle, c) ← handle? c
    if 1 < handle.length && handle.getLast? == some '!' then
      let (suffix, c) ← tagText? false c
      return (.tag handle suffix, c)
    else
      let (more, c) ← tagChars? false c.size c
      match handle.drop 1 ++ more with
      | [] => return (.tag [] ['!'], c)
      | suffix => return (.tag ['!'] suffix, c)

/-- A tag with what must follow it: a blank, a line break, or in a flow collection a comma. -/
def wholeTag? (inFlow : Bool) (c : Cursor) : Option (Token × Cursor) := do
  let (t, c) ← tag? c
  if c.endsWord 0 || (inFlow && c.isAt ',') then return (t, c) else none

/-! ## Directives -/

/-- A part of a version: at most nine digits. -/
def versionPart? (c : Cursor) : Option (Nat × Cursor) :=
  let (ds, c) := c.span Char.isDigit
  if ds.isEmpty || 9 < ds.length then none else some (Decimal.ofDigits ds, c)

/-- The version of a directive. -/
def versionDirective? (c : Cursor) : Option (Token × Cursor) := do
  let (major, c) ← versionPart? c
  if !c.isAt '.' then none
  let (minor, c) ← versionPart? (c.skip 1)
  return (.version major minor, c)

/-- The handle of a directive and what it stands for. -/
def tagDirective? (c : Cursor) : Option (Token × Cursor) := do
  let (handle, c) ← handle? c
  if handle.getLast? ≠ some '!' then none
  if !c.next?.any isBlank then none
  let (front, c) ← tagText? true (c.skipWhile isBlank)
  if c.endsWord 0 then return (.tagHandle handle front, c) else none

/-- A directive from behind its mark on, to the end of its line. -/
def directive? (c : Cursor) : Option (Token × Cursor) := do
  let (name, c) := c.span isNameChar
  if !c.endsWord 0 then none
  let c := c.skipWhile isBlank
  let (t, c) ←
    if name = "YAML".toList then versionDirective? c
    else if name = "TAG".toList then tagDirective? c
    else none
  let c := c.skipWhile isBlank
  let c := if c.isAt '#' then c.skipWhile (!isBreak ·) else c
  if c.endsLine 0 then return (t, c.skipBreak) else none

end DateTemplate.Yaml
