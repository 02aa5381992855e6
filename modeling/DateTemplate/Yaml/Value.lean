import DateTemplate.Number.Layout
import DateTemplate.Number.Width
import DateTemplate.Yaml.Node

set_option autoImplicit false

/-!
# YAML values

What the nodes of a document stand for. A plain scalar stands for null, a truth value, a number or
its text; a tag can demand one of these. An alias stands for what its node stands for.
-/

namespace DateTemplate.Yaml

/-- What a node stands for. -/
inductive Value where
  | null
  | boolean (b : Bool)
  | integer (n : Int)
  | float (x : Float64)
  | string (t : Text)
  | sequence (items : List Value)
  | mapping (entries : List (Value × Value))
  /-- A value with a tag of its own. -/
  | tagged (tag : Text) (value : Value)

/-! ## Scalars -/

/-- Whether a text is a name of nothing. -/
def isNull (t : Text) : Bool := ["null", "Null", "NULL", "~"].any (·.toList == t)

/-- The truth value that a text names. -/
def boolean? (t : Text) : Option Bool :=
  if ["true", "True", "TRUE"].any (·.toList == t) then some true
  else if ["false", "False", "FALSE"].any (·.toList == t) then some false
  else none

/-- Whether a text has digits only, with a needless zero in front of them and perhaps a sign. -/
def hasNeedlessZero (t : Text) : Bool :=
  match (Numeral.sign t).2 with
  | '0' :: c :: rest => (c :: rest).all Char.isDigit
  | _ => false

/-- The number that digits of a base denote. -/
def digitsIn? (base : Nat) (t : Text) : Option Nat :=
  if t.isEmpty then none
  else do
    let ds ← t.mapM hexDigit?
    if ds.all (· < base) then some (ds.foldl (fun n d => base * n + d) 0) else none

/-- The integer that a text denotes, whatever its size: a sign, and digits in base ten, or in another
base behind `0x`, `0o` or `0b`. -/
def integer? (t : Text) : Option Int :=
  let (negative, digits) := Numeral.sign t
  let signed (n : Nat) : Int := if negative then -(n : Int) else n
  match digits with
  | '0' :: 'x' :: ds => (digitsIn? 16 ds).map signed
  | '0' :: 'o' :: ds => (digitsIn? 8 ds).map signed
  | '0' :: 'b' :: ds => (digitsIn? 2 ds).map signed
  | ds => if hasNeedlessZero t then none else (digitsIn? 10 ds).map signed

/-- The float that a text denotes; one beyond the format is none. -/
def float? (t : Text) : Option Float64 :=
  let (negative, magnitude) := Numeral.sign t
  if [".inf", ".Inf", ".INF"].any (·.toList == magnitude) then some (.infinite negative)
  else if [".nan", ".NaN", ".NAN"].any (·.toList == t) then some .nan
  else (Binary64.read? t).map .finite

/-- What a text that denotes an integer stands for. One that does not fit 64 bits, with or without a
sign, is refused, and one that does not fit 128 bits is no integer. -/
def ofInteger (n : Int) : Option (Option Value) :=
  if Width.holds 64 n then some (some (.integer n))
  else if Width.holds 128 n then none
  else some none

/-- What a text that may denote an integer stands for: an integer, none, or a refused one. -/
def integerValue? (t : Text) : Option (Option Value) :=
  match integer? t with
  | some n => ofInteger n
  | none => some none

/-- What a plain scalar stands for. -/
def plainValue? (t : Text) : Option Value :=
  if t.isEmpty || isNull t then some .null
  else
    match boolean? t with
    | some b => some (.boolean b)
    | none => do
      match ← integerValue? t with
      | some v => return v
      | none =>
        if hasNeedlessZero t then return .string t
        else return ((float? t).map .float).getD (.string t)

/-- The tag of a kind of scalars. -/
def standardTag (name : String) : Text := "tag:yaml.org,2002:".toList ++ name.toList

/-- What a scalar stands for. The four tags of scalars that are no texts demand a value of their kind;
under any other tag the scalar is a text. -/
def scalarValue? (tag : Option Text) (plain : Bool) (t : Text) : Option Value :=
  match tag with
  | some tag =>
    if tag = standardTag "bool" then (boolean? t).map .boolean
    else if tag = standardTag "int" then (integerValue? t).bind id
    else if tag = standardTag "float" then (float? t).map .float
    else if tag = standardTag "null" then if isNull t then some .null else none
    else some (.string t)
  | none => if plain then plainValue? t else some (.string t)

/-- The deepest nesting of collections. -/
def maxDepth : Nat := 128

namespace Value

/-! ## Equality -/

/-- The name of a tag without its mark. -/
def tagName : Text → Text
  | '!' :: c :: rest => c :: rest
  | t => t

/-- Whether two floats are the same key: zeros are, and what is not a number is. -/
def sameFloat (x y : Float64) : Bool :=
  match x, y with
  | .finite x, .finite y => x == y || (x.mantissa == 0 && y.mantissa == 0)
  | x, y => x == y

/-- Whether two values are the same key; the order of the entries of a mapping does not matter. The
first argument bounds the depth. -/
def same : Nat → Value → Value → Bool
  | 0, _, _ => false
  | fuel + 1, v, w =>
    match v, w with
    | null, null => true
    | boolean a, boolean b => a == b
    | integer m, integer n => m == n
    | float x, float y => sameFloat x y
    | string s, string t => s == t
    | sequence vs, sequence ws =>
      vs.length == ws.length && (vs.zip ws).all fun (v, w) => same fuel v w
    | mapping vs, mapping ws =>
      vs.length == ws.length
        && vs.all fun (k, v) => ws.any fun (l, w) => same fuel k l && same fuel v w
    | tagged s v, tagged t w => tagName s == tagName t && same fuel v w
    | _, _ => false

/-- Whether two values from one document are the same key. -/
def sameKey (v w : Value) : Bool := same (2 * maxDepth + 2) v w

/-- The text of a scalar value; collections and tagged values have none. -/
def text? : Value → Option Text
  | null => some []
  | boolean b => some (if b then "true".toList else "false".toList)
  | integer n => some (Decimal.signed n)
  | float x => some (x.write .scientific)
  | string t => some t
  | _ => none

end Value

/-! ## Nodes -/

/-- What the nodes of a document stand for depends on those with anchors, and on how often aliases may
be followed. -/
structure Targets where
  nodes : List (Nat × Node)
  limit : Nat

namespace Targets

/-- The number of aliases followed so far, in a computation that may fail. -/
abbrev Following := StateT Nat Option

/-- The node that an alias stands for. -/
def follow (targets : Targets) (anchor : Nat) : Following Node := do
  let count := (← get) + 1
  set count
  if targets.limit < count then failure
  targets.nodes.reverse.lookup anchor

/-- The tag that makes a value a tagged one. -/
def ownTag? (tag : Option Text) : Option Text :=
  match tag with
  | some ('!' :: c :: rest) => some (c :: rest)
  | some ['!'] => some ['!']
  | _ => none

/-- A value under a tag, if there is one. -/
def underTag (tag : Option Text) (v : Value) : Value :=
  match tag with
  | some tag => .tagged tag v
  | none => v

/-- What a node stands for. Collections nest no deeper than the first argument, and the keys of a
nested mapping differ. Where `tagged` is set a tag of the node's own does not count; so it is with the
keys of a mapping that has one. -/
def value (targets : Targets) : Nat → Bool → Node → Following Value
  | 0, _, _ => failure
  | fuel + 1, tagged, node => do
    let (tagged, node) ←
      match node with
      | .aliasOf anchor => do pure (false, ← targets.follow anchor)
      | node => pure (tagged, node)
    match node with
    | .aliasOf _ => failure
    | .scalar p plain t =>
      match if tagged then none else ownTag? p.tag with
      | some tag => do return .tagged tag (← scalarValue? none plain t)
      | none => (scalarValue? (if tagged then none else p.tag) plain t : Option Value)
    | .sequence p items => do
      -- A scalar may stand at the greatest depth, a collection may not.
      if fuel = 0 then failure
      let tag := if tagged then none else ownTag? p.tag
      return underTag tag (.sequence (← items.mapM (targets.value fuel false)))
    | .mapping p entries => do
      if fuel = 0 then failure
      let tag := if tagged then none else ownTag? p.tag
      let entries ← entries.foldlM (fun done (key, v) => do
        let key ← targets.value fuel (tagged || tag.isSome) key
        if done.any fun (other, _) => other.sameKey key then failure
        return done ++ [(key, ← targets.value fuel false v)]) []
      return underTag tag (.mapping entries)

/-- The text of a scalar, directly or through an alias. -/
def keyText (targets : Targets) : Node → Following Text
  | .scalar _ _ t => return t
  | .aliasOf anchor => do
    match ← targets.follow anchor with
    | .scalar _ _ t => return t
    | _ => failure
  | _ => failure

end Targets

/-- The entries of the outermost mapping, with the texts of their keys as they are written. -/
def Node.entries? (root : Node) : Option (List (Text × Value)) :=
  let targets : Targets := ⟨root.anchored, 100 * root.size⟩
  let read : Node → Targets.Following (List (Text × Value))
    | .mapping _ entries => entries.mapM fun (key, v) => do
      return (← targets.keyText key, ← targets.value maxDepth false v)
    | .scalar _ true [] => return []
    | _ => failure
  ((read root).run 0).map (·.1)

/-- The entries of the mapping that a stream holds, in order; an empty document has none. -/
def entries? (t : Text) : Option (List (Text × Value)) := do
  match ← Node.ofText? t with
  | some root => root.entries?
  | none => return []

end DateTemplate.Yaml
