import DateTemplate.Host.Basic
import DateTemplate.Toml.Document
import DateTemplate.Yaml.Value

set_option autoImplicit false

/-!
# Files of variables

A file of variables is one mapping from names to scalars, in YAML or TOML, and stands for the texts
of the scalars. Which of the two it is written in, the extension of its name tells.
-/

namespace DateTemplate

/-- What a file of variables is written in. -/
inductive FileFormat where
  | yaml
  | toml
deriving DecidableEq, Repr

/-- The format of a file: TOML for the extension `toml` in either case, else YAML. -/
def FileFormat.ofPath (p : Path) : FileFormat :=
  match p.extension? with
  | some ext => if ext.map Char.toLower = "toml".toList then .toml else .yaml
  | none => .yaml

/-- Why a file gives no variables. -/
inductive VariableFileError where
  | unreadable (path : Path) (cause : FileError)
  | malformed (format : FileFormat)
  | notScalar (name : Text)
deriving DecidableEq, Repr

/-- The wording of an error. -/
def VariableFileError.message : VariableFileError → Text
  | unreadable path cause =>
    "failed to read vars file ".toList ++ path ++ ": ".toList ++ cause.message
  | malformed .yaml => "failed to parse YAML vars: ".toList
  | malformed .toml => "failed to parse TOML vars: ".toList
  | notScalar name =>
    "variable '".toList ++ name ++ "' must be a scalar (string, number or boolean)".toList

namespace VariableFile

/-- The text of a TOML scalar; arrays and tables have none. -/
def tomlText? : Toml.Node → Option Text
  | .string t => some t
  | .integer n => some (Decimal.signed n)
  | .float x => some (x.write .positional)
  | .boolean b => some (if b then "true".toList else "false".toList)
  | .dateTime t => some t.text
  | .array .. | .table .. => none

/-- The entries of a YAML text, with the texts of those that are scalars. A blank text has none. -/
def yamlEntries? (t : Text) : Option (List (Text × Option Text)) :=
  if (Text.trim t).isEmpty then some []
  else (Yaml.entries? t).map fun entries => entries.map fun (name, v) => (name, v.text?)

/-- The entries of a TOML text, with the texts of those that are scalars. 64 bits with a sign hold all
integers. -/
def tomlEntries? (t : Text) : Option (List (Text × Option Text)) := do
  let entries ← Toml.document? t
  if entries.all fun (_, node) => node.allIntegers (Width.holdsSigned 64) then
    return entries.map fun (name, node) => (name, tomlText? node)
  else none

/-- The variables of entries; of several entries for a name the last counts. The first name in order
whose entry is no scalar is reported. -/
def ofEntries (entries : List (Text × Option Text)) : Except VariableFileError Context := do
  let bound := Bindings.ofList entries
  let pairs ← bound.names.mapM fun name =>
    match bound.get? name with
    | some (some t) => .ok (name, t)
    | _ => .error (.notScalar name)
  return Bindings.ofList pairs

/-- Reads the variables of a text. -/
def parse (format : FileFormat) (t : Text) : Except VariableFileError Context :=
  let entries := match format with
    | .yaml => yamlEntries? t
    | .toml => tomlEntries? t
  match entries with
  | some entries => ofEntries entries
  | none => .error (.malformed format)

/-- Reads the variables of a file. -/
def load {m : Type → Type} [Monad m] (host : Host m) (p : Path) :
    m (Except VariableFileError Context) := do
  match ← host.read p with
  | .ok t => return parse (.ofPath p) t
  | .error cause => return .error (.unreadable p cause)

end VariableFile

end DateTemplate
