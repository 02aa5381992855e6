import DateTemplate.Host.Basic

set_option autoImplicit false

/-!
# A host in memory

A directory of files with a standard input, an environment and a date, held as a value. Paths lead
from the directory; nothing is outside of it.
-/

namespace DateTemplate

/-- What a file holds. -/
inductive Content where
  | text (t : Text)
  /-- Bytes that are no text. -/
  | binary
deriving DecidableEq, Repr

/-- The text of a content. -/
def Content.read : Content → Except FileError Text
  | text t => .ok t
  | binary => .error .notText

/-- What is at a place: a directory or a file. -/
inductive Item where
  | directory
  | file (content : Content)
deriving DecidableEq, Repr

/-- A directory of files, and what else surrounds a program. -/
structure Memory where
  /-- What is at which parts of a path; the directories on the way need not be listed. -/
  items : List (List Text × Item)
  input : Content
  environment : Bindings Text
  today : Date

namespace Memory

/-- What is at the parts of a path. -/
def item? (mem : Memory) (parts : List Text) : Option Item :=
  match mem.items.lookup parts with
  | some item => some item
  | none =>
    if parts.isEmpty || mem.items.any fun (p, _) => parts.isPrefixOf p then some .directory
    else none

/-- Where a path leads. The places walked through are given last first; two points lead back. What is
at the last place need not be there, all before must be directories. -/
def walk (mem : Memory) : List Text → List Text → Except FileError (List Text)
  | here, [] => .ok here.reverse
  | here, part :: rest =>
    match mem.item? here.reverse with
    | none => .error .missing
    | some (.file _) => .error .notDirectory
    | some .directory =>
      if part = "..".toList then
        match here with
        | [] => .error .missing
        | _ :: here => mem.walk here rest
      else mem.walk (part :: here) rest

/-- Where a path leads. A path that begins with a slash leads out of the directory. -/
def locate (mem : Memory) (p : Path) : Except FileError (List Text) :=
  if p.isEmpty || p.head? = some '/' then .error .missing else mem.walk [] p.parts

/-- Whether a path can only lead to a directory. -/
def wantsDirectory (p : Path) : Bool :=
  match p.pieces.getLast? with
  | some part => part.isEmpty || part == ['.']
  | none => false

/-- What is at a path. -/
def find (mem : Memory) (p : Path) : Except FileError Item := do
  match mem.item? (← mem.locate p) with
  | none => .error .missing
  | some .directory => return .directory
  | some (.file content) =>
    if wantsDirectory p then .error .notDirectory else return .file content

/-- The text of a file. -/
def read (mem : Memory) (p : Path) : Except FileError Text := do
  match ← mem.find p with
  | .directory => .error .isDirectory
  | .file content => content.read

/-- Makes a text the content of a file. -/
def write (mem : Memory) (p : Path) (t : Text) : Except FileError Memory := do
  let parts ← mem.locate p
  match mem.item? parts with
  | some .directory => .error .isDirectory
  | some (.file _) => if wantsDirectory p then .error .notDirectory
  | none => if wantsDirectory p then .error .isDirectory
  return { mem with
    items := (parts, .file (.text t)) :: mem.items.filter fun (other, _) => other != parts }

/-- The host that a value in memory is. -/
def host : Host (StateM Memory) where
  exists? p := do return ((← get).find p).toBool
  read p := do return (← get).read p
  write p t := do
    match (← get).write p t with
    | .ok mem =>
      set mem
      return .ok ()
    | .error e => return .error e
  input := do return (← get).input.read
  environment name := do return (← get).environment.get? name
  today := do return (← get).today
  stamp := return []
  place _ := []
  logFilter := LogFilter.read

end Memory

end DateTemplate
