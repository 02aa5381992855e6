import DateTemplate.Text.Blank

set_option autoImplicit false

/-!
# Paths of files

A path is a text whose parts are set apart by slashes; empty parts and single points name nothing.
-/

namespace DateTemplate

/-- The path of a file. -/
abbrev Path := Text

namespace Path

/-- The parts of a path between its slashes. -/
def pieces (p : Path) : List Text := p.splitOn '/'

/-- The parts of a path that name something. -/
def parts (p : Path) : List Text := p.pieces.filter fun part => !part.isEmpty && part != ['.']

/-- A path below another; one that begins with a slash stands for itself. -/
def join (base p : Path) : Path :=
  if p.head? = some '/' || base.isEmpty then p
  else if base.getLast? = some '/' then base ++ p
  else base ++ '/' :: p

/-- The name of the file at a path. -/
def fileName? (p : Path) : Option Text := p.parts.getLast?.filter (· != "..".toList)

/-- What stands behind the last point of a file name, if something stands before it. -/
def extension? (p : Path) : Option Text := do
  let name := (← p.fileName?).reverse
  let before := (name.dropWhile (· != '.')).drop 1
  if before.isEmpty then none else some (name.takeWhile (· != '.')).reverse

end Path

end DateTemplate
