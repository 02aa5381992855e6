import DateTemplate.Calendar.Date
import DateTemplate.Path

set_option autoImplicit false

/-!
# Commands

What a command line asks for: one of five commands, and the settings file to use.
-/

namespace DateTemplate

/-- Where the values of variables come from. -/
structure VariableSources where
  /-- Variables with their raw texts, in the order given. -/
  assignments : List (Text × Text) := []
  /-- A file of variables. -/
  file : Option Path := none
  /-- The date that stands for today's. -/
  date : Option Date := none

/-- What is to be rendered, and where it goes. -/
structure RenderOptions where
  /-- The file to be read; standard input without one. -/
  input : Option Path := none
  sources : VariableSources := {}
  /-- The file to be written; standard output without one. -/
  output : Option Path := none
  /-- Whether the text and its failures are printed as JSON. -/
  json : Bool := false
  /-- Whether a failure makes the run fail. -/
  strict : Bool := false

/-- What the program can do. -/
inductive Command where
  /-- Print the settings. -/
  | doctor
  /-- Render a text. -/
  | render (options : RenderOptions)
  /-- Evaluate an expression. -/
  | eval (expression : Text) (sources : VariableSources)
  /-- Tell which texts are expressions. -/
  | validate (expressions : List Text)
  /-- List the tokens of a text, or the variables in them. -/
  | extract (input : Option Path) (variablesOnly : Bool)

/-- A command, and the settings file named for it. -/
structure Invocation where
  settings : Option Path
  command : Command

end DateTemplate
