import DateTemplate.Calendar.DateTime
import DateTemplate.CommandLine.Basic
import DateTemplate.CommandLine.Usage

set_option autoImplicit false

/-!
# Reading a command line

Options may stand anywhere behind their command, and the settings file also before it. A value
follows its option as the next argument, or behind an equals sign or a letter. Two dashes make
operands of all arguments behind them. A value is checked only when the next option or operand, or
the end, shows that it is complete.
-/

namespace DateTemplate

/-- Why a command line leads to no command. -/
inductive Halt where
  | refused (e : UsageError)
  | help (scope : Scope)
  | version
deriving DecidableEq, Repr

/-- What the arguments of a part have given. -/
structure Given where
  config : Option Path := none
  /-- The assignments, last first. -/
  assignments : List (Text × Text) := []
  variableFile : Option Path := none
  date : Option Date := none
  output : Option Path := none
  flags : List OptionName := []
  operands : List Text := []

/-- An argument that values belong to. -/
inductive Target where
  | option (o : OptionName)
  | operand (o : Operand)

namespace Target

/-- A target as it is shown in a message. -/
def text : Target → Text
  | option o => o.text
  | operand o => o.text.toList

end Target

/-! ## Values -/

/-- The variable and the raw text of an assignment: what stands before the first equals sign, without
blanks around it, and what stands behind. -/
def readAssignment (t : Text) : Except Text (Text × Text) :=
  if t.contains '=' then
    let name := Text.trim (t.takeWhile (· != '='))
    if name.isEmpty then .error ("missing variable name in '".toList ++ t ++ ['\''])
    else .ok (name, (t.dropWhile (· != '=')).drop 1)
  else .error ("expected NAME=VALUE, got '".toList ++ t ++ ['\''])

/-- The date of an option. -/
def readDate (t : Text) : Except Text Date :=
  match Date.read? t with
  | some d => .ok d
  | none => .error ('\'' :: t ++ "' is not a valid date (YYYY-MM-DD)".toList)

namespace Given

/-- Whether an option has its only value. -/
def has (g : Given) : OptionName → Bool
  | .config => g.config.isSome
  | .variableFile => g.variableFile.isSome
  | .date => g.date.isSome
  | .output => g.output.isSome
  | .assignment => false
  | flag => g.flags.contains flag

/-- Takes the value of an option, which may not be given twice. -/
def setOption (g : Given) (o : OptionName) (value : Text) : Except UsageError Given := do
  if g.has o then .error (.repeated o.text)
  let path : Except UsageError Path :=
    if value.isEmpty then .error (.missingValue o.text) else .ok value
  let checked {α : Type} (read : Except Text α) : Except UsageError α :=
    read.mapError (.invalidValue value o.text)
  match o with
  | .config => return { g with config := ← path }
  | .variableFile => return { g with variableFile := ← path }
  | .output => return { g with output := ← path }
  | .date => return { g with date := ← checked (readDate value) }
  | .assignment =>
    return { g with assignments := (← checked (readAssignment value)) :: g.assignments }
  | _ => return g

/-- Takes an option without a value. -/
def setFlag (g : Given) (o : OptionName) : Except UsageError Given :=
  if g.has o then .error (.repeated o.text) else .ok { g with flags := o :: g.flags }

/-- Takes operands. -/
def addOperands (g : Given) (o : Operand) (values : List Text) : Except UsageError Given :=
  if o.isPath && values.any (·.isEmpty) then .error (.missingValue o.text.toList)
  else .ok { g with operands := g.operands ++ values }

/-- Takes the values of a target. An option has one. -/
def take (g : Given) (target : Target) (values : List Text) : Except UsageError Given :=
  match target, values with
  | .option o, value :: _ => g.setOption o value
  | .option o, [] => .error (.missingValue o.text)
  | .operand o, values => g.addOperands o values

end Given

/-! ## Arguments -/

/-- How far the reading of a part has come. -/
structure Reading where
  given : Given := {}
  /-- The last target, with the values for it that are still to be checked. -/
  pending : Option (Target × List Text) := none
  /-- Whether only operands follow. -/
  operandsOnly : Bool := false

namespace Reading

/-- Whether an option waits for its value. -/
def awaiting? (r : Reading) : Option OptionName :=
  match r.pending with
  | some (.option o, []) => some o
  | _ => none

/-- Checks the values that wait. -/
def settle (r : Reading) : Except Halt Reading :=
  match r.pending with
  | none => .ok r
  | some (target, values) =>
    match r.given.take target values with
    | .ok given => .ok { r with given, pending := none }
    | .error e => .error (.refused e)

/-- Takes an option that has no value. -/
def flag (r : Reading) (scope : Scope) (o : OptionName) : Except Halt Reading := do
  let r ← r.settle
  match o with
  | .help => .error (.help scope)
  | .version => .error .version
  | o =>
    match r.given.setFlag o with
    | .ok given => return { r with given }
    | .error e => .error (.refused e)

/-- Takes an option that has a value, which may follow. -/
def valued (r : Reading) (o : OptionName) (value : Option Text) : Except Halt Reading := do
  let r ← r.settle
  match value with
  | none => return { r with pending := some (.option o, []) }
  | some value => settle { r with pending := some (.option o, [value]) }

/-- Takes an argument that begins with two dashes, which are left out. -/
def long (r : Reading) (scope : Scope) (t : Text) : Except Halt Reading :=
  let name := t.takeWhile (· != '=')
  let value := if t.contains '=' then some ((t.dropWhile (· != '=')).drop 1) else none
  match scope.ofLong? name with
  | none => .error (.refused (.unexpectedArgument ("--".toList ++ name)))
  | some o =>
    if o.valueName?.isSome then r.valued o value
    else
      match value with
      | some value => .error (.refused (.unexpectedValue value o.text))
      | none => r.flag scope o

/-- Takes an argument that begins with one dash, which is left out. -/
def letters (r : Reading) (scope : Scope) : Text → Except Halt Reading
  | [] => .ok r
  | c :: rest =>
    match scope.ofLetter? c with
    | none => .error (.refused (.unexpectedArgument ['-', c]))
    | some o =>
      if o.valueName?.isSome then
        match rest with
        | [] => r.valued o none
        | '=' :: value => r.valued o (some value)
        | value => r.valued o (some value)
      else do letters (← r.flag scope o) scope rest

/-- Takes an operand. -/
def operand (r : Reading) (scope : Scope) (t : Text) : Except Halt Reading := do
  match scope.operand?, r.pending with
  | some o, some (.operand _, values) =>
    -- Operands that follow one another are checked together.
    if o.many then return { r with pending := some (.operand o, values ++ [t]) }
    else .error (.refused (.unexpectedArgument t))
  | some o, _ =>
    if o.many || r.given.operands.isEmpty then
      return { (← r.settle) with pending := some (.operand o, [t]) }
    else .error (.refused (.unexpectedArgument t))
  | none, _ =>
    if scope.isSome then .error (.refused (.unexpectedArgument t))
    else if r.operandsOnly && (CommandName.ofWord? t).isSome then
      .error (.refused (.hiddenCommand t))
    else .error (.refused (.unknownCommand t))

/-- Takes an argument that is no command. -/
def argument (r : Reading) (scope : Scope) (t : Text) : Except Halt Reading :=
  if r.operandsOnly then r.operand scope t
  else
    match t with
    | ['-', '-'] => .ok { r with operandsOnly := true }
    | '-' :: '-' :: t => r.long scope t
    | '-' :: c :: t => r.letters scope (c :: t)
    | t =>
      match r.awaiting? with
      | some o => .ok { r with pending := some (.option o, [t]) }
      | none => r.operand scope t

/-- Takes the arguments behind a command. -/
def arguments (r : Reading) (scope : Scope) : List Text → Except Halt Reading
  | [] => r.settle
  | t :: rest => do arguments (← r.argument scope t) scope rest

end Reading

/-! ## Commands -/

namespace Given

/-- What is given about variables. -/
def sources (g : Given) : VariableSources where
  assignments := g.assignments.reverse
  file := g.variableFile
  date := g.date

/-- The command of a name with what is given for it, or the lack of an operand. -/
def command (g : Given) (name : CommandName) : Except Halt Command :=
  match name, g.operands with
  | .doctor, _ => .ok .doctor
  | .render, operands => .ok (.render
    { input := operands.head?
      sources := g.sources
      output := g.output
      json := g.flags.contains .json
      strict := g.flags.contains .strict })
  | .eval, expression :: _ => .ok (.eval expression g.sources)
  | .validate, expression :: rest => .ok (.validate (expression :: rest))
  | .extract, operands => .ok (.extract operands.head? (g.flags.contains .variablesOnly))
  | .eval, [] | .validate, [] => .error (.refused .missingOperand)

end Given

namespace CommandLine

/-- What asking for help leads to. -/
def help : List Text → Halt
  | [] => .help none
  | t :: _ =>
    match CommandName.ofWord? t with
    | some name => .help (some name)
    | none => if t = "help".toList then .help none else .refused (.unknownCommand t)

/-- Why there is no command at the end of the arguments. -/
def lacking (g : Given) : UsageError :=
  if g.config.isNone then .nothing else .missingCommand

/-- Reads the arguments before a command, the command, and the arguments behind it. A settings file
named behind the command counts before one named in front of it. -/
def readFrom (r : Reading) : List Text → Except Halt Invocation
  | [] => do .error (.refused (lacking (← r.settle).given))
  | t :: rest =>
    -- The value of an option may be spelled like a command.
    let name := if r.operandsOnly || r.awaiting?.isSome then none else CommandName.ofWord? t
    match name with
    | some name => do
      let given := (← Reading.arguments {} (some name) rest).given
      let command ← given.command name
      let outer := (← r.settle).given
      return ⟨given.config.or outer.config, command⟩
    | none =>
      if !r.operandsOnly && r.awaiting?.isNone && t == "help".toList then .error (help rest)
      else do readFrom (← r.argument none t) rest

/-- Reads a command line. -/
def parse (args : List Text) : Except Halt Invocation := readFrom {} args

end CommandLine

end DateTemplate
