import DateTemplate.Text.Blank

set_option autoImplicit false

/-!
# What may stand on a command line

The names of the commands, their options and their operands, and why a command line is refused.
-/

namespace DateTemplate

/-- The name of a command. -/
inductive CommandName where
  | doctor
  | render
  | eval
  | validate
  | extract
deriving DecidableEq, Repr

namespace CommandName

/-- All commands. -/
def all : List CommandName := [doctor, render, eval, validate, extract]

/-- The word for a command. -/
def word : CommandName → String
  | doctor => "doctor"
  | render => "render"
  | eval => "eval"
  | validate => "validate"
  | extract => "extract"

/-- What a command does. -/
def summary : CommandName → String
  | doctor => "Validate configuration and print resolved settings"
  | render => "Substitute every \x7b\x7b...\x7d\x7d expression in a file or stdin"
  | eval => "Evaluate a single expression"
  | validate => "Check the syntax of expressions without evaluating them"
  | extract => "List the \x7b\x7b...\x7d\x7d expressions found in a file or stdin"

/-- The command that a word names. -/
def ofWord? (t : Text) : Option CommandName := all.find? fun c => c.word.toList == t

end CommandName

/-- An option. -/
inductive OptionName where
  | config
  | assignment
  | variableFile
  | date
  | output
  | json
  | strict
  | variablesOnly
  | help
  | version
deriving DecidableEq, Repr

namespace OptionName

/-- The long form of an option, without its dashes. -/
def long : OptionName → String
  | config => "config"
  | assignment => "var"
  | variableFile => "vars"
  | date => "date"
  | output => "output"
  | json => "json"
  | strict => "strict"
  | variablesOnly => "vars-only"
  | help => "help"
  | version => "version"

/-- The letter of an option. -/
def letter? : OptionName → Option Char
  | output => some 'o'
  | help => some 'h'
  | version => some 'V'
  | _ => none

/-- What the value of an option is called, if it has one. -/
def valueName? : OptionName → Option String
  | config => some "CONFIG"
  | assignment => some "NAME=VALUE"
  | variableFile => some "FILE"
  | date => some "YYYY-MM-DD"
  | output => some "OUTPUT"
  | _ => none

/-- An option as it is shown in a message. -/
def text (o : OptionName) : Text :=
  let value := match o.valueName? with
    | some name => " <".toList ++ name.toList ++ ['>']
    | none => []
  "--".toList ++ o.long.toList ++ value

end OptionName

/-- What stands on a command line beside options. -/
structure Operand where
  /-- The operand as it is shown in a message. -/
  text : String
  required : Bool
  /-- Whether there may be several. -/
  many : Bool
  /-- Whether it is a path, which is not empty. -/
  isPath : Bool

/-- A part of the command line: before a command, or behind one. -/
abbrev Scope := Option CommandName

namespace Scope

/-- The options of a part. -/
def options : Scope → List OptionName
  | none => [.config, .help, .version]
  | some .render =>
    [.config, .assignment, .variableFile, .date, .output, .json, .strict, .help]
  | some .eval => [.config, .assignment, .variableFile, .date, .help]
  | some .extract => [.config, .variablesOnly, .help]
  | some .doctor | some .validate => [.config, .help]

/-- The operand of a part, if it has one. -/
def operand? : Scope → Option Operand
  | some .render | some .extract => some ⟨"[FILE]", false, false, true⟩
  | some .eval => some ⟨"<EXPRESSION>", true, false, false⟩
  | some .validate => some ⟨"<EXPRESSIONS>...", true, true, false⟩
  | some .doctor | none => none

/-- The option of a part with a long form. -/
def ofLong? (s : Scope) (t : Text) : Option OptionName :=
  s.options.find? fun o => o.long.toList == t

/-- The option of a part with a letter. -/
def ofLetter? (s : Scope) (c : Char) : Option OptionName :=
  s.options.find? fun o => o.letter? == some c

end Scope

/-- Why a command line is refused. -/
inductive UsageError where
  /-- There is nothing on it. -/
  | nothing
  | missingCommand
  | missingOperand
  | missingValue (argument : Text)
  | invalidValue (value argument reason : Text)
  | repeated (argument : Text)
  | unexpectedArgument (argument : Text)
  | unexpectedValue (value argument : Text)
  | unknownCommand (word : Text)
  /-- A command stands behind two dashes. -/
  | hiddenCommand (word : Text)
deriving DecidableEq, Repr

/-- What the program does. -/
def about : Text :=
  "Substitute variables and date arithmetic in \x7b\x7b...\x7d\x7d expressions".toList

namespace UsageError

/-- The wording of an error, without what stands before it. -/
def reason : UsageError → Text
  | nothing => []
  | missingCommand => "'dxp' requires a subcommand but one was not provided".toList
  | missingOperand => "the following required arguments were not provided:".toList
  | missingValue argument =>
    "a value is required for '".toList ++ argument ++ "' but none was supplied".toList
  | invalidValue value argument reason =>
    "invalid value '".toList ++ value ++ "' for '".toList ++ argument ++ "': ".toList ++ reason
  | repeated argument =>
    "the argument '".toList ++ argument ++ "' cannot be used multiple times".toList
  | unexpectedArgument argument =>
    "unexpected argument '".toList ++ argument ++ "' found".toList
  | unexpectedValue value argument =>
    "unexpected value '".toList ++ value ++ "' for '".toList ++ argument
      ++ "' found; no more were expected".toList
  | unknownCommand word => "unrecognized subcommand '".toList ++ word ++ ['\'']
  | hiddenCommand word =>
    "subcommand '".toList ++ word ++ "' exists; to use it, remove the '--' before it".toList

/-- The message for an error; it begins with what the program does if nothing was asked. -/
def message : UsageError → Text
  | nothing => about
  | e => "error: ".toList ++ e.reason

end UsageError

end DateTemplate
