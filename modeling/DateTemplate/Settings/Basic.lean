import DateTemplate.Host.Basic
import DateTemplate.Settings.PathPattern
import DateTemplate.Template.Engine

set_option autoImplicit false

/-!
# Settings

A settings file gives its version, the limits of expressions, a date to stand for today's, and where
log lines go. `Settings.ofFile` checks these in order; the settings that result make engines.
-/

namespace DateTemplate

/-- Which log lines go where. -/
structure Logging where
  level : Text := "warn".toList
  fileLevel : Option Text := none
  file : Option Path := none
deriving DecidableEq, Repr

/-- What a settings file says. -/
structure SettingsFile where
  version : Nat
  limits : Limits := Limits.standard
  date : Option Text := none
  logging : Logging := {}
deriving DecidableEq, Repr

/-- What the program is set to. -/
structure Settings where
  /-- The file that the settings were read from. -/
  source : Option Path := none
  limits : Limits := Limits.standard
  /-- The date that stands for today's. -/
  pinnedDate : Option Date := none
  logging : Logging := {}

/-- A limit that is set. -/
inductive LimitKind where
  | expressionLength
  | intervalAmount
deriving DecidableEq, Repr

/-- The key of a limit. -/
def LimitKind.key : LimitKind → String
  | expressionLength => "max_expression_length"
  | intervalAmount => "max_interval_amount"

/-- Why there are no settings. -/
inductive SettingsError where
  | missing (path : Path)
  | unreadable (path : Path) (cause : FileError)
  | malformed (path : Path)
  | unsupportedVersion (version : Nat)
  | zeroLimit (limit : LimitKind)
  | invalidDate (raw : Text)
  | unresolvedPath
deriving DecidableEq, Repr

/-- The wording of an error. -/
def SettingsError.message : SettingsError → Text
  | missing path => "config file not found at ".toList ++ path
  | unreadable path cause =>
    "failed to read config file ".toList ++ path ++ ": ".toList ++ cause.message
  | malformed path => "failed to parse TOML in ".toList ++ path ++ ": ".toList
  | unsupportedVersion version =>
    "version ".toList ++ Decimal.digits version ++ " is unsupported (expected 1)".toList
  | zeroLimit limit =>
    "limits.".toList ++ limit.key.toList ++ " must be greater than zero".toList
  | invalidDate raw => "system.date '".toList ++ raw ++ "' is not a valid calendar date".toList
  | unresolvedPath => "home directory not available to expand '~'".toList

namespace SettingsFile

/-- The names of the environment that the meaning of a file depends on. -/
def environmentNames (file : SettingsFile) : List Text :=
  (file.logging.file.map Path.environmentNames).getD []

/-- The limits of a file, both of them positive. -/
def checkedLimits (file : SettingsFile) : Except SettingsError Limits :=
  if file.limits.maxLength = 0 then .error (.zeroLimit .expressionLength)
  else if file.limits.maxAmount = 0 then .error (.zeroLimit .intervalAmount)
  else .ok file.limits

/-- The date of a file, which has to be one. -/
def checkedDate (file : SettingsFile) : Except SettingsError (Option Date) :=
  match file.date with
  | none => .ok none
  | some raw =>
    match Date.read? raw with
    | some d => .ok (some d)
    | none => .error (.invalidDate raw)

/-- The log lines of a file, with the path of their file expanded. -/
def checkedLogging (env : Bindings Text) (file : SettingsFile) : Except SettingsError Logging :=
  match file.logging.file with
  | none => .ok file.logging
  | some p =>
    match p.expand env with
    | some p => .ok { file.logging with file := some p }
    | none => .error .unresolvedPath

end SettingsFile

namespace Settings

/-- The settings of a file: its version, its limits, its date and its log file are checked in this
order. -/
def ofFile (env : Bindings Text) (source : Path) (file : SettingsFile) :
    Except SettingsError Settings := do
  if file.version ≠ 1 then .error (.unsupportedVersion file.version)
  let limits ← file.checkedLimits
  let pinnedDate ← file.checkedDate
  let logging ← file.checkedLogging env
  return { source := some source, limits, pinnedDate, logging }

/-- The date that stands for today's: a given one, else that of the settings. -/
def date (settings : Settings) (today : Date) (given : Option Date) : Date :=
  (given.or settings.pinnedDate).getD today

/-- An engine with these settings. -/
def engine (settings : Settings) (today : Date) (given : Option Date) : Engine :=
  ⟨settings.limits, SystemVariables.standard (settings.date today given)⟩

end Settings

end DateTemplate
