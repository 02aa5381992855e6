import DateTemplate.Host.Basic
import DateTemplate.Settings.Basic
import DateTemplate.Text.Quoted

set_option autoImplicit false

/-!
# Log lines

What became of each token, and of a whole text, is told in lines of the level `DEBUG`. They go to the
messages of the program and to a log file. The settings have a level for each; directives in the
environment win over both.
-/

namespace DateTemplate

namespace Logging

/-- The level for messages; one that is not known counts as `warn`. -/
def messageLevel (l : Logging) : LogLevel := (LogLevel.ofText? l.level).getD .warn

/-- The level for the log file; the level for messages unless another is given that is known. -/
def logFileLevel (l : Logging) : LogLevel :=
  (l.fileLevel.bind LogLevel.ofText?).getD l.messageLevel

end Logging

/-- What is told in a log line, and where that comes from. -/
structure LogEvent where
  source : LogSource
  message : Text

/-- Where log lines go: which of them to the messages, and which of them to a log file if there is one. -/
structure LogSinks where
  messages : LogFilter
  file : Option (Path × LogFilter)

namespace LogSinks

/-- What is said of directives that are not understood, once for each place that lines go to. -/
def notice (log : LogSinks) : Text :=
  log.messages.notice ++ (log.file.map fun (_, filter) => filter.notice).getD []

/-- Log lines go where the settings say, at the levels that these give. -/
def configured (l : Logging) : LogSinks where
  messages := .ofLevel l.messageLevel
  file := l.file.map fun p => (p, .ofLevel l.logFileLevel)

end LogSinks

namespace Log

/-- The name that directives have in the environment. -/
def directivesName : Text := "RUST_LOG".toList

/-- A character of a message; those that would steer a terminal are written as numbers. -/
def shownChar (c : Char) : Text :=
  let n := c.toNat
  if n == 0x1B || n == 7 || n == 8 || n == 12 || n == 127 then
    '\\' :: 'x' :: Nat.digitChar (n / 16) :: [Nat.digitChar (n % 16)]
  else if 0x80 ≤ n && n ≤ 0x9F then '\\' :: 'u' :: '{' :: Nat.toDigits 16 n ++ ['}']
  else [c]

/-- A line with what comes behind its level. -/
def line (stamp : Text) (message : Text) : Text :=
  stamp ++ "DEBUG ".toList ++ message ++ ['\n']

/-- What became of a token. -/
def outcomeEvent (o : Outcome) : LogEvent :=
  let token := Text.quoted (Template.braced o.inner)
  match o.result with
  | .ok value =>
    ⟨.replaced, "substituted expression token=".toList ++ token ++ " value=".toList ++ value⟩
  | .error e =>
    ⟨.failed, ("expression failed: ".toList ++ e.message.toList).flatMap shownChar
      ++ " token=".toList ++ token ++ " code=".toList ++ e.code.name.toList⟩

/-- What is told of a rendered text: what became of its tokens, and how many failed. -/
def events (r : Rendered) : List LogEvent :=
  r.outcomes.map outcomeEvent
    ++ [⟨.rendered, "rendered input errors=".toList ++ Decimal.digits r.failures.length⟩]

/-- Those of the events whose lines pass. -/
def pass (filter : LogFilter) (events : List LogEvent) : List LogEvent :=
  events.filter fun event => filter.passes event.source

/-- The lines that go to the messages of the program. -/
def shown (log : LogSinks) (stamp : Text) (events : List LogEvent) : Text :=
  (pass log.messages events).flatMap fun event => line stamp event.message

/-- A line of a log file, which also tells where it comes from. -/
def fileLine (place : LogSource → Text) (stamp : Text) (event : LogEvent) : Text :=
  line stamp (event.source.target ++ ": ".toList ++ place event.source ++ event.message)

/-! ## The log file -/

/-- Why there is no log file. -/
def openMessage (p : Path) (e : FileError) : Text :=
  "cannot create log file ".toList ++ p ++ ": ".toList ++ e.message

variable {m : Type → Type} [Monad m]

/-- Begins an empty log file, if one is set; the message tells why that failed. -/
def openFile (host : Host m) (l : Logging) : m (Except Text Unit) := do
  match l.file with
  | none => return .ok ()
  | some p => return (← host.write p []).mapError (openMessage p)

/-- Where log lines go by directives and settings. -/
def sinks (host : Host m) (directives : Text) (l : Logging) : LogSinks where
  messages := host.logFilter directives l.messageLevel
  file := l.file.map fun p => (p, host.logFilter directives l.logFileLevel)

/-- Puts the lines that pass into the log file, if there is one and any of them pass. -/
def fill (host : Host m) (log : LogSinks) (stamp : Text) (events : List LogEvent) : m Unit := do
  match log.file with
  | none => return ()
  | some (p, filter) =>
    let passed := pass filter events
    unless passed.isEmpty do
      let _ ← host.write p (passed.flatMap (fileLine host.place stamp))

end Log

end DateTemplate
