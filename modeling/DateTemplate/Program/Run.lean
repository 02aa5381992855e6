import DateTemplate.CommandLine.Parser
import DateTemplate.Program.Render
import DateTemplate.Settings.Load

set_option autoImplicit false

/-!
# Running the program

A run reads its command line, loads the settings, finds out where its log lines go and carries out the
command.
-/

namespace DateTemplate.Program

/-- The version of the program. -/
def version : Text := "0.1.0".toList

/-- Lines of a text. -/
def unlines (ts : List Text) : Text := ts.flatMap (· ++ ['\n'])

/-! ## Commands without variables -/

/-- Prints the settings. -/
def doctor {m : Type → Type} [Monad m] (host : Host m) (settings : Settings) : m Completion := do
  let engine := settings.engine (← host.today) none
  let place ← match settings.source with
    | some p => pure p
    | none => do
      let p := Settings.defaultPath (← host.lookup Settings.placeNames)
      pure (p ++ " (not found, using defaults)".toList)
  let date := match settings.pinnedDate with
    | some d => d.text
    | none => "today (UTC)".toList
  let entries : List (String × Text) :=
    [("version", version), ("path", place),
      ("limits.max_expression_length", Decimal.digits engine.limits.maxLength),
      ("limits.max_interval_amount", Decimal.digits engine.limits.maxAmount),
      ("system.date", date),
      ("system.variables", (", ".toList).intercalate engine.system.names),
      ("logging.level", settings.logging.level)]
    ++ (settings.logging.file.map fun p => ("logging.file", p)).toList
  return { out := unlines ("OK   dxp doctor".toList
    :: entries.map fun (key, value) => key.toList ++ ": ".toList ++ value) }

/-- The lines that tell whether a text is an expression. -/
def verdict (engine : Engine) (expression : Text) : List Text :=
  match engine.validate expression with
  | none => ["OK   ".toList ++ expression]
  | some e => ["FAIL ".toList ++ expression, "     ".toList ++ e.message.toList]

/-- Tells which texts are expressions. -/
def validate {m : Type → Type} [Monad m] (host : Host m) (settings : Settings)
    (expressions : List Text) : m Completion := do
  let engine := settings.engine (← host.today) none
  let failed := (expressions.filter fun e => (engine.validate e).isSome).length
  let verdicts := expressions.flatMap (verdict engine)
  if failed = 0 then return { out := unlines verdicts }
  else
    let summary := Decimal.digits failed ++ " of ".toList ++ Decimal.digits expressions.length
      ++ " expressions invalid".toList
    return { out := unlines (verdicts ++ [[], summary]), status := 1 }

/-- Lists the tokens of a text, or the variables in them. -/
def extract {m : Type → Type} [Monad m] (host : Host m) (settings : Settings)
    (input : Option Path) (variablesOnly : Bool) : m Completion := do
  match ← readInput host input with
  | .error message => return abort message
  | .ok text =>
    let engine := settings.engine (← host.today) none
    let lines := if variablesOnly then engine.references text else Template.extract text
    return { out := unlines lines }

/-! ## Runs -/

/-- Carries out a command. -/
def perform {m : Type → Type} [Monad m] (host : Host m) (settings : Settings) (log : LogSinks) :
    Command → m Completion
  | .doctor => doctor host settings
  | .render o => render host settings log o
  | .eval expression o => eval host settings expression o
  | .validate expressions => validate host settings expressions
  | .extract input variablesOnly => extract host settings input variablesOnly

/-- What is printed where there are no settings. The place that was looked at is told if no file was
named. -/
def refuse {m : Type → Type} [Monad m] (host : Host m) (named : Option Path) (e : SettingsError) :
    m Completion := do
  let place ← match named with
    | some _ => pure []
    | none => do
      let p := Settings.defaultPath (← host.lookup Settings.placeNames)
      pure ["looked for: ".toList ++ p]
  return { out := unlines (["FAIL dxp".toList, e.message] ++ place), status := 1 }

/-- Carries out what a command line asks for. -/
def invoke {m : Type → Type} [Monad m] (host : Host m) (i : Invocation) : m Completion := do
  match ← Settings.load host i.settings with
  | .error e => refuse host i.settings e
  | .ok settings =>
    let directives := (← host.environment Log.directivesName).getD []
    let log := Log.sinks host directives settings.logging
    match ← Log.openFile host settings.logging with
    -- What is said of the directives for the messages stands before anything else.
    | .error message => return (abort message).behind log.messages.notice
    | .ok () => return (← perform host settings log i.command).behind log.notice

/-- The names of the commands with what they do. -/
def summaries : List Text :=
  CommandName.all.map fun c =>
    "  ".toList ++ c.word.toList ++ List.replicate (10 - c.word.length) ' ' ++ c.summary.toList

/-- How a part of the command line is written. -/
def usage (scope : Scope) : Text :=
  let words := (scope.map fun c => ' ' :: c.word.toList).getD []
  let operand := match scope.operand? with
    | some o => ' ' :: o.text.toList
    | none => if scope.isNone then " <COMMAND>".toList else []
  "Usage: dxp".toList ++ words ++ " [OPTIONS]".toList ++ operand

/-- An option as help shows it. -/
def optionLine (o : OptionName) : Text :=
  let letter := match o.letter? with
    | some c => ['-', c, ',', ' ']
    | none => "    ".toList
  "  ".toList ++ letter ++ o.text

/-- The help for a part of the command line. -/
def help (scope : Scope) : Text :=
  let title := match scope with
    | none => about
    | some c => c.summary.toList
  let commands := if scope.isNone then ["Commands:".toList] ++ summaries ++ [[]] else []
  unlines ([title, [], usage scope, []] ++ commands ++ ["Options:".toList]
    ++ scope.options.map optionLine)

/-- The message for a refused command line. -/
def usageMessage : UsageError → Text
  | .nothing => help none
  | e => unlines [e.message, [], "For more information, try '--help'.".toList]

/-- Runs the program on the arguments of its command line. -/
def run {m : Type → Type} [Monad m] (host : Host m) (args : List Text) : m Completion := do
  match CommandLine.parse args with
  | .ok i => invoke host i
  | .error .version => return { out := unlines ["dxp ".toList ++ version] }
  | .error (.help scope) => return { out := help scope }
  | .error (.refused e) => return { err := usageMessage e, status := 2 }

end DateTemplate.Program
