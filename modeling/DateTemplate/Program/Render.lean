import DateTemplate.CommandLine.Basic
import DateTemplate.Json
import DateTemplate.Program.Log
import DateTemplate.VariableFile

set_option autoImplicit false

/-!
# The commands that read variables and texts

Rendering prints its text or writes it to a file, and lists the failures as messages or as a part of
JSON; the rendered text is the same in every case. Main statements: `status_completion` and
`out_completion` say where the parts of a rendered text go.
-/

namespace DateTemplate

namespace VariableSources

/-- The variables of a file, with the assignments over them; the last assignment of a name counts. -/
def assign (base : Context) (assignments : List (Text × Text)) : Context :=
  assignments.foldl (fun context (name, raw) => context.insert name raw) base

/-- The variables of a command. -/
def load {m : Type → Type} [Monad m] (host : Host m) (o : VariableSources) :
    m (Except VariableFileError Context) := do
  match o.file with
  | none => return .ok (assign .empty o.assignments)
  | some p => return (← VariableFile.load host p).map fun base => assign base o.assignments

end VariableSources

namespace Failure

/-- The message line for a failure. -/
def line (f : Failure) : Text :=
  f.error.code.name.toList ++ ": ".toList ++ f.error.message.toList ++ " in ".toList ++ f.token
    ++ ['\n']

/-- A failure in JSON. -/
def json (f : Failure) : Json :=
  .object <| [("expression".toList, .string f.token),
      ("code".toList, .string f.error.code.name.toList),
      ("message".toList, .string f.error.message.toList)]
    ++ (f.error.token?.map fun t => ("token".toList, Json.string t)).toList
    ++ (f.error.offset?.map fun n => ("offset".toList, Json.number n)).toList

end Failure

/-- A rendered text in JSON. -/
def Rendered.json (r : Rendered) : Json :=
  .object [("text".toList, .string r.text), ("errors".toList, .array (r.failures.map Failure.json))]

namespace RenderOptions

/-- What rendering prints. -/
def out (o : RenderOptions) (r : Rendered) : Text :=
  if o.json then r.json.text 0 ++ ['\n'] else if o.output.isSome then [] else r.text

/-- The messages of rendering. -/
def err (o : RenderOptions) (r : Rendered) : Text :=
  if o.json then [] else r.failures.flatMap Failure.line

/-- What rendering leaves beside its file. -/
def completion (o : RenderOptions) (r : Rendered) : Completion where
  out := o.out r
  err := o.err r
  status := if o.strict && !r.isOk then 1 else 0

/-- The status tells of failures only where it is asked to. -/
theorem status_completion (o : RenderOptions) (r : Rendered) :
    (o.completion r).status = if o.strict = true ∧ r.isOk = false then 1 else 0 := by
  simp [completion]

/-- The rendered text is printed as it is if it goes neither to a file nor into JSON. -/
theorem out_completion (o : RenderOptions) (r : Rendered) (hjson : o.json = false)
    (hout : o.output = none) : (o.completion r).out = r.text := by
  simp [completion, out, hjson, hout]

end RenderOptions

namespace Program

/-- An error that ends a run. -/
def abort (message : Text) : Completion where
  err := "Error: ".toList ++ message ++ ['\n']
  status := 1

/-- The text to be read: a file, or standard input. -/
def readInput {m : Type → Type} [Monad m] (host : Host m) (p : Option Path) :
    m (Except Text Text) := do
  match p with
  | some p => return (← host.read p).mapError fun _ => "failed to read ".toList ++ p
  | none => return (← host.input).mapError fun _ => "failed to read stdin".toList

/-- Writes a text to a file, if one is given. -/
def writeOutput {m : Type → Type} [Monad m] (host : Host m) (p : Option Path) (t : Text) :
    m (Except Text Unit) := do
  match p with
  | some p => return (← host.write p t).mapError fun _ => "failed to write ".toList ++ p
  | none => return .ok ()

/-- Renders a text. -/
def render {m : Type → Type} [Monad m] (host : Host m) (settings : Settings) (log : LogSinks)
    (o : RenderOptions) : m Completion := do
  match ← o.sources.load host with
  | .error e => return { err := "FAIL dxp render\n".toList ++ e.message ++ ['\n'], status := 1 }
  | .ok context =>
    match ← readInput host o.input with
    | .error message => return abort message
    | .ok input =>
      let engine := settings.engine (← host.today) o.sources.date
      let r := engine.render context input
      let stamp ← host.stamp
      let completion ← do
        match ← writeOutput host o.output r.text with
        | .error message => pure (abort message)
        | .ok () => pure (o.completion r)
      -- The lines are logged even when the output could not be written.
      Log.fill host log stamp (Log.events r)
      return completion.behind (Log.shown log stamp (Log.events r))

/-- Evaluates an expression. -/
def eval {m : Type → Type} [Monad m] (host : Host m) (settings : Settings) (expression : Text)
    (o : VariableSources) : m Completion := do
  let fail (message : Text) : Completion :=
    { out := "FAIL dxp eval\n".toList ++ message ++ ['\n'], status := 1 }
  match ← o.load host with
  | .error e => return fail e.message
  | .ok context =>
    let engine := settings.engine (← host.today) o.date
    match engine.evaluate context (Template.stripBraces expression) with
    | .ok value => return { out := value ++ ['\n'] }
    | .error e => return fail (e.code.name.toList ++ ": ".toList ++ e.message.toList)

end Program

end DateTemplate
