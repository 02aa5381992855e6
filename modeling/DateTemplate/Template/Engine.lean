import DateTemplate.Expr.Eval
import DateTemplate.Expr.Parser
import DateTemplate.Template.Basic

set_option autoImplicit false

/-!
# Rendering templates

An engine evaluates the expressions in the tokens of a text and puts their values in the place of the
tokens. A token whose expression fails stays as it is and is reported. A value is never searched for
tokens.
-/

namespace DateTemplate

/-- What rendering depends on beside the caller's variables. -/
structure Engine where
  limits : Limits
  system : SystemVariables

/-- What became of one token. -/
structure Outcome where
  /-- What stands between the braces of the token. -/
  inner : Text
  result : Except ExprError Text

/-- A token whose expression failed. -/
structure Failure where
  token : Text
  error : ExprError
deriving DecidableEq, Repr

/-- A rendered text, with what became of its tokens in their order. -/
structure Rendered where
  text : Text
  outcomes : List Outcome

namespace Outcome

/-- The text in the place of a token: its value, or the token itself. -/
def text (o : Outcome) : Text :=
  match o.result with
  | .ok value => value
  | .error _ => Template.braced o.inner

/-- The report of a token whose expression failed. -/
def failure? (o : Outcome) : Option Failure :=
  match o.result with
  | .ok _ => none
  | .error e => some ⟨Template.braced o.inner, e⟩

end Outcome

namespace Rendered

/-- The tokens that failed, one report for each time they occur. -/
def failures (r : Rendered) : List Failure := r.outcomes.filterMap Outcome.failure?

/-- Whether every token had a value. -/
def isOk (r : Rendered) : Bool := r.failures.isEmpty

end Rendered

namespace Engine

/-- Reads an expression within the engine's limits. -/
def parse (engine : Engine) (input : Text) : Except SyntaxError Expr :=
  Expr.parse engine.limits input

/-- The value of an expression that is read already. -/
def valueOf (engine : Engine) (context : Context) (e : Expr) : Except EvalError Value :=
  e.evaluate (resolve context engine.system)

/-- The text of the value of an expression. -/
def evaluate (engine : Engine) (context : Context) (input : Text) : Except ExprError Text :=
  match engine.parse input with
  | .error e => .error (.parsing e)
  | .ok e =>
    match engine.valueOf context e with
    | .error e => .error (.evaluation e)
    | .ok value => .ok value.toText

/-- What becomes of a token; blanks inside its braces do not matter. -/
def outcome (engine : Engine) (context : Context) (inner : Text) : Outcome :=
  ⟨inner, engine.evaluate context (Text.trim inner)⟩

/-- Renders a text. -/
def render (engine : Engine) (context : Context) (input : Text) : Rendered :=
  let template := Template.ofText input
  { text := template.fill fun inner => (engine.outcome context inner).text
    outcomes := template.tokens.map (engine.outcome context) }

/-- Why a text, with or without double braces, is no expression. -/
def validate (engine : Engine) (input : Text) : Option SyntaxError :=
  match engine.parse (Template.stripBraces input) with
  | .ok _ => none
  | .error e => some e

/-- The variables that the expressions of a text begin with, each once, in order of first use. -/
def references (engine : Engine) (input : Text) : List Text :=
  ((Template.ofText input).tokens.filterMap fun inner =>
    match engine.parse (Text.trim inner) with
    | .ok e => some e.root
    | .error _ => none).eraseDups

end Engine

/-- The tokens of a text, with their braces, as often as they occur. -/
def Template.extract (input : Text) : List Text := (ofText input).tokens.map braced

end DateTemplate
