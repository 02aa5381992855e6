import DateTemplate.Bindings
import DateTemplate.Expr.Error

set_option autoImplicit false

/-!
# Evaluating expressions

A variable has the value it resolves to; each step moves a date on to the next. The first step that
finds no date, or leads to none, is the one reported.
-/

namespace DateTemplate.Expr

/-- Takes steps from a value; `done` is the expression whose value it is. -/
def run (done : Expr) (value : Value) : List Step → Except EvalError Value
  | [] => .ok value
  | s :: rest =>
    match value with
    | .date d =>
      match s.shift? d with
      | some d => run (done.push s) (.date d) rest
      | none => .error (.outOfRange (done.push s))
    | value => .error (.typeMismatch done value.kind)

/-- The value of an expression whose variables have the given values. -/
def evaluate (values : Text → Option Value) (e : Expr) : Except EvalError Value :=
  match values e.root with
  | none => .error (.undefinedVariable e.root)
  | some value => run (ofName e.root) value e.steps

end DateTemplate.Expr
