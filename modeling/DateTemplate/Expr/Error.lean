import DateTemplate.Expr.Basic
import DateTemplate.Expr.Token
import DateTemplate.Value

set_option autoImplicit false

/-!
# Failures of expressions

Why a text is no expression, and why an expression has no value. Each failure has a message, a code,
the text it cites and, for a text that is no expression, the place of that text.
-/

namespace DateTemplate

/-- The groups of failures. -/
inductive ErrorCode where
  | expressionTooLong
  | parseError
  | undefinedVariable
  | typeError
  | evaluationError
deriving DecidableEq, Repr

/-- The name of a group. -/
def ErrorCode.name : ErrorCode → String
  | expressionTooLong => "EXPRESSION_TOO_LONG"
  | parseError => "PARSE_ERROR"
  | undefinedVariable => "UNDEFINED_VARIABLE"
  | typeError => "TYPE_ERROR"
  | evaluationError => "EVALUATION_ERROR"

/-- What an expression needs at some place. -/
inductive Expected where
  | variableName
  | operator
  | amount
  | unit
deriving DecidableEq, Repr

/-- The words for what is needed. -/
def Expected.phrase : Expected → String
  | variableName => "a variable name"
  | operator => "'+' or '-'"
  | amount => "an interval amount"
  | unit => "a unit"

/-- The words for a token that stands where it should not. -/
def Token.phrase (t : Token) : String :=
  match t.kind with
  | .endOfInput => t.kind.name
  | _ => s!"{t.kind.name} '{String.ofList t.text}'"

/-- Why a text is no expression. -/
inductive SyntaxError where
  | tooLong (length max : Nat)
  | unexpectedChar (stray : StrayChar)
  | unexpectedToken (expected : Expected) (found : Token)
  | nonPositiveAmount (amount : Token)
  | amountTooLarge (amount : Token) (max : Nat)
  | unknownUnit (unit : Token)
  | trailingToken (found : Token)
deriving DecidableEq, Repr

namespace SyntaxError

/-- The message for a text that is no expression. -/
def message : SyntaxError → String
  | tooLong length max => s!"expression is {length} characters long, maximum is {max}"
  | unexpectedChar stray => s!"unexpected character '{stray.char}' at offset {stray.offset}"
  | unexpectedToken expected found =>
    s!"expected {expected.phrase} at offset {found.offset}, found {found.phrase}"
  | nonPositiveAmount amount =>
    s!"interval amount must be a positive integer, found '{String.ofList amount.text}' " ++
      s!"at offset {amount.offset}"
  | amountTooLarge amount max =>
    s!"interval amount '{String.ofList amount.text}' at offset {amount.offset} " ++
      s!"exceeds the maximum of {max}"
  | unknownUnit unit =>
    s!"unknown unit '{String.ofList unit.text}' at offset {unit.offset}, expected one of: " ++
      "day, days, week, weeks, month, months, year, years"
  | trailingToken found => s!"unexpected trailing {found.phrase} at offset {found.offset}"

/-- Only the length of a text has a group of its own. -/
def code : SyntaxError → ErrorCode
  | tooLong .. => .expressionTooLong
  | _ => .parseError

/-- The text at fault; the length of an expression has none. -/
def token? : SyntaxError → Option Text
  | tooLong .. => none
  | unexpectedChar stray => some [stray.char]
  | unexpectedToken _ t | nonPositiveAmount t | amountTooLarge t _ | unknownUnit t
  | trailingToken t => some t.text

/-- The place of the text at fault. -/
def offset? : SyntaxError → Option Nat
  | tooLong .. => none
  | unexpectedChar stray => some stray.offset
  | unexpectedToken _ t | nonPositiveAmount t | amountTooLarge t _ | unknownUnit t
  | trailingToken t => some t.offset

end SyntaxError

/-- Why an expression has no value. -/
inductive EvalError where
  | undefinedVariable (name : Text)
  /-- A step is to move something that is no date. -/
  | typeMismatch (base : Expr) (found : Value.Kind)
  /-- The last step of this expression leads out of the calendar. -/
  | outOfRange (moved : Expr)
deriving DecidableEq, Repr

namespace EvalError

/-- The message for an expression without a value. -/
def message : EvalError → String
  | undefinedVariable name => s!"undefined variable: {String.ofList name}"
  | typeMismatch base found =>
    s!"cannot apply date arithmetic to '{String.ofList base.text}': " ++
      s!"expected date, found {found.name}"
  | outOfRange moved => s!"date out of range evaluating '{String.ofList moved.text}'"

/-- Each cause has a group of its own. -/
def code : EvalError → ErrorCode
  | undefinedVariable _ => .undefinedVariable
  | typeMismatch .. => .typeError
  | outOfRange _ => .evaluationError

/-- The name or the written form of the expression at fault. -/
def token : EvalError → Text
  | undefinedVariable name => name
  | typeMismatch base _ => base.text
  | outOfRange moved => moved.text

end EvalError

/-- Why a text does not lead to a value. -/
inductive ExprError where
  | parsing (e : SyntaxError)
  | evaluation (e : EvalError)
deriving DecidableEq, Repr

namespace ExprError

/-- The message of a failure. -/
def message : ExprError → String
  | parsing e => e.message
  | evaluation e => e.message

/-- The group of a failure. -/
def code : ExprError → ErrorCode
  | parsing e => e.code
  | evaluation e => e.code

/-- The text at fault. -/
def token? : ExprError → Option Text
  | parsing e => e.token?
  | evaluation e => some e.token

/-- The place of the text at fault; a value that is missing has none. -/
def offset? : ExprError → Option Nat
  | parsing e => e.offset?
  | evaluation _ => none

end ExprError

end DateTemplate
