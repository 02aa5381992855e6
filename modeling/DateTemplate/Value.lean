import DateTemplate.Calendar.DateTime
import DateTemplate.Number.Layout

set_option autoImplicit false

/-!
# Values

What a raw text means: a date if it names one, else a number if it is a numeral once trimmed, else
the text itself. `Value.text` is what stands for a value in a rendered text.
-/

namespace DateTemplate

/-- The value of a variable. -/
inductive Value where
  | date (d : Date)
  | number (x : Binary64)
  | text (t : Text)
deriving DecidableEq

namespace Value

/-- The value that a raw text stands for: dates before numbers, numbers before texts. -/
def infer (raw : Text) : Value :=
  match Date.read? raw with
  | some d => .date d
  | none =>
    match Binary64.read? (Text.trim raw) with
    | some x => .number x
    | none => .text raw

/-- The text that is put in the place of a value. -/
def toText : Value → Text
  | .date d => d.text
  | .number x => x.write .positional
  | .text t => t

/-- The kinds of values. -/
inductive Kind where
  | date
  | number
  | string
deriving DecidableEq, Repr

/-- The name of a kind. -/
def Kind.name : Kind → String
  | .date => "date"
  | .number => "number"
  | .string => "string"

/-- The kind of a value. -/
def kind : Value → Kind
  | .date _ => .date
  | .number _ => .number
  | .text _ => .string

/-- The date of a value that is one. -/
def date? : Value → Option Date
  | .date d => some d
  | _ => none

end Value

end DateTemplate
