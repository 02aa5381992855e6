import DateTemplate.Calendar.Interval
import DateTemplate.Text.Decimal

set_option autoImplicit false

/-!
# Expressions

An expression names a variable and moves its date step by step: `START + 1 month - 2 days`. The first
step is the first to be taken.
-/

namespace DateTemplate

/-- A variable and the steps that move its date. -/
structure Expr where
  root : Text
  steps : List Step
deriving DecidableEq, Repr

/-- A step as it is written behind an expression, such as ` + 1 month`. -/
def Step.text (s : Step) : Text :=
  ' ' :: s.direction.symbol :: ' ' :: Decimal.digits s.amount ++ ' ' :: s.unit.keyword s.amount

namespace Expr

/-- The expression of a variable alone. -/
def ofName (name : Text) : Expr := ⟨name, []⟩

/-- The expression with one step more. -/
def push (e : Expr) (s : Step) : Expr := ⟨e.root, e.steps ++ [s]⟩

/-- The number of steps. -/
def depth (e : Expr) : Nat := e.steps.length

/-- The written form of an expression. -/
def text (e : Expr) : Text := e.root ++ e.steps.flatMap Step.text

@[simp] theorem depth_ofName (name : Text) : (ofName name).depth = 0 := rfl

@[simp] theorem depth_push (e : Expr) (s : Step) : (e.push s).depth = e.depth + 1 := by
  simp [push, depth]

@[simp] theorem root_push (e : Expr) (s : Step) : (e.push s).root = e.root := rfl

/-- A step is written behind what it is applied to. -/
theorem text_push (e : Expr) (s : Step) : (e.push s).text = e.text ++ s.text := by
  simp [push, text]

end Expr

end DateTemplate
