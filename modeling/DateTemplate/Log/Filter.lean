import DateTemplate.Text.Blank

set_option autoImplicit false

/-!
# Which log lines pass

Log lines come from a few places of the program, all at the level `DEBUG`. Which of them pass is told by
a level, or by directives that take its place: each gives a level to the lines whose target begins with
a name, and the longest such name counts. Main statement: `LogFilter.read_nil`, without directives the
level counts.
-/

namespace DateTemplate

/-- Which lines pass. -/
inductive LogLevel where
  | off
  | error
  | warn
  | info
  | debug
  | trace
deriving DecidableEq, Repr

namespace LogLevel

/-- The words for the levels. -/
def words : List (String × LogLevel) :=
  [("off", off), ("error", error), ("warn", warn), ("info", info), ("debug", debug),
    ("trace", trace)]

/-- The level of a word, in either case. -/
def ofWord? (t : Text) : Option LogLevel := words.lookup (String.ofList (t.map Char.toLower))

/-- The level that a text names, in either case and with blanks around it. -/
def ofText? (t : Text) : Option LogLevel := ofWord? (Text.trim t)

/-- Whether lines of the level `DEBUG` pass. -/
def passesDebug : LogLevel → Bool
  | debug | trace => true
  | _ => false

end LogLevel

/-- Where a log line comes from: a token that was replaced, a token whose expression failed, or a text
that was rendered. -/
inductive LogSource where
  | replaced
  | failed
  | rendered
deriving DecidableEq, Repr

/-- The part of the program that a line comes from, as log files and directives name it. -/
def LogSource.target : LogSource → Text
  | replaced | failed => "datexpr_core::engine".toList
  | rendered => "dxp::cmd::render".toList

/-- Which log lines pass, and what is said of the directives that are not understood. -/
structure LogFilter where
  passes : LogSource → Bool
  notice : Text := []

/-- All lines or none, as a level lets lines of the level `DEBUG` pass. -/
def LogFilter.ofLevel (level : LogLevel) : LogFilter where
  passes _ := level.passesDebug

/-! ## Directives -/

/-- Lines whose target begins with a name pass up to a level. -/
structure Directive where
  target : Text
  level : LogLevel

namespace Directive

/-- The level of a directive; its words may be numbers, and nothing means `error`. -/
def level? (t : Text) : Option LogLevel :=
  (LogLevel.ofWord? t).or
    (([("", .error), ("0", .off), ("1", .error), ("2", .warn), ("3", .info), ("4", .debug),
      ("5", .trace)] : List (String × LogLevel)).lookup (String.ofList t))

/-- Whether a text can name targets. -/
def isTarget (t : Text) : Bool :=
  !t.isEmpty && t.all fun c => c.isAlphanum || c == '_' || c == '-' || c == ':'

/-- A directive is a level, a target whose lines all pass, or both with an equals sign between them. -/
def ofText? (t : Text) : Option Directive :=
  let name := (Text.trim t).takeWhile (· != '=')
  match (Text.trim t).dropWhile (· != '=') with
  | [] =>
    match level? name with
    | some level => some ⟨[], level⟩
    | none => if isTarget name then some ⟨name, .trace⟩ else none
  | _ :: word => if isTarget name then (level? word).map (⟨name, ·⟩) else none

/-- The directive with the longer target; the second one where these are equally long. -/
def longer (d d' : Directive) : Directive := if d'.target.length < d.target.length then d else d'

end Directive

namespace LogFilter

/-- What the last of the directives with the longest target lets pass. -/
def ofDirectives (ds : List Directive) : LogFilter where
  passes source :=
    match ds.filter fun d => d.target.isPrefixOf source.target with
    | [] => false
    | d :: ds => (ds.foldl Directive.longer d).level.passesDebug

/-- Reads directives, which are set apart by commas. Without any that are understood the level counts. -/
def read (t : Text) (level : LogLevel) : LogFilter :=
  let parts := (t.splitOn ',').filter (!·.isEmpty)
  let filter :=
    match parts.filterMap Directive.ofText? with
    | [] => ofLevel level
    | ds => ofDirectives ds
  let unread := parts.filter fun part => (Directive.ofText? part).isNone
  { filter with notice := unread.flatMap fun part =>
      "ignoring `".toList ++ part ++ "`: invalid filter directive\n".toList }

/-- Without directives the level counts, and there is nothing to be said. -/
@[simp] theorem read_nil (level : LogLevel) : read [] level = ofLevel level := rfl

/-- A directive for one part of the program leaves nothing of the other, and the level does not count. -/
example : (read "dxp=debug".toList .trace).passes .rendered = true ∧
    (read "dxp=debug".toList .trace).passes .failed = false := by decide

end LogFilter

end DateTemplate
