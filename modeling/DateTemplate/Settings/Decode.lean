import DateTemplate.Number.Width
import DateTemplate.Settings.Basic
import DateTemplate.Toml.Document

set_option autoImplicit false

/-!
# Settings in TOML

A settings file is a TOML document. Its sections are tables; one may also be an array that gives the
values of its keys in their order. Keys that mean nothing are left out, and keys that are missing
have the values of the default settings, but for the version.
-/

namespace DateTemplate

/-- A section of a settings file. -/
inductive Section where
  /-- The values by their keys. -/
  | keyed (entries : Toml.Entries)
  /-- The values in the order of their keys. -/
  | ordered (items : List Toml.Node)

namespace Section

/-- The section that a node is. A date stands for an empty one. -/
def ofNode? : Toml.Node → Option Section
  | .table _ entries => some (.keyed entries)
  | .array _ items => some (.ordered items)
  | .dateTime _ => some (.keyed [])
  | _ => none

/-- The value of a key, which has a place in the order of keys. -/
def get? (s : Section) (place : Nat) (key : String) : Option Toml.Node :=
  match s with
  | keyed entries => entries.get? key.toList
  | ordered items => items[place]?

/-- The value of a key read by a reader, which may refuse it; none if the key is missing. -/
def read? {α : Type} (s : Section) (place : Nat) (key : String) (reader : Toml.Node → Option α) :
    Option (Option α) :=
  match s.get? place key with
  | none => some none
  | some node => (reader node).map some

end Section

namespace SettingsFile

/-- A natural number that so many bits hold. -/
def natural? (bits : Nat) : Toml.Node → Option Nat
  | .integer n => if Width.holdsUnsigned bits n then some n.toNat else none
  | _ => none

/-- A text. -/
def text? : Toml.Node → Option Text
  | .string t => some t
  | _ => none

/-- The section of a key; an empty one if the key is missing. -/
def section? (entries : Toml.Entries) (key : String) : Option Section :=
  match entries.get? key.toList with
  | none => some (.keyed [])
  | some node => Section.ofNode? node

/-- The limits of a section; 64 bits hold the length of expressions and 32 bits an amount. -/
def limits? (s : Section) : Option Limits := do
  let maxLength ← s.read? 0 LimitKind.expressionLength.key (natural? 64)
  let maxAmount ← s.read? 1 LimitKind.intervalAmount.key (natural? 32)
  return ⟨maxLength.getD Limits.standard.maxLength, maxAmount.getD Limits.standard.maxAmount⟩

/-- What a section says about log lines. -/
def logging? (s : Section) : Option Logging := do
  let level ← s.read? 0 "level" text?
  let fileLevel ← s.read? 1 "file_level" text?
  let file ← s.read? 2 "file" text?
  return ⟨level.getD ({} : Logging).level, fileLevel, file⟩

/-- What the entries of a document say. -/
def ofEntries? (entries : Toml.Entries) : Option SettingsFile := do
  let version ← natural? 32 (← entries.get? "version".toList)
  let limits ← limits? (← section? entries "limits")
  let date ← (← section? entries "system").read? 0 "date" text?
  let logging ← logging? (← section? entries "logging")
  return { version, limits, date, logging }

/-- Reads a settings file. -/
def ofText? (t : Text) : Option SettingsFile := do ofEntries? (← Toml.document? t)

end SettingsFile

end DateTemplate
