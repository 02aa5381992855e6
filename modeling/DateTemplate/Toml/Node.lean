import DateTemplate.Number.Layout
import DateTemplate.Toml.DateTime

set_option autoImplicit false

/-!
# TOML nodes

The values of a TOML document, with what decides how a table may still be added to: a header names a
table once, a dotted key adds only to tables that dotted keys or deeper headers brought about, and an
inline table is complete.
-/

namespace DateTemplate.Toml

/-- How a table came about. -/
inductive TableKind where
  /-- It lies on the way to a table that has a header. -/
  | implied
  /-- It lies on the way to a dotted key. -/
  | dotted
  /-- It has a header, or is an element of an array of tables, or the document itself. -/
  | defined
  /-- It stands between braces. -/
  | inline
deriving DecidableEq, Repr

/-- A value of a document. -/
inductive Node where
  | string (t : Text)
  | integer (n : Int)
  | float (x : Float64)
  | boolean (b : Bool)
  | dateTime (t : DateTime)
  /-- An array; the flag says that headers made it, and that its elements are tables. -/
  | array (ofTables : Bool) (items : List Node)
  | table (kind : TableKind) (entries : List (Text × Node))

/-- The entries of a table, in order of first use. -/
abbrev Entries := List (Text × Node)

namespace Node

/-- Whether a condition holds of every integer in a value. -/
def allIntegers (p : Int → Bool) : Node → Bool
  | integer n => p n
  | array _ items => items.attach.all fun ⟨node, _⟩ => node.allIntegers p
  | table _ entries => entries.attach.all fun ⟨(_, node), _⟩ => node.allIntegers p
  | _ => true
termination_by n => sizeOf n
decreasing_by
  all_goals simp_wf
  · rename_i h
    have := List.sizeOf_lt_of_mem h
    omega
  · rename_i h
    have := List.sizeOf_lt_of_mem h
    simp at this
    omega

end Node

namespace Entries

/-- What stands under a key. -/
def get? (entries : Entries) (key : Text) : Option Node := List.lookup key entries

/-- Puts something in the place of what stands under a key, if that is possible. -/
def alter? (key : Text) (f : Option Node → Option Node) : Entries → Option Entries
  | [] => (f none).map fun node => [(key, node)]
  | (k, node) :: rest =>
    if k = key then (f (some node)).map fun node => (k, node) :: rest
    else (alter? key f rest).map ((k, node) :: ·)

/-- Changes the table at the end of a path; tables that the path lacks are made, of kind `made`. The
last element stands for an array of tables. A dotted path does not pass through a table with a
header of its own, and no path passes through an inline table. -/
def descend? (made : TableKind) (change : TableKind → Entries → Option Entries) :
    List Text → TableKind → Entries → Option Entries
  | [], kind, entries => change kind entries
  | key :: path, _, entries =>
    entries.alter? key fun
      | none => (descend? made change path made []).map (.table made)
      | some (.table kind inner) =>
        if kind = .inline ∨ (made = .dotted ∧ kind = .defined) then none
        else (descend? made change path kind inner).map (.table kind)
      | some (.array true items) =>
        match items.getLast? with
        | some (.table kind inner) =>
          (descend? made change path kind inner).map fun inner =>
            .array true (items.dropLast ++ [.table kind inner])
        | _ => none
      | some _ => none

/-- Adds a key with its value; the path in front of the key is dotted. A key stands once. -/
def insert? (path : List Text) (key : Text) (node : Node) (kind : TableKind) (entries : Entries) :
    Option Entries :=
  descend? .dotted (fun kind entries =>
    if (kind = .dotted) ↔ path = [] then none
    else entries.alter? key fun
      | none => some node
      | some _ => none) path kind entries

/-- Opens the table of a header; one that deeper headers brought about is given its own. -/
def openTable? (path : List Text) (key : Text) (entries : Entries) : Option Entries :=
  descend? .implied (fun _ entries => entries.alter? key fun
    | none => some (.table .defined [])
    | some (.table .implied inner) => some (.table .defined inner)
    | some _ => none) path .defined entries

/-- Opens a new element of the array of tables of a header. -/
def openElement? (path : List Text) (key : Text) (entries : Entries) : Option Entries :=
  descend? .implied (fun _ entries => entries.alter? key fun
    | none => some (.array true [.table .defined []])
    | some (.array true items) => some (.array true (items ++ [.table .defined []]))
    | some _ => none) path .defined entries

end Entries

end DateTemplate.Toml
