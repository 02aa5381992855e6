import DateTemplate.Text.Quoted
import DateTemplate.Value

set_option autoImplicit false

/-!
# Bindings of names

A finite map from names, used for the raw texts that a caller supplies and for the dates that the
system supplies. Main statements: `get?_insert` says what a new binding changes; `resolve` looks a
name up among the caller's texts before the system's dates.
-/

namespace DateTemplate

/-- A finite map from names; each name is bound once. -/
structure Bindings (α : Type) where
  entries : List (Text × α)
  nodup : (entries.map Prod.fst).Nodup

namespace Bindings

variable {α : Type}

/-- The map that binds no name. -/
def empty : Bindings α := ⟨[], by simp⟩

/-- What a name is bound to. -/
def get? (b : Bindings α) (name : Text) : Option α := b.entries.lookup name

/-- Whether a name is bound. -/
def contains (b : Bindings α) (name : Text) : Bool := (b.get? name).isSome

/-- Binds a name, in place of what it was bound to. -/
def insert (b : Bindings α) (name : Text) (a : α) : Bindings α where
  entries := (name, a) :: b.entries.filter (·.1 != name)
  nodup := by
    have hsub : ((b.entries.filter (·.1 != name)).map Prod.fst).Sublist (b.entries.map Prod.fst) :=
      (List.filter_sublist).map _
    simp only [List.map_cons, List.nodup_cons]
    exact ⟨by simp, hsub.nodup b.nodup⟩

/-- The map of a list of pairs; the last pair of a name counts. -/
def ofList (pairs : List (Text × α)) : Bindings α :=
  pairs.foldl (fun b (name, a) => b.insert name a) empty

/-- The bound names in the order of their characters. -/
def names (b : Bindings α) : List Text :=
  (b.entries.map Prod.fst).mergeSort fun x y => !decide (y < x)

@[simp] theorem get?_empty (name : Text) : (empty : Bindings α).get? name = none := rfl

/-- Entries of another name do not matter for a look-up. -/
theorem lookup_filter_ne {κ : Type} [BEq κ] [LawfulBEq κ] (entries : List (κ × α)) {name other : κ}
    (h : other ≠ name) : (entries.filter (·.1 != name)).lookup other = entries.lookup other := by
  induction entries with
  | nil => rfl
  | cons e entries ih =>
    obtain ⟨n, a⟩ := e
    by_cases hn : n = name
    · subst hn
      have hb : (other == n) = false := by simpa using h
      simp [List.lookup_cons, ih, hb]
    · rw [List.filter_cons_of_pos (by simpa using hn), List.lookup_cons, List.lookup_cons, ih]

/-- A new binding changes the look-up of its own name only. -/
theorem get?_insert (b : Bindings α) (name other : Text) (a : α) :
    (b.insert name a).get? other = if other = name then some a else b.get? other := by
  unfold get? insert
  by_cases h : other = name
  · subst h
    simp
  · have hb : (other == name) = false := by simpa using h
    rw [List.lookup_cons, lookup_filter_ne _ h]
    simp [hb, h]

end Bindings

/-- The raw texts that a caller supplies for variables. -/
abbrev Context := Bindings Text

/-- The dates that the system supplies for variables. -/
abbrev SystemVariables := Bindings Date

namespace SystemVariables

/-- The name of the variable for today's date. -/
def dateName : Text := "DATE".toList

/-- The variables that are always there: today's date. -/
def standard (today : Date) : SystemVariables := Bindings.empty.insert dateName today

/-- A description that lists the names. -/
def description (system : SystemVariables) : Text :=
  "SystemVariables \x7b names: [".toList
    ++ (", ".toList).intercalate (system.names.map Text.quoted) ++ "] \x7d".toList

end SystemVariables

/-- The value of a name: what the caller's text for it stands for, else the system's date. -/
def resolve (context : Context) (system : SystemVariables) (name : Text) : Option Value :=
  match context.get? name with
  | some raw => some (Value.infer raw)
  | none => (system.get? name).map Value.date

end DateTemplate
