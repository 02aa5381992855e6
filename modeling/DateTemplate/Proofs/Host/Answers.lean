import DateTemplate.Host.Memory

set_option autoImplicit false

/-!
# What a host answers

A host that is only asked answers out of what surrounds it, and nothing changes by that. What the
program looks up of the environment agrees with the environment on the names that it asked for. Main
statement: `Host.Answers.run_lookup`.
-/

namespace DateTemplate

/-- A run goes on from where its first move has led. -/
theorem run_bind_of_run {σ α β : Type} {x : StateM σ α} {f : α → StateM σ β} {s s' : σ} {a : α}
    (h : x.run s = (a, s')) : (x >>= f).run s = (f a).run s' := by
  rw [StateT.run_bind, h]
  rfl

/-- What there is to be asked for: files and an environment. -/
structure Surroundings where
  exists? : Path → Bool
  read : Path → Except FileError Text
  environment : Bindings Text

/-- In some state a host answers out of these surroundings, and stays in that state. -/
structure Host.Answers {σ : Type} (host : Host (StateM σ)) (s : σ) (w : Surroundings) : Prop where
  exists? (p : Path) : (host.exists? p).run s = (w.exists? p, s)
  read (p : Path) : (host.read p).run s = (w.read p, s)
  environment (name : Text) : (host.environment name).run s = (w.environment.get? name, s)

namespace Memory

/-- What a host in memory answers. -/
def surroundings (mem : Memory) : Surroundings where
  exists? p := (mem.find p).toBool
  read := mem.read
  environment := mem.environment

theorem answers (mem : Memory) : host.Answers mem mem.surroundings :=
  ⟨fun _ => rfl, fun _ => rfl, fun _ => rfl⟩

end Memory

namespace Bindings

variable {α : Type}

/-- The bindings that a map has for some names. -/
def restrict (b : Bindings α) (names : List Text) : Bindings α :=
  ofList (names.filterMap fun name => (b.get? name).map ((name, ·)))

/-- Of some names a map keeps all that it has for them. -/
theorem get?_restrict {b : Bindings α} {names : List Text} {name : Text} (h : name ∈ names) :
    (b.restrict names).get? name = b.get? name := by
  -- A name that is still to come has what the map has for it; another one, what the base has.
  have hfold : ∀ base : Bindings α,
      ((names.filterMap fun name => (b.get? name).map ((name, ·))).foldl
        (fun base pair => base.insert pair.1 pair.2) base).get? name =
        if name ∈ names then (b.get? name).or (base.get? name) else base.get? name := by
    clear h
    induction names with
    | nil => exact fun _ => rfl
    | cons n names ih =>
      intro base
      cases hn : b.get? n with
      | none =>
        rw [List.filterMap_cons_none (by rw [hn]; rfl), ih]
        by_cases hname : name = n
        · subst hname
          simp [hn]
        · simp [hname]
      | some a =>
        rw [List.filterMap_cons_some (by rw [hn]; rfl), List.foldl_cons, ih, get?_insert]
        by_cases hname : name = n
        · subst hname
          simp [hn]
        · simp [hname]
  exact (hfold empty).trans (by rw [if_pos h, get?_empty, Option.or_none])

end Bindings

namespace Host.Answers

variable {σ : Type} {host : Host (StateM σ)} {s : σ} {w : Surroundings}

/-- What is looked up is the part of the environment that some names have. -/
theorem run_lookup (h : host.Answers s w) (names : List Text) :
    (host.lookup names).run s = (w.environment.restrict names, s) := by
  have hpairs : (names.mapM fun name => do return (← host.environment name).map ((name, ·))).run s =
      (names.map fun name => (w.environment.get? name).map ((name, ·)), s) := by
    induction names with
    | nil => rfl
    | cons name names ih =>
      rw [List.mapM_cons, bind_assoc, run_bind_of_run (h.environment name), pure_bind,
        run_bind_of_run ih]
      rfl
  rw [Host.lookup, run_bind_of_run hpairs, List.filterMap_map]
  rfl

end Host.Answers

end DateTemplate
