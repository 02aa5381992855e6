import DateTemplate.Proofs.Host.Answers

set_option autoImplicit false

/-!
# Lawful hosts

What the program relies on when it asks a host and writes its files. A steady host does not change by
being asked. A lawful one also keeps what is written: a path leads to a place, a file that was written
holds what was written to it, and the files at other places stay as they were. Main statements:
`Asks.run_eq` and `Asks.bind`, questions in a row leave everything as it is.
-/

namespace DateTemplate

/-! ## Questions -/

/-- A move that asks leaves everything as it is. -/
def Asks {σ α : Type} (x : StateM σ α) : Prop := ∀ s, (x.run s).2 = s

namespace Asks

variable {σ α β : Type} {x : StateM σ α} {f : α → StateM σ β} {s : σ} {a : α}

theorem run_eq (h : Asks x) (s : σ) : x.run s = ((x.run s).1, s) :=
  Prod.ext rfl (h s)

theorem run_eq_of_fst (h : Asks x) (ha : (x.run s).1 = a) : x.run s = (a, s) :=
  Prod.ext ha (h s)

theorem pure (a : α) : Asks (Pure.pure a : StateM σ α) := fun _ => rfl

theorem bind (hx : Asks x) (hf : ∀ a, Asks (f a)) : Asks (x >>= f) := by
  intro s
  rw [run_bind_of_run (hx.run_eq s)]
  exact hf _ s

end Asks

/-! ## Hosts -/

/-- A host that does not change by being asked. -/
structure Host.Steady {σ : Type} (host : Host (StateM σ)) : Prop where
  answers (s : σ) : ∃ w, host.Answers s w
  input : Asks host.input
  today : Asks host.today
  stamp : Asks host.stamp

/-- A host that keeps what is written to its files, where some paths lead to places. -/
structure Host.Lawful {σ π : Type} (host : Host (StateM σ)) (place? : σ → Path → Option π) : Prop
    extends host.Steady where
  /-- A file that is written is at a place. -/
  place_of_write {s s' : σ} {p : Path} {t : Text} (h : (host.write p t).run s = (.ok (), s')) :
    ∃ place, place? s p = some place
  /-- A file that is written holds what was written to it. -/
  read_of_write {s s' : σ} {p : Path} {t : Text} (h : (host.write p t).run s = (.ok (), s')) :
    ((host.read p).run s').1 = .ok t
  /-- A path keeps leading where it led, whatever is written. -/
  keeps_place {s : σ} {p : Path} {place : π} (h : place? s p = some place) (q : Path) (t : Text) :
    place? ((host.write q t).run s).2 p = some place
  /-- A file stays as it is if something is written that is not at its place. -/
  keeps_text {s : σ} {p q : Path} {t : Text} (hplace : place? s q ≠ place? s p)
    (h : ((host.read p).run s).1 = .ok t) (u : Text) :
    ((host.read p).run ((host.write q u).run s).2).1 = .ok t
  /-- Without directives the level counts. -/
  logFilter_nil (level : LogLevel) : host.logFilter [] level = .ofLevel level

namespace Host.Steady

variable {σ : Type} {host : Host (StateM σ)}

theorem read (h : host.Steady) (p : Path) : Asks (host.read p) := by
  intro s
  obtain ⟨w, hw⟩ := h.answers s
  rw [hw.read p]

theorem environment (h : host.Steady) (name : Text) : Asks (host.environment name) := by
  intro s
  obtain ⟨w, hw⟩ := h.answers s
  rw [hw.environment name]

end Host.Steady

end DateTemplate
