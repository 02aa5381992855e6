import DateTemplate.Proofs.Host.Lawful

set_option autoImplicit false

/-!
# What writing changes

To write a file in memory changes what is at one place, and no path that led somewhere leads elsewhere
by it. Main statements: `write_eq_ok_iff`, when a file can be written and what comes of it;
`read_of_write`, what is read from a file is what was written to it; `read_of_write_elsewhere`, the
files at other places stay as they are; `lawful`, a directory in memory is a lawful host.
-/

namespace DateTemplate.Memory

variable {mem mem' : Memory} {p q : Path} {t u : Text} {parts place here rest : List Text} {item : Item}

/-- A text as the content of the file at a place. -/
def put (mem : Memory) (parts : List Text) (t : Text) : Memory :=
  { mem with items := (parts, .file (.text t)) :: mem.items.filter (·.1 != parts) }

/-- A file can be written where a path leads if no directory is there and the path does not ask for
one. -/
theorem write_eq_ok_iff : mem.write p t = .ok mem' ↔ ∃ parts, mem.locate p = .ok parts ∧
    mem.item? parts ≠ some .directory ∧ wantsDirectory p = false ∧ mem' = mem.put parts t := by
  unfold write
  cases mem.locate p with
  | error e => simp [bind, Except.bind]
  | ok parts =>
    cases hitem : mem.item? parts with
    | none =>
      cases wantsDirectory p <;>
        simp [bind, Except.bind, pure, Except.pure, put, hitem, eq_comm]
    | some item =>
      cases item with
      | directory => simp [bind, Except.bind, hitem]
      | file content =>
        cases wantsDirectory p <;>
          simp [bind, Except.bind, pure, Except.pure, put, hitem, eq_comm]

/-! ## What is at a place -/

theorem item?_put_self : (mem.put parts t).item? parts = some (.file (.text t)) := by
  simp [item?, put]

/-- Whatever is at another place stays there. -/
theorem item?_put_of_ne (hne : place ≠ parts) (h : mem.item? place = some item) :
    (mem.put parts t).item? place = some item := by
  have hbeq : (place == parts) = false := beq_eq_false_iff_ne.2 hne
  have hlookup : (mem.put parts t).items.lookup place = mem.items.lookup place := by
    rw [put, List.lookup_cons, hbeq, Bindings.lookup_filter_ne _ hne]
  unfold item? at h ⊢
  rw [hlookup]
  cases hitem : mem.items.lookup place with
  | some item' =>
    rw [hitem] at h
    exact h
  | none =>
    rw [hitem] at h
    dsimp only at h ⊢
    split at h
    · next hdirectory =>
      rw [if_pos, h]
      rw [Bool.or_eq_true, List.any_eq_true] at hdirectory ⊢
      rcases hdirectory with hempty | ⟨⟨way, item'⟩, hmem, hprefix⟩
      · exact .inl hempty
      · right
        -- What makes the place a directory is still there, or is the file that is written.
        by_cases hway : way = parts
        · exact ⟨(parts, .file (.text t)), List.mem_cons_self, hway ▸ hprefix⟩
        · exact ⟨(way, item'),
            List.mem_cons_of_mem _ (List.mem_filter.2 ⟨hmem, by simpa using hway⟩), hprefix⟩
    · cases h

/-! ## Where paths lead -/

/-- No way leads through the place that is written, for it is no directory. -/
theorem walk_put (hitem : mem.item? parts ≠ some .directory)
    (h : mem.walk here rest = .ok place) : (mem.put parts t).walk here rest = .ok place := by
  have hkeeps : ∀ {way : List Text}, mem.item? way = some .directory →
      (mem.put parts t).item? way = some .directory := fun {way} hway =>
    item?_put_of_ne (fun hne => hitem (hne ▸ hway)) hway
  induction rest generalizing here with
  | nil => exact h
  | cons part rest ih =>
    unfold walk at h ⊢
    split at h
    · cases h
    · cases h
    · next hdirectory =>
      rw [hkeeps hdirectory]
      dsimp only
      split
      · next hup =>
        rw [if_pos hup] at h
        cases here with
        | nil => cases h
        | cons _ here => exact ih h
      · next hdown =>
        rw [if_neg hdown] at h
        exact ih h

theorem locate_put (hitem : mem.item? parts ≠ some .directory) (h : mem.locate p = .ok place) :
    (mem.put parts t).locate p = .ok place := by
  unfold locate at h ⊢
  split at h
  · cases h
  · next hinside =>
    rw [if_neg hinside]
    exact walk_put hitem h

theorem locate_of_write (hwrite : mem.write p t = .ok mem') (h : mem.locate q = .ok place) :
    mem'.locate q = .ok place := by
  obtain ⟨parts, -, hitem, -, rfl⟩ := write_eq_ok_iff.1 hwrite
  exact locate_put hitem h

/-! ## What is read -/

theorem read_eq_ok_iff : mem.read p = .ok t ↔ ∃ parts, mem.locate p = .ok parts ∧
    mem.item? parts = some (.file (.text t)) ∧ wantsDirectory p = false := by
  unfold read find
  cases mem.locate p with
  | error e => simp [bind, Except.bind]
  | ok parts =>
    cases hitem : mem.item? parts with
    | none => simp [bind, Except.bind, hitem]
    | some item =>
      cases item with
      | directory => simp [bind, Except.bind, pure, Except.pure, hitem]
      | file content =>
        cases wantsDirectory p <;> cases content <;>
          simp [bind, Except.bind, pure, Except.pure, Content.read, hitem]

/-- What is read from a file is what was written to it. -/
theorem read_of_write (h : mem.write p t = .ok mem') : mem'.read p = .ok t := by
  obtain ⟨parts, hlocate, hitem, hfile, rfl⟩ := write_eq_ok_iff.1 h
  exact read_eq_ok_iff.2 ⟨parts, locate_put hitem hlocate, item?_put_self, hfile⟩

/-- A file stays as it is if another path that leads elsewhere is written. -/
theorem read_of_write_elsewhere (hwrite : mem.write q u = .ok mem')
    (hplace : mem.locate q ≠ mem.locate p) (h : mem.read p = .ok t) : mem'.read p = .ok t := by
  obtain ⟨parts, hlocate, hitem, -, rfl⟩ := write_eq_ok_iff.1 hwrite
  obtain ⟨place, hread, hfile, hwants⟩ := read_eq_ok_iff.1 h
  have hne : place ≠ parts := by
    rintro rfl
    exact hplace (hlocate.trans hread.symm)
  exact read_eq_ok_iff.2 ⟨place, locate_put hitem hread, item?_put_of_ne hne hfile, hwants⟩

/-! ## Runs -/

theorem run_write_of_eq_ok (h : mem.write p t = .ok mem') :
    (host.write p t).run mem = (.ok (), mem') := by
  have hget : (get : StateM Memory Memory).run mem = (mem, mem) := rfl
  rw [host, run_bind_of_run hget, h]
  rfl

theorem run_write_of_eq_error {e : FileError} (h : mem.write p t = .error e) :
    (host.write p t).run mem = (.error e, mem) := by
  have hget : (get : StateM Memory Memory).run mem = (mem, mem) := rfl
  rw [host, run_bind_of_run hget, h]
  rfl

theorem write_of_run_write (h : (host.write p t).run mem = (.ok (), mem')) :
    mem.write p t = .ok mem' := by
  cases hwrite : mem.write p t with
  | ok mem'' =>
    rw [run_write_of_eq_ok hwrite] at h
    cases h
    rfl
  | error e =>
    rw [run_write_of_eq_error hwrite] at h
    cases h

/-- Where a path leads, if it does. -/
def place? (mem : Memory) (p : Path) : Option (List Text) := (mem.locate p).toOption

theorem place?_eq_some_iff : mem.place? p = some place ↔ mem.locate p = .ok place := by
  unfold place?
  cases mem.locate p <;> simp [Except.toOption]

/-- A directory in memory is a lawful host: a path leads to a place by its parts. -/
theorem lawful : host.Lawful place? where
  answers mem := ⟨mem.surroundings, mem.answers⟩
  input := fun _ => rfl
  today := fun _ => rfl
  stamp := fun _ => rfl
  place_of_write h := by
    obtain ⟨parts, hlocate, -⟩ := write_eq_ok_iff.1 (write_of_run_write h)
    exact ⟨parts, place?_eq_some_iff.2 hlocate⟩
  read_of_write h := read_of_write (write_of_run_write h)
  keeps_place := by
    intro mem p place h q t
    cases hwrite : mem.write q t with
    | ok mem' =>
      rw [run_write_of_eq_ok hwrite]
      exact place?_eq_some_iff.2 (locate_of_write hwrite (place?_eq_some_iff.1 h))
    | error e =>
      rw [run_write_of_eq_error hwrite]
      exact h
  keeps_text := by
    intro mem p q t hplace h u
    cases hwrite : mem.write q u with
    | ok mem' =>
      rw [run_write_of_eq_ok hwrite]
      exact read_of_write_elsewhere hwrite (fun heq => hplace (congrArg Except.toOption heq)) h
    | error e =>
      rw [run_write_of_eq_error hwrite]
      exact h
  logFilter_nil := LogFilter.read_nil

end DateTemplate.Memory
