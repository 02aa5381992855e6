import DateTemplate.Value

set_option autoImplicit false

/-!
# The characters of written values

A date is written with digits, hyphens and a plus sign, a number with digits, a hyphen and a point.
Main statement: `Value.not_mem_toText_infer`, the value of a raw text has no opening brace unless
the raw text has one.
-/

namespace DateTemplate

namespace Date

theorem mem_yearText {year : Int} {c : Char} (h : c ∈ yearText year) :
    c.isDigit = true ∨ c = '-' ∨ c = '+' := by
  unfold yearText at h
  split at h
  · rcases List.mem_cons.1 h with rfl | h
    · exact Or.inr (Or.inl rfl)
    · exact Or.inl (Decimal.isDigit_of_mem_padded h)
  · split at h
    · exact Or.inl (Decimal.isDigit_of_mem_padded h)
    · rcases List.mem_cons.1 h with rfl | h
      · exact Or.inr (Or.inr rfl)
      · exact Or.inl (Decimal.isDigit_of_mem_padded h)

/-- A date is written with digits and signs. -/
theorem mem_text {d : Date} {c : Char} (h : c ∈ d.text) :
    c.isDigit = true ∨ c = '-' ∨ c = '+' := by
  simp only [text, List.append_assoc, List.cons_append, List.mem_append, List.mem_cons] at h
  rcases h with h | rfl | h | rfl | h
  · exact mem_yearText h
  · exact Or.inr (Or.inl rfl)
  · exact Or.inl (Decimal.isDigit_of_mem_padded h)
  · exact Or.inr (Or.inl rfl)
  · exact Or.inl (Decimal.isDigit_of_mem_padded h)

end Date

namespace Binary64

theorem isDigit_of_mem_withoutTrailingZeros {n : Nat} {c : Char}
    (h : c ∈ withoutTrailingZeros (Decimal.digits n)) : c.isDigit = true := by
  unfold withoutTrailingZeros at h
  split at h
  · obtain rfl := List.mem_singleton.1 h
    decide
  · have hmem := (List.dropWhile_sublist _).subset (List.mem_reverse.1 h)
    exact Decimal.isDigit_of_mem_digits (List.mem_reverse.1 hmem)

theorem mem_pointed {ds : Text} {point : Int} {c : Char} (hds : ∀ d ∈ ds, d.isDigit = true)
    (h : c ∈ pointed [] ds point) : c.isDigit = true ∨ c = '.' := by
  unfold pointed at h
  split at h
  · simp only [List.cons_append, List.mem_cons, List.mem_append] at h
    rcases h with rfl | rfl | h | h
    · exact Or.inl (by decide)
    · exact Or.inr rfl
    · exact Or.inl (Decimal.isDigit_of_mem_zeros h)
    · exact Or.inl (hds c h)
  · split at h
    · simp only [List.mem_append, List.mem_cons] at h
      rcases h with h | rfl | h
      · exact Or.inl (hds c (List.mem_of_mem_take h))
      · exact Or.inr rfl
      · exact Or.inl (hds c (List.mem_of_mem_drop h))
    · simp only [List.append_nil, List.mem_append] at h
      rcases h with h | h
      · exact Or.inl (hds c h)
      · exact Or.inl (Decimal.isDigit_of_mem_zeros h)

/-- The shortest decimal with its point in its place. -/
theorem write_positional {x : Binary64} {n : Nat} {p : Int} (h : x.shortest .up = (n, p)) :
    x.write .positional =
      let ds := Decimal.digits n
      let body := pointed [] (withoutTrailingZeros ds) (ds.length + p)
      if x.negative then '-' :: body else body := by
  simp [write, Layout.positional, h]

/-- A number without powers of ten is a sign, if it is negative, and digits with a point. -/
theorem exists_write_positional (x : Binary64) :
    ∃ body : Text, (x.write .positional = if x.negative then '-' :: body else body) ∧
      ∀ c ∈ body, c.isDigit = true ∨ c = '.' :=
  ⟨_, write_positional rfl, fun _ => mem_pointed fun _ => isDigit_of_mem_withoutTrailingZeros⟩

theorem mem_write_positional {x : Binary64} {c : Char} (h : c ∈ x.write .positional) :
    c.isDigit = true ∨ c = '-' ∨ c = '.' := by
  obtain ⟨body, hwrite, hbody⟩ := x.exists_write_positional
  rw [hwrite] at h
  split at h
  · rcases List.mem_cons.1 h with rfl | h
    · exact Or.inr (Or.inl rfl)
    · exact (hbody c h).imp_right Or.inr
  · exact (hbody c h).imp_right Or.inr

/-- Behind the front of a number stand digits and points only. -/
theorem mem_tail_write_positional {x : Binary64} {c : Char} (h : c ∈ (x.write .positional).tail) :
    c.isDigit = true ∨ c = '.' := by
  obtain ⟨body, hwrite, hbody⟩ := x.exists_write_positional
  rw [hwrite] at h
  split at h
  · exact hbody c h
  · exact hbody c (List.mem_of_mem_tail h)

end Binary64

/-! ## Dates and numbers alike -/

/-- A character of the text of a date or of a number. -/
def IsWritten (c : Char) : Prop := c.isDigit = true ∨ c = '-' ∨ c = '+' ∨ c = '.'

instance (c : Char) : Decidable (IsWritten c) := inferInstanceAs (Decidable (_ ∨ _ ∨ _ ∨ _))

theorem Date.isWritten_of_mem_text {d : Date} {c : Char} (h : c ∈ d.text) : IsWritten c :=
  (mem_text h).imp_right (Or.imp_right Or.inl)

theorem Binary64.isWritten_of_mem_write {x : Binary64} {c : Char}
    (h : c ∈ x.write .positional) : IsWritten c :=
  (mem_write_positional h).imp_right (Or.imp_right Or.inr)

theorem IsWritten.isBlank_eq_false {c : Char} (h : IsWritten c) : Text.isBlank c = false := by
  rcases h with hdigit | rfl | rfl | rfl
  · simp only [Char.isDigit_iff_toNat, Char.reduceToNat] at hdigit
    simp [Text.isBlank]
    omega
  · decide
  · decide
  · decide

namespace Value

theorem not_mem_toText_date (d : Date) : '{' ∉ (date d).toText := by
  intro h
  have := Date.mem_text h
  revert this
  decide

/-- Only texts keep characters of their own. -/
theorem not_mem_toText_infer {raw : Text} (h : '{' ∉ raw) : '{' ∉ (infer raw).toText := by
  unfold infer
  split
  · exact not_mem_toText_date _
  · split
    · intro hmem
      have := Binary64.mem_write_positional hmem
      revert this
      decide
    · exact h

end Value

end DateTemplate
