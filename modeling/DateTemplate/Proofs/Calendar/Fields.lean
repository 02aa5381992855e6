import DateTemplate.Calendar.DateTime
import DateTemplate.Proofs.Text.Digits
import DateTemplate.Proofs.Value.Characters

set_option autoImplicit false

/-!
# Reading fields of full width

A number written with two digits, or with four in two halves, is read back, and what stands behind it
is left. Main statements: `twoDigits?_padded` and `twoDigits?_year`.
-/

namespace DateTemplate.DateTime

open Decimal

/-! ## Numbers of two and of four digits -/

theorem exists_padded_two {n : Nat} (hn : n < 100) :
    ∃ a b : Char, padded 2 n = [a, b] ∧ a.isDigit = true ∧ b.isDigit = true ∧
      ofDigits [a, b] = n := by
  have hlength : (padded 2 n).length = 2 := length_padded (by decide) hn
  have hdigits : ∀ c ∈ padded 2 n, c.isDigit = true := fun _ => isDigit_of_mem_padded
  have hvalue : ofDigits (padded 2 n) = n := ofDigits_padded 2 n
  match padded 2 n, hlength, hdigits, hvalue with
  | [a, b], _, hdigits, hvalue => exact ⟨a, b, rfl, hdigits a (by simp), hdigits b (by simp), hvalue⟩

/-- The digits of a year are two numbers of two digits. -/
theorem exists_padded_four {n : Nat} (hn : n < 10000) :
    ∃ a b c d : Char, padded 4 n = [a, b, c, d] ∧
      (a.isDigit = true ∧ b.isDigit = true ∧ c.isDigit = true ∧ d.isDigit = true) ∧
      ofDigits [a, b] * 100 + ofDigits [c, d] = n := by
  have hlength : (padded 4 n).length = 4 := length_padded (by decide) hn
  have hdigits : ∀ c ∈ padded 4 n, c.isDigit = true := fun _ => isDigit_of_mem_padded
  have hvalue : ofDigits (padded 4 n) = n := ofDigits_padded 4 n
  match padded 4 n, hlength, hdigits, hvalue with
  | [a, b, c, d], _, hdigits, hvalue =>
    refine ⟨a, b, c, d, rfl, by simpa using hdigits, ?_⟩
    simp only [ofDigits, Nat.ofDigitChars_cons, Nat.ofDigitChars_nil] at hvalue ⊢
    omega

/-! ## The readers -/

theorem literal?_cons_self (c : Char) (t : Text) : literal? c (c :: t) = some t := if_pos rfl

theorem twoDigits?_padded {n : Nat} (hn : n < 100) (t : Text) :
    twoDigits? (padded 2 n ++ t) = some (n, t) := by
  obtain ⟨a, b, heq, ha, hb, hvalue⟩ := exists_padded_two hn
  rw [heq]
  simp only [List.cons_append, List.nil_append, twoDigits?, ha, hb, Bool.and_self, if_true, hvalue]

/-- A year is read in two halves. -/
theorem twoDigits?_year {n : Nat} (hn : n < 10000) (t : Text) :
    ∃ high low rest, twoDigits? (padded 4 n ++ t) = some (high, rest) ∧
      twoDigits? rest = some (low, t) ∧ high * 100 + low = n := by
  obtain ⟨a, b, c, d, heq, ⟨ha, hb, hc, hd⟩, hvalue⟩ := exists_padded_four hn
  refine ⟨ofDigits [a, b], ofDigits [c, d], c :: d :: t, ?_, ?_, hvalue⟩
  · rw [heq]
    simp only [List.cons_append, List.nil_append, twoDigits?, ha, hb, Bool.and_self, if_true]
  · simp only [twoDigits?, hc, hd, Bool.and_self, if_true]

/-- No blanks stand before digits. -/
theorem trimStart_append {ds : Text} (hne : ds ≠ []) (hdigits : ∀ c ∈ ds, c.isDigit = true)
    (t : Text) : Text.trimStart (ds ++ t) = ds ++ t := by
  cases ds with
  | nil => exact absurd rfl hne
  | cons c ds =>
    have hc : IsWritten c := Or.inl (hdigits c List.mem_cons_self)
    simp [Text.trimStart, hc.isBlank_eq_false]

end DateTemplate.DateTime
