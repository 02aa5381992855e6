import DateTemplate.Text.Decimal
import Mathlib.Algebra.Group.Nat.Defs

set_option autoImplicit false

/-!
# Digits and powers of ten

How many digits a number has, what zeros at the end of its digits stand for, and that a number has one
way to be written in a given width. Main statements: `length_digits_le_iff`, `digits_mul_pow`,
`ofDigits_append_replicate_zero` and `padded_ofDigits`.
-/

namespace DateTemplate.Decimal

/-! ## The number of digits -/

theorem length_digits_le_iff {n k : Nat} (hk : 0 < k) : (digits n).length ≤ k ↔ n < 10 ^ k :=
  Nat.length_toDigits_le_iff (by decide) hk

theorem lt_pow_length_digits (n : Nat) : n < 10 ^ (digits n).length :=
  (length_digits_le_iff (List.length_pos_iff.2 (digits_ne_nil n))).1 (Nat.le_refl _)

theorem length_padded {width n : Nat} (hwidth : 0 < width) (h : n < 10 ^ width) :
    (padded width n).length = width := by
  have hlength := (length_digits_le_iff hwidth).2 h
  rw [padded, List.length_append, List.length_replicate]
  omega

/-! ## Zeros at the end -/

theorem digits_mul_ten {n : Nat} (hn : 0 < n) : digits (n * 10) = digits n ++ ['0'] := by
  have happend : digits n ++ digits 0 = digits (10 * n + 0) :=
    Nat.toDigits_append_toDigits (by decide) hn (by decide)
  rw [Nat.mul_comm]
  exact happend.symm

/-- A power of ten writes zeros behind the digits. -/
theorem digits_mul_pow {n : Nat} (hn : 0 < n) (k : Nat) :
    digits (n * 10 ^ k) = digits n ++ List.replicate k '0' := by
  induction k with
  | zero => simp
  | succ k ih =>
    have hpos : 0 < n * 10 ^ k := Nat.mul_pos hn (Nat.pow_pos (by decide))
    rw [Nat.pow_succ, ← Nat.mul_assoc, digits_mul_ten hpos, ih, List.append_assoc,
      List.replicate_succ']

theorem ofDigits_append_replicate_zero (ds : List Char) (k : Nat) :
    ofDigits (ds ++ List.replicate k '0') = ofDigits ds * 10 ^ k := by
  rw [ofDigits, Nat.ofDigitChars_append, Nat.ofDigitChars_replicate_zero, Nat.mul_comm, ofDigits]

/-! ## Numbers of a given width -/

theorem ofDigits_cons (c : Char) (ds : List Char) :
    ofDigits (c :: ds) = 10 ^ ds.length * (c.toNat - 48) + ofDigits ds := by
  rw [ofDigits, Nat.ofDigitChars_cons, Nat.mul_zero, Nat.zero_add,
    Nat.ofDigitChars_eq_ofDigitChars_zero, ofDigits]
  rfl

theorem toNat_bounds_of_isDigit {c : Char} (h : c.isDigit = true) : 48 ≤ c.toNat ∧ c.toNat ≤ 57 :=
  Char.isDigit_iff_toNat.1 h

theorem ofDigits_lt_pow {ds : List Char} (h : ∀ c ∈ ds, c.isDigit = true) :
    ofDigits ds < 10 ^ ds.length := by
  induction ds with
  | nil => decide
  | cons c ds ih =>
    obtain ⟨hc, hds⟩ := List.forall_mem_cons.1 h
    obtain ⟨-, hnine⟩ := toNat_bounds_of_isDigit hc
    have hlead : 10 ^ ds.length * (c.toNat - 48) ≤ 10 ^ ds.length * 9 :=
      Nat.mul_le_mul_left _ (by omega)
    have hrest := ih hds
    rw [ofDigits_cons, List.length_cons, Nat.pow_succ]
    omega

/-- A number has one way to be written with a given number of digits. -/
theorem eq_of_ofDigits_eq {ds es : List Char} (hds : ∀ c ∈ ds, c.isDigit = true)
    (hes : ∀ c ∈ es, c.isDigit = true) (hlength : ds.length = es.length)
    (h : ofDigits ds = ofDigits es) : ds = es := by
  induction ds generalizing es with
  | nil => exact (List.length_eq_zero_iff.1 hlength.symm).symm
  | cons d ds ih =>
    cases es with
    | nil => cases hlength
    | cons e es =>
      obtain ⟨hd, hds⟩ := List.forall_mem_cons.1 hds
      obtain ⟨he, hes⟩ := List.forall_mem_cons.1 hes
      have hlength : ds.length = es.length := Nat.succ.inj hlength
      have hltd := ofDigits_lt_pow hds
      have hlte := ofDigits_lt_pow hes
      rw [ofDigits_cons, ofDigits_cons, hlength] at h
      rw [hlength] at hltd
      -- The first digits are the quotients by a power of ten, the others the remainders.
      have hpos : 0 < 10 ^ es.length := Nat.pow_pos (by decide)
      have hfirst : d.toNat - 48 = e.toNat - 48 := by
        have hdiv := congrArg (· / 10 ^ es.length) h
        simpa only [Nat.mul_add_div hpos, Nat.div_eq_of_lt hltd, Nat.div_eq_of_lt hlte,
          Nat.add_zero] using hdiv
      have hrest : ofDigits ds = ofDigits es := by
        rw [hfirst] at h
        exact Nat.add_left_cancel h
      have hchar : d = e := by
        have hdbounds := toNat_bounds_of_isDigit hd
        have hebounds := toNat_bounds_of_isDigit he
        exact Char.toNat_inj.1 (by omega)
      rw [hchar, ih hds hes hlength hrest]

/-- The number of a run of digits is written in the width of the run as that run. -/
theorem padded_ofDigits {ds : List Char} (hne : ds ≠ []) (h : ∀ c ∈ ds, c.isDigit = true) :
    padded ds.length (ofDigits ds) = ds :=
  eq_of_ofDigits_eq (fun _ => isDigit_of_mem_padded) h
    (length_padded (List.length_pos_iff.2 hne) (ofDigits_lt_pow h)) (ofDigits_padded _ _)

end DateTemplate.Decimal
