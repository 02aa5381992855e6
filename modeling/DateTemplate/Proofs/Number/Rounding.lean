import DateTemplate.Number.Numeral
import Mathlib.Algebra.Group.Nat.Defs

set_option autoImplicit false

/-!
# Rounding to binary64

The number nearest to a quotient depends on the value of the quotient alone, and a number of the
format is nearest to itself. Values are counted in units of the least positive number, so all of
this is arithmetic of natural numbers. Main statements: `nearest?_mul_right` and
`nearest?_quotient`.
-/

namespace DateTemplate.Binary64

/-! ## Quotients -/

/-- Rounding depends on the value of a quotient only. -/
theorem roundDiv_mul_right (num den : Nat) {k : Nat} (hk : 0 < k) :
    roundDiv (num * k) (den * k) = roundDiv num den := by
  have htwice : 2 * (num % den * k) = 2 * (num % den) * k := (Nat.mul_assoc _ _ _).symm
  have hlt : den * k < 2 * (num % den) * k ↔ den < 2 * (num % den) := Nat.mul_lt_mul_right hk
  have heq : (den * k == 2 * (num % den) * k) = (den == 2 * (num % den)) := by
    rw [Bool.eq_iff_iff, beq_iff_eq, beq_iff_eq, Nat.mul_left_inj (Nat.ne_of_gt hk)]
  unfold roundDiv
  simp only [Nat.mul_div_mul_right _ _ hk, Nat.mul_mod_mul_right, htwice, hlt, heq]

/-- A whole number is rounded to itself. -/
theorem roundDiv_mul_self (m : Nat) {den : Nat} (hden : 0 < den) : roundDiv (m * den) den = m := by
  have hne : ¬ den = 0 := Nat.ne_of_gt hden
  simp [roundDiv, Nat.mul_div_cancel _ hden, hne]

/-- Dividing by a power, told in units of `1 / base ^ s`, which turn every power into a factor. -/
theorem exists_scaled_mul (num den base : Nat) (hbase : 0 < base) {s : Nat} {e : Int}
    (he : -(s : Int) ≤ e) :
    ∃ f, 0 < f ∧ (scaled num den base e).1 * f = num * base ^ s ∧
      (scaled num den base e).2 * f = den * base ^ (e + s).toNat := by
  cases e with
  | ofNat p =>
    have hexp : (Int.ofNat p + s).toNat = p + s := by
      rw [Int.ofNat_eq_natCast]
      omega
    refine ⟨base ^ s, Nat.pow_pos hbase, rfl, ?_⟩
    rw [hexp, scaled, Nat.pow_eq, Nat.mul_assoc, ← Nat.pow_add]
  | negSucc p =>
    have hp : p + 1 ≤ s := by omega
    have hexp : (Int.negSucc p + s).toNat = s - (p + 1) := by omega
    refine ⟨base ^ (s - (p + 1)), Nat.pow_pos hbase, ?_, by rw [hexp, scaled]⟩
    rw [scaled, Nat.pow_eq, Nat.mul_assoc, ← Nat.pow_add, Nat.add_sub_cancel' hp]

theorem scaled_snd_pos (num : Nat) {den base : Nat} (hden : 0 < den) (hbase : 0 < base) (e : Int) :
    0 < (scaled num den base e).2 := by
  cases e with
  | ofNat p => exact Nat.mul_pos hden (Nat.pow_pos hbase)
  | negSucc p => exact hden

/-! ## The fitting exponent -/

/-- How many of the least positive number make one. -/
def unit : Nat := 2 ^ 1074

theorem unit_pos : 0 < unit := by decide +kernel

/-- Counted in units times `2 ^ k`, a quotient fits into 53 bits, and fills them unless `k` is
zero. -/
structure IsFitting (num den k : Nat) : Prop where
  below : num * unit < den * 2 ^ (k + 53)
  least : k = 0 ∨ den * 2 ^ (k + 52) ≤ num * unit

namespace IsFitting

variable {num den k k' : Nat}

theorem le (h : IsFitting num den k) (h' : IsFitting num den k') : k ≤ k' := by
  rcases h.least with rfl | hleast
  · exact Nat.zero_le k'
  · have hpow : 2 ^ (k + 52) < 2 ^ (k' + 53) :=
      Nat.lt_of_mul_lt_mul_left (Nat.lt_of_le_of_lt hleast h'.below)
    have := (Nat.pow_lt_pow_iff_right (by decide)).1 hpow
    omega

/-- Only one exponent fits. -/
theorem unique (h : IsFitting num den k) (h' : IsFitting num den k') : k = k' :=
  Nat.le_antisymm (h.le h') (h'.le h)

theorem mul_right (h : IsFitting num den k) {c : Nat} (hc : 0 < c) :
    IsFitting (num * c) (den * c) k := by
  have hnum : num * c * unit = num * unit * c := Nat.mul_right_comm num c unit
  have hden : ∀ p, den * c * 2 ^ p = den * 2 ^ p * c := fun p => Nat.mul_right_comm den c (2 ^ p)
  constructor
  · rw [hnum, hden]
    exact Nat.mul_lt_mul_of_pos_right h.below hc
  · rw [hnum, hden]
    exact h.least.imp_right fun hleast => Nat.mul_le_mul_right c hleast

end IsFitting

/-- The mantissa for an exponent keeps below `2 ^ 53` just if the quotient in units does. -/
theorem scaled_div_lt_iff {num den k : Nat} (hden : 0 < den) :
    (scaled num den 2 (k - 1074)).1 / (scaled num den 2 (k - 1074)).2 < 2 ^ 53 ↔
      num * unit < den * 2 ^ (k + 53) := by
  obtain ⟨f, hf, hnum', hden'⟩ :=
    exists_scaled_mul num den 2 (by decide) (s := 1074) (e := k - 1074) (by omega)
  have hexp : ((k : Int) - 1074 + (1074 : Nat)).toNat = k := by omega
  rw [hexp] at hden'
  have hpow : den * 2 ^ (k + 53) = 2 ^ 53 * (scaled num den 2 (k - 1074)).2 * f := by
    rw [Nat.mul_assoc, hden', Nat.pow_add]
    ac_rfl
  rw [Nat.div_lt_iff_lt_mul (scaled_snd_pos num hden (by decide) _), hpow, unit, ← hnum']
  exact (Nat.mul_lt_mul_right hf).symm

/-- The logarithms of numerator and denominator lead to the exponent that fits. -/
theorem exists_isFitting {num den : Nat} (hnum : 0 < num) (hden : 0 < den) :
    ∃ k : Nat, fittingExponent num den = k - 1074 ∧ IsFitting num den k := by
  have hnumLow := Nat.log2_self_le (Nat.ne_of_gt hnum)
  have hnumHigh := Nat.lt_log2_self (n := num)
  have hdenLow := Nat.log2_self_le (Nat.ne_of_gt hden)
  have hdenHigh := Nat.lt_log2_self (n := den)
  obtain ⟨k, hk⟩ : ∃ k : Nat,
      max (-1074) ((num.log2 : Int) - (den.log2 : Int) - 53) = (k : Int) - 1074 :=
    ⟨(max (-1074) ((num.log2 : Int) - (den.log2 : Int) - 53) + 1074).toNat, by omega⟩
  unfold fittingExponent
  simp only [hk, Nat.pow_eq]
  split
  · next hlt =>
    refine ⟨k, rfl, (scaled_div_lt_iff hden).1 hlt, ?_⟩
    by_cases hzero : k = 0
    · exact Or.inl hzero
    · have hexp : den.log2 + 1 + (k + 52) = num.log2 + 1074 := by omega
      refine Or.inr (Nat.le_of_lt ?_)
      calc den * 2 ^ (k + 52)
          < 2 ^ (den.log2 + 1) * 2 ^ (k + 52) :=
            Nat.mul_lt_mul_of_pos_right hdenHigh (Nat.two_pow_pos _)
        _ = 2 ^ num.log2 * unit := by
          rw [unit, ← Nat.pow_add, ← Nat.pow_add 2 num.log2 1074, hexp]
        _ ≤ num * unit := Nat.mul_le_mul_right unit hnumLow
  · next hlt =>
    refine ⟨k + 1, by omega, ?_, Or.inr ?_⟩
    · have hexp : num.log2 + 1 + 1074 ≤ den.log2 + (k + 1 + 53) := by omega
      calc num * unit
          < 2 ^ (num.log2 + 1) * unit := Nat.mul_lt_mul_of_pos_right hnumHigh unit_pos
        _ = 2 ^ (num.log2 + 1 + 1074) := by rw [Nat.pow_add _ _ 1074, unit]
        _ ≤ 2 ^ (den.log2 + (k + 1 + 53)) := Nat.pow_le_pow_right (by decide) hexp
        _ = 2 ^ den.log2 * 2 ^ (k + 1 + 53) := Nat.pow_add _ _ _
        _ ≤ den * 2 ^ (k + 1 + 53) := Nat.mul_le_mul_right _ hdenLow
    · rw [scaled_div_lt_iff hden, Nat.not_lt] at hlt
      have hexp : k + 1 + 52 = k + 53 := by omega
      rwa [hexp]

/-! ## The nearest number -/

/-- What rounding comes to, counted in units. -/
theorem nearest?_eq_carry? (negative : Bool) {num den k : Nat} (hnum : 0 < num) (hden : 0 < den)
    (h : IsFitting num den k) :
    nearest? negative num den =
      carry? negative (roundDiv (num * unit) (den * 2 ^ k)) (k - 1074) := by
  obtain ⟨k', hk', h'⟩ := exists_isFitting hnum hden
  obtain rfl := h.unique h'
  obtain ⟨f, hf, hnum', hden'⟩ :=
    exists_scaled_mul num den 2 (by decide) (s := 1074) (e := k - 1074) (by omega)
  have hexp : ((k : Int) - 1074 + (1074 : Nat)).toNat = k := by omega
  rw [hexp] at hden'
  unfold nearest?
  simp only [hk']
  rw [unit, ← hnum', ← hden', roundDiv_mul_right _ _ hf]

/-- **Rounding depends on the value of a quotient alone.** -/
theorem nearest?_mul_right (negative : Bool) {num den c : Nat} (hnum : 0 < num) (hden : 0 < den)
    (hc : 0 < c) : nearest? negative (num * c) (den * c) = nearest? negative num den := by
  obtain ⟨k, -, hfit⟩ := exists_isFitting hnum hden
  rw [nearest?_eq_carry? negative hnum hden hfit,
    nearest?_eq_carry? negative (Nat.mul_pos hnum hc) (Nat.mul_pos hden hc) (hfit.mul_right hc),
    Nat.mul_right_comm num c unit, Nat.mul_right_comm den c (2 ^ k), roundDiv_mul_right _ _ hc]

/-- A quotient that is a number of the format is not changed by rounding. -/
theorem nearest?_eq_some {num den : Nat} (x : Binary64) (hden : 0 < den) (hx : 0 < x.mantissa)
    (h : num * unit = x.mantissa * (den * 2 ^ (x.exponent + 1074).toNat)) :
    nearest? x.negative num den = some x := by
  obtain ⟨hbelow, hlow, -, hfull⟩ := x.isCanonical
  rw [Nat.pow_eq] at hbelow hfull
  obtain ⟨k, hk⟩ : ∃ k : Nat, x.exponent = (k : Int) - 1074 :=
    ⟨(x.exponent + 1074).toNat, by omega⟩
  have hexp : (x.exponent + 1074).toNat = k := by omega
  rw [hexp] at h
  have hnum : 0 < num := by
    refine Nat.pos_of_mul_pos_right (b := unit) ?_
    rw [h]
    exact Nat.mul_pos hx (Nat.mul_pos hden (Nat.two_pow_pos k))
  have hfit : IsFitting num den k := by
    refine ⟨?_, ?_⟩
    · calc num * unit = x.mantissa * (den * 2 ^ k) := h
        _ < 2 ^ 53 * (den * 2 ^ k) :=
          Nat.mul_lt_mul_of_pos_right hbelow (Nat.mul_pos hden (Nat.two_pow_pos k))
        _ = den * 2 ^ (k + 53) := by rw [Nat.pow_add]; ac_rfl
    · refine hfull.symm.imp (fun hleast => by omega) fun hfull => ?_
      calc den * 2 ^ (k + 52) = 2 ^ 52 * (den * 2 ^ k) := by rw [Nat.pow_add]; ac_rfl
        _ ≤ x.mantissa * (den * 2 ^ k) := Nat.mul_le_mul_right _ hfull
        _ = num * unit := h.symm
  rw [nearest?_eq_carry? x.negative hnum hden hfit, h,
    roundDiv_mul_self _ (Nat.mul_pos hden (Nat.two_pow_pos k)), ← hk]
  simp [carry?, Nat.pow_eq, Nat.ne_of_lt hbelow, x.isCanonical]

/-- **A number of the format is the one nearest to it.** -/
theorem nearest?_quotient (x : Binary64) (hx : 0 < x.mantissa) :
    nearest? x.negative x.quotient.1 x.quotient.2 = some x := by
  have hlow := x.isCanonical.2.1
  unfold quotient
  split
  · next p hp =>
    refine nearest?_eq_some x Nat.one_pos hx ?_
    have hexp : (x.exponent + 1074).toNat = p + 1074 := by
      rw [hp, Int.ofNat_eq_natCast]
      omega
    rw [hexp, Nat.pow_eq, Nat.one_mul, Nat.pow_add, unit, Nat.mul_assoc]
  · next p hp =>
    refine nearest?_eq_some x (Nat.two_pow_pos _) hx ?_
    have hexp : p + 1 + (x.exponent + 1074).toNat = 1074 := by omega
    have hunit : unit = 2 ^ (p + 1 + (x.exponent + 1074).toNat) := by rw [hexp, unit]
    rw [hunit, Nat.pow_eq, ← Nat.pow_add]

end DateTemplate.Binary64
