import DateTemplate.Proofs.Number.ReadBack

set_option autoImplicit false

/-!
# Whole numbers in binary64

Rounding moves a positive whole number by no more than its share of `2 ^ -53`, to a whole number, and
leaves it in its place up to `2 ^ 53`. The shortest decimal of a whole number is a whole number too.
Main statements: `exists_whole_of_nearest?`, `exists_shortest_of_units` and
`exists_write_of_nearest?`.
-/

namespace DateTemplate.Binary64

open Decimal

variable {x : Binary64} {negative : Bool} {n : Nat}

/-! ## What rounding does to a value -/

/-- The magnitude of a number, counted in units. -/
def units (x : Binary64) : Nat := x.mantissa * 2 ^ (x.exponent + 1074).toNat

/-- A quotient and the number it is rounded to are at most a half apart. -/
theorem roundDiv_bounds (num : Nat) {den : Nat} (hden : 0 < den) :
    2 * num ≤ 2 * (roundDiv num den * den) + den ∧
      2 * (roundDiv num den * den) ≤ 2 * num + den := by
  have hdivision : num / den * den + num % den = num := by
    rw [Nat.mul_comm]
    exact Nat.div_add_mod num den
  have hsucc : (num / den + 1) * den = num / den * den + den := Nat.succ_mul _ _
  have hmod := Nat.mod_lt num hden
  unfold roundDiv
  simp only [Bool.or_eq_true, Bool.and_eq_true, decide_eq_true_eq, beq_iff_eq]
  split <;> omega

/-- Rounding passes no whole number. -/
theorem roundDiv_le {num den m : Nat} (hden : 0 < den) (h : num ≤ m * den) :
    roundDiv num den ≤ m := by
  refine Nat.le_of_not_lt fun hlt => ?_
  have hmul : (m + 1) * den ≤ roundDiv num den * den := Nat.mul_le_mul_right den hlt
  have hbounds := roundDiv_bounds num hden
  rw [Nat.succ_mul] at hmul
  omega

theorem le_roundDiv {num den m : Nat} (hden : 0 < den) (h : m * den ≤ num) :
    m ≤ roundDiv num den := by
  refine Nat.le_of_not_lt fun hlt => ?_
  have hmul : (roundDiv num den + 1) * den ≤ m * den := Nat.mul_le_mul_right den hlt
  have hbounds := roundDiv_bounds num hden
  rw [Nat.succ_mul] at hmul
  omega

/-- A mantissa of `2 ^ 53` is carried into the exponent, which leaves the value as it is. -/
theorem units_of_carry? {m k : Nat} (h : carry? negative m (k - 1074) = some x) :
    x.negative = negative ∧ x.units = m * 2 ^ k := by
  have hexp : ((k : Int) - 1074 + 1074).toNat = k := by omega
  have hcarried : ((k : Int) - 1074 + 1 + 1074).toNat = 1 + k := by omega
  unfold carry? at h
  simp only [Nat.pow_eq] at h
  by_cases hm : m = 2 ^ 53
  · simp only [if_pos hm, Option.dite_none_right_eq_some] at h
    obtain ⟨_, hx⟩ := h
    obtain rfl := Option.some.inj hx
    have hvalue : 2 ^ 52 * 2 ^ (1 + k) = m * 2 ^ k := by
      rw [hm, Nat.pow_add]
      omega
    exact ⟨rfl, by rw [units, hcarried, hvalue]⟩
  · simp only [if_neg hm, Option.dite_none_right_eq_some] at h
    obtain ⟨_, hx⟩ := h
    obtain rfl := Option.some.inj hx
    exact ⟨rfl, by rw [units, hexp]⟩

theorem units_of_nearest? {num den k : Nat} (hnum : 0 < num) (hden : 0 < den)
    (hfit : IsFitting num den k) (h : nearest? negative num den = some x) :
    x.negative = negative ∧ x.units = roundDiv (num * unit) (den * 2 ^ k) * 2 ^ k := by
  rw [nearest?_eq_carry? negative hnum hden hfit] at h
  exact units_of_carry? h

/-- A place above the unit counts an even number of units. -/
theorem two_pow_eq_mul_unit {k : Nat} (hk : 1075 ≤ k) : 2 ^ k = 2 * (2 ^ (k - 1075) * unit) := by
  rw [unit, ← Nat.pow_add, ← Nat.pow_succ']
  congr 1
  omega

/-- The value is whole where the place reaches the unit, and where it does not nothing is rounded
off. -/
theorem exists_eq_mul_unit (n k : Nat) :
    ∃ X, roundDiv (n * unit) (2 ^ k) * 2 ^ k = X * unit ∧ (k < 1075 → X = n) ∧
      (1075 ≤ k → 2 ∣ X) := by
  rcases Nat.lt_or_ge k 1075 with hk | hk
  · have hunit : n * unit = n * 2 ^ (1074 - k) * 2 ^ k := by
      rw [Nat.mul_assoc, ← Nat.pow_add, unit, Nat.sub_add_cancel (by omega)]
    refine ⟨n, ?_, fun _ => rfl, by omega⟩
    rw [hunit, roundDiv_mul_self _ (Nat.two_pow_pos k)]
  · refine ⟨2 * (roundDiv (n * unit) (2 ^ k) * 2 ^ (k - 1075)), ?_, by omega,
      fun _ => Nat.dvd_mul_right 2 _⟩
    rw [Nat.mul_assoc 2, Nat.mul_assoc _ _ unit, Nat.mul_left_comm 2, ← two_pow_eq_mul_unit hk]

/-- **A whole number is rounded to a whole number**, moved by at most its share of `2 ^ -53`. -/
theorem exists_whole_of_nearest? (hn : 0 < n) (h : nearest? negative n 1 = some x) :
    x.negative = negative ∧ ∃ X, x.units = X * unit ∧ 2 ^ 53 * n ≤ 2 ^ 53 * X + n ∧
      2 ^ 53 * X ≤ 2 ^ 53 * n + n ∧ (n ≤ 2 ^ 53 → X = n) := by
  obtain ⟨k, -, hfit⟩ := exists_isFitting hn Nat.one_pos
  obtain ⟨hnegative, hunits⟩ := units_of_nearest? hn Nat.one_pos hfit h
  obtain ⟨X, hX, hbelow, habove⟩ := exists_eq_mul_unit n k
  rw [Nat.one_mul, hX] at hunits
  -- The last place of the mantissa counts at most as much as the share.
  have hplace : 2 ^ 52 * 2 ^ k ≤ n * unit := by
    rcases hfit.least with rfl | hleast
    · calc 2 ^ 52 * 2 ^ 0 ≤ 1 * unit := by decide +kernel
        _ ≤ n * unit := Nat.mul_le_mul_right unit hn
    · rwa [Nat.one_mul, Nat.add_comm, Nat.pow_add] at hleast
  obtain ⟨hlow, hhigh⟩ := roundDiv_bounds (n * unit) (Nat.two_pow_pos k)
  rw [hX] at hlow hhigh
  have hlower : 2 ^ 53 * n ≤ 2 ^ 53 * X + n := by
    refine Nat.le_of_mul_le_mul_right (c := unit) ?_ unit_pos
    rw [Nat.add_mul, Nat.mul_assoc, Nat.mul_assoc]
    omega
  have hupper : 2 ^ 53 * X ≤ 2 ^ 53 * n + n := by
    refine Nat.le_of_mul_le_mul_right (c := unit) ?_ unit_pos
    rw [Nat.add_mul, Nat.mul_assoc, Nat.mul_assoc]
    omega
  refine ⟨hnegative, X, hunits, hlower, hupper, fun hsmall => ?_⟩
  rcases Nat.lt_or_ge k 1075 with hk | hk
  · exact hbelow hk
  · -- The mantissa of `2 ^ 53` is carried, and no even neighbour is as near.
    have heven := habove hk
    have hunit : unit ≤ 2 ^ (k - 1075) * unit := Nat.le_mul_of_pos_left _ (Nat.two_pow_pos _)
    rw [two_pow_eq_mul_unit hk] at hplace
    have hlarge : 2 ^ 53 ≤ n := Nat.le_of_mul_le_mul_right (c := unit) (by omega) unit_pos
    omega

/-- A mantissa that fills its bits, carried or not, is in the format below the greatest exponent. -/
theorem exists_carry? (negative : Bool) {m k : Nat} (hmost : m ≤ 2 ^ 53)
    (hfull : 2 ^ 52 ≤ m ∨ k = 0) (hexp : k ≤ 2044) :
    ∃ x, carry? negative m (k - 1074) = some x := by
  by_cases hm : m = 2 ^ 53
  · have hcanonical : IsCanonical (2 ^ 52) ((k : Int) - 1074 + 1) :=
      ⟨by decide, by omega, by omega, Or.inl (Nat.le_refl _)⟩
    simp only [carry?, Nat.pow_eq, if_pos hm]
    exact ⟨_, dif_pos hcanonical⟩
  · have hcanonical : IsCanonical m ((k : Int) - 1074) := by
      refine ⟨?_, by omega, by omega, hfull.imp_right fun hk => by omega⟩
      rw [Nat.pow_eq]
      exact Nat.lt_of_le_of_ne hmost hm
    simp only [carry?, Nat.pow_eq, if_neg hm]
    exact ⟨_, dif_pos hcanonical⟩

/-- A whole number of at most 1023 bits is not too large for the format. -/
theorem exists_nearest?_one (negative : Bool) {j : Nat} (hn : 0 < n) (hj : j ≤ 1023)
    (hlt : n < 2 ^ j) : ∃ x, nearest? negative n 1 = some x := by
  obtain ⟨k, -, hfit⟩ := exists_isFitting hn Nat.one_pos
  have hden : 0 < 1 * 2 ^ k := Nat.mul_pos Nat.one_pos (Nat.two_pow_pos k)
  have hmost : roundDiv (n * unit) (1 * 2 ^ k) ≤ 2 ^ 53 := by
    refine roundDiv_le hden (Nat.le_of_lt ?_)
    rw [Nat.mul_left_comm, ← Nat.pow_add, Nat.add_comm]
    exact hfit.below
  have hfull : 2 ^ 52 ≤ roundDiv (n * unit) (1 * 2 ^ k) ∨ k = 0 := by
    refine hfit.least.symm.imp_left fun hleast => le_roundDiv hden ?_
    rwa [Nat.mul_left_comm, ← Nat.pow_add, Nat.add_comm]
  have hexp : k ≤ 2044 := by
    rcases hfit.least with rfl | hleast
    · exact Nat.zero_le _
    · have hpow : 2 ^ (k + 52) < 2 ^ (j + 1074) := by
        calc 2 ^ (k + 52) ≤ n * unit := by rwa [Nat.one_mul] at hleast
          _ < 2 ^ j * unit := Nat.mul_lt_mul_of_pos_right hlt unit_pos
          _ = 2 ^ (j + 1074) := by rw [unit, Nat.pow_add]
      have := (Nat.pow_lt_pow_iff_right (by decide)).1 hpow
      omega
  rw [nearest?_eq_carry? negative hn Nat.one_pos hfit]
  exact exists_carry? negative hmost hfull hexp

/-! ## Decimals of whole numbers -/

/-- The numeral of a whole number is rounded like the number. -/
theorem ofScientific?_eq_nearest?_one {n high : Nat} (negative : Bool) (hn : 0 < n)
    (hhigh : high ≤ 310) (hlt : n < 10 ^ high) :
    ofScientific? negative n 0 = nearest? negative n 1 :=
  ofScientific?_eq_nearest? negative (Nat.zero_le 330) hhigh (k := 0) (by omega) hlt

theorem nearest?_of_ofScientific? (hn : 0 < n) (h : ofScientific? negative n 0 = some x) :
    nearest? negative n 1 = some x := by
  unfold ofScientific? at h
  simp only at h
  split at h
  · next hzero => omega
  · split at h
    · cases h
    · exact h

section

variable {X : Nat}

theorem mantissa_pos_of_units (hX : 0 < X) (h : x.units = X * unit) : 0 < x.mantissa := by
  refine Nat.pos_of_mul_pos_right (b := 2 ^ (x.exponent + 1074).toNat) ?_
  rw [← units, h]
  exact Nat.mul_pos hX unit_pos

/-- The quotient of a whole number. -/
theorem quotient_of_units (h : x.units = X * unit) : x.quotient.1 = X * x.quotient.2 := by
  have hleast := x.isCanonical.2.1
  cases he : x.exponent with
  | ofNat e =>
    have hpow : 2 ^ (Int.ofNat e + 1074).toNat = 2 ^ e * unit := by
      rw [unit, ← Nat.pow_add]
      congr 1
    rw [units, he, hpow, ← Nat.mul_assoc] at h
    simp only [quotient, he, Nat.pow_eq, Nat.mul_one]
    exact Nat.eq_of_mul_eq_mul_right unit_pos h
  | negSucc e =>
    have hexp : (Int.negSucc e + 1074).toNat = 1074 - (e + 1) := by omega
    have hunit : unit = 2 ^ (e + 1) * 2 ^ (1074 - (e + 1)) := by
      rw [unit, ← Nat.pow_add, Nat.add_sub_cancel' (by omega)]
    rw [units, he, hexp, hunit, ← Nat.mul_assoc] at h
    simp only [quotient, he, Nat.pow_eq]
    exact Nat.eq_of_mul_eq_mul_right (Nat.two_pow_pos _) h

theorem ofScientific?_of_units (hX : 0 < X) (h : x.units = X * unit) :
    ofScientific? x.negative X 0 = some x := by
  have hmantissa := mantissa_pos_of_units hX h
  obtain ⟨-, high, -, hhigh, -, hlt⟩ := x.exists_quotient_bounds hmantissa
  rw [quotient_of_units h] at hlt
  rw [ofScientific?_eq_nearest?_one x.negative hX hhigh (Nat.lt_of_mul_lt_mul_right hlt)]
  exact nearest?_eq_some x Nat.one_pos hmantissa (by rw [Nat.one_mul, ← h, units])

/-- The point of a whole number stands behind its digits. -/
theorem pointPlace_of_units (hX : 0 < X) (h : x.units = X * unit) :
    pointPlace x.quotient.1 x.quotient.2 = (digits X).length := by
  obtain ⟨-, hden⟩ := x.quotient_pos (mantissa_pos_of_units hX h)
  unfold pointPlace
  generalize 400 = k
  rw [quotient_of_units h, Nat.mul_right_comm, Nat.mul_div_cancel _ hden, Nat.pow_eq,
    digits_mul_pow hX, List.length_append, List.length_replicate]
  omega

/-- Without a power of ten the decimal of a whole number is that number. -/
theorem ofPower?_zero (tie : Tie) (hX : 0 < X) (h : x.units = X * unit) :
    ofPower? tie x 0 = some (X, 0) := by
  obtain ⟨-, hden⟩ := x.quotient_pos (mantissa_pos_of_units hX h)
  have hscaled : scaled x.quotient.1 x.quotient.2 10 0 = (X * x.quotient.2, x.quotient.2) := by
    rw [quotient_of_units h]
    exact congrArg _ (Nat.mul_one _)
  have htie : tie.takesUpper X (X * x.quotient.2) x.quotient.2 = false := by
    have hne : x.quotient.2 ≠ 0 := Nat.ne_of_gt hden
    simp [Tie.takesUpper, hne]
  unfold ofPower?
  simp only [hscaled, Nat.mul_div_cancel _ hden, ofScientific?_of_units hX h, htie, beq_self_eq_true]
  cases ofScientific? x.negative (X + 1) 0 == some x <;> rfl

theorem snd_of_ofPower? {tie : Tie} {p : Int} {c : Nat × Int} (h : ofPower? tie x p = some c) :
    c.2 = p := by
  unfold ofPower? at h
  simp only at h
  split at h
  · exact (Option.some.inj h) ▸ rfl
  · exact (Option.some.inj h) ▸ rfl
  · exact (Option.some.inj h) ▸ rfl
  · cases h

/-- A number that no mantissa holds has an exponent, and its exact decimal has no point. -/
theorem exact_of_units (h : x.units = X * unit) (hlarge : 2 ^ 53 ≤ X) :
    x.exact = (X, 0) := by
  have hquotient := quotient_of_units h
  have hbelow := x.isCanonical.1
  cases he : x.exponent with
  | ofNat e =>
    simp only [quotient, he, Nat.mul_one] at hquotient
    simp only [exact, he, hquotient]
  | negSucc e =>
    simp only [quotient, he] at hquotient
    have hle : X ≤ X * Nat.pow 2 (e + 1) := Nat.le_mul_of_pos_right X (Nat.two_pow_pos _)
    rw [Nat.pow_eq] at hbelow
    omega

/-- **The shortest decimal of a whole number is whole**, and it is the number itself where it has no
power of ten. -/
theorem exists_shortest_of_units (tie : Tie) (hX : 0 < X) (h : x.units = X * unit) :
    ∃ c p : Nat, x.shortest tie = (c, (p : Int)) ∧ (p = 0 → c = X) := by
  have hmantissa : x.mantissa ≠ 0 := Nat.ne_of_gt (mantissa_pos_of_units hX h)
  have hlength : ∀ i, ofLength? tie x (i + 1) =
      ofPower? tie x ((digits X).length - (i + 1 : Nat)) := fun i => by
    rw [ofLength?, pointPlace_of_units hX h]
  -- A decimal with at most as many digits as the number has no digit behind the point.
  have hfound : ∀ {i : Nat} {d : Nat × Int}, i < (digits X).length →
      ofLength? tie x (i + 1) = some d → ∃ c p : Nat, d = (c, (p : Int)) ∧ (p = 0 → c = X) := by
    intro i d hi hd
    rw [hlength] at hd
    refine ⟨d.1, (digits X).length - (i + 1), ?_, fun hp => ?_⟩
    · have hsnd := snd_of_ofPower? hd
      exact Prod.ext rfl (by omega)
    · have hzero : ((digits X).length : Int) - (i + 1 : Nat) = 0 := by omega
      rw [hzero, ofPower?_zero tie hX h] at hd
      rw [← Option.some.inj hd]
  unfold shortest
  rw [if_neg hmantissa]
  rcases Nat.lt_or_ge 17 (digits X).length with hlong | hshort
  · cases hsearch : (List.range 17).findSome? fun i => ofLength? tie x (i + 1) with
    | some d =>
      obtain ⟨i, hi, hd⟩ := List.exists_of_findSome?_eq_some hsearch
      rw [List.mem_range] at hi
      exact hfound (by omega) hd
    | none =>
      refine ⟨X, 0, exact_of_units h ?_, fun _ => rfl⟩
      have hbelow : 2 ^ 53 ≤ 10 ^ 17 := by decide
      have hle := mt (length_digits_le_iff (by decide)).2 (Nat.not_le.2 hlong)
      omega
  · -- The search has come to an end when it reaches the length of the number.
    have hsplit : List.range 17 = List.range (digits X).length ++
        (List.range (17 - (digits X).length)).map ((digits X).length + ·) := by
      rw [← List.range_add, Nat.add_sub_cancel' hshort]
    have hlast : ((List.range (digits X).length).findSome? fun i =>
        ofLength? tie x (i + 1)).isSome := by
      have hpos := List.length_pos_iff.2 (digits_ne_nil X)
      refine List.findSome?_isSome_iff.2 ⟨(digits X).length - 1, List.mem_range.2 (by omega), ?_⟩
      have hzero : ((digits X).length : Int) - ((digits X).length - 1 + 1 : Nat) = 0 := by omega
      rw [hlength, hzero, ofPower?_zero tie hX h]
      rfl
    obtain ⟨d, hd⟩ := Option.isSome_iff_exists.1 hlast
    obtain ⟨i, hi, hi'⟩ := List.exists_of_findSome?_eq_some hd
    rw [hsplit, List.findSome?_append, hd]
    exact hfound (List.mem_range.1 hi) hi'

end

/-! ## The text of a whole number -/

theorem write_positional_of_shortest {c p : Nat} (hc : 0 < c)
    (h : x.shortest .up = (c, (p : Int))) :
    x.write .positional =
      if x.negative then '-' :: digits (c * 10 ^ p) else digits (c * 10 ^ p) := by
  obtain ⟨k, hk⟩ := exists_withoutTrailingZeros_append (digits_ne_nil c)
  have hlength := congrArg List.length hk
  have hpos : 0 < (digits c).length := List.length_pos_iff.2 (digits_ne_nil c)
  rw [List.length_append, List.length_replicate] at hlength
  have hbody : pointed [] (withoutTrailingZeros (digits c)) ((digits c).length + p) =
      digits (c * 10 ^ p) := by
    have hzeros : ((digits c).length + p : Int).toNat - (withoutTrailingZeros (digits c)).length =
        k + p := by omega
    rw [pointed, if_neg (by omega), if_neg (by omega), hzeros,
      ← List.replicate_append_replicate, List.append_nil, ← List.append_assoc, hk,
      digits_mul_pow hc]
  rw [write_positional h]
  simp only [hbody]

/-- The decimal of a number that is not zero is not zero. -/
theorem pos_of_shortest {c : Nat} {p : Int} (hx : 0 < x.mantissa) (h : x.shortest .up = (c, p)) :
    0 < c := by
  have hread := ofScientific?_shortest .up x
  rw [h] at hread
  refine Nat.pos_of_ne_zero fun hc => ?_
  subst hc
  have hzero : zero x.negative = x := by simpa [ofScientific?] using hread
  rw [← hzero] at hx
  exact absurd hx (Nat.lt_irrefl 0)

/-- **A whole number is written, once rounded, as the digits of a whole number.** The two are apart by
at most their shares of `2 ^ -53`, and are one up to `2 ^ 53`. -/
theorem exists_write_of_nearest? (hn : 0 < n) (h : nearest? negative n 1 = some x) :
    ∃ m, 0 < m ∧
      x.write .positional = (if negative then '-' :: digits m else digits m) ∧
      2 ^ 53 * n ≤ 2 ^ 53 * m + n + m ∧ 2 ^ 53 * m ≤ 2 ^ 53 * n + n + m ∧
      (n ≤ 2 ^ 53 → m = n) := by
  obtain ⟨rfl, X, hX, hlow, hhigh, hexact⟩ := exists_whole_of_nearest? hn h
  have hXpos : 0 < X := by omega
  obtain ⟨c, p, hshortest, hzero⟩ := exists_shortest_of_units .up hXpos hX
  have hc := pos_of_shortest (mantissa_pos_of_units hXpos hX) hshortest
  -- The decimal is rounded to the same number, and so is as near to it.
  have hm : 0 < c * 10 ^ p := Nat.mul_pos hc (Nat.pow_pos (by decide))
  have hread : ofScientific? x.negative (c * 10 ^ p) 0 = some x := by
    have hscientific := ofScientific?_shortest .up x
    rw [hshortest] at hscientific
    rw [ofScientific?_mul_pow, Int.zero_add]
    exact hscientific
  obtain ⟨-, X', hX', hlow', hhigh', -⟩ :=
    exists_whole_of_nearest? hm (nearest?_of_ofScientific? hm hread)
  obtain rfl : X = X' := Nat.eq_of_mul_eq_mul_right unit_pos (hX.symm.trans hX')
  refine ⟨c * 10 ^ p, hm, write_positional_of_shortest hc hshortest, by omega, by omega, ?_⟩
  intro hsmall
  obtain rfl := hexact hsmall
  rcases Nat.eq_zero_or_pos p with rfl | hp
  · rw [hzero rfl, Nat.pow_zero, Nat.mul_one]
  · -- Below `2 ^ 53` the share is less than one, and neither it nor its successor ends in a zero.
    obtain ⟨q, rfl⟩ : ∃ q, p = q + 1 := ⟨p - 1, by omega⟩
    have hten : 10 ∣ c * 10 ^ (q + 1) := ⟨c * 10 ^ q, by rw [Nat.pow_succ]; ac_rfl⟩
    generalize c * 10 ^ (q + 1) = m at hlow' hhigh' hten ⊢
    have hmost : m ≤ 2 ^ 53 + 1 := by omega
    have hbelow : m < 2 ^ 53 := by omega
    have hle : m ≤ X := by omega
    have hge : X ≤ m := by omega
    exact Nat.le_antisymm hle hge

end DateTemplate.Binary64
