import DateTemplate.Number.Layout
import DateTemplate.Proofs.Number.Rounding
import DateTemplate.Proofs.Text.Digits
import DateTemplate.Proofs.Value.Characters

set_option autoImplicit false

/-!
# Reading written numbers

A number written without powers of ten is read back as the same number, whatever its digits are: a
decimal that reads back is looked for first, and the exact one stands in. Main statement:
`read?_write_positional`.
-/

namespace DateTemplate

namespace Binary64

open Decimal

/-! ## The number of a decimal -/

/-- A quotient with a power of either sign, rounded, in units of `1 / base ^ s`. -/
theorem nearest?_scaled (negative : Bool) {num den base : Nat} (hnum : 0 < num) (hden : 0 < den)
    (hbase : 0 < base) {s : Nat} {e : Int} (he : -(s : Int) ≤ e) :
    nearest? negative (scaled num den base e).1 (scaled num den base e).2 =
      nearest? negative (num * base ^ s) (den * base ^ (e + s).toNat) := by
  obtain ⟨f, hf, hnum', hden'⟩ := exists_scaled_mul num den base hbase he
  rw [← hnum', ← hden']
  refine (nearest?_mul_right negative ?_ (scaled_snd_pos num hden hbase e) hf).symm
  refine Nat.pos_of_mul_pos_right (b := f) ?_
  rw [hnum']
  exact Nat.mul_pos hnum (Nat.pow_pos hbase)

/-- A power of ten may stand in the significand or in the exponent. -/
theorem ofScientific?_mul_pow (negative : Bool) (n k : Nat) (p : Int) :
    ofScientific? negative (n * 10 ^ k) p = ofScientific? negative n (p + k) := by
  rcases Nat.eq_zero_or_pos n with rfl | hn
  · simp [ofScientific?]
  · have hpow : ∀ m, 0 < 10 ^ m := fun m => Nat.pow_pos (by decide)
    have hpoint : ((digits (n * 10 ^ k)).length : Int) + p = (digits n).length + (p + k) := by
      rw [digits_mul_pow hn, List.length_append, List.length_replicate]
      omega
    have hne : n * 10 ^ k ≠ 0 := Nat.ne_of_gt (Nat.mul_pos hn (hpow k))
    -- Both quotients are brought to units of `1 / 10 ^ s`.
    obtain ⟨s, hs⟩ : ∃ s : Nat, s = (p + k).toNat := ⟨_, rfl⟩
    have hexp : (-p + s).toNat = (-(p + k) + s).toNat + k := by omega
    have hnearest : nearest? negative (scaled (n * 10 ^ k) 1 10 (-p)).1
          (scaled (n * 10 ^ k) 1 10 (-p)).2 =
        nearest? negative (scaled n 1 10 (-(p + k))).1 (scaled n 1 10 (-(p + k))).2 := by
      rw [nearest?_scaled negative (Nat.pos_of_ne_zero hne) Nat.one_pos (by decide)
          (s := s) (by omega),
        nearest?_scaled negative hn Nat.one_pos (by decide) (s := s) (by omega), hexp,
        Nat.mul_right_comm n (10 ^ k) (10 ^ s), Nat.pow_add, ← Nat.mul_assoc]
      exact nearest?_mul_right negative (Nat.mul_pos hn (hpow s)) (Nat.mul_pos Nat.one_pos (hpow _))
        (hpow k)
    simp only [ofScientific?, hpoint, hne, Nat.ne_of_gt hn, hnearest]

/-! ## Decimals that read back -/

theorem quotient_pos (x : Binary64) (hx : 0 < x.mantissa) :
    0 < x.quotient.1 ∧ 0 < x.quotient.2 := by
  unfold quotient
  split
  · exact ⟨Nat.mul_pos hx (Nat.two_pow_pos _), Nat.one_pos⟩
  · exact ⟨hx, Nat.two_pow_pos _⟩

/-- A positive number of the format lies between the powers of ten that decide nothing alone. -/
theorem exists_quotient_bounds (x : Binary64) (hx : 0 < x.mantissa) :
    ∃ low high : Nat, low ≤ 330 ∧ high ≤ 310 ∧
      x.quotient.2 ≤ x.quotient.1 * 10 ^ low ∧ x.quotient.1 < 10 ^ high * x.quotient.2 := by
  obtain ⟨hbelow, hleast, hmost, -⟩ := x.isCanonical
  rw [Nat.pow_eq] at hbelow
  obtain ⟨low, hlow, hunit⟩ : ∃ low ≤ 330, 2 ^ 1074 ≤ 10 ^ low :=
    ⟨330, Nat.le_refl _, by decide +kernel⟩
  obtain ⟨high, hhigh, htop⟩ : ∃ high ≤ 310, 2 ^ 53 * 2 ^ 971 ≤ 10 ^ high :=
    ⟨310, Nat.le_refl _, by decide +kernel⟩
  have hten : ∀ m, 0 < 10 ^ m := fun m => Nat.pow_pos (by decide)
  have htwo : ∀ {m n : Nat}, m ≤ n → 2 ^ m ≤ 2 ^ n := Nat.pow_le_pow_right (by decide)
  refine ⟨low, high, hlow, hhigh, ?_⟩
  cases he : x.exponent with
  | ofNat e =>
    rw [he, Int.ofNat_eq_natCast] at hmost
    have hexp : e ≤ 971 := by omega
    have hmost := Nat.le_trans (Nat.mul_le_mul_left (2 ^ 53) (htwo hexp)) htop
    simp only [quotient, he, Nat.pow_eq, Nat.mul_one]
    constructor
    · exact Nat.mul_pos (Nat.mul_pos hx (Nat.two_pow_pos e)) (hten low)
    · calc x.mantissa * 2 ^ e
          < 2 ^ 53 * 2 ^ e := Nat.mul_lt_mul_of_pos_right hbelow (Nat.two_pow_pos e)
        _ ≤ 10 ^ high := hmost
  | negSucc e =>
    have hexp : e + 1 ≤ 1074 := by omega
    have hfull : 2 ^ 53 ≤ 2 ^ 53 * 2 ^ 971 := by decide +kernel
    simp only [quotient, he, Nat.pow_eq]
    constructor
    · calc 2 ^ (e + 1)
          ≤ 10 ^ low := Nat.le_trans (htwo hexp) hunit
        _ ≤ x.mantissa * 10 ^ low := Nat.le_mul_of_pos_left _ hx
    · calc x.mantissa
          < 10 ^ high := Nat.lt_of_lt_of_le hbelow (Nat.le_trans hfull htop)
        _ ≤ 10 ^ high * 2 ^ (e + 1) := Nat.le_mul_of_pos_right _ (Nat.two_pow_pos _)

/-- Within those bounds a decimal is rounded as the quotient that it is. -/
theorem ofScientific?_eq_nearest? (negative : Bool) {n k low high : Nat} (hlow : low ≤ 330)
    (hhigh : high ≤ 310) (hnlow : 10 ^ k ≤ n * 10 ^ low) (hnhigh : n < 10 ^ (high + k)) :
    ofScientific? negative n (-(k : Int)) = nearest? negative n (10 ^ k) := by
  have hten : ∀ m, 0 < 10 ^ m := fun m => Nat.pow_pos (by decide)
  have hne : n ≠ 0 := by
    rintro rfl
    rw [Nat.zero_mul] at hnlow
    exact Nat.not_lt.2 hnlow (hten k)
  have hlong : k < (digits n).length + low := by
    have hlt := Nat.mul_lt_mul_of_pos_right (lt_pow_length_digits n) (hten low)
    rw [← Nat.pow_add] at hlt
    exact (Nat.pow_lt_pow_iff_right (by decide)).1 (Nat.lt_of_le_of_lt hnlow hlt)
  have hshort : (digits n).length ≤ high + k := by
    refine (length_digits_le_iff ?_).2 hnhigh
    rcases Nat.eq_zero_or_pos (high + k) with hzero | hpos
    · rw [hzero] at hnhigh
      omega
    · exact hpos
  unfold ofScientific?
  simp only
  rw [if_neg (by omega), if_neg (by omega), Int.neg_neg]
  simp [scaled]

/-- The exact decimal is the quotient with both sides made larger. -/
theorem exists_exact (x : Binary64) :
    ∃ k c : Nat, 0 < c ∧ x.exact = (x.quotient.1 * c, -(k : Int)) ∧ 10 ^ k = x.quotient.2 * c := by
  cases he : x.exponent with
  | ofNat e => exact ⟨0, 1, Nat.one_pos, by simp [exact, quotient, he], by simp [quotient, he]⟩
  | negSucc e =>
    refine ⟨e + 1, 5 ^ (e + 1), Nat.pow_pos (by decide), ?_, ?_⟩
    · simp only [exact, quotient, he, Nat.pow_eq]
      rfl
    · simp only [quotient, he]
      exact Nat.mul_pow 2 5 (e + 1)

/-- The exact decimal reads back. -/
theorem ofScientific?_exact (x : Binary64) (hx : 0 < x.mantissa) :
    ofScientific? x.negative x.exact.1 x.exact.2 = some x := by
  obtain ⟨k, c, hc, hexact, hden⟩ := x.exists_exact
  obtain ⟨low, high, hlow, hhigh, hxlow, hxhigh⟩ := x.exists_quotient_bounds hx
  obtain ⟨hnum, hden'⟩ := x.quotient_pos hx
  have hnlow : 10 ^ k ≤ x.quotient.1 * c * 10 ^ low := by
    rw [hden, Nat.mul_right_comm]
    exact Nat.mul_le_mul_right c hxlow
  have hnhigh : x.quotient.1 * c < 10 ^ (high + k) := by
    rw [Nat.pow_add, hden, ← Nat.mul_assoc]
    exact Nat.mul_lt_mul_of_pos_right hxhigh hc
  rw [hexact, ofScientific?_eq_nearest? x.negative hlow hhigh hnlow hnhigh, hden,
    nearest?_mul_right x.negative hnum hden' hc, nearest?_quotient x hx]

/-- What a power of ten gives reads back. -/
theorem ofScientific?_ofPower? {tie : Tie} {x : Binary64} {p : Int} {c : Nat × Int}
    (h : ofPower? tie x p = some c) : ofScientific? x.negative c.1 c.2 = some x := by
  unfold ofPower? at h
  simp only at h
  split at h
  · next hlower hupper =>
    obtain rfl := Option.some.inj h
    dsimp only
    split
    · exact beq_iff_eq.1 hupper
    · exact beq_iff_eq.1 hlower
  · next hlower _ =>
    obtain rfl := Option.some.inj h
    exact beq_iff_eq.1 hlower
  · next _ hupper =>
    obtain rfl := Option.some.inj h
    exact beq_iff_eq.1 hupper
  · cases h

theorem eq_zero_of_mantissa {x : Binary64} (h : x.mantissa = 0) : zero x.negative = x := by
  obtain ⟨negative, mantissa, exponent, hcanonical⟩ := x
  obtain rfl : mantissa = 0 := h
  obtain ⟨-, -, -, hfull⟩ := hcanonical
  obtain rfl : exponent = -1074 := hfull.resolve_left (by decide)
  rfl

/-- **The shortest decimal of a number reads back as the number.** -/
theorem ofScientific?_shortest (tie : Tie) (x : Binary64) :
    ofScientific? x.negative (x.shortest tie).1 (x.shortest tie).2 = some x := by
  unfold shortest
  split
  · next hzero => simp [ofScientific?, eq_zero_of_mantissa hzero]
  · next hpos =>
    cases hfound : (List.range 17).findSome? fun i => ofLength? tie x (i + 1) with
    | none => exact ofScientific?_exact x (Nat.pos_of_ne_zero hpos)
    | some c =>
      obtain ⟨i, -, hi⟩ := List.exists_of_findSome?_eq_some hfound
      exact ofScientific?_ofPower? hi

/-! ## The digits as they are set out -/

theorem withoutTrailingZeros_ne_nil (ds : Text) : withoutTrailingZeros ds ≠ [] := by
  unfold withoutTrailingZeros
  split
  · exact List.cons_ne_nil _ _
  · next hne => exact hne

/-- The zeros taken off the end, put back. -/
theorem exists_withoutTrailingZeros_append {ds : Text} (hds : ds ≠ []) :
    ∃ k, withoutTrailingZeros ds ++ List.replicate k '0' = ds := by
  generalize hzeros : (ds.reverse.takeWhile (· == '0')).reverse = zeros
  generalize hfront : (ds.reverse.dropWhile (· == '0')).reverse = front
  have hsplit : front ++ zeros = ds := by
    rw [← hzeros, ← hfront, ← List.reverse_append, List.takeWhile_append_dropWhile,
      List.reverse_reverse]
  have hall : ∀ c ∈ zeros, c = '0' := by
    intro c hc
    rw [← hzeros, List.mem_reverse] at hc
    exact beq_iff_eq.1 (List.all_eq_true.1 List.all_takeWhile c hc)
  have hreplicate := List.eq_replicate_of_mem hall
  unfold withoutTrailingZeros
  rw [hfront]
  split
  · -- The digits are zeros only, and one of them stays.
    rw [List.nil_append] at hsplit
    obtain ⟨k, hk⟩ := Nat.exists_eq_succ_of_ne_zero
      (mt List.eq_nil_of_length_eq_zero (hsplit.symm ▸ hds : zeros ≠ []))
    refine ⟨k, ?_⟩
    rw [List.singleton_append, ← List.replicate_succ, ← Nat.succ_eq_add_one, ← hk, ← hreplicate,
      hsplit]
  · exact ⟨zeros.length, by rw [← hreplicate, hsplit]⟩

end Binary64

namespace Numeral

theorem sign_of_isDigit {c : Char} (hc : c.isDigit = true) (t : Text) :
    sign (c :: t) = (false, c :: t) := by
  unfold sign
  split
  · next h => cases h; cases hc
  · next h => cases h; cases hc
  · rfl

theorem fractionDigits_point {fraction : Text} (h : ∀ c ∈ fraction, c.isDigit = true) :
    fractionDigits ('.' :: fraction) = (fraction, []) := by
  obtain ⟨htake, hdrop⟩ := Text.takeWhile_append_of_stops (t := []) h (by simp)
  rw [List.append_nil] at htake hdrop
  rw [fractionDigits, htake, hdrop]

theorem sign_signed (negative : Bool) {whole : Text} (hne : whole ≠ [])
    (hwhole : ∀ c ∈ whole, c.isDigit = true) (tail : Text) :
    sign (if negative then '-' :: (whole ++ tail) else whole ++ tail) =
      (negative, whole ++ tail) := by
  cases negative with
  | true => rfl
  | false =>
    obtain ⟨c, rest, rfl⟩ := List.exists_cons_of_ne_nil hne
    exact sign_of_isDigit (hwhole c List.mem_cons_self) (rest ++ tail)

/-- A run of digits behind the sign, a fraction behind the run and a power behind the fraction. -/
theorem read?_of_sign {t whole tail fraction rest : Text} {negative : Bool}
    (hsign : sign t = (negative, whole ++ tail)) (hne : whole ≠ [])
    (hwhole : ∀ c ∈ whole, c.isDigit = true) (hstop : ∀ c ∈ tail.head?, c.isDigit = false)
    (htail : fractionDigits tail = (fraction, rest)) :
    read? t = (power? rest).map fun p =>
      ⟨negative, Decimal.ofDigits (whole ++ fraction), p - fraction.length⟩ := by
  obtain ⟨htake, hdrop⟩ := Text.takeWhile_append_of_stops hwhole hstop
  unfold read?
  simp only [hsign, htake, hdrop, htail]
  simp [hne]

end Numeral

namespace Binary64

open Decimal

/-- A signed run of digits and what ends the text behind it. -/
theorem read?_append {negative : Bool} {whole tail fraction : Text} (hne : whole ≠ [])
    (hwhole : ∀ c ∈ whole, c.isDigit = true) (hstop : ∀ c ∈ tail.head?, c.isDigit = false)
    (htail : Numeral.fractionDigits tail = (fraction, [])) :
    read? (if negative then '-' :: (whole ++ tail) else whole ++ tail) =
      ofScientific? negative (ofDigits (whole ++ fraction)) (-(fraction.length : Int)) := by
  have hsign := Numeral.sign_signed negative hne hwhole tail
  rw [read?, Numeral.read?_of_sign hsign hne hwhole hstop htail]
  simp [Numeral.power?]

/-- Digits denote a number wherever the point stands among them, before them or behind them. -/
theorem read?_pointed (negative : Bool) {ds : Text} (hne : ds ≠ [])
    (hds : ∀ c ∈ ds, c.isDigit = true) (point : Int) :
    read? (if negative then '-' :: pointed [] ds point else pointed [] ds point) =
      ofScientific? negative (ofDigits ds) (point - ds.length) := by
  have hpointStops : ∀ fraction : Text, ∀ c ∈ ('.' :: fraction).head?, c.isDigit = false := by
    intro fraction c hc
    obtain rfl := Option.some.inj hc
    decide
  by_cases hfront : point ≤ 0
  · have hbody : pointed [] ds point =
        ['0'] ++ '.' :: (List.replicate point.natAbs '0' ++ ds) := by
      simp [pointed, hfront]
    have hfraction : ∀ c ∈ List.replicate point.natAbs '0' ++ ds, c.isDigit = true :=
      fun c hc => (List.mem_append.1 hc).elim isDigit_of_mem_zeros (hds c)
    rw [hbody, read?_append (List.cons_ne_nil _ _) (by simp) (hpointStops _)
      (Numeral.fractionDigits_point hfraction), List.singleton_append, ofDigits_zero_cons,
      ofDigits_replicate_zero_append, List.length_append, List.length_replicate]
    congr 1
    omega
  by_cases hamong : point < ds.length
  · have hbody : pointed [] ds point = ds.take point.toNat ++ '.' :: ds.drop point.toNat := by
      simp [pointed, hfront, hamong]
    have hwhole : ds.take point.toNat ≠ [] := by
      have hpos : point.toNat ≠ 0 := by omega
      simp [hne, hpos]
    have hfraction : ∀ c ∈ ds.drop point.toNat, c.isDigit = true :=
      fun c hc => hds c (List.mem_of_mem_drop hc)
    rw [hbody, read?_append hwhole (fun c hc => hds c (List.mem_of_mem_take hc)) (hpointStops _)
      (Numeral.fractionDigits_point hfraction), List.take_append_drop, List.length_drop]
    congr 1
    omega
  · have hbody : pointed [] ds point =
        ds ++ List.replicate (point.toNat - ds.length) '0' ++ [] := by
      simp [pointed, hfront, hamong]
    have hwhole : ∀ c ∈ ds ++ List.replicate (point.toNat - ds.length) '0', c.isDigit = true :=
      fun c hc => (List.mem_append.1 hc).elim (hds c) isDigit_of_mem_zeros
    rw [hbody, read?_append (List.append_ne_nil_of_left_ne_nil hne _) hwhole (by simp) rfl,
      List.append_nil, ofDigits_append_replicate_zero, ofScientific?_mul_pow]
    congr 1
    rw [List.length_nil]
    omega

/-- **A number written without powers of ten is read back.** -/
theorem read?_write_positional (x : Binary64) : read? (x.write .positional) = some x := by
  have hshortest := ofScientific?_shortest .up x
  rcases hdecimal : x.shortest .up with ⟨n, p⟩
  rw [hdecimal] at hshortest
  obtain ⟨k, hk⟩ := exists_withoutTrailingZeros_append (digits_ne_nil n)
  -- The zeros that are taken off move into the power of ten.
  have hexp : ((digits n).length : Int) + p - (withoutTrailingZeros (digits n)).length = p + k := by
    have hlength := congrArg List.length hk
    rw [List.length_append, List.length_replicate] at hlength
    omega
  rw [write_positional hdecimal, read?_pointed x.negative (withoutTrailingZeros_ne_nil _)
    (fun _ => isDigit_of_mem_withoutTrailingZeros), hexp, ← ofScientific?_mul_pow,
    ← ofDigits_append_replicate_zero, hk, ofDigits_digits, hshortest]

end Binary64

end DateTemplate
