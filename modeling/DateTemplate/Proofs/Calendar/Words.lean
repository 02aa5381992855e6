import DateTemplate.Calendar.Interval
import DateTemplate.Proofs.Calendar.Numbering
import Mathlib.Algebra.Group.Int.Defs
import Mathlib.Algebra.Group.Nat.Defs

set_option autoImplicit false

/-!
# Moving in machine words

A step moves a date in machine words: its amount has 32 bits, gets a sign in 64, and is turned into the
seconds of a span or into a number of months, of which the days and the years have to fit 32 bits
again. Main statements: `addSpan?_eq` and `addMonthsInWords?_eq`, a word that does not fit stands for a
move out of the calendar; `shiftInWords?_eq`, words lead where numbers do, for every amount that 32
bits hold.
-/

namespace DateTemplate

/-! ## Words with a sign -/

namespace Word

variable {w v : Nat} {x y : BitVec w}

/-- The product of two words with a sign, if a word holds it. -/
def mulSigned? (x y : BitVec w) : Option (BitVec w) := if x.smulOverflow y then none else some (x * y)

/-- The number of a word with a sign in a word of another width, if that holds it. -/
def resizeSigned? (v : Nat) (x : BitVec w) : Option (BitVec v) :=
  if -2 ^ (v - 1) ≤ x.toInt ∧ x.toInt < 2 ^ (v - 1) then some (BitVec.ofInt v x.toInt) else none

/-- The number of a word with a sign in a word without one, if that holds it. -/
def unsigned? (v : Nat) (x : BitVec w) : Option (BitVec v) :=
  if 0 ≤ x.toInt ∧ x.toInt < 2 ^ v then some (BitVec.ofInt v x.toInt) else none

/-- The quotient whose remainder is not negative, from the one that is cut off towards zero. -/
def divEuclid (x y : BitVec w) : BitVec w :=
  if (x.srem y).slt 0 then (if BitVec.slt 0 y then x.sdiv y - 1 else x.sdiv y + 1) else x.sdiv y

/-- The remainder that is not negative. -/
def remEuclid (x y : BitVec w) : BitVec w :=
  if (x.srem y).slt 0 then (if BitVec.slt 0 y then x.srem y + y else x.srem y - y) else x.srem y

/-- An integer that a word holds is not wrapped. -/
theorem bmod_eq_self {n : Int} (hw : 0 < w) (hlo : -2 ^ (w - 1) ≤ n) (hhi : n < 2 ^ (w - 1)) :
    n.bmod (2 ^ w) = n := by
  rw [← BitVec.toInt_ofInt, BitVec.toInt_ofInt_eq_self hw hlo hhi]

/-- The sign takes one bit, so a word with a positive number has two. -/
theorem one_lt_of_toInt_pos (h : 0 < x.toInt) : 1 < w := by
  have hhi := x.toInt_lt
  refine Nat.lt_of_not_le ?_
  intro hw
  rw [Nat.sub_eq_zero_of_le hw] at hhi
  omega

theorem mulSigned?_eq_some (hlo : -2 ^ (w - 1) ≤ x.toInt * y.toInt)
    (hhi : x.toInt * y.toInt < 2 ^ (w - 1)) :
    ∃ z, mulSigned? x y = some z ∧ z.toInt = x.toInt * y.toInt := by
  have hfits : ¬ x.smulOverflow y = true := by
    simp only [BitVec.smulOverflow, Bool.or_eq_true, decide_eq_true_eq]
    omega
  exact ⟨x * y, if_neg hfits, BitVec.toInt_mul_of_not_smulOverflow hfits⟩

theorem resizeSigned?_eq_some_iff {z : BitVec v} (hv : 0 < v) :
    resizeSigned? v x = some z ↔ z.toInt = x.toInt := by
  have hlo := z.le_toInt
  have hhi := z.toInt_lt
  unfold resizeSigned?
  by_cases h : -2 ^ (v - 1) ≤ x.toInt ∧ x.toInt < 2 ^ (v - 1)
  · rw [if_pos h, Option.some.injEq, ← BitVec.toInt_inj, BitVec.toInt_ofInt_eq_self hv h.1 h.2, eq_comm]
  · rw [if_neg h]
    simp only [reduceCtorEq, false_iff]
    omega

theorem resizeSigned?_eq_none_iff :
    resizeSigned? v x = none ↔ x.toInt < -2 ^ (v - 1) ∨ 2 ^ (v - 1) ≤ x.toInt := by
  unfold resizeSigned?
  split
  · simp only [reduceCtorEq, false_iff]
    omega
  · simp only [true_iff]
    omega

theorem unsigned?_eq_some (hlo : 0 ≤ x.toInt) (hhi : x.toInt < 2 ^ v) :
    ∃ z : BitVec v, unsigned? v x = some z ∧ (z.toNat : Int) = x.toInt := by
  have hpow : ((2 ^ v : Nat) : Int) = 2 ^ v := by simp
  refine ⟨BitVec.ofInt v x.toInt, if_pos ⟨hlo, hhi⟩, ?_⟩
  rw [BitVec.toNat_ofInt, hpow, Int.emod_eq_of_lt hlo hhi, Int.toNat_of_nonneg hlo]

/-- Division that cuts off leaves a negative remainder where the quotient of whole numbers is another. -/
theorem srem_slt_zero_iff (hy : 0 < y.toInt) :
    (x.srem y).slt 0 = true ↔ ¬ (0 ≤ x.toInt ∨ y.toInt ∣ x.toInt) := by
  have hlo := Int.emod_nonneg x.toInt (Int.ne_of_gt hy)
  have hhi := Int.emod_lt_of_pos x.toInt hy
  rw [BitVec.slt_iff_toInt_lt, BitVec.toInt_srem, Int.tmod_eq_emod]
  show _ < BitVec.toInt 0#w ↔ _
  rw [BitVec.toInt_zero]
  by_cases hexact : 0 ≤ x.toInt ∨ y.toInt ∣ x.toInt
  · rw [if_pos hexact]
    simp only [hexact, not_true_eq_false, iff_false]
    omega
  · rw [if_neg hexact]
    simp only [hexact, not_false_eq_true, iff_true]
    omega

/-- By a positive number the remainder is the one of whole numbers. -/
theorem toInt_remEuclid (hy : 0 < y.toInt) : (remEuclid x y).toInt = x.toInt % y.toInt := by
  have hpos : BitVec.slt 0 y = true := by simpa [BitVec.slt_iff_toInt_lt] using hy
  have hlo := Int.emod_nonneg x.toInt (Int.ne_of_gt hy)
  have hhi := Int.emod_lt_of_pos x.toInt hy
  have hbound := y.toInt_lt
  unfold remEuclid
  by_cases hexact : 0 ≤ x.toInt ∨ y.toInt ∣ x.toInt
  · rw [if_neg fun h => (srem_slt_zero_iff hy).1 h hexact, BitVec.toInt_srem, Int.tmod_eq_emod,
      if_pos hexact]
    omega
  · rw [if_pos ((srem_slt_zero_iff hy).2 hexact), if_pos hpos, BitVec.toInt_add, BitVec.toInt_srem,
      Int.tmod_eq_emod, if_neg hexact, Int.natAbs_of_nonneg (Int.le_of_lt hy), Int.sub_add_cancel,
      bmod_eq_self (Nat.lt_of_succ_lt (one_lt_of_toInt_pos hy)) (by omega) (by omega)]

/-- By a positive number the quotient is the one of whole numbers. -/
theorem toInt_divEuclid (hy : 0 < y.toInt) : (divEuclid x y).toInt = x.toInt / y.toInt := by
  have hpos : BitVec.slt 0 y = true := by simpa [BitVec.slt_iff_toInt_lt] using hy
  have hw := one_lt_of_toInt_pos hy
  have hpow : (1 : Int) < 2 ^ (w - 1) := Int.lt_of_le_of_lt hy y.toInt_lt
  have hone : (1 : BitVec w).toInt = 1 := BitVec.toInt_one hw
  have hquot : (x.sdiv y).toInt = x.toInt.tdiv y.toInt := by
    refine BitVec.toInt_sdiv_of_ne_or_ne x y (Or.inr ?_)
    intro h
    rw [h, BitVec.toInt_neg, BitVec.toInt_one hw] at hy
    rw [bmod_eq_self (by omega) (by omega) (by omega)] at hy
    omega
  unfold divEuclid
  by_cases hexact : 0 ≤ x.toInt ∨ y.toInt ∣ x.toInt
  · rw [if_neg fun h => (srem_slt_zero_iff hy).1 h hexact, hquot, Int.tdiv_eq_ediv, if_pos hexact,
      Int.add_zero]
  · -- The quotient lies between the number divided and zero.
    have hneg : x.toInt < 0 := by omega
    have hmul : x.toInt * y.toInt ≤ x.toInt * 1 := Int.mul_le_mul_of_nonpos_left (by omega) hy
    have hlo : x.toInt ≤ x.toInt / y.toInt := Int.le_ediv_of_mul_le hy (by omega)
    have hhi : x.toInt / y.toInt < 0 := Int.ediv_neg_of_neg_of_pos hneg hy
    have hbound := x.le_toInt
    rw [if_pos ((srem_slt_zero_iff hy).2 hexact), if_pos hpos, BitVec.toInt_sub, hquot, hone,
      Int.tdiv_eq_ediv, if_neg hexact, Int.sign_eq_one_of_pos hy, Int.add_sub_cancel,
      bmod_eq_self (by omega) (by omega) (by omega)]

end Word

namespace Direction

/-- An amount of 32 bits with the sign of a direction, in 64 bits. -/
def applyInWords : Direction → BitVec 32 → BitVec 64
  | add, amount => amount.setWidth 64
  | subtract, amount => -amount.setWidth 64

theorem toInt_applyInWords (direction : Direction) (amount : BitVec 32) :
    (direction.applyInWords amount).toInt = direction.apply amount.toNat := by
  have hlt := amount.isLt
  have hwide : (amount.setWidth 64).toInt = amount.toNat := by
    rw [BitVec.toInt_setWidth, Word.bmod_eq_self (by decide) (by omega) (by omega)]
  cases direction with
  | add => exact hwide
  | subtract =>
    rw [applyInWords, BitVec.toInt_neg, hwide, Word.bmod_eq_self (by decide) (by omega) (by omega)]
    rfl

end Direction

namespace Date

open Calendar

variable {d : Date}

/-! ## Days -/

/-- The seconds of a span of so many units of some seconds each. There is such a span as far as its
milliseconds have 64 bits too. -/
def span? (unit amount : BitVec 64) : Option (BitVec 64) := do
  let seconds ← Word.mulSigned? amount unit
  let _ ← Word.mulSigned? seconds 1000
  return seconds

/-- The date later by the whole days of a span, whose number is kept in 32 bits. -/
def addSpan? (d : Date) (seconds : BitVec 64) : Option Date := do
  let days ← Word.resizeSigned? 32 (seconds.sdiv 86400)
  d.addDays? days.toInt

/-- There is a span as long as its milliseconds have 64 bits. -/
theorem span?_eq (unit amount : BitVec 64) (hlo : -2 ^ 63 ≤ amount.toInt * unit.toInt * 1000)
    (hhi : amount.toInt * unit.toInt * 1000 < 2 ^ 63) :
    ∃ seconds, span? unit amount = some seconds ∧ seconds.toInt = amount.toInt * unit.toInt := by
  obtain ⟨seconds, hseconds, hvalue⟩ := Word.mulSigned?_eq_some (x := amount) (y := unit)
    (by omega) (by omega)
  have hthousand : (1000 : BitVec 64).toInt = 1000 := by decide
  obtain ⟨milliseconds, hmilliseconds, -⟩ := Word.mulSigned?_eq_some (x := seconds) (y := 1000)
    (by rw [hvalue, hthousand]; omega) (by rw [hvalue, hthousand]; omega)
  refine ⟨seconds, ?_, hvalue⟩
  rw [span?, hseconds]
  show (Word.mulSigned? seconds 1000).bind (fun _ => some seconds) = some seconds
  rw [hmilliseconds, Option.bind_some]

/-- Days that do not fit 32 bits lead out of the calendar. -/
theorem addSpan?_eq {seconds : BitVec 64} {days : Int} (h : seconds.toInt = 86400 * days) :
    d.addSpan? seconds = d.addDays? days := by
  have hday : (86400 : BitVec 64).toInt = 86400 := by decide
  have hdays : (seconds.sdiv 86400).toInt = days := by
    rw [BitVec.toInt_sdiv_of_ne_or_ne _ _ (Or.inr (by decide)), h, hday,
      Int.mul_tdiv_cancel_left _ (by decide)]
  unfold addSpan?
  cases hresize : Word.resizeSigned? 32 (seconds.sdiv 86400) with
  | some word =>
    rw [Word.resizeSigned?_eq_some_iff (by decide), hdays] at hresize
    rw [← hresize]
    rfl
  | none =>
    have hbounds := d.dayNumber_bounds
    rw [Word.resizeSigned?_eq_none_iff, hdays] at hresize
    have hout : d.addDays? days = none := by
      rw [addDays?, ofDayNumber?_eq_none_iff]
      unfold daysBeforeYear minYear maxYear at *
      omega
    rw [hout]
    rfl

/-- A span of days leads as far as these. -/
theorem span?_bind_addSpan? {unit amount : BitVec 64} {days : Int}
    (hdays : amount.toInt * unit.toInt = 86400 * days) (hlo : -2 ^ 36 ≤ days) (hhi : days < 2 ^ 36) :
    (span? unit amount).bind d.addSpan? = d.addDays? days := by
  obtain ⟨seconds, hspan, hseconds⟩ := span?_eq unit amount (by omega) (by omega)
  rw [hspan, Option.bind_some, addSpan?_eq (hseconds.trans hdays)]

/-! ## Months -/

/-- The date some months later, with their number in 64 bits and the year in 32. -/
def addMonthsInWords? (d : Date) (months : BitVec 64) : Option Date := do
  let index := BitVec.ofInt 64 d.year * 12 + BitVec.ofNat 64 (d.month - 1) + months
  let year ← Word.resizeSigned? 32 (Word.divEuclid index 12)
  let month ← Word.unsigned? 32 (Word.remEuclid index 12)
  let month := month + 1
  ofYMD? year.toInt month.toNat (min d.day (daysInMonth year.toInt month.toNat))

/-- The number of the month reached, in words. -/
theorem toInt_monthIndex_add {months : BitVec 64} (hlo : -2 ^ 62 ≤ months.toInt)
    (hhi : months.toInt < 2 ^ 62) :
    (BitVec.ofInt 64 d.year * 12 + BitVec.ofNat 64 (d.month - 1) + months).toInt =
      d.monthIndex + months.toInt := by
  obtain ⟨hyear₁, hyear₂, hmonth₁, hmonth₂, -⟩ := d.isReal
  unfold minYear at hyear₁
  unfold maxYear at hyear₂
  have htwelve : (12 : BitVec 64).toInt = 12 := by decide
  have hyear : (BitVec.ofInt 64 d.year).toInt = d.year :=
    BitVec.toInt_ofInt_eq_self (by decide) (by omega) (by omega)
  have hmonth : (BitVec.ofNat 64 (d.month - 1)).toInt = (d.month - 1 : Nat) := by
    rw [BitVec.toInt_ofNat', Word.bmod_eq_self (by decide) (by omega) (by omega)]
  have hfirst : (BitVec.ofInt 64 d.year * 12).toInt = d.year * 12 := by
    rw [BitVec.toInt_mul, hyear, htwelve, Word.bmod_eq_self (by decide) (by omega) (by omega)]
  have hindex : (BitVec.ofInt 64 d.year * 12 + BitVec.ofNat 64 (d.month - 1)).toInt =
      d.monthIndex := by
    rw [BitVec.toInt_add, hfirst, hmonth, Word.bmod_eq_self (by decide) (by omega) (by omega),
      monthIndex]
  have hbounds : -2 ^ 62 ≤ d.monthIndex ∧ d.monthIndex < 2 ^ 62 := by
    unfold monthIndex
    omega
  rw [BitVec.toInt_add, hindex, Word.bmod_eq_self (by decide) (by omega) (by omega)]

/-- A year that does not fit 32 bits lies out of the calendar. -/
theorem addMonthsInWords?_eq {months : BitVec 64} (hlo : -2 ^ 62 ≤ months.toInt)
    (hhi : months.toInt < 2 ^ 62) : d.addMonthsInWords? months = d.addMonths? months.toInt := by
  have hindex := toInt_monthIndex_add (d := d) hlo hhi
  have htwelve : (12 : BitVec 64).toInt = 12 := by decide
  unfold addMonthsInWords? addMonths?
  generalize BitVec.ofInt 64 d.year * 12 + BitVec.ofNat 64 (d.month - 1) + months = index at hindex
  have hquot : (Word.divEuclid index 12).toInt = (d.monthIndex + months.toInt) / 12 := by
    rw [Word.toInt_divEuclid (by decide), hindex, htwelve]
  have hrem : (Word.remEuclid index 12).toInt = (d.monthIndex + months.toInt) % 12 := by
    rw [Word.toInt_remEuclid (by decide), hindex, htwelve]
  dsimp only
  cases hyear : Word.resizeSigned? 32 (Word.divEuclid index 12) with
  | none =>
    rw [Word.resizeSigned?_eq_none_iff, hquot] at hyear
    symm
    show ofYMD? _ _ _ = none
    rw [ofYMD?_eq_none_iff]
    unfold IsReal minYear maxYear
    omega
  | some year =>
    rw [Word.resizeSigned?_eq_some_iff (by decide), hquot] at hyear
    obtain ⟨month, hmonth, hvalue⟩ := Word.unsigned?_eq_some (x := Word.remEuclid index 12) (v := 32)
      (by omega) (by omega)
    have hnext : (month + 1).toNat = ((d.monthIndex + months.toInt) % 12).toNat + 1 := by
      rw [BitVec.toNat_add_of_lt (by show month.toNat + 1 < _; omega)]
      show month.toNat + 1 = _
      omega
    rw [hmonth]
    show ofYMD? year.toInt (month + 1).toNat _ = _
    rw [hnext, hyear]

end Date

namespace Step

/-- The date that a step leads to, in words: a week has 604800 seconds, a day 86400. -/
def shiftInWords? (direction : Direction) (amount : BitVec 32) (unit : TimeUnit) (d : Date) :
    Option Date :=
  let amount := direction.applyInWords amount
  match unit with
  | .days => (Date.span? 86400 amount).bind d.addSpan?
  | .weeks => (Date.span? 604800 amount).bind d.addSpan?
  | .months => d.addMonthsInWords? amount
  | .years => (Word.mulSigned? amount 12).bind d.addMonthsInWords?

/-- **Words lead where numbers do.** For each amount that 32 bits hold, no conversion between the words
loses a date that the calendar has, and none makes one up. -/
theorem shiftInWords?_eq (direction : Direction) (amount : BitVec 32) (unit : TimeUnit) (d : Date) :
    shiftInWords? direction amount unit d = (Step.mk direction amount.toNat unit).shift? d := by
  have hamount := direction.toInt_applyInWords amount
  have hbounds : -2 ^ 32 < direction.apply amount.toNat ∧ direction.apply amount.toNat < 2 ^ 32 := by
    have hlt := amount.isLt
    cases direction <;> simp only [Direction.apply] <;> omega
  unfold shiftInWords? shift?
  dsimp only
  cases unit with
  | days =>
    refine Date.span?_bind_addSpan? ?_ (by omega) (by omega)
    show _ * (86400 : Int) = _
    omega
  | weeks =>
    refine Date.span?_bind_addSpan? ?_ (by omega) (by omega)
    show _ * (604800 : Int) = _
    omega
  | months =>
    show d.addMonthsInWords? (direction.applyInWords amount) = _
    rw [Date.addMonthsInWords?_eq (by omega) (by omega), hamount]
  | years =>
    have hproduct : (direction.applyInWords amount).toInt * (12 : BitVec 64).toInt =
        direction.apply amount.toNat * 12 := by
      rw [hamount]
      rfl
    obtain ⟨months, hmul, hmonths⟩ := Word.mulSigned?_eq_some (x := direction.applyInWords amount)
      (y := 12) (by omega) (by omega)
    show (Word.mulSigned? _ 12).bind _ = d.addMonths? (12 * direction.apply amount.toNat)
    rw [hmul, Option.bind_some, Date.addMonthsInWords?_eq (by omega) (by omega), hmonths, hproduct,
      Int.mul_comm]

end Step

end DateTemplate
