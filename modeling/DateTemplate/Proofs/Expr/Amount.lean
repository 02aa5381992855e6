import DateTemplate.Proofs.Expr.Grammar
import DateTemplate.Proofs.Text.Digits
import Mathlib.Algebra.BigOperators.Fin
import Mathlib.Tactic.Ring

set_option autoImplicit false

/-!
# Amounts of any length

The digits of an amount stand for a number however many they are, and that number decides whether the
amount is refused and why. Machine words come to the same: digits read in 64 bits, as far as these hold
their number, and kept in 32. Main statements: `denoted_eq_ofDigits`, the number is the sum of the
digits by their places; `Word.ofDigits?_eq_some_iff`, a word has the number of the digits or none;
`amountInWords_eq`, words decide on an amount as numbers do; `amount_of_digits`, what becomes of a run of
digits in a text where an amount has to come.
-/

namespace DateTemplate

/-! ## The number that digits denote -/

namespace Decimal

/-- The number that digits denote: their sum, each times the power of ten of its place. -/
def denoted (ds : List Char) : Nat :=
  ∑ i : Fin ds.length, (ds[i].toNat - '0'.toNat) * 10 ^ (ds.length - 1 - i)

theorem denoted_cons (c : Char) (ds : List Char) :
    denoted (c :: ds) = (c.toNat - '0'.toNat) * 10 ^ ds.length + denoted ds := by
  have hplace : ∀ i : Fin ds.length, ds.length - (i + 1) = ds.length - 1 - i := by
    intro i
    omega
  simp [denoted, Fin.sum_univ_succ, hplace]

theorem denoted_eq_ofDigits (ds : List Char) : denoted ds = ofDigits ds := by
  induction ds with
  | nil => rfl
  | cons c ds ih =>
    rw [denoted_cons, ih, ofDigits_cons, Nat.mul_comm]
    rfl

end Decimal

/-! ## Numbers in words -/

namespace Word

variable {w v : Nat} {x y z : BitVec w}

/-- The sum of two words, if a word holds it. -/
def add? (x y : BitVec w) : Option (BitVec w) := if x.uaddOverflow y then none else some (x + y)

/-- The product of two words, if a word holds it. -/
def mul? (x y : BitVec w) : Option (BitVec w) := if x.umulOverflow y then none else some (x * y)

/-- The number of a word in a word of another width, if that holds it. -/
def resize? (v : Nat) (x : BitVec w) : Option (BitVec v) :=
  if x.toNat < 2 ^ v then some (x.setWidth v) else none

/-- Reads a digit behind those that a word has the number of. -/
def push? (x : BitVec w) (c : Char) : Option (BitVec w) := do
  add? (← mul? x (BitVec.ofNat w 10)) (BitVec.ofNat w (c.toNat - '0'.toNat))

/-- Reads digits one after the other, as far as a word holds their number. -/
def ofDigits? (w : Nat) (ds : List Char) : Option (BitVec w) := ds.foldlM push? 0

/-- A word that has a number exists just if its bits are enough. -/
theorem exists_toNat_eq_iff {n : Nat} : (∃ x : BitVec w, x.toNat = n) ↔ n < 2 ^ w := by
  constructor
  · rintro ⟨x, rfl⟩
    exact x.isLt
  · intro h
    exact ⟨BitVec.ofNat w n, by rw [BitVec.toNat_ofNat, Nat.mod_eq_of_lt h]⟩

theorem add?_eq_some_iff : add? x y = some z ↔ z.toNat = x.toNat + y.toNat := by
  have hz := z.isLt
  simp only [add?, BitVec.uaddOverflow, decide_eq_true_eq]
  by_cases h : x.toNat + y.toNat < 2 ^ w
  · simp [Nat.not_le.2 h, ← BitVec.toNat_inj, Nat.mod_eq_of_lt h, eq_comm]
  · simp [Nat.not_lt.1 h]
    omega

theorem mul?_eq_some_iff : mul? x y = some z ↔ z.toNat = x.toNat * y.toNat := by
  have hz := z.isLt
  simp only [mul?, BitVec.umulOverflow, decide_eq_true_eq]
  by_cases h : x.toNat * y.toNat < 2 ^ w
  · simp [Nat.not_le.2 h, ← BitVec.toNat_inj, Nat.mod_eq_of_lt h, eq_comm]
  · simp [Nat.not_lt.1 h]
    omega

theorem resize?_eq_some_iff {x : BitVec w} {y : BitVec v} :
    resize? v x = some y ↔ y.toNat = x.toNat := by
  have hy := y.isLt
  unfold resize?
  by_cases h : x.toNat < 2 ^ v
  · simp [h, ← BitVec.toNat_inj, Nat.mod_eq_of_lt h, eq_comm]
  · simp [h]
    omega

/-- In a word of four bits or more the base and each digit have their own numbers. -/
theorem push?_eq_some_iff {c : Char} (hw : 4 ≤ w) (hc : c.isDigit = true) :
    push? x c = some z ↔ z.toNat = x.toNat * 10 + (c.toNat - '0'.toNat) := by
  have hz := z.isLt
  have hpow : 2 ^ 4 ≤ 2 ^ w := Nat.pow_le_pow_right (by decide) hw
  have hten : (BitVec.ofNat w 10).toNat = 10 := by
    rw [BitVec.toNat_ofNat, Nat.mod_eq_of_lt (by omega)]
  have hdigit : (BitVec.ofNat w (c.toNat - '0'.toNat)).toNat = c.toNat - '0'.toNat := by
    have hbounds := Decimal.toNat_bounds_of_isDigit hc
    rw [BitVec.toNat_ofNat, Nat.mod_eq_of_lt]
    show c.toNat - 48 < 2 ^ w
    omega
  simp only [push?, Option.bind_eq_bind, Option.bind_eq_some_iff, mul?_eq_some_iff,
    add?_eq_some_iff, hten, hdigit]
  constructor
  · rintro ⟨y, hy, hsum⟩
    rw [hsum, hy]
  · intro h
    obtain ⟨y, hy⟩ := exists_toNat_eq_iff.2 (show x.toNat * 10 < 2 ^ w by omega)
    exact ⟨y, hy, by rw [h, hy]⟩

theorem foldlM_push?_eq_some_iff (hw : 4 ≤ w) {ds : List Char} (hds : ∀ c ∈ ds, c.isDigit = true) :
    ds.foldlM push? x = some z ↔ z.toNat = 10 ^ ds.length * x.toNat + Decimal.ofDigits ds := by
  induction ds generalizing x with
  | nil => simp [← BitVec.toNat_inj, eq_comm]
  | cons c ds ih =>
    rw [List.forall_mem_cons] at hds
    have hz := z.isLt
    have hvalue : 10 ^ (c :: ds).length * x.toNat + Decimal.ofDigits (c :: ds) =
        10 ^ ds.length * (x.toNat * 10 + (c.toNat - '0'.toNat)) + Decimal.ofDigits ds := by
      rw [Decimal.ofDigits_cons, List.length_cons, Nat.pow_succ]
      show _ = 10 ^ ds.length * (x.toNat * 10 + (c.toNat - 48)) + Decimal.ofDigits ds
      ring
    simp only [List.foldlM_cons, Option.bind_eq_bind, Option.bind_eq_some_iff,
      push?_eq_some_iff hw hds.1, ih hds.2, hvalue]
    constructor
    · rintro ⟨y, hy, hrest⟩
      rw [hrest, hy]
    · intro h
      -- The number so far is no greater than the whole, so a word has it too.
      have hpos : 1 ≤ 10 ^ ds.length := Nat.pow_pos (by decide)
      have hle := Nat.mul_le_mul_right (x.toNat * 10 + (c.toNat - '0'.toNat)) hpos
      obtain ⟨y, hy⟩ := exists_toNat_eq_iff.2
        (show x.toNat * 10 + (c.toNat - '0'.toNat) < 2 ^ w by omega)
      exact ⟨y, hy, by rw [h, hy]⟩

/-- Digits are read as a word just if that has their number. -/
theorem ofDigits?_eq_some_iff (hw : 4 ≤ w) {ds : List Char} (hds : ∀ c ∈ ds, c.isDigit = true) :
    ofDigits? w ds = some z ↔ z.toNat = Decimal.ofDigits ds := by
  rw [ofDigits?, foldlM_push?_eq_some_iff hw hds]
  simp

theorem ofDigits?_eq_none_iff (hw : 4 ≤ w) {ds : List Char} (hds : ∀ c ∈ ds, c.isDigit = true) :
    ofDigits? w ds = none ↔ 2 ^ w ≤ Decimal.ofDigits ds := by
  rw [← Nat.not_lt, ← exists_toNat_eq_iff, Option.eq_none_iff_forall_ne_some]
  simp [ofDigits?_eq_some_iff hw hds]

theorem resize?_eq_none_iff {x : BitVec w} : resize? v x = none ↔ 2 ^ v ≤ x.toNat := by
  simp [resize?]

end Word

/-! ## Amounts -/

namespace Parser

open Token

/-- What becomes of an amount in words: its digits are read in 64 bits, and the number is kept in 32. -/
def amountInWords (max : BitVec 32) (t : Token) : Except SyntaxError (BitVec 32) :=
  match Word.ofDigits? 64 t.text with
  | none => .error (.amountTooLarge t max.toNat)
  | some x =>
    if x = 0 then .error (.nonPositiveAmount t)
    else
      match (Word.resize? 32 x).filter (· ≤ max) with
      | some n => .ok n
      | none => .error (.amountTooLarge t max.toNat)

variable {maxLength : Nat} {limits : Limits} {max : BitVec 32} {t : Token} {rest : Tokens}

/-- What becomes of a number where an amount has to come. -/
theorem amount_cons (hkind : t.kind = .number) :
    amount limits (t :: rest) =
      if Decimal.ofDigits t.text = 0 then .error (.nonPositiveAmount t)
      else if limits.maxAmount < Decimal.ofDigits t.text then
        .error (.amountTooLarge t limits.maxAmount)
      else .ok (Decimal.ofDigits t.text, rest) := by
  have htake : expect .number .amount (t :: rest) = .ok (t, rest) :=
    (expect_eq_ok_iff (by decide)).2 ⟨rfl, hkind⟩
  simp only [amount, htake, bind, Except.bind]

theorem amount_eq_nonPositiveAmount_iff (hkind : t.kind = .number) :
    amount limits (t :: rest) = .error (.nonPositiveAmount t) ↔ Decimal.ofDigits t.text = 0 := by
  rw [amount_cons hkind]
  by_cases hzero : Decimal.ofDigits t.text = 0
  · simp [hzero]
  · simp only [hzero, if_false, iff_false]
    split <;> simp

theorem amount_eq_amountTooLarge_iff (hkind : t.kind = .number) :
    amount limits (t :: rest) = .error (.amountTooLarge t limits.maxAmount) ↔
      limits.maxAmount < Decimal.ofDigits t.text := by
  rw [amount_cons hkind]
  by_cases hzero : Decimal.ofDigits t.text = 0
  · simp [hzero]
  · by_cases hlarge : limits.maxAmount < Decimal.ofDigits t.text <;> simp [hzero, hlarge]

theorem amount_cons_eq_ok_iff (hkind : t.kind = .number) {m : Nat} {left : Tokens} :
    amount limits (t :: rest) = .ok (m, left) ↔
      m = Decimal.ofDigits t.text ∧ 1 ≤ m ∧ m ≤ limits.maxAmount ∧ left = rest := by
  rw [amount_eq_ok_iff]
  constructor
  · rintro ⟨t', hcons, -, hm, hpos, hmax⟩
    obtain ⟨rfl, rfl⟩ := List.cons.inj hcons
    exact ⟨hm.symm, hpos, hmax, rfl⟩
  · rintro ⟨hm, hpos, hmax, rfl⟩
    exact ⟨t, rfl, hkind, hm.symm, hpos, hmax⟩

/-- Words decide on an amount as numbers do: none of them wraps, and none refuses what the limit
allows. -/
theorem amountInWords_eq (hkind : t.kind = .number) (hdigits : ∀ c ∈ t.text, c.isDigit = true) :
    amount ⟨maxLength, max.toNat⟩ (t :: rest) =
      (amountInWords max t).map fun n => (n.toNat, rest) := by
  have hmax := max.isLt
  rw [amount_cons hkind]
  dsimp only
  unfold amountInWords
  cases hread : Word.ofDigits? 64 t.text with
  | none =>
    have hlarge := (Word.ofDigits?_eq_none_iff (by decide) hdigits).1 hread
    rw [if_neg (by omega), if_pos (by omega)]
    rfl
  | some x =>
    have hx := (Word.ofDigits?_eq_some_iff (by decide) hdigits).1 hread
    rw [← hx]
    by_cases hzero : x = 0
    · simp [hzero, Except.map]
    · have hne : x.toNat ≠ 0 := fun h => hzero (BitVec.toNat_inj.1 h)
      simp only [hne, hzero, if_false]
      cases hresize : Word.resize? 32 x with
      | none =>
        have hlarge := Word.resize?_eq_none_iff.1 hresize
        rw [if_pos (by omega)]
        rfl
      | some n =>
        have hn := Word.resize?_eq_some_iff.1 hresize
        rw [← hn]
        by_cases hle : n ≤ max
        · simp [hle, Nat.not_lt.2 (BitVec.le_def.1 hle), Option.filter, Except.map]
        · have hlt : max.toNat < n.toNat := Nat.lt_of_not_le fun h => hle (BitVec.le_def.2 h)
          simp [hle, hlt, Option.filter, Except.map]

/-- **Amounts are judged by their number, however long they are.** Where an amount has to come and a
text goes on with digits, these are one token, whatever their number. It is refused as not positive just
if it denotes zero, even where no amount is allowed at all, and as too large just if it denotes a number
above the limit; otherwise the amount is that number. Words of 64 and of 32 bits give the same for each
limit that 32 bits hold. -/
theorem amount_of_digits (maxLength : Nat) (max : BitVec 32) {offset : Nat} {blanks run back : Text}
    {ts : Tokens} (hblanks : ∀ c ∈ blanks, Text.isBlank c = true) (hne : run ≠ [])
    (hrun : ∀ c ∈ run, c.isDigit = true) (hback : ∀ c ∈ back.head?, c.isDigit = false)
    (hscan : scan offset (blanks ++ (run ++ back)) = .ok ts) :
    let limits : Limits := ⟨maxLength, max.toNat⟩
    let t : Token := ⟨.number, run, offset + blanks.length⟩
    let n := Decimal.denoted run
    ∃ rest, ts = t :: rest ∧
      (amount limits ts = .error (.nonPositiveAmount t) ↔ n = 0) ∧
      (amount limits ts = .error (.amountTooLarge t max.toNat) ↔ max.toNat < n) ∧
      (∀ m left, amount limits ts = .ok (m, left) ↔
        m = n ∧ 1 ≤ m ∧ m ≤ max.toNat ∧ left = rest) ∧
      amount limits ts = (amountInWords max t).map fun m => (m.toNat, rest) := by
  intro limits t n
  have hstops : TokenKind.number.Stops back := hback
  rw [scan_blanks_append hblanks,
    scan_run_append (TokenKind.isRun_number_iff.2 ⟨hne, hrun⟩) hstops] at hscan
  cases hrest : scan (offset + blanks.length + run.length) back with
  | error stray =>
    rw [hrest] at hscan
    cases hscan
  | ok rest =>
    rw [hrest] at hscan
    obtain rfl : t :: rest = ts := Except.ok.inj hscan
    have hn : Decimal.ofDigits t.text = n := (Decimal.denoted_eq_ofDigits run).symm
    rw [← hn]
    exact ⟨rest, rfl, amount_eq_nonPositiveAmount_iff rfl, amount_eq_amountTooLarge_iff rfl,
      fun m left => amount_cons_eq_ok_iff rfl, amountInWords_eq rfl hrun⟩

/-- One more than 64 bits hold is too large, though its last 64 bits are those of one; zeros in front do
not make the greatest number of 32 bits too large; and zeros alone are not positive even where the limit
is zero. -/
theorem amount_of_digits_beyond_words :
    amount ⟨200, 10000⟩ [⟨.number, "18446744073709551617".toList, 8⟩, endAt 28] =
      .error (.amountTooLarge ⟨.number, "18446744073709551617".toList, 8⟩ 10000) ∧
    amount ⟨200, 4294967295⟩ [⟨.number, "00000000000000004294967295".toList, 8⟩, endAt 34] =
      .ok (4294967295, [endAt 34]) ∧
    amount ⟨200, 0⟩ [⟨.number, "0000000000000000000000".toList, 8⟩, endAt 30] =
      .error (.nonPositiveAmount ⟨.number, "0000000000000000000000".toList, 8⟩) := by
  have hblanks : ∀ c ∈ [' '], Text.isBlank c = true := List.forall_mem_singleton.2 rfl
  have hscan : ∀ run : Text, ∀ ts, scan 7 ([' '] ++ (run ++ [])) = .ok ts → run ≠ [] →
      run.all Char.isDigit = true → ∀ max : BitVec 32, _ := fun run ts hts hne hrun max =>
    amount_of_digits 200 max hblanks hne (List.all_eq_true.1 hrun) (by simp) hts
  obtain ⟨rest, hts, -, hlarge, -, -⟩ := hscan "18446744073709551617".toList
    [⟨.number, "18446744073709551617".toList, 8⟩, endAt 28] (by decide +kernel) (by decide)
    (by decide) 10000
  obtain ⟨rest', hts', -, -, hok, -⟩ := hscan "00000000000000004294967295".toList
    [⟨.number, "00000000000000004294967295".toList, 8⟩, endAt 34] (by decide +kernel) (by decide)
    (by decide) 4294967295
  obtain ⟨rest'', hts'', hzero, -, -, -⟩ := hscan "0000000000000000000000".toList
    [⟨.number, "0000000000000000000000".toList, 8⟩, endAt 30] (by decide +kernel) (by decide)
    (by decide) 0
  obtain rfl := (List.cons.inj hts').2
  exact ⟨hlarge.2 (by decide +kernel), (hok _ _).2 ⟨by decide +kernel, by decide, by decide, rfl⟩,
    hzero.2 (by decide +kernel)⟩

end Parser

end DateTemplate
