import DateTemplate.Number.Width
import DateTemplate.Proofs.Number.Whole
import DateTemplate.Proofs.Value.NormalForm

set_option autoImplicit false

/-!
# Integers as values

The digits of an integer are read as the number nearest to it, and that number is written as the
digits of an integer again. Main statement: `Value.infer_signed`, what is lost on the way.
-/

namespace DateTemplate

open Decimal

theorem isWritten_of_mem_signed {n : Int} {c : Char} (h : c ∈ signed n) : IsWritten c := by
  unfold signed at h
  split at h
  · rcases List.mem_cons.1 h with rfl | h
    · decide
    · exact Or.inl (isDigit_of_mem_digits h)
  · exact Or.inl (isDigit_of_mem_digits h)

namespace Date

/-- No hyphen stands behind the front of an integer. -/
theorem read?_signed (n : Int) : read? (signed n) = none := by
  rw [read?_of_isWritten fun c => isWritten_of_mem_signed]
  refine Option.eq_none_iff_forall_ne_some.2 fun d hd => ?_
  have hmem := mem_tail_of_ofPlain? hd
  have hdigit : ('-').isDigit = true := by
    unfold signed at hmem
    split at hmem
    · exact isDigit_of_mem_digits hmem
    · exact isDigit_of_mem_digits (List.mem_of_mem_tail hmem)
  exact absurd hdigit (by decide)

end Date

namespace Binary64

/-- The digits of an integer denote the integer. -/
theorem read?_signed (n : Int) :
    read? (signed n) = ofScientific? (decide (n < 0)) n.natAbs 0 := by
  have hread := @read?_append (decide (n < 0)) (digits n.natAbs) [] [] (digits_ne_nil _)
    (fun _ => isDigit_of_mem_digits) (by simp) rfl
  simpa [signed] using hread

end Binary64

namespace Value

/-- The value of the digits of an integer is the number nearest to it. -/
theorem infer_signed_of_ofScientific? {n : Int} {x : Binary64}
    (h : Binary64.ofScientific? (decide (n < 0)) n.natAbs 0 = some x) :
    infer (signed n) = number x := by
  have htrim : Text.trim (signed n) = signed n :=
    Text.trim_of_isWritten fun c => isWritten_of_mem_signed
  simp only [infer, Date.read?_signed, htrim, Binary64.read?_signed, h]

theorem natAbs_lt_of_holdsSigned {n : Int} (h : Width.holdsSigned 64 n = true) :
    n.natAbs < 2 ^ 64 := by
  unfold Width.holdsSigned at h
  simp only [Nat.pow_eq] at h
  split at h
  · have := of_decide_eq_true h
    omega
  · have := of_decide_eq_true h
    omega

/-- **What an integer keeps as a value.** The digits of an integer of 64 bits are inferred as a
number, and its text is the digits of an integer again, which are inferred as the same number. The
two integers are apart by at most their shares of `2 ^ -53`, and they are one up to `2 ^ 53`. -/
theorem infer_signed (n : Int) (h : Width.holdsSigned 64 n = true) :
    ∃ (x : Binary64) (m : Int), infer (signed n) = number x ∧ (number x).toText = signed m ∧
      infer (signed m) = number x ∧ 2 ^ 53 * (m - n).natAbs ≤ m.natAbs + n.natAbs ∧
      (n.natAbs ≤ 2 ^ 53 → m = n) := by
  by_cases hzero : n = 0
  · subst hzero
    exact ⟨Binary64.zero false, 0, by decide +kernel, by decide +kernel, by decide +kernel, by simp,
      fun _ => rfl⟩
  · have hpos : 0 < n.natAbs := Int.natAbs_pos.2 hzero
    have hlt := natAbs_lt_of_holdsSigned h
    obtain ⟨x, hx⟩ := Binary64.exists_nearest?_one (decide (n < 0)) hpos (by decide) hlt
    obtain ⟨m, hm, hwrite, hlow, hhigh, hexact⟩ := Binary64.exists_write_of_nearest? hpos hx
    have hten : n.natAbs < 10 ^ 20 := Nat.lt_of_lt_of_le hlt (by decide)
    have hinfer : infer (signed n) = number x := by
      refine infer_signed_of_ofScientific? ?_
      rw [Binary64.ofScientific?_eq_nearest?_one _ hpos (by decide) hten, hx]
    obtain ⟨k, htext, hk, hsign⟩ :
        ∃ k : Int, (number x).toText = signed k ∧ k.natAbs = m ∧ (k < 0 ↔ n < 0) := by
      rw [toText, hwrite]
      by_cases hnegative : n < 0
      · have hk : -(m : Int) < 0 := by omega
        refine ⟨-m, ?_, by omega, by omega⟩
        rw [decide_eq_true hnegative, if_pos rfl, signed, if_pos hk, Int.natAbs_neg,
          Int.natAbs_natCast]
      · have hk : ¬ (m : Int) < 0 := by omega
        refine ⟨m, ?_, by omega, by omega⟩
        rw [decide_eq_false hnegative, if_neg Bool.false_ne_true, signed, if_neg hk,
          Int.natAbs_natCast]
    refine ⟨x, k, hinfer, htext, ?_, by omega, fun hsmall => ?_⟩
    · rw [← htext]
      exact infer_toText_number x
    · have hequal := hexact hsmall
      omega

/-- The first integer that a mantissa does not hold. -/
theorem infer_signed_beyond_mantissa :
    Width.holdsSigned 64 9007199254740993 = true ∧
      ∃ (x : Binary64) (m : Int), infer (signed 9007199254740993) = number x ∧
        (number x).toText = signed m ∧ infer (signed m) = number x ∧
        2 ^ 53 * (m - 9007199254740993).natAbs ≤ m.natAbs + (9007199254740993 : Int).natAbs ∧
        ((9007199254740993 : Int).natAbs ≤ 2 ^ 53 → m = 9007199254740993) :=
  ⟨by decide, infer_signed 9007199254740993 (by decide)⟩

/-- It is lost. -/
theorem toText_infer_signed_ne :
    Width.holdsSigned 64 9007199254740993 = true ∧
      (infer (signed 9007199254740993)).toText ≠ signed 9007199254740993 := by
  decide +kernel

end Value

end DateTemplate
