import DateTemplate.Proofs.Calendar.ReadBack
import DateTemplate.Proofs.Number.ReadBack
import DateTemplate.Proofs.Text.Trim

set_option autoImplicit false

/-!
# Values read from their own text

The text of a value that was inferred is inferred to the same value, save for the dates whose year
does not fit into four digits: they are written with a sign, and such a text stays a text. Main
statement: `Value.infer_toText_infer`.
-/

namespace DateTemplate

/-- There is nothing to trim in the text of a date or of a number. -/
theorem Text.trim_of_isWritten {t : Text} (h : ∀ c ∈ t, IsWritten c) : trim t = t :=
  trim_eq_self (isTrimmed_of_forall fun c hc => (h c hc).isBlank_eq_false)

/-! ## A number is not read as a date -/

/-- Behind the front of a plain date stands a hyphen. -/
theorem Date.mem_tail_of_ofPlain? {t : Text} {d : Date} (h : ofPlain? t = some d) :
    '-' ∈ t.tail := by
  unfold ofPlain? at h
  split at h
  · simp
  · cases h

namespace Binary64

theorem date_read?_write_positional (x : Binary64) : Date.read? (x.write .positional) = none := by
  rw [Date.read?_of_isWritten fun c => isWritten_of_mem_write]
  refine Option.eq_none_iff_forall_ne_some.2 fun d hd => ?_
  have hmem := mem_tail_write_positional (Date.mem_tail_of_ofPlain? hd)
  revert hmem
  decide

end Binary64

/-! ## A date is not read as a number -/

namespace Date

open Decimal

/-- Behind its sign, if there is one, the text of a date has the digits of the year and a hyphen. -/
theorem exists_sign_text (d : Date) :
    ∃ negative rest, Numeral.sign d.text = (negative, padded 4 d.year.natAbs ++ '-' :: rest) := by
  have htext : d.text = yearText d.year ++ '-' :: (padded 2 d.month ++ '-' :: padded 2 d.day) := by
    simp [text]
  rw [htext]
  unfold yearText
  split
  · exact ⟨true, _, rfl⟩
  split
  · have hsign := Numeral.sign_signed false (padded_ne_nil 4 d.year.natAbs)
      (fun _ => isDigit_of_mem_padded) ('-' :: (padded 2 d.month ++ '-' :: padded 2 d.day))
    exact ⟨false, _, hsign⟩
  · exact ⟨false, _, rfl⟩

theorem binary64_read?_text (d : Date) : Binary64.read? d.text = none := by
  obtain ⟨negative, rest, hsign⟩ := d.exists_sign_text
  have hread := Numeral.read?_of_sign hsign (padded_ne_nil 4 _) (fun _ => isDigit_of_mem_padded)
    (fun c hc => by cases hc; rfl) rfl
  rw [Binary64.read?, hread]
  rfl

end Date

/-! ## Inferring twice -/

namespace Value

theorem infer_toText_number (x : Binary64) : infer (number x).toText = number x := by
  simp only [infer, toText, x.date_read?_write_positional,
    Text.trim_of_isWritten fun c => Binary64.isWritten_of_mem_write, x.read?_write_positional]

theorem infer_toText_date (d : Date) :
    infer (date d).toText = if 0 ≤ d.year ∧ d.year ≤ 9999 then date d else text d.text := by
  simp only [infer, toText, d.read?_text, Text.trim_of_isWritten fun c => d.isWritten_of_mem_text,
    d.binary64_read?_text]
  by_cases hrange : 0 ≤ d.year ∧ d.year ≤ 9999
  · simp only [if_pos hrange]
  · simp only [if_neg hrange]

theorem eq_of_infer_eq_text {raw t : Text} (h : infer raw = text t) : t = raw := by
  unfold infer at h
  split at h
  · cases h
  · split at h
    · cases h
    · cases h
      rfl

/-- **Inferring the text of an inferred value changes only dates beyond four-digit years**, and
those become the text that they are written as. -/
theorem infer_toText_infer (raw : Text) :
    infer (infer raw).toText =
      match infer raw with
      | date d => if 0 ≤ d.year ∧ d.year ≤ 9999 then date d else text d.text
      | value => value := by
  cases h : infer raw with
  | date d => exact infer_toText_date d
  | number x => exact infer_toText_number x
  | text t =>
    obtain rfl := eq_of_infer_eq_text h
    exact h

/-- The day before year 10000 in one zone is a date of year 10000 in UTC, and that is read back as a
text. -/
theorem kind_infer_toText_infer_ne :
    (infer (infer "9999-12-31T23:00:00-05:00".toList).toText).kind ≠
      (infer "9999-12-31T23:00:00-05:00".toList).kind := by
  decide +kernel

end Value

end DateTemplate
