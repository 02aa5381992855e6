import DateTemplate.Proofs.Calendar.Layouts

set_option autoImplicit false

/-!
# Reading written dates

A text without the marks that part a date from a time is read as a plain date or not at all, and the
text of a date is a plain date if its year has four digits and no sign. Main statement:
`Date.read?_text`.
-/

namespace DateTemplate

namespace DateTime

section

variable {t : Text}

/-! ## The mark between date and time -/

theorem Field.length_text_pos (f : Field) : 0 < f.text.length := by
  have hlength := f.length.1
  rw [Field.text, List.length_append]
  omega

theorem Field.IsFull.length_text {f : Field} (h : f.IsFull) : f.text.length = 2 := by
  rw [Field.text, h.1, List.nil_append, h.2]

/-- No hyphen is part of a field. -/
theorem Field.hyphen_notMem_text (f : Field) : '-' ∉ f.text := by
  intro h
  rcases List.mem_append.1 h with h | h
  · exact absurd (f.blank _ h) (by decide)
  · exact absurd (f.isDigit _ h) (by decide)

/-- The strict layout has a mark behind ten characters. -/
theorem exists_append_of_strict? {fields : DateTime} (h : strict? t = some fields) :
    ∃ (date : Text) (c : Char) (time : Text), t = date ++ c :: time ∧ date.length = 10 ∧
      IsMark c := by
  obtain ⟨w, mark, -, ⟨⟨hyear, hmonth, hday, -⟩, -⟩, hmark, rfl, -⟩ := strict?_eq_some_iff.1 h
  obtain ⟨hbefore, hsign, hdigits⟩ := hyear
  refine ⟨w.year.text ++ '-' :: (w.month.text ++ '-' :: w.day.text), mark, w.hour.text ++
    ':' :: (w.minute.text ++ (SecondsField.text w.seconds ++ w.zone.text)), by simp [Spelled.text],
    ?_, hmark⟩
  simp [YearField.text, hbefore, hsign, hdigits, hmonth.length_text, hday.length_text]

/-- The lenient layout has a mark behind at least four characters and before at least three that are
no hyphens. -/
theorem exists_append_of_lenient? {fields : DateTime} (h : lenient? t = some fields) :
    ∃ date time rest : Text, t = date ++ 'T' :: (time ++ rest) ∧ 4 ≤ date.length ∧
      3 ≤ time.length ∧ '-' ∉ time := by
  obtain ⟨w, -, rfl, -⟩ := lenient?_eq_some_iff.1 h
  have hlength := Field.length_text_pos
  refine ⟨w.year.text ++ '-' :: (w.month.text ++ '-' :: w.day.text), w.hour.text ++
    ':' :: w.minute.text, SecondsField.text w.seconds ++ w.zone.text, by simp [Spelled.text],
    ?_, ?_, ?_⟩
  · have hmonth := hlength w.month
    have hday := hlength w.day
    simp only [List.length_append, List.length_cons]
    omega
  · have hhour := hlength w.hour
    have hminute := hlength w.minute
    simp only [List.length_append, List.length_cons]
    omega
  · simp [Field.hyphen_notMem_text]

/-- The strict layout has a mark. -/
theorem exists_mark_of_strict? {fields : DateTime} (h : strict? t = some fields) :
    ∃ c ∈ t, IsMark c := by
  obtain ⟨date, c, time, rfl, -, hc⟩ := exists_append_of_strict? h
  exact ⟨c, by simp, hc⟩

/-- The lenient layout has a mark. -/
theorem exists_mark_of_lenient? {fields : DateTime} (h : lenient? t = some fields) :
    ∃ c ∈ t, IsMark c := by
  obtain ⟨date, time, rest, rfl, -⟩ := exists_append_of_lenient? h
  exact ⟨'T', by simp, Or.inl rfl⟩

end

end DateTime

namespace Date

open Decimal

/-- Without a mark only a plain date can be read. -/
theorem read?_of_not_isMark {t : Text} (h : ∀ c ∈ t, ¬ DateTime.IsMark c) :
    read? t = ofPlain? t := by
  have hstrict : DateTime.strict? t = none := by
    refine Option.eq_none_iff_forall_ne_some.2 fun fields hfields => ?_
    obtain ⟨c, hc, hmark⟩ := DateTime.exists_mark_of_strict? hfields
    exact h c hc hmark
  have hlenient : DateTime.lenient? t = none := by
    refine Option.eq_none_iff_forall_ne_some.2 fun fields hfields => ?_
    obtain ⟨c, hc, hmark⟩ := DateTime.exists_mark_of_lenient? hfields
    exact h c hc hmark
  simp [read?, hstrict, hlenient]

theorem read?_of_isWritten {t : Text} (h : ∀ c ∈ t, IsWritten c) : read? t = ofPlain? t := by
  refine read?_of_not_isMark fun c hc => ?_
  rintro (rfl | rfl | rfl) <;> exact absurd (h _ hc) (by decide)

/-! ## The text of a date -/

/-- Four digits, two digits and two digits joined by hyphens are read field by field. -/
theorem ofPlain?_fields {y m d : Text} (hy : y.length = 4) (hm : m.length = 2) (hd : d.length = 2)
    (hydigits : ∀ c ∈ y, c.isDigit = true) (hmdigits : ∀ c ∈ m, c.isDigit = true)
    (hddigits : ∀ c ∈ d, c.isDigit = true) :
    ofPlain? (y ++ '-' :: m ++ '-' :: d) = ofYMD? (ofDigits y) (ofDigits m) (ofDigits d) := by
  match y, m, d, hy, hm, hd with
  | [y₁, y₂, y₃, y₄], [m₁, m₂], [d₁, d₂], _, _, _ => simp_all [ofPlain?]

/-- A date whose year has a sign is not a plain date. -/
theorem ofPlain?_cons_of_not_digit {c : Char} (hc : c.isDigit = false) (t : Text) :
    ofPlain? (c :: t) = none := by
  unfold ofPlain?
  split
  · next heq =>
    obtain rfl := (List.cons.inj heq).1
    simp [hc]
  · rfl

/-- **The text of a date is a plain date just if its year has four digits and no sign.** -/
theorem ofPlain?_text (d : Date) :
    ofPlain? d.text = if 0 ≤ d.year ∧ d.year ≤ 9999 then some d else none := by
  obtain ⟨-, -, -, hmonth, -, hday⟩ := d.isReal
  have hmonthLength : (padded 2 d.month).length = 2 := length_padded (by decide) (by omega)
  have hdayLength : (padded 2 d.day).length = 2 := by
    have hdays := Calendar.lengthOfMonth_le d.year d.month
    exact length_padded (by decide) (by omega)
  unfold text yearText
  by_cases hnegative : d.year < 0
  · have hrange : ¬ (0 ≤ d.year ∧ d.year ≤ 9999) := by omega
    rw [if_pos hnegative, if_neg hrange]
    exact ofPlain?_cons_of_not_digit (by decide) _
  by_cases hlarge : d.year ≤ 9999
  · have hrange : 0 ≤ d.year ∧ d.year ≤ 9999 := by omega
    have hyearLength : (padded 4 d.year.natAbs).length = 4 := length_padded (by decide) (by omega)
    rw [if_neg hnegative, if_pos hlarge, if_pos hrange, ofPlain?_fields hyearLength hmonthLength
      hdayLength (fun _ => isDigit_of_mem_padded) (fun _ => isDigit_of_mem_padded)
      (fun _ => isDigit_of_mem_padded), ofDigits_padded, ofDigits_padded, ofDigits_padded,
      Int.natAbs_of_nonneg hrange.1, ofYMD?_self]
  · have hrange : ¬ (0 ≤ d.year ∧ d.year ≤ 9999) := by omega
    rw [if_neg hnegative, if_neg hlarge, if_neg hrange]
    exact ofPlain?_cons_of_not_digit (by decide) _

theorem read?_text (d : Date) :
    read? d.text = if 0 ≤ d.year ∧ d.year ≤ 9999 then some d else none := by
  rw [read?_of_isWritten fun c => isWritten_of_mem_text, ofPlain?_text]

end Date

end DateTemplate
