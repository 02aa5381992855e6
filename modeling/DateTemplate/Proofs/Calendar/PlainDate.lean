import DateTemplate.Proofs.Calendar.ReadBack

set_option autoImplicit false

/-!
# Plain dates

A text of ten characters with hyphens in the fifth and the eighth place is too short for a date-time,
so it is a plain date or none, whatever the other eight characters are. Main statements:
`read?_eq_ofPlain?`, that; `read?_plain`, the plain dates are the texts of the dates of the years 0 to
9999.
-/

namespace DateTemplate.Date

open Calendar Decimal

variable (y₁ y₂ y₃ y₄ m₁ m₂ d₁ d₂ : Char)

/-! ## No room for a time -/

theorem strict?_plain :
    DateTime.strict? [y₁, y₂, y₃, y₄, '-', m₁, m₂, '-', d₁, d₂] = none := by
  refine Option.eq_none_iff_forall_ne_some.2 ?_
  intro fields h
  obtain ⟨date, c, time, happend, hlength, -⟩ := DateTime.exists_append_of_strict? h
  have htotal := congrArg List.length happend
  simp only [List.length_append, List.length_cons, List.length_nil] at htotal
  omega

theorem lenient?_plain :
    DateTime.lenient? [y₁, y₂, y₃, y₄, '-', m₁, m₂, '-', d₁, d₂] = none := by
  refine Option.eq_none_iff_forall_ne_some.2 ?_
  intro fields h
  obtain ⟨date, time, rest, happend, hdate, htime, hhyphen⟩ :=
    DateTime.exists_append_of_lenient? h
  have htotal := congrArg List.length happend
  simp only [List.length_append, List.length_cons, List.length_nil] at htotal
  -- The second hyphen would be one of the first three characters of the time.
  obtain ⟨k, hk⟩ : ∃ k, 7 - date.length = k + 1 := ⟨6 - date.length, by omega⟩
  have hget : (date ++ 'T' :: (time ++ rest))[7]? = some '-' := by
    rw [← happend]
    rfl
  rw [List.getElem?_append_right (by omega), hk, List.getElem?_cons_succ,
    List.getElem?_append_left (by omega)] at hget
  exact hhyphen (List.mem_of_getElem? hget)

theorem read?_eq_ofPlain? :
    read? [y₁, y₂, y₃, y₄, '-', m₁, m₂, '-', d₁, d₂] =
      ofPlain? [y₁, y₂, y₃, y₄, '-', m₁, m₂, '-', d₁, d₂] := by
  simp [read?, strict?_plain, lenient?_plain]

/-! ## Plain dates -/

/-- The characters beside the hyphens are the digits of a year, a month and a day. -/
theorem ofPlain?_eq_some_iff {d : Date} :
    ofPlain? [y₁, y₂, y₃, y₄, '-', m₁, m₂, '-', d₁, d₂] = some d ↔
      (∀ c ∈ [y₁, y₂, y₃, y₄, m₁, m₂, d₁, d₂], c.isDigit = true) ∧
        d.year = ofDigits [y₁, y₂, y₃, y₄] ∧ d.month = ofDigits [m₁, m₂] ∧
        d.day = ofDigits [d₁, d₂] := by
  rw [ofPlain?, ← List.all_eq_true]
  split
  · next hdigits =>
    rw [ofYMD?_eq_some_iff]
    exact ⟨fun hfields => ⟨hdigits, hfields⟩, fun h => h.2⟩
  · next hdigits => simp [hdigits]

variable {y₁ y₂ y₃ y₄ m₁ m₂ d₁ d₂}

theorem forall_isDigit_iff :
    (∀ c ∈ [y₁, y₂, y₃, y₄, m₁, m₂, d₁, d₂], c.isDigit = true) ↔
      (∀ c ∈ [y₁, y₂, y₃, y₄], c.isDigit = true) ∧ (∀ c ∈ [m₁, m₂], c.isDigit = true) ∧
        ∀ c ∈ [d₁, d₂], c.isDigit = true := by
  simp [and_assoc]

/-- Four digits are the digits of a year that is written without a sign. -/
theorem yearText_ofDigits (h : ∀ c ∈ [y₁, y₂, y₃, y₄], c.isDigit = true) :
    yearText (ofDigits [y₁, y₂, y₃, y₄]) = [y₁, y₂, y₃, y₄] := by
  have hlt : ofDigits [y₁, y₂, y₃, y₄] < 10 ^ 4 := ofDigits_lt_pow h
  rw [yearText, if_neg (by omega), if_pos (by omega), Int.natAbs_natCast]
  exact padded_ofDigits (List.cons_ne_nil _ _) h

theorem text_of_ofPlain? {d : Date}
    (h : ofPlain? [y₁, y₂, y₃, y₄, '-', m₁, m₂, '-', d₁, d₂] = some d) :
    d.text = [y₁, y₂, y₃, y₄, '-', m₁, m₂, '-', d₁, d₂] := by
  obtain ⟨hdigits, hyear, hmonth, hday⟩ := (ofPlain?_eq_some_iff ..).1 h
  obtain ⟨hyears, hmonths, hdays⟩ := forall_isDigit_iff.1 hdigits
  have hmonthText : padded 2 (ofDigits [m₁, m₂]) = [m₁, m₂] :=
    padded_ofDigits (List.cons_ne_nil _ _) hmonths
  have hdayText : padded 2 (ofDigits [d₁, d₂]) = [d₁, d₂] :=
    padded_ofDigits (List.cons_ne_nil _ _) hdays
  rw [text, hyear, hmonth, hday, yearText_ofDigits hyears, hmonthText, hdayText]
  rfl

/-- **The plain dates are the texts of the dates with a year of four digits.** The text of a date is
read as that date, if its year is one of 0 to 9999, and else as none. Four characters, two and two,
joined by hyphens, are read as a date just if all of them are digits from `0` to `9`, not digits of
another script, and the month and the day exist in the year; the date is written as it was read. -/
theorem read?_plain (date : Date) (y₁ y₂ y₃ y₄ m₁ m₂ d₁ d₂ : Char) :
    (read? date.text = if 0 ≤ date.year ∧ date.year ≤ 9999 then some date else none) ∧
    ((∃ d, read? [y₁, y₂, y₃, y₄, '-', m₁, m₂, '-', d₁, d₂] = some d) ↔
      (∀ c ∈ [y₁, y₂, y₃, y₄, m₁, m₂, d₁, d₂], c.isDigit = true) ∧
        1 ≤ ofDigits [m₁, m₂] ∧ ofDigits [m₁, m₂] ≤ 12 ∧ 1 ≤ ofDigits [d₁, d₂] ∧
        ofDigits [d₁, d₂] ≤ daysInMonth (ofDigits [y₁, y₂, y₃, y₄]) (ofDigits [m₁, m₂])) ∧
    ∀ d, read? [y₁, y₂, y₃, y₄, '-', m₁, m₂, '-', d₁, d₂] = some d →
      d.text = [y₁, y₂, y₃, y₄, '-', m₁, m₂, '-', d₁, d₂] := by
  rw [read?_eq_ofPlain?]
  refine ⟨read?_text date, ?_, fun d => text_of_ofPlain?⟩
  simp only [ofPlain?_eq_some_iff, exists_and_left]
  refine and_congr_right fun hdigits => ?_
  constructor
  · rintro ⟨d, hyear, hmonth, hday⟩
    rw [← hyear, ← hmonth, ← hday]
    exact (Date.isReal_iff.1 d.isReal).2.2
  · intro hreal
    have hlt : ofDigits [y₁, y₂, y₃, y₄] < 10 ^ 4 := ofDigits_lt_pow (forall_isDigit_iff.1 hdigits).1
    have hmin : minYear ≤ ofDigits [y₁, y₂, y₃, y₄] := by
      unfold minYear
      omega
    have hmax : (ofDigits [y₁, y₂, y₃, y₄] : Int) ≤ maxYear := by
      unfold maxYear
      omega
    exact ⟨⟨_, _, _, Date.isReal_iff.2 ⟨hmin, hmax, hreal⟩⟩, rfl, rfl, rfl⟩

example : read? "２０２６-01-05".toList = none := by decide +kernel

end DateTemplate.Date
