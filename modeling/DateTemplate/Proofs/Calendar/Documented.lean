import DateTemplate.Proofs.Calendar.PlainDate
import DateTemplate.Proofs.Calendar.Unambiguity

set_option autoImplicit false

/-!
# The documented dates and the others

The documented forms are the plain date and the date-time of full width with a `T`. Both layouts read
more than these: fields of one digit, blanks, a year with a sign or more digits, other marks, and
offsets with a minus sign of typography, blanks or several colons. Main statements:
`isDocumented_text_iff`, which spellings are documented; `read?_and_isDocumented_iff`, which texts are
read as which date, told apart by whether their form is documented.
-/

namespace DateTemplate

namespace DateTime

open Decimal

/-! ## Exact spellings -/

/-- An offset with a plain sign and with one colon or none. -/
structure OffsetField.IsExact (o : OffsetField) : Prop where
  sign : o.sign = '+' ∨ o.sign = '-'
  between : o.between = [] ∨ o.between = [':']

/-- No blanks before the zone, and an exact offset. -/
def ZoneField.IsExact : ZoneField → Prop
  | unnamed => True
  | utc before _ _ => before = []
  | offset before o _ => before = [] ∧ o.IsExact

namespace Spelled

/-- A spelling as it is documented: full width and an exact zone. -/
structure IsExact (w : Spelled) : Prop where
  full : w.HasFullWidth
  zone : w.zone.IsExact

/-- A spelling with its mark that one of the layouts reads. -/
structure IsRead (w : Spelled) (mark : Char) : Prop where
  zone : w.zone.IsReal
  layout : mark = 'T' ∨ IsMark mark ∧ w.IsStrict

/-- A leniency: another mark than `T`, or a piece that is not as documented. -/
def IsLenient (w : Spelled) (mark : Char) : Prop := mark ≠ 'T' ∨ ¬ w.IsExact

theorem IsRead.isMark {w : Spelled} {mark : Char} (h : w.IsRead mark) : IsMark mark :=
  h.layout.elim Or.inl And.left

end Spelled

end DateTime

namespace Date

open DateTime Decimal

variable {t : Text} {d : Date}

/-! ## The documented forms -/

/-- A number of `n` digits. -/
def IsDigits (n : Nat) (t : Text) : Prop := t.length = n ∧ ∀ c ∈ t, c.isDigit = true

/-- Four digits, two digits and two digits, joined by hyphens. -/
def IsPlain (t : Text) : Prop :=
  ∃ y m d, IsDigits 4 y ∧ IsDigits 2 m ∧ IsDigits 2 d ∧ t = y ++ '-' :: (m ++ '-' :: d)

/-- Nothing, or a colon and two digits, with or without a point and the digits of a fraction. -/
def IsSeconds (t : Text) : Prop :=
  t = [] ∨ ∃ s, IsDigits 2 s ∧
    (t = ':' :: s ∨ ∃ f, f ≠ [] ∧ (∀ c ∈ f, c.isDigit = true) ∧ t = ':' :: (s ++ '.' :: f))

/-- Nothing, `Z`, `z`, or a sign and two times two digits, with or without a colon between them. -/
def IsZone (t : Text) : Prop :=
  t = [] ∨ t = ['Z'] ∨ t = ['z'] ∨ ∃ sign h m, (sign = '+' ∨ sign = '-') ∧ IsDigits 2 h ∧
    IsDigits 2 m ∧ (t = sign :: (h ++ m) ∨ t = sign :: (h ++ ':' :: m))

/-- A plain date, a `T`, hours and minutes, and then seconds and a zone where they are given. -/
def IsDateTime (t : Text) : Prop :=
  ∃ date hour minute seconds zone, IsPlain date ∧ IsDigits 2 hour ∧ IsDigits 2 minute ∧
    IsSeconds seconds ∧ IsZone zone ∧
    t = date ++ 'T' :: (hour ++ ':' :: (minute ++ (seconds ++ zone)))

/-- The documented forms of a date. -/
def IsDocumented (t : Text) : Prop := IsPlain t ∨ IsDateTime t

theorem IsPlain.getElem?_seven (h : IsPlain t) : t[7]? = some '-' := by
  obtain ⟨y, m, d, ⟨hy, -⟩, ⟨hm, -⟩, -, rfl⟩ := h
  simp [List.getElem?_append, hy, hm]

/-- A hyphen is the eighth character of a date in a documented form. -/
theorem IsDocumented.getElem?_seven (h : IsDocumented t) : t[7]? = some '-' := by
  rcases h with hplain | ⟨date, _, _, _, _, hplain, -, -, -, -, rfl⟩
  · exact hplain.getElem?_seven
  · have hseven := hplain.getElem?_seven
    rwa [List.getElem?_append_left (List.getElem?_eq_some_iff.1 hseven).1]

/-! ## Documented pieces -/

theorem isDigits_two_iff : IsDigits 2 t ↔ ∃ f : Field, f.IsFull ∧ t = f.text := by
  constructor
  · rintro ⟨hlength, hdigits⟩
    exact ⟨⟨[], t, by simp, hdigits, by omega⟩, ⟨rfl, hlength⟩, rfl⟩
  · rintro ⟨f, ⟨hbefore, hlength⟩, rfl⟩
    rw [Field.text, hbefore]
    exact ⟨hlength, f.isDigit⟩

theorem isDigits_four_iff : IsDigits 4 t ↔ ∃ y : YearField, y.IsFull ∧ t = y.text := by
  constructor
  · rintro ⟨hlength, hdigits⟩
    exact ⟨⟨[], none, t, by simp, hdigits, List.ne_nil_of_length_pos (by omega), by omega⟩,
      ⟨rfl, rfl, hlength⟩, rfl⟩
  · rintro ⟨y, ⟨hbefore, hsign, hlength⟩, rfl⟩
    rw [YearField.text, hbefore, hsign]
    exact ⟨hlength, y.isDigit⟩

theorem isSeconds_iff :
    IsSeconds t ↔
      ∃ s : Option SecondsField, (∀ x ∈ s, x.whole.IsFull) ∧ t = SecondsField.text s := by
  constructor
  · rintro (rfl | ⟨digits, hdigits, rfl | ⟨fraction, hne, hfraction, rfl⟩⟩)
    · exact ⟨none, by simp, rfl⟩
    · obtain ⟨whole, hwhole, rfl⟩ := isDigits_two_iff.1 hdigits
      exact ⟨some ⟨whole, [], by simp⟩, by rintro x ⟨⟩; exact hwhole,
        by simp [SecondsField.text, fractionText]⟩
    · obtain ⟨whole, hwhole, rfl⟩ := isDigits_two_iff.1 hdigits
      exact ⟨some ⟨whole, fraction, hfraction⟩, by rintro x ⟨⟩; exact hwhole,
        by simp [SecondsField.text, fractionText, hne]⟩
  · rintro ⟨s, hs, rfl⟩
    cases s with
    | none => exact Or.inl rfl
    | some s =>
      refine Or.inr ⟨s.whole.text, isDigits_two_iff.2 ⟨s.whole, hs s rfl, rfl⟩, ?_⟩
      by_cases hnil : s.fraction = []
      · exact Or.inl (by simp [SecondsField.text, fractionText, hnil])
      · exact Or.inr ⟨s.fraction, hnil, s.isDigit, by simp [SecondsField.text, fractionText, hnil]⟩

/-- Two digits are those of a number below a hundred. -/
theorem exists_padded_of_isDigits (h : IsDigits 2 t) : ∃ n : Fin 100, padded 2 n = t := by
  obtain ⟨hlength, hdigits⟩ := h
  have hlt : ofDigits t < 10 ^ t.length := ofDigits_lt_pow hdigits
  have hpadded : padded t.length (ofDigits t) = t :=
    padded_ofDigits (List.ne_nil_of_length_pos (by omega)) hdigits
  rw [hlength] at hlt hpadded
  exact ⟨⟨ofDigits t, hlt⟩, hpadded⟩

theorem isDigits_padded (n : Fin 100) : IsDigits 2 (padded 2 n) :=
  ⟨length_padded (by decide) n.isLt, fun _ => isDigit_of_mem_padded⟩

theorem isZone_iff : IsZone t ↔ ∃ z : ZoneField, z.IsExact ∧ t = z.text := by
  constructor
  · rintro (rfl | rfl | rfl | ⟨sign, hours, minutes, hsign, hhours, hminutes, h⟩)
    · exact ⟨.unnamed, trivial, rfl⟩
    · exact ⟨.utc [] true (by simp), rfl, rfl⟩
    · exact ⟨.utc [] false (by simp), rfl, rfl⟩
    · obtain ⟨hours, rfl⟩ := exists_padded_of_isDigits hhours
      obtain ⟨minutes, rfl⟩ := exists_padded_of_isDigits hminutes
      have hoffsetSign : IsOffsetSign sign := hsign.elim Or.inl fun h => Or.inr (Or.inl h)
      rcases h with rfl | rfl
      · exact ⟨.offset [] ⟨sign, hours, [], minutes, hoffsetSign, by simp⟩ (by simp),
          ⟨rfl, hsign, Or.inl rfl⟩, rfl⟩
      · exact ⟨.offset [] ⟨sign, hours, [':'], minutes, hoffsetSign, by simp⟩ (by simp),
          ⟨rfl, hsign, Or.inr rfl⟩, rfl⟩
  · rintro ⟨z, hz, rfl⟩
    cases z with
    | unnamed => exact Or.inl rfl
    | utc before capital hbefore =>
      obtain rfl : before = [] := hz
      cases capital with
      | true => exact Or.inr (Or.inl rfl)
      | false => exact Or.inr (Or.inr (Or.inl rfl))
    | offset before o hbefore =>
      obtain ⟨rfl, hsign, hbetween⟩ := hz
      refine Or.inr (Or.inr (Or.inr ⟨o.sign, padded 2 o.hours, padded 2 o.minutes, hsign,
        isDigits_padded _, isDigits_padded _, ?_⟩))
      rcases hbetween with h | h
      · exact Or.inl (by simp [ZoneField.text, OffsetField.text, h])
      · exact Or.inr (by simp [ZoneField.text, OffsetField.text, h])

theorem isDateTime_iff : IsDateTime t ↔ ∃ w : Spelled, w.IsExact ∧ t = w.text 'T' := by
  constructor
  · rintro ⟨_, _, _, _, _, ⟨_, _, _, hyear, hmonth, hday, rfl⟩, hhour, hminute, hseconds, hzone, rfl⟩
    obtain ⟨year, hyearFull, rfl⟩ := isDigits_four_iff.1 hyear
    obtain ⟨month, hmonthFull, rfl⟩ := isDigits_two_iff.1 hmonth
    obtain ⟨day, hdayFull, rfl⟩ := isDigits_two_iff.1 hday
    obtain ⟨hour, hhourFull, rfl⟩ := isDigits_two_iff.1 hhour
    obtain ⟨minute, hminuteFull, rfl⟩ := isDigits_two_iff.1 hminute
    obtain ⟨seconds, hsecondsFull, rfl⟩ := isSeconds_iff.1 hseconds
    obtain ⟨zone, hzoneExact, rfl⟩ := isZone_iff.1 hzone
    exact ⟨⟨year, month, day, hour, minute, seconds, zone⟩,
      ⟨⟨hyearFull, hmonthFull, hdayFull, hhourFull, hminuteFull, hsecondsFull⟩, hzoneExact⟩,
      by simp [Spelled.text]⟩
  · rintro ⟨w, ⟨hfull, hzone⟩, rfl⟩
    have htwo : ∀ f : Field, f.IsFull → IsDigits 2 f.text := fun f hf =>
      isDigits_two_iff.2 ⟨f, hf, rfl⟩
    exact ⟨_, _, _, _, _,
      ⟨_, _, _, isDigits_four_iff.2 ⟨_, hfull.year, rfl⟩, htwo _ hfull.month, htwo _ hfull.day, rfl⟩,
      htwo _ hfull.hour, htwo _ hfull.minute, isSeconds_iff.2 ⟨_, hfull.seconds, rfl⟩,
      isZone_iff.2 ⟨_, hzone, rfl⟩, by simp [Spelled.text]⟩

/-! ## Documented spellings -/

/-- A plain date has no mark. -/
theorem not_isPlain_text (w : Spelled) {mark : Char} (hmark : IsMark mark) :
    ¬ IsPlain (w.text mark) := by
  rintro ⟨y, m, d, ⟨-, hy⟩, ⟨-, hm⟩, ⟨-, hd⟩, h⟩
  have hmem : mark ∈ w.text mark := by simp [Spelled.text]
  have hdigit := hmark.isDigit_eq_false
  have hhyphen : mark ≠ '-' := by rcases hmark with rfl | rfl | rfl <;> decide
  rw [h] at hmem
  simp only [List.mem_append, List.mem_cons, hhyphen, false_or] at hmem
  rcases hmem with hmem | hmem | hmem
  · exact Bool.eq_false_iff.1 hdigit (hy _ hmem)
  · exact Bool.eq_false_iff.1 hdigit (hm _ hmem)
  · exact Bool.eq_false_iff.1 hdigit (hd _ hmem)

/-- The text of a spelling is documented just if the spelling has no leniency. -/
theorem isDocumented_text_iff {w : Spelled} {mark : Char} (hmark : IsMark mark) :
    IsDocumented (w.text mark) ↔ ¬ w.IsLenient mark := by
  constructor
  · rintro (hplain | hdateTime)
    · exact absurd hplain (not_isPlain_text w hmark)
    · obtain ⟨w', hexact, h⟩ := isDateTime_iff.1 hdateTime
      obtain ⟨rfl, rfl⟩ := Spelled.eq_of_text_eq hmark (Or.inl rfl) h
      rintro (hne | hlenient)
      · exact hne rfl
      · exact hlenient hexact
  · intro h
    obtain ⟨rfl, hexact⟩ : mark = 'T' ∧ w.IsExact := by simpa [Spelled.IsLenient] using h
    exact Or.inr (isDateTime_iff.2 ⟨w, hexact, rfl⟩)

/-! ## What is read -/

/-- A year with a sign is not plain. -/
theorem year_bounds_of_isPlain_text (h : IsPlain d.text) : 0 ≤ d.year ∧ d.year ≤ 9999 := by
  obtain ⟨y, m, d', ⟨hlength, hy⟩, -, -, h⟩ := h
  obtain ⟨c, y, rfl⟩ := List.exists_cons_of_ne_nil (List.ne_nil_of_length_pos (by omega) : y ≠ [])
  have hc : c.isDigit = true := hy c List.mem_cons_self
  unfold text yearText at h
  split at h
  · rw [← (List.cons.inj h).1] at hc
    exact absurd hc (by decide)
  · split at h
    · omega
    · rw [← (List.cons.inj h).1] at hc
      exact absurd hc (by decide)

/-- A plain date is read just if it is the text of the date. -/
theorem ofPlain?_eq_some_iff_text : ofPlain? t = some d ↔ IsPlain t ∧ d.text = t := by
  constructor
  · intro h
    have hshape := h
    unfold ofPlain? at hshape
    split at hshape
    · next y₁ y₂ y₃ y₄ m₁ m₂ d₁ d₂ =>
      obtain ⟨hdigits, -⟩ := (ofPlain?_eq_some_iff ..).1 h
      obtain ⟨hyears, hmonths, hdays⟩ := forall_isDigit_iff.1 hdigits
      exact ⟨⟨[y₁, y₂, y₃, y₄], [m₁, m₂], [d₁, d₂], ⟨rfl, hyears⟩, ⟨rfl, hmonths⟩, ⟨rfl, hdays⟩,
        rfl⟩, text_of_ofPlain? h⟩
    · cases hshape
  · rintro ⟨hplain, rfl⟩
    rw [ofPlain?_text, if_pos (year_bounds_of_isPlain_text hplain)]

/-- The strict layout reads the fields of the one spelling that a text has. -/
theorem eq_fields_of_strict? {w : Spelled} {mark : Char} {fields : DateTime} (hmark : IsMark mark)
    (h : strict? (w.text mark) = some fields) : fields = w.fields := by
  obtain ⟨w', mark', -, -, hmark', htext, rfl⟩ := strict?_eq_some_iff.1 h
  rw [(Spelled.eq_of_text_eq hmark hmark' htext).1]

/-- The spellings that a layout reads are read as the dates of their fields, and no other texts are
read but plain dates. -/
theorem read?_eq_some_iff :
    read? t = some d ↔ (IsPlain t ∧ d.text = t) ∨
      ∃ w : Spelled, ∃ mark, w.IsRead mark ∧ t = w.text mark ∧ w.fields.date? = some d := by
  simp only [read?, Option.orElse_eq_orElse, Option.orElse_eq_or, Option.or_eq_some_iff,
    ofPlain?_eq_some_iff_text, Option.bind_eq_some_iff]
  constructor
  · rintro (hplain | ⟨-, ⟨fields, hfields, hdate⟩ | ⟨-, fields, hfields, hdate⟩⟩)
    · exact Or.inl hplain
    · obtain ⟨w, mark, hreal, hstrict, hmark, rfl, rfl⟩ := strict?_eq_some_iff.1 hfields
      exact Or.inr ⟨w, mark, ⟨hreal, Or.inr ⟨hmark, hstrict⟩⟩, rfl, hdate⟩
    · obtain ⟨w, hreal, rfl, rfl⟩ := lenient?_eq_some_iff.1 hfields
      exact Or.inr ⟨w, 'T', ⟨hreal, Or.inl rfl⟩, rfl, hdate⟩
  · rintro (hplain | ⟨w, mark, hread, rfl, hdate⟩)
    · exact Or.inl hplain
    · have hnone : ofPlain? (w.text mark) = none := by
        refine Option.eq_none_iff_forall_ne_some.2 fun d' hd' => ?_
        exact not_isPlain_text w hread.isMark (ofPlain?_eq_some_iff_text.1 hd').1
      refine Or.inr ⟨hnone, ?_⟩
      cases hstrict : strict? (w.text mark) with
      | some fields =>
        obtain rfl := eq_fields_of_strict? hread.isMark hstrict
        exact Or.inl ⟨w.fields, rfl, hdate⟩
      | none =>
        rcases hread.layout with rfl | ⟨hmark, hlayout⟩
        · exact Or.inr ⟨rfl, w.fields, lenient?_eq_some_iff.2 ⟨w, hread.zone, rfl, rfl⟩, hdate⟩
        · have hsome := strict?_eq_some_iff.2 ⟨w, mark, hread.zone, hlayout, hmark, rfl, rfl⟩
          rw [hstrict] at hsome
          cases hsome

/-- A raw text stands for the date that is read from it. -/
theorem infer_eq_date_iff : Value.infer t = .date d ↔ read? t = some d := by
  unfold Value.infer
  cases read? t with
  | some d' => simp
  | none => cases Binary64.read? (Text.trim t) <;> simp

/-- **What is read as a date, in documented forms and in others.** A raw text stands for the date that
is read from it. In a documented form that is the date whose text it is, or the UTC date of the
fields of an exact spelling. In no documented form a text is still read as a date just if a layout
reads it as a spelling with a leniency: a mark other than `T`, a field that has one digit or blanks
before it, a year with a sign, with blanks or without exactly four digits, blanks before the zone, the
minus sign of typography, or anything but one colon or none within the offset. -/
theorem read?_and_isDocumented_iff (t : Text) (d : Date) :
    (Value.infer t = .date d ↔ read? t = some d) ∧
    (read? t = some d ∧ IsDocumented t ↔ (IsPlain t ∧ d.text = t) ∨
      ∃ w : Spelled, w.zone.IsReal ∧ w.IsExact ∧ t = w.text 'T' ∧ w.fields.date? = some d) ∧
    (read? t = some d ∧ ¬ IsDocumented t ↔
      ∃ w : Spelled, ∃ mark, w.IsRead mark ∧ w.IsLenient mark ∧ t = w.text mark ∧
        w.fields.date? = some d) := by
  refine ⟨infer_eq_date_iff, ?_, ?_⟩
  · rw [read?_eq_some_iff]
    constructor
    · rintro ⟨hplain | ⟨w, mark, hread, rfl, hdate⟩, hdocumented⟩
      · exact Or.inl hplain
      · have hexact := (isDocumented_text_iff hread.isMark).1 hdocumented
        obtain ⟨rfl, hspelling⟩ : mark = 'T' ∧ w.IsExact := by simpa [Spelled.IsLenient] using hexact
        exact Or.inr ⟨w, hread.zone, hspelling, rfl, hdate⟩
    · rintro (hplain | ⟨w, hreal, hexact, rfl, hdate⟩)
      · exact ⟨Or.inl hplain, Or.inl hplain.1⟩
      · exact ⟨Or.inr ⟨w, 'T', ⟨hreal, Or.inl rfl⟩, rfl, hdate⟩,
          Or.inr (isDateTime_iff.2 ⟨w, hexact, rfl⟩)⟩
  · rw [read?_eq_some_iff]
    constructor
    · rintro ⟨hplain | ⟨w, mark, hread, rfl, hdate⟩, hdocumented⟩
      · exact absurd (Or.inl hplain.1) hdocumented
      · rw [isDocumented_text_iff hread.isMark, Classical.not_not] at hdocumented
        exact ⟨w, mark, hread, hdocumented, rfl, hdate⟩
    · rintro ⟨w, mark, hread, hlenient, rfl, hdate⟩
      refine ⟨Or.inr ⟨w, mark, hread, rfl, hdate⟩, ?_⟩
      rw [isDocumented_text_iff hread.isMark, Classical.not_not]
      exact hlenient

/-- Months, days, hours and minutes of one digit are in no documented form and are read as a date. -/
theorem exists_read?_not_isDocumented :
    (∃ d, read? "2026-1-5T1:5".toList = some d) ∧ ¬ IsDocumented "2026-1-5T1:5".toList :=
  ⟨Option.isSome_iff_exists.1 (by decide +kernel), fun h => absurd h.getElem?_seven (by decide)⟩

end Date

end DateTemplate
