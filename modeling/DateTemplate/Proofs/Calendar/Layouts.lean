import DateTemplate.Proofs.Calendar.Pieces

set_option autoImplicit false

/-!
# The texts of the two layouts

A date-time as it is spelled, piece by piece. Main statements: `lenient?_eq_some_iff`, the lenient
layout reads the spellings with a `T` and no other text; `strict?_eq_some_iff`, the strict layout reads
the spellings of full width with one of three marks and no other text.
-/

namespace DateTemplate.DateTime

open Decimal

variable {t rest : Text}

/-! ## Pieces of full width -/

/-- A number as a field of full width. -/
def Field.ofNat (n : Nat) (hn : n < 100) : Field :=
  ⟨[], padded 2 n, isBlank_of_mem_nil, fun _ => isDigit_of_mem_padded, by
    rw [length_padded (by decide) hn]
    decide⟩

@[simp] theorem Field.text_ofNat {n : Nat} (hn : n < 100) : (ofNat n hn).text = padded 2 n := rfl

@[simp] theorem Field.value_ofNat {n : Nat} (hn : n < 100) : (ofNat n hn).value = n :=
  ofDigits_padded 2 n

theorem Field.isFull_ofNat {n : Nat} (hn : n < 100) : (ofNat n hn).IsFull :=
  ⟨rfl, length_padded (by decide) hn⟩

/-- A number as a year of full width. -/
def YearField.ofNat (n : Nat) (hn : n < 10000) : YearField :=
  ⟨[], none, padded 4 n, isBlank_of_mem_nil, fun _ => isDigit_of_mem_padded, padded_ne_nil 4 n,
    fun _ => Nat.le_of_eq (length_padded (by decide) hn)⟩

@[simp] theorem YearField.text_ofNat {n : Nat} (hn : n < 10000) :
    (ofNat n hn).text = padded 4 n := rfl

@[simp] theorem YearField.value_ofNat {n : Nat} (hn : n < 10000) : (ofNat n hn).value = n :=
  congrArg Int.ofNat (ofDigits_padded 4 n)

/-- Two digits are a field of full width. -/
theorem twoDigits?_eq_some_iff_isFull {n : Nat} :
    twoDigits? t = some (n, rest) ↔ ∃ f : Field, f.IsFull ∧ t = f.text ++ rest ∧ f.value = n := by
  rw [twoDigits?_eq_some_iff]
  constructor
  · rintro ⟨hn, rfl⟩
    exact ⟨.ofNat n hn, Field.isFull_ofNat hn, rfl, Field.value_ofNat hn⟩
  · rintro ⟨f, ⟨hbefore, hlength⟩, rfl, rfl⟩
    have hlt : f.value < 10 ^ f.digits.length := ofDigits_lt_pow f.isDigit
    have hpadded : padded f.digits.length f.value = f.digits :=
      padded_ofDigits f.digits_ne_nil f.isDigit
    rw [hlength] at hlt hpadded
    exact ⟨hlt, by rw [Field.text, hbefore, hpadded, List.nil_append]⟩

/-- Two digits and two digits are a year of full width. -/
theorem exists_year_of_twoDigits? {high low : Nat} {mid : Text}
    (hhigh : twoDigits? t = some (high, mid)) (hlow : twoDigits? mid = some (low, rest)) :
    ∃ y : YearField, y.IsFull ∧ t = y.text ++ rest ∧ y.value = (high * 100 + low : Nat) := by
  obtain ⟨hhighlt, rfl⟩ := twoDigits?_eq_some_iff.1 hhigh
  obtain ⟨hlowlt, rfl⟩ := twoDigits?_eq_some_iff.1 hlow
  obtain ⟨a, b, hab, ha, hb, hhighValue⟩ := exists_padded_two hhighlt
  obtain ⟨c, d, hcd, hc, hd, hlowValue⟩ := exists_padded_two hlowlt
  refine ⟨⟨[], none, [a, b, c, d], by simp, by simp [ha, hb, hc, hd], by simp, by simp⟩,
    ⟨rfl, rfl, rfl⟩, by rw [hab, hcd]; rfl, congrArg Int.ofNat ?_⟩
  rw [← hhighValue, ← hlowValue]
  simp only [ofDigits, Nat.ofDigitChars_cons, Nat.ofDigitChars_nil]
  omega

/-- A year of full width is read in two halves. -/
theorem twoDigits?_yearText {y : YearField} (hy : y.IsFull) (rest : Text) :
    ∃ high mid low, twoDigits? (y.text ++ rest) = some (high, mid) ∧
      twoDigits? mid = some (low, rest) ∧ ((high * 100 + low : Nat) : Int) = y.value := by
  obtain ⟨hbefore, hsign, hlength⟩ := hy
  have hlt : ofDigits y.digits < 10 ^ y.digits.length := ofDigits_lt_pow y.isDigit
  have hpadded : padded y.digits.length (ofDigits y.digits) = y.digits :=
    padded_ofDigits y.ne_nil y.isDigit
  rw [hlength] at hlt hpadded
  obtain ⟨high, low, mid, hhigh, hlow, hsum⟩ := twoDigits?_year hlt rest
  rw [hpadded] at hhigh
  refine ⟨high, mid, low, ?_, hlow, ?_⟩
  · rw [YearField.text, hbefore, hsign]
    exact hhigh
  · rw [YearField.value, hsign, hsum]
    rfl

/-! ## Marks -/

/-- A mark that parts a date from a time. -/
def IsMark (c : Char) : Prop := c = 'T' ∨ c = 't' ∨ c = ' '

theorem literal?_mark_eq_some_iff :
    (literal? 'T' t <|> literal? 't' t <|> literal? ' ' t) = some rest ↔
      ∃ mark, IsMark mark ∧ t = mark :: rest := by
  simp only [Option.orElse_eq_orElse, Option.orElse_eq_or, Option.or_eq_some_iff,
    literal?_eq_some_iff]
  constructor
  · rintro (rfl | ⟨-, rfl | ⟨-, rfl⟩⟩)
    · exact ⟨'T', Or.inl rfl, rfl⟩
    · exact ⟨'t', Or.inr (Or.inl rfl), rfl⟩
    · exact ⟨' ', Or.inr (Or.inr rfl), rfl⟩
  · rintro ⟨mark, rfl | rfl | rfl, rfl⟩ <;> simp [literal?]

/-! ## Spellings -/

/-- A date-time as it is spelled, up to the mark between date and time. -/
structure Spelled where
  year : YearField
  month : Field
  day : Field
  hour : Field
  minute : Field
  seconds : Option SecondsField
  zone : ZoneField

namespace Spelled

/-- The text of a spelling with a mark between date and time. -/
def text (w : Spelled) (mark : Char) : Text :=
  w.year.text ++ '-' :: (w.month.text ++ '-' :: (w.day.text ++ mark :: (w.hour.text ++
    ':' :: (w.minute.text ++ (SecondsField.text w.seconds ++ w.zone.text)))))

/-- The fields of a spelling. -/
def fields (w : Spelled) : DateTime where
  year := w.year.value
  month := w.month.value
  day := w.day.value
  hour := w.hour.value
  minute := w.minute.value
  second := SecondsField.value w.seconds
  offset := w.zone.ahead

/-- Four digits of the year and two of every other field. -/
structure HasFullWidth (w : Spelled) : Prop where
  year : w.year.IsFull
  month : w.month.IsFull
  day : w.day.IsFull
  hour : w.hour.IsFull
  minute : w.minute.IsFull
  seconds : ∀ s ∈ w.seconds, s.whole.IsFull

/-- A spelling of the strict layout: full width, seconds and a zone. -/
structure IsStrict (w : Spelled) : Prop where
  full : w.HasFullWidth
  seconds : w.seconds.isSome
  zone : w.zone.IsStrict

end Spelled

/-! ## Layouts -/

theorem isDigit_head?_cons {c : Char} (hc : c.isDigit = false) (t : Text) :
    ∀ d ∈ (c :: t).head?, d.isDigit = false := by
  rintro d ⟨⟩
  exact hc

/-- The digits of the minutes end where the seconds or the zone begin. -/
theorem isDigit_head?_seconds (s : Option SecondsField) (ht : EndsSeconds t) :
    ∀ c ∈ (SecondsField.text s ++ t).head?, c.isDigit = false := by
  cases s with
  | none => exact fun c hc => (ht c hc).1
  | some s => exact isDigit_head?_cons (by decide) _

/-- A layout reads the spellings with a `T` whose seconds and whose zone its readers take. -/
theorem layout?_eq_some_iff {readSeconds? : Text → Option (Nat × Text)}
    {readZone? : Text → Option Int} {fields : DateTime} (HasSeconds : Option SecondsField → Prop)
    (HasZone : ZoneField → Prop)
    (hsound : ∀ t n rest, readSeconds? t = some (n, rest) →
      ∃ s, HasSeconds s ∧ t = SecondsField.text s ++ rest ∧ SecondsField.value s = n)
    (hcomplete : ∀ s t, HasSeconds s → EndsSeconds t →
      readSeconds? (SecondsField.text s ++ t) = some (SecondsField.value s, t))
    (hzone : ∀ t n, readZone? t = some n ↔
      ∃ z : ZoneField, z.IsReal ∧ HasZone z ∧ t = z.text ∧ z.ahead = n) :
    layout? readSeconds? readZone? t = some fields ↔
      ∃ w : Spelled, w.zone.IsReal ∧ HasSeconds w.seconds ∧ HasZone w.zone ∧ t = w.text 'T' ∧
        w.fields = fields := by
  unfold layout?
  simp only [Option.bind_eq_bind, Option.bind_eq_some_iff, Prod.exists, literal?_eq_some_iff,
    hzone, Option.pure_def, Option.some.injEq]
  constructor
  · rintro ⟨_, _, hyear, _, rfl, _, _, hmonth, _, rfl, _, _, hday, _, rfl, _, _, hhour, _, rfl,
      _, _, hminute, _, _, hsecond, _, ⟨zone, hreal, hkind, rfl, rfl⟩, rfl⟩
    obtain ⟨year, rfl, rfl⟩ := exists_year_of_year? hyear
    obtain ⟨month, rfl, rfl⟩ := exists_field_of_field? hmonth
    obtain ⟨day, rfl, rfl⟩ := exists_field_of_field? hday
    obtain ⟨hour, rfl, rfl⟩ := exists_field_of_field? hhour
    obtain ⟨minute, rfl, rfl⟩ := exists_field_of_field? hminute
    obtain ⟨seconds, hseconds, rfl, rfl⟩ := hsound _ _ _ hsecond
    exact ⟨⟨year, month, day, hour, minute, seconds, zone⟩, hreal, hseconds, hkind, rfl, rfl⟩
  · rintro ⟨w, hreal, hseconds, hkind, rfl, rfl⟩
    have hminute := isDigit_head?_seconds w.seconds (endsSeconds_zone w.zone)
    exact ⟨_, _, year?_text w.year (isDigit_head?_cons (by decide) _), _, rfl,
      _, _, field?_text w.month (isDigit_head?_cons (by decide) _), _, rfl,
      _, _, field?_text w.day (isDigit_head?_cons (by decide) _), _, rfl,
      _, _, field?_text w.hour (isDigit_head?_cons (by decide) _), _, rfl,
      _, _, field?_text w.minute hminute,
      _, _, hcomplete w.seconds _ hseconds (endsSeconds_zone w.zone), _,
      ⟨w.zone, hreal, hkind, rfl, rfl⟩, rfl⟩

/-- The lenient layout reads the spellings with a `T`. -/
theorem lenient?_eq_some_iff {fields : DateTime} :
    lenient? t = some fields ↔
      ∃ w : Spelled, w.zone.IsReal ∧ t = w.text 'T' ∧ w.fields = fields := by
  rw [lenient?, layout?_eq_some_iff (fun _ => True) (fun _ => True)]
  · simp only [true_and]
  · intro t n rest h
    simpa only [true_and] using exists_seconds_of_seconds? h
  · intro s t _
    exact seconds?_secondsText s
  · intro t n
    simpa only [true_and] using looseZone?_eq_some_iff

/-- The strict layout reads its spellings with one of three marks. -/
theorem strict?_eq_some_iff {fields : DateTime} :
    strict? t = some fields ↔
      ∃ w : Spelled, ∃ mark, w.zone.IsReal ∧ w.IsStrict ∧ IsMark mark ∧ t = w.text mark ∧
        w.fields = fields := by
  unfold strict?
  simp only [Option.bind_eq_bind, Option.bind_eq_some_iff, Prod.exists, literal?_eq_some_iff,
    literal?_mark_eq_some_iff, strictZone?_eq_some_iff, Option.pure_def, Option.some.injEq]
  constructor
  · rintro ⟨y₁, _, hy₁, y₂, _, hy₂, _, rfl, month, _, hmonth, _, rfl, day, _, hday, _,
      ⟨mark, hmark, rfl⟩, hour, _, hhour, _, rfl, minute, _, hminute, _, rfl, second, _, hsecond, _,
      hfraction, _, ⟨zone, hreal, hzone, rfl, rfl⟩, rfl⟩
    obtain ⟨year, hyear, rfl, hvalue⟩ := exists_year_of_twoDigits? hy₁ hy₂
    obtain ⟨month, hmonthFull, rfl, rfl⟩ := twoDigits?_eq_some_iff_isFull.1 hmonth
    obtain ⟨day, hdayFull, rfl, rfl⟩ := twoDigits?_eq_some_iff_isFull.1 hday
    obtain ⟨hour, hhourFull, rfl, rfl⟩ := twoDigits?_eq_some_iff_isFull.1 hhour
    obtain ⟨minute, hminuteFull, rfl, rfl⟩ := twoDigits?_eq_some_iff_isFull.1 hminute
    obtain ⟨second, hsecondFull, rfl, rfl⟩ := twoDigits?_eq_some_iff_isFull.1 hsecond
    obtain ⟨fraction, hdigits, rfl⟩ := exists_fraction_of_fraction? hfraction
    refine ⟨⟨year, month, day, hour, minute, some ⟨second, fraction, hdigits⟩, zone⟩, mark, hreal,
      ⟨⟨hyear, hmonthFull, hdayFull, hhourFull, hminuteFull, by rintro s ⟨⟩; exact hsecondFull⟩, rfl,
        hzone⟩, hmark, ?_, by rw [Spelled.fields, hvalue]; rfl⟩
    simp [Spelled.text, SecondsField.text]
  · rintro ⟨w, mark, hreal, ⟨hfull, hsome, hzone⟩, hmark, rfl, rfl⟩
    obtain ⟨s, hs⟩ := Option.isSome_iff_exists.1 hsome
    have hfields : ∀ {f : Field} {rest : Text}, f.IsFull →
        twoDigits? (f.text ++ rest) = some (f.value, rest) := fun hf =>
      twoDigits?_eq_some_iff_isFull.2 ⟨_, hf, rfl, rfl⟩
    obtain ⟨y₁, mid, y₂, hy₁, hy₂, hvalue⟩ := twoDigits?_yearText hfull.year
      ('-' :: (w.month.text ++ '-' :: (w.day.text ++ mark :: (w.hour.text ++
        ':' :: (w.minute.text ++ (SecondsField.text w.seconds ++ w.zone.text))))))
    refine ⟨_, _, hy₁, _, _, hy₂, _, rfl, _, _, hfields hfull.month, _, rfl, _, _,
      hfields hfull.day, _, ⟨mark, hmark, rfl⟩, _, _, hfields hfull.hour, _, rfl, _, _,
      hfields hfull.minute, s.whole.text ++ (fractionText s.fraction ++ w.zone.text), ?_, _, _,
      hfields (hfull.seconds s hs), _, fraction?_fractionText s.isDigit (endsSeconds_zone w.zone), _,
      ⟨w.zone, hreal, hzone, rfl, rfl⟩, ?_⟩
    · rw [hs]
      simp [SecondsField.text]
    · rw [hvalue, Spelled.fields, hs]
      rfl

end DateTemplate.DateTime
