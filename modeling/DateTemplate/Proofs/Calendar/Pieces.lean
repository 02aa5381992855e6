import DateTemplate.Calendar.Interval
import DateTemplate.Proofs.Calendar.Fields

set_option autoImplicit false

/-!
# The pieces of a date-time

What the readers of the two layouts take, as data that carry what makes them readable: a field of one
or two digits with blanks before it, a year with or without a sign, seconds with a fraction, a zone.
Each reader comes with two statements: it reads the text of a piece, and whatever it reads is the text
of one. Main statements: `exists_field_of_field?`, `exists_year_of_year?`,
`exists_seconds_of_seconds?`, `looseZone?_eq_some_iff` and `strictZone?_eq_some_iff`.
-/

namespace DateTemplate.DateTime

open Decimal

variable {t rest : Text}

/-! ## Characters and numbers -/

/-- A character is taken off where it stands. -/
theorem literal?_eq_some_iff {c : Char} : literal? c t = some rest ↔ t = c :: rest := by
  constructor
  · intro h
    unfold literal? at h
    split at h
    · split at h
      · next heq => rw [heq, Option.some.inj h]
      · cases h
    · cases h
  · rintro rfl
    exact literal?_cons_self c rest

/-- Two digits are the number that they write. -/
theorem twoDigits?_eq_some_iff {n : Nat} :
    twoDigits? t = some (n, rest) ↔ n < 100 ∧ t = padded 2 n ++ rest := by
  constructor
  · intro h
    unfold twoDigits? at h
    split at h
    · next a b rest' =>
      split at h
      · next hdigits =>
        obtain ⟨rfl, rfl⟩ := Prod.mk.inj (Option.some.inj h)
        rw [Bool.and_eq_true] at hdigits
        have hall : ∀ c ∈ [a, b], c.isDigit = true := by simp [hdigits]
        have hlt : ofDigits [a, b] < 10 ^ 2 := ofDigits_lt_pow hall
        have hpadded : padded 2 (ofDigits [a, b]) = [a, b] :=
          padded_ofDigits (List.cons_ne_nil _ _) hall
        exact ⟨hlt, by rw [hpadded]; rfl⟩
      · cases h
    · cases h
  · rintro ⟨hn, rfl⟩
    exact twoDigits?_padded hn rest

/-- A run of digits that fits into its field is read whole. -/
theorem number?_append_of_stops {width : Nat} {ds : Text} (hne : ds ≠ [])
    (hdigits : ∀ c ∈ ds, c.isDigit = true) (hlength : ds.length ≤ width)
    (hstops : ∀ c ∈ t.head?, c.isDigit = false) :
    number? width (ds ++ t) = some (ofDigits ds, t) := by
  have hstops' : ∀ c ∈ (t.take (width - ds.length)).head?, c.isDigit = false := by
    intro c hc
    rw [List.head?_take] at hc
    split at hc
    · cases hc
    · exact hstops c hc
  have htake : ((ds ++ t).take width).takeWhile Char.isDigit = ds := by
    rw [List.take_append, List.take_of_length_le hlength]
    exact (Text.takeWhile_append_of_stops hdigits hstops').1
  have hnil : ds.isEmpty = false := by simpa using hne
  simp [number?, htake, hnil]

theorem exists_append_of_number? {width n : Nat} (h : number? width t = some (n, rest)) :
    ∃ ds : Text, ds ≠ [] ∧ (∀ c ∈ ds, c.isDigit = true) ∧ ds.length ≤ width ∧ ofDigits ds = n ∧
      t = ds ++ rest := by
  unfold number? at h
  simp only at h
  split at h
  · cases h
  · next hne =>
    obtain ⟨rfl, rfl⟩ := Prod.mk.inj (Option.some.inj h)
    have hfront : (t.take width).takeWhile Char.isDigit <+: t :=
      (List.takeWhile_prefix _).trans (List.take_prefix _ _)
    refine ⟨_, by simpa using hne, fun _ hc => List.all_eq_true.1 List.all_takeWhile _ hc, ?_, rfl,
      (List.prefix_iff_eq_append.1 hfront).symm⟩
    exact Nat.le_trans (List.takeWhile_prefix _).length_le (List.length_take_le _ _)

/-! ## Fields -/

/-- A field as it is written: one digit or two, with blanks before them. -/
structure Field where
  before : Text
  digits : Text
  blank : ∀ c ∈ before, Text.isBlank c = true
  isDigit : ∀ c ∈ digits, c.isDigit = true
  length : 1 ≤ digits.length ∧ digits.length ≤ 2

namespace Field

/-- The text of a field. -/
def text (f : Field) : Text := f.before ++ f.digits

/-- The number that a field stands for. -/
def value (f : Field) : Nat := ofDigits f.digits

/-- Two digits and no blanks. -/
def IsFull (f : Field) : Prop := f.before = [] ∧ f.digits.length = 2

theorem digits_ne_nil (f : Field) : f.digits ≠ [] := List.ne_nil_of_length_pos f.length.1

end Field

theorem isBlank_of_mem_nil : ∀ c ∈ ([] : Text), Text.isBlank c = true := List.forall_mem_nil _

/-- Blanks before digits are trimmed off, and no more. -/
theorem trimStart_blanks_append {blanks ds : Text} (hblanks : ∀ c ∈ blanks, Text.isBlank c = true)
    (hne : ds ≠ []) (hdigits : ∀ c ∈ ds, c.isDigit = true) :
    Text.trimStart (blanks ++ (ds ++ t)) = ds ++ t := by
  rw [Text.trimStart, List.dropWhile_append_of_pos hblanks]
  exact trimStart_append hne hdigits t

theorem field?_text (f : Field) (hstops : ∀ c ∈ t.head?, c.isDigit = false) :
    field? (f.text ++ t) = some (f.value, t) := by
  rw [field?, Field.text, List.append_assoc,
    trimStart_blanks_append f.blank f.digits_ne_nil f.isDigit]
  exact number?_append_of_stops f.digits_ne_nil f.isDigit f.length.2 hstops

theorem exists_field_of_field? {n : Nat} (h : field? t = some (n, rest)) :
    ∃ f : Field, t = f.text ++ rest ∧ f.value = n := by
  obtain ⟨blanks, hblanks, htrim⟩ := Text.exists_append_trimStart t
  obtain ⟨ds, hne, hdigits, hlength, hvalue, heq⟩ := exists_append_of_number? h
  refine ⟨⟨blanks, ds, hblanks, hdigits, List.length_pos_iff.2 hne, hlength⟩, ?_, hvalue⟩
  rw [Field.text, List.append_assoc, ← heq, htrim]

/-! ## Years -/

/-- A year as it is written: blanks, a sign and digits, which are at most four where the sign is
missing. -/
structure YearField where
  before : Text
  sign : Option Direction
  digits : Text
  blank : ∀ c ∈ before, Text.isBlank c = true
  isDigit : ∀ c ∈ digits, c.isDigit = true
  ne_nil : digits ≠ []
  length : sign = none → digits.length ≤ 4

namespace YearField

/-- The text of a year. -/
def text (y : YearField) : Text :=
  y.before ++ ((y.sign.map Direction.symbol).toList ++ y.digits)

/-- The year of the calendar. -/
def value (y : YearField) : Int := (y.sign.getD .add).apply (ofDigits y.digits)

/-- Four digits without a sign or blanks. -/
def IsFull (y : YearField) : Prop := y.before = [] ∧ y.sign = none ∧ y.digits.length = 4

end YearField

theorem year?_text (y : YearField) (hstops : ∀ c ∈ t.head?, c.isDigit = false) :
    year? (y.text ++ t) = some (y.value, t) := by
  obtain ⟨before, sign, digits, hblank, hdigits, hne, hlength⟩ := y
  unfold year? YearField.text YearField.value
  cases sign with
  | none =>
    have htrim : Text.trimStart (before ++ (([] : Text) ++ digits) ++ t) = digits ++ t := by
      rw [List.nil_append, List.append_assoc, trimStart_blanks_append hblank hne hdigits]
    have hfront : ∀ c t', digits ++ t = c :: t' → c.isDigit = true := by
      intro c t' heq
      obtain ⟨d, ds, rfl⟩ := List.exists_cons_of_ne_nil hne
      obtain ⟨rfl, -⟩ := List.cons.inj heq
      exact hdigits d List.mem_cons_self
    dsimp only [Option.map_none, Option.toList_none]
    rw [htrim]
    split
    · next heq => exact absurd (hfront _ _ heq) (by decide)
    · next heq => exact absurd (hfront _ _ heq) (by decide)
    · rw [number?_append_of_stops hne hdigits (hlength rfl) hstops]
      rfl
  | some d =>
    have hsymbol : Text.isBlank d.symbol = false := by cases d <;> decide
    have htrim : Text.trimStart (before ++ ([d.symbol] ++ digits) ++ t) =
        d.symbol :: (digits ++ t) := by
      rw [Text.trimStart, List.append_assoc, List.dropWhile_append_of_pos hblank]
      simp [hsymbol]
    have hlong : digits.length ≤ (digits ++ t).length := by simp
    have hnumber := number?_append_of_stops hne hdigits hlong hstops
    dsimp only [Option.map_some, Option.toList_some]
    rw [htrim]
    cases d <;> simp only [Direction.symbol, hnumber, Option.map_some, Option.getD_some,
      Direction.apply]

theorem exists_year_of_year? {n : Int} (h : year? t = some (n, rest)) :
    ∃ y : YearField, t = y.text ++ rest ∧ y.value = n := by
  obtain ⟨blanks, hblanks, htrim⟩ := Text.exists_append_trimStart t
  rw [← htrim]
  unfold year? at h
  split at h
  all_goals
    obtain ⟨⟨n, rest⟩, hnumber, heq⟩ := Option.map_eq_some_iff.1 h
    obtain ⟨rfl, rfl⟩ := Prod.mk.inj heq
    obtain ⟨ds, hne, hdigits, hlength, rfl, happend⟩ := exists_append_of_number? hnumber
  · next heq' =>
    refine ⟨⟨blanks, some .subtract, ds, hblanks, hdigits, hne, by simp⟩, ?_, rfl⟩
    rw [heq', happend]
    simp [YearField.text, Direction.symbol]
  · next heq' =>
    refine ⟨⟨blanks, some .add, ds, hblanks, hdigits, hne, by simp⟩, ?_, rfl⟩
    rw [heq', happend]
    simp [YearField.text, Direction.symbol]
  · refine ⟨⟨blanks, none, ds, hblanks, hdigits, hne, fun _ => hlength⟩, ?_, rfl⟩
    rw [happend]
    simp [YearField.text]

/-! ## Seconds -/

/-- A fraction as it is written; without digits there is no point. -/
def fractionText (digits : Text) : Text := if digits.isEmpty then [] else '.' :: digits

/-- Seconds as they are written, with the digits of their fraction, of which there may be none. -/
structure SecondsField where
  whole : Field
  fraction : Text
  isDigit : ∀ c ∈ fraction, c.isDigit = true

namespace SecondsField

/-- The text of seconds behind the minutes; they may be left out. -/
def text : Option SecondsField → Text
  | none => []
  | some s => ':' :: (s.whole.text ++ fractionText s.fraction)

/-- The number of whole seconds. -/
def value : Option SecondsField → Nat
  | none => 0
  | some s => s.whole.value

end SecondsField

/-- A text behind the seconds of a date-time: it goes on neither them nor their fraction. -/
def EndsSeconds (t : Text) : Prop := ∀ c ∈ t.head?, c.isDigit = false ∧ c ≠ '.' ∧ c ≠ ':'

theorem fraction?_fractionText {digits : Text} (hdigits : ∀ c ∈ digits, c.isDigit = true)
    (ht : EndsSeconds t) : fraction? (fractionText digits ++ t) = some t := by
  unfold fractionText
  cases hempty : digits.isEmpty with
  | true =>
    rw [if_pos rfl, List.nil_append]
    unfold fraction?
    split
    · exact absurd rfl (ht '.' rfl).2.1
    · rfl
  | false =>
    obtain ⟨htake, hdrop⟩ := Text.takeWhile_append_of_stops hdigits fun c hc => (ht c hc).1
    rw [if_neg Bool.false_ne_true, List.cons_append, fraction?, htake, hdrop, hempty,
      if_neg Bool.false_ne_true]

theorem exists_fraction_of_fraction? (h : fraction? t = some rest) :
    ∃ digits : Text, (∀ c ∈ digits, c.isDigit = true) ∧ t = fractionText digits ++ rest := by
  unfold fraction? at h
  split at h
  · next t' =>
    split at h
    · cases h
    · next hne =>
      obtain rfl := Option.some.inj h
      refine ⟨t'.takeWhile Char.isDigit, fun c hc => List.all_eq_true.1 List.all_takeWhile c hc, ?_⟩
      rw [fractionText, if_neg hne, List.cons_append, List.takeWhile_append_dropWhile]
  · obtain rfl := Option.some.inj h
    exact ⟨[], by simp, rfl⟩

theorem seconds?_secondsText (s : Option SecondsField) (ht : EndsSeconds t) :
    seconds? (SecondsField.text s ++ t) = some (SecondsField.value s, t) := by
  cases s with
  | none =>
    unfold SecondsField.text
    rw [List.nil_append]
    unfold seconds?
    split
    · exact absurd rfl (ht ':' rfl).2.2
    · rfl
  | some s =>
    have hstops : ∀ c ∈ (fractionText s.fraction ++ t).head?, c.isDigit = false := by
      intro c hc
      unfold fractionText at hc
      split at hc
      · exact (ht c hc).1
      · obtain rfl := Option.some.inj hc
        decide
    simp only [SecondsField.text, SecondsField.value, List.cons_append, List.append_assoc, seconds?,
      field?_text s.whole hstops, fraction?_fractionText s.isDigit ht, Option.bind_eq_bind,
      Option.bind_some, Option.pure_def]

theorem exists_seconds_of_seconds? {n : Nat} (h : seconds? t = some (n, rest)) :
    ∃ s : Option SecondsField, t = SecondsField.text s ++ rest ∧ SecondsField.value s = n := by
  unfold seconds? at h
  split at h
  · simp only [Option.bind_eq_bind, Option.bind_eq_some_iff, Prod.exists, Option.pure_def,
      Option.some.injEq, Prod.mk.injEq] at h
    obtain ⟨second, left, hfield, rest', hfraction, rfl, rfl⟩ := h
    obtain ⟨whole, rfl, rfl⟩ := exists_field_of_field? hfield
    obtain ⟨fraction, hdigits, rfl⟩ := exists_fraction_of_fraction? hfraction
    exact ⟨some ⟨whole, fraction, hdigits⟩, by simp [SecondsField.text], rfl⟩
  · obtain ⟨rfl, rfl⟩ := Prod.mk.inj (Option.some.inj h)
    exact ⟨none, rfl, rfl⟩

/-! ## Zones -/

/-- A sign of an offset. The minus sign of typography is one. -/
def IsOffsetSign (c : Char) : Prop := c = '+' ∨ c = '-' ∨ c = '\u2212'

/-- The minutes that an offset with a sign stands for. -/
def signedMinutes (sign : Char) (hours minutes : Nat) : Int :=
  if sign = '+' then (hours * 60 + minutes : Nat) else -((hours * 60 + minutes : Nat) : Int)

/-- An offset as it is written: a sign, two digits of hours, colons and blanks, two digits of
minutes. -/
structure OffsetField where
  sign : Char
  hours : Fin 100
  between : Text
  minutes : Fin 100
  isOffsetSign : IsOffsetSign sign
  parts : ∀ c ∈ between, (c == ':' || Text.isBlank c) = true

/-- The text of an offset. -/
def OffsetField.text (o : OffsetField) : Text :=
  o.sign :: (padded 2 o.hours ++ (o.between ++ padded 2 o.minutes))

/-- The end of a date-time as it is written: no zone at all, or blanks and a letter or an offset. -/
inductive ZoneField where
  | unnamed
  | utc (before : Text) (capital : Bool) (blank : ∀ c ∈ before, Text.isBlank c = true)
  | offset (before : Text) (o : OffsetField) (blank : ∀ c ∈ before, Text.isBlank c = true)

namespace ZoneField

/-- The text of a zone. -/
def text : ZoneField → Text
  | unnamed => []
  | utc before capital _ => before ++ [if capital then 'Z' else 'z']
  | offset before o _ => before ++ o.text

/-- The minutes that the clock is ahead of UTC. -/
def ahead : ZoneField → Int
  | unnamed | utc .. => 0
  | offset _ o _ => signedMinutes o.sign o.hours o.minutes

/-- An offset is less than a day, and the minutes in it less than an hour. -/
def IsReal : ZoneField → Prop
  | unnamed | utc .. => True
  | offset _ o _ => o.hours.val < 24 ∧ o.minutes.val < 60

/-- A zone that is given by its offset. -/
def IsOffset : ZoneField → Prop
  | unnamed | utc .. => False
  | offset .. => True

/-- A zone of the strict layout: a letter, or an offset with one colon, without blanks. -/
def IsStrict : ZoneField → Prop
  | unnamed => False
  | utc before _ _ => before = []
  | offset before o _ => before = [] ∧ o.between = [':']

end ZoneField

/-- Neither blanks nor letters nor signs go on the seconds. -/
theorem endsSeconds_zone (z : ZoneField) : EndsSeconds z.text := by
  have hblanks : ∀ {blanks t : Text}, (∀ c ∈ blanks, Text.isBlank c = true) → EndsSeconds t →
      EndsSeconds (blanks ++ t) := by
    intro blanks t hblanks ht c hc
    cases blanks with
    | nil => exact ht c hc
    | cons b blanks =>
      obtain rfl := Option.some.inj hc
      have hb := hblanks b List.mem_cons_self
      refine ⟨?_, ?_, ?_⟩
      · refine Bool.eq_false_iff.2 fun hdigit => ?_
        have hwritten : IsWritten b := Or.inl hdigit
        exact absurd hb (by simp [hwritten.isBlank_eq_false])
      · rintro rfl
        exact absurd hb (by decide)
      · rintro rfl
        exact absurd hb (by decide)
  cases z with
  | unnamed => intro c hc; cases hc
  | utc before capital hbefore =>
    refine hblanks hbefore fun c hc => ?_
    obtain rfl := Option.some.inj hc
    cases capital <;> decide
  | offset before o hbefore =>
    refine hblanks hbefore fun c hc => ?_
    obtain rfl := Option.some.inj hc
    rcases o.isOffsetSign with h | h | h <;> rw [h] <;> decide

theorem offsetSign?_eq_some_iff {negative : Bool} :
    offsetSign? t = some (negative, rest) ↔
      ∃ sign, IsOffsetSign sign ∧ t = sign :: rest ∧ negative = (sign != '+') := by
  constructor
  · intro h
    unfold offsetSign? at h
    split at h
    · obtain ⟨rfl, rfl⟩ := Prod.mk.inj (Option.some.inj h)
      exact ⟨'+', Or.inl rfl, rfl, rfl⟩
    · obtain ⟨rfl, rfl⟩ := Prod.mk.inj (Option.some.inj h)
      exact ⟨'-', Or.inr (Or.inl rfl), rfl, rfl⟩
    · obtain ⟨rfl, rfl⟩ := Prod.mk.inj (Option.some.inj h)
      exact ⟨'\u2212', Or.inr (Or.inr rfl), rfl, rfl⟩
    · cases h
  · rintro ⟨sign, rfl | rfl | rfl, rfl, rfl⟩ <;> rfl

/-- An offset is read where a sign, two digits and two digits behind what `separator` takes make it
up, and where it is less than a day. -/
theorem offset?_eq_some_iff {separator : Text → Option Text} {n : Int} :
    offset? separator t = some n ↔
      ∃ (sign : Char) (hours minutes : Fin 100) (left : Text), IsOffsetSign sign ∧
        (hours.val < 24 ∧ minutes.val < 60) ∧ t = sign :: (padded 2 hours ++ left) ∧
        separator left = some (padded 2 minutes) ∧ n = signedMinutes sign hours minutes := by
  unfold offset?
  simp only [Option.bind_eq_bind, Option.bind_eq_some_iff, Prod.exists, offsetSign?_eq_some_iff,
    twoDigits?_eq_some_iff]
  constructor
  · rintro ⟨_, _, ⟨sign, hsign, rfl, rfl⟩, hours, left, ⟨hhours, rfl⟩, _, hleft, minutes, rest,
      ⟨hminutes, rfl⟩, h⟩
    split at h
    · next hrange =>
      simp only [Bool.and_eq_true, decide_eq_true_eq, List.isEmpty_iff] at hrange
      obtain ⟨⟨rfl, hminutesReal⟩, hhoursReal⟩ := hrange
      obtain rfl := Option.some.inj h
      refine ⟨sign, ⟨hours, hhours⟩, ⟨minutes, hminutes⟩, left, hsign,
        ⟨hhoursReal, hminutesReal⟩, rfl, by rwa [List.append_nil] at hleft, ?_⟩
      unfold signedMinutes
      by_cases hplus : sign = '+' <;> simp [hplus]
    · cases h
  · rintro ⟨sign, hours, minutes, left, hsign, hreal, rfl, hleft, rfl⟩
    refine ⟨_, _, ⟨sign, hsign, rfl, rfl⟩, hours, left, ⟨by omega, rfl⟩, _, hleft, minutes, [],
      ⟨by omega, (List.append_nil _).symm⟩, ?_⟩
    rw [if_pos (by simp [hreal])]
    unfold signedMinutes
    by_cases hplus : sign = '+' <;> simp [hplus]

theorem zone?_eq_some_iff {separator : Text → Option Text} {n : Int} :
    zone? separator t = some n ↔
      (∃ capital : Bool, t = [if capital then 'Z' else 'z'] ∧ n = 0) ∨
        offset? separator t = some n := by
  constructor
  · intro h
    unfold zone? at h
    split at h
    · exact Or.inl ⟨true, rfl, (Option.some.inj h).symm⟩
    · exact Or.inl ⟨false, rfl, (Option.some.inj h).symm⟩
    · exact Or.inr h
  · rintro (⟨capital, rfl, rfl⟩ | h)
    · cases capital <;> rfl
    · unfold zone?
      split
      · cases h
      · cases h
      · exact h

/-- Colons and blanks before two digits are dropped, and no more. -/
theorem looseSeparator?_eq_padded_iff {n : Nat} (hn : n < 100) :
    looseSeparator? t = some (padded 2 n) ↔
      ∃ between : Text, (∀ c ∈ between, (c == ':' || Text.isBlank c) = true) ∧
        t = between ++ padded 2 n := by
  rw [looseSeparator?, Option.some.injEq]
  constructor
  · intro h
    refine ⟨t.takeWhile fun c => c == ':' || Text.isBlank c,
      fun c hc => List.all_eq_true.1 List.all_takeWhile c hc, ?_⟩
    rw [← h, List.takeWhile_append_dropWhile]
  · rintro ⟨between, hbetween, rfl⟩
    obtain ⟨a, b, hpadded, ha, -⟩ := exists_padded_two hn
    have hwritten : IsWritten a := Or.inl ha
    have hcolon : a ≠ ':' := by
      rintro rfl
      exact absurd ha (by decide)
    rw [List.dropWhile_append_of_pos hbetween, hpadded]
    simp [hwritten.isBlank_eq_false, hcolon]

/-- An offset is read behind blanks, with colons and blanks between its hours and minutes. -/
theorem looseOffset?_eq_some_iff {n : Int} :
    offset? looseSeparator? (Text.trimStart t) = some n ↔
      ∃ z : ZoneField, z.IsReal ∧ z.IsOffset ∧ t = z.text ∧ z.ahead = n := by
  constructor
  · intro h
    obtain ⟨blanks, hblanks, htrim⟩ := Text.exists_append_trimStart t
    obtain ⟨sign, hours, minutes, left, hsign, hreal, heq, hleft, rfl⟩ := offset?_eq_some_iff.1 h
    obtain ⟨between, hbetween, rfl⟩ := (looseSeparator?_eq_padded_iff (by omega)).1 hleft
    exact ⟨.offset blanks ⟨sign, hours, between, minutes, hsign, hbetween⟩ hblanks, hreal, trivial,
      by rw [← htrim, heq]; rfl, rfl⟩
  · rintro ⟨z, hreal, hoffset, rfl, rfl⟩
    cases z with
    | unnamed => exact hoffset.elim
    | utc before capital hbefore => exact hoffset.elim
    | offset before o hbefore =>
      have htrim : Text.trimStart (before ++ o.text) = o.text := by
        have hsign : Text.isBlank o.sign = false := by
          rcases o.isOffsetSign with h | h | h <;> rw [h] <;> decide
        rw [Text.trimStart, List.dropWhile_append_of_pos hbefore, OffsetField.text,
          List.dropWhile_cons, hsign, if_neg Bool.false_ne_true]
      rw [ZoneField.text, htrim]
      refine offset?_eq_some_iff.2 ⟨o.sign, o.hours, o.minutes, o.between ++ padded 2 o.minutes,
        o.isOffsetSign, hreal, rfl, ?_, rfl⟩
      exact (looseSeparator?_eq_padded_iff (by omega)).2 ⟨o.between, o.parts, rfl⟩

/-- The lenient layout ends in a zone. -/
theorem looseZone?_eq_some_iff {n : Int} :
    looseZone? t = some n ↔ ∃ z : ZoneField, z.IsReal ∧ t = z.text ∧ z.ahead = n := by
  constructor
  · intro h
    unfold looseZone? at h
    split at h
    · exact ⟨.unnamed, trivial, rfl, Option.some.inj h⟩
    · obtain ⟨blanks, hblanks, htrim⟩ := Text.exists_append_trimStart t
      rcases zone?_eq_some_iff.1 h with ⟨capital, heq, rfl⟩ | hoffset
      · exact ⟨.utc blanks capital hblanks, trivial, by rw [← htrim, heq]; rfl, rfl⟩
      · obtain ⟨z, hreal, -, htext, hahead⟩ := looseOffset?_eq_some_iff.1 hoffset
        exact ⟨z, hreal, htext, hahead⟩
  · rintro ⟨z, hreal, rfl, rfl⟩
    cases z with
    | unnamed => rfl
    | utc before capital hbefore =>
      have htrim : Text.trimStart (before ++ [if capital then 'Z' else 'z']) =
          [if capital then 'Z' else 'z'] := by
        rw [Text.trimStart, List.dropWhile_append_of_pos hbefore]
        cases capital <;> rfl
      rw [ZoneField.text, looseZone?, htrim]
      · exact zone?_eq_some_iff.2 (Or.inl ⟨capital, rfl, rfl⟩)
      · simp
    | offset before o hbefore =>
      rw [looseZone?]
      · exact zone?_eq_some_iff.2
          (Or.inr (looseOffset?_eq_some_iff.2 ⟨.offset before o hbefore, hreal, trivial, rfl, rfl⟩))
      · simp [ZoneField.text, OffsetField.text]

/-- The strict layout ends in one of its zones. -/
theorem strictZone?_eq_some_iff {n : Int} :
    zone? (literal? ':') t = some n ↔
      ∃ z : ZoneField, z.IsReal ∧ z.IsStrict ∧ t = z.text ∧ z.ahead = n := by
  rw [zone?_eq_some_iff, offset?_eq_some_iff]
  constructor
  · rintro (⟨capital, rfl, rfl⟩ | ⟨sign, hours, minutes, left, hsign, hreal, rfl, hleft, rfl⟩)
    · exact ⟨.utc [] capital (by simp), trivial, rfl, rfl, rfl⟩
    · obtain rfl := literal?_eq_some_iff.1 hleft
      exact ⟨.offset [] ⟨sign, hours, [':'], minutes, hsign, by simp⟩ (by simp), hreal, ⟨rfl, rfl⟩,
        rfl, rfl⟩
  · rintro ⟨z, hreal, hstrict, rfl, rfl⟩
    cases z with
    | unnamed => exact hstrict.elim
    | utc before capital hbefore =>
      obtain rfl : before = [] := hstrict
      exact Or.inl ⟨capital, rfl, rfl⟩
    | offset before o hbefore =>
      obtain ⟨rfl, hbetween⟩ := hstrict
      refine Or.inr ⟨o.sign, o.hours, o.minutes, ':' :: padded 2 o.minutes, o.isOffsetSign, hreal,
        ?_, literal?_cons_self ':' _, rfl⟩
      rw [ZoneField.text, OffsetField.text, hbetween]
      rfl

end DateTemplate.DateTime
