import DateTemplate.Proofs.Calendar.Documented
import DateTemplate.Proofs.Calendar.Succession

set_option autoImplicit false

/-!
# Timestamps

A timestamp is a date-time written in full: every field has its width, the seconds, their fraction and
the zone may be missing, and an offset may be written with a colon or without one. Main statements:
`text_spelled` and `fields_spelled`, a timestamp is a spelling that the lenient layout reads;
`exists_date?_fields`, the fields name the written date or a day beside it; `Date.read?_timestamp`,
that is the date of the text, and its day in UTC.
-/

namespace DateTemplate

open Decimal

/-- The end of a timestamp, which tells its zone. Without one the time is that of UTC. -/
inductive Zone where
  | unnamed
  | utc (capital : Bool)
  | offset (direction : Direction) (hours : Fin 24) (minutes : Fin 60) (colon : Bool)

namespace Zone

/-- A zone as it is written. -/
def text : Zone → Text
  | unnamed => []
  | utc capital => [if capital then 'Z' else 'z']
  | offset direction hours minutes colon =>
    direction.symbol :: (padded 2 hours ++ ((if colon then [':'] else []) ++ padded 2 minutes))

/-- The minutes that the clocks of a zone are ahead of UTC. -/
def ahead : Zone → Int
  | unnamed | utc _ => 0
  | offset direction hours minutes _ => direction.apply (hours * 60 + minutes)

/-- An offset is less than a day. -/
theorem ahead_bounds (z : Zone) : -1440 < z.ahead ∧ z.ahead < 1440 := by
  cases z with
  | unnamed => decide
  | utc capital => cases capital <;> decide
  | offset direction hours minutes colon =>
    have hhours := hours.isLt
    have hminutes := minutes.isLt
    cases direction <;> simp only [ahead, Direction.apply] <;> omega

end Zone

/-- The seconds of a timestamp with the digits of their fraction, of which there may be none. -/
structure Seconds where
  whole : Fin 60
  fraction : Text
  isDigit : ∀ c ∈ fraction, c.isDigit = true

/-- Seconds as they are written behind the minutes. -/
def Seconds.text (s : Seconds) : Text :=
  ':' :: (padded 2 s.whole ++ if s.fraction.isEmpty then [] else '.' :: s.fraction)

/-- A date-time that is written with all the digits of its fields. -/
structure Timestamp where
  date : Date
  hasFourDigits : 0 ≤ date.year ∧ date.year ≤ 9999
  hour : Fin 24
  minute : Fin 60
  seconds : Option Seconds
  zone : Zone

namespace Timestamp

/-- A timestamp as it is written. -/
def text (w : Timestamp) : Text :=
  w.date.text ++ 'T' :: (padded 2 w.hour ++ ':' :: (padded 2 w.minute ++
    ((w.seconds.map Seconds.text).getD [] ++ w.zone.text)))

/-- The whole seconds of a timestamp within its minute. -/
def second (w : Timestamp) : Nat := (w.seconds.map fun s => s.whole.val).getD 0

/-- The fields of a timestamp. -/
def fields (w : Timestamp) : DateTime where
  year := w.date.year
  month := w.date.month
  day := w.date.day
  hour := w.hour
  minute := w.minute
  second := w.second
  offset := w.zone.ahead

/-- The time of the day in UTC in minutes, counted from the midnight with which the written date
begins. -/
def minuteUTC (w : Timestamp) : Int := w.hour * 60 + w.minute - w.zone.ahead

/-- The instant of a timestamp in whole seconds, from the midnight with which day 0 begins in UTC. -/
def instant (w : Timestamp) : Int :=
  w.date.dayNumber * 86400 + w.minuteUTC * 60 + w.second

end Timestamp

/-! ## Timestamps are spellings -/

namespace Zone

open DateTime

theorem isOffsetSign_symbol (direction : Direction) : IsOffsetSign direction.symbol := by
  cases direction with
  | add => exact Or.inl rfl
  | subtract => exact Or.inr (Or.inl rfl)

theorem isPart_of_mem_colon (colon : Bool) :
    ∀ c ∈ if colon then [':'] else [], (c == ':' || Text.isBlank c) = true := by
  cases colon <;> simp

theorem hours_lt (hours : Fin 24) : hours.val < 100 := by omega

theorem minutes_lt (minutes : Fin 60) : minutes.val < 100 := by omega

/-- A zone as a piece of a spelling. -/
def field : Zone → ZoneField
  | unnamed => .unnamed
  | utc capital => .utc [] capital isBlank_of_mem_nil
  | offset direction hours minutes colon =>
    .offset [] ⟨direction.symbol, ⟨hours, hours_lt hours⟩, if colon then [':'] else [],
      ⟨minutes, minutes_lt minutes⟩, isOffsetSign_symbol direction, isPart_of_mem_colon colon⟩
      isBlank_of_mem_nil

theorem text_field (z : Zone) : z.field.text = z.text := by cases z <;> rfl

theorem ahead_field (z : Zone) : z.field.ahead = z.ahead := by
  cases z with
  | unnamed => rfl
  | utc capital => rfl
  | offset direction hours minutes colon => cases direction <;> rfl

theorem isReal_field (z : Zone) : z.field.IsReal := by
  cases z with
  | unnamed => trivial
  | utc capital => trivial
  | offset direction hours minutes colon => exact ⟨hours.isLt, minutes.isLt⟩

end Zone

namespace Timestamp

open DateTime

theorem date_bounds (w : Timestamp) :
    w.date.year.natAbs < 10000 ∧ w.date.month < 100 ∧ w.date.day < 100 := by
  obtain ⟨hlo, hhi⟩ := w.hasFourDigits
  obtain ⟨-, -, -, hmonth, -, hday⟩ := w.date.isReal
  have hdays := Calendar.lengthOfMonth_le w.date.year w.date.month
  omega

/-- A timestamp as a spelling. -/
def spelled (w : Timestamp) : Spelled where
  year := .ofNat w.date.year.natAbs w.date_bounds.1
  month := .ofNat w.date.month w.date_bounds.2.1
  day := .ofNat w.date.day w.date_bounds.2.2
  hour := .ofNat w.hour (Zone.hours_lt w.hour)
  minute := .ofNat w.minute (Zone.minutes_lt w.minute)
  seconds := w.seconds.map fun s => ⟨.ofNat s.whole (Zone.minutes_lt s.whole), s.fraction, s.isDigit⟩
  zone := w.zone.field

theorem text_spelled (w : Timestamp) : w.spelled.text 'T' = w.text := by
  obtain ⟨hlo, hhi⟩ := w.hasFourDigits
  have hyear : Date.yearText w.date.year = padded 4 w.date.year.natAbs := by
    rw [Date.yearText, if_neg (by omega), if_pos hhi]
  have hseconds : SecondsField.text w.spelled.seconds = (w.seconds.map Seconds.text).getD [] := by
    rw [spelled]
    cases w.seconds <;> rfl
  rw [Spelled.text, hseconds, text, Date.text, hyear]
  simp [spelled, Zone.text_field]

theorem fields_spelled (w : Timestamp) : w.spelled.fields = w.fields := by
  have hseconds : SecondsField.value w.spelled.seconds = w.second := by
    rw [spelled, second]
    cases w.seconds with
    | none => rfl
    | some s => exact Field.value_ofNat (Zone.minutes_lt s.whole)
  have hyear : (w.date.year.natAbs : Int) = w.date.year := Int.natAbs_of_nonneg w.hasFourDigits.1
  rw [Spelled.fields, hseconds]
  simp [spelled, fields, hyear, Zone.ahead_field]

end Timestamp

namespace Timestamp

/-! ## The day in UTC -/

theorem second_lt (w : Timestamp) : w.second < 60 := by
  unfold second
  cases w.seconds with
  | none => decide
  | some s => exact s.whole.isLt

/-- The date of the fields is as many days from the written date as the time in UTC is. -/
theorem date?_fields (w : Timestamp) :
    w.fields.date? = w.date.addDays? (w.minuteUTC / 1440) := by
  rw [DateTime.date?, if_pos ⟨w.hour.isLt, w.minute.isLt, Nat.le_of_lt w.second_lt⟩]
  simp only [fields, Date.ofYMD?_self, Option.bind_some]
  rfl

/-- The day in UTC is the written one or one beside it, and it exists, as the calendar goes on beyond
the years of four digits. -/
theorem exists_date?_fields (w : Timestamp) :
    ∃ d, w.fields.date? = some d ∧
      (w.minuteUTC < 0 → w.date.prev? = some d) ∧
      (0 ≤ w.minuteUTC → w.minuteUTC < 1440 → d = w.date) ∧
      (1440 ≤ w.minuteUTC → w.date.next? = some d) := by
  have hbounds : -1440 < w.minuteUTC ∧ w.minuteUTC < 2880 := by
    have hahead := w.zone.ahead_bounds
    have hhour := w.hour.isLt
    have hminute := w.minute.isLt
    unfold minuteUTC
    omega
  obtain ⟨hyear₁, hyear₂⟩ := w.hasFourDigits
  rw [date?_fields, Date.addDays?]
  by_cases hbefore : w.minuteUTC < 0
  · have hquotient : w.minuteUTC / 1440 = -1 := by omega
    have hexists : w.date.prev? ≠ none := by
      rw [Ne, Date.prev?_eq_none_iff]
      intro h
      rw [h] at hyear₁
      exact absurd hyear₁ (by decide)
    obtain ⟨d, hd⟩ := Option.ne_none_iff_exists'.1 hexists
    refine ⟨d, ?_, fun _ => hd, by omega, by omega⟩
    rw [hquotient, ← Int.sub_eq_add_neg, ← Date.prev?_eq_ofDayNumber?, hd]
  · by_cases hafter : 1440 ≤ w.minuteUTC
    · have hquotient : w.minuteUTC / 1440 = 1 := by omega
      have hexists : w.date.next? ≠ none := by
        rw [Ne, Date.next?_eq_none_iff]
        intro h
        rw [h] at hyear₂
        exact absurd hyear₂ (by decide)
      obtain ⟨d, hd⟩ := Option.ne_none_iff_exists'.1 hexists
      refine ⟨d, ?_, by omega, by omega, fun _ => hd⟩
      rw [hquotient, ← Date.next?_eq_ofDayNumber?, hd]
    · have hquotient : w.minuteUTC / 1440 = 0 := by omega
      refine ⟨w.date, ?_, by omega, fun _ _ => rfl, by omega⟩
      rw [hquotient, Int.add_zero, Date.ofDayNumber?_dayNumber]

/-- The instant of a timestamp is in the day that its fields name. -/
theorem instant_of_date?_fields {w : Timestamp} {d : Date} (h : w.fields.date? = some d) :
    d.dayNumber * 86400 ≤ w.instant ∧ w.instant < (d.dayNumber + 1) * 86400 := by
  rw [date?_fields, Date.addDays?, Date.ofDayNumber?_eq_some_iff] at h
  have hsecond := w.second_lt
  rw [h, instant]
  omega

end Timestamp

namespace Date

/-- The date of a timestamp is that of its fields. -/
theorem read?_timestamp_eq (w : Timestamp) : Date.read? w.text = w.fields.date? := by
  obtain ⟨d, hdate, -⟩ := w.exists_date?_fields
  rw [hdate]
  refine read?_eq_some_iff.2 (Or.inr ⟨w.spelled, 'T', ⟨w.zone.isReal_field, Or.inl rfl⟩,
    w.text_spelled.symm, ?_⟩)
  rw [w.fields_spelled, hdate]

/-- **A timestamp is read as its date in UTC.** Every date-time of a year of four digits, with its
hours and minutes, with or without seconds, a fraction and a zone, names a date. That is the written
date, or the day before or after it where the offset carries the time of the day over midnight; it is
the day within which the instant lies. -/
theorem read?_timestamp (w : Timestamp) :
    ∃ d, Date.read? w.text = some d ∧
      (w.minuteUTC < 0 → w.date.prev? = some d) ∧
      (0 ≤ w.minuteUTC → w.minuteUTC < 1440 → d = w.date) ∧
      (1440 ≤ w.minuteUTC → w.date.next? = some d) ∧
      d.dayNumber * 86400 ≤ w.instant ∧ w.instant < (d.dayNumber + 1) * 86400 := by
  obtain ⟨d, hdate, hbefore, hsame, hafter⟩ := w.exists_date?_fields
  exact ⟨d, (read?_timestamp_eq w).trans hdate, hbefore, hsame, hafter,
    Timestamp.instant_of_date?_fields hdate⟩

end Date

end DateTemplate
