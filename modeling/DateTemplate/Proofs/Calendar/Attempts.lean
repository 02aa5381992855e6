import DateTemplate.Proofs.Calendar.Documented

set_option autoImplicit false

/-!
# The layouts one after the other

The lenient layout stands for six that are tried in turn: four with an offset, before which a last `Z`
is rewritten to `+00:00`, and two without, for which the text is left as it is. Main statements:
`Layout.read?_eq_some_iff`, the spellings that one of the layouts reads; `attempts?_eq`, the attempts
come to the date of the lenient layout; `Date.read?_eq_attempts`, a date is read by attempts in their
order.
-/

namespace DateTemplate

namespace DateTime

open Decimal

variable {t : Text}

/-! ## Layouts -/

/-- The ways to write an offset: `+02:00` and `+0200`. -/
inductive OffsetStyle where
  | extended
  | basic
deriving DecidableEq

/-- An offset at the end of a text. However it is to be written, it is read with colons and blanks in any
number between hours and minutes, and with blanks before it. -/
def OffsetStyle.read? : OffsetStyle → Text → Option Int
  | extended, t | basic, t => offset? looseSeparator? (Text.trimStart t)

/-- A layout with or without seconds, and with an offset or without. -/
structure Layout where
  hasSeconds : Bool
  offset : Option OffsetStyle
deriving DecidableEq

/-- The layouts with an offset, in the order in which they are tried. -/
def zonedLayouts : List Layout :=
  [⟨true, some .extended⟩, ⟨true, some .basic⟩, ⟨false, some .extended⟩, ⟨false, some .basic⟩]

/-- The layouts without an offset, in the order in which they are tried. -/
def naiveLayouts : List Layout := [⟨true, none⟩, ⟨false, none⟩]

namespace Layout

/-- The seconds of a layout, with a fraction or without one. -/
def seconds? (l : Layout) (t : Text) : Option (Nat × Text) :=
  if l.hasSeconds then do
    let t ← literal? ':' t
    let (second, t) ← field? t
    return (second, ← fraction? t)
  else some (0, t)

/-- The end of a layout: an offset or nothing. -/
def zone? (l : Layout) (t : Text) : Option Int :=
  match l.offset with
  | some style => style.read? t
  | none => if t = [] then some 0 else none

/-- The fields of a text in a layout. -/
def read? (l : Layout) (t : Text) : Option DateTime := layout? l.seconds? l.zone? t

/-- The date by the first of some layouts in which a text is a date-time. -/
def first? (layouts : List Layout) (t : Text) : Option Date :=
  layouts.findSome? fun l => (l.read? t).bind date?

end Layout

/-- A last `Z` or `z` is rewritten to an offset. -/
def numericZone (t : Text) : Text :=
  if t.getLast? = some 'Z' ∨ t.getLast? = some 'z' then t.dropLast ++ "+00:00".toList else t

/-- The attempts to read a date-time: first with an offset, then without one. -/
def attempts? (t : Text) : Option Date :=
  Layout.first? zonedLayouts (numericZone t) <|> Layout.first? naiveLayouts t

/-! ## The spellings of a layout -/

namespace Layout

variable {l : Layout}

/-- Seconds that a layout has. -/
def HasSeconds (l : Layout) (s : Option SecondsField) : Prop := s.isSome = l.hasSeconds

/-- A zone that a layout ends in. -/
def HasZone (l : Layout) (z : ZoneField) : Prop :=
  match l.offset with
  | some _ => z.IsOffset
  | none => z = .unnamed

theorem exists_seconds_of_seconds? {n : Nat} {rest : Text} (h : l.seconds? t = some (n, rest)) :
    ∃ s, l.HasSeconds s ∧ t = SecondsField.text s ++ rest ∧ SecondsField.value s = n := by
  unfold seconds? at h
  by_cases hseconds : l.hasSeconds = true
  · simp only [hseconds, if_true, Option.bind_eq_bind, Option.bind_eq_some_iff, Prod.exists,
      Option.pure_def, Option.some.injEq, Prod.mk.injEq, literal?_eq_some_iff] at h
    obtain ⟨_, rfl, second, left, hfield, rest', hfraction, rfl, rfl⟩ := h
    obtain ⟨whole, rfl, rfl⟩ := exists_field_of_field? hfield
    obtain ⟨fraction, hdigits, rfl⟩ := exists_fraction_of_fraction? hfraction
    exact ⟨some ⟨whole, fraction, hdigits⟩, hseconds.symm, by simp [SecondsField.text], rfl⟩
  · rw [if_neg hseconds] at h
    obtain ⟨rfl, rfl⟩ := Prod.mk.inj (Option.some.inj h)
    exact ⟨none, (Bool.eq_false_iff.2 hseconds).symm, rfl, rfl⟩

theorem seconds?_secondsText {s : Option SecondsField} (hs : l.HasSeconds s) (ht : EndsSeconds t) :
    l.seconds? (SecondsField.text s ++ t) = some (SecondsField.value s, t) := by
  unfold seconds?
  rw [← show s.isSome = l.hasSeconds from hs]
  cases s with
  | none => rfl
  | some s => exact DateTime.seconds?_secondsText (some s) ht

theorem zone?_eq_some_iff {n : Int} :
    l.zone? t = some n ↔ ∃ z : ZoneField, z.IsReal ∧ l.HasZone z ∧ t = z.text ∧ z.ahead = n := by
  unfold zone? HasZone
  cases l.offset with
  | some style => cases style <;> exact looseOffset?_eq_some_iff
  | none =>
    simp only [Option.ite_none_right_eq_some, Option.some.injEq]
    constructor
    · rintro ⟨rfl, rfl⟩
      exact ⟨.unnamed, trivial, rfl, rfl, rfl⟩
    · rintro ⟨z, -, rfl, rfl, rfl⟩
      exact ⟨rfl, rfl⟩

/-- A layout reads the spellings with a `T` that have its seconds and its kind of zone. -/
theorem read?_eq_some_iff {fields : DateTime} :
    l.read? t = some fields ↔
      ∃ w : Spelled, w.zone.IsReal ∧ l.HasSeconds w.seconds ∧ l.HasZone w.zone ∧ t = w.text 'T' ∧
        w.fields = fields := by
  rw [read?, layout?_eq_some_iff l.HasSeconds l.HasZone]
  · intro t n rest
    exact exists_seconds_of_seconds?
  · intro s t hs
    exact seconds?_secondsText hs
  · intro t n
    exact zone?_eq_some_iff

end Layout

/-! ## Rewriting a last letter -/

namespace Spelled

/-- The text of a spelling without its zone. -/
def front (w : Spelled) : Text := w.year.text ++ '-' :: (w.month.text ++ '-' :: (w.day.text ++
  'T' :: (w.hour.text ++ ':' :: (w.minute.text ++ SecondsField.text w.seconds))))

theorem text_eq_front_append (w : Spelled) : w.text 'T' = w.front ++ w.zone.text := by
  simp [text, front]

end Spelled

/-- The offset that stands for a last letter. -/
def OffsetField.utc : OffsetField := ⟨'+', 0, [':'], 0, Or.inl rfl, by simp⟩

theorem OffsetField.text_utc : OffsetField.utc.text = "+00:00".toList := rfl

theorem numericZone_append_letter (x : Text) (capital : Bool) :
    numericZone (x ++ [if capital then 'Z' else 'z']) = x ++ OffsetField.utc.text := by
  rw [OffsetField.text_utc]
  cases capital <;> simp [numericZone]

/-- A text that ends in a letter and one that does not. -/
theorem numericZone_cases (t : Text) :
    (∃ x, ∃ capital : Bool, t = x ++ [if capital then 'Z' else 'z'] ∧
      numericZone t = x ++ OffsetField.utc.text) ∨ numericZone t = t := by
  by_cases hletter : t.getLast? = some 'Z' ∨ t.getLast? = some 'z'
  · obtain ⟨capital, hlast⟩ : ∃ capital : Bool, t.getLast? = some (if capital then 'Z' else 'z') := by
      rcases hletter with h | h
      · exact ⟨true, h⟩
      · exact ⟨false, h⟩
    obtain ⟨x, rfl⟩ := List.getLast?_eq_some_iff.1 hlast
    exact Or.inl ⟨x, capital, rfl, numericZone_append_letter x capital⟩
  · exact Or.inr (if_neg hletter)

/-- An offset ends in a digit. -/
theorem OffsetField.exists_text_eq (o : OffsetField) :
    ∃ a b c d : Char, o.text = o.sign :: a :: b :: (o.between ++ [c, d]) ∧ b.isDigit = true ∧
      d.isDigit = true := by
  obtain ⟨a, b, hhours, -, hb, -⟩ := exists_padded_two o.hours.isLt
  obtain ⟨c, d, hminutes, -, hd, -⟩ := exists_padded_two o.minutes.isLt
  exact ⟨a, b, c, d, by rw [text, hhours, hminutes]; rfl, hb, hd⟩

/-- A text ends in the offset of a last letter in one way. -/
theorem OffsetField.eq_utc_of_append_eq {o : OffsetField} {x y : Text}
    (h : x ++ o.text = y ++ utc.text) : x = y ∧ o = utc := by
  have hfront : x = y := by
    obtain ⟨a, b, c, d, htext, hb, -⟩ := o.exists_text_eq
    have hparts : ∀ p ∈ o.between.reverse, (p == ':' || Text.isBlank p) = true := by
      simpa using o.parts
    -- Read from the end, what stands between hours and minutes is one colon.
    have hreverse : d :: c :: (o.between.reverse ++ b :: a :: o.sign :: x.reverse) =
        '0' :: '0' :: ':' :: '0' :: '0' :: '+' :: y.reverse := by
      rw [htext, text_utc] at h
      simpa using congrArg List.reverse h
    cases hbetween : o.between.reverse with
    | nil =>
      simp only [hbetween, List.nil_append, List.cons.injEq] at hreverse
      obtain ⟨-, -, rfl, -⟩ := hreverse
      exact absurd hb (by decide)
    | cons p rest =>
      cases rest with
      | nil =>
        simp only [hbetween, List.cons_append, List.nil_append, List.cons.injEq] at hreverse
        exact List.reverse_inj.1 hreverse.2.2.2.2.2.2
      | cons q rest =>
        simp only [hbetween, List.cons_append, List.cons.injEq] at hreverse
        obtain ⟨-, -, -, rfl, -⟩ := hreverse
        have hzero := hparts '0' (by simp [hbetween])
        exact absurd hzero (by decide)
  rw [hfront] at h
  exact ⟨hfront, eq_of_text_eq (List.append_cancel_left h)⟩

/-- Behind an offset nothing is rewritten. -/
theorem numericZone_append_offset (x : Text) (o : OffsetField) :
    numericZone (x ++ o.text) = x ++ o.text := by
  obtain ⟨a, b, c, d, htext, -, hd⟩ := o.exists_text_eq
  have hlast : (x ++ o.text).getLast? = some d := by
    have hsnoc : x ++ o.text = (x ++ o.sign :: a :: b :: (o.between ++ [c])) ++ [d] := by simp [htext]
    rw [hsnoc, List.getLast?_concat]
  have hletter : ¬ (some d = some 'Z' ∨ some d = some 'z') := by
    intro h
    rcases h with h | h
    all_goals
      rw [Option.some.inj h] at hd
      exact absurd hd (by decide)
  rw [numericZone, hlast, if_neg hletter]

/-! ## The attempts -/

variable {fields : DateTime} {l : Layout}

/-- What a layout with an offset reads behind the rewriting, the lenient layout reads before it. -/
theorem lenient?_of_zoned (hl : l ∈ zonedLayouts) (h : l.read? (numericZone t) = some fields) :
    lenient? t = some fields := by
  obtain ⟨style, hstyle⟩ : ∃ style, l.offset = some style := by
    simp only [zonedLayouts, List.mem_cons, List.not_mem_nil, or_false] at hl
    rcases hl with rfl | rfl | rfl | rfl <;> exact ⟨_, rfl⟩
  obtain ⟨w, hreal, -, hzone, htext, rfl⟩ := Layout.read?_eq_some_iff.1 h
  rw [Layout.HasZone, hstyle] at hzone
  rw [lenient?_eq_some_iff]
  rcases numericZone_cases t with ⟨x, capital, rfl, hnumeric⟩ | hsame
  · obtain ⟨year, month, day, hour, minute, seconds, zone⟩ := w
    cases zone with
    | unnamed => exact hzone.elim
    | utc before capital hbefore => exact hzone.elim
    | offset before o hbefore =>
      rw [hnumeric, Spelled.text_eq_front_append, ZoneField.text, ← List.append_assoc] at htext
      obtain ⟨hx, rfl⟩ := OffsetField.eq_utc_of_append_eq htext.symm
      refine ⟨⟨year, month, day, hour, minute, seconds, .utc before capital hbefore⟩, trivial, ?_, rfl⟩
      rw [Spelled.text_eq_front_append, ZoneField.text, ← List.append_assoc, ← hx]
      rfl
  · exact ⟨w, hreal, by rw [← hsame, htext], rfl⟩

/-- What a layout without an offset reads, the lenient layout reads. -/
theorem lenient?_of_naive (h : l.read? t = some fields) : lenient? t = some fields := by
  obtain ⟨w, hreal, -, -, htext, hfields⟩ := Layout.read?_eq_some_iff.1 h
  exact lenient?_eq_some_iff.2 ⟨w, hreal, htext, hfields⟩

/-- What the lenient layout reads, one of the layouts reads. -/
theorem exists_layout_of_lenient? (h : lenient? t = some fields) :
    (∃ l ∈ zonedLayouts, l.read? (numericZone t) = some fields) ∨
      ∃ l ∈ naiveLayouts, l.read? t = some fields := by
  obtain ⟨w, hreal, rfl, rfl⟩ := lenient?_eq_some_iff.1 h
  have hzoned : ∀ hasSeconds, (⟨hasSeconds, some .extended⟩ : Layout) ∈ zonedLayouts := by decide
  have hnaive : ∀ hasSeconds, (⟨hasSeconds, none⟩ : Layout) ∈ naiveLayouts := by decide
  obtain ⟨year, month, day, hour, minute, seconds, zone⟩ := w
  cases zone with
  | unnamed =>
    refine Or.inr ⟨⟨seconds.isSome, none⟩, hnaive _, Layout.read?_eq_some_iff.2 ?_⟩
    exact ⟨_, hreal, rfl, rfl, rfl, rfl⟩
  | utc before capital hbefore =>
    refine Or.inl ⟨⟨seconds.isSome, some .extended⟩, hzoned _, Layout.read?_eq_some_iff.2 ?_⟩
    have hutc : OffsetField.utc.hours.val < 24 ∧ OffsetField.utc.minutes.val < 60 := by decide
    refine ⟨⟨year, month, day, hour, minute, seconds, .offset before .utc hbefore⟩, hutc, rfl, trivial,
      ?_, rfl⟩
    rw [Spelled.text_eq_front_append, Spelled.text_eq_front_append, ZoneField.text, ZoneField.text,
      ← List.append_assoc, ← List.append_assoc, numericZone_append_letter]
    rfl
  | offset before o hbefore =>
    refine Or.inl ⟨⟨seconds.isSome, some .extended⟩, hzoned _, Layout.read?_eq_some_iff.2 ?_⟩
    refine ⟨⟨year, month, day, hour, minute, seconds, .offset before o hbefore⟩, hreal, rfl, trivial,
      ?_, rfl⟩
    rw [Spelled.text_eq_front_append, ZoneField.text, ← List.append_assoc, numericZone_append_offset]

namespace Layout

variable {layouts : List Layout}

theorem first?_cons (l : Layout) (layouts : List Layout) (t : Text) :
    first? (l :: layouts) t = ((l.read? t).bind date? <|> first? layouts t) := by
  simp only [first?, List.findSome?_cons]
  cases (l.read? t).bind date? <;> rfl

/-- Layouts that read no other fields come to the date of these or to none. -/
theorem first?_eq_or (h : ∀ l ∈ layouts, ∀ fields', l.read? t = some fields' → fields' = fields) :
    first? layouts t = none ∨ first? layouts t = fields.date? := by
  induction layouts with
  | nil => exact Or.inl rfl
  | cons l layouts ih =>
    have hrest := ih fun l hl => h l (List.mem_cons_of_mem _ hl)
    rw [first?_cons]
    cases hread : l.read? t with
    | none => exact hrest
    | some fields' =>
      rw [h l List.mem_cons_self fields' hread, Option.bind_some]
      rcases hrest with hrest | hrest <;> rw [hrest] <;> simp

/-- Layouts of which one reads the fields, and none others, come to the date of these. -/
theorem first?_eq (h : ∀ l ∈ layouts, ∀ fields', l.read? t = some fields' → fields' = fields)
    (hread : ∃ l ∈ layouts, l.read? t = some fields) : first? layouts t = fields.date? := by
  induction layouts with
  | nil =>
    obtain ⟨l, hl, -⟩ := hread
    exact absurd hl List.not_mem_nil
  | cons l layouts ih =>
    have hothers : ∀ l ∈ layouts, ∀ fields', l.read? t = some fields' → fields' = fields :=
      fun l hl => h l (List.mem_cons_of_mem _ hl)
    rw [first?_cons]
    cases hfirst : l.read? t with
    | none =>
      obtain ⟨l', hl', hread'⟩ := hread
      rcases List.mem_cons.1 hl' with rfl | hl'
      · rw [hfirst] at hread'
        cases hread'
      · exact ih hothers ⟨l', hl', hread'⟩
    | some fields' =>
      rw [h l List.mem_cons_self fields' hfirst, Option.bind_some]
      rcases first?_eq_or hothers with hrest | hrest <;> rw [hrest] <;> simp

theorem first?_eq_none (h : ∀ l ∈ layouts, l.read? t = none) : first? layouts t = none := by
  refine List.findSome?_eq_none_iff.2 ?_
  intro l hl
  rw [h l hl, Option.bind_none]

end Layout

/-- **The lenient layout comes to the date that the attempts come to.** Four layouts with an offset are
tried on the text in which a last `Z` is rewritten, and then two without one on the text as it is; the
first that has a date has the date of the lenient layout. -/
theorem attempts?_eq (t : Text) : attempts? t = (lenient? t).bind date? := by
  rw [attempts?, Option.orElse_eq_orElse, Option.orElse_eq_or]
  cases hlenient : lenient? t with
  | none =>
    have hzoned : ∀ l ∈ zonedLayouts, l.read? (numericZone t) = none := by
      intro l hl
      refine Option.eq_none_iff_forall_ne_some.2 ?_
      intro fields h
      rw [lenient?_of_zoned hl h] at hlenient
      cases hlenient
    have hnaive : ∀ l ∈ naiveLayouts, l.read? t = none := by
      intro l _
      refine Option.eq_none_iff_forall_ne_some.2 ?_
      intro fields h
      rw [lenient?_of_naive h] at hlenient
      cases hlenient
    rw [Layout.first?_eq_none hzoned, Layout.first?_eq_none hnaive]
    rfl
  | some fields =>
    have hzoned : ∀ l ∈ zonedLayouts, ∀ fields', l.read? (numericZone t) = some fields' →
        fields' = fields := by
      intro l hl fields' h
      exact Option.some.inj ((lenient?_of_zoned hl h).symm.trans hlenient)
    have hnaive : ∀ l ∈ naiveLayouts, ∀ fields', l.read? t = some fields' → fields' = fields := by
      intro l _ fields' h
      exact Option.some.inj ((lenient?_of_naive h).symm.trans hlenient)
    rw [Option.bind_some]
    rcases exists_layout_of_lenient? hlenient with hread | hread
    · rw [Layout.first?_eq hzoned hread]
      rcases Layout.first?_eq_or hnaive with h | h <;> rw [h] <;> simp
    · rw [Layout.first?_eq hnaive hread]
      rcases Layout.first?_eq_or hzoned with h | h <;> rw [h] <;> simp

end DateTime

namespace Date

open DateTime

/-- **A date is read by attempts in their order.** A text of the plain form is that date or none, and
nothing else is tried; on any other text the strict layout is tried first and the others after it. -/
theorem read?_eq_attempts (t : Text) :
    (IsPlain t → read? t = ofPlain? t) ∧
      (¬ IsPlain t → read? t = ((strict? t).bind date? <|> attempts? t)) := by
  constructor
  · intro hplain
    refine Option.ext ?_
    intro d
    rw [read?_eq_some_iff, ofPlain?_eq_some_iff_text, or_iff_left]
    rintro ⟨w, mark, hread, rfl, -⟩
    exact not_isPlain_text w hread.isMark hplain
  · intro hplain
    have hnone : ofPlain? t = none := by
      refine Option.eq_none_iff_forall_ne_some.2 ?_
      intro d h
      exact hplain (ofPlain?_eq_some_iff_text.1 h).1
    rw [read?, hnone, attempts?_eq]
    rfl

end Date

end DateTemplate
