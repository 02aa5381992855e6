import DateTemplate.Proofs.Calendar.Layouts

set_option autoImplicit false

/-!
# Spellings are told apart by their texts

No two spellings of a date-time have the same text. Every piece ends where the next one begins with a
character that the piece cannot have, so the text can be cut in one way only. Main statement:
`Spelled.eq_of_text_eq`.
-/

namespace DateTemplate.DateTime

open Decimal

variable {x y : Text}

/-! ## Cutting a text -/

/-- A run of characters of a class ends in one place. -/
theorem eq_of_append_eq {p : Char → Bool} {run run' : Text} (hrun : ∀ c ∈ run, p c = true)
    (hrun' : ∀ c ∈ run', p c = true) (hx : ∀ c ∈ x.head?, p c = false)
    (hy : ∀ c ∈ y.head?, p c = false) (h : run ++ x = run' ++ y) : run = run' ∧ x = y := by
  obtain ⟨htake, hdrop⟩ := Text.takeWhile_append_of_stops hrun hx
  obtain ⟨htake', hdrop'⟩ := Text.takeWhile_append_of_stops hrun' hy
  rw [h] at htake hdrop
  exact ⟨htake.symm.trans htake', hdrop.symm.trans hdrop'⟩

/-- A front that begins with a digit is not blank. -/
theorem isBlank_head?_digits {ds : Text} (hne : ds ≠ []) (hdigits : ∀ c ∈ ds, c.isDigit = true)
    (x : Text) : ∀ c ∈ (ds ++ x).head?, Text.isBlank c = false := by
  obtain ⟨d, ds, rfl⟩ := List.exists_cons_of_ne_nil hne
  rintro c ⟨⟩
  have hwritten : IsWritten d := Or.inl (hdigits d List.mem_cons_self)
  exact hwritten.isBlank_eq_false

/-! ## Pieces -/

theorem Field.eq_of_text_append_eq {f g : Field} (hx : ∀ c ∈ x.head?, c.isDigit = false)
    (hy : ∀ c ∈ y.head?, c.isDigit = false) (h : f.text ++ x = g.text ++ y) : f = g ∧ x = y := by
  rw [Field.text, Field.text, List.append_assoc, List.append_assoc] at h
  obtain ⟨hbefore, h⟩ := eq_of_append_eq f.blank g.blank
    (isBlank_head?_digits f.digits_ne_nil f.isDigit x)
    (isBlank_head?_digits g.digits_ne_nil g.isDigit y) h
  obtain ⟨hdigits, hrest⟩ := eq_of_append_eq f.isDigit g.isDigit hx hy h
  cases f
  cases g
  subst hbefore hdigits
  exact ⟨rfl, hrest⟩

/-- Neither a sign nor a digit is blank. -/
theorem isBlank_head?_year (y : YearField) (x : Text) :
    ∀ c ∈ ((y.sign.map Direction.symbol).toList ++ (y.digits ++ x)).head?,
      Text.isBlank c = false := by
  cases y.sign with
  | none => exact isBlank_head?_digits y.ne_nil y.isDigit x
  | some d =>
    rintro c ⟨⟩
    cases d <;> decide

/-- A digit is no sign. -/
theorem symbol_cons_ne_digits (d : Direction) {ds : Text} (hne : ds ≠ [])
    (hdigits : ∀ c ∈ ds, c.isDigit = true) : d.symbol :: x ≠ ds ++ y := by
  obtain ⟨c, ds, rfl⟩ := List.exists_cons_of_ne_nil hne
  intro h
  have hc := hdigits c List.mem_cons_self
  rw [← (List.cons.inj h).1] at hc
  cases d <;> exact absurd hc (by decide)

theorem YearField.eq_of_text_append_eq {f g : YearField} (hx : ∀ c ∈ x.head?, c.isDigit = false)
    (hy : ∀ c ∈ y.head?, c.isDigit = false) (h : f.text ++ x = g.text ++ y) : f = g ∧ x = y := by
  simp only [YearField.text, List.append_assoc] at h
  obtain ⟨hbefore, htail⟩ := eq_of_append_eq f.blank g.blank (isBlank_head?_year f x)
    (isBlank_head?_year g y) h
  cases f with | mk before sign digits _ hdigits hne _
  cases g with | mk before' sign' digits' _ hdigits' hne' _
  dsimp only at hbefore htail
  have hsign : sign = sign' ∧ digits ++ x = digits' ++ y := by
    cases sign with
    | none =>
      cases sign' with
      | none => exact ⟨rfl, htail⟩
      | some d =>
        have hsigned : d.symbol :: (digits' ++ y) = digits ++ x := htail.symm
        exact absurd hsigned (symbol_cons_ne_digits d hne hdigits)
    | some d =>
      cases sign' with
      | none =>
        have hsigned : d.symbol :: (digits ++ x) = digits' ++ y := htail
        exact absurd hsigned (symbol_cons_ne_digits d hne' hdigits')
      | some d' =>
        obtain ⟨hsymbol, htail⟩ := List.cons.inj htail
        have hd := congrArg (fun c => Direction.ofSymbol? [c]) hsymbol
        simp only [Direction.ofSymbol?_symbol] at hd
        exact ⟨hd, htail⟩
  obtain ⟨rfl, hrun⟩ := hsign
  obtain ⟨rfl, hrest⟩ := eq_of_append_eq hdigits hdigits' hx hy hrun
  subst hbefore
  exact ⟨rfl, hrest⟩

/-- What begins with a point or a colon does not end the seconds. -/
theorem not_endsSeconds_cons {c : Char} (hc : c = '.' ∨ c = ':') : ¬ EndsSeconds (c :: x) := by
  intro h
  rcases hc with rfl | rfl
  · exact (h '.' rfl).2.1 rfl
  · exact (h ':' rfl).2.2 rfl

theorem fractionText_append_inj {ds es : Text} (hds : ∀ c ∈ ds, c.isDigit = true)
    (hes : ∀ c ∈ es, c.isDigit = true) (hx : EndsSeconds x) (hy : EndsSeconds y)
    (h : fractionText ds ++ x = fractionText es ++ y) : ds = es ∧ x = y := by
  cases ds with
  | nil =>
    cases es with
    | nil => exact ⟨rfl, h⟩
    | cons e es =>
      obtain rfl : x = '.' :: ((e :: es) ++ y) := h
      exact absurd hx (not_endsSeconds_cons (Or.inl rfl))
  | cons d ds =>
    cases es with
    | nil =>
      obtain rfl : '.' :: ((d :: ds) ++ x) = y := h
      exact absurd hy (not_endsSeconds_cons (Or.inl rfl))
    | cons e es =>
      exact eq_of_append_eq hds hes (fun c hc => (hx c hc).1) (fun c hc => (hy c hc).1)
        (List.cons.inj h).2

/-- The digits of the seconds end where their fraction or the zone begins. -/
theorem isDigit_head?_fraction (digits : Text) (hx : EndsSeconds x) :
    ∀ c ∈ (fractionText digits ++ x).head?, c.isDigit = false := by
  cases digits with
  | nil => exact fun c hc => (hx c hc).1
  | cons d ds => exact isDigit_head?_cons (by decide) _

theorem SecondsField.eq_of_text_append_eq {s s' : Option SecondsField} (hx : EndsSeconds x)
    (hy : EndsSeconds y) (h : SecondsField.text s ++ x = SecondsField.text s' ++ y) :
    s = s' ∧ x = y := by
  cases s with
  | none =>
    cases s' with
    | none => exact ⟨rfl, h⟩
    | some s' =>
      obtain rfl : x = ':' :: (s'.whole.text ++ fractionText s'.fraction ++ y) := h
      exact absurd hx (not_endsSeconds_cons (Or.inr rfl))
  | some s =>
    cases s' with
    | none =>
      obtain rfl : ':' :: (s.whole.text ++ fractionText s.fraction ++ x) = y := h
      exact absurd hy (not_endsSeconds_cons (Or.inr rfl))
    | some s' =>
      obtain ⟨whole, fraction, hdigits⟩ := s
      obtain ⟨whole', fraction', hdigits'⟩ := s'
      simp only [SecondsField.text, List.cons_append, List.append_assoc, List.cons.injEq,
        true_and] at h
      obtain ⟨rfl, htail⟩ := Field.eq_of_text_append_eq (isDigit_head?_fraction fraction hx)
        (isDigit_head?_fraction fraction' hy) h
      obtain ⟨rfl, hrest⟩ := fractionText_append_inj hdigits hdigits' hx hy htail
      exact ⟨rfl, hrest⟩

/-! ## Zones -/

/-- Two digits stand for one number. -/
theorem padded_two_inj {n n' : Fin 100} (h : padded 2 n = padded 2 n') : n = n' := by
  have hvalue := congrArg ofDigits h
  rw [ofDigits_padded, ofDigits_padded] at hvalue
  exact Fin.ext hvalue

theorem OffsetField.eq_of_text_eq {o o' : OffsetField} (h : o.text = o'.text) : o = o' := by
  have hlength : ∀ n : Fin 100, (padded 2 n).length = 2 := fun n => length_padded (by decide) n.isLt
  have hstops : ∀ n : Fin 100, ∀ c ∈ (padded 2 n).head?, (c == ':' || Text.isBlank c) = false := by
    intro n c hc
    have hdigit : c.isDigit = true := isDigit_of_mem_padded (List.mem_of_mem_head? hc)
    have hwritten : IsWritten c := Or.inl hdigit
    have hcolon : c ≠ ':' := by
      rintro rfl
      exact absurd hdigit (by decide)
    simp [hcolon, hwritten.isBlank_eq_false]
  cases o with | mk sign hours between minutes _ hparts
  cases o' with | mk sign' hours' between' minutes' _ hparts'
  simp only [OffsetField.text, List.cons.injEq] at h
  obtain ⟨rfl, htail⟩ := h
  obtain ⟨hhours, htail⟩ := List.append_inj htail ((hlength hours).trans (hlength hours').symm)
  obtain ⟨rfl, hminutes⟩ := eq_of_append_eq hparts hparts' (hstops minutes) (hstops minutes') htail
  obtain rfl := padded_two_inj hhours
  obtain rfl := padded_two_inj hminutes
  rfl

/-- A letter is no sign. -/
theorem OffsetField.text_ne_letter (o : OffsetField) (capital : Bool) :
    o.text ≠ [if capital then 'Z' else 'z'] := by
  intro h
  have hlength := congrArg List.length h
  have hhours : (padded 2 o.hours).length = 2 := length_padded (by decide) o.hours.isLt
  simp only [text, List.length_cons, List.length_append, hhours, List.length_nil] at hlength
  omega

theorem ZoneField.eq_of_text_eq {z z' : ZoneField} (h : z.text = z'.text) : z = z' := by
  have hletter : ∀ capital : Bool, ∀ c ∈ [if capital then 'Z' else 'z'].head?,
      Text.isBlank c = false := by
    rintro capital c ⟨⟩
    cases capital <;> decide
  have hsign : ∀ o : OffsetField, ∀ c ∈ o.text.head?, Text.isBlank c = false := by
    rintro o c ⟨⟩
    rcases o.isOffsetSign with h | h | h <;> rw [h] <;> decide
  cases z with
  | unnamed =>
    cases z' with
    | unnamed => rfl
    | utc before capital hbefore => simp [text] at h
    | offset before o hbefore => simp [text, OffsetField.text] at h
  | utc before capital hbefore =>
    cases z' with
    | unnamed => simp [text] at h
    | utc before' capital' hbefore' =>
      obtain ⟨rfl, hcapital⟩ :=
        eq_of_append_eq hbefore hbefore' (hletter capital) (hletter capital') h
      have hcapital : capital = capital' := by cases capital <;> cases capital' <;> simp_all
      rw [hcapital]
    | offset before' o' hbefore' =>
      exact absurd (eq_of_append_eq hbefore hbefore' (hletter capital) (hsign o') h).2.symm
        (o'.text_ne_letter capital)
  | offset before o hbefore =>
    cases z' with
    | unnamed => simp [text, OffsetField.text] at h
    | utc before' capital' hbefore' =>
      exact absurd (eq_of_append_eq hbefore hbefore' (hsign o) (hletter capital') h).2
        (o.text_ne_letter capital')
    | offset before' o' hbefore' =>
      obtain ⟨rfl, ho⟩ := eq_of_append_eq hbefore hbefore' (hsign o) (hsign o') h
      obtain rfl := OffsetField.eq_of_text_eq ho
      rfl

/-! ## Spellings -/

/-- A mark is no digit. -/
theorem IsMark.isDigit_eq_false {mark : Char} (h : IsMark mark) : mark.isDigit = false := by
  rcases h with rfl | rfl | rfl <;> decide

/-- **No two spellings have the same text.** -/
theorem Spelled.eq_of_text_eq {w w' : Spelled} {mark mark' : Char} (hmark : IsMark mark)
    (hmark' : IsMark mark') (h : w.text mark = w'.text mark') : w = w' ∧ mark = mark' := by
  obtain ⟨year, month, day, hour, minute, seconds, zone⟩ := w
  obtain ⟨year', month', day', hour', minute', seconds', zone'⟩ := w'
  have hcons : ∀ {c : Char}, c.isDigit = false → ∀ t : Text, ∀ d ∈ (c :: t).head?,
      d.isDigit = false := isDigit_head?_cons
  have hhyphen : '-'.isDigit = false := by decide
  have hcolon : ':'.isDigit = false := by decide
  simp only [text] at h
  obtain ⟨rfl, h₁⟩ := YearField.eq_of_text_append_eq (hcons hhyphen _) (hcons hhyphen _) h
  obtain ⟨rfl, h₂⟩ := Field.eq_of_text_append_eq (hcons hhyphen _) (hcons hhyphen _)
    (List.cons.inj h₁).2
  obtain ⟨rfl, h₃⟩ := Field.eq_of_text_append_eq (hcons hmark.isDigit_eq_false _)
    (hcons hmark'.isDigit_eq_false _) (List.cons.inj h₂).2
  obtain ⟨rfl, h₄⟩ := List.cons.inj h₃
  obtain ⟨rfl, h₅⟩ := Field.eq_of_text_append_eq (hcons hcolon _) (hcons hcolon _) h₄
  obtain ⟨rfl, h₆⟩ := Field.eq_of_text_append_eq
    (isDigit_head?_seconds seconds (endsSeconds_zone zone))
    (isDigit_head?_seconds seconds' (endsSeconds_zone zone')) (List.cons.inj h₅).2
  obtain ⟨rfl, h₇⟩ := SecondsField.eq_of_text_append_eq (endsSeconds_zone zone)
    (endsSeconds_zone zone') h₆
  obtain rfl := ZoneField.eq_of_text_eq h₇
  exact ⟨rfl, rfl⟩

end DateTemplate.DateTime
