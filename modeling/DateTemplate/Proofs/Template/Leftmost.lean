import DateTemplate.Template.Basic

set_option autoImplicit false

/-!
# Leftmost templates

What cutting a text up finds, said without the search. An opening that is closed on its line is
never passed over, so every gap is quiet, and every token ends at the first closing braces behind
its opening. Main statements: `leftmost_ofText` and `ofText_text`, the template of a text is the
one leftmost template with that text; `Quiet.before_token`, a gap in front of a token stays quiet
whatever comes to stand behind it.
-/

namespace DateTemplate.Template

/-! ## Closing braces -/

/-- What may stand between the braces of a token: a piece of one line in which, with the brace
behind it, no two closing braces meet. -/
structure IsInner (inner : Text) : Prop where
  oneLine : '\n' ∉ inner
  first : ¬ ['}', '}'] <:+: inner ++ ['}']

/-- Two closing braces stand on the first line of a text. -/
def Closes (t : Text) : Prop := ∃ front rest, t = front ++ '}' :: '}' :: rest ∧ '\n' ∉ front

theorem not_closes_nil : ¬ Closes [] := by
  rintro ⟨front, rest, h, -⟩
  simp at h

theorem closes_cons_iff {c : Char} {t : Text} :
    Closes (c :: t) ↔ (c = '}' ∧ ∃ rest, t = '}' :: rest) ∨ (c ≠ '\n' ∧ Closes t) := by
  constructor
  · rintro ⟨front, rest, h, hline⟩
    cases front with
    | nil =>
      obtain ⟨rfl, rfl⟩ := List.cons.inj h
      exact Or.inl ⟨rfl, rest, rfl⟩
    | cons d front =>
      obtain ⟨rfl, rfl⟩ := List.cons.inj h
      simp only [List.mem_cons, not_or] at hline
      exact Or.inr ⟨fun hc => hline.1 hc.symm, front, rest, rfl, hline.2⟩
  · rintro (⟨rfl, rest, rfl⟩ | ⟨hc, front, rest, rfl, hline⟩)
    · exact ⟨[], rest, rfl, by simp⟩
    · refine ⟨c :: front, rest, rfl, ?_⟩
      simp only [List.mem_cons, not_or]
      exact ⟨fun h => hc h.symm, hline⟩

theorem isInner_nil : IsInner [] := by
  refine ⟨by simp, fun h => ?_⟩
  have := h.length_le
  simp at this

theorem isInner_cons_iff {c : Char} {inner : Text} :
    IsInner (c :: inner) ↔
      c ≠ '\n' ∧ ¬ ['}', '}'] <+: c :: (inner ++ ['}']) ∧ IsInner inner := by
  constructor
  · rintro ⟨hline, hfirst⟩
    simp only [List.mem_cons, not_or] at hline
    rw [List.cons_append, List.infix_cons_iff, not_or] at hfirst
    exact ⟨fun h => hline.1 h.symm, hfirst.1, hline.2, hfirst.2⟩
  · rintro ⟨hc, hfront, hline, hfirst⟩
    refine ⟨?_, ?_⟩
    · simp only [List.mem_cons, not_or]
      exact ⟨fun h => hc h.symm, hline⟩
    · rw [List.cons_append, List.infix_cons_iff, not_or]
      exact ⟨hfront, hfirst⟩

/-- The search for closing braces stops at the first two of the line. -/
theorem close?_eq_some_iff {t inner rest : Text} :
    close? t = some (inner, rest) ↔ IsInner inner ∧ t = inner ++ '}' :: '}' :: rest := by
  constructor
  · intro h
    refine ⟨?_, eq_of_close? h⟩
    fun_induction close? t generalizing inner with
    | case1 => cases h
    | case2 t =>
      cases h
      exact isInner_nil
    | case3 t _ => cases h
    | case4 c t hpair hc ih =>
      obtain ⟨⟨i, r⟩, hclose, heq⟩ := Option.map_eq_some_iff.1 h
      cases heq
      refine isInner_cons_iff.2 ⟨hc, ?_, ih hclose⟩
      -- Two braces at the front here would have been found one step before.
      rintro ⟨back, hback⟩
      obtain rfl := (List.cons.inj hback).1
      have ht := eq_of_close? hclose
      cases i with
      | nil => exact hpair _ rfl ht
      | cons d i =>
        obtain ⟨rfl, -⟩ := List.cons.inj (List.cons.inj hback).2
        exact hpair _ rfl ht
  · rintro ⟨hinner, rfl⟩
    induction inner with
    | nil => rfl
    | cons c inner ih =>
      obtain ⟨hc, hfront, hinner⟩ := isInner_cons_iff.1 hinner
      have hpair : ∀ u, c = '}' → inner ++ '}' :: '}' :: rest = '}' :: u → False := by
        rintro u rfl hu
        refine hfront ?_
        cases inner with
        | nil => simp
        | cons d inner =>
          obtain ⟨rfl, -⟩ := List.cons.inj hu
          exact ⟨inner ++ ['}'], rfl⟩
      rw [List.cons_append, close?, if_neg hc, ih hinner]
      · rfl
      · exact hpair

/-- The search fails where the line has no closing braces. -/
theorem close?_eq_none_iff {t : Text} : close? t = none ↔ ¬ Closes t := by
  constructor
  · rintro h ⟨front, rest, rfl, hline⟩
    induction front with
    | nil => cases h
    | cons c front ih =>
      simp only [List.mem_cons, not_or] at hline
      have hc : ¬ c = '\n' := fun hc => hline.1 hc.symm
      rw [List.cons_append] at h
      unfold close? at h
      split at h
      · next heq => cases heq
      · cases h
      · next heq =>
        obtain ⟨rfl, rfl⟩ := List.cons.inj heq
        rw [if_neg hc, Option.map_eq_none_iff] at h
        exact ih hline.2 h
  · intro h
    cases hclose : close? t with
    | none => rfl
    | some p =>
      obtain ⟨hinner, ht⟩ := close?_eq_some_iff.1 hclose
      exact absurd ⟨p.1, p.2, ht, hinner.oneLine⟩ h

theorem Closes.append {t : Text} (h : Closes t) (behind : Text) : Closes (t ++ behind) := by
  obtain ⟨front, rest, rfl, hline⟩ := h
  exact ⟨front, rest ++ behind, by simp, hline⟩

/-- Closing braces behind a line feed close nothing in front of it. -/
theorem closes_line_feed_iff {t behind : Text} : Closes (t ++ '\n' :: behind) ↔ Closes t := by
  induction t with
  | nil =>
    rw [List.nil_append, closes_cons_iff]
    simp [not_closes_nil]
  | cons c t ih =>
    rw [List.cons_append, closes_cons_iff, closes_cons_iff, ih]
    cases t with
    | nil => simp
    | cons d t => simp

/-- A token on the line closes what is open before it, whatever stood there in its place. -/
theorem Closes.before_token {gap inner other : Text} (hline : '\n' ∉ inner) (behind : Text)
    (h : Closes (gap ++ other)) : Closes (gap ++ (braced inner ++ behind)) := by
  have hbraced : Closes (braced inner ++ behind) := by
    refine ⟨'{' :: '{' :: inner, behind, by simp [braced], ?_⟩
    simpa using hline
  induction gap with
  | nil => exact hbraced
  | cons c gap ih =>
    rw [List.cons_append] at h ⊢
    rcases closes_cons_iff.1 h with ⟨rfl, rest, hrest⟩ | ⟨hc, h⟩
    · cases gap with
      | nil => exact closes_cons_iff.2 (Or.inr ⟨by decide, hbraced⟩)
      | cons d gap =>
        obtain ⟨rfl, -⟩ := List.cons.inj hrest
        exact closes_cons_iff.2 (Or.inl ⟨rfl, _, rfl⟩)
    · exact closes_cons_iff.2 (Or.inr ⟨hc, ih h⟩)

/-! ## Openings -/

/-- A text begins with two opening braces that are closed on their line. -/
def Opens (t : Text) : Prop := ∃ inside, t = '{' :: '{' :: inside ∧ Closes inside

theorem opens_cons_cons_iff {c d : Char} {t : Text} :
    Opens (c :: d :: t) ↔ c = '{' ∧ d = '{' ∧ Closes t := by
  constructor
  · rintro ⟨inside, heq, hcloses⟩
    simp only [List.cons.injEq] at heq
    obtain ⟨rfl, rfl, rfl⟩ := heq
    exact ⟨rfl, rfl, hcloses⟩
  · rintro ⟨rfl, rfl, hcloses⟩
    exact ⟨t, rfl, hcloses⟩

theorem Opens.append {t : Text} (h : Opens t) (behind : Text) : Opens (t ++ behind) := by
  obtain ⟨inside, rfl, hcloses⟩ := h
  exact ⟨inside ++ behind, by simp, hcloses.append behind⟩

theorem opens_line_feed_iff {t behind : Text} : Opens (t ++ '\n' :: behind) ↔ Opens t := by
  match t with
  | [] =>
    constructor
    · rintro ⟨inside, heq, -⟩
      simp at heq
    · rintro ⟨inside, heq, -⟩
      simp at heq
  | [c] =>
    constructor
    · rw [List.singleton_append, opens_cons_cons_iff]
      rintro ⟨-, heq, -⟩
      simp at heq
    · rintro ⟨inside, heq, -⟩
      simp at heq
  | c :: d :: t =>
    rw [List.cons_append, List.cons_append, opens_cons_cons_iff, opens_cons_cons_iff,
      closes_line_feed_iff]

theorem opens_braced {inner : Text} (hline : '\n' ∉ inner) (behind : Text) :
    Opens (braced inner ++ behind) :=
  ⟨inner ++ '}' :: '}' :: behind, by simp [braced], inner, behind, rfl, hline⟩

/-- A brace in front of a token would open a token itself. -/
theorem opens_cons_braced {inner : Text} (hline : '\n' ∉ inner) (behind : Text) :
    Opens ('{' :: (braced inner ++ behind)) := by
  refine ⟨'{' :: (inner ++ '}' :: '}' :: behind), by simp [braced], '{' :: inner, behind, rfl, ?_⟩
  simpa using hline

theorem open?_eq_some_iff {t inner rest : Text} :
    open? t = some (inner, rest) ↔ IsInner inner ∧ t = braced inner ++ rest := by
  constructor
  · intro h
    refine ⟨?_, eq_of_open? h⟩
    unfold open? at h
    split at h
    · exact (close?_eq_some_iff.1 h).1
    · cases h
  · rintro ⟨hinner, rfl⟩
    have hclose : close? (inner ++ '}' :: '}' :: rest) = some (inner, rest) :=
      close?_eq_some_iff.2 ⟨hinner, rfl⟩
    simpa [braced, open?] using hclose

theorem open?_eq_none_iff {t : Text} : open? t = none ↔ ¬ Opens t := by
  unfold open?
  split
  · next s =>
    rw [close?_eq_none_iff]
    refine not_congr ?_
    constructor
    · exact fun h => ⟨s, rfl, h⟩
    · rintro ⟨s', hs, h⟩
      cases hs
      exact h
  · next hne =>
    simp only [true_iff]
    rintro ⟨s, rfl, -⟩
    exact hne s rfl

/-! ## Gaps -/

/-- No opening in a gap is closed on its line, not even one that takes its second brace from the
text behind the gap. -/
def Quiet : Text → Text → Prop
  | [], _ => True
  | c :: gap, behind => ¬ Opens (c :: gap ++ behind) ∧ Quiet gap behind

@[simp] theorem quiet_nil (behind : Text) : Quiet [] behind := trivial

theorem quiet_append_iff {gap gap' behind : Text} :
    Quiet (gap ++ gap') behind ↔ Quiet gap (gap' ++ behind) ∧ Quiet gap' behind := by
  induction gap with
  | nil => simp
  | cons c gap ih => simp only [List.cons_append, Quiet, ih, List.append_assoc, and_assoc]

/-- No token begins inside a quiet gap. -/
theorem Quiet.not_opens {gap behind : Text} (h : Quiet gap behind) (hne : gap ≠ []) :
    ¬ Opens (gap ++ behind) := by
  cases gap with
  | nil => exact absurd rfl hne
  | cons c gap => exact h.1

theorem Quiet.of_append {gap front behind : Text} (h : Quiet gap (front ++ behind)) :
    Quiet gap front := by
  induction gap with
  | nil => exact quiet_nil front
  | cons c gap ih =>
    refine ⟨fun hopens => h.1 ?_, ih h.2⟩
    rw [← List.append_assoc]
    exact hopens.append behind

/-- In front of a line feed a gap is as quiet as at the end of the text. -/
theorem quiet_line_feed_iff {gap behind : Text} : Quiet gap ('\n' :: behind) ↔ Quiet gap [] := by
  induction gap with
  | nil => simp
  | cons c gap ih => rw [Quiet, Quiet, opens_line_feed_iff, ih, List.append_nil]

/-- Without opening braces there is nothing to open. -/
theorem quiet_of_not_mem {gap : Text} (h : '{' ∉ gap) (behind : Text) : Quiet gap behind := by
  induction gap with
  | nil => exact quiet_nil behind
  | cons c gap ih =>
    simp only [List.mem_cons, not_or] at h
    refine ⟨?_, ih h.2⟩
    rintro ⟨inside, heq, -⟩
    exact h.1 (List.cons.inj heq).1.symm

/-- **A gap in front of a token is quiet in front of anything.** An opening on the line of the token
would be closed by it, so no such opening is there, and the openings on the lines before have no
closing braces within the gap. -/
theorem Quiet.before_token {gap inner behind : Text} (hline : '\n' ∉ inner)
    (h : Quiet gap (braced inner ++ behind)) (other : Text) : Quiet gap other := by
  induction gap with
  | nil => exact quiet_nil other
  | cons c gap ih =>
    refine ⟨?_, ih h.2⟩
    rintro ⟨inside, heq, hcloses⟩
    obtain ⟨rfl, htail⟩ := List.cons.inj heq
    cases gap with
    | nil => exact h.1 (opens_cons_braced hline behind)
    | cons d gap =>
      obtain ⟨rfl, rfl⟩ := List.cons.inj htail
      exact h.1 ⟨_, rfl, hcloses.before_token hline behind⟩

/-! ## Texts in front of templates -/

/-- Puts a text in front of the first gap. -/
def prepend (front : Text) : Template → Template
  | last gap => last (front ++ gap)
  | token gap inner rest => token (front ++ gap) inner rest

@[simp] theorem prepend_nil (template : Template) : template.prepend [] = template := by
  cases template <;> rfl

theorem prepend_cons (c : Char) (front : Text) (template : Template) :
    template.prepend (c :: front) = (template.prepend front).cons c := by
  cases template <;> rfl

@[simp] theorem fill_prepend (f : Text → Text) (front : Text) (template : Template) :
    (template.prepend front).fill f = front ++ template.fill f := by
  cases template <;> simp [prepend, fill]

@[simp] theorem tokens_prepend (front : Text) (template : Template) :
    (template.prepend front).tokens = template.tokens := by
  cases template <;> rfl

@[simp] theorem text_last (gap : Text) : (last gap).text = gap := rfl

@[simp] theorem text_token (gap inner : Text) (rest : Template) :
    (token gap inner rest).text = gap ++ (braced inner ++ rest.text) := by
  simp [text, fill]

@[simp] theorem text_prepend (front : Text) (template : Template) :
    (template.prepend front).text = front ++ template.text :=
  fill_prepend braced front template

/-- The search passes over a quiet gap. -/
theorem ofText_append {gap behind : Text} (h : Quiet gap behind) :
    ofText (gap ++ behind) = (ofText behind).prepend gap := by
  induction gap with
  | nil => simp
  | cons c gap ih =>
    have hopen : open? (c :: (gap ++ behind)) = none := open?_eq_none_iff.2 h.1
    rw [List.cons_append, ofText, prepend_cons, ← ih h.2]
    split
    · next hsome => rw [hopen] at hsome; cases hsome
    · rfl

/-- The search stops at a token. -/
theorem ofText_braced_append {inner : Text} (h : IsInner inner) (behind : Text) :
    ofText (braced inner ++ behind) = token [] inner (ofText behind) := by
  have hopen : open? (braced inner ++ behind) = some (inner, behind) :=
    open?_eq_some_iff.2 ⟨h, rfl⟩
  have hcons : braced inner ++ behind = '{' :: ('{' :: inner ++ ['}', '}'] ++ behind) := rfl
  rw [hcons] at hopen ⊢
  rw [ofText]
  split
  · next hsome =>
    rw [hopen] at hsome
    cases hsome
    rfl
  · next hnone => rw [hopen] at hnone; cases hnone

/-! ## The template of a text -/

/-- Every gap is quiet and every token ends at the first closing braces behind its opening. -/
def Leftmost : Template → Prop
  | last gap => Quiet gap []
  | token gap inner rest =>
    Quiet gap (braced inner ++ rest.text) ∧ IsInner inner ∧ rest.Leftmost

theorem leftmost_prepend_iff {front : Text} {template : Template} :
    (template.prepend front).Leftmost ↔ Quiet front template.text ∧ template.Leftmost := by
  cases template with
  | last gap => simp [prepend, Leftmost, quiet_append_iff]
  | token gap inner rest => simp [prepend, Leftmost, quiet_append_iff, and_assoc]

/-- Cutting a text up gives a leftmost template. -/
theorem leftmost_ofText (t : Text) : (ofText t).Leftmost := by
  fun_induction ofText t with
  | case1 => exact quiet_nil []
  | case2 c t inner rest h _ ih => exact ⟨quiet_nil _, (open?_eq_some_iff.1 h).1, ih⟩
  | case3 c t h ih =>
    have hcons : (ofText t).cons c = (ofText t).prepend [c] := by
      rw [prepend_cons, prepend_nil]
    rw [hcons, leftmost_prepend_iff]
    refine ⟨⟨?_, quiet_nil _⟩, ih⟩
    rw [text_ofText]
    exact open?_eq_none_iff.1 h

/-- A leftmost template is the one its text is cut up into. -/
theorem Leftmost.ofText_text {template : Template} (h : template.Leftmost) :
    ofText template.text = template := by
  induction template with
  | last gap =>
    have happend : ofText (gap ++ []) = (ofText []).prepend gap := ofText_append h
    rw [List.append_nil] at happend
    simp [happend, ofText, prepend]
  | token gap inner rest ih =>
    obtain ⟨hgap, hinner, hrest⟩ := h
    rw [text_token, ofText_append hgap, ofText_braced_append hinner, ih hrest]
    simp [prepend]

end DateTemplate.Template
