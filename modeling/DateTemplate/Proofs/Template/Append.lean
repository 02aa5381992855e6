import DateTemplate.Proofs.Template.Leftmost

set_option autoImplicit false

/-!
# Templates one behind the other

Two templates are joined at the last gap of the first and the first gap of the second. Main
statements: `leftmost_append_iff`, the join is leftmost just if both are and no opening in the gap
before the join is closed behind it; `ofText_append_of_quiet`, in that case a text can be cut up
piece by piece; `exists_append_token`, a template parts at each of its tokens, and in one way.
-/

namespace DateTemplate.Template

/-! ## Joining -/

/-- The tokens and gaps of two templates in turn; the gaps between them become one. -/
protected def append : Template → Template → Template
  | last gap, behind => behind.prepend gap
  | token gap inner rest, behind => token gap inner (rest.append behind)

instance : Append Template := ⟨Template.append⟩

theorem last_append (gap : Text) (behind : Template) : last gap ++ behind = behind.prepend gap :=
  rfl

theorem token_append (gap inner : Text) (rest behind : Template) :
    token gap inner rest ++ behind = token gap inner (rest ++ behind) :=
  rfl

@[simp] theorem fill_append (f : Text → Text) (front behind : Template) :
    (front ++ behind).fill f = front.fill f ++ behind.fill f := by
  induction front with
  | last gap => rw [last_append, fill_prepend, fill]
  | token gap inner rest ih => simp [token_append, fill, ih]

@[simp] theorem tokens_append (front behind : Template) :
    (front ++ behind).tokens = front.tokens ++ behind.tokens := by
  induction front with
  | last gap => rw [last_append, tokens_prepend, tokens, List.nil_append]
  | token gap inner rest ih => simp [token_append, tokens, ih]

@[simp] theorem text_append (front behind : Template) :
    (front ++ behind).text = front.text ++ behind.text :=
  fill_append braced front behind

/-- The gap behind the last token. -/
def lastGap : Template → Text
  | last gap => gap
  | token _ _ rest => rest.lastGap

/-! ## Leftmost templates -/

/-- **Leftmost templates join where the gap between them stays quiet.** The gaps before tokens are
quiet in front of anything, so only the last gap can be disturbed by what follows. -/
theorem leftmost_append_iff {front behind : Template} :
    (front ++ behind).Leftmost ↔
      front.Leftmost ∧ Quiet front.lastGap behind.text ∧ behind.Leftmost := by
  induction front with
  | last gap =>
    rw [last_append, leftmost_prepend_iff, Leftmost, lastGap]
    constructor
    · rintro ⟨hgap, hbehind⟩
      have hnil : Quiet gap ([] ++ behind.text) := hgap
      exact ⟨hnil.of_append, hgap, hbehind⟩
    · rintro ⟨-, hgap, hbehind⟩
      exact ⟨hgap, hbehind⟩
  | token gap inner rest ih =>
    rw [token_append, Leftmost, Leftmost, lastGap, ih]
    constructor
    · rintro ⟨hgap, hinner, hrest, hlast, hbehind⟩
      exact ⟨⟨hgap.before_token hinner.oneLine _, hinner, hrest⟩, hlast, hbehind⟩
    · rintro ⟨⟨hgap, hinner, hrest⟩, hlast, hbehind⟩
      exact ⟨hgap.before_token hinner.oneLine _, hinner, hrest, hlast, hbehind⟩

theorem Leftmost.quiet_lastGap {template : Template} (h : template.Leftmost) :
    Quiet template.lastGap [] := by
  induction template with
  | last gap => exact h
  | token gap inner rest ih => exact ih h.2.2

/-- Pieces of a text can be cut up apart if no token reaches from one into the other. -/
theorem ofText_append_of_quiet {front behind : Text} (h : Quiet (ofText front).lastGap behind) :
    ofText (front ++ behind) = ofText front ++ ofText behind := by
  have hleftmost : (ofText front ++ ofText behind).Leftmost := by
    refine leftmost_append_iff.2 ⟨leftmost_ofText front, ?_, leftmost_ofText behind⟩
    rwa [text_ofText]
  have htext : (ofText front ++ ofText behind).text = front ++ behind := by simp
  rw [← htext]
  exact hleftmost.ofText_text

/-! ## Parting at a token -/

/-- A template parts at each of its tokens. -/
theorem exists_append_token {template : Template} {before after : List Text} {inner : Text}
    (h : template.tokens = before ++ inner :: after) :
    ∃ front behind, template = front ++ token [] inner behind ∧
      front.tokens = before ∧ behind.tokens = after := by
  induction template generalizing before with
  | last gap => simp [tokens] at h
  | token gap first rest ih =>
    cases before with
    | nil =>
      rw [tokens, List.nil_append, List.cons.injEq] at h
      obtain ⟨rfl, hrest⟩ := h
      refine ⟨last gap, rest, ?_, rfl, hrest⟩
      rw [last_append, prepend, List.append_nil]
    | cons other before =>
      rw [tokens, List.cons_append, List.cons.injEq] at h
      obtain ⟨rfl, hrest⟩ := h
      obtain ⟨front, behind, rfl, rfl, rfl⟩ := ih hrest
      exact ⟨token gap first front, behind, rfl, rfl, rfl⟩

/-- The tokens before the one at which a template parts say what the parts are. -/
theorem append_token_inj {front front' behind behind' : Template} {inner : Text}
    (htokens : front.tokens = front'.tokens)
    (h : front ++ token [] inner behind = front' ++ token [] inner behind') :
    front = front' ∧ behind = behind' := by
  induction front generalizing front' with
  | last gap =>
    cases front' with
    | last gap' => simpa [last_append, prepend] using h
    | token gap' inner' rest' => simp [tokens] at htokens
  | token gap first rest ih =>
    cases front' with
    | last gap' => simp [tokens] at htokens
    | token gap' first' rest' =>
      simp only [tokens, List.cons.injEq] at htokens
      simp only [token_append, token.injEq] at h
      obtain ⟨rfl, rfl, h⟩ := h
      obtain ⟨rfl, rfl⟩ := ih htokens.2 h
      exact ⟨rfl, rfl⟩

end DateTemplate.Template
