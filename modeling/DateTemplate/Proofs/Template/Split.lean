import DateTemplate.Proofs.Template.Leftmost
import DateTemplate.Template.Engine

set_option autoImplicit false

/-!
# The split of a text into tokens

Which tokens a text has, said of the whole split of the text into tokens and gaps: `IsSplit` states
what has to hold of each token and of each place in a gap. Main statement: `exists_unique_isSplit`,
there is one such split of a text, and extraction lists its tokens.
-/

namespace DateTemplate.Template

/-- The gaps in their order, each with the text behind it. -/
def gaps : Template → List (Text × Text)
  | last gap => [(gap, [])]
  | token gap inner rest => (gap, braced inner ++ rest.text) :: rest.gaps

/-- A quiet gap has no place from which a token could begin. -/
theorem quiet_iff {gap behind : Text} :
    Quiet gap behind ↔
      ∀ front back, gap = front ++ back → back ≠ [] → ¬ Opens (back ++ behind) := by
  constructor
  · rintro h front back rfl hne
    exact (quiet_append_iff.1 h).2.not_opens hne
  · intro h
    induction gap with
    | nil => exact quiet_nil behind
    | cons c gap ih =>
      refine ⟨h [] (c :: gap) rfl (by simp), ih fun front back hgap => ?_⟩
      exact h (c :: front) back (by rw [hgap, List.cons_append])

/-- A template is leftmost if its tokens and its gaps are as they should be, each for itself. -/
theorem leftmost_iff {template : Template} :
    template.Leftmost ↔
      (∀ inner ∈ template.tokens, IsInner inner) ∧
        ∀ gap behind, (gap, behind) ∈ template.gaps → Quiet gap behind := by
  induction template with
  | last gap =>
    simp only [Leftmost, tokens, gaps, List.not_mem_nil, List.mem_singleton, Prod.mk.injEq]
    constructor
    · rintro h
      exact ⟨by simp, by rintro _ _ ⟨rfl, rfl⟩; exact h⟩
    · exact fun h => h.2 gap [] ⟨rfl, rfl⟩
  | token gap inner rest ih =>
    simp only [Leftmost, tokens, gaps, List.mem_cons, Prod.mk.injEq, ih]
    constructor
    · rintro ⟨hgap, hinner, htokens, hgaps⟩
      refine ⟨?_, ?_⟩
      · rintro _ (rfl | hmem)
        · exact hinner
        · exact htokens _ hmem
      · rintro _ _ (⟨rfl, rfl⟩ | hmem)
        · exact hgap
        · exact hgaps _ _ hmem
    · rintro ⟨htokens, hgaps⟩
      exact ⟨hgaps _ _ (Or.inl ⟨rfl, rfl⟩), htokens _ (Or.inl rfl),
        fun _ hmem => htokens _ (Or.inr hmem), fun _ _ hmem => hgaps _ _ (Or.inr hmem)⟩

/-- A split of a text in which every token ends at the first closing braces behind its opening and
no opening that is closed on its line begins in a gap. -/
structure IsSplit (input : Text) (split : Template) : Prop where
  text_eq : split.text = input
  oneLine : ∀ inner ∈ split.tokens, '\n' ∉ inner
  first : ∀ inner ∈ split.tokens, ¬ ['}', '}'] <:+: inner ++ ['}']
  /-- What begins in the gap may end behind it. -/
  not_opens : ∀ gap behind, (gap, behind) ∈ split.gaps →
    ∀ front back, gap = front ++ back → back ≠ [] → ¬ Opens (back ++ behind)

theorem isSplit_iff {input : Text} {split : Template} :
    IsSplit input split ↔ split.text = input ∧ split.Leftmost := by
  rw [leftmost_iff]
  constructor
  · intro h
    exact ⟨h.text_eq, fun inner hinner => ⟨h.oneLine inner hinner, h.first inner hinner⟩,
      fun gap behind hgap => quiet_iff.2 (h.not_opens gap behind hgap)⟩
  · rintro ⟨htext, htokens, hgaps⟩
    exact ⟨htext, fun inner hinner => (htokens inner hinner).oneLine,
      fun inner hinner => (htokens inner hinner).first,
      fun gap behind hgap => quiet_iff.1 (hgaps gap behind hgap)⟩

/-- **A text has one split, and extraction lists its tokens.** The tokens are the leftmost and
shortest ones: a text is cut into tokens and gaps in exactly one way such that every token ends at
the first closing braces of its line and no gap holds the beginning of a token. -/
theorem exists_unique_isSplit (input : Text) :
    ∃ split : Template,
      IsSplit input split ∧ (∀ other, IsSplit input other → other = split) ∧
        extract input = split.tokens.map braced := by
  refine ⟨ofText input, isSplit_iff.2 ⟨text_ofText input, leftmost_ofText input⟩, ?_, rfl⟩
  intro other hother
  obtain ⟨rfl, hleftmost⟩ := isSplit_iff.1 hother
  exact hleftmost.ofText_text.symm

/-- Braces in odd numbers, an opening that its line does not close, and a token that swallows a
second opening. -/
example : extract "\x7b{{A}}\x7d \x7b\x7b \n\x7b\x7b\x7d\x7d\x7d \x7b\x7b {{B}} \x7d\x7d".toList =
    ["\x7b{{A}}".toList, "\x7b\x7b\x7d\x7d".toList, "\x7b\x7b {{B}}".toList] := by decide +kernel

end DateTemplate.Template
