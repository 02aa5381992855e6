import DateTemplate.Text.Blank

set_option autoImplicit false

/-!
# What trimming leaves

A trimmed text stands between blanks in the text it comes from and has no blank at its own ends, so
trimming it again changes nothing. Main statements: `exists_append_trim`, `trim_eq_self` and
`trim_trim`.
-/

namespace DateTemplate.Text

/-- No blank stands at either end of a text. -/
structure IsTrimmed (t : Text) : Prop where
  front : ∀ c ∈ t.head?, isBlank c = false
  back : ∀ c ∈ t.getLast?, isBlank c = false

theorem isTrimmed_of_forall {t : Text} (h : ∀ c ∈ t, isBlank c = false) : IsTrimmed t :=
  ⟨fun c hc => h c (List.mem_of_mem_head? hc), fun c hc => h c (List.mem_of_mem_getLast? hc)⟩

theorem isTrimmed_trim (t : Text) : IsTrimmed (trim t) := by
  constructor
  · intro c hc
    obtain ⟨rest, hrest⟩ := List.head?_eq_some_iff.1 hc
    rw [← List.singleton_append] at hrest
    refine Bool.eq_false_iff.2 fun hblank => ?_
    have hnil := eq_nil_of_trim_eq_append hrest (by simpa using hblank)
    simp at hnil
  · intro c hc
    obtain ⟨front, hfront⟩ := List.getLast?_eq_some_iff.1 hc
    refine Bool.eq_false_iff.2 fun hblank => ?_
    have hnil := eq_nil_of_trim_eq_append_right hfront (by simpa using hblank)
    simp at hnil

theorem trimStart_eq_self {t : Text} (h : ∀ c ∈ t.head?, isBlank c = false) : trimStart t = t := by
  cases t with
  | nil => rfl
  | cons c t =>
    have hc := h c rfl
    simp [trimStart, hc]

theorem trimEnd_eq_self {t : Text} (h : ∀ c ∈ t.getLast?, isBlank c = false) : trimEnd t = t := by
  have hreverse : trimStart t.reverse = t.reverse :=
    trimStart_eq_self fun c hc => h c (by rwa [List.head?_reverse] at hc)
  rw [trimEnd, hreverse, List.reverse_reverse]

theorem trim_eq_self {t : Text} (h : IsTrimmed t) : trim t = t := by
  rw [trim, trimStart_eq_self h.front, trimEnd_eq_self h.back]

@[simp] theorem trim_trim (t : Text) : trim (trim t) = trim t := trim_eq_self (isTrimmed_trim t)

/-- Trimming takes off blanks and nothing else. -/
theorem exists_append_trim (t : Text) :
    ∃ front back : Text, (∀ c ∈ front, isBlank c = true) ∧ (∀ c ∈ back, isBlank c = true) ∧
      t = front ++ (trim t ++ back) := by
  obtain ⟨front, hfront, hstart⟩ := exists_append_trimStart t
  obtain ⟨back, hback, hend⟩ := exists_append_trimEnd (trimStart t)
  refine ⟨front, back, hfront, hback, ?_⟩
  rw [trim, hend, hstart]

end DateTemplate.Text
