import DateTemplate.Proofs.Template.Leftmost

set_option autoImplicit false

/-!
# Where tokens occur

The tokens of a text, taken in order, fit into it in one way only, so a list of tokens already says
where they stand. Main statement: `eq_prepend_of_tokens_eq`. It rests on two facts about the text of
a token: its closing braces are the only ones in it, and it does not overlap itself.
-/

namespace DateTemplate.Template

theorem braced_ne_nil (inner : Text) : braced inner ≠ [] := by simp [braced]

/-- What comes short of the whole of a token holds no two closing braces. -/
theorem IsInner.not_infix {inner front back : Text} (h : IsInner inner)
    (heq : braced inner = front ++ back) (hback : back ≠ []) : ¬ ['}', '}'] <:+: front := by
  intro hinfix
  have hlast : (braced inner).dropLast = '{' :: '{' :: (inner ++ ['}']) := by
    have hsplit : braced inner = '{' :: '{' :: (inner ++ ['}']) ++ ['}'] := by simp [braced]
    rw [hsplit, List.dropLast_concat]
  rw [heq, List.dropLast_append_of_ne_nil hback] at hlast
  have hshort : ['}', '}'] <:+: '{' :: '{' :: (inner ++ ['}']) := by
    rw [← hlast]
    exact hinfix.trans (List.prefix_append front back.dropLast).isInfix
  rw [List.infix_cons_iff, List.infix_cons_iff] at hshort
  rcases hshort with hfront | hfront | hinner
  · simp at hfront
  · simp at hfront
  · exact h.first hinner

/-- Of two tokens in a text the one that begins first ends first. -/
theorem IsInner.exists_append {inner inner' front rest rest' : Text} (h : IsInner inner)
    (heq : braced inner ++ rest = front ++ (braced inner' ++ rest')) :
    ∃ between, rest = between ++ rest' := by
  rw [← List.append_assoc] at heq
  rcases List.append_eq_append_iff.1 heq with ⟨between, -, hrest⟩ | ⟨back, hlong, hrest'⟩
  · exact ⟨between, hrest⟩
  · by_cases hback : back = []
    · subst hback
      exact ⟨[], hrest'.symm⟩
    · refine absurd ?_ (h.not_infix hlong hback)
      exact ⟨front ++ '{' :: '{' :: inner', [], by simp [braced]⟩

/-- A token does not overlap itself. -/
theorem IsInner.eq_nil_of_overlap {inner front middle back : Text} (h : IsInner inner)
    (hfront : braced inner = front ++ middle) (hback : braced inner = middle ++ back)
    (hne : back ≠ []) : middle = [] := by
  have hends : ['}', '}'] <:+ front ++ middle := by
    rw [← hfront]
    exact ⟨'{' :: '{' :: inner, by simp [braced]⟩
  cases middle with
  | nil => rfl
  | cons c middle =>
    cases middle with
    | nil =>
      -- A single character would be an opening and a closing brace at once.
      obtain ⟨start, hstart⟩ := hends
      have hlast := congrArg List.getLast? hstart
      simp only [braced, List.cons_append, List.nil_append, List.cons.injEq] at hback
      simp [← hback.1] at hlast
    | cons d middle =>
      have hsuffix : ['}', '}'] <:+ c :: d :: middle :=
        List.suffix_of_suffix_length_le hends (List.suffix_append _ _) (by simp)
      exact absurd hsuffix.isInfix (h.not_infix hback hne)

/-- A token is not found again behind its place before the gap there ends. -/
theorem IsInner.eq_nil_of_late {inner late between behind : Text} (h : IsInner inner)
    (hquiet : Quiet between behind) (heq : braced inner ++ between = late ++ braced inner) :
    late = [] := by
  have hfree : ∀ front, between ≠ front ++ braced inner := by
    rintro front rfl
    refine (quiet_append_iff.1 hquiet).2.not_opens (braced_ne_nil inner) ?_
    exact opens_braced h.oneLine behind
  rcases List.append_eq_append_iff.1 heq with ⟨front, -, hfront⟩ | ⟨middle, hlate, hmiddle⟩
  · exact absurd hfront (hfree front)
  · by_cases hbetween : between = []
    · rw [hbetween, List.append_nil] at hmiddle
      rw [← hmiddle] at hlate
      exact List.self_eq_append_left.1 hlate
    · have hnil := h.eq_nil_of_overlap hlate hmiddle hbetween
      rw [hnil] at hmiddle
      exact absurd hmiddle.symm (hfree [])

/-- **Tokens fit into a text in one way.** A template with the tokens of a leftmost one, whose text
is the end of that one's text, has them at the same places. -/
theorem eq_prepend_of_tokens_eq {template split : Template} {front : Text}
    (h : template.Leftmost) (htext : template.text = front ++ split.text)
    (htokens : template.tokens = split.tokens) : template = split.prepend front := by
  induction template generalizing front split with
  | last gap =>
    cases split with
    | last gap' =>
      rw [text_last, text_last] at htext
      rw [htext, prepend]
    | token gap' inner rest' => simp [tokens] at htokens
  | token gap inner rest ih =>
    cases split with
    | last gap' => simp [tokens] at htokens
    | token gap' inner' rest' =>
      obtain ⟨hgap, hinner, hrest⟩ := h
      simp only [tokens, List.cons.injEq] at htokens
      obtain ⟨rfl, htokens⟩ := htokens
      rw [text_token, text_token, ← List.append_assoc front] at htext
      -- The first token stands `late` characters behind, or `early` ones before, its place.
      rcases List.append_eq_append_iff.1 htext with ⟨late, hgap', heq⟩ | ⟨early, hgap', heq⟩
      · obtain ⟨between, hbetween⟩ := hinner.exists_append heq
        obtain rfl := ih hrest hbetween htokens
        rw [text_prepend, ← List.append_assoc, ← List.append_assoc,
          List.append_left_inj] at heq
        have hquiet := (leftmost_prepend_iff.1 hrest).1
        obtain rfl := hinner.eq_nil_of_late hquiet heq
        rw [List.nil_append, List.append_right_eq_self] at heq
        rw [List.append_nil] at hgap'
        rw [heq, prepend_nil, prepend, hgap']
      · by_cases hnil : early = []
        · subst hnil
          rw [List.append_nil] at hgap'
          rw [List.nil_append, List.append_right_inj] at heq
          have hrest' : rest.text = [] ++ rest'.text := heq.symm
          obtain rfl := ih hrest hrest' htokens
          rw [prepend_nil, prepend, hgap']
        · rw [hgap', quiet_append_iff] at hgap
          refine absurd ?_ (hgap.2.not_opens hnil)
          rw [← heq]
          exact opens_braced hinner.oneLine rest'.text

end DateTemplate.Template
