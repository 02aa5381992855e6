set_option autoImplicit false

/-!
# Blank characters and trimming

A text is the list of its characters. Blanks are the 25 characters with the Unicode property
`White_Space`; `trim` takes them off both ends. Main statements: `trimStart` and `trimEnd` stop at a
character that is not blank, and what they take off is blank throughout.
-/

namespace DateTemplate

/-- The characters of a text, in order. -/
abbrev Text := List Char

namespace Text

/-- The characters with the Unicode property `White_Space`. -/
def isBlank (c : Char) : Bool :=
  let n := c.toNat
  (9 ≤ n && n ≤ 13) || n == 32 || n == 0x85 || n == 0xA0 || n == 0x1680
    || (0x2000 ≤ n && n ≤ 0x200A) || n == 0x2028 || n == 0x2029 || n == 0x202F
    || n == 0x205F || n == 0x3000

/-- The text without its leading blanks. -/
def trimStart (t : Text) : Text := t.dropWhile isBlank

/-- The text without its trailing blanks. -/
def trimEnd (t : Text) : Text := (trimStart t.reverse).reverse

/-- The text without the blanks at its two ends. -/
def trim (t : Text) : Text := trimEnd (trimStart t)

theorem length_dropWhile_le (p : Char → Bool) (t : Text) :
    (t.dropWhile p).length ≤ t.length := by
  have h := congrArg List.length (List.takeWhile_append_dropWhile (p := p) (l := t))
  simp only [List.length_append] at h
  omega

/-- A run of characters of a class ends where the next character is not of the class. -/
theorem takeWhile_append_of_stops {p : Char → Bool} {run t : Text} (hrun : ∀ c ∈ run, p c = true)
    (hstops : ∀ c ∈ t.head?, p c = false) :
    (run ++ t).takeWhile p = run ∧ (run ++ t).dropWhile p = t := by
  rw [List.takeWhile_append_of_pos hrun, List.dropWhile_append_of_pos hrun]
  cases t with
  | nil => simp
  | cons c t =>
    have hc := hstops c rfl
    simp [hc]

@[simp] theorem trimStart_nil : trimStart [] = [] := rfl

/-- What is trimmed off the front is blank throughout. -/
theorem exists_append_trimStart (t : Text) :
    ∃ front : Text, (∀ c ∈ front, isBlank c = true) ∧ front ++ trimStart t = t := by
  induction t with
  | nil => exact ⟨[], by simp, rfl⟩
  | cons c t ih =>
    cases h : isBlank c with
    | true =>
      obtain ⟨front, hblank, heq⟩ := ih
      refine ⟨c :: front, by simpa [h] using hblank, ?_⟩
      simpa [trimStart, List.dropWhile_cons, h] using heq
    | false => exact ⟨[], by simp, by simp [trimStart, h]⟩

/-- The front of a trimmed text is not blank. -/
theorem isBlank_eq_false_of_trimStart {t : Text} {c : Char} {rest : Text}
    (h : trimStart t = c :: rest) : isBlank c = false := by
  induction t with
  | nil => simp at h
  | cons d t ih =>
    cases hd : isBlank d with
    | true => exact ih (by simpa [trimStart, List.dropWhile_cons, hd] using h)
    | false =>
      have : d = c := by
        have h' : d :: t = c :: rest := by simpa [trimStart, List.dropWhile_cons, hd] using h
        exact (List.cons.inj h').1
      rwa [← this]

/-- What is trimmed off the end is blank throughout. -/
theorem exists_append_trimEnd (t : Text) :
    ∃ back : Text, (∀ c ∈ back, isBlank c = true) ∧ trimEnd t ++ back = t := by
  obtain ⟨front, hblank, heq⟩ := exists_append_trimStart t.reverse
  refine ⟨front.reverse, by simpa using hblank, ?_⟩
  rw [trimEnd, ← List.reverse_append, heq, List.reverse_reverse]

/-- The end of a trimmed text is not blank. -/
theorem isBlank_eq_false_of_trimEnd {t : Text} {c : Char} {front : Text}
    (h : trimEnd t = front ++ [c]) : isBlank c = false := by
  have hreverse := congrArg List.reverse h
  rw [trimEnd, List.reverse_reverse, List.reverse_concat] at hreverse
  exact isBlank_eq_false_of_trimStart hreverse

/-- No blanks are left at the front of a trimmed text. -/
theorem eq_nil_of_trim_eq_append {t front rest : Text} (h : trim t = front ++ rest)
    (hfront : ∀ c ∈ front, isBlank c = true) : front = [] := by
  cases front with
  | nil => rfl
  | cons c front =>
    obtain ⟨back, -, heq⟩ := exists_append_trimEnd (trimStart t)
    rw [trim] at h
    rw [h] at heq
    have hc := isBlank_eq_false_of_trimStart heq.symm
    rw [hfront c List.mem_cons_self] at hc
    cases hc

/-- No blanks are left at the end of a trimmed text. -/
theorem eq_nil_of_trim_eq_append_right {t rest back : Text} (h : trim t = rest ++ back)
    (hback : ∀ c ∈ back, isBlank c = true) : back = [] := by
  rcases List.eq_nil_or_concat back with rfl | ⟨front, c, rfl⟩
  · rfl
  · rw [List.concat_eq_append, ← List.append_assoc] at h
    have hc := isBlank_eq_false_of_trimEnd h
    rw [hback c (by simp)] at hc
    cases hc

theorem length_trimStart_le (t : Text) : (trimStart t).length ≤ t.length := by
  obtain ⟨front, -, heq⟩ := exists_append_trimStart t
  have := congrArg List.length heq
  simp only [List.length_append] at this
  omega

theorem length_trimEnd_le (t : Text) : (trimEnd t).length ≤ t.length := by
  simpa [trimEnd] using length_trimStart_le t.reverse

theorem length_trim_le (t : Text) : (trim t).length ≤ t.length :=
  Nat.le_trans (length_trimEnd_le _) (length_trimStart_le _)

end Text

end DateTemplate
