import DateTemplate.Expr.Token

set_option autoImplicit false

/-!
# What the tokens of a text are

`Lexes` says which tokens a text has, without the search for them: runs of one kind, each ending
where the next character does not go on, with blanks around them and the mark of the end behind
them. Main statements: `scan_eq_ok_iff`, the tokens that are found are those of the text;
`scan_eq_error_iff`, none are found just if some character is in no token, and the first such is
reported.
-/

namespace DateTemplate

namespace TokenKind

/-! ## Classes of characters -/

theorem isUpper_iff {c : Char} : c.isUpper = true ↔ 65 ≤ c.toNat ∧ c.toNat ≤ 90 := by
  show decide (65 ≤ c.val ∧ c.val ≤ 90) = true ↔ _
  rw [decide_eq_true_iff, UInt32.le_iff_toNat_le, UInt32.le_iff_toNat_le]
  rfl

theorem isLower_iff {c : Char} : c.isLower = true ↔ 97 ≤ c.toNat ∧ c.toNat ≤ 122 := by
  show (decide (97 ≤ c.val) && decide (c.val ≤ 122)) = true ↔ _
  rw [Bool.and_eq_true, decide_eq_true_iff, decide_eq_true_iff, UInt32.le_iff_toNat_le,
    UInt32.le_iff_toNat_le]
  rfl

theorem eq_underscore_iff {c : Char} : c = '_' ↔ c.toNat = 95 := Char.toNat_inj.symm

/-- The classes of characters that begin tokens do not overlap. -/
theorem ofChar?_eq_some_iff {kind : TokenKind} {c : Char} :
    ofChar? c = some kind ↔
      match kind with
      | variableName => 65 ≤ c.toNat ∧ c.toNat ≤ 90 ∨ c.toNat = 95
      | operator => c.toNat = 43 ∨ c.toNat = 45
      | number => 48 ≤ c.toNat ∧ c.toNat ≤ 57
      | unit => 97 ≤ c.toNat ∧ c.toNat ≤ 122
      | endOfInput => False := by
  have hplus : c = '+' ↔ c.toNat = 43 := Char.toNat_inj.symm
  have hminus : c = '-' ↔ c.toNat = 45 := Char.toNat_inj.symm
  simp only [ofChar?, Bool.or_eq_true, beq_iff_eq, isUpper_iff, isLower_iff,
    Char.isDigit_iff_toNat, Char.reduceToNat, eq_underscore_iff, hplus, hminus]
  cases kind <;> grind

/-- The characters that go on a token are those that could begin it; a sign stands alone. -/
theorem continues_iff {kind : TokenKind} {c : Char} :
    kind.continues c = true ↔ kind ≠ operator ∧ ofChar? c = some kind := by
  rw [ofChar?_eq_some_iff]
  cases kind <;>
    simp [continues, isUpper_iff, isLower_iff, Char.isDigit_iff_toNat, eq_underscore_iff]

/-- The characters that the tokens of a kind are made of. -/
def Has : TokenKind → Char → Prop
  | variableName, c => c.isUpper = true ∨ c = '_'
  | operator, c => c = '+' ∨ c = '-'
  | number, c => c.isDigit = true
  | unit, c => c.isLower = true
  | endOfInput, _ => False

theorem has_iff {kind : TokenKind} {c : Char} : kind.Has c ↔ ofChar? c = some kind := by
  have hplus : c = '+' ↔ c.toNat = 43 := Char.toNat_inj.symm
  have hminus : c = '-' ↔ c.toNat = 45 := Char.toNat_inj.symm
  rw [ofChar?_eq_some_iff]
  cases kind <;>
    simp [Has, isUpper_iff, isLower_iff, Char.isDigit_iff_toNat, eq_underscore_iff, hplus, hminus]

theorem ne_endOfInput_of_ofChar? {kind : TokenKind} {c : Char} (h : ofChar? c = some kind) :
    kind ≠ endOfInput := by
  rintro rfl
  exact ofChar?_eq_some_iff.1 h

theorem isBlank_eq_false_of_ofChar? {kind : TokenKind} {c : Char} (h : ofChar? c = some kind) :
    Text.isBlank c = false := by
  have hrange : 43 ≤ c.toNat ∧ c.toNat ≤ 122 := by
    rw [ofChar?_eq_some_iff] at h
    cases kind <;> simp only at h <;> omega
  simp [Text.isBlank]
  omega

/-! ## Runs -/

/-- A text that can be a token of a kind. -/
def IsRun (kind : TokenKind) (run : Text) : Prop :=
  ∃ c rest, run = c :: rest ∧ ofChar? c = some kind ∧ ∀ d ∈ rest, kind.continues d = true

instance (kind : TokenKind) : DecidablePred kind.IsRun
  | [] => isFalse fun ⟨_, _, h, _⟩ => List.cons_ne_nil _ _ h.symm
  | c :: rest =>
    decidable_of_iff (ofChar? c = some kind ∧ rest.all kind.continues = true)
      ⟨fun ⟨hc, hrest⟩ => ⟨c, rest, rfl, hc, List.all_eq_true.1 hrest⟩,
        fun ⟨_, _, heq, hc, hrest⟩ => by cases heq; exact ⟨hc, List.all_eq_true.2 hrest⟩⟩

theorem IsRun.ofChar?_eq_some {kind : TokenKind} {run : Text} (h : kind.IsRun run) {c : Char}
    (hc : c ∈ run) : ofChar? c = some kind := by
  obtain ⟨d, rest, rfl, hd, hrest⟩ := h
  rcases List.mem_cons.1 hc with rfl | hc
  · exact hd
  · exact (continues_iff.1 (hrest c hc)).2

/-- A token of a kind cannot go on into a text. -/
def Stops (kind : TokenKind) (t : Text) : Prop := ∀ c ∈ t.head?, kind.continues c = false

theorem stops_nil (kind : TokenKind) : kind.Stops [] := by simp [Stops]

theorem stops_operator (t : Text) : operator.Stops t := fun _ _ => rfl

theorem stops_cons_of_ofChar? {kind kind' : TokenKind} {c : Char} {t : Text}
    (h : ofChar? c = some kind') (hne : kind' ≠ kind) : kind.Stops (c :: t) := by
  intro d hd
  cases hd
  refine Bool.eq_false_iff.2 fun hcontinues => hne ?_
  have := (continues_iff.1 hcontinues).2
  rw [h] at this
  exact Option.some.inj this

theorem stops_cons_of_isBlank {c : Char} (hc : Text.isBlank c = true) (kind : TokenKind) (t : Text) :
    kind.Stops (c :: t) := by
  intro d hd
  cases hd
  refine Bool.eq_false_iff.2 fun hcontinues => ?_
  have hblank := isBlank_eq_false_of_ofChar? (continues_iff.1 hcontinues).2
  rw [hc] at hblank
  cases hblank

/-- Blanks and the runs of other kinds end a token. -/
theorem stops_append {kind kind' : TokenKind} {blanks run t : Text}
    (hblanks : ∀ c ∈ blanks, Text.isBlank c = true) (hrun : kind'.IsRun run) (hne : kind' ≠ kind) :
    kind.Stops (blanks ++ (run ++ t)) := by
  cases blanks with
  | nil =>
    obtain ⟨c, rest, rfl, hc, -⟩ := hrun
    exact stops_cons_of_ofChar? hc hne
  | cons b blanks => exact stops_cons_of_isBlank (hblanks b List.mem_cons_self) kind _

theorem stops_dropWhile (kind : TokenKind) (t : Text) :
    kind.Stops (t.dropWhile kind.continues) := by
  intro c hc
  have h := List.head?_dropWhile_not kind.continues t
  rw [hc] at h
  exact h

end TokenKind

namespace Token

open TokenKind

/-! ## Scanning -/

/-- The tokens of a text that begins at a given offset. -/
inductive Lexes : Nat → Text → List Token → Prop
  | done {offset : Nat} {blanks : Text} (hblanks : ∀ c ∈ blanks, Text.isBlank c = true) :
    Lexes offset blanks [endAt (offset + blanks.length)]
  | token {offset : Nat} {blanks run t : Text} {kind : TokenKind} {ts : List Token}
    (hblanks : ∀ c ∈ blanks, Text.isBlank c = true) (hrun : kind.IsRun run) (hstops : kind.Stops t)
    (h : Lexes (offset + blanks.length + run.length) t ts) :
    Lexes offset (blanks ++ (run ++ t)) (⟨kind, run, offset + blanks.length⟩ :: ts)

theorem scan_nil (offset : Nat) : scan offset [] = .ok [endAt offset] := by rw [scan.eq_def]

theorem scan_cons_blank {c : Char} (hc : Text.isBlank c = true) (offset : Nat) (t : Text) :
    scan offset (c :: t) = scan (offset + 1) t := by
  rw [scan.eq_def]
  simp only [if_pos hc]

theorem scan_cons_of_ofChar? {kind : TokenKind} {c : Char} (hc : ofChar? c = some kind)
    (offset : Nat) (t : Text) :
    scan offset (c :: t) =
      (scan (offset + 1 + (t.takeWhile kind.continues).length)
        (t.dropWhile kind.continues)).map
          (⟨kind, c :: t.takeWhile kind.continues, offset⟩ :: ·) := by
  have hblank : ¬ Text.isBlank c = true := by simp [isBlank_eq_false_of_ofChar? hc]
  rw [scan.eq_def]
  simp only [if_neg hblank, hc]

theorem scan_blanks_append {blanks : Text} (hblanks : ∀ c ∈ blanks, Text.isBlank c = true)
    (offset : Nat) (t : Text) : scan offset (blanks ++ t) = scan (offset + blanks.length) t := by
  induction blanks generalizing offset with
  | nil => rfl
  | cons c blanks ih =>
    rw [List.forall_mem_cons] at hblanks
    rw [List.cons_append, scan_cons_blank hblanks.1, ih hblanks.2, List.length_cons]
    congr 1
    omega

theorem scan_run_append {kind : TokenKind} {run t : Text} (hrun : kind.IsRun run)
    (hstops : kind.Stops t) (offset : Nat) :
    scan offset (run ++ t) =
      (scan (offset + run.length) t).map (⟨kind, run, offset⟩ :: ·) := by
  obtain ⟨c, rest, rfl, hc, hrest⟩ := hrun
  obtain ⟨htake, hdrop⟩ := Text.takeWhile_append_of_stops hrest hstops
  rw [List.cons_append, scan_cons_of_ofChar? hc, htake, hdrop, List.length_cons]
  congr 2
  omega

theorem Lexes.cons_blank {offset : Nat} {c : Char} {t : Text} {ts : List Token}
    (hc : Text.isBlank c = true) (h : Lexes (offset + 1) t ts) : Lexes offset (c :: t) ts := by
  have hlength : ∀ blanks : Text,
      offset + 1 + blanks.length = offset + (c :: blanks).length := by
    intro blanks
    rw [List.length_cons]
    omega
  cases h with
  | done hblanks =>
    rw [hlength]
    exact .done (List.forall_mem_cons.2 ⟨hc, hblanks⟩)
  | token hblanks hrun hstops h =>
    rw [hlength] at h ⊢
    exact .token (List.forall_mem_cons.2 ⟨hc, hblanks⟩) hrun hstops h

/-- **Scanning finds the tokens of a text.** -/
theorem scan_eq_ok_iff {offset : Nat} {t : Text} {ts : List Token} :
    scan offset t = .ok ts ↔ Lexes offset t ts := by
  constructor
  · intro h
    fun_induction scan offset t generalizing ts with
    | case1 offset =>
      cases h
      exact .done (by simp)
    | case2 offset c t hblank ih => exact (ih h).cons_blank hblank
    | case3 => cases h
    | case4 offset c t hblank kind hkind run _ =>
      rename_i ih
      cases hscan : scan (offset + 1 + run.length) (t.dropWhile kind.continues) with
      | error stray => rw [hscan] at h; cases h
      | ok ts' =>
        rw [hscan] at h
        cases h
        have hrun : kind.IsRun (c :: run) :=
          ⟨c, run, rfl, hkind, fun d hd => List.all_eq_true.1 List.all_takeWhile d hd⟩
        have hrest := ih hscan
        have hsplit : c :: t = [] ++ (c :: run ++ t.dropWhile kind.continues) := by
          simp [run]
        have hoffset : offset + 1 + run.length =
            offset + ([] : Text).length + (c :: run).length := by
          rw [List.length_nil, List.length_cons]
          omega
        rw [hoffset] at hrest
        rw [hsplit]
        exact .token (by simp) hrun (stops_dropWhile kind t) hrest
  · intro h
    induction h with
    | @done offset blanks hblanks =>
      have := scan_blanks_append hblanks offset []
      rw [List.append_nil] at this
      rw [this, scan_nil]
    | token hblanks hrun hstops _ ih =>
      rw [scan_blanks_append hblanks, scan_run_append hrun hstops, ih]
      rfl

/-- Besides blanks, a text that has tokens is made of the characters that tokens have. -/
theorem Lexes.isBlank_or_ofChar? {offset : Nat} {t : Text} {ts : List Token}
    (h : Lexes offset t ts) : ∀ c ∈ t, Text.isBlank c = true ∨ ∃ kind, ofChar? c = some kind := by
  induction h with
  | done hblanks => exact fun c hc => Or.inl (hblanks c hc)
  | token hblanks hrun _ _ ih =>
    intro c hc
    rcases List.mem_append.1 hc with hc | hc
    · exact Or.inl (hblanks c hc)
    rcases List.mem_append.1 hc with hc | hc
    · exact Or.inr ⟨_, hrun.ofChar?_eq_some hc⟩
    · exact ih c hc

/-! ## Characters that are in no token -/

/-- A character that a text with tokens may hold: a blank, or one that the tokens of some kind are made
of. -/
def IsKnown (c : Char) : Prop := Text.isBlank c = true ∨ ∃ kind : TokenKind, kind.Has c

theorem isKnown_iff {c : Char} :
    IsKnown c ↔ Text.isBlank c = true ∨ ∃ kind, ofChar? c = some kind := by
  simp only [IsKnown, has_iff]

instance : DecidablePred IsKnown := fun c =>
  decidable_of_iff (Text.isBlank c = true ∨ (ofChar? c).isSome = true)
    (by rw [isKnown_iff, Option.isSome_iff_exists])

theorem exists_of_scan_eq_error {offset : Nat} {t : Text} {stray : StrayChar}
    (h : scan offset t = .error stray) :
    ∃ front back, t = front ++ stray.char :: back ∧ stray.offset = offset + front.length ∧
      (∀ c ∈ front, IsKnown c) ∧ ¬ IsKnown stray.char := by
  simp only [isKnown_iff]
  fun_induction scan offset t with
  | case1 offset => cases h
  | case2 offset c t hblank ih =>
    obtain ⟨front, back, rfl, hoffset, hfront, hstray⟩ := ih h
    refine ⟨c :: front, back, rfl, ?_, List.forall_mem_cons.2 ⟨Or.inl hblank, hfront⟩, hstray⟩
    rw [hoffset, List.length_cons]
    omega
  | case3 offset c t hblank hkind =>
    cases h
    exact ⟨[], t, rfl, rfl, by simp, by simp [hblank, hkind]⟩
  | case4 offset c t hblank kind hkind run _ =>
    rename_i ih
    cases hscan : scan (offset + 1 + run.length) (t.dropWhile kind.continues) with
    | ok ts =>
      rw [hscan] at h
      cases h
    | error stray' =>
      rw [hscan] at h
      cases h
      obtain ⟨front, back, hrest, hoffset, hfront, hstray⟩ := ih hscan
      have hrun : ∀ d ∈ run, Text.isBlank d = true ∨ ∃ kind, ofChar? d = some kind := fun d hd =>
        Or.inr ⟨kind, (continues_iff.1 (List.all_eq_true.1 List.all_takeWhile d hd)).2⟩
      refine ⟨c :: (run ++ front), back, ?_, ?_, ?_, hstray⟩
      · rw [List.cons_append, List.append_assoc, ← hrest, List.takeWhile_append_dropWhile]
      · rw [hoffset, List.length_cons, List.length_append]
        omega
      · rw [List.forall_mem_cons, List.forall_mem_append]
        exact ⟨Or.inr ⟨kind, hkind⟩, hrun, hfront⟩

/-- A text parts in one way only at the first character that is not known. -/
theorem eq_of_first_unknown {front front' back back' : Text} {c c' : Char}
    (h : front ++ c :: back = front' ++ c' :: back') (hfront : ∀ a ∈ front, IsKnown a)
    (hc : ¬ IsKnown c) (hfront' : ∀ a ∈ front', IsKnown a) (hc' : ¬ IsKnown c') :
    front = front' ∧ c = c' := by
  rcases List.append_eq_append_iff.1 h with ⟨mid, rfl, hmid⟩ | ⟨mid, rfl, hmid⟩
  · cases mid with
    | nil => exact ⟨(List.append_nil _).symm, (List.cons.inj hmid).1⟩
    | cons a mid =>
      obtain rfl := (List.cons.inj hmid).1
      exact absurd (hfront' _ (by simp)) hc
  · cases mid with
    | nil => exact ⟨List.append_nil _, (List.cons.inj hmid).1.symm⟩
    | cons a mid =>
      obtain rfl := (List.cons.inj hmid).1
      exact absurd (hfront _ (by simp)) hc'

/-- **Scanning fails at the first character that is in no token.** -/
theorem scan_eq_error_iff {offset : Nat} {t : Text} {stray : StrayChar} :
    scan offset t = .error stray ↔
      ∃ front back, t = front ++ stray.char :: back ∧ stray.offset = offset + front.length ∧
        (∀ c ∈ front, IsKnown c) ∧ ¬ IsKnown stray.char := by
  refine ⟨exists_of_scan_eq_error, ?_⟩
  rintro ⟨front, back, ht, hoffset, hfront, hstray⟩
  cases hscan : scan offset t with
  | ok ts =>
    have hknown := (scan_eq_ok_iff.1 hscan).isBlank_or_ofChar? stray.char (by simp [ht])
    exact absurd (isKnown_iff.2 hknown) hstray
  | error stray' =>
    obtain ⟨front', back', ht', hoffset', hfront', hstray'⟩ := exists_of_scan_eq_error hscan
    obtain ⟨rfl, hchar⟩ :=
      eq_of_first_unknown (ht'.symm.trans ht) hfront' hstray' hfront hstray
    obtain ⟨char, place⟩ := stray
    obtain ⟨char', place'⟩ := stray'
    dsimp only at hchar hoffset hoffset'
    rw [hchar, hoffset, hoffset']

/-- Scanning succeeds just if every character is known. -/
theorem exists_scan_eq_ok_iff {offset : Nat} {t : Text} :
    (∃ ts, scan offset t = .ok ts) ↔ ∀ c ∈ t, IsKnown c := by
  constructor
  · rintro ⟨ts, hscan⟩ c hc
    exact isKnown_iff.2 ((scan_eq_ok_iff.1 hscan).isBlank_or_ofChar? c hc)
  · intro hknown
    cases hscan : scan offset t with
    | ok ts => exact ⟨ts, rfl⟩
    | error stray =>
      obtain ⟨front, back, rfl, -, -, hstray⟩ := exists_of_scan_eq_error hscan
      exact absurd (hknown stray.char (by simp)) hstray

end Token

end DateTemplate
