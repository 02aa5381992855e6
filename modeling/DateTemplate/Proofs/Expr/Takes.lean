import DateTemplate.Expr.Parser

set_option autoImplicit false

/-!
# What the parser takes

Which tokens each move of the parser takes when it succeeds, and what they mean. Main statement:
`ofTokens_eq_ok_iff`, the tokens of an expression are a name, groups of three and the mark of the
end.
-/

namespace DateTemplate.Parser

variable {limits : Limits} {ts rest : Tokens}

/-! ## Single tokens -/

theorem expect_eq_ok_iff {kind : TokenKind} {expected : Expected} {t : Token}
    (hkind : kind ≠ .endOfInput) :
    expect kind expected ts = .ok (t, rest) ↔ ts = t :: rest ∧ t.kind = kind := by
  unfold expect
  constructor
  · intro h
    split at h
    · next hpeek =>
      cases h
      cases ts with
      | nil => exact absurd hpeek.symm hkind
      | cons t ts =>
        have ht : ¬ t.kind = .endOfInput := fun hend => hkind (hpeek.symm.trans hend)
        exact ⟨by rw [peek, advance, if_neg ht], hpeek⟩
    · cases h
  · rintro ⟨rfl, rfl⟩
    rw [peek, if_pos rfl, advance, if_neg hkind]

theorem expect_bind_eq_ok_iff {α : Type} {kind : TokenKind} {expected : Expected}
    {f : Token × Tokens → Except SyntaxError α} {a : α} (hkind : kind ≠ .endOfInput) :
    (expect kind expected ts >>= f) = .ok a ↔
      ∃ t rest, ts = t :: rest ∧ t.kind = kind ∧ f (t, rest) = .ok a := by
  rw [bind_eq_ok]
  constructor
  · rintro ⟨⟨t, rest⟩, htake, hread⟩
    obtain ⟨rfl, ht⟩ := (expect_eq_ok_iff hkind).1 htake
    exact ⟨t, rest, rfl, ht, hread⟩
  · rintro ⟨t, rest, rfl, ht, hread⟩
    exact ⟨(t, rest), (expect_eq_ok_iff hkind).2 ⟨rfl, ht⟩, hread⟩

theorem direction_eq_ok_iff {d : Direction} :
    direction ts = .ok (d, rest) ↔
      ∃ t, ts = t :: rest ∧ t.kind = .operator ∧ Direction.ofSymbol? t.text = some d := by
  unfold direction
  rw [expect_bind_eq_ok_iff (by decide)]
  constructor
  · rintro ⟨t, left, rfl, hkind, hread⟩
    dsimp only at hread
    split at hread
    · next d' hd =>
      cases hread
      exact ⟨t, rfl, hkind, hd⟩
    · cases hread
  · rintro ⟨t, rfl, hkind, hd⟩
    refine ⟨t, rest, rfl, hkind, ?_⟩
    simp only [hd]

theorem amount_eq_ok_iff {n : Nat} :
    amount limits ts = .ok (n, rest) ↔
      ∃ t, ts = t :: rest ∧ t.kind = .number ∧ Decimal.ofDigits t.text = n ∧
        1 ≤ n ∧ n ≤ limits.maxAmount := by
  unfold amount
  rw [expect_bind_eq_ok_iff (by decide)]
  constructor
  · rintro ⟨t, left, rfl, hkind, hread⟩
    dsimp only at hread
    split at hread
    · cases hread
    · next hpos =>
      split at hread
      · cases hread
      · next hmax =>
        cases hread
        exact ⟨t, rfl, hkind, rfl, Nat.pos_of_ne_zero hpos, Nat.le_of_not_lt hmax⟩
  · rintro ⟨t, rfl, hkind, rfl, hpos, hmax⟩
    refine ⟨t, rest, rfl, hkind, ?_⟩
    dsimp only
    rw [if_neg (Nat.ne_of_gt hpos), if_neg (Nat.not_lt.2 hmax)]

theorem unit_eq_ok_iff {u : TimeUnit} :
    unit ts = .ok (u, rest) ↔
      ∃ t, ts = t :: rest ∧ t.kind = .unit ∧ TimeUnit.ofKeyword? t.text = some u := by
  unfold unit
  rw [expect_bind_eq_ok_iff (by decide)]
  constructor
  · rintro ⟨t, left, rfl, hkind, hread⟩
    dsimp only at hread
    split at hread
    · next u' hu =>
      cases hread
      exact ⟨t, rfl, hkind, hu⟩
    · cases hread
  · rintro ⟨t, rfl, hkind, hu⟩
    refine ⟨t, rest, rfl, hkind, ?_⟩
    simp only [hu]

/-! ## Groups -/

/-- Three tokens that stand for a step within the limits. -/
structure IsGroup (limits : Limits) (sign number word : Token) (s : Step) : Prop where
  sign_kind : sign.kind = .operator
  direction : Direction.ofSymbol? sign.text = some s.direction
  number_kind : number.kind = .number
  amount : Decimal.ofDigits number.text = s.amount
  one_le : 1 ≤ s.amount
  le_max : s.amount ≤ limits.maxAmount
  word_kind : word.kind = .unit
  unit : TimeUnit.ofKeyword? word.text = some s.unit

theorem step_eq_ok_iff {s : Step} :
    step limits ts = .ok (s, rest) ↔
      ∃ sign number word, ts = sign :: number :: word :: rest ∧
        IsGroup limits sign number word s := by
  unfold step
  constructor
  · intro h
    obtain ⟨⟨d, left₁⟩, hd, h⟩ := bind_eq_ok.1 h
    obtain ⟨⟨n, left₂⟩, hn, h⟩ := bind_eq_ok.1 h
    obtain ⟨⟨u, left₃⟩, hu, h⟩ := bind_eq_ok.1 h
    cases h
    obtain ⟨sign, rfl, hsign, hdirection⟩ := direction_eq_ok_iff.1 hd
    obtain ⟨number, rfl, hnumber, hamount, hpos, hmax⟩ := amount_eq_ok_iff.1 hn
    obtain ⟨word, rfl, hword, hunit⟩ := unit_eq_ok_iff.1 hu
    exact ⟨sign, number, word, rfl, hsign, hdirection, hnumber, hamount, hpos, hmax, hword, hunit⟩
  · rintro ⟨sign, number, word, rfl, hgroup⟩
    have hd : direction (sign :: number :: word :: rest) =
        .ok (s.direction, number :: word :: rest) :=
      direction_eq_ok_iff.2 ⟨sign, rfl, hgroup.sign_kind, hgroup.direction⟩
    have hn : amount limits (number :: word :: rest) = .ok (s.amount, word :: rest) :=
      amount_eq_ok_iff.2 ⟨number, rfl, hgroup.number_kind, hgroup.amount, hgroup.one_le,
        hgroup.le_max⟩
    have hu : unit (word :: rest) = .ok (s.unit, rest) :=
      unit_eq_ok_iff.2 ⟨word, rfl, hgroup.word_kind, hgroup.unit⟩
    rw [hd]
    simp only [bind, Except.bind, hn, hu]
    rfl

theorem steps_of_ne_operator (h : (peek ts).kind ≠ .operator) : steps limits ts = .ok ([], ts) := by
  rw [steps, if_neg h]

theorem steps_of_step_eq_error {e : SyntaxError} (hsign : (peek ts).kind = .operator)
    (h : step limits ts = .error e) : steps limits ts = .error e := by
  rw [steps, if_pos hsign]
  split
  · next herror =>
    rw [h] at herror
    cases herror
    rfl
  · next hok =>
    rw [h] at hok
    cases hok

theorem steps_of_step_eq_ok {s : Step} (hsign : (peek ts).kind = .operator)
    (h : step limits ts = .ok (s, rest)) :
    steps limits ts = (steps limits rest).map fun p => (s :: p.1, p.2) := by
  rw [steps, if_pos hsign]
  split
  · next herror =>
    rw [h] at herror
    cases herror
  · next hok =>
    rw [h] at hok
    cases hok
    rfl

/-- Groups that are taken from the front of some tokens until no sign follows. -/
inductive Takes (limits : Limits) : Tokens → List Step → Tokens → Prop
  | stop {ts : Tokens} (h : (peek ts).kind ≠ .operator) : Takes limits ts [] ts
  | group {sign number word : Token} {s : Step} {ts rest : Tokens} {ss : List Step}
    (hgroup : IsGroup limits sign number word s) (h : Takes limits ts ss rest) :
    Takes limits (sign :: number :: word :: ts) (s :: ss) rest

theorem steps_eq_ok_iff {ss : List Step} :
    steps limits ts = .ok (ss, rest) ↔ Takes limits ts ss rest := by
  constructor
  · intro h
    fun_induction steps limits ts generalizing ss with
    | case1 => cases h
    | case2 ts hsign s left hstep _ ih =>
      obtain ⟨sign, number, word, rfl, hgroup⟩ := step_eq_ok_iff.1 hstep
      cases hsteps : steps limits left with
      | error e => rw [hsteps] at h; cases h
      | ok p =>
        rw [hsteps] at h
        cases h
        exact .group hgroup (ih hsteps)
    | case3 ts hsign =>
      cases h
      exact .stop hsign
  · intro h
    induction h with
    | stop h => exact steps_of_ne_operator h
    | @group sign number word s ts rest ss hgroup _ ih =>
      have hstep : step limits (sign :: number :: word :: ts) = .ok (s, ts) :=
        step_eq_ok_iff.2 ⟨sign, number, word, rfl, hgroup⟩
      have hpeek : (peek (sign :: number :: word :: ts)).kind = .operator := hgroup.sign_kind
      rw [steps_of_step_eq_ok hpeek hstep, ih]
      rfl

/-- The parser succeeds on a name, groups and the mark of the end. -/
theorem ofTokens_eq_ok_iff {e : Expr} :
    ofTokens limits ts = .ok e ↔
      ∃ t left rest, ts = t :: left ∧ t.kind = .variableName ∧ t.text = e.root ∧
        Takes limits left e.steps rest ∧ (peek rest).kind = .endOfInput := by
  unfold ofTokens expression
  constructor
  · intro h
    obtain ⟨⟨e', rest⟩, hexpression, h⟩ := bind_eq_ok.1 h
    obtain ⟨t, left, rfl, hkind, hexpression⟩ :=
      (expect_bind_eq_ok_iff (by decide)).1 hexpression
    obtain ⟨⟨ss, rest'⟩, hsteps, hexpression⟩ := bind_eq_ok.1 hexpression
    cases hexpression
    obtain ⟨⟨⟩, hfinish, h⟩ := bind_eq_ok.1 h
    cases h
    refine ⟨t, left, rest, rfl, hkind, rfl, steps_eq_ok_iff.1 hsteps, ?_⟩
    unfold finish at hfinish
    split at hfinish
    · next hend => exact hend
    · cases hfinish
  · rintro ⟨t, left, rest, rfl, hkind, htext, htakes, hend⟩
    have hname : expect .variableName .variableName (t :: left) = .ok (t, left) :=
      (expect_eq_ok_iff (by decide)).2 ⟨rfl, hkind⟩
    have hfinish : finish rest = .ok () := if_pos hend
    simp only [bind, Except.bind, hname, steps_eq_ok_iff.2 htakes, pure, Except.pure, hfinish,
      htext]

end DateTemplate.Parser
