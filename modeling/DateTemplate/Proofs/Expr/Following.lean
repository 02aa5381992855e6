import DateTemplate.Proofs.Expr.Takes
import DateTemplate.Proofs.Expr.TokenCursor

set_option autoImplicit false

/-!
# Moves of a cursor that follow the parser

The moves of a cursor come to what the moves on the tokens that are left come to, and leave it inside
its tokens, whether they succeed or not. Main statements: `Follows.bind`, moves made one after the other
follow the parser if each of them does; `follows_step` and, in rounds enough, `follows_steps`, so do a
group and the groups; `exists_outcome_ofTokens`, so does the whole parser.
-/

namespace DateTemplate.TokenCursor

open Token

variable {α β : Type} {limits : Limits} {ts : List Token} {c : TokenCursor}

/-! ## Moves that follow the parser -/

/-- From a cursor a move comes to no fault but to what a move on the tokens that are left comes to, and
to a cursor that is inside; if it succeeds, then at the tokens that are left then. -/
def Follows (ts : List Token) (c : TokenCursor) (m : Move α)
    (result : Except SyntaxError (α × Parser.Tokens)) : Prop :=
  ∃ r c', m.outcome c = .ok (r, c') ∧ c'.Inside ts ∧ result = r.map (·, c'.left ts)

theorem follows_pure (hc : c.Inside ts) (a : α) : Follows ts c (pure a) (.ok (a, c.left ts)) :=
  ⟨.ok a, c, outcome_pure a c, hc, rfl⟩

theorem follows_throw (hc : c.Inside ts) (e : SyntaxError) :
    Follows ts c (throw e : Move α) (.error e) :=
  ⟨.error e, c, outcome_throw e c, hc, rfl⟩

/-- One move after another follows the parser if each of them does. -/
theorem Follows.bind {m : Move α} {f : α → Move β} {result : Except SyntaxError (α × Parser.Tokens)}
    {next : α × Parser.Tokens → Except SyntaxError (β × Parser.Tokens)} (hm : Follows ts c m result)
    (hf : ∀ a c', c'.Inside ts → result = .ok (a, c'.left ts) →
      Follows ts c' (f a) (next (a, c'.left ts))) :
    Follows ts c (m >>= f) (result >>= next) := by
  obtain ⟨r, c', hrun, hc', hresult⟩ := hm
  cases r with
  | error e =>
    refine ⟨.error e, c', ?_, hc', ?_⟩
    · rw [outcome_bind, hrun]
    · rw [hresult]
      rfl
  | ok a =>
    obtain ⟨r, c'', hrun', hc'', hnext⟩ := hf a c' hc' hresult
    refine ⟨r, c'', ?_, hc'', ?_⟩
    · rw [outcome_bind, hrun]
      exact hrun'
    · rw [hresult]
      exact hnext

/-- Inside its tokens a cursor always finds the next one, and to look at it changes nothing. -/
theorem outcome_peek (hc : c.Inside ts) :
    (peek ts).outcome c = .ok (.ok (Parser.peek (c.left ts)), c) := by
  obtain ⟨t, hget, hleft⟩ := hc.exists_left_eq
  have hcursor : (get : Move TokenCursor).outcome c = .ok (.ok c, c) := rfl
  unfold peek
  rw [outcome_bind, hcursor, hleft]
  dsimp only
  rw [hget]
  rfl

theorem follows_peek_bind {f : Token → Move β} {result : Except SyntaxError (β × Parser.Tokens)}
    (hc : c.Inside ts) (h : Follows ts c (f (Parser.peek (c.left ts))) result) :
    Follows ts c (peek ts >>= f) result := by
  obtain ⟨r, c', hrun, hc', hresult⟩ := h
  refine ⟨r, c', ?_, hc', hresult⟩
  rw [outcome_bind, outcome_peek hc]
  exact hrun

theorem follows_advance (hts : EndsMarked ts) (hc : c.Inside ts) :
    Follows ts c (advance ts) (.ok (Parser.peek (c.left ts), Parser.advance (c.left ts))) := by
  obtain ⟨t, -, hleft⟩ := hc.exists_left_eq
  unfold advance
  refine follows_peek_bind hc ?_
  by_cases hend : (Parser.peek (c.left ts)).kind = .endOfInput
  · have hadvance : Parser.advance (c.left ts) = c.left ts := by
      rw [hleft] at hend ⊢
      exact if_pos hend
    simp only [hend, ne_eq, not_true_eq_false, if_false, hadvance]
    exact follows_pure hc _
  · have hadvance : Parser.advance (c.left ts) = ts.drop (c.index + 1) := by
      rw [hleft] at hend ⊢
      exact if_neg hend
    simp only [ne_eq, hend, not_false_eq_true, if_true, hadvance]
    exact ⟨_, _, rfl, hc.next hts hend, rfl⟩

theorem follows_expect (hts : EndsMarked ts) (hc : c.Inside ts) (kind : TokenKind)
    (expected : Expected) :
    Follows ts c (expect ts kind expected) (Parser.expect kind expected (c.left ts)) := by
  unfold expect Parser.expect
  refine follows_peek_bind hc ?_
  by_cases hkind : (Parser.peek (c.left ts)).kind = kind
  · rw [if_pos hkind, if_pos hkind]
    exact follows_advance hts hc
  · rw [if_neg hkind, if_neg hkind]
    exact follows_throw hc _

theorem follows_direction (hts : EndsMarked ts) (hc : c.Inside ts) :
    Follows ts c (direction ts) (Parser.direction (c.left ts)) := by
  unfold direction Parser.direction
  refine (follows_expect hts hc .operator .operator).bind ?_
  intro t c' hc' _
  dsimp only
  cases Direction.ofSymbol? t.text with
  | none => exact follows_throw hc' _
  | some d => exact follows_pure hc' d

theorem follows_amount (hts : EndsMarked ts) (hc : c.Inside ts) :
    Follows ts c (amount limits ts) (Parser.amount limits (c.left ts)) := by
  unfold amount Parser.amount
  refine (follows_expect hts hc .number .amount).bind ?_
  intro t c' hc' _
  dsimp only
  by_cases hzero : Decimal.ofDigits t.text = 0
  · rw [if_pos hzero, if_pos hzero]
    exact follows_throw hc' _
  · rw [if_neg hzero, if_neg hzero]
    by_cases hmax : limits.maxAmount < Decimal.ofDigits t.text
    · rw [if_pos hmax, if_pos hmax]
      exact follows_throw hc' _
    · rw [if_neg hmax, if_neg hmax]
      exact follows_pure hc' _

theorem follows_unit (hts : EndsMarked ts) (hc : c.Inside ts) :
    Follows ts c (unit ts) (Parser.unit (c.left ts)) := by
  unfold unit Parser.unit
  refine (follows_expect hts hc .unit .unit).bind ?_
  intro t c' hc' _
  dsimp only
  cases TimeUnit.ofKeyword? t.text with
  | none => exact follows_throw hc' _
  | some u => exact follows_pure hc' u

theorem follows_step (hts : EndsMarked ts) (hc : c.Inside ts) :
    Follows ts c (step limits ts) (Parser.step limits (c.left ts)) := by
  unfold step Parser.step
  refine (follows_direction hts hc).bind ?_
  intro d c₁ hc₁ _
  refine (follows_amount hts hc₁).bind ?_
  intro n c₂ hc₂ _
  refine (follows_unit hts hc₂).bind ?_
  intro u c₃ hc₃ _
  exact follows_pure hc₃ (Step.mk d n u)

/-! ## Groups and whole expressions -/

/-- An expression with the groups put on it that stand before some tokens. -/
def stepsOnto (limits : Limits) (e : Expr) (left : Parser.Tokens) :
    Except SyntaxError (Expr × Parser.Tokens) :=
  (Parser.steps limits left).map fun p => (⟨e.root, e.steps ++ p.1⟩, p.2)

section StepsOnto

variable {left : Parser.Tokens}

theorem stepsOnto_of_ne_operator (e : Expr) (h : (Parser.peek left).kind ≠ .operator) :
    stepsOnto limits e left = .ok (e, left) := by
  simp [stepsOnto, Parser.steps_of_ne_operator h, Except.map]

theorem stepsOnto_of_operator (e : Expr) (h : (Parser.peek left).kind = .operator) :
    stepsOnto limits e left =
      Parser.step limits left >>= fun q => stepsOnto limits (e.push q.1) q.2 := by
  unfold stepsOnto
  cases hstep : Parser.step limits left with
  | error e' =>
    rw [Parser.steps_of_step_eq_error h hstep]
    rfl
  | ok q =>
    rw [Parser.steps_of_step_eq_ok h hstep]
    show _ = (Parser.steps limits q.2).map _
    cases Parser.steps limits q.2 with
    | error e' => rfl
    | ok p => simp [Except.map, Expr.push]

theorem expression_eq_stepsOnto (left : Parser.Tokens) :
    Parser.expression limits left =
      Parser.expect .variableName .variableName left >>= fun q =>
        stepsOnto limits (.ofName q.1.text) q.2 := by
  unfold Parser.expression
  cases Parser.expect .variableName .variableName left with
  | error e => rfl
  | ok q =>
    show _ = (Parser.steps limits q.2).map _
    simp only [bind, Except.bind]
    cases Parser.steps limits q.2 <;> rfl

end StepsOnto

/-- With a round for every three tokens behind the next one the groups come to an end. -/
theorem follows_steps (hts : EndsMarked ts) (hc : c.Inside ts) {rounds : Nat}
    (hrounds : ts.length ≤ c.index + 1 + 3 * rounds) (e : Expr) :
    Follows ts c (steps limits ts rounds e) (stepsOnto limits e (c.left ts)) := by
  -- Each round leaves three tokens fewer to the rounds that are left.
  induction rounds generalizing c e with
  | zero =>
    have hend := hc.kind_peek_of_length_le hts hrounds
    have hsign : (Parser.peek (c.left ts)).kind ≠ .operator := by simp [hend]
    rw [steps, stepsOnto_of_ne_operator e hsign]
    refine follows_peek_bind hc ?_
    rw [if_neg hsign]
    exact follows_pure hc e
  | succ rounds ih =>
    rw [steps]
    refine follows_peek_bind hc ?_
    by_cases hsign : (Parser.peek (c.left ts)).kind = .operator
    · rw [if_pos hsign, stepsOnto_of_operator e hsign]
      refine (follows_step hts hc).bind ?_
      intro s c' hc' hstep
      have hindex := hc.index_eq_of_length hc' (Parser.length_step hstep)
      exact ih hc' (by omega) (e.push s)
    · rw [if_neg hsign, stepsOnto_of_ne_operator e hsign]
      exact follows_pure hc e

theorem follows_name (hts : EndsMarked ts) (hc : c.Inside ts) :
    Follows ts c (name ts) (Parser.expect .variableName .variableName (c.left ts) >>= fun q =>
      .ok (.ofName q.1.text, q.2)) := by
  unfold name
  refine (follows_expect hts hc .variableName .variableName).bind ?_
  intro t c' hc' _
  exact follows_pure hc' (Expr.ofName t.text)

theorem follows_expression (hts : EndsMarked ts) (hc : c.Inside ts) {rounds : Nat}
    (hrounds : ts.length ≤ c.index + 2 + 3 * rounds) :
    Follows ts c (expression limits ts rounds) (Parser.expression limits (c.left ts)) := by
  unfold expression name
  rw [bind_assoc, expression_eq_stepsOnto]
  refine (follows_expect hts hc .variableName .variableName).bind ?_
  intro t c' hc' htake
  have hindex := hc.index_eq_of_length hc' (Parser.length_expect (by decide) htake)
  exact follows_steps hts hc' (by omega) (Expr.ofName t.text)

theorem follows_finish (hc : c.Inside ts) :
    Follows ts c (finish ts) ((Parser.finish (c.left ts)).map (·, c.left ts)) := by
  unfold finish Parser.finish
  refine follows_peek_bind hc ?_
  by_cases hend : (Parser.peek (c.left ts)).kind = .endOfInput
  · rw [if_pos hend, if_pos hend]
    exact follows_pure hc ()
  · rw [if_neg hend, if_neg hend]
    exact follows_throw hc _

/-- A whole expression, with the tokens that are left behind it: the mark of the end. -/
def ofTokensLeft (limits : Limits) (ts : Parser.Tokens) : Except SyntaxError (Expr × Parser.Tokens) :=
  Parser.expression limits ts >>= fun q =>
    (Parser.finish q.2).map (·, q.2) >>= fun p => .ok (q.1, p.2)

theorem ofTokens_eq_map_ofTokensLeft (ts : Parser.Tokens) :
    Parser.ofTokens limits ts = (ofTokensLeft limits ts).map Prod.fst := by
  unfold Parser.ofTokens ofTokensLeft
  cases Parser.expression limits ts with
  | error e => rfl
  | ok q =>
    show (Parser.finish q.2 >>= _) = ((Parser.finish q.2).map _ >>= _).map _
    cases Parser.finish q.2 <;> rfl

theorem kind_of_ofTokensLeft {e : Expr} {rest : Parser.Tokens}
    (h : ofTokensLeft limits ts = .ok (e, rest)) : (Parser.peek rest).kind = .endOfInput := by
  obtain ⟨q, -, h⟩ := Parser.bind_eq_ok.1 h
  obtain ⟨p, hfinish, hp⟩ := Parser.bind_eq_ok.1 h
  unfold Parser.finish at hfinish
  split at hfinish
  · next hend =>
    cases hfinish
    cases hp
    exact hend
  · cases hfinish

theorem follows_ofTokens (hts : EndsMarked ts) {rounds : Nat}
    (hrounds : ts.length ≤ 2 + 3 * rounds) :
    Follows ts start (ofTokens limits ts rounds) (ofTokensLeft limits ts) := by
  unfold ofTokens ofTokensLeft
  refine (follows_expression hts (inside_start hts) (by rwa [start, Nat.zero_add])).bind ?_
  intro e c hc _
  refine (follows_finish hc).bind ?_
  intro _ c' hc' _
  exact follows_pure hc' e

/-- **The parser goes by an index as it goes by the tokens that are left.** With a round for every three
tokens it comes to the same, and to a cursor that is inside; after a success, at the mark of the end. -/
theorem exists_outcome_ofTokens (hts : EndsMarked ts) {rounds : Nat}
    (hrounds : ts.length ≤ 2 + 3 * rounds) :
    ∃ c : TokenCursor, (ofTokens limits ts rounds).outcome start = .ok (Parser.ofTokens limits ts, c) ∧
      c.Inside ts ∧
      ∀ e, Parser.ofTokens limits ts = .ok e → (Parser.peek (c.left ts)).kind = .endOfInput := by
  have hfollows : Follows ts start (ofTokens limits ts rounds) (ofTokensLeft limits ts) :=
    follows_ofTokens hts hrounds
  obtain ⟨r, c, hrun, hc, hresult⟩ := hfollows
  have hall : Parser.ofTokens limits ts = r := by
    rw [ofTokens_eq_map_ofTokensLeft, hresult]
    cases r <;> rfl
  rw [hall]
  refine ⟨c, hrun, hc, ?_⟩
  rintro e rfl
  exact kind_of_ofTokensLeft hresult

end DateTemplate.TokenCursor
