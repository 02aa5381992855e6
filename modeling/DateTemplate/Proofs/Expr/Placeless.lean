import DateTemplate.Proofs.Expr.Takes

set_option autoImplicit false

/-!
# The parser does not look at places

Taking away the places of its tokens changes nothing in what the parser does but the places that its
errors name. Main statements: `Blind.bind` and `blind_of_expect`, moves that are put together from
moves blind to places are blind to them too; `ofTokens_map_unplaced`, so is the whole parser.
-/

namespace DateTemplate

/-- A token without its place. -/
def Token.unplaced (t : Token) : Token := { t with offset := 0 }

/-- An error without the place of what it cites. -/
def SyntaxError.unplaced : SyntaxError → SyntaxError
  | tooLong length max => tooLong length max
  | unexpectedChar stray => unexpectedChar { stray with offset := 0 }
  | unexpectedToken expected found => unexpectedToken expected found.unplaced
  | nonPositiveAmount amount => nonPositiveAmount amount.unplaced
  | amountTooLarge amount max => amountTooLarge amount.unplaced max
  | unknownUnit unit => unknownUnit unit.unplaced
  | trailingToken found => trailingToken found.unplaced

namespace Parser

variable {α β : Type} {limits : Limits}

/-! ## Moves that are blind to places -/

/-- What a move comes to, without the places of its error and of the tokens it leaves. -/
def withoutPlaces : Except SyntaxError (α × Tokens) → Except SyntaxError (α × Tokens)
  | .error e => .error e.unplaced
  | .ok (a, ts) => .ok (a, ts.map Token.unplaced)

/-- A move does not look at the places of its tokens. -/
def Blind (move : Tokens → Except SyntaxError (α × Tokens)) : Prop :=
  ∀ ts, move (ts.map Token.unplaced) = withoutPlaces (move ts)

theorem blind_pure (a : α) : Blind fun ts => .ok (a, ts) := fun _ => rfl

/-- One move after another is blind to places if each of them is. -/
theorem Blind.bind {move : Tokens → Except SyntaxError (α × Tokens)}
    {next : α → Tokens → Except SyntaxError (β × Tokens)} (hmove : Blind move)
    (hnext : ∀ a, Blind (next a)) : Blind fun ts => move ts >>= fun p => next p.1 p.2 := by
  intro ts
  dsimp only
  rw [hmove ts]
  cases move ts with
  | error e => rfl
  | ok p => exact hnext p.1 p.2

theorem peek_map_unplaced (ts : Tokens) : peek (ts.map Token.unplaced) = (peek ts).unplaced := by
  cases ts <;> rfl

theorem advance_map_unplaced (ts : Tokens) :
    advance (ts.map Token.unplaced) = (advance ts).map Token.unplaced := by
  cases ts with
  | nil => rfl
  | cons t ts =>
    have hkind : t.unplaced.kind = t.kind := rfl
    simp only [List.map_cons, advance, hkind]
    split <;> rfl

/-- A move that takes one token is blind to places if what it makes of that token is. -/
theorem blind_of_expect {kind : TokenKind} {expected : Expected}
    {read : Token × Tokens → Except SyntaxError (α × Tokens)}
    (hread : ∀ t ts, read (t.unplaced, ts.map Token.unplaced) = withoutPlaces (read (t, ts))) :
    Blind fun ts => expect kind expected ts >>= read := by
  intro ts
  have hkind : (peek ts).unplaced.kind = (peek ts).kind := rfl
  dsimp only
  unfold expect
  rw [peek_map_unplaced, advance_map_unplaced, hkind]
  split
  · exact hread (peek ts) (advance ts)
  · rfl

/-! ## The moves of the parser -/

theorem blind_direction : Blind direction := by
  refine blind_of_expect fun t ts => ?_
  have htext : t.unplaced.text = t.text := rfl
  dsimp only
  rw [htext]
  cases Direction.ofSymbol? t.text <;> rfl

theorem blind_amount : Blind (amount limits) := by
  refine blind_of_expect fun t ts => ?_
  have htext : t.unplaced.text = t.text := rfl
  dsimp only
  rw [htext]
  split
  · rfl
  · split <;> rfl

theorem blind_unit : Blind unit := by
  refine blind_of_expect fun t ts => ?_
  have htext : t.unplaced.text = t.text := rfl
  dsimp only
  rw [htext]
  cases TimeUnit.ofKeyword? t.text <;> rfl

theorem blind_step : Blind (step limits) :=
  blind_direction.bind fun d => blind_amount.bind fun n => blind_unit.bind fun u =>
    blind_pure (Step.mk d n u)

theorem blind_steps : Blind (steps limits) := by
  intro ts
  have hblind : Blind (step limits) := blind_step
  have hpeek : ∀ us : Tokens, (peek (us.map Token.unplaced)).kind = (peek us).kind := fun us => by
    rw [peek_map_unplaced]
    rfl
  fun_induction steps limits ts with
  | case1 ts hsign e hstep =>
    have hstep' := hblind ts
    rw [hstep] at hstep'
    exact steps_of_step_eq_error ((hpeek ts).trans hsign) hstep'
  | case2 ts hsign s left hstep _ ih =>
    have hstep' := hblind ts
    rw [hstep] at hstep'
    rw [steps_of_step_eq_ok ((hpeek ts).trans hsign) hstep', ih]
    cases steps limits left <;> rfl
  | case3 ts hsign =>
    rw [steps_of_ne_operator fun h => hsign ((hpeek ts).symm.trans h)]
    rfl

theorem blind_expression : Blind (expression limits) :=
  blind_of_expect fun t =>
    blind_steps.bind fun ss => blind_pure (Expr.mk t.text ss)

theorem finish_map_unplaced (ts : Tokens) :
    finish (ts.map Token.unplaced) = (finish ts).mapError SyntaxError.unplaced := by
  have hkind : (peek ts).unplaced.kind = (peek ts).kind := rfl
  unfold finish
  rw [peek_map_unplaced, hkind]
  split <;> rfl

/-- **The places of tokens show only in the places of errors.** -/
theorem ofTokens_map_unplaced (ts : Tokens) :
    ofTokens limits (ts.map Token.unplaced) =
      (ofTokens limits ts).mapError SyntaxError.unplaced := by
  unfold ofTokens
  rw [blind_expression ts]
  cases expression limits ts with
  | error e => rfl
  | ok p =>
    simp only [withoutPlaces, bind, Except.bind, finish_map_unplaced]
    cases finish p.2 <;> rfl

end Parser

end DateTemplate
