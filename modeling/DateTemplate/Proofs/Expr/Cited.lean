import DateTemplate.Proofs.Expr.Place
import DateTemplate.Proofs.Expr.Takes

set_option autoImplicit false

/-!
# What errors cite

Each move of the parser leaves tokens that still end with the mark, or fails at one of the tokens it
was given. Main statements: `KeepsTo.bind`, moves made one after the other keep to their tokens too;
`keepsTo_expression`, so does the whole parser; `exists_found?_of_ofTokens`, an error cites one of the
tokens.
-/

namespace DateTemplate

/-- The token at fault; the length of a text and a character that begins no token have none. -/
def SyntaxError.found? : SyntaxError → Option Token
  | tooLong .. | unexpectedChar _ => none
  | unexpectedToken _ t | nonPositiveAmount t | amountTooLarge t _ | unknownUnit t
  | trailingToken t => some t

namespace SyntaxError

variable {e : SyntaxError} {t : Token}

theorem token?_of_found? (h : e.found? = some t) : e.token? = some t.text := by
  cases e <;> cases h <;> rfl

theorem offset?_of_found? (h : e.found? = some t) : e.offset? = some t.offset := by
  cases e <;> cases h <;> rfl

end SyntaxError

namespace Parser

open Token

variable {α β : Type} {limits : Limits} {ts rest : Tokens}

/-- A run of two moves fails with the first of them or with the second. -/
theorem bind_eq_error {m : Except SyntaxError α} {f : α → Except SyntaxError β} {e : SyntaxError} :
    (m >>= f) = .error e ↔ m = .error e ∨ ∃ a, m = .ok a ∧ f a = .error e := by
  cases m with
  | error e' => simp [bind, Except.bind]
  | ok a => simp [bind, Except.bind]

/-! ## Moves that keep to their tokens -/

/-- A move keeps to its tokens: of tokens that end with the mark it leaves such tokens behind those it
has taken, or it fails at one of them. -/
structure KeepsTo (move : Tokens → Except SyntaxError (α × Tokens)) : Prop where
  leaves : ∀ {ts rest : Tokens} {a : α}, EndsMarked ts → move ts = .ok (a, rest) →
    EndsMarked rest ∧ rest <:+ ts
  cites : ∀ {ts : Tokens} {e : SyntaxError}, EndsMarked ts → move ts = .error e →
    ∃ t ∈ ts, e.found? = some t

theorem keepsTo_pure (a : α) : KeepsTo fun ts => .ok (a, ts) where
  leaves := by
    intro ts rest b hts h
    cases h
    exact ⟨hts, List.suffix_refl ts⟩
  cites := by
    intro ts e hts h
    cases h

/-- One move after another keeps to the tokens if each of them does. -/
theorem KeepsTo.bind {move : Tokens → Except SyntaxError (α × Tokens)}
    {next : α → Tokens → Except SyntaxError (β × Tokens)} (hmove : KeepsTo move)
    (hnext : ∀ a, KeepsTo (next a)) : KeepsTo fun ts => move ts >>= fun p => next p.1 p.2 where
  leaves := by
    intro ts rest b hts h
    obtain ⟨⟨a, left⟩, hfirst, hsecond⟩ := bind_eq_ok.1 h
    obtain ⟨hleft, hsuffix⟩ := hmove.leaves hts hfirst
    obtain ⟨hrest, hsuffix'⟩ := (hnext a).leaves hleft hsecond
    exact ⟨hrest, hsuffix'.trans hsuffix⟩
  cites := by
    intro ts e hts h
    rcases bind_eq_error.1 h with hfirst | ⟨⟨a, left⟩, hfirst, hsecond⟩
    · exact hmove.cites hts hfirst
    · obtain ⟨hleft, hsuffix⟩ := hmove.leaves hts hfirst
      obtain ⟨t, ht, hfound⟩ := (hnext a).cites hleft hsecond
      exact ⟨t, hsuffix.subset ht, hfound⟩

theorem peek_mem (hts : EndsMarked ts) : peek ts ∈ ts := by
  obtain ⟨t, rest, rfl⟩ := hts.exists_cons
  exact List.mem_cons_self

theorem expect_eq_error {kind : TokenKind} {expected : Expected} {e : SyntaxError}
    (h : expect kind expected ts = .error e) : e.found? = some (peek ts) := by
  unfold expect at h
  split at h
  · cases h
  · cases h
    rfl

/-- A move that takes one token and fails at the next token only keeps to its tokens. -/
theorem keepsTo_of_single {move : Tokens → Except SyntaxError (α × Tokens)}
    (hok : ∀ {ts rest : Tokens} {a : α}, move ts = .ok (a, rest) →
      ∃ t, ts = t :: rest ∧ t.kind ≠ .endOfInput)
    (herror : ∀ {ts : Tokens} {e : SyntaxError}, move ts = .error e → e.found? = some (peek ts)) :
    KeepsTo move where
  leaves := by
    intro ts rest a hts h
    obtain ⟨t, rfl, ht⟩ := hok h
    exact ⟨hts.tail ht, List.suffix_cons t rest⟩
  cites := by
    intro ts e hts h
    exact ⟨peek ts, peek_mem hts, herror h⟩

theorem keepsTo_expect {kind : TokenKind} {expected : Expected} (hkind : kind ≠ .endOfInput) :
    KeepsTo (expect kind expected) := by
  refine keepsTo_of_single ?_ expect_eq_error
  intro ts rest t h
  obtain ⟨rfl, rfl⟩ := (expect_eq_ok_iff hkind).1 h
  exact ⟨t, rfl, hkind⟩

/-- A move that takes one token and reads it fails at that token if the reading does. -/
theorem found?_of_expect_bind {kind : TokenKind} {expected : Expected} {e : SyntaxError}
    {read : Token × Tokens → Except SyntaxError α} (hkind : kind ≠ .endOfInput)
    (herror : ∀ {t : Token} {ts : Tokens}, read (t, ts) = .error e → e.found? = some t)
    (h : (expect kind expected ts >>= read) = .error e) : e.found? = some (peek ts) := by
  rcases bind_eq_error.1 h with hexpect | ⟨⟨t, left⟩, htake, hread⟩
  · exact expect_eq_error hexpect
  · obtain ⟨rfl, -⟩ := (expect_eq_ok_iff hkind).1 htake
    exact herror hread

/-! ## The moves of the parser -/

theorem found?_of_direction {e : SyntaxError} (h : direction ts = .error e) :
    e.found? = some (peek ts) := by
  refine found?_of_expect_bind (by decide) (fun {t left} hread => ?_) h
  dsimp only at hread
  split at hread
  · cases hread
  · cases hread
    rfl

theorem found?_of_amount {e : SyntaxError} (h : amount limits ts = .error e) :
    e.found? = some (peek ts) := by
  refine found?_of_expect_bind (by decide) (fun {t left} hread => ?_) h
  dsimp only at hread
  split at hread
  · cases hread
    rfl
  · split at hread
    · cases hread
      rfl
    · cases hread

theorem found?_of_unit {e : SyntaxError} (h : unit ts = .error e) : e.found? = some (peek ts) := by
  refine found?_of_expect_bind (by decide) (fun {t left} hread => ?_) h
  dsimp only at hread
  split at hread
  · cases hread
  · cases hread
    rfl

theorem keepsTo_direction : KeepsTo direction := by
  refine keepsTo_of_single ?_ found?_of_direction
  intro ts rest d h
  obtain ⟨t, rfl, hkind, -⟩ := direction_eq_ok_iff.1 h
  exact ⟨t, rfl, by simp [hkind]⟩

theorem keepsTo_amount : KeepsTo (amount limits) := by
  refine keepsTo_of_single ?_ found?_of_amount
  intro ts rest n h
  obtain ⟨t, rfl, hkind, -⟩ := amount_eq_ok_iff.1 h
  exact ⟨t, rfl, by simp [hkind]⟩

theorem keepsTo_unit : KeepsTo unit := by
  refine keepsTo_of_single ?_ found?_of_unit
  intro ts rest u h
  obtain ⟨t, rfl, hkind, -⟩ := unit_eq_ok_iff.1 h
  exact ⟨t, rfl, by simp [hkind]⟩

theorem keepsTo_step : KeepsTo (step limits) :=
  keepsTo_direction.bind fun d => keepsTo_amount.bind fun n => keepsTo_unit.bind fun u =>
    keepsTo_pure (Step.mk d n u)

theorem keepsTo_steps : KeepsTo (steps limits) where
  leaves := by
    intro ts rest ss hts h
    fun_induction steps limits ts generalizing ss with
    | case1 => cases h
    | case2 ts hsign s left hstep _ ih =>
      obtain ⟨hleft, hsuffix⟩ := keepsTo_step.leaves hts hstep
      cases hsteps : steps limits left with
      | error e =>
        rw [hsteps] at h
        cases h
      | ok p =>
        rw [hsteps] at h
        cases h
        obtain ⟨hrest, hsuffix'⟩ := ih hleft hsteps
        exact ⟨hrest, hsuffix'.trans hsuffix⟩
    | case3 ts hsign =>
      cases h
      exact ⟨hts, List.suffix_refl _⟩
  cites := by
    intro ts e hts h
    fun_induction steps limits ts with
    | case1 ts hsign e' hstep =>
      cases h
      exact keepsTo_step.cites hts hstep
    | case2 ts hsign s left hstep _ ih =>
      obtain ⟨hleft, hsuffix⟩ := keepsTo_step.leaves hts hstep
      cases hsteps : steps limits left with
      | ok p =>
        rw [hsteps] at h
        cases h
      | error e' =>
        rw [hsteps] at h
        cases h
        obtain ⟨t, ht, hfound⟩ := ih hleft hsteps
        exact ⟨t, hsuffix.subset ht, hfound⟩
    | case3 ts hsign => cases h

theorem keepsTo_expression : KeepsTo (expression limits) :=
  (keepsTo_expect (by decide)).bind fun t => keepsTo_steps.bind fun ss =>
    keepsTo_pure (Expr.mk t.text ss)

/-- **An error of the parser cites one of its tokens.** -/
theorem exists_found?_of_ofTokens {e : SyntaxError} (hts : EndsMarked ts)
    (h : ofTokens limits ts = .error e) : ∃ t ∈ ts, e.found? = some t := by
  rcases bind_eq_error.1 h with hexpression | ⟨⟨expr, rest⟩, hexpression, h⟩
  · exact keepsTo_expression.cites hts hexpression
  · obtain ⟨hrest, hsuffix⟩ := keepsTo_expression.leaves hts hexpression
    rcases bind_eq_error.1 h with hfinish | ⟨_, -, hpure⟩
    · unfold finish at hfinish
      split at hfinish
      · cases hfinish
      · cases hfinish
        exact ⟨peek rest, hsuffix.subset (peek_mem hrest), rfl⟩
    · cases hpure

end Parser

end DateTemplate
