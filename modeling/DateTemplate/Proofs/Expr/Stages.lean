import DateTemplate.Proofs.Expr.Cited

set_option autoImplicit false

/-!
# What may come next

While an expression is read token by token, one thing has to come next: its name, a sign or the end, an
amount, a unit. Main statements: `exists_after?_of_ofTokens`, the tokens of an expression lead from its
name to its end; `exists_stuckAt_of_ofTokens`, an error cites the first token that cannot come where it
stands.
-/

namespace DateTemplate

/-- What a token is, wherever it stands. -/
def Token.piece (t : Token) : TokenKind × Text := (t.kind, t.text)

/-- What has to come next in an expression. -/
inductive Stage where
  | name
  /-- A sign, or the end. -/
  | sign
  | amount
  | unit
  /-- Nothing more: the end has been read. -/
  | done
deriving DecidableEq, Repr

namespace Stage

/-- The stage behind the next piece, if that piece may come at a stage. -/
def next? (maxAmount : Nat) : Stage → TokenKind × Text → Option Stage
  | name, (.variableName, _) => some sign
  | sign, (.operator, t) => if (Direction.ofSymbol? t).isSome then some amount else none
  | sign, (.endOfInput, _) => some done
  | amount, (.number, t) =>
    if 1 ≤ Decimal.ofDigits t ∧ Decimal.ofDigits t ≤ maxAmount then some unit else none
  | unit, (.unit, t) => if (TimeUnit.ofKeyword? t).isSome then some sign else none
  | _, _ => none

/-- The stage behind pieces one after the other, if each of them may come. -/
def after? (maxAmount : Nat) (stage : Stage) (pieces : List (TokenKind × Text)) : Option Stage :=
  pieces.foldlM (next? maxAmount) stage

variable {maxAmount : Nat} {stage : Stage} {p : TokenKind × Text}

@[simp] theorem after?_nil : after? maxAmount stage [] = some stage := rfl

theorem after?_cons (ps : List (TokenKind × Text)) :
    after? maxAmount stage (p :: ps) = (next? maxAmount stage p).bind (after? maxAmount · ps) := by
  rw [after?, List.foldlM_cons]
  rfl

theorem after?_append (ps qs : List (TokenKind × Text)) :
    after? maxAmount stage (ps ++ qs) =
      (after? maxAmount stage ps).bind (after? maxAmount · qs) := by
  rw [after?, List.foldlM_append]
  rfl

theorem next?_name_eq_some_iff {stage' : Stage} :
    next? maxAmount name p = some stage' ↔ p.1 = .variableName ∧ stage' = sign := by
  obtain ⟨kind, text⟩ := p
  cases kind <;> simp [next?, @eq_comm _ stage']

theorem next?_sign_eq_some_iff {stage' : Stage} :
    next? maxAmount sign p = some stage' ↔
      p.1 = .operator ∧ (∃ d, Direction.ofSymbol? p.2 = some d) ∧ stage' = amount ∨
        p.1 = .endOfInput ∧ stage' = done := by
  obtain ⟨kind, text⟩ := p
  cases kind <;> simp [next?, Option.isSome_iff_exists, @eq_comm _ stage']

theorem next?_amount_eq_some_iff {stage' : Stage} :
    next? maxAmount amount p = some stage' ↔
      p.1 = .number ∧ 1 ≤ Decimal.ofDigits p.2 ∧ Decimal.ofDigits p.2 ≤ maxAmount ∧
        stage' = unit := by
  obtain ⟨kind, text⟩ := p
  cases kind <;> simp [next?, and_assoc, @eq_comm _ stage']

theorem next?_unit_eq_some_iff {stage' : Stage} :
    next? maxAmount unit p = some stage' ↔
      p.1 = .unit ∧ (∃ u, TimeUnit.ofKeyword? p.2 = some u) ∧ stage' = sign := by
  obtain ⟨kind, text⟩ := p
  cases kind <;> simp [next?, Option.isSome_iff_exists, @eq_comm _ stage']

/-- Only the end leads to the end. -/
theorem kind_of_next?_eq_done (h : next? maxAmount stage p = some done) : p.1 = .endOfInput := by
  unfold next? at h
  split at h
  · cases h
  · split at h <;> cases h
  · rfl
  · split at h <;> cases h
  · split at h <;> cases h
  · cases h

/-- The name comes first and only there. -/
theorem next?_ne_name : next? maxAmount stage p ≠ some name := by
  unfold next?
  split <;> (try split) <;> simp

end Stage

namespace Parser

open Token Stage

variable {limits : Limits} {ts rest : Tokens} {e : SyntaxError}

/-! ## Stuck tokens -/

/-- Of tokens that come next at a stage the ones before a certain token may come, and that one may
not. -/
def StuckAt (maxAmount : Nat) (stage : Stage) (ts : Tokens) (t : Token) : Prop :=
  ∃ before after stage', ts = before ++ t :: after ∧
    after? maxAmount stage (before.map piece) = some stage' ∧ next? maxAmount stage' t.piece = none

theorem stuckAt_head {maxAmount : Nat} {stage : Stage} {t : Token} (ts : Tokens)
    (h : next? maxAmount stage t.piece = none) : StuckAt maxAmount stage (t :: ts) t :=
  ⟨[], ts, stage, rfl, rfl, h⟩

/-- Tokens that may come can be put in front. -/
theorem StuckAt.append {maxAmount : Nat} {stage stage' : Stage} {front : Tokens} {t : Token}
    (h : StuckAt maxAmount stage' ts t)
    (hfront : after? maxAmount stage (front.map piece) = some stage') :
    StuckAt maxAmount stage (front ++ ts) t := by
  obtain ⟨before, after, stage'', rfl, hbefore, hnext⟩ := h
  refine ⟨front ++ before, after, stage'', by rw [List.append_assoc], ?_, hnext⟩
  rw [List.map_append, after?_append, hfront, Option.bind_some, hbefore]

theorem StuckAt.cons {maxAmount : Nat} {stage stage' : Stage} {u t : Token}
    (h : StuckAt maxAmount stage' ts t) (hu : next? maxAmount stage u.piece = some stage') :
    StuckAt maxAmount stage (u :: ts) t := by
  have hfront : after? maxAmount stage ([u].map piece) = some stage' := by simp [after?_cons, hu]
  exact h.append hfront

/-! ## Moves and stages -/

theorem next?_of_direction {t : Token} (hkind : t.kind = .operator)
    (h : direction (t :: ts) = .error e) : next? limits.maxAmount sign t.piece = none := by
  refine Option.eq_none_iff_forall_ne_some.2 fun stage hstage => ?_
  rcases next?_sign_eq_some_iff.1 hstage with ⟨-, ⟨d, hsymbol⟩, -⟩ | ⟨hend, -⟩
  · rw [direction_eq_ok_iff.2 ⟨t, rfl, hkind, hsymbol⟩] at h
    cases h
  · rw [piece, hkind] at hend
    cases hend

theorem next?_of_amount {t : Token} (h : amount limits (t :: ts) = .error e) :
    next? limits.maxAmount .amount t.piece = none := by
  refine Option.eq_none_iff_forall_ne_some.2 fun stage hstage => ?_
  obtain ⟨hkind, hpos, hmax, -⟩ := next?_amount_eq_some_iff.1 hstage
  rw [amount_eq_ok_iff.2 ⟨t, rfl, hkind, rfl, hpos, hmax⟩] at h
  cases h

theorem next?_of_unit {t : Token} (h : unit (t :: ts) = .error e) :
    next? limits.maxAmount .unit t.piece = none := by
  refine Option.eq_none_iff_forall_ne_some.2 fun stage hstage => ?_
  obtain ⟨hkind, ⟨u, hword⟩, -⟩ := next?_unit_eq_some_iff.1 hstage
  rw [unit_eq_ok_iff.2 ⟨t, rfl, hkind, hword⟩] at h
  cases h

/-- A group leads on to the next sign. -/
theorem after?_group {sign number word : Token} {s : Step}
    (hgroup : IsGroup limits sign number word s) :
    after? limits.maxAmount .sign ([sign, number, word].map piece) = some .sign := by
  obtain ⟨hsign, hsymbol, hnumber, hamount, hpos, hmax, hword, hunit⟩ := hgroup
  have hsign' : next? limits.maxAmount .sign sign.piece = some .amount :=
    next?_sign_eq_some_iff.2 (Or.inl ⟨hsign, ⟨_, hsymbol⟩, rfl⟩)
  have hnumber' : next? limits.maxAmount .amount number.piece = some .unit :=
    next?_amount_eq_some_iff.2 ⟨hnumber, hamount ▸ hpos, hamount ▸ hmax, rfl⟩
  have hword' : next? limits.maxAmount .unit word.piece = some .sign :=
    next?_unit_eq_some_iff.2 ⟨hword, ⟨_, hunit⟩, rfl⟩
  simp [after?_cons, hsign', hnumber', hword']

theorem exists_after?_of_takes {ss : List Step} (h : Takes limits ts ss rest) :
    ∃ taken, ts = taken ++ rest ∧
      after? limits.maxAmount sign (taken.map piece) = some sign ∧
      (peek rest).kind ≠ .operator := by
  induction h with
  | stop h => exact ⟨[], rfl, rfl, h⟩
  | @group sign number word s ts rest ss hgroup _ ih =>
    obtain ⟨taken, rfl, hafter, hrest⟩ := ih
    refine ⟨[sign, number, word] ++ taken, rfl, ?_, hrest⟩
    rw [List.map_append, after?_append, after?_group hgroup, Option.bind_some, hafter]

/-- A group that fails is stuck at its sign, its amount or its unit. -/
theorem exists_stuckAt_of_step (hts : EndsMarked ts) (hsign : (peek ts).kind = .operator)
    (h : step limits ts = .error e) :
    ∃ t, e.found? = some t ∧ StuckAt limits.maxAmount sign ts t := by
  rcases bind_eq_error.1 h with hdirection | ⟨⟨d, left⟩, hd, hbehind⟩
  · obtain ⟨t, ts, rfl⟩ := hts.exists_cons
    exact ⟨t, found?_of_direction hdirection, stuckAt_head ts (next?_of_direction hsign hdirection)⟩
  have hleft := (keepsTo_direction.leaves hts hd).1
  obtain ⟨sign, rfl, hkind, hsymbol⟩ := direction_eq_ok_iff.1 hd
  have hnext : next? limits.maxAmount .sign sign.piece = some .amount :=
    next?_sign_eq_some_iff.2 (Or.inl ⟨hkind, ⟨d, hsymbol⟩, rfl⟩)
  rcases bind_eq_error.1 hbehind with hamount | ⟨⟨n, left'⟩, hn, hbehind'⟩
  · obtain ⟨t, ts, rfl⟩ := hleft.exists_cons
    exact ⟨t, found?_of_amount hamount, (stuckAt_head ts (next?_of_amount hamount)).cons hnext⟩
  have hleft' := (keepsTo_amount.leaves hleft hn).1
  obtain ⟨number, rfl, hkind', rfl, hpos, hmax⟩ := amount_eq_ok_iff.1 hn
  have hnext' : next? limits.maxAmount .amount number.piece = some .unit :=
    next?_amount_eq_some_iff.2 ⟨hkind', hpos, hmax, rfl⟩
  rcases bind_eq_error.1 hbehind' with hunit | ⟨⟨u, left''⟩, -, hpure⟩
  · obtain ⟨t, ts, rfl⟩ := hleft'.exists_cons
    exact ⟨t, found?_of_unit hunit,
      ((stuckAt_head ts (next?_of_unit hunit)).cons hnext').cons hnext⟩
  · cases hpure

theorem exists_stuckAt_of_steps (hts : EndsMarked ts) (h : steps limits ts = .error e) :
    ∃ t, e.found? = some t ∧ StuckAt limits.maxAmount sign ts t := by
  fun_induction steps limits ts with
  | case1 ts hsign e' hstep =>
    cases h
    exact exists_stuckAt_of_step hts hsign hstep
  | case2 ts hsign s left hstep _ ih =>
    have hleft := (keepsTo_step.leaves hts hstep).1
    obtain ⟨sign, number, word, rfl, hgroup⟩ := step_eq_ok_iff.1 hstep
    cases hsteps : steps limits left with
    | ok p =>
      rw [hsteps] at h
      cases h
    | error e' =>
      rw [hsteps] at h
      cases h
      obtain ⟨t, hfound, hstuck⟩ := ih hleft hsteps
      exact ⟨t, hfound, hstuck.append (after?_group hgroup)⟩
  | case3 ts hsign => cases h

/-! ## Whole expressions -/

theorem next?_of_expect {t : Token}
    (h : expect .variableName .variableName (t :: ts) = .error e) :
    next? limits.maxAmount name t.piece = none := by
  refine Option.eq_none_iff_forall_ne_some.2 fun stage hstage => ?_
  obtain ⟨hkind, -⟩ := next?_name_eq_some_iff.1 hstage
  rw [(expect_eq_ok_iff (by decide)).2 ⟨rfl, hkind⟩] at h
  cases h

theorem next?_of_finish {t : Token} (hoperator : t.kind ≠ .operator)
    (h : finish (t :: ts) = .error e) :
    e.found? = some t ∧ next? limits.maxAmount sign t.piece = none := by
  unfold finish at h
  split at h
  · cases h
  · next hend =>
    cases h
    refine ⟨rfl, Option.eq_none_iff_forall_ne_some.2 fun stage hstage => ?_⟩
    rcases next?_sign_eq_some_iff.1 hstage with ⟨hkind, -⟩ | ⟨hkind, -⟩
    · exact hoperator hkind
    · exact hend hkind

/-- What is taken as an expression leads from its name to the next sign or the end. -/
theorem exists_after?_of_expression {expr : Expr} (h : expression limits ts = .ok (expr, rest)) :
    ∃ taken, ts = taken ++ rest ∧
      after? limits.maxAmount name (taken.map piece) = some sign ∧ (peek rest).kind ≠ .operator := by
  obtain ⟨t, left, rfl, hkind, hbehind⟩ := (expect_bind_eq_ok_iff (by decide)).1 h
  obtain ⟨⟨ss, rest'⟩, hsteps, hpure⟩ := bind_eq_ok.1 hbehind
  cases hpure
  obtain ⟨taken, rfl, hafter, hrest⟩ := exists_after?_of_takes (steps_eq_ok_iff.1 hsteps)
  refine ⟨t :: taken, rfl, ?_, hrest⟩
  rw [List.map_cons, after?_cons, next?_name_eq_some_iff.2 ⟨hkind, rfl⟩, Option.bind_some, hafter]

theorem exists_stuckAt_of_expression (hts : EndsMarked ts) (h : expression limits ts = .error e) :
    ∃ t, e.found? = some t ∧ StuckAt limits.maxAmount name ts t := by
  rcases bind_eq_error.1 h with hname | ⟨⟨t, left⟩, hname, hbehind⟩
  · obtain ⟨t, left, rfl⟩ := hts.exists_cons
    exact ⟨t, expect_eq_error hname, stuckAt_head left (next?_of_expect hname)⟩
  have hleft := ((keepsTo_expect (by decide)).leaves hts hname).1
  obtain ⟨rfl, hkind⟩ := (expect_eq_ok_iff (by decide)).1 hname
  rcases bind_eq_error.1 hbehind with hsteps | ⟨_, -, hpure⟩
  · obtain ⟨t', hfound, hstuck⟩ := exists_stuckAt_of_steps hleft hsteps
    exact ⟨t', hfound, hstuck.cons (next?_name_eq_some_iff.2 ⟨hkind, rfl⟩)⟩
  · cases hpure

/-- **The tokens of an expression lead from its name to its end.** -/
theorem exists_after?_of_ofTokens {expr : Expr} (hts : EndsMarked ts)
    (h : ofTokens limits ts = .ok expr) :
    ∃ taken t rest, ts = taken ++ t :: rest ∧ t.kind = .endOfInput ∧
      after? limits.maxAmount name ((taken ++ [t]).map piece) = some done := by
  obtain ⟨⟨expr', rest⟩, hexpression, hbehind⟩ := bind_eq_ok.1 h
  obtain ⟨_, hfinish, -⟩ := bind_eq_ok.1 hbehind
  have hrest := (keepsTo_expression.leaves hts hexpression).1
  obtain ⟨taken, rfl, hafter, -⟩ := exists_after?_of_expression hexpression
  obtain ⟨t, rest, rfl⟩ := hrest.exists_cons
  have hend : t.kind = .endOfInput := by
    unfold finish at hfinish
    split at hfinish
    · next hend => exact hend
    · cases hfinish
  refine ⟨taken, t, rest, rfl, hend, ?_⟩
  rw [List.map_append, after?_append, hafter, Option.bind_some, List.map_singleton, after?_cons,
    next?_sign_eq_some_iff.2 (Or.inr ⟨hend, rfl⟩)]
  rfl

/-- **An error cites the first token that cannot come where it stands.** -/
theorem exists_stuckAt_of_ofTokens (hts : EndsMarked ts) (h : ofTokens limits ts = .error e) :
    ∃ t, e.found? = some t ∧ StuckAt limits.maxAmount name ts t := by
  rcases bind_eq_error.1 h with hexpression | ⟨⟨expr, rest⟩, hexpression, hbehind⟩
  · exact exists_stuckAt_of_expression hts hexpression
  rcases bind_eq_error.1 hbehind with hfinish | ⟨_, -, hpure⟩
  · have hrest := (keepsTo_expression.leaves hts hexpression).1
    obtain ⟨taken, rfl, hafter, hoperator⟩ := exists_after?_of_expression hexpression
    obtain ⟨t, rest, rfl⟩ := hrest.exists_cons
    obtain ⟨hfound, hnext⟩ := next?_of_finish hoperator hfinish
    exact ⟨t, hfound, (stuckAt_head rest hnext).append hafter⟩
  · cases hpure

end Parser

end DateTemplate
