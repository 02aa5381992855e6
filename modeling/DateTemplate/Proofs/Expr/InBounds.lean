import DateTemplate.Proofs.Expr.Following
import DateTemplate.Proofs.Expr.Grammar
import DateTemplate.Proofs.Expr.Munch
import Mathlib.Control.Monad.Basic

set_option autoImplicit false

/-!
# The parser stays among its tokens

Whatever a parser does with its tokens, one thing after the other and whether it succeeds or not, its
cursor stands at one of them: the last of the tokens of a text, and only that one, marks the end, and
the mark is never taken. Main statements: `exists_visit`, no actions lead to a fault or out of the
tokens; `steps_extends`, the rounds that are allowed for do not show in what the groups come to;
`safe_of_tokenize`.
-/

namespace DateTemplate

open Token

/-- Of the tokens of a text only the last one marks the end. -/
theorem Token.Lexes.length_eq_of_kind {offset i : Nat} {text : Text} {ts : List Token} {t : Token}
    (h : Lexes offset text ts) (hi : ts[i]? = some t) (ht : t.kind = .endOfInput) :
    ts.length = i + 1 := by
  obtain ⟨tokens, rfl, hcovers⟩ := h.exists_covers
  rw [List.length_append, List.length_singleton]
  rcases Nat.lt_trichotomy i tokens.length with hlt | rfl | hgt
  · rw [List.getElem?_append_left hlt] at hi
    exact absurd ht (hcovers.isMunch t (List.mem_of_getElem? hi)).kind_ne
  · rfl
  · rw [List.getElem?_eq_none (by simp; omega)] at hi
    cases hi

namespace TokenCursor

variable {α β : Type} {limits : Limits} {ts : List Token} {c : TokenCursor}

/-! ## Any number of rounds -/

/-- Another move comes to all that a move comes to; where that one has a fault, it may come to anything. -/
def Move.Extends (m m' : Move α) : Prop :=
  ∀ c x, m.outcome c = .ok x → m'.outcome c = .ok x

theorem Move.Extends.bind {m m' : Move α} {f f' : α → Move β} (hm : m.Extends m')
    (hf : ∀ a, (f a).Extends (f' a)) : (m >>= f).Extends (m' >>= f') := by
  intro c x h
  rw [outcome_bind] at h ⊢
  cases hrun : m.outcome c with
  | error fault =>
    rw [hrun] at h
    cases h
  | ok y =>
    obtain ⟨r, c'⟩ := y
    rw [hm c _ hrun]
    rw [hrun] at h
    cases r with
    | error e => exact h
    | ok a => exact hf a c' x h

theorem Move.Extends.refl (m : Move α) : m.Extends m := fun _ _ h => h

/-- What groups come to they come to in more rounds as well. -/
theorem steps_extends {rounds rounds' : Nat} (h : rounds ≤ rounds') (e : Expr) :
    (steps limits ts rounds e).Extends (steps limits ts rounds' e) := by
  induction rounds generalizing rounds' e with
  | zero =>
    rw [steps, steps.eq_def]
    refine .bind (.refl _) ?_
    intro t
    by_cases hsign : t.kind = .operator
    · rw [if_pos hsign]
      intro c x hfault
      cases hfault
    · rw [if_neg hsign, if_neg hsign]
      exact .refl _
  | succ rounds ih =>
    cases rounds' with
    | zero => omega
    | succ rounds' =>
      rw [steps, steps]
      refine .bind (.refl _) ?_
      intro t
      by_cases hsign : t.kind = .operator
      · rw [if_pos hsign, if_pos hsign]
        refine .bind (.refl _) ?_
        intro s
        exact ih (Nat.le_of_succ_le_succ h) (e.push s)
      · rw [if_neg hsign, if_neg hsign]
        exact .refl _

theorem ofTokens_extends {rounds rounds' : Nat} (h : rounds ≤ rounds') :
    (ofTokens limits ts rounds).Extends (ofTokens limits ts rounds') := by
  unfold ofTokens expression
  refine .bind ?_ (fun e => .refl _)
  exact .bind (.refl _) (steps_extends h)

/-! ## Actions in any order -/

/-- What a parser can do. -/
inductive Action where
  | peek
  | advance
  | expect (kind : TokenKind) (expected : Expected)
  | name
  | direction
  | amount
  | unit
  | finish
deriving DecidableEq, Repr

/-- The cursor behind a move, whether the move succeeds or not. -/
def Move.behind (m : Move α) (c : TokenCursor) : Except Fault TokenCursor :=
  (m.outcome c).map Prod.snd

/-- The cursor behind an action. -/
def act (limits : Limits) (ts : List Token) (c : TokenCursor) : Action → Except Fault TokenCursor
  | .peek => (peek ts).behind c
  | .advance => (advance ts).behind c
  | .expect kind expected => (expect ts kind expected).behind c
  | .name => (name ts).behind c
  | .direction => (direction ts).behind c
  | .amount => (amount limits ts).behind c
  | .unit => (unit ts).behind c
  | .finish => (finish ts).behind c

/-- The cursor behind actions one after the other. -/
def visit (limits : Limits) (ts : List Token) (c : TokenCursor) (actions : List Action) :
    Except Fault TokenCursor :=
  actions.foldlM (act limits ts) c

theorem Follows.exists_behind {m : Move α} {result : Except SyntaxError (α × Parser.Tokens)}
    (h : Follows ts c m result) : ∃ c', m.behind c = .ok c' ∧ c'.Inside ts := by
  obtain ⟨r, c', hrun, hc', -⟩ := h
  refine ⟨c', ?_, hc'⟩
  rw [Move.behind, hrun]
  rfl

/-- An action leads from a cursor that is inside to another. -/
theorem exists_act (hts : EndsMarked ts) (hc : c.Inside ts) (a : Action) :
    ∃ c', act limits ts c a = .ok c' ∧ c'.Inside ts := by
  cases a with
  | peek => exact ⟨c, by rw [act, Move.behind, outcome_peek hc]; rfl, hc⟩
  | advance => exact (follows_advance hts hc).exists_behind
  | expect kind expected => exact (follows_expect hts hc kind expected).exists_behind
  | name => exact (follows_name hts hc).exists_behind
  | direction => exact (follows_direction hts hc).exists_behind
  | amount => exact (follows_amount hts hc).exists_behind
  | unit => exact (follows_unit hts hc).exists_behind
  | finish => exact (follows_finish hc).exists_behind

/-- So do actions one after the other. -/
theorem exists_visit (hts : EndsMarked ts) (hc : c.Inside ts) (actions : List Action) :
    ∃ c', visit limits ts c actions = .ok c' ∧ c'.Inside ts := by
  induction actions generalizing c with
  | nil => exact ⟨c, rfl, hc⟩
  | cons a actions ih =>
    obtain ⟨c₁, hact, hc₁⟩ := exists_act hts hc a
    obtain ⟨c₂, hvisit, hc₂⟩ := ih hc₁
    refine ⟨c₂, ?_, hc₂⟩
    rw [visit, List.foldlM_cons, hact]
    exact hvisit

/-- Without a mark at the end there is no token to look at once the last one has been taken. -/
example : visit .standard [⟨.operator, ['+'], 0⟩] start [.direction, .peek] = .error (.noToken 1) := rfl

/-- What there is to say of a cursor that a parser comes to. -/
structure Safe (limits : Limits) (ts : List Token) (c : TokenCursor) : Prop extends c.Inside ts where
  /-- There is a token to look at. -/
  token : ∃ t, ts[c.index]? = some t ∧ (peek ts).outcome c = .ok (.ok t, c)
  /-- A round takes three tokens or comes to an error. -/
  round : ∃ r c', (step limits ts).outcome c = .ok (r, c') ∧ c'.Inside ts ∧
    ∀ s, r = .ok s → c'.index = c.index + 3
  /-- A round for every three tokens behind the next one is enough, and any more are not made. -/
  loop : ∀ e, ∃ r c', c'.Inside ts ∧ ∀ rounds, ts.length ≤ c.index + 1 + 3 * rounds →
    (steps limits ts rounds e).outcome c = .ok (r, c')

theorem Inside.safe (hts : EndsMarked ts) (hc : c.Inside ts) : c.Safe limits ts where
  toInside := hc
  token := by
    obtain ⟨t, hget, hleft⟩ := hc.exists_left_eq
    refine ⟨t, hget, ?_⟩
    rw [outcome_peek hc, hleft]
    rfl
  round := by
    have hstep : Follows ts c (step limits ts) (Parser.step limits (c.left ts)) :=
      follows_step hts hc
    obtain ⟨r, c', hrun, hc', hresult⟩ := hstep
    refine ⟨r, c', hrun, hc', ?_⟩
    rintro s rfl
    exact hc.index_eq_of_length hc' (Parser.length_step hresult)
  loop := by
    intro e
    -- The fewest rounds that are enough.
    have hfewest : ts.length ≤ c.index + 1 + 3 * ((ts.length - c.index + 1) / 3) := by omega
    have hsteps : Follows ts c (steps limits ts _ e) (stepsOnto limits e (c.left ts)) :=
      follows_steps hts hc hfewest e
    obtain ⟨r, c', hrun, hc', -⟩ := hsteps
    refine ⟨r, c', hc', ?_⟩
    intro rounds hrounds
    exact steps_extends (by omega) e c _ hrun

/-- At the mark of the end of a text all its other tokens have been taken. -/
theorem Inside.exists_taken_eq {offset : Nat} {text : Text} (hc : c.Inside ts)
    (hlexes : Lexes offset text ts) (hend : (Parser.peek (c.left ts)).kind = .endOfInput) :
    ∃ tokens mark, ts = tokens ++ [mark] ∧ mark.kind = .endOfInput ∧
      c.taken = List.range tokens.length := by
  obtain ⟨t, hget, hleft⟩ := hc.exists_left_eq
  rw [hleft] at hend
  have hlength := hlexes.length_eq_of_kind hget hend
  obtain ⟨tokens, hsplit, -⟩ := hlexes.exists_covers
  refine ⟨tokens, _, hsplit, rfl, ?_⟩
  rw [hsplit, List.length_append, List.length_singleton] at hlength
  rw [hc.taken_eq, Nat.add_right_cancel hlength]

/-- **A parser never reads past its tokens.** Whatever is done with the tokens of a text, one action after
the other and whether they succeed or not, leads to a cursor at one of them, so that there is always a
token to look at. From there a round of the loop takes three tokens or comes to an error, and the loop
ends, with one round at most for every three tokens behind the next. The whole parser makes no more
rounds than a third of the tokens, stays at one of them, and comes to the expression or the error of the
text, unless the text is too long to be parsed at all; if it succeeds, each token but the mark of the
end, which is the last, has been taken once. -/
theorem safe_of_tokenize (limits : Limits) {input : Text} {ts : List Token}
    (h : tokenize input = .ok ts) :
    (∀ actions, ∃ c, visit limits ts start actions = .ok c ∧ c.Safe limits ts) ∧
    ∃ r c, (∀ rounds, ts.length / 3 ≤ rounds →
        (ofTokens limits ts rounds).outcome start = .ok (r, c)) ∧
      c.index < ts.length ∧
      (input.length ≤ limits.maxLength → Expr.parse limits input = r) ∧
      ∀ e, r = .ok e → ∃ tokens mark, ts = tokens ++ [mark] ∧ mark.kind = .endOfInput ∧
        c.taken = List.range tokens.length := by
  have hlexes := scan_eq_ok_iff.1 h
  have hts := hlexes.endsMarked
  constructor
  · intro actions
    obtain ⟨c, hvisit, hc⟩ := exists_visit hts (inside_start hts) actions
    exact ⟨c, hvisit, hc.safe hts⟩
  · have hrounds : ts.length ≤ 2 + 3 * (ts.length / 3) := by omega
    obtain ⟨c, hrun, hc, hend⟩ := exists_outcome_ofTokens hts hrounds
    refine ⟨Parser.ofTokens limits ts, c, ?_, hc.index_lt, ?_, ?_⟩
    · intro rounds hle
      exact ofTokens_extends hle start _ hrun
    · intro hlength
      exact Expr.parse_of_tokenize hlength h
    · intro e he
      exact hc.exists_taken_eq hlexes (hend e he)

/-- An amount above the limit is taken before it is refused, and other actions fail and take nothing;
still the tokens can all be taken. The parser stays among them where the amount is refused, and takes
all but the mark of the end where it is not. -/
theorem safe_of_tokenize_refused_amount :
    let ts : List Token := [⟨.variableName, ['A'], 0⟩, ⟨.operator, ['+'], 1⟩, ⟨.number, ['1'], 2⟩,
      ⟨.unit, "day".toList, 3⟩, endAt 6]
    tokenize "A+1day".toList = .ok ts ∧
    visit ⟨6, 0⟩ ts start [.amount, .name, .direction, .amount, .name, .unit, .advance, .finish] =
      .ok ⟨4, [0, 1, 2, 3]⟩ ∧
    Safe ⟨6, 0⟩ ts ⟨4, [0, 1, 2, 3]⟩ ∧
    (∃ c, (ofTokens ⟨6, 0⟩ ts 1).outcome start =
        .ok (.error (.amountTooLarge ⟨.number, ['1'], 2⟩ 0), c) ∧ c.index < 5) ∧
    ∃ c, (ofTokens ⟨6, 1⟩ ts 1).outcome start = .ok (.ok ⟨['A'], [⟨.add, 1, .days⟩]⟩, c) ∧
      c.taken = [0, 1, 2, 3] := by
  intro ts
  have htokenize : tokenize "A+1day".toList = .ok ts := by decide +kernel
  have hvisit : visit ⟨6, 0⟩ ts start
      [.amount, .name, .direction, .amount, .name, .unit, .advance, .finish] =
        .ok ⟨4, [0, 1, 2, 3]⟩ := by decide +kernel
  have hrefused : Expr.parse ⟨6, 0⟩ "A+1day".toList =
      .error (.amountTooLarge ⟨.number, ['1'], 2⟩ 0) := by decide +kernel
  have hparse : Expr.parse ⟨6, 1⟩ "A+1day".toList = .ok ⟨['A'], [⟨.add, 1, .days⟩]⟩ := by
    decide +kernel
  refine ⟨htokenize, hvisit, ?_, ?_, ?_⟩
  · obtain ⟨c, hvisit', hsafe⟩ := (safe_of_tokenize ⟨6, 0⟩ htokenize).1
      [.amount, .name, .direction, .amount, .name, .unit, .advance, .finish]
    rw [hvisit] at hvisit'
    cases hvisit'
    exact hsafe
  · obtain ⟨r, c, hrun, hindex, hresult, -⟩ := (safe_of_tokenize ⟨6, 0⟩ htokenize).2
    rw [← hresult (by decide), hrefused] at hrun
    exact ⟨c, hrun 1 (by decide), hindex⟩
  · obtain ⟨r, c, hrun, -, hresult, htaken⟩ := (safe_of_tokenize ⟨6, 1⟩ htokenize).2
    have hr := hresult (by decide)
    rw [hparse] at hr
    obtain ⟨tokens, mark, hsplit, -, htaken⟩ := htaken _ hr.symm
    have hlength : tokens.length = 4 := by
      have hfive : ts.length = 5 := rfl
      rw [hsplit, List.length_append, List.length_singleton] at hfive
      exact Nat.add_right_cancel hfive
    refine ⟨c, ?_, ?_⟩
    · rw [hr]
      exact hrun 1 (by decide)
    · rw [htaken, hlength]
      rfl

end TokenCursor

end DateTemplate
