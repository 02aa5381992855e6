import DateTemplate.Expr.Parser
import DateTemplate.Proofs.Expr.Place

set_option autoImplicit false

/-!
# Parsing by an index

Instead of the tokens that are left a parser may hold all of them and the index of the next. Its moves
come to a value or to an error, and either way to a cursor: one that fails may have gone on before. To
look at a token where there is none is a fault. Main statements: `outcome_bind`, what moves made one
after the other come to; `Inside.next`, a cursor that takes a token other than the mark of the end is
still inside its tokens.
-/

namespace DateTemplate

/-- Where a parser stands in its tokens. -/
structure TokenCursor where
  /-- The index of the next token. -/
  index : Nat
  /-- The indices of the tokens that have been taken, one for each time. -/
  taken : List Nat
deriving DecidableEq, Repr

namespace TokenCursor

/-- Why a move comes to nothing. -/
inductive Fault where
  /-- The list has no token at an index. -/
  | noToken (index : Nat)
  /-- More groups follow than there are rounds for. -/
  | noRounds
deriving DecidableEq, Repr

/-- A move comes to a value or an error, and to a cursor in both cases, or there is a fault. -/
abbrev Move := ExceptT SyntaxError (StateT TokenCursor (Except Fault))

/-- What a move comes to from a cursor. -/
def Move.outcome {α : Type} (m : Move α) (c : TokenCursor) :
    Except Fault (Except SyntaxError α × TokenCursor) :=
  m.run.run c

/-- At the first token, with none taken. -/
def start : TokenCursor := ⟨0, []⟩

section Moves

variable (limits : Limits) (ts : List Token)

/-- The next token. -/
def peek : Move Token := do
  let c ← get
  match ts[c.index]? with
  | some t => return t
  | none => throwThe Fault (.noToken c.index)

/-- Takes the next token, unless it marks the end. -/
def advance : Move Token := do
  let t ← peek ts
  if t.kind ≠ .endOfInput then modify fun c => ⟨c.index + 1, c.taken ++ [c.index]⟩
  return t

/-- Takes a token of the given kind. -/
def expect (kind : TokenKind) (expected : Expected) : Move Token := do
  let t ← peek ts
  if t.kind = kind then advance ts else throw (.unexpectedToken expected t)

/-- Takes a variable. -/
def name : Move Expr := do
  let t ← expect ts .variableName .variableName
  return .ofName t.text

/-- Takes a sign. -/
def direction : Move Direction := do
  let t ← expect ts .operator .operator
  match Direction.ofSymbol? t.text with
  | some d => return d
  | none => throw (.unexpectedToken .operator t)

/-- Takes an amount, a number from 1 up to the greatest one allowed. -/
def amount : Move Nat := do
  let t ← expect ts .number .amount
  let n := Decimal.ofDigits t.text
  if n = 0 then throw (.nonPositiveAmount t)
  else if limits.maxAmount < n then throw (.amountTooLarge t limits.maxAmount)
  else return n

/-- Takes the word for a unit. -/
def unit : Move TimeUnit := do
  let t ← expect ts .unit .unit
  match TimeUnit.ofKeyword? t.text with
  | some u => return u
  | none => throw (.unknownUnit t)

/-- Takes a sign, an amount and a unit. -/
def step : Move Step := do
  let d ← direction ts
  let n ← amount limits ts
  let u ← unit ts
  return ⟨d, n, u⟩

/-- Puts groups on an expression as long as the next token is a sign, one in each round. -/
def steps : Nat → Expr → Move Expr
  | rounds, e => do
    let t ← peek ts
    if t.kind = .operator then
      match rounds with
      | 0 => throwThe Fault .noRounds
      | rounds + 1 => do
        let s ← step limits ts
        steps rounds (e.push s)
    else return e

/-- Takes a variable and the groups behind it. -/
def expression (rounds : Nat) : Move Expr := do
  let e ← name ts
  steps limits ts rounds e

/-- Only the mark of the end may be left. -/
def finish : Move Unit := do
  let t ← peek ts
  if t.kind = .endOfInput then return () else throw (.trailingToken t)

/-- The expression that all the tokens make. -/
def ofTokens (rounds : Nat) : Move Expr := do
  let e ← expression limits ts rounds
  finish ts
  return e

end Moves

open Token

variable {α β : Type} {limits : Limits} {ts : List Token} {c : TokenCursor}

/-! ## Moves one after the other -/

theorem outcome_pure (a : α) (c : TokenCursor) : (pure a : Move α).outcome c = .ok (.ok a, c) := rfl

theorem outcome_throw (e : SyntaxError) (c : TokenCursor) :
    (throw e : Move α).outcome c = .ok (.error e, c) := rfl

/-- A value is passed on to the second move; an error or a fault ends both. -/
theorem outcome_bind (m : Move α) (f : α → Move β) (c : TokenCursor) :
    (m >>= f).outcome c =
      match m.outcome c with
      | .ok (.ok a, c') => (f a).outcome c'
      | .ok (.error e, c') => .ok (.error e, c')
      | .error fault => .error fault := by
  show Except.bind (m.outcome c) _ = _
  rcases m.outcome c with fault | ⟨e | a, c'⟩
  · rfl
  · rfl
  · rfl

/-! ## Cursors inside their tokens -/

/-- The tokens that are left at a cursor. -/
def left (c : TokenCursor) (ts : List Token) : Parser.Tokens := ts.drop c.index

/-- A cursor stands at one of the tokens, and each token before it has been taken once. -/
structure Inside (c : TokenCursor) (ts : List Token) : Prop where
  index_lt : c.index < ts.length
  taken_eq : c.taken = List.range c.index

theorem inside_start (hts : EndsMarked ts) : start.Inside ts := by
  obtain ⟨t, rest, rfl⟩ := hts.exists_cons
  exact ⟨Nat.succ_pos _, rfl⟩

namespace Inside

theorem exists_left_eq (hc : c.Inside ts) :
    ∃ t, ts[c.index]? = some t ∧ c.left ts = t :: ts.drop (c.index + 1) := by
  have hget := List.getElem?_eq_getElem hc.index_lt
  refine ⟨_, hget, ?_⟩
  rw [left, List.drop_eq_getElem?_toList_append, hget]
  rfl

theorem length_left (hc : c.Inside ts) : (c.left ts).length + c.index = ts.length := by
  have := hc.index_lt
  rw [left, List.length_drop]
  omega

/-- A cursor has moved on by as many tokens as there are fewer left. -/
theorem index_eq_of_length {c' : TokenCursor} {n : Nat} (hc : c.Inside ts) (hc' : c'.Inside ts)
    (h : (c'.left ts).length + n = (c.left ts).length) : c'.index = c.index + n := by
  have := hc.length_left
  have := hc'.length_left
  omega

/-- The tokens that are left end with the mark if all the tokens do. -/
theorem endsMarked_left (hc : c.Inside ts) (hts : EndsMarked ts) : EndsMarked (c.left ts) := by
  obtain ⟨t, hlast, ht⟩ := hts
  refine ⟨t, ?_, ht⟩
  have := hc.index_lt
  rw [left, List.getLast?_drop, if_neg (by omega)]
  exact hlast

/-- At the last token of all there is the mark. -/
theorem kind_peek_of_length_le (hc : c.Inside ts) (hts : EndsMarked ts) (h : ts.length ≤ c.index + 1) :
    (Parser.peek (c.left ts)).kind = .endOfInput := by
  obtain ⟨t, -, hleft⟩ := hc.exists_left_eq
  have hmarked := hc.endsMarked_left hts
  rw [hleft, List.drop_of_length_le h] at hmarked ⊢
  obtain ⟨_, hlast, ht⟩ := hmarked
  cases hlast
  exact ht

/-- Behind a token other than the mark a cursor is still inside. -/
theorem next (hc : c.Inside ts) (hts : EndsMarked ts)
    (h : (Parser.peek (c.left ts)).kind ≠ .endOfInput) :
    Inside ⟨c.index + 1, c.taken ++ [c.index]⟩ ts where
  index_lt := by
    rcases Nat.lt_or_ge (c.index + 1) ts.length with hlt | hle
    · exact hlt
    · exact absurd (hc.kind_peek_of_length_le hts hle) h
  taken_eq := by
    rw [hc.taken_eq, List.range_succ]

end Inside

end TokenCursor

end DateTemplate
