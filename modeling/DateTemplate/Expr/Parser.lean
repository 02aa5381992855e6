import DateTemplate.Expr.Error

set_option autoImplicit false

/-!
# Parsing expressions

An expression is a variable followed by groups of a sign, an amount and a unit. The parser works on
the tokens that are left to read; each of its moves returns those that are left then. The mark of the
end is never read past. Main statement: `length_step`, a group takes three tokens.
-/

namespace DateTemplate

/-- The bounds that an expression has to keep. -/
structure Limits where
  /-- The greatest number of characters. -/
  maxLength : Nat
  /-- The greatest amount of one step. -/
  maxAmount : Nat
deriving DecidableEq, Repr

namespace Limits

/-- The bounds in force unless others are set. -/
def standard : Limits := ⟨200, 10000⟩

end Limits

namespace Parser

/-- The tokens left to read. -/
abbrev Tokens := List Token

/-- The next token; where none is left, the input has ended. -/
def peek : Tokens → Token
  | [] => Token.endAt 0
  | t :: _ => t

/-- Moves past the next token, unless it marks the end. -/
def advance : Tokens → Tokens
  | [] => []
  | t :: rest => if t.kind = .endOfInput then t :: rest else rest

/-- Takes a token of the given kind. -/
def expect (kind : TokenKind) (expected : Expected) (ts : Tokens) :
    Except SyntaxError (Token × Tokens) :=
  if (peek ts).kind = kind then .ok (peek ts, advance ts)
  else .error (.unexpectedToken expected (peek ts))

/-- Takes a sign. -/
def direction (ts : Tokens) : Except SyntaxError (Direction × Tokens) := do
  let (t, ts) ← expect .operator .operator ts
  match Direction.ofSymbol? t.text with
  | some d => .ok (d, ts)
  | none => .error (.unexpectedToken .operator t)

/-- Takes an amount, a number from 1 up to the greatest one allowed. -/
def amount (limits : Limits) (ts : Tokens) : Except SyntaxError (Nat × Tokens) := do
  let (t, ts) ← expect .number .amount ts
  let n := Decimal.ofDigits t.text
  -- Zero is refused as such even where the limit is zero too.
  if n = 0 then .error (.nonPositiveAmount t)
  else if limits.maxAmount < n then .error (.amountTooLarge t limits.maxAmount)
  else .ok (n, ts)

/-- Takes the word for a unit. -/
def unit (ts : Tokens) : Except SyntaxError (TimeUnit × Tokens) := do
  let (t, ts) ← expect .unit .unit ts
  match TimeUnit.ofKeyword? t.text with
  | some u => .ok (u, ts)
  | none => .error (.unknownUnit t)

/-- Takes a sign, an amount and a unit. -/
def step (limits : Limits) (ts : Tokens) : Except SyntaxError (Step × Tokens) := do
  let (d, ts) ← direction ts
  let (n, ts) ← amount limits ts
  let (u, ts) ← unit ts
  return (⟨d, n, u⟩, ts)

/-- A token that is taken is no longer left. -/
theorem length_expect {kind : TokenKind} {expected : Expected} {ts rest : Tokens} {t : Token}
    (hkind : kind ≠ .endOfInput) (h : expect kind expected ts = .ok (t, rest)) :
    rest.length + 1 = ts.length := by
  unfold expect at h
  split at h
  · rename_i hk
    cases h
    cases ts with
    | nil => exact absurd (hk.symm.trans rfl) hkind
    | cons t ts =>
      have : t.kind ≠ .endOfInput := by
        intro ht
        exact hkind (hk.symm.trans ht)
      simp [advance, this]
  · cases h

/-- A run of two moves succeeds when both do. -/
theorem bind_eq_ok {ε α β : Type} {m : Except ε α} {f : α → Except ε β} {b : β} :
    (m >>= f) = .ok b ↔ ∃ a, m = .ok a ∧ f a = .ok b := by
  cases m with
  | error e => simp [bind, Except.bind]
  | ok a => simp [bind, Except.bind]

theorem length_direction {ts rest : Tokens} {d : Direction}
    (h : direction ts = .ok (d, rest)) : rest.length + 1 = ts.length := by
  obtain ⟨⟨t, left⟩, htake, hread⟩ := bind_eq_ok.1 h
  dsimp only at hread
  split at hread
  · cases hread
    exact length_expect (by decide) htake
  · cases hread

theorem length_amount {limits : Limits} {ts rest : Tokens} {n : Nat}
    (h : amount limits ts = .ok (n, rest)) : rest.length + 1 = ts.length := by
  obtain ⟨⟨t, left⟩, htake, hread⟩ := bind_eq_ok.1 h
  dsimp only at hread
  split at hread
  · cases hread
  · split at hread
    · cases hread
    · cases hread
      exact length_expect (by decide) htake

theorem length_unit {ts rest : Tokens} {u : TimeUnit}
    (h : unit ts = .ok (u, rest)) : rest.length + 1 = ts.length := by
  obtain ⟨⟨t, left⟩, htake, hread⟩ := bind_eq_ok.1 h
  dsimp only at hread
  split at hread
  · cases hread
    exact length_expect (by decide) htake
  · cases hread

/-- A group takes three tokens. -/
theorem length_step {limits : Limits} {ts rest : Tokens} {s : Step}
    (h : step limits ts = .ok (s, rest)) : rest.length + 3 = ts.length := by
  obtain ⟨⟨d, left₁⟩, hd, h⟩ := bind_eq_ok.1 h
  obtain ⟨⟨n, left₂⟩, hn, h⟩ := bind_eq_ok.1 h
  obtain ⟨⟨u, left₃⟩, hu, h⟩ := bind_eq_ok.1 h
  cases h
  have := length_direction hd
  have := length_amount hn
  have := length_unit hu
  omega

/-- Takes groups as long as the next token is a sign. -/
def steps (limits : Limits) (ts : Tokens) : Except SyntaxError (List Step × Tokens) :=
  if (peek ts).kind = .operator then
    match h : step limits ts with
    | .error e => .error e
    | .ok (s, rest) =>
      have := length_step h
      (steps limits rest).map fun (more, rest) => (s :: more, rest)
  else .ok ([], ts)
termination_by ts.length
decreasing_by omega

/-- Takes a variable and the groups behind it. -/
def expression (limits : Limits) (ts : Tokens) : Except SyntaxError (Expr × Tokens) := do
  let (t, ts) ← expect .variableName .variableName ts
  let (ss, ts) ← steps limits ts
  return (⟨t.text, ss⟩, ts)

/-- Only the mark of the end may be left. -/
def finish (ts : Tokens) : Except SyntaxError Unit :=
  if (peek ts).kind = .endOfInput then .ok () else .error (.trailingToken (peek ts))

/-- The expression that a whole list of tokens makes. -/
def ofTokens (limits : Limits) (ts : Tokens) : Except SyntaxError Expr := do
  let (e, ts) ← expression limits ts
  finish ts
  return e

end Parser

/-- Reads an expression within limits; its length counts the blanks around it. -/
def Expr.parse (limits : Limits) (input : Text) : Except SyntaxError Expr :=
  if limits.maxLength < input.length then .error (.tooLong input.length limits.maxLength)
  else
    match Token.tokenize input with
    | .error stray => .error (.unexpectedChar stray)
    | .ok ts => Parser.ofTokens limits ts

end DateTemplate
