import DateTemplate.Text.Blank

set_option autoImplicit false

/-!
# Tokens of expressions

A token is the longest run of capitals and underscores, of digits or of small letters, or one sign.
Blanks part tokens and are skipped. `scan` splits a text into tokens, the last of which marks its
end; it stops at a character that no token has.
-/

namespace DateTemplate

/-- The kinds of tokens. -/
inductive TokenKind where
  | variableName
  | operator
  | number
  | unit
  | endOfInput
deriving DecidableEq, Repr

namespace TokenKind

/-- The name of a kind in messages. -/
def name : TokenKind → String
  | variableName => "variable"
  | operator => "operator"
  | number => "number"
  | unit => "unit"
  | endOfInput => "end of input"

/-- The kind of token that begins with a character. -/
def ofChar? (c : Char) : Option TokenKind :=
  if c.isUpper || c == '_' then some variableName
  else if c == '+' || c == '-' then some operator
  else if c.isDigit then some number
  else if c.isLower then some unit
  else none

/-- Whether a character goes on a token of a kind. -/
def continues : TokenKind → Char → Bool
  | variableName, c => c.isUpper || c == '_'
  | number, c => c.isDigit
  | unit, c => c.isLower
  | operator, _ | endOfInput, _ => false

end TokenKind

/-- A token with its place: the number of characters before it. -/
structure Token where
  kind : TokenKind
  text : Text
  offset : Nat
deriving DecidableEq, Repr

/-- A character that begins no token, with its place. -/
structure StrayChar where
  char : Char
  offset : Nat
deriving DecidableEq, Repr

namespace Token

/-- The mark of the end of a text. -/
def endAt (offset : Nat) : Token := ⟨.endOfInput, [], offset⟩

/-- The tokens of a text that begins at a given offset. -/
def scan (offset : Nat) : Text → Except StrayChar (List Token)
  | [] => .ok [endAt offset]
  | c :: t =>
    if Text.isBlank c then scan (offset + 1) t
    else
      match TokenKind.ofChar? c with
      | none => .error ⟨c, offset⟩
      | some kind =>
        let run := t.takeWhile kind.continues
        have := Text.length_dropWhile_le kind.continues t
        (scan (offset + 1 + run.length) (t.dropWhile kind.continues)).map
          (⟨kind, c :: run, offset⟩ :: ·)
termination_by t => t.length
decreasing_by all_goals simp only [List.length_cons]; omega

/-- The tokens of a text; offsets count from its first character that is not blank. -/
def tokenize (input : Text) : Except StrayChar (List Token) := scan 0 (Text.trim input)

end Token

end DateTemplate
