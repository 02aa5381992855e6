import DateTemplate.Proofs.Expr.Grammar
import DateTemplate.Proofs.Expr.Placeless
import DateTemplate.Proofs.Expr.Stages
import Mathlib.Data.List.Chain

set_option autoImplicit false

/-!
# The blanks of an expression

The same pieces can be written with other blanks before, between and behind them, as long as two
names, two numbers or two words do not run together. Main statements: `exists_lexes_spaced`, the tokens
of such a text are the pieces; `Expr.parse_spelling`, all the ways to write them mean the same.
-/

namespace DateTemplate

open Token

/-! ## Ways to write pieces -/

/-- A piece as it is written, with the blanks before it. -/
structure Spaced where
  before : Text
  kind : TokenKind
  run : Text
  blank : ∀ c ∈ before, Text.isBlank c = true := by exact List.all_eq_true.1 (by decide)
  isRun : kind.IsRun run := by decide

namespace Spaced

/-- The text of a piece. -/
def text (p : Spaced) : Text := p.before ++ p.run

/-- A piece without its blanks. -/
def piece (p : Spaced) : TokenKind × Text := (p.kind, p.run)

/-- Neighbours of one kind have blanks between them, if they are no signs. -/
def Parted (p q : Spaced) : Prop := p.kind = q.kind → p.kind ≠ .operator → q.before ≠ []

instance : DecidableRel Parted := fun p q =>
  inferInstanceAs (Decidable (p.kind = q.kind → p.kind ≠ .operator → q.before ≠ []))

end Spaced

/-- A way to write pieces one behind the other, with blanks at the end. -/
structure Spelling (pieces : List (TokenKind × Text)) where
  spaced : List Spaced
  back : Text
  blank : ∀ c ∈ back, Text.isBlank c = true
  map_piece : spaced.map Spaced.piece = pieces
  parted : spaced.IsChain Spaced.Parted

/-- The text of pieces as they are written. -/
def Spelling.text {pieces : List (TokenKind × Text)} (s : Spelling pieces) : Text :=
  s.spaced.flatMap Spaced.text ++ s.back

/-! ## The tokens of such a text -/

/-- A piece ends where the next one or the blanks before it begin. -/
theorem Spaced.stops {p : Spaced} {rest : List Spaced} {back : Text}
    (hback : ∀ c ∈ back, Text.isBlank c = true) (h : (p :: rest).IsChain Parted) :
    p.kind.Stops (rest.flatMap Spaced.text ++ back) := by
  cases rest with
  | nil =>
    cases back with
    | nil => exact TokenKind.stops_nil p.kind
    | cons c back => exact TokenKind.stops_cons_of_isBlank (hback c List.mem_cons_self) p.kind back
  | cons q rest =>
    have hparted := (List.isChain_cons_cons.1 h).1
    rw [List.flatMap_cons, text, List.append_assoc, List.append_assoc]
    by_cases hkind : p.kind = q.kind
    · by_cases hsign : p.kind = .operator
      · rw [hsign]
        exact TokenKind.stops_operator _
      · obtain ⟨c, before, hbefore⟩ := List.exists_cons_of_ne_nil (hparted hkind hsign)
        rw [hbefore, List.cons_append]
        exact TokenKind.stops_cons_of_isBlank (q.blank c (by simp [hbefore])) p.kind _
    · exact TokenKind.stops_append q.blank q.isRun (Ne.symm hkind)

/-- The tokens of pieces that are written one behind the other are these pieces. -/
theorem exists_lexes_spaced {spaced : List Spaced} {back : Text}
    (hback : ∀ c ∈ back, Text.isBlank c = true) (h : spaced.IsChain Spaced.Parted) (offset : Nat) :
    ∃ ts, Lexes offset (spaced.flatMap Spaced.text ++ back) ts ∧
      ts.map piece = spaced.map Spaced.piece ++ [(.endOfInput, [])] := by
  induction spaced generalizing offset with
  | nil => exact ⟨_, .done hback, rfl⟩
  | cons p rest ih =>
    obtain ⟨ts, hlexes, hpieces⟩ := ih h.tail (offset + p.before.length + p.run.length)
    refine ⟨⟨p.kind, p.run, offset + p.before.length⟩ :: ts, ?_, ?_⟩
    · rw [List.flatMap_cons, Spaced.text, List.append_assoc, List.append_assoc]
      exact .token p.blank p.isRun (Spaced.stops hback h) hlexes
    · rw [List.map_cons, hpieces]
      rfl

/-! ## Blanks around a text -/

namespace Token

variable {offset : Nat} {t : Text} {ts : List Token}

/-- Blanks behind a text, and where it begins, change the places of its tokens only. -/
theorem Lexes.exists_append_blanks {back : Text} (h : Lexes offset t ts)
    (hback : ∀ c ∈ back, Text.isBlank c = true) (offset' : Nat) :
    ∃ ts', Lexes offset' (t ++ back) ts' ∧ ts'.map piece = ts.map piece := by
  induction h generalizing offset' with
  | done hblanks => exact ⟨_, .done (List.forall_mem_append.2 ⟨hblanks, hback⟩), rfl⟩
  | @token offset blanks run t kind ts hblanks hrun hstops _ ih =>
    obtain ⟨ts', hlexes, hpieces⟩ := ih (offset' + blanks.length + run.length)
    have hstops' : kind.Stops (t ++ back) := by
      cases t with
      | cons c t => exact hstops
      | nil =>
        cases back with
        | nil => exact TokenKind.stops_nil kind
        | cons c back => exact TokenKind.stops_cons_of_isBlank (hback c List.mem_cons_self) kind back
    refine ⟨⟨kind, run, offset' + blanks.length⟩ :: ts', ?_, ?_⟩
    · rw [List.append_assoc, List.append_assoc]
      exact .token hblanks hrun hstops' hlexes
    · rw [List.map_cons, List.map_cons, hpieces]
      rfl

/-- The blanks around a text make no difference to the pieces it is made of. -/
theorem Lexes.exists_tokenize (h : Lexes 0 t ts) :
    ∃ ts', tokenize t = .ok ts' ∧ ts'.map piece = ts.map piece := by
  obtain ⟨front, back, hfront, hback, ht⟩ := Text.exists_append_trim t
  have hscan := scan_eq_ok_iff.2 h
  have hknown : ∀ c ∈ Text.trim t, IsKnown c := by
    intro c hc
    refine exists_scan_eq_ok_iff.1 ⟨ts, hscan⟩ c ?_
    rw [ht]
    simp [hc]
  obtain ⟨ts', htrim⟩ := exists_scan_eq_ok_iff.2 hknown
  obtain ⟨ts'', hlexes, hpieces⟩ :=
    (scan_eq_ok_iff.1 htrim).exists_append_blanks hback (0 + front.length)
  refine ⟨ts', htrim, ?_⟩
  rw [ht, scan_blanks_append hfront, scan_eq_ok_iff.2 hlexes] at hscan
  rw [← hpieces, Except.ok.inj hscan]

/-- Tokens of the same pieces differ in their places only. -/
theorem map_unplaced_of_map_piece {ts' : List Token} (h : ts.map piece = ts'.map piece) :
    ts.map unplaced = ts'.map unplaced := by
  have hunplaced : ∀ us : List Token,
      us.map unplaced = (us.map piece).map fun p => ⟨p.1, p.2, 0⟩ := by
    intro us
    rw [List.map_map]
    rfl
  rw [hunplaced, hunplaced, h]

end Token

/-! ## Expressions -/

theorem Spelling.exists_tokenize {pieces : List (TokenKind × Text)} (s : Spelling pieces) :
    ∃ ts, tokenize s.text = .ok ts ∧ ts.map piece = pieces ++ [(.endOfInput, [])] := by
  obtain ⟨ts, hlexes, hpieces⟩ := exists_lexes_spaced s.blank s.parted 0
  obtain ⟨ts', htokenize, hpieces'⟩ := Lexes.exists_tokenize hlexes
  exact ⟨ts', htokenize, by rw [hpieces', hpieces, s.map_piece]⟩

/-- **Blanks do not change what an expression means.** Two texts that write the same pieces, of whatever
kinds and in whatever order, with blanks before, between and behind them have tokens of the same kinds
and texts, namely these pieces and the mark of the end. If neither is too long, both are the same
expression or fail with the same error but for its place. The blanks around a text do not even change
places: unless it is too long, it means what it means when they are trimmed off. -/
theorem Expr.parse_spelling {pieces : List (TokenKind × Text)} (s s' : Spelling pieces)
    (limits : Limits) (input : Text) :
    (∃ ts ts', tokenize s.text = .ok ts ∧ tokenize s'.text = .ok ts' ∧
      ts.map piece = ts'.map piece ∧ ts.map piece = pieces ++ [(.endOfInput, [])]) ∧
    (s.text.length ≤ limits.maxLength → s'.text.length ≤ limits.maxLength →
      (parse limits s.text).mapError SyntaxError.unplaced =
        (parse limits s'.text).mapError SyntaxError.unplaced) ∧
    (parse limits input = .error (.tooLong input.length limits.maxLength) ∨
      parse limits input = parse limits (Text.trim input)) := by
  obtain ⟨ts, htokenize, hpieces⟩ := s.exists_tokenize
  obtain ⟨ts', htokenize', hpieces'⟩ := s'.exists_tokenize
  have hsame : ts.map piece = ts'.map piece := hpieces.trans hpieces'.symm
  refine ⟨⟨ts, ts', htokenize, htokenize', hsame, hpieces⟩, fun hlength hlength' => ?_, ?_⟩
  · rw [parse_of_tokenize hlength htokenize, parse_of_tokenize hlength' htokenize',
      ← Parser.ofTokens_map_unplaced, ← Parser.ofTokens_map_unplaced,
      map_unplaced_of_map_piece hsame]
  · rcases Nat.lt_or_ge limits.maxLength input.length with hlong | hshort
    · exact Or.inl (if_pos hlong)
    · exact Or.inr (parse_eq_parse_trim hshort)

/-- With an ideographic space, line breaks and tabs around its pieces an unknown unit is the same error
as without them, at another place. -/
theorem Expr.parse_spelling_unknown_unit :
    ∃ s s' : Spelling [(.variableName, ['A']), (.operator, ['+']), (.number, ['2']),
        (.unit, "hours".toList)],
      s.text = "A+2hours".toList ∧ s'.text = "\u3000A \t+2\n\nhours ".toList ∧
      parse .standard s.text = .error (.unknownUnit ⟨.unit, "hours".toList, 3⟩) ∧
      parse .standard s'.text = .error (.unknownUnit ⟨.unit, "hours".toList, 7⟩) ∧
      s.text.length ≤ Limits.standard.maxLength ∧ s'.text.length ≤ Limits.standard.maxLength ∧
      (parse .standard s.text).mapError SyntaxError.unplaced =
        (parse .standard s'.text).mapError SyntaxError.unplaced := by
  refine ⟨⟨[{ before := [], kind := .variableName, run := ['A'] },
      { before := [], kind := .operator, run := ['+'] },
      { before := [], kind := .number, run := ['2'] },
      { before := [], kind := .unit, run := "hours".toList }], [], by simp, rfl, by decide⟩,
    ⟨[{ before := ['\u3000'], kind := .variableName, run := ['A'] },
      { before := [' ', '\t'], kind := .operator, run := ['+'] },
      { before := [], kind := .number, run := ['2'] },
      { before := ['\n', '\n'], kind := .unit, run := "hours".toList }], [' '],
      List.all_eq_true.1 (by decide), rfl, by decide⟩, rfl, rfl, by decide +kernel,
    by decide +kernel, by decide, by decide, ?_⟩
  exact (parse_spelling _ _ .standard []).2.1 (by decide) (by decide)

end DateTemplate
