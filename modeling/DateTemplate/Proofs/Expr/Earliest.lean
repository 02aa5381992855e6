import DateTemplate.Proofs.Expr.Munch
import DateTemplate.Proofs.Expr.RoundTrip
import DateTemplate.Proofs.Expr.Stages
import Mathlib.Control.Monad.Basic

set_option autoImplicit false

/-!
# Errors at the earliest token

Tokens that may come one after the other can always be completed to those of an expression, so an error
that cites the first token that may not come could not have been found earlier, and comes no later.
Main statements: `exists_accepted_of_after?`; `Accepted.after?`, the tokens of an expression may come
one after the other; `parse_fails_earliest`, which failure a text that is no expression has.
-/

namespace DateTemplate

open Stage Token

/-! ## Texts that go on otherwise -/

namespace Token

/-- The first tokens of a text are those of any text that goes on otherwise behind them, if none of them
can go on into what follows. -/
theorem Lexes.exists_front {offset : Nat} {t : Text} {before rest : List Token} (hrest : rest ≠ [])
    (h : Lexes offset t (before ++ rest)) :
    ∃ front back, t = front ++ back ∧ (before ≠ [] → front ≠ []) ∧
      (∀ c ∈ front.getLast?, Text.isBlank c = false) ∧
      ∀ more ts, (∀ kind : TokenKind, kind.Stops more) → Lexes (offset + front.length) more ts →
        Lexes offset (front ++ more) (before ++ ts) := by
  induction before generalizing offset t with
  | nil => exact ⟨[], t, rfl, fun hne => absurd rfl hne, by simp, fun more ts _ hmore => hmore⟩
  | cons b before ih =>
    rw [List.cons_append] at h
    generalize htail : before ++ rest = tail at h
    cases h with
    | done _ => exact absurd (List.append_eq_nil_iff.1 htail).2 hrest
    | @token _ blanks run t kind _ hblanks hrun hstops h =>
      subst htail
      obtain ⟨front, back, rfl, -, hlast, hgoesOn⟩ := ih h
      have hne : run ≠ [] := by
        obtain ⟨c, run, rfl, -⟩ := hrun
        exact List.cons_ne_nil c run
      refine ⟨blanks ++ (run ++ front), back, by simp only [List.append_assoc], ?_, ?_, ?_⟩
      · simp [hne]
      · intro c hc
        rw [List.getLast?_append, List.getLast?_append, List.getLast?_eq_some_getLast hne] at hc
        cases hfront : front.getLast? with
        | some d =>
          rw [hfront] at hc
          cases hc
          exact hlast _ hfront
        | none =>
          rw [hfront] at hc
          cases hc
          exact hrun.isBlank_eq_false (List.getLast_mem hne)
      · intro more ts hmore hlexes
        rw [List.append_assoc, List.append_assoc]
        refine .token hblanks hrun ?_ (hgoesOn more ts hmore ?_)
        · cases front with
          | nil => exact hmore kind
          | cons c front => exact hstops
        · simpa only [List.length_append, Nat.add_assoc] using hlexes

end Token

/-! ## Completions -/

namespace Stage

/-- A text that may come at a stage and completes an expression. -/
def completion : Stage → Text
  | name => ['A']
  | sign | done => []
  | amount => ' ' :: '1' :: ' ' :: TimeUnit.days.keyword 1
  | unit => ' ' :: TimeUnit.days.keyword 1

theorem lexes_completion_unit (offset : Nat) :
    Lexes offset (completion unit)
      [⟨.unit, TimeUnit.days.keyword 1, offset + 1⟩, endAt (offset + 1 + 3 + 0)] := by
  have hrun := TokenKind.isRun_unit_of_mem_words (TimeUnit.days.keyword_mem_words 1)
  have hblank : ∀ c ∈ [' '], Text.isBlank c = true := List.forall_mem_singleton.2 rfl
  exact Lexes.token hblank hrun (TokenKind.stops_nil _) (.done (List.forall_mem_nil _))

/-- At each stage but the last an expression can be completed, if any amount is allowed. -/
theorem exists_lexes_completion {maxAmount : Nat} {stage : Stage} (hmax : 1 ≤ maxAmount)
    (hstage : stage ≠ done) (offset : Nat) :
    ∃ ts, Lexes offset stage.completion ts ∧ after? maxAmount stage (ts.map piece) = some done := by
  cases stage with
  | name =>
    have hrun : TokenKind.variableName.IsRun ['A'] :=
      TokenKind.isRun_variableName_iff.2 ⟨List.cons_ne_nil 'A' [], by simp⟩
    refine ⟨_, Lexes.token (List.forall_mem_nil _) hrun (TokenKind.stops_nil _)
      (.done (List.forall_mem_nil _)), ?_⟩
    simp [after?_cons, piece, next?, endAt]
  | sign => exact ⟨_, .done (by simp [completion]), rfl⟩
  | amount =>
    have hrun : TokenKind.number.IsRun ['1'] :=
      TokenKind.isRun_number_iff.2 ⟨List.cons_ne_nil '1' [], List.forall_mem_singleton.2 rfl⟩
    have hblank : ∀ c ∈ [' '], Text.isBlank c = true := List.forall_mem_singleton.2 rfl
    refine ⟨_, Lexes.token hblank hrun (fun c hc => by cases hc; rfl) (lexes_completion_unit _), ?_⟩
    have hone : Decimal.ofDigits ['1'] = 1 := by decide
    simp [after?_cons, piece, next?, hone, hmax, endAt]
  | unit =>
    refine ⟨_, lexes_completion_unit offset, ?_⟩
    simp [after?_cons, piece, next?, endAt]
  | done => exact absurd rfl hstage

/-- A completion goes on no token before it. -/
theorem stops_completion {stage : Stage} (hname : stage ≠ name) (kind : TokenKind) :
    kind.Stops stage.completion := by
  have hblank : kind.continues ' ' = false := by cases kind <;> rfl
  cases stage with
  | name => exact absurd rfl hname
  | sign => exact TokenKind.stops_nil kind
  | done => exact TokenKind.stops_nil kind
  | amount => exact fun c hc => by cases hc; exact hblank
  | unit => exact fun c hc => by cases hc; exact hblank

theorem isBlank_getLast?_completion {stage : Stage} :
    ∀ c ∈ stage.completion.getLast?, Text.isBlank c = false := by
  intro c hc
  cases stage <;> cases hc <;> rfl

end Stage

/-! ## Tokens of expressions -/

/-- Tokens that a text has which is an expression if its length is not limited. -/
def Accepted (limits : Limits) (ts : List Token) : Prop :=
  ∃ input maxLength e, Expr.parse { limits with maxLength } input = .ok e ∧ tokenize input = .ok ts

section Tokens

variable {limits : Limits} {ts before after : List Token} {t : Text} {stage : Stage}

theorem Accepted.after? (h : Accepted limits ts) :
    Stage.after? limits.maxAmount name (ts.map piece) = some done := by
  obtain ⟨input, maxLength, e, hparse, htokenize⟩ := h
  have hlexes := scan_eq_ok_iff.1 htokenize
  have hlength := (exists_groups_of_parse hparse).1
  rw [Expr.parse_of_tokenize hlength htokenize] at hparse
  obtain ⟨taken, mark, rest, rfl, hend, hafter⟩ :=
    Parser.exists_after?_of_ofTokens hlexes.endsMarked hparse
  cases rest with
  | nil => exact hafter
  | cons r rest =>
    -- Behind the mark of the end there are no more tokens.
    rw [← List.singleton_append, ← List.append_assoc] at hlexes
    exact absurd hend (hlexes.kind_ne_of_append mark (by simp))

theorem accepted_of_lexes (ht : Text.IsTrimmed t) (h : Lexes 0 t ts)
    (hafter : Stage.after? limits.maxAmount name (ts.map piece) = some done) :
    Accepted limits ts := by
  have htokenize : tokenize t = .ok ts := by
    rw [tokenize, Text.trim_eq_self ht]
    exact scan_eq_ok_iff.2 h
  refine ⟨t, t.length, ?_⟩
  rw [Expr.parse_of_tokenize (Nat.le_refl _) htokenize]
  cases hparse : Parser.ofTokens { limits with maxLength := t.length } ts with
  | ok e => exact ⟨e, rfl, htokenize⟩
  | error err =>
    obtain ⟨k, -, before, after, stage, rfl, hbefore, hnext⟩ :=
      Parser.exists_stuckAt_of_ofTokens h.endsMarked hparse
    rw [List.map_append, List.map_cons, after?_append, hbefore, Option.bind_some, after?_cons,
      hnext] at hafter
    cases hafter

/-- Tokens of a text that may come one after the other, and are not all of them, are the first tokens of
an expression. -/
theorem exists_accepted_of_after? {k : Token} (hmax : 1 ≤ limits.maxAmount) (ht : Text.IsTrimmed t)
    (h : Lexes 0 t (before ++ k :: after))
    (hafter : Stage.after? limits.maxAmount name (before.map piece) = some stage) :
    ∃ ts, Accepted limits ts ∧ before <+: ts := by
  rcases List.eq_nil_or_concat before with rfl | ⟨front, b, hb⟩
  · cases hafter
    obtain ⟨ts, hlexes, hdone⟩ :=
      exists_lexes_completion hmax (show name ≠ done by decide) 0
    have htrimmed : Text.IsTrimmed name.completion :=
      Text.isTrimmed_of_forall (List.forall_mem_singleton.2 rfl)
    exact ⟨ts, accepted_of_lexes htrimmed hlexes hdone, List.nil_prefix⟩
  · rw [List.concat_eq_append] at hb
    have hne : before ≠ [] := by simp [hb]
    have hlast : ∃ stage', next? limits.maxAmount stage' b.piece = some stage := by
      rw [hb, List.map_append, after?_append, Option.bind_eq_some_iff] at hafter
      obtain ⟨stage', -, hlast⟩ := hafter
      exact ⟨stage', by simpa [after?_cons] using hlast⟩
    obtain ⟨stage', hlast⟩ := hlast
    have hname : stage ≠ name := by
      rintro rfl
      exact next?_ne_name hlast
    have hdone : stage ≠ done := by
      rintro rfl
      exact h.kind_ne_of_append b (by simp [hb]) (kind_of_next?_eq_done hlast)
    obtain ⟨front, back, rfl, hfront, hblank, hgoesOn⟩ :=
      h.exists_front (List.cons_ne_nil k after)
    obtain ⟨ts, hlexes, hcompleted⟩ := exists_lexes_completion hmax hdone (0 + front.length)
    refine ⟨before ++ ts, accepted_of_lexes ⟨?_, ?_⟩
      (hgoesOn _ ts (stops_completion hname) hlexes) ?_, List.prefix_append before ts⟩
    · intro c hc
      refine ht.front c ?_
      rw [List.head?_append, List.head?_eq_some_head (hfront hne), Option.some_or] at hc ⊢
      exact hc
    · intro c hc
      rw [List.getLast?_append] at hc
      cases hmore : stage.completion.getLast? with
      | some d =>
        rw [hmore] at hc
        cases hc
        exact isBlank_getLast?_completion c hmore
      | none =>
        rw [hmore] at hc
        exact hblank c hc
    · rw [List.map_append, after?_append, hafter, Option.bind_some, hcompleted]

end Tokens

/-- **An error of syntax cites the earliest token that is wrong.** A text that is too long is reported
as such. Otherwise, if some character of it is in no token, the first such is reported. If there is
none, the error has the place of one token, and of no other: those before it are the first tokens of
some expression, with amounts within the same limit, and no expression has the same kinds and texts of
tokens up to this one. -/
theorem Expr.parse_fails_earliest (limits : Limits) (input : Text) :
    (limits.maxLength < input.length →
      parse limits input = .error (.tooLong input.length limits.maxLength)) ∧
    (input.length ≤ limits.maxLength → ∀ front c back, Text.trim input = front ++ c :: back →
      (∀ a ∈ front, IsKnown a) → ¬ IsKnown c →
      parse limits input = .error (.unexpectedChar ⟨c, front.length⟩)) ∧
    (1 ≤ limits.maxAmount → input.length ≤ limits.maxLength → ∀ ts err, tokenize input = .ok ts →
      parse limits input = .error err →
      ∃ before k after, ts = before ++ k :: after ∧ err.offset? = some k.offset ∧
        (∀ t ∈ before ++ after, t.offset ≠ k.offset) ∧
        (∃ ts', Accepted limits ts' ∧ before <+: ts') ∧
        ∀ ts', Accepted limits ts' → ¬ (before ++ [k]).map piece <+: ts'.map piece) := by
  refine ⟨fun hlong => if_pos hlong, ?_, ?_⟩
  · intro hlength front c back htrim hfront hc
    have htokenize : tokenize input = .error ⟨c, front.length⟩ :=
      scan_eq_error_iff.2 ⟨front, back, htrim, (Nat.zero_add _).symm, hfront, hc⟩
    rw [parse, if_neg (Nat.not_lt.2 hlength), htokenize]
  · intro hmax hlength ts err htokenize hparse
    have hlexes := scan_eq_ok_iff.1 htokenize
    rw [parse_of_tokenize hlength htokenize] at hparse
    obtain ⟨k, hfound, before, after, stage, rfl, hbefore, hnext⟩ :=
      Parser.exists_stuckAt_of_ofTokens hlexes.endsMarked hparse
    refine ⟨before, k, after, rfl, SyntaxError.offset?_of_found? hfound, ?_,
      exists_accepted_of_after? hmax (Text.isTrimmed_trim input) hlexes hbefore, ?_⟩
    · obtain ⟨-, hbehind, hbeforeK⟩ := List.pairwise_append.1 hlexes.increasing
      intro t ht
      rcases List.mem_append.1 ht with ht | ht
      · exact Nat.ne_of_lt (hbeforeK t ht k List.mem_cons_self)
      · exact Nat.ne_of_gt ((List.pairwise_cons.1 hbehind).1 t ht)
    · rintro ts' haccepted ⟨rest, hrest⟩
      have hafter := haccepted.after?
      rw [← hrest, after?_append, List.map_append, after?_append, hbefore, Option.bind_some,
        List.map_singleton, after?_cons, hnext] at hafter
      cases hafter

/-- An unknown unit is the first token that no expression has behind an amount. A character that is in
no token goes before it, and the length of the text before both. -/
theorem Expr.parse_fails_earliest_unknown_unit :
    parse ⟨5, 10000⟩ "A + 2 hours#".toList = .error (.tooLong 12 5) ∧
    parse .standard "A + 2 hours#".toList = .error (.unexpectedChar ⟨'#', 11⟩) ∧
    parse .standard "A + 2 hours".toList = .error (.unknownUnit ⟨.unit, "hours".toList, 6⟩) ∧
    ∃ before k after, [⟨.variableName, ['A'], 0⟩, ⟨.operator, ['+'], 2⟩, ⟨.number, ['2'], 4⟩,
        ⟨.unit, "hours".toList, 6⟩, endAt 11] = before ++ k :: after ∧ k.offset = 6 ∧
      (∃ ts, Accepted .standard ts ∧ before <+: ts) ∧
      ∀ ts, Accepted .standard ts → ¬ (before ++ [k]).map piece <+: ts.map piece := by
  have htokenize : tokenize "A + 2 hours".toList =
      .ok [⟨.variableName, ['A'], 0⟩, ⟨.operator, ['+'], 2⟩, ⟨.number, ['2'], 4⟩,
        ⟨.unit, "hours".toList, 6⟩, endAt 11] := by decide +kernel
  have hparse : parse .standard "A + 2 hours".toList =
      .error (.unknownUnit ⟨.unit, "hours".toList, 6⟩) := by decide +kernel
  have hlong := (parse_fails_earliest ⟨5, 10000⟩ "A + 2 hours#".toList).1 (by decide)
  have hstray := (parse_fails_earliest .standard "A + 2 hours#".toList).2.1 (by decide)
    "A + 2 hours".toList '#' [] (by decide) (exists_scan_eq_ok_iff.1 ⟨_, htokenize⟩) (by decide)
  obtain ⟨before, k, after, hts, hoffset, -, haccepted, hrejected⟩ :=
    (parse_fails_earliest .standard "A + 2 hours".toList).2.2 (by decide) (by decide) _ _ htokenize
      hparse
  exact ⟨hlong, hstray, hparse, before, k, after, hts, (Option.some.inj hoffset).symm, haccepted,
    hrejected⟩

end DateTemplate
