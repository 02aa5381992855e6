import DateTemplate.Proofs.Expr.Grammar
import DateTemplate.Proofs.Expr.Munch
import DateTemplate.Proofs.Expr.Stages
import Mathlib.Control.Monad.Basic

set_option autoImplicit false

/-!
# Expressions under other limits

What is an expression under some limits is the same expression under any others, or it is too long
for them, or its first amount that is too large for them is refused. Main statements:
`steps_of_takes`, the groups of an expression read under other limits; `Expr.parse_limits`.
-/

namespace DateTemplate

/-- A token is an amount above a limit. -/
def Token.exceeds (max : Nat) (t : Token) : Bool :=
  t.kind == .number && max < Decimal.ofDigits t.text

namespace Token

variable {max : Nat} {t : Token}

theorem exceeds_iff : t.exceeds max = true ↔ t.kind = .number ∧ max < Decimal.ofDigits t.text := by
  simp [exceeds]

theorem exceeds_of_ne_number (h : t.kind ≠ .number) : t.exceeds max = false := by
  simp [exceeds, h]

/-- What keeps a limit keeps a larger one. -/
theorem exceeds_of_le {max' : Nat} (hle : max ≤ max') (h : t.exceeds max' = true) :
    t.exceeds max = true := by
  obtain ⟨hkind, hmax⟩ := exceeds_iff.1 h
  exact exceeds_iff.2 ⟨hkind, Nat.lt_of_le_of_lt hle hmax⟩

/-- The mark of the end is the last of the tokens of a text. -/
theorem Lexes.kind_eq_of_mem_rest {offset : Nat} {text : Text} {front rest : List Token}
    (h : Lexes offset text (front ++ rest)) (hend : (Parser.peek rest).kind = .endOfInput) :
    ∀ r ∈ rest, r.kind = .endOfInput := by
  cases rest with
  | nil => exact List.forall_mem_nil _
  | cons r rest =>
    cases rest with
    | nil => exact List.forall_mem_singleton.2 hend
    | cons r' rest =>
      rw [List.append_cons] at h
      exact absurd hend (h.kind_ne_of_append r (by simp))

end Token

namespace Parser

open Token

variable {limits limits' : Limits} {ts rest : Tokens}

theorem amount_of_exceeds {t : Token} (hpos : 1 ≤ Decimal.ofDigits t.text)
    (h : t.exceeds limits.maxAmount = true) :
    amount limits (t :: ts) = .error (.amountTooLarge t limits.maxAmount) := by
  obtain ⟨hkind, hmax⟩ := exceeds_iff.1 h
  have htake : expect .number .amount (t :: ts) = .ok (t, ts) :=
    (expect_eq_ok_iff (by decide)).2 ⟨rfl, hkind⟩
  have hne : Decimal.ofDigits t.text ≠ 0 := Nat.ne_of_gt hpos
  simp [amount, htake, bind, Except.bind, hne, hmax]

/-- A group is the same step under all limits that its amount keeps. -/
theorem step_of_isGroup {sign number word : Token} {s : Step}
    (hgroup : IsGroup limits' sign number word s) :
    step limits (sign :: number :: word :: ts) =
      if number.exceeds limits.maxAmount then .error (.amountTooLarge number limits.maxAmount)
      else .ok (s, ts) := by
  split
  · next hexceeds =>
    have hd : direction (sign :: number :: word :: ts) = .ok (s.direction, number :: word :: ts) :=
      direction_eq_ok_iff.2 ⟨sign, rfl, hgroup.sign_kind, hgroup.direction⟩
    have hpos : 1 ≤ Decimal.ofDigits number.text := hgroup.amount ▸ hgroup.one_le
    simp only [step, hd, bind, Except.bind, amount_of_exceeds hpos hexceeds]
  · next hkeeps =>
    have hmax : s.amount ≤ limits.maxAmount := by
      rw [← hgroup.amount]
      exact Nat.le_of_not_lt fun hmax => hkeeps (exceeds_iff.2 ⟨hgroup.number_kind, hmax⟩)
    exact step_eq_ok_iff.2 ⟨sign, number, word, rfl, { hgroup with le_max := hmax }⟩

/-- Groups are the same steps under other limits, up to the first amount that does not keep them. -/
theorem steps_of_takes {ss : List Step} (h : Takes limits' ts ss rest)
    (hrest : ∀ r ∈ rest, r.kind = .endOfInput) :
    steps limits ts =
      match ts.find? (exceeds limits.maxAmount) with
      | none => .ok (ss, rest)
      | some t => .error (.amountTooLarge t limits.maxAmount) := by
  induction h with
  | @stop ts hsign =>
    have hnone : ts.find? (exceeds limits.maxAmount) = none := by
      refine List.find?_eq_none.2 fun r hr => ?_
      rw [exceeds_of_ne_number (by simp [hrest r hr])]
      exact Bool.false_ne_true
    rw [steps_of_ne_operator hsign, hnone]
  | @group sign number word s ts rest ss hgroup _ ih =>
    have hpeek : (peek (sign :: number :: word :: ts)).kind = .operator := hgroup.sign_kind
    have hsign : sign.exceeds limits.maxAmount = false :=
      exceeds_of_ne_number (by simp [hgroup.sign_kind])
    have hword : word.exceeds limits.maxAmount = false :=
      exceeds_of_ne_number (by simp [hgroup.word_kind])
    have hstep : step limits (sign :: number :: word :: ts) =
        if number.exceeds limits.maxAmount then .error (.amountTooLarge number limits.maxAmount)
        else .ok (s, ts) := step_of_isGroup hgroup
    simp only [List.find?_cons, hsign, hword]
    cases hnumber : number.exceeds limits.maxAmount with
    | true =>
      rw [hnumber, if_pos rfl] at hstep
      exact steps_of_step_eq_error hpeek hstep
    | false =>
      rw [hnumber, if_neg Bool.false_ne_true] at hstep
      rw [steps_of_step_eq_ok hpeek hstep, ih hrest]
      cases ts.find? (exceeds limits.maxAmount) <;> rfl

/-- The tokens of an expression read under other limits. -/
theorem ofTokens_of_ofTokens {offset : Nat} {text : Text} {e : Expr} (hlexes : Lexes offset text ts)
    (h : ofTokens limits' ts = .ok e) :
    ofTokens limits ts =
      match ts.find? (exceeds limits.maxAmount) with
      | none => .ok e
      | some t => .error (.amountTooLarge t limits.maxAmount) := by
  obtain ⟨t, left, rest, rfl, hkind, htext, htakes, hend⟩ := ofTokens_eq_ok_iff.1 h
  obtain ⟨taken, hleft, -⟩ := exists_after?_of_takes htakes
  have hrest : ∀ r ∈ rest, r.kind = .endOfInput := by
    rw [hleft, ← List.cons_append] at hlexes
    exact hlexes.kind_eq_of_mem_rest hend
  have hname : t.exceeds limits.maxAmount = false := exceeds_of_ne_number (by simp [hkind])
  have htake : expect .variableName .variableName (t :: left) = .ok (t, left) :=
    (expect_eq_ok_iff (by decide)).2 ⟨rfl, hkind⟩
  have hfinish : finish rest = .ok () := if_pos hend
  rw [List.find?_cons, hname]
  have hsteps : steps limits left =
      match left.find? (exceeds limits.maxAmount) with
      | none => .ok (e.steps, rest)
      | some t => .error (.amountTooLarge t limits.maxAmount) := steps_of_takes htakes hrest
  simp only [ofTokens, expression, bind, Except.bind, htake, hsteps]
  cases left.find? (exceeds limits.maxAmount) with
  | some t => rfl
  | none => simp only [pure, Except.pure, hfinish, htext]

end Parser

namespace Expr

open Token

variable {limits limits' : Limits} {input : Text} {e : Expr}

/-- An expression read under other limits. -/
theorem exists_tokenize_of_parse_of_limits (limits : Limits) (h : parse limits' input = .ok e) :
    ∃ ts, tokenize input = .ok ts ∧
      parse limits input =
        if limits.maxLength < input.length then .error (.tooLong input.length limits.maxLength)
        else match ts.find? (exceeds limits.maxAmount) with
          | none => .ok e
          | some t => .error (.amountTooLarge t limits.maxAmount) := by
  have hlength := (exists_groups_of_parse h).1
  cases htokenize : tokenize input with
  | error stray =>
    rw [parse, if_neg (Nat.not_lt.2 hlength), htokenize] at h
    cases h
  | ok ts =>
    refine ⟨ts, rfl, ?_⟩
    rw [parse_of_tokenize hlength htokenize] at h
    rw [parse, htokenize]
    split
    · rfl
    · exact Parser.ofTokens_of_ofTokens (scan_eq_ok_iff.1 htokenize) h

theorem parse_of_limits_le (hlength : limits.maxLength ≤ limits'.maxLength)
    (hamount : limits.maxAmount ≤ limits'.maxAmount) (h : parse limits input = .ok e) :
    parse limits' input = .ok e := by
  have hshort := (exists_groups_of_parse h).1
  obtain ⟨ts, htokenize, hself⟩ := exists_tokenize_of_parse_of_limits limits h
  obtain ⟨ts', htokenize', hother⟩ := exists_tokenize_of_parse_of_limits limits' h
  rw [htokenize] at htokenize'
  obtain rfl := Except.ok.inj htokenize'
  rw [h, if_neg (Nat.not_lt.2 hshort)] at hself
  have hnone : ts.find? (exceeds limits.maxAmount) = none := by
    cases hfind : ts.find? (exceeds limits.maxAmount) with
    | none => rfl
    | some t =>
      rw [hfind] at hself
      cases hself
  have hnone' : ts.find? (exceeds limits'.maxAmount) = none := by
    rw [List.find?_eq_none] at hnone ⊢
    exact fun t ht hexceeds => hnone t ht (exceeds_of_le hamount hexceeds)
  rw [hother, if_neg (Nat.not_lt.2 (Nat.le_trans hshort hlength)), hnone']

/-- **Limits only filter.** A text that is an expression is the same expression under limits that are no
smaller. Under any limits at all a text that is an expression under some others is too long if it has
more characters than they allow; otherwise it is refused for the first of its amounts that is larger
than they allow; otherwise it is the same expression. -/
theorem parse_limits (limits limits' : Limits) (input : Text) (e : Expr) :
    (limits.maxLength ≤ limits'.maxLength → limits.maxAmount ≤ limits'.maxAmount →
      parse limits input = .ok e → parse limits' input = .ok e) ∧
    (parse limits' input = .ok e → ∃ ts, tokenize input = .ok ts ∧
      parse limits input =
        if limits.maxLength < input.length then .error (.tooLong input.length limits.maxLength)
        else match ts.find? (exceeds limits.maxAmount) with
          | none => .ok e
          | some t => .error (.amountTooLarge t limits.maxAmount)) :=
  ⟨parse_of_limits_le, exists_tokenize_of_parse_of_limits limits⟩

/-- Of two amounts the second is the first that is too large. A limit of zero refuses the first, and the
greatest limits there are refuse neither. -/
theorem parse_limits_second_amount :
    parse ⟨15, 12⟩ "A+3days-12weeks".toList =
      .ok ⟨['A'], [⟨.add, 3, .days⟩, ⟨.subtract, 12, .weeks⟩]⟩ ∧
    15 ≤ 18446744073709551615 ∧ 12 ≤ 4294967295 ∧
    parse ⟨18446744073709551615, 4294967295⟩ "A+3days-12weeks".toList =
      .ok ⟨['A'], [⟨.add, 3, .days⟩, ⟨.subtract, 12, .weeks⟩]⟩ ∧
    parse ⟨15, 5⟩ "A+3days-12weeks".toList =
      .error (.amountTooLarge ⟨.number, ['1', '2'], 8⟩ 5) ∧
    parse ⟨15, 0⟩ "A+3days-12weeks".toList = .error (.amountTooLarge ⟨.number, ['3'], 2⟩ 0) ∧
    parse ⟨0, 0⟩ "A+3days-12weeks".toList = .error (.tooLong 15 0) := by
  have hparse : parse ⟨15, 12⟩ "A+3days-12weeks".toList =
      .ok ⟨['A'], [⟨.add, 3, .days⟩, ⟨.subtract, 12, .weeks⟩]⟩ := by decide +kernel
  have htokenize : tokenize "A+3days-12weeks".toList =
      .ok [⟨.variableName, ['A'], 0⟩, ⟨.operator, ['+'], 1⟩, ⟨.number, ['3'], 2⟩,
        ⟨.unit, "days".toList, 3⟩, ⟨.operator, ['-'], 7⟩, ⟨.number, ['1', '2'], 8⟩,
        ⟨.unit, "weeks".toList, 10⟩, endAt 15] := by decide +kernel
  have hother : ∀ limits : Limits, ∃ ts, tokenize "A+3days-12weeks".toList = .ok ts ∧
      parse limits "A+3days-12weeks".toList = _ := fun limits =>
    (parse_limits limits ⟨15, 12⟩ _ _).2 hparse
  simp only [htokenize, Except.ok.injEq, exists_eq_left'] at hother
  refine ⟨hparse, by decide, by decide, ?_, hother ⟨15, 5⟩, hother ⟨15, 0⟩, hother ⟨0, 0⟩⟩
  exact (parse_limits ⟨15, 12⟩ ⟨18446744073709551615, 4294967295⟩ _ _).1 (by decide) (by decide) hparse

end Expr

end DateTemplate
