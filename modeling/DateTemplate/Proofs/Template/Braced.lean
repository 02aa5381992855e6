import DateTemplate.Proofs.Expr.Grammar
import DateTemplate.Proofs.Template.Evaluate
import DateTemplate.Proofs.Template.Leftmost
import DateTemplate.Proofs.Text.Trim

set_option autoImplicit false

/-!
# Expressions between double braces

An expression may be spread over lines, a token may not. Main statement: `render_braced`, between
double braces an expression that has a value is rendered as that value just if it stands on one
line; over several lines it is no token, and nothing is reported.
-/

namespace DateTemplate

/-! ## Accepted texts -/

namespace Expr

variable {limits : Limits} {input : Text} {e : Expr}

theorem exists_tokenize_of_parse (h : parse limits input = .ok e) :
    ∃ ts, Token.tokenize input = .ok ts := by
  unfold parse at h
  split at h
  · cases h
  · split at h
    · cases h
    · next ts hts => exact ⟨ts, hts⟩

/-- An accepted text has no other characters than blanks and those of tokens. -/
theorem isBlank_or_ofChar?_of_parse (h : parse limits input = .ok e) :
    ∀ c ∈ input, Text.isBlank c = true ∨ ∃ kind, TokenKind.ofChar? c = some kind := by
  obtain ⟨ts, hts⟩ := exists_tokenize_of_parse h
  obtain ⟨front, back, hfront, hback, hinput⟩ := Text.exists_append_trim input
  intro c hc
  rw [hinput, List.mem_append, List.mem_append] at hc
  rcases hc with hc | hc | hc
  · exact Or.inl (hfront c hc)
  · exact (Token.scan_eq_ok_iff.1 hts).isBlank_or_ofChar? c hc
  · exact Or.inl (hback c hc)

theorem not_mem_of_parse {c : Char} (hblank : Text.isBlank c = false)
    (hkind : TokenKind.ofChar? c = none) (h : parse limits input = .ok e) : c ∉ input := by
  intro hc
  rcases isBlank_or_ofChar?_of_parse h c hc with hc | ⟨kind, hc⟩
  · rw [hblank] at hc
    cases hc
  · rw [hkind] at hc
    cases hc

/-- Without the blanks around it an accepted text means the same. -/
theorem parse_trim (h : parse limits input = .ok e) : parse limits (Text.trim input) = .ok e := by
  obtain ⟨hlength, -⟩ := exists_groups_of_parse h
  rw [← parse_eq_parse_trim hlength, h]

end Expr

/-! ## Texts without braces as tokens -/

namespace Template

theorem isInner_of_not_mem {inner : Text} (hline : '\n' ∉ inner) (hclose : '}' ∉ inner) :
    IsInner inner := by
  refine ⟨hline, fun hinfix => ?_⟩
  have hcount := hinfix.sublist.count_le '}'
  simp [List.count_eq_zero.2 hclose] at hcount

/-- Closing braces behind a line break do not close what is open before it. -/
theorem not_closes_append {t : Text} (hline : '\n' ∈ t) (hclose : '}' ∉ t) (behind : Text) :
    ¬ Closes (t ++ behind) := by
  obtain ⟨line, rest, rfl⟩ := List.append_of_mem hline
  rw [List.append_assoc, List.cons_append, closes_line_feed_iff]
  rintro ⟨front, rest', rfl, -⟩
  simp at hclose

theorem ofText_braced {inner : Text} (hline : '\n' ∉ inner) (hclose : '}' ∉ inner) :
    ofText (braced inner) = token [] inner (last []) := by
  have happend := ofText_braced_append (isInner_of_not_mem hline hclose) []
  rw [List.append_nil] at happend
  rw [happend, ofText]

/-- Braces on different lines make no token. -/
theorem ofText_braced_of_mem {inner : Text} (hline : '\n' ∈ inner) (hopen : '{' ∉ inner)
    (hclose : '}' ∉ inner) : ofText (braced inner) = last (braced inner) := by
  have hbehind : '{' ∉ inner ++ ['}', '}'] := by simpa using hopen
  have hleftmost : (last (braced inner)).Leftmost := by
    have hsplit : braced inner = '{' :: '{' :: (inner ++ ['}', '}']) := rfl
    rw [Leftmost, hsplit]
    refine ⟨?_, ?_, quiet_of_not_mem hbehind []⟩
    · rintro ⟨inside, heq, hcloses⟩
      rw [List.append_nil, List.cons.injEq, List.cons.injEq] at heq
      rw [← heq.2.2] at hcloses
      exact not_closes_append hline hclose _ hcloses
    · rintro ⟨inside, heq, -⟩
      rw [List.append_nil, List.cons.injEq] at heq
      exact hbehind (heq.2 ▸ List.mem_cons_self)
  exact hleftmost.ofText_text

theorem isTrimmed_braced (inner : Text) : Text.IsTrimmed (braced inner) := by
  constructor
  · intro c hc
    cases hc
    decide
  · intro c hc
    rw [braced, List.getLast?_append] at hc
    cases hc
    decide

/-- Only the blanks within the braces are left to take off. -/
@[simp] theorem stripBraces_braced (inner : Text) :
    stripBraces (braced inner) = Text.trim inner := by
  have hinside : inside? (braced inner) = some inner := by simp [inside?, braced]
  rw [stripBraces, Text.trim_eq_self (isTrimmed_braced inner), hinside, Option.getD_some]

end Template

namespace Engine

variable {engine : Engine} {context : Context} {input value : Text}

/-- Whether an evaluation gives a certain text can be computed. -/
theorem evaluate_eq_ok_of_toOption (h : (engine.evaluate context input).toOption = some value) :
    engine.evaluate context input = .ok value := by
  cases heval : engine.evaluate context input with
  | error err =>
    rw [heval] at h
    cases h
  | ok text =>
    rw [heval] at h
    cases h
    rfl

theorem evaluate_trim (h : engine.evaluate context input = .ok value) :
    engine.evaluate context (Text.trim input) = .ok value := by
  obtain ⟨e, v, hparse, hvalue, rfl⟩ := evaluate_eq_ok_iff.1 h
  exact evaluate_eq_ok_iff.2 ⟨e, v, Expr.parse_trim hparse, hvalue, rfl⟩

/-- **A token is an expression on one line.** Where an expression has a value, it has the same value
between double braces once these are taken off. As a template, the text with the braces is rendered
as that value if the expression stands on one line. If it is spread over lines, the text stays as
it is, although its expression has a value. In neither case is there a failure. -/
theorem render_braced (engine : Engine) (context : Context) (input value : Text)
    (h : engine.evaluate context input = .ok value) :
    engine.evaluate context (Template.stripBraces (Template.braced input)) = .ok value ∧
    (engine.render context (Template.braced input)).text =
      (if '\n' ∈ input then Template.braced input else value) ∧
    (engine.render context (Template.braced input)).failures = [] := by
  obtain ⟨e, -, hparse, -⟩ := evaluate_eq_ok_iff.1 h
  have hopen : '{' ∉ input := Expr.not_mem_of_parse (by decide) (by decide) hparse
  have hclose : '}' ∉ input := Expr.not_mem_of_parse (by decide) (by decide) hparse
  have htrim := evaluate_trim h
  refine ⟨by rw [Template.stripBraces_braced, htrim], ?_⟩
  by_cases hline : '\n' ∈ input
  · rw [if_pos hline, render, Template.ofText_braced_of_mem hline hopen hclose]
    exact ⟨rfl, rfl⟩
  · rw [if_neg hline, render, Template.ofText_braced hline hclose]
    simp [Template.fill, Template.tokens, Rendered.failures, outcome, Outcome.text,
      Outcome.failure?, htrim]

/-- A narrow space, a tab and a carriage return are blanks within one line. -/
theorem render_braced_one_line :
    (mk .standard (.standard ⟨2026, 1, 15, by decide⟩)).evaluate .empty
        "\u202fDATE\t+ 2\u3000weeks\r".toList = .ok "2026-01-29".toList ∧
    ((mk .standard (.standard ⟨2026, 1, 15, by decide⟩)).render .empty
        (Template.braced "\u202fDATE\t+ 2\u3000weeks\r".toList)).text = "2026-01-29".toList := by
  have h : (mk .standard (.standard ⟨2026, 1, 15, by decide⟩)).evaluate .empty
      "\u202fDATE\t+ 2\u3000weeks\r".toList = .ok "2026-01-29".toList :=
    evaluate_eq_ok_of_toOption (by decide +kernel)
  obtain ⟨-, htext, -⟩ := render_braced _ .empty _ _ h
  refine ⟨h, htext.trans (if_neg ?_)⟩
  decide

/-- The blanks of an expression may be line breaks, and such an expression is not replaced. -/
theorem render_braced_ne_evaluate_line_break :
    (mk .standard (.standard ⟨2026, 1, 15, by decide⟩)).evaluate .empty
        "DATE\n+ 1 day".toList = .ok "2026-01-16".toList ∧
    ((mk .standard (.standard ⟨2026, 1, 15, by decide⟩)).render .empty
        (Template.braced "DATE\n+ 1 day".toList)).text ≠ "2026-01-16".toList := by
  refine ⟨evaluate_eq_ok_of_toOption ?_, ?_⟩
  · decide +kernel
  · decide +kernel

end Engine

end DateTemplate
