import DateTemplate.Proofs.Expr.Grammar
import DateTemplate.Proofs.Text.Trim

set_option autoImplicit false

/-!
# Reading written expressions

The written form of an expression spells each step as a group of the grammar, so parsing it gives
the expression back. Main statement: `parse_text`, which also says that parsing gives no other
expressions than those that are read back.
-/

namespace DateTemplate

/-- A step whose amount is positive and keeps the limit. -/
structure Step.IsWithin (limits : Limits) (s : Step) : Prop where
  one_le : 1 ≤ s.amount
  le_max : s.amount ≤ limits.maxAmount

/-- An expression whose root is a name and whose steps keep the limit, however many there are. -/
structure Expr.IsWithin (limits : Limits) (e : Expr) : Prop where
  root : IsName e.root
  steps : ∀ s ∈ e.steps, s.IsWithin limits

/-! ## Steps as groups -/

theorem TimeUnit.keyword_mem_words (unit : TimeUnit) (amount : Nat) :
    unit.keyword amount ∈ unit.words :=
  ofKeyword?_eq_some_iff.1 (ofKeyword?_keyword unit amount)

namespace Group

variable {limits : Limits}

/-- The group that a step is written as. -/
def ofStep (s : Step) (h : s.IsWithin limits) : Group limits where
  beforeSign := [' ']
  direction := s.direction
  beforeDigits := [' ']
  digits := Decimal.digits s.amount
  beforeWord := [' ']
  unit := s.unit
  word := s.unit.keyword s.amount
  blank := by simp [Text.isBlank]
  digits_ne_nil := Decimal.digits_ne_nil s.amount
  isDigit _ hc := Decimal.isDigit_of_mem_digits hc
  one_le := by rw [Decimal.ofDigits_digits]; exact h.one_le
  le_max := by rw [Decimal.ofDigits_digits]; exact h.le_max
  word_mem := s.unit.keyword_mem_words s.amount

@[simp] theorem text_ofStep (s : Step) (h : s.IsWithin limits) : (ofStep s h).text = s.text := by
  simp [ofStep, text, Step.text]

@[simp] theorem step_ofStep (s : Step) (h : s.IsWithin limits) : (ofStep s h).step = s := by
  simp [ofStep, step]

theorem isWithin_step (g : Group limits) : g.step.IsWithin limits := ⟨g.one_le, g.le_max⟩

/-- Written steps are the text of groups that stand for them. -/
theorem exists_of_steps {steps : List Step} (h : ∀ s ∈ steps, s.IsWithin limits) :
    ∃ groups : List (Group limits),
      groups.flatMap text = steps.flatMap Step.text ∧ groups.map step = steps := by
  induction steps with
  | nil => exact ⟨[], rfl, rfl⟩
  | cons s steps ih =>
    rw [List.forall_mem_cons] at h
    obtain ⟨groups, htext, hstep⟩ := ih h.2
    exact ⟨ofStep s h.1 :: groups, by simp [htext], by simp [hstep]⟩

end Group

/-! ## Both directions -/

theorem TokenKind.IsRun.isBlank_eq_false {kind : TokenKind} {run : Text} (h : kind.IsRun run)
    {c : Char} (hc : c ∈ run) : Text.isBlank c = false :=
  isBlank_eq_false_of_ofChar? (h.ofChar?_eq_some hc)

theorem TimeUnit.isBlank_eq_false_of_mem_keyword {unit : TimeUnit} {amount : Nat} {c : Char}
    (h : c ∈ unit.keyword amount) : Text.isBlank c = false :=
  (TokenKind.isRun_unit_of_mem_words (unit.keyword_mem_words amount)).isBlank_eq_false h

theorem TimeUnit.keyword_ne_nil (unit : TimeUnit) (amount : Nat) : unit.keyword amount ≠ [] := by
  obtain ⟨c, rest, hword, -⟩ :=
    TokenKind.isRun_unit_of_mem_words (unit.keyword_mem_words amount)
  simp [hword]

namespace Expr

variable {limits : Limits}

/-- A written expression begins with its name and ends with its name or the word for a unit. -/
theorem isTrimmed_text {e : Expr} (hroot : IsName e.root) : Text.IsTrimmed e.text := by
  have hblank : ∀ c ∈ e.root, Text.isBlank c = false := fun c =>
    (TokenKind.isRun_variableName_iff.2 hroot).isBlank_eq_false
  constructor
  · intro c hc
    rw [text, List.head?_append, List.head?_eq_some_head hroot.1, Option.some_or] at hc
    cases hc
    exact hblank _ (List.head_mem hroot.1)
  · intro c hc
    rcases List.eq_nil_or_concat e.steps with hnil | ⟨front, s, hsteps⟩
    · rw [text, hnil, List.flatMap_nil, List.append_nil] at hc
      exact hblank c (List.mem_of_mem_getLast? hc)
    · have htext : e.text = e.root ++ front.flatMap Step.text ++ [' ', s.direction.symbol, ' '] ++
          Decimal.digits s.amount ++ [' '] ++ s.unit.keyword s.amount := by
        simp [text, hsteps, Step.text]
      have hword := s.unit.keyword_ne_nil s.amount
      rw [htext, List.getLast?_append, List.getLast?_eq_some_getLast hword, Option.some_or] at hc
      cases hc
      exact TimeUnit.isBlank_eq_false_of_mem_keyword (List.getLast_mem hword)

/-- Parsing gives expressions within the limits only. -/
theorem isWithin_of_parse {input : Text} {e : Expr} (h : parse limits input = .ok e) :
    e.IsWithin limits := by
  obtain ⟨-, name, groups, hname, -, rfl⟩ := exists_groups_of_parse h
  rw [foldl_push]
  refine ⟨hname, fun s hs => ?_⟩
  obtain ⟨g, -, rfl⟩ := List.mem_map.1 hs
  exact g.isWithin_step

theorem parse_text_of_isWithin {e : Expr} (h : e.IsWithin limits)
    (hlength : e.text.length ≤ limits.maxLength) : parse limits e.text = .ok e := by
  obtain ⟨groups, htext, hsteps⟩ := Group.exists_of_steps h.steps
  have htrim : Text.trim e.text = e.root ++ groups.flatMap Group.text := by
    rw [Text.trim_eq_self (isTrimmed_text h.root), htext, text]
  rw [parse_of_groups hlength h.root htrim, foldl_push, hsteps]
  rfl

/-- **Parsing undoes writing.** The written form of an expression is parsed as that expression just
if it is no longer than the limit and the expression has a name and amounts within the limit. All
that is ever parsed is of that kind, so writing an accepted text anew and parsing it once more,
with room enough for the written form, gives the same expression. -/
theorem parse_text (limits : Limits) (e : Expr) :
    (parse limits e.text = .ok e ↔ e.text.length ≤ limits.maxLength ∧ e.IsWithin limits) ∧
    ∀ input, parse limits input = .ok e →
      e.IsWithin limits ∧
      ∀ maxLength, e.text.length ≤ maxLength →
        parse { limits with maxLength } e.text = .ok e := by
  refine ⟨⟨fun h => ?_, ?_⟩, fun input h => ?_⟩
  · exact ⟨(exists_groups_of_parse h).1, isWithin_of_parse h⟩
  · rintro ⟨hlength, hwithin⟩
    exact parse_text_of_isWithin hwithin hlength
  · have hwithin := isWithin_of_parse h
    refine ⟨hwithin, fun maxLength hlength => ?_⟩
    -- The limit on amounts is the same, so each step keeps it still.
    have hsteps : ∀ s ∈ e.steps, s.IsWithin { limits with maxLength } := fun s hs =>
      ⟨(hwithin.steps s hs).one_le, (hwithin.steps s hs).le_max⟩
    exact parse_text_of_isWithin ⟨hwithin.root, hsteps⟩ hlength

/-- Leading zeros and the choice of a word are lost on the way, which is why the written form need
not be what was read. -/
example : (parse .standard "START+001months-2day".toList).toOption.map text =
    some "START + 1 month - 2 days".toList := by decide +kernel

end Expr

end DateTemplate
