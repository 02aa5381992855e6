import DateTemplate.Proofs.Expr.Lexes
import DateTemplate.Proofs.Expr.Takes
import DateTemplate.Proofs.Text.Trim

set_option autoImplicit false

/-!
# The grammar of expressions

An expression is a name and any number of groups behind it; a group is a sign, digits and a word,
with any blanks in front of each. Main statement: `parse_eq_ok_iff`, parsing accepts the expressions
of the grammar that keep the limits and builds them group by group.
-/

namespace DateTemplate

/-! ## The pieces of an expression -/

/-- The words for a unit, its singular and its plural. -/
def TimeUnit.words : TimeUnit → List Text
  | days => ["day".toList, "days".toList]
  | weeks => ["week".toList, "weeks".toList]
  | months => ["month".toList, "months".toList]
  | years => ["year".toList, "years".toList]

/-- A name is a run of capitals and underscores. -/
def IsName (name : Text) : Prop := name ≠ [] ∧ ∀ c ∈ name, c.isUpper = true ∨ c = '_'

/-- A group as it is written: its pieces and the blanks in front of each. -/
structure Group (limits : Limits) where
  beforeSign : Text
  direction : Direction
  beforeDigits : Text
  digits : Text
  beforeWord : Text
  unit : TimeUnit
  word : Text
  blank : ∀ c ∈ beforeSign ++ beforeDigits ++ beforeWord, Text.isBlank c = true
  digits_ne_nil : digits ≠ []
  isDigit : ∀ c ∈ digits, c.isDigit = true
  one_le : 1 ≤ Decimal.ofDigits digits
  le_max : Decimal.ofDigits digits ≤ limits.maxAmount
  word_mem : word ∈ unit.words

namespace Group

variable {limits : Limits}

/-- The text of a group. -/
def text (g : Group limits) : Text :=
  g.beforeSign ++ ([g.direction.symbol] ++ (g.beforeDigits ++ (g.digits ++
    (g.beforeWord ++ g.word))))

/-- The step that a group stands for; leading zeros do not count. -/
def step (g : Group limits) : Step := ⟨g.direction, Decimal.ofDigits g.digits, g.unit⟩

end Group

theorem TimeUnit.mem_words_iff {word : Text} {unit : TimeUnit} :
    word ∈ unit.words ↔ word = unit.keyword 1 ∨ word = unit.keyword 2 := by
  have hwords : unit.words = [unit.keyword 1, unit.keyword 2] := by cases unit <;> rfl
  rw [hwords, List.mem_cons, List.mem_singleton]

theorem TimeUnit.ofKeyword?_eq_some_iff {word : Text} {unit : TimeUnit} :
    ofKeyword? word = some unit ↔ word ∈ unit.words := by
  rw [mem_words_iff]
  constructor
  · intro h
    have hword := List.find?_some h
    simpa only [Bool.or_eq_true, beq_iff_eq] using hword
  · rintro (rfl | rfl)
    · exact ofKeyword?_keyword unit 1
    · exact ofKeyword?_keyword unit 2

theorem Direction.ofSymbol?_eq_some_iff {t : Text} {d : Direction} :
    ofSymbol? t = some d ↔ t = [d.symbol] := by
  constructor
  · intro h
    unfold ofSymbol? at h
    split at h <;> cases h <;> rfl
  · rintro rfl
    exact ofSymbol?_symbol d

namespace TokenKind

theorem isRun_symbol (d : Direction) : operator.IsRun [d.symbol] :=
  ⟨d.symbol, [], rfl, by cases d <;> rfl, by simp⟩

/-- Tokens other than signs are runs of any length. -/
theorem isRun_iff {kind : TokenKind} {run : Text} (hkind : kind ≠ operator) :
    kind.IsRun run ↔ run ≠ [] ∧ ∀ c ∈ run, ofChar? c = some kind := by
  constructor
  · rintro ⟨c, rest, rfl, hc, hrest⟩
    refine ⟨by simp, List.forall_mem_cons.2 ⟨hc, fun d hd => ?_⟩⟩
    exact (continues_iff.1 (hrest d hd)).2
  · rintro ⟨hne, hrun⟩
    cases run with
    | nil => exact absurd rfl hne
    | cons c rest =>
      rw [List.forall_mem_cons] at hrun
      exact ⟨c, rest, rfl, hrun.1, fun d hd => continues_iff.2 ⟨hkind, hrun.2 d hd⟩⟩

theorem isRun_variableName_iff {run : Text} : variableName.IsRun run ↔ IsName run := by
  rw [isRun_iff (by decide), IsName]
  simp only [ofChar?_eq_some_iff, isUpper_iff, eq_underscore_iff]

theorem isRun_number_iff {run : Text} :
    number.IsRun run ↔ run ≠ [] ∧ ∀ c ∈ run, c.isDigit = true := by
  rw [isRun_iff (by decide)]
  simp only [ofChar?_eq_some_iff, Char.isDigit_iff_toNat, Char.reduceToNat]

theorem isRun_unit_of_mem_words {u : TimeUnit} {word : Text} (h : word ∈ u.words) :
    unit.IsRun word := by
  have hrun : ∀ run : Text, run ≠ [] → run.all (fun c => ofChar? c == some unit) = true →
      unit.IsRun run := by
    intro run hne hall
    refine (isRun_iff (by decide)).2 ⟨hne, fun c hc => ?_⟩
    exact beq_iff_eq.1 (List.all_eq_true.1 hall c hc)
  rcases TimeUnit.mem_words_iff.1 h with rfl | rfl
  · cases u <;> exact hrun _ (by decide) (by decide)
  · cases u <;> exact hrun _ (by decide) (by decide)

end TokenKind

/-! ## Texts of groups and their tokens -/

section Texts

open DateTemplate.Token DateTemplate.Parser

variable {limits : Limits}

/-- Behind a token other than a sign, groups or the end of the text may follow. -/
theorem stops_groups {kind : TokenKind} (hkind : kind ≠ .operator) (groups : List (Group limits)) :
    kind.Stops (groups.flatMap Group.text) := by
  cases groups with
  | nil => exact TokenKind.stops_nil kind
  | cons g groups =>
    rw [List.flatMap_cons, Group.text, List.append_assoc, List.append_assoc]
    refine TokenKind.stops_append (fun c hc => g.blank c ?_) (TokenKind.isRun_symbol _) hkind.symm
    simp [hc]

theorem Group.isGroup (g : Group limits) (offset₁ offset₂ offset₃ : Nat) :
    IsGroup limits ⟨.operator, [g.direction.symbol], offset₁⟩ ⟨.number, g.digits, offset₂⟩
      ⟨.unit, g.word, offset₃⟩ g.step where
  sign_kind := rfl
  direction := Direction.ofSymbol?_symbol g.direction
  number_kind := rfl
  amount := rfl
  one_le := g.one_le
  le_max := g.le_max
  word_kind := rfl
  unit := TimeUnit.ofKeyword?_eq_some_iff.2 g.word_mem

/-- Groups in a text are taken as the steps they stand for. -/
theorem exists_lexes_of_groups (groups : List (Group limits)) (offset : Nat) :
    ∃ ts rest, Lexes offset (groups.flatMap Group.text) ts ∧
      Takes limits ts (groups.map Group.step) rest ∧ (peek rest).kind = .endOfInput := by
  induction groups generalizing offset with
  | nil => exact ⟨_, _, .done (by simp), .stop (by rintro ⟨⟩), rfl⟩
  | cons g groups ih =>
    have hblank := g.blank
    simp only [List.append_assoc, List.forall_mem_append] at hblank
    obtain ⟨hsign, hdigits, hword⟩ := hblank
    obtain ⟨ts, rest, hlexes, htakes, hend⟩ := ih (offset + g.beforeSign.length + 1
      + g.beforeDigits.length + g.digits.length + g.beforeWord.length + g.word.length)
    have hwordRun := TokenKind.isRun_unit_of_mem_words g.word_mem
    have hdigitsRun := TokenKind.isRun_number_iff.2 ⟨g.digits_ne_nil, g.isDigit⟩
    have hfromWord := Lexes.token hword hwordRun (stops_groups (by decide) groups) hlexes
    have hfromDigits := Lexes.token hdigits hdigitsRun
      (TokenKind.stops_append hword hwordRun (by decide)) hfromWord
    have hfromSign := Lexes.token hsign (TokenKind.isRun_symbol g.direction)
      (TokenKind.stops_operator _) hfromDigits
    have htext : (g :: groups).flatMap Group.text =
        g.beforeSign ++ ([g.direction.symbol] ++ (g.beforeDigits ++ (g.digits ++
          (g.beforeWord ++ (g.word ++ groups.flatMap Group.text))))) := by
      simp only [List.flatMap_cons, Group.text, List.append_assoc]
    rw [htext]
    exact ⟨_, rest, hfromSign, .group (g.isGroup _ _ _) htakes, hend⟩

/-- What is taken as steps stands in the text as groups, with blanks behind them. -/
theorem exists_groups_of_takes {ts rest : Tokens} {ss : List Step}
    (htakes : Takes limits ts ss rest) (hend : (peek rest).kind = .endOfInput) {offset : Nat}
    {t : Text} (hlexes : Lexes offset t ts) :
    ∃ (groups : List (Group limits)) (back : Text), t = groups.flatMap Group.text ++ back ∧
      (∀ c ∈ back, Text.isBlank c = true) ∧ groups.map Group.step = ss := by
  induction htakes generalizing offset t with
  | stop _ =>
    cases hlexes with
    | done hblanks => exact ⟨[], t, rfl, hblanks, rfl⟩
    | token _ hrun _ _ =>
      obtain ⟨c, _, -, hc, -⟩ := hrun
      exact absurd hend (TokenKind.ne_endOfInput_of_ofChar? hc)
  | @group sign number word s ts rest ss hgroup _ ih =>
    cases hlexes with
    | @token _ beforeSign symbol _ kind₁ _ hsign hrun₁ _ hlexes =>
    cases hlexes with
    | @token _ beforeDigits digits _ kind₂ _ hdigits hrun₂ _ hlexes =>
    cases hlexes with
    | done _ => cases hgroup.word_kind
    | @token _ beforeWord word _ kind₃ _ hword hrun₃ _ hlexes =>
    obtain ⟨groups, back, rfl, hback, hsteps⟩ := ih hend hlexes
    have hdirection := Direction.ofSymbol?_eq_some_iff.1 hgroup.direction
    have hkind : kind₂ = .number := hgroup.number_kind
    rw [hkind, TokenKind.isRun_number_iff] at hrun₂
    have hwordMem := TimeUnit.ofKeyword?_eq_some_iff.1 hgroup.unit
    refine ⟨⟨beforeSign, s.direction, beforeDigits, digits, beforeWord, s.unit, word, ?_, hrun₂.1,
      hrun₂.2, ?_, ?_, hwordMem⟩ :: groups, back, ?_, hback, ?_⟩
    · simp only [List.append_assoc, List.forall_mem_append]
      exact ⟨hsign, hdigits, hword⟩
    · exact hgroup.amount ▸ hgroup.one_le
    · exact hgroup.amount ▸ hgroup.le_max
    · dsimp only at hdirection
      simp only [hdirection, List.flatMap_cons, Group.text, List.append_assoc]
    · rw [List.map_cons, hsteps, Group.step]
      dsimp only
      rw [hgroup.amount]

end Texts

/-! ## Parsing -/

theorem foldl_push {limits : Limits} (groups : List (Group limits)) (e : Expr) :
    groups.foldl (fun e g => e.push g.step) e = ⟨e.root, e.steps ++ groups.map Group.step⟩ := by
  induction groups generalizing e with
  | nil => simp
  | cons g groups ih =>
    rw [List.foldl_cons, ih]
    simp [Expr.push]

theorem Expr.parse_of_tokenize {limits : Limits} {input : Text} {ts : List Token}
    (hlength : input.length ≤ limits.maxLength) (h : Token.tokenize input = .ok ts) :
    parse limits input = Parser.ofTokens limits ts := by
  rw [parse, if_neg (Nat.not_lt.2 hlength), h]

/-- The blanks around a text that is short enough do not matter. -/
theorem Expr.parse_eq_parse_trim {limits : Limits} {input : Text}
    (hlength : input.length ≤ limits.maxLength) :
    parse limits input = parse limits (Text.trim input) := by
  have hlength' := Nat.le_trans (Text.length_trim_le input) hlength
  rw [parse, if_neg (Nat.not_lt.2 hlength), parse, if_neg (Nat.not_lt.2 hlength'), Token.tokenize,
    Token.tokenize, Text.trim_trim]

/-- What is accepted is an expression of the grammar, and its groups make up what it is read as. -/
theorem exists_groups_of_parse {limits : Limits} {input : Text} {e : Expr}
    (h : Expr.parse limits input = .ok e) :
    input.length ≤ limits.maxLength ∧
      ∃ (name : Text) (groups : List (Group limits)), IsName name ∧
        Text.trim input = name ++ groups.flatMap Group.text ∧
        e = groups.foldl (fun e g => e.push g.step) (Expr.ofName name) := by
  unfold Expr.parse Token.tokenize at h
  split at h
  · cases h
  · next hlength =>
    refine ⟨Nat.le_of_not_lt hlength, ?_⟩
    split at h
    · cases h
    · next ts hscan =>
      obtain ⟨t, left, rest, rfl, hkind, htext, htakes, hend⟩ := Parser.ofTokens_eq_ok_iff.1 h
      have hlexes := Token.scan_eq_ok_iff.1 hscan
      generalize htrim : Text.trim input = trimmed at hlexes
      cases hlexes with
      | done _ => cases hkind
      | @token _ front name _ kind _ hfront hrun _ hlexes =>
      obtain ⟨groups, back, rfl, hback, hsteps⟩ :=
        exists_groups_of_takes htakes hend hlexes
      obtain rfl := Text.eq_nil_of_trim_eq_append htrim hfront
      rw [List.nil_append, ← List.append_assoc] at htrim
      obtain rfl := Text.eq_nil_of_trim_eq_append_right htrim hback
      have hkind' : kind = .variableName := hkind
      rw [hkind', TokenKind.isRun_variableName_iff] at hrun
      refine ⟨name, groups, hrun, by simp, ?_⟩
      rw [foldl_push, hsteps]
      dsimp only at htext
      rw [htext]
      rfl

theorem parse_of_groups {limits : Limits} {input name : Text} {groups : List (Group limits)}
    (hlength : input.length ≤ limits.maxLength) (hname : IsName name)
    (htrim : Text.trim input = name ++ groups.flatMap Group.text) :
    Expr.parse limits input =
      .ok (groups.foldl (fun e g => e.push g.step) (Expr.ofName name)) := by
  obtain ⟨ts, rest, hgroups, htakes, hend⟩ := exists_lexes_of_groups groups (0 + 0 + name.length)
  have hlexes : Token.Lexes 0 ([] ++ (name ++ groups.flatMap Group.text))
      (⟨.variableName, name, 0⟩ :: ts) :=
    .token (by simp) (TokenKind.isRun_variableName_iff.2 hname) (stops_groups (by decide) groups)
      hgroups
  rw [List.nil_append, ← htrim] at hlexes
  rw [Expr.parse_of_tokenize hlength (Token.scan_eq_ok_iff.2 hlexes), foldl_push]
  exact Parser.ofTokens_eq_ok_iff.2 ⟨_, ts, rest, rfl, rfl, rfl, htakes, hend⟩

/-- **Parsing accepts the grammar and builds expressions from the left.** A text is an expression if
it is no longer than the limit, blanks included, and is a name with groups behind it once it is
trimmed; the expression is that name with the step of each group put on in turn. -/
theorem parse_eq_ok_iff (limits : Limits) (input : Text) (e : Expr) :
    Expr.parse limits input = .ok e ↔
      input.length ≤ limits.maxLength ∧
        ∃ (name : Text) (groups : List (Group limits)), IsName name ∧
          Text.trim input = name ++ groups.flatMap Group.text ∧
          e = groups.foldl (fun e g => e.push g.step) (Expr.ofName name) := by
  refine ⟨exists_groups_of_parse, ?_⟩
  rintro ⟨hlength, name, groups, hname, htrim, rfl⟩
  exact parse_of_groups hlength hname htrim

end DateTemplate
