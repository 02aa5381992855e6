import DateTemplate.CommandLine.Parser
import DateTemplate.Expr.Parser
import Mathlib.Data.List.Forall2

set_option autoImplicit false

/-!
# What the arguments behind a command give

Behind a command stand options, with values or without, and an operand, in any order; an option and
its value are spelled in several ways. Main statements: `setOption_eq_ok_iff`, what the value of an
option changes; `exists_foldlM_of_arguments`, accepted arguments give what their entries give one
after the other, however these are spelled; `gains_of_foldlM`, what that is for the variables.
-/

namespace DateTemplate

open DateTemplate.Parser (bind_eq_ok)

namespace CommandLine

/-- What stands behind a command: an option with its value, an option without one, or an operand. -/
inductive Entry where
  | value (o : OptionName) (t : Text)
  | flag (o : OptionName)
  | operand (t : Text)

/-- An argument that is not taken for an option. -/
def IsPlain (t : Text) : Prop := t.head? = some '-' → t = ['-']

/-- The long form of an option, with its dashes. -/
def dashed (o : OptionName) : Text := '-' :: '-' :: o.long.toList

/-- The arguments that spell an entry. -/
inductive Entry.Spells (scope : Scope) : Entry → List Text → Prop
  | joined {o : OptionName} {t : Text} (ho : o ∈ scope.options)
      (hvalued : o.valueName?.isSome = true) : Spells scope (.value o t) [dashed o ++ '=' :: t]
  | apart {o : OptionName} {t : Text} (ho : o ∈ scope.options)
      (hvalued : o.valueName?.isSome = true) (ht : IsPlain t) :
      Spells scope (.value o t) [dashed o, t]
  | letterEquals {o : OptionName} {c : Char} {t : Text} (ho : o ∈ scope.options)
      (hvalued : o.valueName?.isSome = true) (hc : o.letter? = some c) :
      Spells scope (.value o t) ['-' :: c :: '=' :: t]
  | letterJoined {o : OptionName} {c d : Char} {t : Text} (ho : o ∈ scope.options)
      (hvalued : o.valueName?.isSome = true) (hc : o.letter? = some c) (hd : d ≠ '=') :
      Spells scope (.value o (d :: t)) ['-' :: c :: d :: t]
  | letterApart {o : OptionName} {c : Char} {t : Text} (ho : o ∈ scope.options)
      (hvalued : o.valueName?.isSome = true) (hc : o.letter? = some c) (ht : IsPlain t) :
      Spells scope (.value o t) [['-', c], t]
  | flag {o : OptionName} (ho : o ∈ scope.options) (hvalued : o.valueName? = none) :
      Spells scope (.flag o) [dashed o]
  | operand {t : Text} (ht : IsPlain t) : Spells scope (.operand t) [t]

/-- The arguments that spell entries. Behind two dashes all arguments are operands. -/
inductive Spells (scope : Scope) : List Entry → List Text → Prop
  | nil : Spells scope [] []
  | cons {x : Entry} {entries : List Entry} {front args : List Text} (hx : x.Spells scope front)
      (hrest : Spells scope entries args) : Spells scope (x :: entries) (front ++ args)
  | dashes (operands : List Text) :
      Spells scope (operands.map .operand) (['-', '-'] :: operands)

/-- The values of an option, in their order. -/
def values (o : OptionName) (entries : List Entry) : List Text :=
  entries.filterMap fun
    | .value o' t => if o' = o then some t else none
    | _ => none

end CommandLine

open CommandLine

namespace Given

/-- Takes an entry. -/
def add (p : Operand) (g : Given) : Entry → Except UsageError Given
  | .value o t => g.setOption o t
  | .flag o => g.setFlag o
  | .operand t => g.addOperands p [t]

/-- An option takes its value if it may, and only its own field is changed. -/
theorem setOption_eq_ok_iff {g g' : Given} {o : OptionName} {t : Text} :
    g.setOption o t = .ok g' ↔ g.has o = false ∧
      match o with
      | .config => t ≠ [] ∧ g' = { g with config := some t }
      | .variableFile => t ≠ [] ∧ g' = { g with variableFile := some t }
      | .output => t ≠ [] ∧ g' = { g with output := some t }
      | .date => ∃ d, Date.read? t = some d ∧ g' = { g with date := some d }
      | .assignment =>
        ∃ pair, readAssignment t = .ok pair ∧ g' = { g with assignments := pair :: g.assignments }
      | _ => g' = g := by
  unfold setOption
  cases hhas : g.has o with
  | true => simp [bind, Except.bind]
  | false =>
    simp only [Bool.false_eq_true, if_false, true_and]
    cases o with
    | config | variableFile | output =>
      cases t <;> simp [bind, Except.bind, pure, Except.pure, eq_comm]
    | date =>
      cases hread : Date.read? t <;>
        simp [readDate, hread, Except.mapError, bind, Except.bind, pure, Except.pure, eq_comm]
    | assignment =>
      cases hread : readAssignment t <;>
        simp [Except.mapError, bind, Except.bind, pure, Except.pure, eq_comm]
    | json | strict | variablesOnly | help | version =>
      exact ⟨fun h => (Except.ok.inj h).symm, fun h => h ▸ rfl⟩

end Given

namespace Reading

variable {scope : Scope} {p : Operand} {r r₁ r' s : Reading} {o : OptionName} {t : Text}

/-! ## Options and their spellings -/

theorem ofLong?_long (ho : o ∈ scope.options) : scope.ofLong? o.long.toList = some o := by
  revert ho
  cases scope with
  | none => cases o <;> decide
  | some c => cases c <;> cases o <;> decide

/-- Only one option has both a letter and a value. -/
theorem eq_output_of_letter {c : Char} (hvalued : o.valueName?.isSome = true)
    (hc : o.letter? = some c) : o = .output ∧ c = 'o' := by
  cases o <;> cases hc
  · exact ⟨rfl, rfl⟩
  · cases hvalued
  · cases hvalued

theorem ofLetter?_output (ho : .output ∈ scope.options) : scope.ofLetter? 'o' = some .output := by
  revert ho
  cases scope with
  | none => decide
  | some c => cases c <;> decide

theorem argument_dashed (honly : r.operandsOnly = false) (t : Text) :
    r.argument scope (dashed o ++ t) = r.long scope (o.long.toList ++ t) := by
  unfold argument
  rw [honly]
  cases o <;> rfl

theorem argument_letter (honly : r.operandsOnly = false) (ho : .output ∈ scope.options) (t : Text) :
    r.argument scope ('-' :: 'o' :: t) =
      match t with
      | [] => r.valued .output none
      | '=' :: value => r.valued .output (some value)
      | value => r.valued .output (some value) := by
  unfold argument
  rw [honly, if_neg Bool.false_ne_true]
  change r.letters scope ('o' :: t) = _
  rw [letters, ofLetter?_output ho]
  rfl

theorem argument_of_isPlain (honly : r.operandsOnly = false) (ht : IsPlain t) :
    r.argument scope t =
      match r.awaiting? with
      | some o => .ok { r with pending := some (.option o, [t]) }
      | none => r.operand scope t := by
  unfold argument
  rw [honly, if_neg Bool.false_ne_true]
  split
  · cases ht rfl
  · cases ht rfl
  · cases ht rfl
  · rfl

/-- No equals sign is in the name of an option. -/
theorem ne_equals_of_mem_long (o : OptionName) : ∀ c ∈ o.long.toList, (c != '=') = true :=
  List.all_eq_true.1 (by cases o <;> rfl)

theorem long_joined (ho : o ∈ scope.options) (hvalued : o.valueName?.isSome = true) :
    r.long scope (o.long.toList ++ '=' :: t) = r.valued o (some t) := by
  obtain ⟨htake, hdrop⟩ :=
    Text.takeWhile_append_of_stops (ne_equals_of_mem_long o) (t := '=' :: t) (by simp)
  have hcontains : (o.long.toList ++ '=' :: t).contains '=' = true := by simp
  simp only [long, htake, hdrop, hcontains, ofLong?_long ho, hvalued, if_true, List.drop_one,
    List.tail_cons]

theorem long_alone (ho : o ∈ scope.options) :
    r.long scope o.long.toList =
      if o.valueName?.isSome = true then r.valued o none else r.flag scope o := by
  have hcontains : o.long.toList.contains '=' = false := by
    simpa using fun h => absurd (ne_equals_of_mem_long o '=' h) (by decide)
  obtain ⟨htake, -⟩ :=
    Text.takeWhile_append_of_stops (ne_equals_of_mem_long o) (t := []) (by simp)
  rw [List.append_nil] at htake
  simp only [long, htake, hcontains, ofLong?_long ho]
  rfl

/-! ## Values that wait -/

theorem settle_of_pending_eq_none (h : r.pending = none) : r.settle = .ok r := by
  rw [settle, h]

theorem settle_eq_ok_iff {target : Target} {ts : List Text} (h : r.pending = some (target, ts)) :
    r.settle = .ok s ↔
      ∃ g, r.given.take target ts = .ok g ∧ s = { r with given := g, pending := none } := by
  rw [settle, h]
  dsimp only
  cases r.given.take target ts <;> simp [eq_comm]

theorem pending_of_settle (h : r.settle = .ok s) : s.pending = none := by
  cases hpending : r.pending with
  | none =>
    rw [settle_of_pending_eq_none hpending] at h
    cases h
    exact hpending
  | some waiting =>
    obtain ⟨g, -, rfl⟩ := (settle_eq_ok_iff hpending).1 h
    rfl

theorem operandsOnly_of_settle (h : r.settle = .ok s) : s.operandsOnly = r.operandsOnly := by
  cases hpending : r.pending with
  | none =>
    rw [settle_of_pending_eq_none hpending] at h
    cases h
    rfl
  | some waiting =>
    obtain ⟨g, -, rfl⟩ := (settle_eq_ok_iff hpending).1 h
    rfl

/-! ## One entry after the other -/

/-- How a reading goes on behind an entry: no option waits, and what is given, with the values that
wait, has the entry more. -/
structure Follows (p : Operand) (r : Reading) (x : Entry) (r₁ : Reading) : Prop where
  awaiting? : r₁.awaiting? = none
  operandsOnly : r₁.operandsOnly = r.operandsOnly
  settle : ∀ s₁, r₁.settle = .ok s₁ →
    ∃ s, r.settle = .ok s ∧ s.given.add p x = .ok s₁.given

theorem follows_of_valued_some (h : r.valued o (some t) = .ok r₁) : Follows p r (.value o t) r₁ := by
  obtain ⟨s, hs, h⟩ := bind_eq_ok.1 h
  obtain ⟨g, htake, rfl⟩ := (settle_eq_ok_iff rfl).1 h
  have honly : s.operandsOnly = r.operandsOnly := operandsOnly_of_settle hs
  refine ⟨rfl, honly, fun s₁ hs₁ => ⟨s, hs, ?_⟩⟩
  cases hs₁
  exact htake

/-- A value that follows its option is checked later. -/
theorem follows_of_valued_none (honly : r.operandsOnly = false) (ht : IsPlain t)
    (h : r.valued o none = .ok r₁) (h' : r₁.argument scope t = .ok r') :
    Follows p r (.value o t) r' := by
  obtain ⟨s, hs, h⟩ := bind_eq_ok.1 h
  cases h
  have honly₁ : s.operandsOnly = r.operandsOnly := operandsOnly_of_settle hs
  rw [argument_of_isPlain (by exact honly₁.trans honly) ht] at h'
  cases h'
  refine ⟨rfl, honly₁, fun s₁ hs₁ => ⟨s, hs, ?_⟩⟩
  obtain ⟨g, htake, rfl⟩ := (settle_eq_ok_iff rfl).1 hs₁
  exact htake

theorem follows_of_flag (h : r.flag scope o = .ok r₁) : Follows p r (.flag o) r₁ := by
  obtain ⟨s, hs, h⟩ := bind_eq_ok.1 h
  have hpending := pending_of_settle hs
  have honly : s.operandsOnly = r.operandsOnly := operandsOnly_of_settle hs
  have hset : ∃ g, s.given.setFlag o = .ok g ∧ r₁ = { s with given := g } := by
    split at h
    · cases h
    · cases h
    · split at h
      · next g hg =>
        cases h
        exact ⟨g, hg, rfl⟩
      · cases h
  obtain ⟨g, hset, rfl⟩ := hset
  refine ⟨by rw [awaiting?, hpending], honly, fun s₁ hs₁ => ⟨s, hs, ?_⟩⟩
  rw [settle_of_pending_eq_none (by exact hpending)] at hs₁
  cases hs₁
  exact hset

theorem follows_of_operand (hp : scope.operand? = some p) (hone : p.many = false)
    (h : r.operand scope t = .ok r₁) : Follows p r (.operand t) r₁ := by
  have hread : ∃ s, r.settle = .ok s ∧ r₁ = { s with pending := some (.operand p, [t]) } := by
    unfold operand at h
    rw [hp] at h
    split at h
    · next hscope hpending =>
      cases hscope
      rw [hone] at h
      cases h
    · next hscope hpending =>
      cases hscope
      split at h
      · obtain ⟨s, hs, h⟩ := bind_eq_ok.1 h
        cases h
        exact ⟨s, hs, rfl⟩
      · cases h
    · next hscope => cases hscope
  obtain ⟨s, hs, rfl⟩ := hread
  have honly : s.operandsOnly = r.operandsOnly := operandsOnly_of_settle hs
  refine ⟨rfl, honly, fun s₁ hs₁ => ⟨s, hs, ?_⟩⟩
  obtain ⟨g, htake, rfl⟩ := (settle_eq_ok_iff rfl).1 hs₁
  exact htake

/-- However an entry is spelled, the reading goes on behind it. -/
theorem exists_follows {x : Entry} {front rest : List Text} (hp : scope.operand? = some p)
    (hone : p.many = false) (hx : x.Spells scope front) (hawaiting : r.awaiting? = none)
    (honly : r.operandsOnly = false) (h : r.arguments scope (front ++ rest) = .ok r') :
    ∃ r₁, Follows p r x r₁ ∧ r₁.arguments scope rest = .ok r' := by
  cases hx with
  | joined ho hvalued =>
    obtain ⟨r₁, hread, h⟩ := bind_eq_ok.1 h
    rw [argument_dashed honly, long_joined ho hvalued] at hread
    exact ⟨r₁, follows_of_valued_some hread, h⟩
  | @apart o t ho hvalued ht =>
    obtain ⟨r₁, hread, h⟩ := bind_eq_ok.1 h
    obtain ⟨r₂, hvalue, h⟩ := bind_eq_ok.1 h
    rw [← List.append_nil (dashed o), argument_dashed honly, List.append_nil, long_alone ho,
      if_pos hvalued] at hread
    exact ⟨r₂, follows_of_valued_none honly ht hread hvalue, h⟩
  | letterEquals ho hvalued hc =>
    obtain ⟨rfl, rfl⟩ := eq_output_of_letter hvalued hc
    obtain ⟨r₁, hread, h⟩ := bind_eq_ok.1 h
    rw [argument_letter honly ho] at hread
    exact ⟨r₁, follows_of_valued_some hread, h⟩
  | letterJoined ho hvalued hc hd =>
    obtain ⟨rfl, rfl⟩ := eq_output_of_letter hvalued hc
    obtain ⟨r₁, hread, h⟩ := bind_eq_ok.1 h
    rw [argument_letter honly ho] at hread
    split at hread
    · next heq => cases heq
    · next heq =>
      cases heq
      exact absurd rfl hd
    · exact ⟨r₁, follows_of_valued_some hread, h⟩
  | letterApart ho hvalued hc ht =>
    obtain ⟨rfl, rfl⟩ := eq_output_of_letter hvalued hc
    obtain ⟨r₁, hread, h⟩ := bind_eq_ok.1 h
    obtain ⟨r₂, hvalue, h⟩ := bind_eq_ok.1 h
    rw [argument_letter honly ho] at hread
    exact ⟨r₂, follows_of_valued_none honly ht hread hvalue, h⟩
  | @flag o ho hvalued =>
    obtain ⟨r₁, hread, h⟩ := bind_eq_ok.1 h
    rw [← List.append_nil (dashed o), argument_dashed honly, List.append_nil, long_alone ho,
      hvalued, if_neg (by decide)] at hread
    exact ⟨r₁, follows_of_flag hread, h⟩
  | operand ht =>
    obtain ⟨r₁, hread, h⟩ := bind_eq_ok.1 h
    rw [argument_of_isPlain honly ht, hawaiting] at hread
    exact ⟨r₁, follows_of_operand hp hone hread, h⟩

/-- Behind two dashes all arguments are operands. -/
theorem exists_foldlM_of_operands (hp : scope.operand? = some p) (hone : p.many = false)
    {operands : List Text} (honly : r.operandsOnly = true)
    (h : r.arguments scope operands = .ok r') :
    ∃ s, r.settle = .ok s ∧
      (operands.map Entry.operand).foldlM (Given.add p) s.given = .ok r'.given := by
  induction operands generalizing r with
  | nil => exact ⟨r', h, rfl⟩
  | cons t operands ih =>
    obtain ⟨r₁, hread, h⟩ := bind_eq_ok.1 h
    unfold argument at hread
    rw [if_pos honly] at hread
    have hfollows := follows_of_operand hp hone hread
    obtain ⟨s₁, hs₁, hfold⟩ := ih (hfollows.operandsOnly.trans honly) h
    obtain ⟨s, hs, hadd⟩ := hfollows.settle s₁ hs₁
    refine ⟨s, hs, ?_⟩
    rw [List.map_cons, List.foldlM_cons, bind_eq_ok]
    exact ⟨s₁.given, hadd, hfold⟩

/-- Accepted arguments give what their entries give, one after the other. -/
theorem exists_foldlM_of_arguments (hp : scope.operand? = some p) (hone : p.many = false)
    {entries : List Entry} {args : List Text} (hspells : Spells scope entries args)
    (hawaiting : r.awaiting? = none) (honly : r.operandsOnly = false)
    (h : r.arguments scope args = .ok r') :
    ∃ s, r.settle = .ok s ∧ entries.foldlM (Given.add p) s.given = .ok r'.given := by
  -- A value waits until the next entry is read, so what is given is followed with the values that wait.
  induction hspells generalizing r with
  | nil => exact ⟨r', h, rfl⟩
  | cons hx _ ih =>
    obtain ⟨r₁, hfollows, h⟩ := exists_follows hp hone hx hawaiting honly h
    obtain ⟨s₁, hs₁, hfold⟩ := ih hfollows.awaiting? (hfollows.operandsOnly.trans honly) h
    obtain ⟨s, hs, hadd⟩ := hfollows.settle s₁ hs₁
    refine ⟨s, hs, ?_⟩
    rw [List.foldlM_cons, bind_eq_ok]
    exact ⟨s₁.given, hadd, hfold⟩
  | dashes operands =>
    obtain ⟨r₁, hread, h⟩ := bind_eq_ok.1 h
    unfold argument at hread
    rw [honly, if_neg Bool.false_ne_true] at hread
    cases hread
    obtain ⟨s, hs, hfold⟩ := exists_foldlM_of_operands hp hone rfl h
    -- The values that wait behind the dashes are those that waited before them.
    refine ⟨{ s with operandsOnly := r.operandsOnly }, ?_, hfold⟩
    cases hpending : r.pending with
    | none =>
      rw [settle_of_pending_eq_none (by exact hpending)] at hs
      cases hs
      rw [settle_of_pending_eq_none hpending]
    | some waiting =>
      obtain ⟨g, htake, rfl⟩ := (settle_eq_ok_iff (by exact hpending)).1 hs
      exact (settle_eq_ok_iff hpending).2 ⟨g, htake, rfl⟩

end Reading

/-! ## What entries give for the variables -/

theorem CommandLine.values_cons (o : OptionName) (x : Entry) (entries : List Entry) :
    values o (x :: entries) = values o [x] ++ values o entries := by
  rw [values, ← List.singleton_append, List.filterMap_append]
  rfl

theorem CommandLine.mem_values {o : OptionName} {t : Text} {entries : List Entry} :
    t ∈ values o entries ↔ .value o t ∈ entries := by
  rw [values, List.mem_filterMap]
  constructor
  · rintro ⟨x, hx, h⟩
    split at h
    · next o' t' =>
      split at h
      · next ho =>
        cases h
        exact ho ▸ hx
      · cases h
    · cases h
  · intro h
    exact ⟨_, h, if_pos rfl⟩

namespace Given

variable {p : Operand} {g g' : Given}

/-- What an entry changes that variables come from: one field, or none. -/
theorem sources_of_add {x : Entry} (h : g.add p x = .ok g') :
    (∃ t pair, x = .value .assignment t ∧ readAssignment t = .ok pair ∧
      g' = { g with assignments := pair :: g.assignments }) ∨
    (∃ t, x = .value .variableFile t ∧ g.variableFile = none ∧
      g' = { g with variableFile := some t }) ∨
    (∃ t d, x = .value .date t ∧ g.date = none ∧ Date.read? t = some d ∧
      g' = { g with date := some d }) ∨
    (values .assignment [x] = [] ∧ values .variableFile [x] = [] ∧ values .date [x] = [] ∧
      g'.assignments = g.assignments ∧ g'.variableFile = g.variableFile ∧ g'.date = g.date) := by
  cases x with
  | value o t =>
    obtain ⟨hhas, h⟩ := setOption_eq_ok_iff.1 h
    cases o with
    | assignment =>
      obtain ⟨pair, hread, rfl⟩ := h
      exact .inl ⟨t, pair, rfl, hread, rfl⟩
    | variableFile =>
      obtain ⟨-, rfl⟩ := h
      have hnone : g.variableFile = none := by simpa [has] using hhas
      exact .inr (.inl ⟨t, rfl, hnone, rfl⟩)
    | date =>
      obtain ⟨d, hread, rfl⟩ := h
      have hnone : g.date = none := by simpa [has] using hhas
      exact .inr (.inr (.inl ⟨t, d, rfl, hnone, hread, rfl⟩))
    | config | output =>
      obtain ⟨-, rfl⟩ := h
      exact .inr (.inr (.inr ⟨rfl, rfl, rfl, rfl, rfl, rfl⟩))
    | json | strict | variablesOnly | help | version =>
      obtain rfl := h
      exact .inr (.inr (.inr ⟨rfl, rfl, rfl, rfl, rfl, rfl⟩))
  | flag o =>
    refine .inr (.inr (.inr ⟨rfl, rfl, rfl, ?_⟩))
    unfold add setFlag at h
    dsimp only at h
    split at h
    · cases h
    · cases h
      exact ⟨rfl, rfl, rfl⟩
  | operand t =>
    refine .inr (.inr (.inr ⟨rfl, rfl, rfl, ?_⟩))
    unfold add addOperands at h
    dsimp only at h
    split at h
    · cases h
    · cases h
      exact ⟨rfl, rfl, rfl⟩

/-- How what is given changes by entries: the assignments are added, last first, and a file and a
date may be given once. -/
structure Gains (entries : List Entry) (g g' : Given) : Prop where
  assignments : ∃ pairs,
    List.Forall₂ (fun t pair => readAssignment t = .ok pair) (values .assignment entries) pairs ∧
      g'.assignments = pairs.reverse ++ g.assignments
  variableFile : values .variableFile entries = [] ∧ g'.variableFile = g.variableFile ∨
    g.variableFile = none ∧ ∃ t, values .variableFile entries = [t] ∧ g'.variableFile = some t
  date : values .date entries = [] ∧ g'.date = g.date ∨
    g.date = none ∧ ∃ t d, values .date entries = [t] ∧ Date.read? t = some d ∧ g'.date = some d

theorem gains_of_foldlM {entries : List Entry} (h : entries.foldlM (add p) g = .ok g') :
    Gains entries g g' := by
  induction entries generalizing g with
  | nil =>
    cases h
    exact ⟨⟨[], .nil, rfl⟩, .inl ⟨rfl, rfl⟩, .inl ⟨rfl, rfl⟩⟩
  | cons x entries ih =>
    rw [List.foldlM_cons, bind_eq_ok] at h
    obtain ⟨g₁, hadd, h⟩ := h
    obtain ⟨⟨pairs, hpairs, hassignments⟩, hfile, hdate⟩ := ih h
    rcases sources_of_add hadd with
      ⟨t, pair, rfl, hread, rfl⟩ | ⟨t, rfl, hnone, rfl⟩ | ⟨t, d, rfl, hnone, hread, rfl⟩ |
        ⟨hassign, hvars, hdates, hassignments₁, hfile₁, hdate₁⟩
    · refine ⟨⟨pair :: pairs, .cons hread hpairs, ?_⟩, hfile, hdate⟩
      rw [hassignments, List.reverse_cons, List.append_assoc, List.singleton_append]
    · refine ⟨⟨pairs, hpairs, hassignments⟩, .inr ⟨hnone, t, ?_⟩, hdate⟩
      rcases hfile with ⟨hempty, hfile⟩ | ⟨hnone', -⟩
      · exact ⟨congrArg (t :: ·) hempty, hfile⟩
      · cases hnone'
    · refine ⟨⟨pairs, hpairs, hassignments⟩, hfile, .inr ⟨hnone, t, d, ?_⟩⟩
      rcases hdate with ⟨hempty, hdate⟩ | ⟨hnone', -⟩
      · exact ⟨congrArg (t :: ·) hempty, hread, hdate⟩
      · cases hnone'
    · rw [hassignments₁] at hassignments
      rw [hfile₁] at hfile
      rw [hdate₁] at hdate
      refine ⟨⟨pairs, ?_, hassignments⟩, ?_, ?_⟩
      · rwa [values_cons, hassign]
      · rwa [values_cons, hvars]
      · rwa [values_cons, hdates]

end Given

end DateTemplate
