import DateTemplate.Proofs.CommandLine.Entries

set_option autoImplicit false

/-!
# How command lines are spelled

A command line has settings files in front of its command, and options and operands behind it. Every
command line that is accepted is spelled so, and one that is spelled so gives what its entries give.
Main statements: `exists_spells_of_arguments`, the arguments behind a command that are accepted are
spelled by entries; `exists_spelled_of_parse`, and whole command lines are; `exists_gains_of_parse`,
what a whole command line gives for the variables.
-/

namespace DateTemplate

open DateTemplate.Parser (bind_eq_ok)

namespace CommandLine

/-- Arguments that spell settings files, a command, and entries behind it. -/
def Spelled (files : List Path) (c : CommandName) (entries : List Entry) (args : List Text) : Prop :=
  ∃ front back, args = front ++ c.word.toList :: back ∧
    Spells none (files.map (.value .config)) front ∧ Spells (some c) entries back

end CommandLine

open CommandLine

/-- The name of a command. -/
def Command.name : Command → CommandName
  | .doctor => .doctor
  | .render _ => .render
  | .eval .. => .eval
  | .validate _ => .validate
  | .extract .. => .extract

theorem Given.name_of_command {g : Given} {c : CommandName} {command : Command}
    (h : g.command c = .ok command) : command.name = c := by
  unfold Given.command at h
  split at h <;> cases h <;> rfl

theorem CommandName.eq_word_of_ofWord? {t : Text} {c : CommandName} (h : ofWord? t = some c) :
    t = c.word.toList := by
  have hfound := List.find?_some h
  exact (eq_of_beq hfound).symm

namespace Reading

variable {scope : Scope} {r r₁ r' : Reading} {o : OptionName} {t : Text}

/-! ## What an argument can be -/

theorem ofLong?_eq_some {name : Text} (h : scope.ofLong? name = some o) :
    o ∈ scope.options ∧ name = o.long.toList := by
  have hfound := List.find?_some h
  exact ⟨List.mem_of_find?_eq_some h, (eq_of_beq hfound).symm⟩

theorem ofLetter?_eq_some {c : Char} (h : scope.ofLetter? c = some o) :
    o ∈ scope.options ∧ o.letter? = some c :=
  ⟨List.mem_of_find?_eq_some h, by simpa using List.find?_some h⟩

/-- An argument is two dashes, has two of them or one in front, or is plain. -/
theorem argument_cases (scope : Scope) (honly : r.operandsOnly = false) (t : Text) :
    t = ['-', '-'] ∧ r.argument scope t = .ok { r with operandsOnly := true } ∨
    (∃ u, t = '-' :: '-' :: u ∧ r.argument scope t = r.long scope u) ∨
    (∃ c u, t = '-' :: c :: u ∧ r.argument scope t = r.letters scope (c :: u)) ∨ IsPlain t := by
  unfold argument
  rw [honly, if_neg Bool.false_ne_true]
  split
  · exact .inl ⟨rfl, rfl⟩
  · exact .inr (.inl ⟨_, rfl, rfl⟩)
  · exact .inr (.inr (.inl ⟨_, _, rfl, rfl⟩))
  · next _ _ hletters =>
    refine .inr (.inr (.inr fun hdash => ?_))
    cases t with
    | nil => cases hdash
    | cons c u =>
      obtain rfl : c = '-' := Option.some.inj hdash
      cases u with
      | nil => rfl
      | cons d u => exact absurd rfl (hletters d u)

/-- What an argument has been read as, where no option waited for its value. -/
inductive Reads (scope : Scope) (t : Text) (r₁ : Reading) : Prop
  | value {o : OptionName} {v : Text} (hspells : (Entry.value o v).Spells scope [t])
      (h : r₁.awaiting? = none)
  | flag {o : OptionName} (ho : o ∈ scope.options) (hvalued : o.valueName? = none)
      (hhelp : o ≠ .help) (hversion : o ≠ .version) (ht : t = dashed o) (h : r₁.awaiting? = none)
  | operand {p : Operand} (hp : scope.operand? = some p) (ht : IsPlain t) (h : r₁.awaiting? = none)
  | option {o : OptionName} (hspells : ∀ v, IsPlain v → (Entry.value o v).Spells scope [t, v])
      (h : r₁.awaiting? = some o)

theorem awaiting?_of_valued_some (h : r.valued o (some t) = .ok r₁) :
    r₁.awaiting? = none ∧ r₁.operandsOnly = r.operandsOnly := by
  have hfollows := follows_of_valued_some (p := ⟨"", false, false, false⟩) h
  exact ⟨hfollows.awaiting?, hfollows.operandsOnly⟩

theorem awaiting?_of_valued_none (h : r.valued o none = .ok r₁) :
    r₁.awaiting? = some o ∧ r₁.operandsOnly = r.operandsOnly := by
  obtain ⟨s, hs, h⟩ := bind_eq_ok.1 h
  have honly := operandsOnly_of_settle hs
  cases h
  exact ⟨rfl, honly⟩

/-- Help and the version end the reading. -/
theorem flag_eq_ok (h : r.flag scope o = .ok r₁) :
    o ≠ .help ∧ o ≠ .version ∧ r₁.awaiting? = none ∧ r₁.operandsOnly = r.operandsOnly := by
  have hfollows := follows_of_flag (p := ⟨"", false, false, false⟩) h
  obtain ⟨s, hs, h⟩ := bind_eq_ok.1 h
  refine ⟨?_, ?_, hfollows.awaiting?, hfollows.operandsOnly⟩
  · rintro rfl
    cases h
  · rintro rfl
    cases h

theorem reads_of_long {u : Text} (h : r.long scope u = .ok r₁) :
    Reads scope ('-' :: '-' :: u) r₁ ∧ r₁.operandsOnly = r.operandsOnly := by
  unfold long at h
  dsimp only at h
  split at h
  · cases h
  · next o hlong =>
    obtain ⟨ho, hname⟩ := ofLong?_eq_some hlong
    have hsplit := List.takeWhile_append_dropWhile (p := (· != '=')) (l := u)
    rw [hname] at hsplit
    cases hback : u.dropWhile (· != '=') with
    | nil =>
      rw [hback, List.append_nil] at hsplit
      have hcontains : u.contains '=' = false := by
        rw [← hsplit]
        simpa using fun h => absurd (ne_equals_of_mem_long o '=' h) (by decide)
      rw [hcontains, if_neg Bool.false_ne_true] at h
      subst hsplit
      split at h
      · next hvalued =>
        obtain ⟨hawaiting, honly⟩ := awaiting?_of_valued_none h
        exact ⟨.option (fun v hv => .apart ho hvalued hv) hawaiting, honly⟩
      · next hvalued =>
        obtain ⟨hhelp, hversion, hawaiting, honly⟩ := flag_eq_ok h
        exact ⟨.flag ho (by simpa using hvalued) hhelp hversion rfl hawaiting, honly⟩
    | cons c value =>
      have hstop := List.head?_dropWhile_not (· != '=') u
      rw [hback] at hstop hsplit
      obtain rfl : c = '=' := by simpa using hstop
      have hcontains : u.contains '=' = true := by simp [← hsplit]
      rw [hcontains, if_pos rfl, hback] at h
      subst hsplit
      split at h
      · next hvalued =>
        obtain ⟨hawaiting, honly⟩ := awaiting?_of_valued_some h
        exact ⟨.value (.joined ho hvalued) hawaiting, honly⟩
      · cases h

/-- A letter without a value asks for help or for the version. -/
theorem eq_help_or_version_of_letter {c : Char} (hc : o.letter? = some c)
    (hvalued : o.valueName? = none) : o = .help ∨ o = .version := by
  cases o <;> simp_all [OptionName.letter?, OptionName.valueName?]

theorem reads_of_letters {c : Char} {u : Text} (h : r.letters scope (c :: u) = .ok r₁) :
    Reads scope ('-' :: c :: u) r₁ ∧ r₁.operandsOnly = r.operandsOnly := by
  unfold letters at h
  split at h
  · cases h
  · next o hletter =>
    obtain ⟨ho, hc⟩ := ofLetter?_eq_some hletter
    split at h
    · next hvalued =>
      split at h
      · obtain ⟨hawaiting, honly⟩ := awaiting?_of_valued_none h
        exact ⟨.option (fun v hv => .letterApart ho hvalued hc hv) hawaiting, honly⟩
      · obtain ⟨hawaiting, honly⟩ := awaiting?_of_valued_some h
        exact ⟨.value (.letterEquals ho hvalued hc) hawaiting, honly⟩
      · next hne hequals =>
        obtain ⟨hawaiting, honly⟩ := awaiting?_of_valued_some h
        cases u with
        | nil => exact absurd rfl hne
        | cons d u =>
          have hd : d ≠ '=' := fun hd => hequals u (hd ▸ rfl)
          exact ⟨.value (.letterJoined ho hvalued hc hd) hawaiting, honly⟩
    · next hvalued =>
      obtain ⟨r₂, hflag, -⟩ := bind_eq_ok.1 h
      obtain ⟨hhelp, hversion, -⟩ := flag_eq_ok hflag
      rcases eq_help_or_version_of_letter hc (by simpa using hvalued) with rfl | rfl
      · exact absurd rfl hhelp
      · exact absurd rfl hversion

theorem operand_eq_ok (h : r.operand scope t = .ok r₁) :
    (∃ p, scope.operand? = some p) ∧ r₁.awaiting? = none ∧ r₁.operandsOnly = r.operandsOnly := by
  unfold operand at h
  split at h
  · next hp _ =>
    split at h
    · cases h
      exact ⟨⟨_, hp⟩, rfl, rfl⟩
    · cases h
  · next hp _ =>
    split at h
    · obtain ⟨s, hs, h⟩ := bind_eq_ok.1 h
      have honly := operandsOnly_of_settle hs
      cases h
      exact ⟨⟨_, hp⟩, rfl, honly⟩
    · cases h
  · split at h
    · cases h
    · split at h <;> cases h

/-- An argument that is taken where no option waits, other than two dashes, has a spelling of its own or
is an option whose value follows. -/
theorem reads_of_argument (hawaiting : r.awaiting? = none) (honly : r.operandsOnly = false)
    (h : r.argument scope t = .ok r₁) :
    t = ['-', '-'] ∧ r₁ = { r with operandsOnly := true } ∨
      Reads scope t r₁ ∧ r₁.operandsOnly = false := by
  rcases argument_cases scope honly t with
    ⟨ht, hread⟩ | ⟨u, rfl, hread⟩ | ⟨c, u, rfl, hread⟩ | hplain
  · rw [hread] at h
    exact .inl ⟨ht, (Except.ok.inj h).symm⟩
  · rw [hread] at h
    obtain ⟨hreads, honly₁⟩ := reads_of_long h
    exact .inr ⟨hreads, honly₁.trans honly⟩
  · rw [hread] at h
    obtain ⟨hreads, honly₁⟩ := reads_of_letters h
    exact .inr ⟨hreads, honly₁.trans honly⟩
  · rw [argument_of_isPlain honly hplain, hawaiting] at h
    obtain ⟨⟨p, hp⟩, hawaiting₁, honly₁⟩ := operand_eq_ok h
    exact .inr ⟨.operand hp hplain hawaiting₁, honly₁.trans honly⟩

/-! ## An option that waits -/

theorem settle_of_awaiting (h : r.awaiting? = some o) :
    r.settle = .error (.refused (.missingValue o.text)) := by
  unfold awaiting? at h
  split at h
  · next o' hpending =>
    cases h
    rw [settle, hpending]
    rfl
  · cases h

theorem operand_of_awaiting (h : r.awaiting? = some o) : r.operand scope t ≠ .ok r₁ := by
  intro hread
  have hsettle := settle_of_awaiting h
  unfold awaiting? at h
  split at h
  · next o' hpending =>
    unfold operand at hread
    rw [hpending, hsettle] at hread
    split at hread
    · next heq => cases heq
    · split at hread <;> cases hread
    · split at hread
      · cases hread
      · split at hread <;> cases hread
  · cases h

/-- The value that an option waits for is a plain argument. -/
theorem exists_of_awaiting (hawaiting : r.awaiting? = some o) (honly : r.operandsOnly = false)
    (h : r.argument scope t = .ok r₁) :
    r₁.operandsOnly = true ∧ r₁.awaiting? = some o ∨
      IsPlain t ∧ r₁.awaiting? = none ∧ r₁.operandsOnly = false := by
  have hsettle := settle_of_awaiting hawaiting
  rcases argument_cases scope honly t with
    ⟨-, hread⟩ | ⟨u, rfl, hread⟩ | ⟨c, u, rfl, hread⟩ | hplain
  · rw [hread] at h
    cases h
    exact .inl ⟨rfl, hawaiting⟩
  · rw [hread] at h
    unfold long valued flag at h
    rw [hsettle] at h
    dsimp only at h
    split at h
    · cases h
    · split at h
      · cases h
      · split at h <;> cases h
  · rw [hread] at h
    unfold letters valued flag at h
    rw [hsettle] at h
    split at h
    · cases h
    · split at h
      · split at h <;> cases h
      · cases h
  · rw [argument_of_isPlain honly hplain, hawaiting] at h
    cases h
    exact .inr ⟨hplain, rfl, honly⟩

/-! ## The arguments behind a command -/

/-- An option that waits when only operands follow has no value. -/
theorem arguments_of_awaiting (hawaiting : r.awaiting? = some o) (honly : r.operandsOnly = true)
    (args : List Text) : r.arguments scope args ≠ .ok r' := by
  intro h
  cases args with
  | nil =>
    rw [arguments, settle_of_awaiting hawaiting] at h
    cases h
  | cons t rest =>
    obtain ⟨r₁, hread, -⟩ := bind_eq_ok.1 h
    unfold argument at hread
    rw [if_pos honly] at hread
    exact operand_of_awaiting hawaiting hread

/-- Arguments that are accepted are spelled by entries; if an option waits, its value comes first. -/
theorem exists_spells_of_arguments {args : List Text} (honly : r.operandsOnly = false)
    (h : r.arguments scope args = .ok r') :
    (r.awaiting? = none → ∃ entries, Spells scope entries args) ∧
    ∀ o, r.awaiting? = some o →
      ∃ t rest entries, args = t :: rest ∧ IsPlain t ∧ Spells scope entries rest := by
  induction args generalizing r with
  | nil =>
    refine ⟨fun _ => ⟨[], .nil⟩, fun o hawaiting => ?_⟩
    rw [arguments, settle_of_awaiting hawaiting] at h
    cases h
  | cons t rest ih =>
    obtain ⟨r₁, hread, hrest⟩ := bind_eq_ok.1 h
    constructor
    · intro hawaiting
      rcases reads_of_argument hawaiting honly hread with ⟨rfl, -⟩ | ⟨hreads, honly₁⟩
      · exact ⟨rest.map .operand, .dashes rest⟩
      · obtain ⟨hnone, hsome⟩ := ih honly₁ hrest
        cases hreads with
        | value hspells hawaiting₁ =>
          obtain ⟨entries, hentries⟩ := hnone hawaiting₁
          exact ⟨_, .cons hspells hentries⟩
        | flag ho hvalued _ _ ht hawaiting₁ =>
          obtain ⟨entries, hentries⟩ := hnone hawaiting₁
          subst ht
          exact ⟨_, .cons (.flag ho hvalued) hentries⟩
        | operand _ ht hawaiting₁ =>
          obtain ⟨entries, hentries⟩ := hnone hawaiting₁
          exact ⟨_, .cons (.operand ht) hentries⟩
        | option hspells hawaiting₁ =>
          obtain ⟨v, rest, entries, rfl, hv, hentries⟩ := hsome _ hawaiting₁
          exact ⟨_, .cons (hspells v hv) hentries⟩
    · intro o hawaiting
      rcases exists_of_awaiting hawaiting honly hread with
        ⟨honly₁, hawaiting₁⟩ | ⟨hplain, hawaiting₁, honly₁⟩
      · exact absurd hrest (arguments_of_awaiting hawaiting₁ honly₁ rest)
      · obtain ⟨entries, hentries⟩ := (ih honly₁ hrest).1 hawaiting₁
        exact ⟨t, rest, entries, rfl, hplain, hentries⟩

end Reading

/-! ## Whole command lines -/

namespace CommandLine

variable {r r₁ : Reading} {files : List Path} {c : CommandName} {entries : List Entry}
  {t : Text} {front back args rest : List Text} {i : Invocation}

/-- Only the settings file has a value before a command. -/
theorem eq_config_of_spells {o : OptionName} (h : (Entry.value o t).Spells none front) :
    o = .config := by
  have hoption : o ∈ Scope.options none ∧ o.valueName?.isSome = true := by
    cases h with
    | joined ho hvalued => exact ⟨ho, hvalued⟩
    | apart ho hvalued _ => exact ⟨ho, hvalued⟩
    | letterEquals ho hvalued _ => exact ⟨ho, hvalued⟩
    | letterJoined ho hvalued _ _ => exact ⟨ho, hvalued⟩
    | letterApart ho hvalued _ _ => exact ⟨ho, hvalued⟩
  cases o <;> simp_all [Scope.options, OptionName.valueName?]

/-- Before a command there are no operands, so nothing is accepted behind two dashes. -/
theorem readFrom_of_operandsOnly (honly : r.operandsOnly = true) : readFrom r args ≠ .ok i := by
  intro h
  cases args with
  | nil =>
    unfold readFrom at h
    obtain ⟨s, -, h⟩ := bind_eq_ok.1 h
    cases h
  | cons t rest =>
    unfold readFrom at h
    simp only [honly, Bool.true_or, if_true, Bool.not_true, Bool.false_and, Bool.false_eq_true,
      if_false] at h
    obtain ⟨r₁, hread, -⟩ := bind_eq_ok.1 h
    unfold Reading.argument at hread
    rw [if_pos honly] at hread
    obtain ⟨⟨p, hp⟩, -⟩ := Reading.operand_eq_ok hread
    cases hp

/-- What is not a command is read as an argument before one, if it does not ask for help. -/
theorem readFrom_cons (hword : r.awaiting?.isSome = true ∨ CommandName.ofWord? t = none)
    (h : readFrom r (t :: rest) = .ok i) :
    ∃ r₁, r.argument none t = .ok r₁ ∧ readFrom r₁ rest = .ok i := by
  have hname : (if (r.operandsOnly || r.awaiting?.isSome) = true then none
      else CommandName.ofWord? t) = none := by
    rcases hword with hword | hword <;> simp [hword]
  unfold readFrom at h
  rw [hname] at h
  dsimp only at h
  split at h
  · cases h
  · exact bind_eq_ok.1 h

/-- A command takes all arguments behind it. -/
theorem readFrom_word (honly : r.operandsOnly = false) (hawaiting : r.awaiting? = none)
    (hword : CommandName.ofWord? t = some c) (h : readFrom r (t :: rest) = .ok i) :
    ∃ r' : Reading, Reading.arguments {} (some c) rest = .ok r' ∧
      r'.given.command c = .ok i.command := by
  unfold readFrom at h
  simp only [honly, hawaiting, Option.isSome_none, Bool.or_false, Bool.false_eq_true, if_false,
    hword] at h
  obtain ⟨r', harguments, h⟩ := bind_eq_ok.1 h
  obtain ⟨command, hcommand, h⟩ := bind_eq_ok.1 h
  obtain ⟨outer, -, h⟩ := bind_eq_ok.1 h
  cases h
  exact ⟨r', harguments, hcommand⟩

theorem ofWord?_word (c : CommandName) : CommandName.ofWord? c.word.toList = some c := by
  cases c <;> rfl

/-- No command begins with a dash. -/
theorem ofWord?_dashed (t : Text) : CommandName.ofWord? ('-' :: t) = none := by
  cases hword : CommandName.ofWord? ('-' :: t) with
  | none => rfl
  | some c =>
    have ht := CommandName.eq_word_of_ofWord? hword
    cases c <;> cases ht

/-- Settings files before a command are passed over, however they are spelled. -/
theorem exists_readFrom_of_spells (hspells : Spells none (files.map (.value .config)) front)
    (hawaiting : r.awaiting? = none) (honly : r.operandsOnly = false)
    (h : readFrom r (front ++ args) = .ok i) :
    ∃ r₁ : Reading, r₁.awaiting? = none ∧ r₁.operandsOnly = false ∧ readFrom r₁ args = .ok i := by
  generalize hentries : files.map (Entry.value .config) = entries at hspells
  induction hspells generalizing files r with
  | nil => exact ⟨r, hawaiting, honly, h⟩
  | dashes operands =>
    obtain ⟨r₁, hread, h⟩ := readFrom_cons (.inr (ofWord?_dashed ['-'])) h
    unfold Reading.argument at hread
    rw [honly, if_neg Bool.false_ne_true] at hread
    cases hread
    exact absurd h (readFrom_of_operandsOnly rfl)
  | @cons x entries one more hx _ ih =>
    cases files with
    | nil => cases hentries
    | cons file files =>
      obtain ⟨rfl, htail⟩ := List.cons.inj hentries
      cases hx with
      | joined ho hvalued =>
        obtain ⟨r₁, hread, h⟩ :=
          readFrom_cons (t := dashed .config ++ '=' :: file) (.inr (ofWord?_dashed _)) h
        rw [Reading.argument_dashed honly, Reading.long_joined ho hvalued] at hread
        obtain ⟨hawaiting₁, honly₁⟩ := Reading.awaiting?_of_valued_some hread
        exact ih hawaiting₁ (honly₁.trans honly) h htail
      | apart ho hvalued hplain =>
        obtain ⟨r₁, hread, h⟩ :=
          readFrom_cons (t := dashed .config) (.inr (ofWord?_dashed _)) h
        rw [← List.append_nil (dashed _), Reading.argument_dashed honly, List.append_nil,
          Reading.long_alone ho, if_pos hvalued] at hread
        obtain ⟨hawaiting₁, honly₁⟩ := Reading.awaiting?_of_valued_none hread
        obtain ⟨r₂, hvalue, h⟩ := readFrom_cons (.inl (by rw [hawaiting₁]; rfl)) h
        have hfollows := Reading.follows_of_valued_none (p := ⟨"", false, false, false⟩) honly hplain
          hread hvalue
        exact ih hfollows.awaiting? (hfollows.operandsOnly.trans honly) h htail
      | letterEquals _ _ hc => cases hc
      | letterJoined _ _ hc _ => cases hc
      | letterApart _ _ hc _ => cases hc

/-- A command line that is accepted is spelled; if an option waits, its value comes first. -/
theorem exists_spelled_of_readFrom (honly : r.operandsOnly = false)
    (h : readFrom r args = .ok i) :
    (r.awaiting? = none → ∃ files entries, Spelled files i.command.name entries args) ∧
    ∀ o, r.awaiting? = some o → ∃ t rest files entries, args = t :: rest ∧ IsPlain t ∧
      Spelled files i.command.name entries rest := by
  induction args generalizing r with
  | nil =>
    unfold readFrom at h
    obtain ⟨s, -, h⟩ := bind_eq_ok.1 h
    cases h
  | cons t rest ih =>
    constructor
    · intro hawaiting
      cases hword : CommandName.ofWord? t with
      | some c =>
        obtain ⟨r', harguments, hcommand⟩ := readFrom_word honly hawaiting hword h
        obtain ⟨entries, hentries⟩ := (Reading.exists_spells_of_arguments rfl harguments).1 rfl
        rw [CommandName.eq_word_of_ofWord? hword, Given.name_of_command hcommand]
        exact ⟨[], entries, [], rest, rfl, .nil, hentries⟩
      | none =>
        obtain ⟨r₁, hread, hrest⟩ := readFrom_cons (.inr hword) h
        rcases Reading.reads_of_argument hawaiting honly hread with ⟨-, rfl⟩ | ⟨hreads, honly₁⟩
        · exact absurd hrest (readFrom_of_operandsOnly rfl)
        · obtain ⟨hnone, hsome⟩ := ih honly₁ hrest
          cases hreads with
          | @value o v hspells hawaiting₁ =>
            obtain ⟨files, entries, front, back, rfl, hfront, hback⟩ := hnone hawaiting₁
            obtain rfl := eq_config_of_spells hspells
            exact ⟨v :: files, entries, [t] ++ front, back, rfl, .cons hspells hfront, hback⟩
          | @flag o ho hvalued hhelp hversion _ _ =>
            cases o <;> simp_all [Scope.options, OptionName.valueName?]
          | operand hp _ _ => cases hp
          | @option o hspells hawaiting₁ =>
            obtain ⟨v, rest, files, entries, rfl, hv, front, back, rfl, hfront, hback⟩ :=
              hsome _ hawaiting₁
            obtain rfl := eq_config_of_spells (hspells v hv)
            exact ⟨v :: files, entries, [t, v] ++ front, back, rfl, .cons (hspells v hv) hfront,
              hback⟩
    · intro o hawaiting
      obtain ⟨r₁, hread, hrest⟩ := readFrom_cons (.inl (by rw [hawaiting]; rfl)) h
      rcases Reading.exists_of_awaiting hawaiting honly hread with
        ⟨honly₁, -⟩ | ⟨hplain, hawaiting₁, honly₁⟩
      · exact absurd hrest (readFrom_of_operandsOnly honly₁)
      · obtain ⟨files, entries, hspelled⟩ := (ih honly₁ hrest).1 hawaiting₁
        exact ⟨t, rest, files, entries, rfl, hplain, hspelled⟩

/-- Every command line that is accepted is spelled by settings files, its command and entries. -/
theorem exists_spelled_of_parse (h : parse args = .ok i) :
    ∃ files entries, Spelled files i.command.name entries args :=
  (exists_spelled_of_readFrom rfl h).1 rfl

/-- What an accepted command line gives for the variables of its command. -/
theorem exists_gains_of_parse (hc : c = .eval ∨ c = .render) (hspelled : Spelled files c entries args)
    (h : parse args = .ok i) : ∃ g : Given, Given.Gains entries {} g ∧ g.command c = .ok i.command := by
  obtain ⟨p, hp, hone⟩ : ∃ p, Scope.operand? (some c) = some p ∧ p.many = false := by
    rcases hc with rfl | rfl
    · exact ⟨_, rfl, rfl⟩
    · exact ⟨_, rfl, rfl⟩
  obtain ⟨front, back, rfl, hfront, hback⟩ := hspelled
  obtain ⟨r₁, hawaiting, honly, h⟩ := exists_readFrom_of_spells hfront rfl rfl h
  obtain ⟨r', harguments, hcommand⟩ := readFrom_word honly hawaiting (ofWord?_word c) h
  obtain ⟨s, hs, hfold⟩ := Reading.exists_foldlM_of_arguments hp hone hback rfl rfl harguments
  cases hs
  exact ⟨r'.given, Given.gains_of_foldlM hfold, hcommand⟩

end CommandLine

end DateTemplate
