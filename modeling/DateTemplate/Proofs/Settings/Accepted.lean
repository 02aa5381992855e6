import DateTemplate.Proofs.Expr.RoundTrip
import DateTemplate.Proofs.Host.Answers
import DateTemplate.Proofs.Program.Sources
import DateTemplate.Settings.Load

set_option autoImplicit false

/-!
# Which settings are accepted, and what they promise

A settings file has to pass five checks, each of them told on its own here. The settings of a file
that passes all of them have its limits and its date, and an engine with these settings keeps to
both. Main statements: `SettingsFile.givesLimits_of_ofText?`, a limit that a document lacks is the
standard one; `SettingsFile.ofFile_eq_ok_iff` and `SettingsFile.ofFile_eq_error_iff`, a file has
settings just if it is valid, and else the first check that it fails tells the error;
`Settings.load_valid`, what that means for settings that are loaded and for engines with them.
-/

namespace DateTemplate

/-! ## What a file has to be -/

/-- A check of a settings file. -/
inductive SettingsCheck where
  | version
  | limit (kind : LimitKind)
  | date
  | logFile
deriving DecidableEq, Repr

/-- The checks in the order in which they are made. -/
def SettingsCheck.order : List SettingsCheck :=
  [.version, .limit .expressionLength, .limit .intervalAmount, .date, .logFile]

/-- The limit of a kind. -/
def Limits.get (limits : Limits) : LimitKind → Nat
  | .expressionLength => limits.maxLength
  | .intervalAmount => limits.maxAmount

namespace SettingsFile

/-- A file is valid in an environment. -/
structure IsValid (env : Bindings Text) (file : SettingsFile) : Prop where
  version : file.version = 1
  maxLength : file.limits.maxLength ≠ 0
  maxAmount : file.limits.maxAmount ≠ 0
  date : ∀ raw, file.date = some raw → ∃ d, Date.read? raw = some d
  logFile : ∀ p, file.logging.file = some p → ∃ q, p.expand env = some q

/-- What a check has to say against a file, whatever the other checks say. -/
inductive Fails (env : Bindings Text) (file : SettingsFile) : SettingsCheck → SettingsError → Prop
  | version (h : file.version ≠ 1) : Fails env file .version (.unsupportedVersion file.version)
  | limit {kind : LimitKind} (h : file.limits.get kind = 0) :
      Fails env file (.limit kind) (.zeroLimit kind)
  | date {raw : Text} (h : file.date = some raw) (hread : Date.read? raw = none) :
      Fails env file .date (.invalidDate raw)
  | logFile {p : Path} (h : file.logging.file = some p) (hexpand : p.expand env = none) :
      Fails env file .logFile .unresolvedPath

/-- A file fails a check with this error, and no check before that one. -/
def FailsFirst (env : Bindings Text) (file : SettingsFile) (e : SettingsError) : Prop :=
  ∃ before check after, SettingsCheck.order = before ++ check :: after ∧ Fails env file check e ∧
    ∀ c ∈ before, ∀ e, ¬ Fails env file c e

/-- The error of a check. -/
def fault? (env : Bindings Text) (file : SettingsFile) : SettingsCheck → Option SettingsError
  | .version => if file.version = 1 then none else some (.unsupportedVersion file.version)
  | .limit kind => if file.limits.get kind = 0 then some (.zeroLimit kind) else none
  | .date => file.date.bind fun raw =>
    if Date.read? raw = none then some (.invalidDate raw) else none
  | .logFile => file.logging.file.bind fun p =>
    if p.expand env = none then some .unresolvedPath else none

/-- The settings of a valid file. -/
def settings (env : Bindings Text) (source : Path) (file : SettingsFile) : Settings where
  source := some source
  limits := file.limits
  pinnedDate := file.date.bind Date.read?
  logging := { file.logging with file := file.logging.file.bind (·.expand env) }

variable {env : Bindings Text} {file : SettingsFile}

theorem fault?_eq_some_iff {check : SettingsCheck} {e : SettingsError} :
    file.fault? env check = some e ↔ Fails env file check e := by
  constructor
  · intro h
    cases check with
    | version =>
      obtain ⟨hversion, rfl⟩ : file.version ≠ 1 ∧ .unsupportedVersion file.version = e := by
        simpa [fault?] using h
      exact .version hversion
    | limit kind =>
      obtain ⟨hzero, rfl⟩ : file.limits.get kind = 0 ∧ .zeroLimit kind = e := by
        simpa [fault?] using h
      exact .limit hzero
    | date =>
      obtain ⟨raw, hdate, hfault⟩ := Option.bind_eq_some_iff.1 h
      obtain ⟨hread, rfl⟩ : Date.read? raw = none ∧ .invalidDate raw = e := by
        simpa using hfault
      exact .date hdate hread
    | logFile =>
      obtain ⟨p, hfile, hfault⟩ := Option.bind_eq_some_iff.1 h
      obtain ⟨hexpand, rfl⟩ : p.expand env = none ∧ .unresolvedPath = e := by simpa using hfault
      exact .logFile hfile hexpand
  · intro h
    cases h with
    | version h => exact if_neg h
    | limit h => exact if_pos h
    | date h hread => simp [fault?, h, hread]
    | logFile h hexpand => simp [fault?, h, hexpand]

theorem fault?_eq_none_iff {check : SettingsCheck} :
    file.fault? env check = none ↔ ∀ e, ¬ Fails env file check e := by
  rw [Option.eq_none_iff_forall_ne_some]
  exact forall_congr' fun e => not_congr fault?_eq_some_iff

/-- A file is valid just if it passes each check. -/
theorem isValid_iff : file.IsValid env ↔ ∀ c ∈ SettingsCheck.order, ∀ e, ¬ Fails env file c e := by
  constructor
  · rintro hvalid c - e h
    cases h with
    | version h => exact h hvalid.version
    | @limit kind h =>
      cases kind with
      | expressionLength => exact hvalid.maxLength h
      | intervalAmount => exact hvalid.maxAmount h
    | date h hread =>
      obtain ⟨d, hsome⟩ := hvalid.date _ h
      rw [hread] at hsome
      cases hsome
    | logFile h hexpand =>
      obtain ⟨q, hsome⟩ := hvalid.logFile _ h
      rw [hexpand] at hsome
      cases hsome
  · intro h
    have hpasses : ∀ c e, Fails env file c e → c ∉ SettingsCheck.order := fun c e hfails hc =>
      h c hc e hfails
    refine ⟨?_, fun hzero => ?_, fun hzero => ?_, fun raw hdate => ?_, fun p hfile => ?_⟩
    · exact Decidable.by_contra fun hversion => hpasses _ _ (.version hversion) (by decide)
    · exact hpasses (.limit .expressionLength) _ (.limit hzero) (by decide)
    · exact hpasses (.limit .intervalAmount) _ (.limit hzero) (by decide)
    · exact Option.ne_none_iff_exists'.1 fun hread => hpasses _ _ (.date hdate hread) (by decide)
    · exact Option.ne_none_iff_exists'.1 fun hexpand =>
        hpasses _ _ (.logFile hfile hexpand) (by decide)

theorem findSome?_fault?_eq_none_iff :
    SettingsCheck.order.findSome? (file.fault? env) = none ↔ file.IsValid env := by
  rw [List.findSome?_eq_none_iff, isValid_iff]
  exact forall₂_congr fun _ _ => fault?_eq_none_iff

theorem findSome?_fault?_eq_some_iff {e : SettingsError} :
    SettingsCheck.order.findSome? (file.fault? env) = some e ↔ file.FailsFirst env e := by
  simp only [List.findSome?_eq_some_iff, FailsFirst, fault?_eq_some_iff, fault?_eq_none_iff]

/-! ## Checking a file -/

/-- A result, unless there is a fault. -/
def unlessFaulty {α : Type} (a : α) : Option SettingsError → Except SettingsError α
  | some e => .error e
  | none => .ok a

theorem unlessFaulty_eq_ok_iff {α : Type} {a b : α} {fault : Option SettingsError} :
    unlessFaulty a fault = .ok b ↔ fault = none ∧ b = a := by
  cases fault <;> simp [unlessFaulty, eq_comm]

theorem unlessFaulty_eq_error_iff {α : Type} {a : α} {fault : Option SettingsError}
    {e : SettingsError} : unlessFaulty a fault = .error e ↔ fault = some e := by
  cases fault <;> simp [unlessFaulty]

theorem checkedLimits_eq (env : Bindings Text) : file.checkedLimits = unlessFaulty file.limits
    ((file.fault? env (.limit .expressionLength)).or
      (file.fault? env (.limit .intervalAmount))) := by
  by_cases hlength : file.limits.maxLength = 0
  · simp [checkedLimits, fault?, Limits.get, unlessFaulty, hlength]
  · by_cases hamount : file.limits.maxAmount = 0 <;>
      simp [checkedLimits, fault?, Limits.get, unlessFaulty, hlength, hamount]

theorem checkedDate_eq (env : Bindings Text) :
    file.checkedDate = unlessFaulty (file.date.bind Date.read?) (file.fault? env .date) := by
  unfold checkedDate fault?
  cases file.date with
  | none => rfl
  | some raw => cases hread : Date.read? raw <;> simp [hread, unlessFaulty]

theorem checkedLogging_eq : file.checkedLogging env =
    unlessFaulty { file.logging with file := file.logging.file.bind (·.expand env) }
      (file.fault? env .logFile) := by
  unfold checkedLogging fault?
  obtain ⟨level, fileLevel, logFile⟩ := file.logging
  cases logFile with
  | none => rfl
  | some p => cases hexpand : p.expand env <;> simp [hexpand, unlessFaulty]

/-- The first check that fails tells why a file has no settings. -/
theorem ofFile_eq (source : Path) : Settings.ofFile env source file =
    unlessFaulty (file.settings env source)
      (SettingsCheck.order.findSome? (file.fault? env)) := by
  have hversion : file.fault? env .version =
      if file.version = 1 then none else some (.unsupportedVersion file.version) := rfl
  simp only [SettingsCheck.order, List.findSome?_cons, List.findSome?_nil, hversion,
    Settings.ofFile, checkedLimits_eq env, checkedDate_eq env, checkedLogging_eq]
  by_cases hone : file.version = 1
  · rw [if_pos hone, if_neg (not_not.2 hone)]
    cases file.fault? env (.limit .expressionLength) with
    | some e => rfl
    | none =>
      cases file.fault? env (.limit .intervalAmount) with
      | some e => rfl
      | none =>
        cases file.fault? env .date with
        | some e => rfl
        | none => cases file.fault? env .logFile <;> rfl
  · rw [if_neg hone, if_pos hone]
    rfl

theorem ofFile_eq_ok_iff {source : Path} {settings : Settings} :
    Settings.ofFile env source file = .ok settings ↔
      file.IsValid env ∧ settings = file.settings env source := by
  rw [ofFile_eq, unlessFaulty_eq_ok_iff, findSome?_fault?_eq_none_iff]

theorem ofFile_eq_error_iff {source : Path} {e : SettingsError} :
    Settings.ofFile env source file = .error e ↔ file.FailsFirst env e := by
  rw [ofFile_eq, unlessFaulty_eq_error_iff, findSome?_fault?_eq_some_iff]

end SettingsFile

/-! ## What a file depends on -/

theorem PathPiece.mapM_expand_congr {env env' : Bindings Text} {pieces : List PathPiece}
    (h : ∀ piece ∈ pieces, piece.expand env = piece.expand env') :
    pieces.mapM (expand env) = pieces.mapM (expand env') := by
  induction pieces with
  | nil => rfl
  | cons piece pieces ih =>
    rw [List.forall_mem_cons] at h
    rw [List.mapM_cons, List.mapM_cons, h.1, ih h.2]

/-- The meaning of a path depends on its names and on the home directory only. -/
theorem Path.expand_congr {env env' : Bindings Text} {p : Path}
    (h : ∀ name ∈ p.environmentNames, env.get? name = env'.get? name) :
    p.expand env = p.expand env' := by
  have hpiece : ∀ piece ∈ PathPiece.ofText p, piece.expand env = piece.expand env' := by
    intro piece hpiece
    cases piece with
    | literal t => rfl
    | reference name fallback =>
      have hname : name ∈ p.environmentNames :=
        List.mem_cons_of_mem _ (List.mem_filterMap.2 ⟨_, hpiece, rfl⟩)
      rw [PathPiece.expand, PathPiece.expand, h name hname]
  have hhome : home? env = home? env' := by rw [home?, home?, h _ List.mem_cons_self]
  rw [expand, expand, PathPiece.mapM_expand_congr hpiece, hhome]

theorem SettingsFile.ofFile_congr {env env' : Bindings Text} {source : Path} {file : SettingsFile}
    (h : ∀ name ∈ file.environmentNames, env.get? name = env'.get? name) :
    Settings.ofFile env source file = Settings.ofFile env' source file := by
  have hlogging : file.checkedLogging env = file.checkedLogging env' := by
    unfold checkedLogging
    unfold environmentNames at h
    cases hfile : file.logging.file with
    | none => rfl
    | some p =>
      rw [hfile] at h
      dsimp only
      rw [Path.expand_congr h]
  rw [Settings.ofFile, Settings.ofFile, hlogging]

namespace Settings

theorem defaultPath_congr {env env' : Bindings Text}
    (h : ∀ name ∈ placeNames, env.get? name = env'.get? name) :
    defaultPath env = defaultPath env' := by
  have hbase := h "XDG_CONFIG_HOME".toList (by decide)
  have hhome : Path.home? env = Path.home? env' := by
    rw [Path.home?, Path.home?, h "HOME".toList (by decide)]
  rw [defaultPath, defaultPath, hbase, hhome]

/-- Where settings are looked for. -/
def place (w : Surroundings) (named : Option Path) : Path := named.getD (defaultPath w.environment)

variable {σ : Type} {host : Host (StateM σ)} {s : σ} {w : Surroundings}

/-- What loading comes to. -/
theorem run_load (hw : host.Answers s w) (named : Option Path) :
    (load host named).run s = (
      if w.exists? (place w named) then
        match w.read (place w named) with
        | .error cause => .error (.unreadable (place w named) cause)
        | .ok t =>
          match SettingsFile.ofText? t with
          | none => .error (.malformed (place w named))
          | some file => ofFile w.environment (place w named) file
      else if named.isSome then .error (.missing (place w named)) else .ok {}, s) := by
  have hplace : named.getD (defaultPath (w.environment.restrict placeNames)) = place w named := by
    rw [place, defaultPath_congr fun name hname => Bindings.get?_restrict hname]
  rw [load, run_bind_of_run (hw.run_lookup _)]
  dsimp only
  rw [hplace, run_bind_of_run (hw.exists? _)]
  cases w.exists? (place w named) with
  | false => rfl
  | true =>
    simp only [Bool.not_true, Bool.false_eq_true, if_true, if_false]
    rw [run_bind_of_run (hw.read _)]
    cases w.read (place w named) with
    | error cause => rfl
    | ok t =>
      dsimp only
      cases SettingsFile.ofText? t with
      | none => rfl
      | some file =>
        dsimp only
        rw [run_bind_of_run (hw.run_lookup _),
          SettingsFile.ofFile_congr fun name hname => Bindings.get?_restrict hname]
        rfl

theorem run_load_of_ofText? (hw : host.Answers s w) {named : Option Path} {t : Text}
    {file : SettingsFile} (hexists : w.exists? (place w named) = true)
    (hread : w.read (place w named) = .ok t) (hfile : SettingsFile.ofText? t = some file) :
    (load host named).run s = (ofFile w.environment (place w named) file, s) := by
  rw [run_load hw, if_pos hexists, hread]
  dsimp only
  rw [hfile]

/-- The limits of settings that are loaded are positive. -/
theorem limits_pos_of_run_load (hw : host.Answers s w) {named : Option Path} {settings : Settings}
    (h : ((load host named).run s).1 = .ok settings) :
    0 < settings.limits.maxLength ∧ 0 < settings.limits.maxAmount := by
  rw [run_load hw] at h
  dsimp only at h
  split at h
  · split at h
    · cases h
    · split at h
      · cases h
      · obtain ⟨hvalid, rfl⟩ := SettingsFile.ofFile_eq_ok_iff.1 h
        exact ⟨Nat.pos_of_ne_zero hvalid.maxLength, Nat.pos_of_ne_zero hvalid.maxAmount⟩
  · split at h
    · cases h
    · cases h
      decide

end Settings

/-! ## The limits of a document -/

/-- What a section has for a limit that so many bits hold: the number of its key, or the standard one
if the section lacks the key. -/
inductive Section.Gives (s : Section) (place : Nat) (key : String) (bits standard : Nat) : Nat → Prop
  | absent (h : s.get? place key = none) : Gives s place key bits standard standard
  | given {n : Nat} (h : s.get? place key = some (.integer n)) (hn : n < Nat.pow 2 bits) :
      Gives s place key bits standard n

namespace SettingsFile

theorem natural?_eq_some_iff {bits n : Nat} {node : Toml.Node} :
    natural? bits node = some n ↔ node = .integer n ∧ n < Nat.pow 2 bits := by
  cases node with
  | integer i =>
    simp only [natural?, Width.holdsUnsigned, Option.ite_none_right_eq_some, Option.some.injEq,
      Bool.and_eq_true, decide_eq_true_eq, Toml.Node.integer.injEq]
    constructor
    · rintro ⟨⟨hsign, hbits⟩, rfl⟩
      exact ⟨(Int.toNat_of_nonneg hsign).symm, hbits⟩
    · rintro ⟨rfl, hbits⟩
      exact ⟨⟨Int.natCast_nonneg n, hbits⟩, rfl⟩
  | _ => simp [natural?]

theorem gives_of_read? {s : Section} {place bits : Nat} {key : String} {n? : Option Nat}
    (h : s.read? place key (natural? bits) = some n?) (standard : Nat) :
    s.Gives place key bits standard (n?.getD standard) := by
  unfold Section.read? at h
  split at h
  · next hnone =>
    cases h
    exact .absent hnone
  · next node hsome =>
    obtain ⟨n, hn, rfl⟩ := Option.map_eq_some_iff.1 h
    obtain ⟨rfl, hbits⟩ := natural?_eq_some_iff.1 hn
    exact .given hsome hbits

/-- A document gives these limits. Each of them is the standard one if the document lacks it. -/
def GivesLimits (entries : Toml.Entries) (limits : Limits) : Prop :=
  ∃ s, section? entries "limits" = some s ∧
    s.Gives 0 LimitKind.expressionLength.key 64 Limits.standard.maxLength limits.maxLength ∧
    s.Gives 1 LimitKind.intervalAmount.key 32 Limits.standard.maxAmount limits.maxAmount

/-- A file has the limits that its document gives. -/
theorem givesLimits_of_ofText? {t : Text} {file : SettingsFile} (h : ofText? t = some file) :
    ∃ entries, Toml.document? t = some entries ∧ GivesLimits entries file.limits := by
  simp only [ofText?, ofEntries?, Option.bind_eq_bind, Option.bind_eq_some_iff] at h
  obtain ⟨entries, hentries, _, -, _, -, s, hsection, limits, hlimits, _, -, _, -, _, -, _, -,
    hfile⟩ := h
  obtain rfl : limits = file.limits := by rw [← Option.some.inj hfile]
  simp only [limits?, Option.bind_eq_bind, Option.bind_eq_some_iff] at hlimits
  obtain ⟨maxLength, hlength, maxAmount, hamount, hlimits⟩ := hlimits
  rw [← Option.some.inj hlimits]
  exact ⟨entries, hentries, s, hsection, gives_of_read? hlength _, gives_of_read? hamount _⟩

end SettingsFile

/-! ## What engines promise -/

/-- An engine keeps to limits. -/
structure Engine.KeepsTo (engine : Engine) (limits : Limits) : Prop where
  eq_limits : engine.limits = limits
  maxLength_pos : 0 < limits.maxLength
  maxAmount_pos : 0 < limits.maxAmount
  length_le {input : Text} {e : Expr} (h : engine.parse input = .ok e) :
    input.length ≤ limits.maxLength
  amount_le {input : Text} {e : Expr} (h : engine.parse input = .ok e) :
    ∀ s ∈ e.steps, s.amount ≤ limits.maxAmount

theorem Engine.keepsTo_limits {engine : Engine} (hlength : 0 < engine.limits.maxLength)
    (hamount : 0 < engine.limits.maxAmount) : engine.KeepsTo engine.limits where
  eq_limits := rfl
  maxLength_pos := hlength
  maxAmount_pos := hamount
  length_le h := (exists_groups_of_parse h).1
  amount_le h s hs := ((Expr.isWithin_of_parse h).steps s hs).le_max

/-- A variable for the date that the caller does not bind has the date of the settings. -/
theorem Settings.resolve_dateName (settings : Settings) (today : Date) (given : Option Date)
    {context : Context} (h : context.get? SystemVariables.dateName = none) :
    resolve context (settings.engine today given).system SystemVariables.dateName =
      some (.date ((given.or settings.pinnedDate).getD today)) := by
  rw [resolve, h, get?_engine, if_pos rfl]
  rfl

/-- **Valid settings are accepted, and engines keep to them.** A settings file that is a document of
settings gives each limit or leaves it at the standard one. It is accepted just if it is valid, and
its settings then are its limits and its date; else the error is that of the first check that it
fails. Whatever settings are loaded, those of a file or the standard ones, an engine with them keeps
to their limits, which are positive, and takes for today's date the given one, else that of the
settings, where the caller does not bind its name. -/
theorem Settings.load_valid {σ : Type} {host : Host (StateM σ)} {s : σ} {w : Surroundings}
    (hw : host.Answers s w) (named : Option Path) :
    (∀ t file, w.exists? (place w named) = true → w.read (place w named) = .ok t →
      SettingsFile.ofText? t = some file →
      (∃ entries, Toml.document? t = some entries ∧
        SettingsFile.GivesLimits entries file.limits) ∧
      (∀ settings, (load host named).run s = (.ok settings, s) ↔
        file.IsValid w.environment ∧
          settings = file.settings w.environment (place w named)) ∧
      ∀ e, (load host named).run s = (.error e, s) ↔ file.FailsFirst w.environment e) ∧
    ∀ settings, ((load host named).run s).1 = .ok settings →
      ∀ today given,
        (settings.engine today given).KeepsTo settings.limits ∧
        ∀ context : Context, context.get? SystemVariables.dateName = none →
          resolve context (settings.engine today given).system SystemVariables.dateName =
            some (.date ((given.or settings.pinnedDate).getD today)) := by
  constructor
  · intro t file hexists hread hfile
    refine ⟨SettingsFile.givesLimits_of_ofText? hfile, fun settings => ?_, fun e => ?_⟩
    · rw [run_load_of_ofText? hw hexists hread hfile, Prod.mk.injEq,
        SettingsFile.ofFile_eq_ok_iff, and_iff_left rfl]
    · rw [run_load_of_ofText? hw hexists hread hfile, Prod.mk.injEq,
        SettingsFile.ofFile_eq_error_iff, and_iff_left rfl]
  · intro settings hload today given
    obtain ⟨hlength, hamount⟩ := limits_pos_of_run_load hw hload
    exact ⟨Engine.keepsTo_limits hlength hamount, fun _ => settings.resolve_dateName today given⟩

/-- Here the file gives one limit only, and a date that stands for today's. The other file fails two
checks, and the error is that of the first. -/
theorem Settings.load_valid_one_limit :
    let mem : Memory := ⟨[(["a".toList], .file (.text
        "version = 1\nlimits.max_interval_amount = 7\nsystem.date = '2026-01-15'\n".toList)),
      (["b".toList], .file (.text
        "version = 1\nlimits.max_expression_length = 0\nsystem.date = 'soon'\n".toList))],
      .text [], .empty, ⟨2026, 1, 2, by decide⟩⟩
    (∃ settings, (load Memory.host (some "a".toList)).run mem = (.ok settings, mem) ∧
      (settings.engine mem.today none).KeepsTo ⟨200, 7⟩ ∧
      resolve .empty (settings.engine mem.today none).system SystemVariables.dateName =
        some (.date ⟨2026, 1, 15, by decide⟩)) ∧
    (load Memory.host (some "b".toList)).run mem = (.error (.zeroLimit .expressionLength), mem) := by
  intro mem
  constructor
  · obtain ⟨haccepted, hengine⟩ := load_valid mem.answers (some "a".toList)
    obtain ⟨-, hok, -⟩ := haccepted
      "version = 1\nlimits.max_interval_amount = 7\nsystem.date = '2026-01-15'\n".toList
      { version := 1, limits := ⟨200, 7⟩, date := some "2026-01-15".toList } rfl rfl
      (by decide +kernel)
    have hload := (hok _).2 ⟨⟨rfl, by decide, by decide, ?_, by simp⟩, rfl⟩
    · obtain ⟨hkeeps, hdate⟩ := hengine _ (congrArg Prod.fst hload) mem.today none
      exact ⟨_, hload, hkeeps, hdate .empty rfl⟩
    · rintro raw ⟨⟩
      exact ⟨⟨2026, 1, 15, by decide⟩, by decide +kernel⟩
  · obtain ⟨haccepted, -⟩ := load_valid mem.answers (some "b".toList)
    obtain ⟨-, -, herror⟩ := haccepted
      "version = 1\nlimits.max_expression_length = 0\nsystem.date = 'soon'\n".toList
      { version := 1, limits := ⟨0, 10000⟩, date := some "soon".toList } rfl rfl
      (by decide +kernel)
    refine (herror _).2 ⟨[.version], _, _, rfl, .limit rfl, fun c hc e hfails => ?_⟩
    obtain rfl := List.mem_singleton.1 hc
    cases hfails with
    | version h => exact h rfl

end DateTemplate
