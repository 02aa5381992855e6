import DateTemplate.Program.Run
import DateTemplate.Proofs.CommandLine.Spelled
import DateTemplate.Proofs.Host.Memory

set_option autoImplicit false

/-!
# Where the values of variables come from

A command takes the value of a name from the last assignment of it, else from the file of variables,
else, for the date, from the date that is given, that of the settings or today's. Main statements:
`get?_assign_eq_some_iff`, what assignments over a file have for a name; `resolve_eq_some_iff_origin`,
the sources of a name in their order; `CommandLine.exists_origins_of_parse`, evaluating and rendering
go by them on any steady host, however the command line spells the sources.
-/

namespace DateTemplate

open CommandLine

/-! ## Assignments -/

/-- A text assigns a raw text to a name: the name stands before the first equals sign, perhaps with
blanks around it, and all that is behind the sign is the raw text. -/
def Assigns (t name raw : Text) : Prop :=
  ∃ front : Text, t = front ++ '=' :: raw ∧ '=' ∉ front ∧ Text.trim front = name

/-- None of the texts assigns anything to a name. -/
def Spares (ts : List Text) (name : Text) : Prop := ∀ t ∈ ts, ∀ raw, ¬ Assigns t name raw

/-- The last text that assigns something to a name assigns this to it. -/
def AssignsLast (ts : List Text) (name raw : Text) : Prop :=
  ∃ before t after, ts = before ++ t :: after ∧ Assigns t name raw ∧ Spares after name

section Assignments

variable {t name raw : Text} {ts : List Text} {pairs : List (Text × Text)}

theorem assigns_iff : Assigns t name raw ↔
    '=' ∈ t ∧ Text.trim (t.takeWhile (· != '=')) = name ∧
      (t.dropWhile (· != '=')).drop 1 = raw := by
  constructor
  · rintro ⟨front, rfl, hfront, rfl⟩
    have hrun : ∀ c ∈ front, (c != '=') = true := by
      intro c hc
      simpa using fun h : c = '=' => hfront (h ▸ hc)
    obtain ⟨htake, hdrop⟩ := Text.takeWhile_append_of_stops hrun (t := '=' :: raw) (by simp)
    exact ⟨by simp, by rw [htake], by rw [hdrop]; rfl⟩
  · rintro ⟨hmem, rfl, rfl⟩
    have hsplit := List.takeWhile_append_dropWhile (p := (· != '=')) (l := t)
    have hfront : '=' ∉ t.takeWhile (· != '=') := fun h => by
      simpa using List.all_eq_true.1 List.all_takeWhile '=' h
    have hstop := List.head?_dropWhile_not (· != '=') t
    cases hback : t.dropWhile (· != '=') with
    | nil =>
      rw [hback, List.append_nil] at hsplit
      rw [hsplit] at hfront
      exact absurd hmem hfront
    | cons c back =>
      rw [hback] at hstop hsplit
      have hc : c = '=' := by simpa using hstop
      exact ⟨t.takeWhile (· != '='), by rw [hc] at hsplit; exact hsplit.symm, hfront, rfl⟩

/-- What is read from an assignment is all that it assigns. -/
theorem assigns_iff_of_readAssignment {pair : Text × Text} (h : readAssignment t = .ok pair) :
    Assigns t name raw ↔ pair = (name, raw) := by
  unfold readAssignment at h
  split at h
  · next hcontains =>
    dsimp only at h
    split at h
    · cases h
    · cases h
      have hmem : '=' ∈ t := by simpa using hcontains
      rw [assigns_iff, Prod.mk.injEq, and_iff_right hmem]
  · cases h

theorem spares_cons : Spares (t :: ts) name ↔ (∀ raw, ¬ Assigns t name raw) ∧ Spares ts name :=
  List.forall_mem_cons

theorem assignsLast_cons : AssignsLast (t :: ts) name raw ↔
    AssignsLast ts name raw ∨ Spares ts name ∧ Assigns t name raw := by
  constructor
  · rintro ⟨before, u, after, heq, hassigns, hspares⟩
    cases before with
    | nil =>
      cases heq
      exact .inr ⟨hspares, hassigns⟩
    | cons b before =>
      obtain ⟨rfl, rfl⟩ := List.cons.inj heq
      exact .inl ⟨before, u, after, rfl, hassigns, hspares⟩
  · rintro (⟨before, u, after, rfl, hassigns, hspares⟩ | ⟨hspares, hassigns⟩)
    · exact ⟨t :: before, u, after, rfl, hassigns, hspares⟩
    · exact ⟨[], t, ts, rfl, hassigns, hspares⟩

theorem not_assignsLast_nil : ¬ AssignsLast [] name raw := by
  rintro ⟨before, u, after, heq, -⟩
  cases before <;> cases heq

/-- If anything is assigned to a name, something is assigned to it last. -/
theorem spares_iff : Spares ts name ↔ ∀ raw, ¬ AssignsLast ts name raw := by
  constructor
  · rintro hspares raw ⟨before, t, after, rfl, hassigns, -⟩
    exact hspares t (by simp) raw hassigns
  · intro h
    induction ts with
    | nil => exact fun _ ht => absurd ht List.not_mem_nil
    | cons t ts ih =>
      simp only [assignsLast_cons, not_or, not_and] at h
      have hspares : Spares ts name := ih fun raw => (h raw).1
      exact spares_cons.2 ⟨fun raw => (h raw).2 hspares, hspares⟩

end Assignments

namespace VariableSources

variable {name raw : Text} {ts : List Text} {pairs : List (Text × Text)}

/-- A name has what is assigned to it last, else what it has in the file. -/
theorem get?_assign_eq_some_iff {base : Context}
    (h : List.Forall₂ (fun t pair => readAssignment t = .ok pair) ts pairs) :
    (assign base pairs).get? name = some raw ↔
      AssignsLast ts name raw ∨ Spares ts name ∧ base.get? name = some raw := by
  -- The first assignment becomes a part of the base of the others.
  induction h generalizing base with
  | nil => simp [assign, not_assignsLast_nil, Spares]
  | @cons t pair ts pairs hread _ ih =>
    change (assign (base.insert pair.1 pair.2) pairs).get? name = some raw ↔ _
    have hassigns : ∀ raw, Assigns t name raw ↔ pair = (name, raw) :=
      fun _ => assigns_iff_of_readAssignment hread
    obtain ⟨n, r⟩ := pair
    rw [ih, Bindings.get?_insert, assignsLast_cons, spares_cons]
    simp only [hassigns, Prod.mk.injEq, not_and]
    by_cases hname : name = n
    · subst hname
      simp
    · have hname' : ¬ n = name := fun h => hname h.symm
      simp [hname, hname']

theorem get?_assign_eq_none_iff {base : Context}
    (h : List.Forall₂ (fun t pair => readAssignment t = .ok pair) ts pairs) :
    (assign base pairs).get? name = none ↔ Spares ts name ∧ base.get? name = none := by
  simp only [Option.eq_none_iff_forall_ne_some, ne_eq, get?_assign_eq_some_iff h, not_or,
    forall_and, ← spares_iff]
  constructor
  · rintro ⟨hspares, hbase⟩
    exact ⟨hspares, fun raw hraw => hbase raw ⟨hspares, hraw⟩⟩
  · rintro ⟨hspares, hbase⟩
    exact ⟨hspares, fun raw hraw => hbase raw hraw.2⟩

end VariableSources

/-! ## Sources -/

/-- The entries name a file of variables that stands for these, or name none, which stands for no
variables. -/
inductive Supplies {σ : Type} (host : Host (StateM σ)) (s : σ) (entries : List Entry) :
    Context → Prop
  | nothing (hnone : ∀ path, .value .variableFile path ∉ entries) : Supplies host s entries .empty
  | file {path : Path} {file : Context} (hpath : .value .variableFile path ∈ entries)
      (hload : ((VariableFile.load host path).run s).1 = .ok file) : Supplies host s entries file

/-- Where the value of a name comes from. -/
inductive Origin (entries : List Entry) (file : Context) (settings : Settings) (today : Date) :
    Text → Value → Prop
  | assigned {name raw : Text} (h : AssignsLast (values .assignment entries) name raw) :
      Origin entries file settings today name (Value.infer raw)
  | supplied {name raw : Text} (hspares : Spares (values .assignment entries) name)
      (h : file.get? name = some raw) : Origin entries file settings today name (Value.infer raw)
  | given {t : Text} {d : Date}
      (hspares : Spares (values .assignment entries) SystemVariables.dateName)
      (hfile : file.get? SystemVariables.dateName = none) (h : .value .date t ∈ entries)
      (hread : Date.read? t = some d) :
      Origin entries file settings today SystemVariables.dateName (.date d)
  | pinned {d : Date} (hspares : Spares (values .assignment entries) SystemVariables.dateName)
      (hfile : file.get? SystemVariables.dateName = none)
      (hgiven : ∀ t, .value .date t ∉ entries) (h : settings.pinnedDate = some d) :
      Origin entries file settings today SystemVariables.dateName (.date d)
  | today (hspares : Spares (values .assignment entries) SystemVariables.dateName)
      (hfile : file.get? SystemVariables.dateName = none)
      (hgiven : ∀ t, .value .date t ∉ entries) (hpinned : settings.pinnedDate = none) :
      Origin entries file settings today SystemVariables.dateName (.date today)

theorem resolve_eq_some_iff {context : Context} {system : SystemVariables} {name : Text}
    {v : Value} : resolve context system name = some v ↔
      (∃ raw, context.get? name = some raw ∧ Value.infer raw = v) ∨
      context.get? name = none ∧ ∃ d, system.get? name = some d ∧ .date d = v := by
  unfold resolve
  cases context.get? name <;> simp

theorem get?_engine (settings : Settings) (today : Date) (given : Option Date) (name : Text) :
    (settings.engine today given).system.get? name =
      if name = SystemVariables.dateName then some (settings.date today given) else none := by
  rw [Settings.engine, SystemVariables.standard, Bindings.get?_insert, Bindings.get?_empty]

section Sources

variable {entries : List Entry} {g : Given} {file : Context}

/-- The date that stands for today's is the given one, if there is one. -/
theorem date_eq_of_mem (hg : Given.Gains entries {} g) (settings : Settings) (today : Date)
    {t : Text} {d : Date} (h : .value .date t ∈ entries) (hread : Date.read? t = some d) :
    settings.date today g.date = d := by
  rw [← mem_values] at h
  rcases hg.date with ⟨hempty, -⟩ | ⟨-, t', d', hvalues, hread', hdate⟩
  · rw [hempty] at h
    cases h
  · rw [hvalues, List.mem_singleton] at h
    rw [h, hread'] at hread
    rw [hdate, ← Option.some.inj hread]
    rfl

theorem date_eq_none_of_forall_notMem (hg : Given.Gains entries {} g)
    (h : ∀ t, .value .date t ∉ entries) : g.date = none := by
  rcases hg.date with ⟨-, hdate⟩ | ⟨-, t, d, hvalues, -⟩
  · exact hdate
  · exact absurd (mem_values.1 (hvalues ▸ List.mem_singleton_self t)) (h t)

/-- Without a variable for the date, the date has one of its three sources. -/
theorem origin_date (hg : Given.Gains entries {} g) (settings : Settings) (today : Date)
    (hspares : Spares (values .assignment entries) SystemVariables.dateName)
    (hfile : file.get? SystemVariables.dateName = none) :
    Origin entries file settings today SystemVariables.dateName
      (.date (settings.date today g.date)) := by
  rcases hg.date with ⟨hempty, hdate⟩ | ⟨-, t, d, hvalues, hread, hdate⟩
  · have hgiven : ∀ t, .value .date t ∉ entries := by
      intro t h
      rw [← mem_values, hempty] at h
      cases h
    rw [hdate]
    cases hpinned : settings.pinnedDate with
    | none =>
      rw [Settings.date, hpinned]
      exact .today hspares hfile hgiven hpinned
    | some d =>
      rw [Settings.date, hpinned]
      exact .pinned hspares hfile hgiven hpinned
  · rw [hdate]
    exact .given hspares hfile (mem_values.1 (hvalues ▸ List.mem_singleton_self t)) hread

/-- A name has the value that its sources give. -/
theorem resolve_eq_some_iff_origin (hg : Given.Gains entries {} g) (settings : Settings)
    (today : Date) {name : Text} {v : Value} :
    resolve (VariableSources.assign file g.sources.assignments)
        (settings.engine today g.sources.date).system name = some v ↔
      Origin entries file settings today name v := by
  obtain ⟨pairs, hpairs, hassignments⟩ := hg.assignments
  have hsources : g.sources.assignments = pairs := by
    rw [Given.sources, hassignments, List.append_nil, List.reverse_reverse]
  rw [hsources, resolve_eq_some_iff]
  simp only [VariableSources.get?_assign_eq_some_iff hpairs,
    VariableSources.get?_assign_eq_none_iff hpairs, get?_engine]
  constructor
  · rintro (⟨raw, h | ⟨hspares, h⟩, rfl⟩ | ⟨⟨hspares, hfile⟩, d, hd, rfl⟩)
    · exact .assigned h
    · exact .supplied hspares h
    · split at hd
      · next hname =>
        subst hname
        cases hd
        exact origin_date hg settings today hspares hfile
      · cases hd
  · intro h
    cases h with
    | assigned h => exact .inl ⟨_, .inl h, rfl⟩
    | supplied hspares h => exact .inl ⟨_, .inr ⟨hspares, h⟩, rfl⟩
    | given hspares hfile h hread =>
      refine .inr ⟨⟨hspares, hfile⟩, _, if_pos rfl, ?_⟩
      rw [← date_eq_of_mem hg settings today h hread]
      rfl
    | pinned hspares hfile hgiven hpinned =>
      refine .inr ⟨⟨hspares, hfile⟩, _, if_pos rfl, ?_⟩
      rw [Given.sources, date_eq_none_of_forall_notMem hg hgiven, Settings.date, hpinned]
      rfl
    | today hspares hfile hgiven hpinned =>
      refine .inr ⟨⟨hspares, hfile⟩, _, if_pos rfl, ?_⟩
      rw [Given.sources, date_eq_none_of_forall_notMem hg hgiven, Settings.date, hpinned]
      rfl

end Sources

/-! ## Loading -/

section Loading

variable {σ : Type} {host : Host (StateM σ)} {s : σ} {entries : List Entry} {g : Given}
  {file : Context}

/-- To load a file of variables is to ask. -/
theorem VariableFile.asks_load (hhost : host.Steady) (path : Path) : Asks (load host path) := by
  refine (hhost.read path).bind fun content => ?_
  cases content with
  | ok t => exact Asks.pure _
  | error cause => exact Asks.pure _

/-- To load the variables of a command is to ask. -/
theorem VariableSources.asks_load (hhost : host.Steady) (sources : VariableSources) :
    Asks (sources.load host) := by
  unfold load
  cases sources.file with
  | none => exact Asks.pure _
  | some path => exact (VariableFile.asks_load hhost path).bind fun _ => Asks.pure _

/-- A command loads its assignments over its file, and changes nothing by that. -/
theorem run_load (hhost : host.Steady) (hg : Given.Gains entries {} g)
    (hfile : Supplies host s entries file) :
    (g.sources.load host).run s =
      (.ok (VariableSources.assign file g.sources.assignments), s) := by
  rcases hg.variableFile with ⟨hempty, hnone⟩ | ⟨-, path, hvalues, hsome⟩
  · have hnothing : g.sources.file = none := hnone
    cases hfile with
    | nothing _ =>
      rw [VariableSources.load, hnothing]
      rfl
    | file hpath _ =>
      rw [← mem_values, hempty] at hpath
      cases hpath
  · have hpath : g.sources.file = some path := hsome
    cases hfile with
    | nothing hnone =>
      exact absurd (mem_values.1 (hvalues ▸ List.mem_singleton_self path)) (hnone path)
    | @file path' file hpath' hload =>
      rw [← mem_values, hvalues, List.mem_singleton] at hpath'
      subst hpath'
      have hrun := (VariableFile.asks_load hhost path').run_eq_of_fst hload
      rw [VariableSources.load, hpath, run_bind_of_run hrun]
      rfl

end Loading

/-! ## Runs -/

namespace Program

/-- What evaluation prints of its result. -/
def evaluation : Except ExprError Text → Completion
  | .ok value => { out := value ++ ['\n'] }
  | .error e =>
    { out := "FAIL dxp eval\n".toList
        ++ (e.code.name.toList ++ ": ".toList ++ e.message.toList) ++ ['\n']
      status := 1 }

variable {σ : Type} {host : Host (StateM σ)} {s : σ} {settings : Settings} {log : LogSinks}
  {context : Context}

/-- A command gives what this engine makes of its text with these variables. Rendering does if its
text can be read and its output can be written. -/
def GoesBy (host : Host (StateM σ)) (settings : Settings) (log : LogSinks) (s : σ)
    (context : Context) (engine : Engine) : Command → Prop
  | .eval expression sources =>
    (perform host settings log (.eval expression sources)).run s =
      (evaluation (engine.evaluate context (Template.stripBraces expression)), s)
  | .render o =>
    ∀ input, ((readInput host o.input).run s).1 = .ok input →
      (∀ path, o.output = some path →
        ((host.write path (engine.render context input).text).run s).1 = .ok ()) →
      ((perform host settings log (.render o)).run s).1 =
        let r := engine.render context input
        (o.completion r).behind (Log.shown log (host.stamp.run s).1 (Log.events r))
  | _ => False

/-- To read a text is to ask. -/
theorem asks_readInput (hhost : host.Steady) (p : Option Path) : Asks (readInput host p) := by
  cases p with
  | none => exact hhost.input.bind fun _ => Asks.pure _
  | some path => exact (hhost.read path).bind fun _ => Asks.pure _

theorem run_writeOutput_of_write {s' : σ} {path : Path} {t : Text}
    (h : (host.write path t).run s = (.ok (), s')) :
    (writeOutput host (some path) t).run s = (.ok (), s') := by
  rw [writeOutput, run_bind_of_run h]
  rfl

/-- An output that can be written is written. -/
theorem exists_run_writeOutput {p : Option Path} {t : Text}
    (h : ∀ path, p = some path → ((host.write path t).run s).1 = .ok ()) :
    ∃ s', (writeOutput host p t).run s = (.ok (), s') ∧
      ∀ path, p = some path → (host.write path t).run s = (.ok (), s') := by
  cases p with
  | none => exact ⟨s, rfl, by rintro path ⟨⟩⟩
  | some path =>
    have hwrite : (host.write path t).run s = (.ok (), ((host.write path t).run s).2) :=
      Prod.ext (h path rfl) rfl
    exact ⟨_, run_writeOutput_of_write hwrite, by rintro path ⟨⟩; exact hwrite⟩

theorem goesBy_eval (hhost : host.Steady) {expression : Text} {sources : VariableSources}
    (hload : (sources.load host).run s = (.ok context, s)) :
    GoesBy host settings log s context (settings.engine (host.today.run s).1 sources.date)
      (.eval expression sources) := by
  rw [GoesBy, perform, eval, run_bind_of_run hload]
  dsimp only
  rw [run_bind_of_run (hhost.today.run_eq s)]
  cases (settings.engine (host.today.run s).1 sources.date).evaluate context
      (Template.stripBraces expression) with
  | ok value => rfl
  | error e => rfl

/-- Rendering writes its output and then the log lines. -/
theorem exists_run_render (hhost : host.Steady) (settings : Settings) (log : LogSinks)
    (o : RenderOptions) {input : Text} (hload : (o.sources.load host).run s = (.ok context, s))
    (hinput : ((readInput host o.input).run s).1 = .ok input) {r : Rendered}
    (hr : r = (settings.engine (host.today.run s).1 o.sources.date).render context input)
    (hwrite : ∀ path, o.output = some path → ((host.write path r.text).run s).1 = .ok ()) :
    let stamp := (host.stamp.run s).1
    ∃ s', (∀ path, o.output = some path → (host.write path r.text).run s = (.ok (), s')) ∧
      (perform host settings log (.render o)).run s =
        ((o.completion r).behind (Log.shown log stamp (Log.events r)),
          ((Log.fill host log stamp (Log.events r)).run s').2) := by
  intro stamp
  obtain ⟨s', hwritten, hfile⟩ := exists_run_writeOutput hwrite
  refine ⟨s', hfile, ?_⟩
  rw [perform, render, run_bind_of_run hload]
  dsimp only
  rw [run_bind_of_run ((asks_readInput hhost o.input).run_eq_of_fst hinput)]
  dsimp only
  rw [run_bind_of_run (hhost.today.run_eq s), ← hr, run_bind_of_run (hhost.stamp.run_eq s),
    run_bind_of_run hwritten]
  dsimp only
  rw [pure_bind, StateT.run_bind]
  rfl

theorem goesBy_render (hhost : host.Steady) {o : RenderOptions}
    (hload : (o.sources.load host).run s = (.ok context, s)) :
    GoesBy host settings log s context (settings.engine (host.today.run s).1 o.sources.date)
      (.render o) := by
  intro input hinput hwrite
  obtain ⟨s', -, hrun⟩ := exists_run_render hhost settings log o hload hinput rfl hwrite
  rw [hrun]

end Program

/-- **Where the value of a variable comes from.** The last assignment of a name counts, with all that
stands behind its first equals sign; else what the file of variables has for the name; for the date,
else, the given date, the date of the settings, or today's, the first of these that there is. Any
other name has no value. By these values an expression is evaluated and a text is rendered, however
the command line spells its options and in which order; and every command line that is accepted is
spelled in one of these ways. -/
theorem CommandLine.exists_origins_of_parse {σ : Type} {host : Host (StateM σ)} (hhost : host.Steady)
    {args : List Text} {i : Invocation} (haccepted : parse args = .ok i) (settings : Settings)
    (log : LogSinks) (s : σ) :
    (∃ files entries, Spelled files i.command.name entries args) ∧
    ∀ {files c entries file}, c = .eval ∨ c = .render → Spelled files c entries args →
      Supplies host s entries file →
      ∃ (context : Context) (engine : Engine),
        engine.limits = settings.limits ∧
        (∀ name v, resolve context engine.system name = some v ↔
          Origin entries file settings (host.today.run s).1 name v) ∧
        Program.GoesBy host settings log s context engine i.command := by
  refine ⟨exists_spelled_of_parse haccepted, fun {files c entries file} hc hspelled hfile => ?_⟩
  obtain ⟨g, hg, hcommand⟩ := exists_gains_of_parse hc hspelled haccepted
  have hload := run_load hhost hg hfile
  refine ⟨VariableSources.assign file g.sources.assignments,
    settings.engine (host.today.run s).1 g.sources.date, rfl,
    fun _ _ => resolve_eq_some_iff_origin hg settings (host.today.run s).1, ?_⟩
  rcases hc with rfl | rfl
  · cases hoperands : g.operands with
    | nil =>
      unfold Given.command at hcommand
      rw [hoperands] at hcommand
      cases hcommand
    | cons expression rest =>
      unfold Given.command at hcommand
      rw [hoperands] at hcommand
      rw [← Except.ok.inj hcommand]
      exact Program.goesBy_eval hhost hload
  · rw [← Except.ok.inj hcommand]
    exact Program.goesBy_render hhost hload

/-- Here a variable of the file takes the place of the given date and of the date of the settings,
though it is no date. The settings file is named before the command. -/
theorem CommandLine.exists_origins_of_parse_shadowed_date :
    ∃ (context : Context) (engine : Engine),
      resolve context engine.system "A".toList = some (Value.infer "x=1".toList) ∧
      resolve context engine.system "DATE".toList = some (Value.infer "soon".toList) := by
  let front : List Text := ["--config".toList, "eval".toList]
  let back : List Text := ["--var".toList, "A=y".toList, "--vars=v.toml".toList,
    "--var= A =x=1".toList, "--date=2026-01-15".toList, "A".toList]
  have hback : Spells (some .eval)
      [.value .assignment "A=y".toList, .value .variableFile "v.toml".toList,
        .value .assignment " A =x=1".toList, .value .date "2026-01-15".toList, .operand "A".toList]
      back :=
    .cons (.apart (by decide) rfl (by rintro ⟨⟩)) <| .cons (.joined (by decide) rfl) <|
      .cons (.joined (by decide) rfl) <| .cons (.joined (by decide) rfl) <|
      .cons (.operand (by rintro ⟨⟩)) .nil
  have hfront : Spells none (["eval".toList].map (.value .config)) front :=
    .cons (.apart (by decide) rfl (by rintro ⟨⟩)) .nil
  have haccepted : parse (front ++ CommandName.eval.word.toList :: back) =
      .ok ⟨some "eval".toList, .eval "A".toList
        ⟨[("A".toList, "y".toList), ("A".toList, "x=1".toList)], some "v.toml".toList,
          some ⟨2026, 1, 15, by decide⟩⟩⟩ := rfl
  let mem : Memory := ⟨[(["v.toml".toList], .file (.text "DATE = 'soon'".toList))], .text [], .empty,
    ⟨2026, 1, 2, by decide⟩⟩
  have hentries : ((VariableFile.load Memory.host "v.toml".toList).run mem).1.map Bindings.entries =
      .ok [("DATE".toList, "soon".toList)] := by decide +kernel
  obtain ⟨file, hload, hfile⟩ : ∃ file, ((VariableFile.load Memory.host "v.toml".toList).run mem).1 =
      .ok file ∧ file.entries = [("DATE".toList, "soon".toList)] := by
    cases hload : ((VariableFile.load Memory.host "v.toml".toList).run mem).1 with
    | ok file =>
      rw [hload] at hentries
      exact ⟨file, rfl, Except.ok.inj hentries⟩
    | error e =>
      rw [hload] at hentries
      cases hentries
  obtain ⟨-, horigins⟩ := exists_origins_of_parse Memory.lawful.toSteady haccepted
    { pinnedDate := some ⟨2026, 1, 1, by decide⟩ } (.configured {}) mem
  obtain ⟨context, engine, -, horigin, -⟩ := horigins (.inl rfl) ⟨front, back, rfl, hfront, hback⟩
    (.file (List.mem_cons_of_mem _ List.mem_cons_self) hload)
  refine ⟨context, engine, (horigin _ _).2 (.assigned ?_), (horigin _ _).2 (.supplied ?_ ?_)⟩
  · exact ⟨["A=y".toList], " A =x=1".toList, [], rfl, ⟨" A ".toList, rfl, by decide, by decide⟩,
      by simp [Spares]⟩
  · intro t ht raw h
    obtain ⟨-, hname, -⟩ := assigns_iff.1 h
    have hflags : t = "A=y".toList ∨ t = " A =x=1".toList := by simpa [values] using ht
    rcases hflags with rfl | rfl
    · exact absurd hname (by decide)
    · exact absurd hname (by decide)
  · rw [Bindings.get?, hfile]
    rfl

end DateTemplate
