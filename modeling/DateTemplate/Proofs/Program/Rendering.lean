import DateTemplate.Proofs.Program.Sources
import DateTemplate.Proofs.Settings.Accepted
import DateTemplate.Proofs.Template.Messages
import DateTemplate.Proofs.Text.JsonReading

set_option autoImplicit false

/-!
# Where a rendered text goes

The flags of rendering tell where its text goes, where its failures are listed and whether they make
the run fail; the text and the failures are the same with all of them. Main statements:
`Program.invoke_render`, what a run on a lawful host leaves for each choice of flags, and
`Program.invoke_render_log_file`, a log file that cannot be begun ends the run.
-/

namespace DateTemplate

/-! ## Messages -/

namespace Engine

/-- What is said of a token whose expression fails. -/
def complaint? (engine : Engine) (context : Context) (inner : Text) : Option Text :=
  match engine.evaluate context (Text.trim inner) with
  | .ok _ => none
  | .error e => some (e.code.name.toList ++ ": ".toList ++ e.message.toList ++ " in ".toList
      ++ Template.braced inner)

/-- What is said of the tokens of a text, in their order. -/
def complaints (engine : Engine) (context : Context) (input : Text) : List Text :=
  (Template.ofText input).tokens.filterMap (engine.complaint? context)

variable {engine : Engine} {context : Context} {input : Text}

/-- Each failure has the line that is said of its token. -/
theorem flatMap_line_failures :
    (engine.render context input).failures.flatMap Failure.line =
      Program.unlines (engine.complaints context input) := by
  have hline : ∀ inner, ((engine.outcome context inner).failure?.map Failure.line) =
      (engine.complaint? context inner).map (· ++ ['\n']) := by
    intro inner
    unfold outcome Outcome.failure? complaint?
    cases engine.evaluate context (Text.trim inner) <;> rfl
  rw [failures_render, Program.unlines, complaints, List.flatMap_def, List.flatMap_def,
    List.map_filterMap, List.map_filterMap]
  simp only [hline]

/-- What is said of a token is one line. -/
theorem line_feed_notMem_of_mem_complaints {line : Text}
    (h : line ∈ engine.complaints context input) : '\n' ∉ line := by
  obtain ⟨inner, hinner, hline⟩ := List.mem_filterMap.1 h
  have htoken := Template.line_feed_notMem_of_mem_tokens hinner
  unfold complaint? at hline
  split at hline
  · cases hline
  · next e he =>
    cases hline
    have htrim : '\n' ∉ Text.trim inner := by
      obtain ⟨before, after, -, -, hsplit⟩ := Text.exists_append_trim inner
      intro hmem
      rw [hsplit] at htoken
      simp [hmem] at htoken
    have hcode : '\n' ∉ e.code.name.toList := by cases e.code <;> decide
    have hmessage : '\n' ∉ e.message.toList := oneLine_message htrim he
    have hbraced : '\n' ∉ Template.braced inner := by simp [Template.braced, htoken]
    simp only [List.mem_append, not_or]
    exact ⟨⟨⟨⟨hcode, by decide⟩, hmessage⟩, by decide⟩, hbraced⟩

end Engine

/-! ## Log lines -/

namespace Log

variable {σ π : Type} {host : Host (StateM σ)} {place? : σ → Path → Option π} {s s' : σ}
  {l : Logging} {log : LogSinks} {p path : Path} {t stamp : Text} {es : List LogEvent}

/-- Without directives log lines go by the levels of the settings. -/
theorem sinks_nil (hhost : host.Lawful place?) (l : Logging) : sinks host [] l = .configured l := by
  simp only [sinks, LogSinks.configured, hhost.logFilter_nil]

theorem file_of_sinks {directives : Text} {filter : LogFilter}
    (h : (sinks host directives l).file = some (p, filter)) : l.file = some p := by
  unfold sinks at h
  cases hfile : l.file with
  | none =>
    rw [hfile] at h
    cases h
  | some p' =>
    rw [hfile] at h
    cases h
    rfl

/-- A log file that is begun is empty. -/
theorem write_of_openFile (h : (openFile host l).run s = (.ok (), s')) (hfile : l.file = some p) :
    (host.write p []).run s = (.ok (), s') := by
  rw [openFile, hfile] at h
  dsimp only at h
  cases hwrite : (host.write p []).run s with
  | mk result s'' =>
    rw [run_bind_of_run hwrite] at h
    cases result with
    | error e => cases h
    | ok _ =>
      cases h
      rfl

/-- Log lines change no other file than theirs. -/
theorem read_of_fill (hhost : host.Lawful place?) (hread : ((host.read path).run s).1 = .ok t)
    (hplace : ∀ p filter, log.file = some (p, filter) →
      (∃ event ∈ es, filter.passes event.source = true) → place? s p ≠ place? s path) :
    ((host.read path).run ((fill host log stamp es).run s).2).1 = .ok t := by
  unfold fill
  cases hfile : log.file with
  | none => exact hread
  | some sink =>
    obtain ⟨p, filter⟩ := sink
    dsimp only
    by_cases hpassed : pass filter es = []
    · rw [hpassed]
      exact hread
    · obtain ⟨event, hevent⟩ := List.exists_mem_of_ne_nil _ hpassed
      obtain ⟨hmem, hpasses⟩ := List.mem_filter.1 hevent
      have hne := hplace p filter hfile ⟨event, hmem, hpasses⟩
      have hkept := hhost.keeps_text hne hread ((pass filter es).flatMap (fileLine host.place stamp))
      have hsome : (pass filter es).isEmpty = false := List.isEmpty_eq_false_iff.2 hpassed
      simp only [hsome]
      exact hkept

end Log

/-! ## Runs -/

/-- To load settings is to ask. -/
theorem Settings.asks_load {σ : Type} {host : Host (StateM σ)} (hhost : host.Steady)
    (named : Option Path) : Asks (load host named) := by
  intro s
  obtain ⟨w, hw⟩ := hhost.answers s
  rw [run_load hw]

/-- JSON is longer than the rendered text in it. -/
theorem Rendered.length_text_lt_length_json (r : Rendered) : r.text.length < (r.json.text 0).length := by
  have hquoted := Json.length_lt_length_quoted r.text
  simp only [json, Json.text, List.length_append, List.length_cons]
  omega

namespace Program

/-- What a run needs to render: settings that load, a log file that can be begun if they set one, and
then variables that load and a text that can be read. -/
structure Ready {σ : Type} (host : Host (StateM σ)) (before : σ) (named input? : Option Path)
    (sources : VariableSources) (settings : Settings) (s : σ) (context : Context) (input : Text) :
    Prop where
  settings_eq : ((Settings.load host named).run before).1 = .ok settings
  log_eq : (Log.openFile host settings.logging).run before = (.ok (), s)
  context_eq : ((sources.load host).run s).1 = .ok context
  input_eq : ((readInput host input?).run s).1 = .ok input

/-- What a run prints and how it ends, for a rendered text, what is said of its tokens and what logging
adds to the messages. -/
structure Delivers (o : RenderOptions) (r : Rendered) (complaints : List Text) (log : Text)
    (c : Completion) : Prop where
  out_plain : o.json = false → o.output = none → c.out = r.text
  out_file : o.json = false → o.output ≠ none → c.out = []
  out_json : o.json = true → c.out ≠ r.text ∧ ∃ j, Json.read? c.out = some j ∧
    j.get? "text".toList = some (.string r.text) ∧
    j.get? "errors".toList = some (.array (r.failures.map Failure.json))
  err_plain : o.json = false → c.err = log ++ unlines complaints
  err_json : o.json = true → c.err = log
  status : c.status = if o.strict = true ∧ r.failures ≠ [] then 1 else 0

theorem delivers_completion (o : RenderOptions) {engine : Engine} {context : Context} {input : Text}
    (log : Text) :
    let r := engine.render context input
    Delivers o r (engine.complaints context input) log
      ((o.completion r).behind log) where
  out_plain hjson hout := o.out_completion _ hjson hout
  out_file hjson hout := by
    simp [RenderOptions.completion, RenderOptions.out, hjson, Option.isSome_iff_ne_none, hout]
  out_json hjson := by
    simp only [Completion.out_behind, RenderOptions.completion, RenderOptions.out, hjson, if_true]
    refine ⟨fun h => ?_, (engine.render context input).json, ?_, rfl, rfl⟩
    · have hlength := congrArg List.length h
      have hlonger := (engine.render context input).length_text_lt_length_json
      rw [List.length_append] at hlength
      omega
    · exact Json.read?_text _ (by simp [Json.isSpace])
  err_plain hjson := by
    simp [RenderOptions.completion, RenderOptions.err, hjson, Engine.flatMap_line_failures]
  err_json hjson := by
    simp [RenderOptions.completion, RenderOptions.err, hjson]
  status := by
    have hfails : (engine.render context input).isOk = false ↔
        (engine.render context input).failures ≠ [] := by
      rw [Rendered.isOk, List.isEmpty_eq_false_iff]
    simp only [Completion.status_behind, RenderOptions.status_completion, hfails]

/-- What is said of directives stands before what a command says. -/
theorem run_invoke {σ : Type} {host : Host (StateM σ)} (hhost : host.Steady) {before s final : σ}
    {named : Option Path} {settings : Settings} {command : Command} {c : Completion}
    (hsettings : ((Settings.load host named).run before).1 = .ok settings)
    (hlog : (Log.openFile host settings.logging).run before = (.ok (), s)) :
    let directives := ((host.environment Log.directivesName).run before).1.getD []
    let log := Log.sinks host directives settings.logging
    (perform host settings log command).run s = (c, final) →
      (invoke host ⟨named, command⟩).run before = (c.behind log.notice, final) := by
  intro directives log hperform
  have hload := (Settings.asks_load hhost named).run_eq_of_fst hsettings
  rw [invoke, run_bind_of_run hload]
  dsimp only
  rw [run_bind_of_run ((hhost.environment _).run_eq before), run_bind_of_run hlog]
  dsimp only
  rw [run_bind_of_run hperform]
  rfl

/-- **The flags of rendering tell where its text goes.** A run that has its settings, its log file, its
variables and its text renders that text with an engine of its settings, and all its flags leave what
that comes to as it is. Without flags the rendered text is printed; an output file has it as its whole
content, unless the log file is at the same place and log lines go there; as JSON it is printed as the
text of an object that lists the failures. Else each token that failed is told in one line, in the
order of the text, behind what logging adds. The status is 1 if failures are to count and there is one,
and else 0. Which log lines pass the directives in the environment decide; the levels of the settings
do where there are none. -/
theorem invoke_render {σ π : Type} {host : Host (StateM σ)} {place? : σ → Path → Option π}
    (hhost : host.Lawful place?) {before s : σ} {named input? : Option Path}
    {sources : VariableSources} {settings : Settings} {context : Context} {input : Text}
    (h : Ready host before named input? sources settings s context input) :
    let engine := settings.engine (host.today.run s).1 sources.date
    let r := engine.render context input
    let directives := ((host.environment Log.directivesName).run before).1.getD []
    let log := Log.sinks host directives settings.logging
    (directives = [] → log = .configured settings.logging) ∧
    ∀ (output : Option Path) (json strict : Bool),
      (∀ path, output = some path → ((host.write path r.text).run s).1 = .ok ()) →
      let o : RenderOptions := ⟨input?, sources, output, json, strict⟩
      ∃ (c : Completion) (final : σ),
        (invoke host ⟨named, .render o⟩).run before = (c, final) ∧
        Delivers o r (engine.complaints context input)
          (log.notice ++ Log.shown log (host.stamp.run s).1 (Log.events r)) c ∧
        (∀ line ∈ engine.complaints context input, '\n' ∉ line) ∧
        ∀ path, output = some path →
          (∀ p filter, log.file = some (p, filter) →
            (∃ event ∈ Log.events r, filter.passes event.source = true) →
            place? s p ≠ place? s path) →
          ((host.read path).run final).1 = .ok r.text := by
  intro engine r directives log
  constructor
  · intro hnone
    show Log.sinks host directives settings.logging = _
    rw [hnone]
    exact Log.sinks_nil hhost settings.logging
  · intro output json strict hwrite o
    have hsteady := hhost.toSteady
    have hcontext := (VariableSources.asks_load hsteady sources).run_eq_of_fst h.context_eq
    obtain ⟨s', hwritten, hrun⟩ :=
      exists_run_render hsteady settings log o hcontext h.input_eq rfl hwrite
    have hinvoke := run_invoke hsteady h.settings_eq h.log_eq hrun
    rw [Completion.behind_behind] at hinvoke
    refine ⟨_, _, hinvoke, delivers_completion o _,
      fun line => Engine.line_feed_notMem_of_mem_complaints, fun path houtput hplace => ?_⟩
    have hfile := hwritten path houtput
    refine Log.read_of_fill hhost (hhost.read_of_write hfile) fun p filter hp hpasses => ?_
    -- Both files are there, so that their paths lead where they led before.
    have hbegun := Log.write_of_openFile h.log_eq (Log.file_of_sinks hp)
    obtain ⟨place, hlog⟩ := hhost.place_of_write hbegun
    obtain ⟨place', houtput'⟩ := hhost.place_of_write hfile
    have hlog₁ := hhost.keeps_place hlog p []
    rw [hbegun] at hlog₁
    have hlog₂ := hhost.keeps_place hlog₁ path r.text
    have houtput₂ := hhost.keeps_place houtput' path r.text
    rw [hfile] at hlog₂ houtput₂
    rw [hlog₂, houtput₂, ← hlog₁, ← houtput']
    exact hplace p filter hp hpasses

/-- Here a token fails and failures are to count. The output is written all the same, and a directive
lets a log line pass that the level of the settings would not. -/
theorem invoke_render_strict :
    let before : Memory := ⟨[], .text "{{A}} {{b}}".toList,
      .ofList [(Log.directivesName, "dxp=debug".toList)], ⟨2026, 1, 1, by decide⟩⟩
    let sources : VariableSources := { assignments := [("A".toList, "1".toList)] }
    ∃ (c : Completion) (final : Memory),
      (invoke Memory.host ⟨none, .render ⟨none, sources, some "out".toList, false, true⟩⟩).run before =
        (c, final) ∧
      c.out = [] ∧ c.status = 1 ∧ final.read "out".toList = .ok "1 {{b}}".toList ∧
      c.err = "DEBUG rendered input errors=1\n".toList ++
        "PARSE_ERROR: expected a variable name at offset 0, found unit 'b' in {{b}}\n".toList := by
  intro before sources
  have hready : Ready Memory.host before none none sources {} before
      (VariableSources.assign .empty sources.assignments) "{{A}} {{b}}".toList :=
    ⟨rfl, rfl, rfl, rfl⟩
  have htext : ((({} : Settings).engine before.today none).render
      (VariableSources.assign .empty sources.assignments) "{{A}} {{b}}".toList).text =
        "1 {{b}}".toList := by decide +kernel
  have hfails : ((({} : Settings).engine before.today none).render
      (VariableSources.assign .empty sources.assignments) "{{A}} {{b}}".toList).failures ≠ [] := by
    decide +kernel
  have hwrite : ∀ t, ((Memory.host.write "out".toList t).run before).1 = .ok () := fun _ => rfl
  obtain ⟨-, hrender⟩ := invoke_render Memory.lawful hready
  obtain ⟨c, final, hrun, hdelivers, -, hfile⟩ :=
    hrender (some "out".toList) false true (by rintro path ⟨⟩; exact hwrite _)
  refine ⟨c, final, hrun, hdelivers.out_file rfl (by simp), ?_, ?_, ?_⟩
  · exact hdelivers.status.trans (if_pos ⟨rfl, hfails⟩)
  · rw [← htext]
    exact hfile _ rfl fun _ _ hp => by cases hp
  · rw [hdelivers.err_plain rfl]
    decide +kernel

/-- These settings load, and the text, which has no tokens, can be read and written. They set a log file
that cannot be begun: the text is not printed. -/
theorem invoke_render_log_file :
    let before : Memory := ⟨[(["c".toList], .file (.text
        "version = 1\nlogging.file = 'nowhere/log'\n".toList))], .text "A".toList, .empty,
      ⟨2026, 1, 1, by decide⟩⟩
    let run := (invoke Memory.host ⟨some "c".toList, .render ⟨none, {}, none, false, false⟩⟩).run before
    (∀ (engine : Engine) (context : Context),
      engine.render context "A".toList = { text := "A".toList, outcomes := [] }) ∧
    (∃ settings, (Settings.load Memory.host (some "c".toList)).run before = (.ok settings, before)) ∧
    (readInput Memory.host none).run before = (.ok "A".toList, before) ∧
    run.1.out = [] ∧ run.1.status = 1 := by
  intro before run
  refine ⟨fun engine context => ?_, ?_, rfl, ?_, ?_⟩
  · have htokens : (Template.ofText "A".toList).tokens = [] := by decide +kernel
    rw [Engine.render, Template.fill_of_tokens_eq_nil htokens, Template.text_ofText, htokens,
      List.map_nil]
  · have hload : ((Settings.load Memory.host (some "c".toList)).run before).1.toBool = true := by
      decide +kernel
    cases h : ((Settings.load Memory.host (some "c".toList)).run before).1 with
    | error e =>
      rw [h] at hload
      cases hload
    | ok settings => exact ⟨settings, (Settings.asks_load Memory.lawful.toSteady _).run_eq_of_fst h⟩
  · decide +kernel
  · decide +kernel

end Program

end DateTemplate
