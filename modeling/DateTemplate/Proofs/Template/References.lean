import DateTemplate.Proofs.Expr.Chain
import DateTemplate.Proofs.Template.OneToken
import Mathlib.Data.List.Basic

set_option autoImplicit false

/-!
# Referenced variables before rendering

The variables that a text refers to can be listed without a value for any of them. Main statements:
`listsFirstUses_eraseDups`, leaving out what came before keeps the order of first use;
`undefined?_outcome`, a token is reported for an undefined variable just if it can be read and its
variable is not defined; `undefinedNames_render`, the names that rendering reports as undefined are
those of the list that nobody defines.
-/

namespace DateTemplate

/-! ## The order of first use -/

/-- The names that are used, each once, in the order in which they are used for the first time. -/
structure ListsFirstUses (uses names : List Text) : Prop where
  mem_iff : ∀ name, name ∈ names ↔ name ∈ uses
  nodup : names.Nodup
  ordered : names.Pairwise fun x y => uses.idxOf x < uses.idxOf y

/-- Taking other names out does not change which of two names comes first. -/
theorem idxOf_filter_lt_iff {uses : List Text} {p : Text → Bool} {x y : Text} (hx : p x = true)
    (hy : p y = true) :
    (uses.filter p).idxOf x < (uses.filter p).idxOf y ↔ uses.idxOf x < uses.idxOf y := by
  induction uses with
  | nil => simp
  | cons u uses ih =>
    by_cases hux : u = x
    · subst hux
      by_cases huy : u = y
      · simp [huy]
      · simp [hx, List.idxOf_cons_ne _ huy]
    · by_cases huy : u = y
      · subst huy
        simp [hy]
      · cases hu : p u with
        | true => simp [hu, List.idxOf_cons_ne _ hux, List.idxOf_cons_ne _ huy, ih]
        | false => simp [hu, List.idxOf_cons_ne _ hux, List.idxOf_cons_ne _ huy, ih]

theorem ListsFirstUses.filter {uses names : List Text} (h : ListsFirstUses uses names)
    (p : Text → Bool) : ListsFirstUses (uses.filter p) (names.filter p) := by
  refine ⟨fun name => ?_, h.nodup.filter p, ?_⟩
  · rw [List.mem_filter, List.mem_filter, h.mem_iff]
  · refine (h.ordered.filter p).imp_of_mem fun hx hy hlt => ?_
    exact (idxOf_filter_lt_iff (List.mem_filter.1 hx).2 (List.mem_filter.1 hy).2).2 hlt

/-- Leaving out what came before keeps each name at its first use. -/
theorem listsFirstUses_eraseDups (uses : List Text) : ListsFirstUses uses uses.eraseDups := by
  have hordered : uses.eraseDups.Pairwise fun x y => uses.idxOf x < uses.idxOf y := by
    induction hlength : uses.length using Nat.strongRecOn generalizing uses with
    | ind n ih =>
      cases uses with
      | nil => simp
      | cons u uses =>
        have hshort := List.length_filter_le (fun v => !v == u) uses
        have hrest := ih _ (by rw [← hlength, List.length_cons]; omega)
          (uses.filter fun v => !v == u) rfl
        have hother : ∀ v ∈ (uses.filter fun v => !v == u).eraseDups, (!v == u) = true := by
          intro v hv
          exact (List.mem_filter.1 (List.mem_eraseDups.1 hv)).2
        have hnext : ∀ v ∈ (uses.filter fun v => !v == u).eraseDups,
            (u :: uses).idxOf v = uses.idxOf v + 1 := by
          intro v hv
          have hne : u ≠ v := by
            rintro rfl
            simpa using hother u hv
          exact List.idxOf_cons_ne uses hne
        rw [List.eraseDups_cons, List.pairwise_cons]
        constructor
        · intro v hv
          rw [hnext v hv, List.idxOf_cons_self]
          exact Nat.succ_pos _
        · refine hrest.imp_of_mem fun hx hy hlt => ?_
          rw [idxOf_filter_lt_iff (hother _ hx) (hother _ hy)] at hlt
          rw [hnext _ hx, hnext _ hy]
          exact Nat.succ_lt_succ hlt
  exact ⟨fun name => List.mem_eraseDups, hordered.imp fun hlt heq => by simp [heq] at hlt, hordered⟩

/-! ## What is used and what is reported -/

theorem resolve_eq_none_iff {context : Context} {system : SystemVariables} {name : Text} :
    resolve context system name = none ↔
      context.contains name = false ∧ system.contains name = false := by
  unfold resolve Bindings.contains
  cases context.get? name with
  | some raw => simp
  | none => cases system.get? name <;> simp

/-- The variable that a failure reports as undefined. -/
def Failure.undefined? (f : Failure) : Option Text :=
  if f.error.code = .undefinedVariable then f.error.token? else none

theorem Failure.undefined?_eq_some_iff {f : Failure} {name : Text} :
    f.undefined? = some name ↔ f.error = .evaluation (.undefinedVariable name) := by
  unfold undefined?
  constructor
  · intro h
    split at h
    · next hcode =>
      obtain ⟨name', hname⟩ := ExprError.code_undefinedVariable_iff.1 hcode
      rw [hname] at h ⊢
      cases h
      rfl
    · cases h
  · intro h
    rw [h, if_pos (ExprError.code_undefinedVariable_iff.2 ⟨name, rfl⟩)]
    rfl

/-- The variables that are reported as undefined, once for each report. -/
def Rendered.undefinedNames (r : Rendered) : List Text := r.failures.filterMap Failure.undefined?

theorem Rendered.mem_undefinedNames_iff {r : Rendered} {name : Text} :
    name ∈ r.undefinedNames ↔
      ∃ f ∈ r.failures, f.error = .evaluation (.undefinedVariable name) := by
  rw [undefinedNames, List.mem_filterMap]
  simp only [Failure.undefined?_eq_some_iff]

namespace Engine

/-- The variable of a text that is an expression, with or without braces around it. -/
def root? (engine : Engine) (token : Text) : Option Text :=
  match engine.parse (Template.stripBraces token) with
  | .ok e => some e.root
  | .error _ => none

/-- The variables of the tokens that can be read, once for each token. -/
def uses (engine : Engine) (input : Text) : List Text :=
  (Template.extract input).filterMap engine.root?

/-- Whether the caller or the system gives a variable a value. -/
def defines (engine : Engine) (context : Context) (name : Text) : Bool :=
  context.contains name || engine.system.contains name

theorem root?_eq_some_iff {engine : Engine} {token name : Text} :
    engine.root? token = some name ↔
      ∃ e, engine.parse (Template.stripBraces token) = .ok e ∧ e.root = name := by
  unfold root?
  cases engine.parse (Template.stripBraces token) <;> simp

theorem defines_eq_false_iff {engine : Engine} {context : Context} {name : Text} :
    engine.defines context name = false ↔ resolve context engine.system name = none := by
  rw [defines, Bool.or_eq_false_iff, resolve_eq_none_iff]

/-- An evaluation fails for an undefined variable just if its text can be read and nobody defines the
variable it begins with. -/
theorem evaluate_eq_undefined_iff {engine : Engine} {context : Context} {input name : Text} :
    engine.evaluate context input = .error (.evaluation (.undefinedVariable name)) ↔
      (∃ e, engine.parse input = .ok e ∧ e.root = name) ∧
        resolve context engine.system name = none := by
  simp only [evaluate_eq_error_evaluation_iff, valueOf, Expr.evaluate_eq_undefinedVariable_iff]
  constructor
  · rintro ⟨e, hparse, hnone, rfl⟩
    exact ⟨⟨e, hparse, rfl⟩, hnone⟩
  · rintro ⟨⟨e, hparse, rfl⟩, hnone⟩
    exact ⟨e, hparse, hnone, rfl⟩

/-- A token is reported for an undefined variable just if it can be read and nobody defines its
variable. -/
theorem undefined?_outcome (engine : Engine) (context : Context) (inner : Text) :
    (engine.outcome context inner).failure?.bind Failure.undefined? =
      (engine.root? (Template.braced inner)).filter fun name => !engine.defines context name := by
  ext name
  rw [Option.bind_eq_some_iff, Option.filter_eq_some_iff, root?_eq_some_iff,
    Template.stripBraces_braced, Bool.not_eq_true', defines_eq_false_iff,
    ← evaluate_eq_undefined_iff]
  simp only [Outcome.failure?_eq_some_iff, Failure.undefined?_eq_some_iff]
  constructor
  · rintro ⟨f, ⟨-, hresult⟩, herror⟩
    rw [← herror]
    exact hresult
  · intro hresult
    exact ⟨⟨Template.braced inner, .evaluation (.undefinedVariable name)⟩, ⟨rfl, hresult⟩, rfl⟩

/-- The reports of undefined variables are the uses of names that nobody defines. -/
theorem undefinedNames_render (engine : Engine) (context : Context) (input : Text) :
    (engine.render context input).undefinedNames =
      (engine.uses input).filter fun name => !engine.defines context name := by
  rw [Rendered.undefinedNames, failures_render, List.filterMap_filterMap, uses, Template.extract,
    List.filterMap_map, List.filter_filterMap]
  exact congrArg (List.filterMap · _) (funext fun inner => undefined?_outcome engine context inner)

theorem references_eq_eraseDups_uses (engine : Engine) (input : Text) :
    engine.references input = (engine.uses input).eraseDups := by
  rw [references, uses, Template.extract, List.filterMap_map]
  refine congrArg (fun f => (List.filterMap f _).eraseDups) (funext fun inner => ?_)
  cases hparse : engine.parse (Text.trim inner) with
  | error e => simp [root?, hparse]
  | ok e => simp [root?, hparse]

/-- **The referenced variables are those that rendering needs.** They are the variables of the
tokens that can be read, each once, in the order of their first use. Those of them that neither the
caller nor the system defines are the variables that rendering reports as undefined, in the order of
their first report; none is reported just if all of them are defined. -/
theorem listsFirstUses_references (engine : Engine) (context : Context) (input : Text) :
    ListsFirstUses (engine.uses input) (engine.references input) ∧
    ListsFirstUses (engine.render context input).undefinedNames
      ((engine.references input).filter fun name => !engine.defines context name) ∧
    ((∀ f ∈ (engine.render context input).failures, f.error.code ≠ .undefinedVariable) ↔
      ∀ name ∈ engine.references input, engine.defines context name = true) := by
  have hreferences : ListsFirstUses (engine.uses input) (engine.references input) := by
    rw [references_eq_eraseDups_uses]
    exact listsFirstUses_eraseDups (engine.uses input)
  have hundefined : ListsFirstUses (engine.render context input).undefinedNames
      ((engine.references input).filter fun name => !engine.defines context name) := by
    rw [undefinedNames_render]
    exact hreferences.filter _
  refine ⟨hreferences, hundefined, ?_⟩
  constructor
  · intro hnone name hname
    by_contra hdefined
    have hmem : name ∈ (engine.render context input).undefinedNames := by
      rw [← hundefined.mem_iff, List.mem_filter]
      exact ⟨hname, by simpa using hdefined⟩
    obtain ⟨f, hf, herror⟩ := Rendered.mem_undefinedNames_iff.1 hmem
    exact hnone f hf (ExprError.code_undefinedVariable_iff.2 ⟨name, herror⟩)
  · intro hall f hf hcode
    obtain ⟨name, herror⟩ := ExprError.code_undefinedVariable_iff.1 hcode
    have hmem := Rendered.mem_undefinedNames_iff.2 ⟨f, hf, herror⟩
    rw [← hundefined.mem_iff, List.mem_filter] at hmem
    simp [hall name hmem.1] at hmem

end Engine

end DateTemplate
