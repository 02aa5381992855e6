import DateTemplate.Proofs.Expr.Chain
import DateTemplate.Proofs.Expr.Limited

set_option autoImplicit false

/-!
# How deep expressions are nested

An expression can be seen as a tree: its last step is applied to all that stands before it, and so on
down to the variable. Each step of an accepted text takes at least five characters, so recursions down
the tree are as shallow as the length of the text allows. Main statements: `descend_eq`, a recursion
that visits each base once goes down one level for each step; `length_trim_of_parse`, the characters
that the steps take; `Expr.depth_of_parse`, the bound for the recursions down an accepted expression.
-/

namespace DateTemplate

/-! ## Expressions as trees -/

/-- An expression as a tree: a variable, or a step behind what it is applied to. -/
inductive Nesting where
  | variableName (name : Text)
  | step (base : Nesting) (s : Step)

/-- The tree of an expression; its last step is outermost. -/
def Expr.nesting (e : Expr) : Nesting := e.steps.foldl .step (.variableName e.root)

namespace Nesting

variable {α : Type}

/-- The expression that a tree is. -/
def expr : Nesting → Expr
  | variableName name => .ofName name
  | step base s => base.expr.push s

/-- A recursion down the bases to the variable: what it comes to, if the variable is at most so many
levels down. -/
def descend (leaf : Text → α) (node : Nesting → Step → α → α) : Nat → Nesting → Option α
  | _, variableName name => some (leaf name)
  | 0, step _ _ => none
  | levels + 1, step base s => (descend leaf node levels base).map (node base s)

/-- The variable of a tree, found within so many levels. -/
def root? (levels : Nat) (n : Nesting) : Option Text := n.descend id (fun _ _ name => name) levels

/-- The number of steps of a tree, counted within so many levels. -/
def depth? (levels : Nat) (n : Nesting) : Option Nat :=
  n.descend (fun _ => 0) (fun _ _ depth => depth + 1) levels

/-- The written form of a tree, put together within so many levels. -/
def text? (levels : Nat) (n : Nesting) : Option Text :=
  n.descend id (fun _ s base => base ++ s.text) levels

/-- The value of a tree once the value of its base is known. -/
def evaluateStep (base : Nesting) (s : Step) : Except EvalError Value → Except EvalError Value
  | .error e => .error e
  | .ok (.date d) =>
    match s.shift? d with
    | some d => .ok (.date d)
    | none => .error (.outOfRange (base.step s).expr)
  | .ok value => .error (.typeMismatch base.expr value.kind)

/-- The value of a tree whose variables have the given values, found within so many levels. -/
def evaluate? (values : Text → Option Value) (levels : Nat) (n : Nesting) :
    Option (Except EvalError Value) :=
  n.descend
    (fun name =>
      match values name with
      | some value => .ok value
      | none => .error (.undefinedVariable name))
    evaluateStep levels

theorem expr_foldl_step (steps : List Step) (n : Nesting) :
    (steps.foldl step n).expr = ⟨n.expr.root, n.expr.steps ++ steps⟩ := by
  induction steps generalizing n with
  | nil => simp
  | cons s steps ih => simp [ih, expr, Expr.push]

@[simp] theorem expr_nesting (e : Expr) : e.nesting.expr = e := by
  simp [Expr.nesting, expr_foldl_step, expr, Expr.ofName]

/-- A recursion that visits each base once goes down one level for each step: so many levels are enough
and no fewer. -/
theorem descend_eq {leaf : Text → α} {node : Nesting → Step → α → α} {f : Expr → α}
    (hleaf : ∀ name, f (.ofName name) = leaf name)
    (hnode : ∀ base s, f (base.expr.push s) = node base s (f base.expr)) (levels : Nat) (n : Nesting) :
    n.descend leaf node levels = if n.expr.depth ≤ levels then some (f n.expr) else none := by
  induction n generalizing levels with
  | variableName name => cases levels <;> simp [descend, expr, hleaf]
  | step base s ih =>
    cases levels with
    | zero => simp [descend, expr]
    | succ levels =>
      simp only [descend, expr, ih, Expr.depth_push, Nat.succ_le_succ_iff, hnode]
      split <;> rfl

/-- A step comes to what it makes of the value of all that stands before it. -/
theorem evaluate_push (values : Text → Option Value) (base : Nesting) (s : Step) :
    (base.expr.push s).evaluate values = evaluateStep base s (base.expr.evaluate values) := by
  show (Expr.mk base.expr.root (base.expr.steps ++ [s])).evaluate values = _
  rw [Expr.evaluate_append]
  cases base.expr.evaluate values with
  | error e => rfl
  | ok value =>
    cases value with
    | date d =>
      simp only [Expr.run, evaluateStep]
      cases s.shift? d <;> rfl
    | number x => rfl
    | text t => rfl

theorem evaluate_ofName (values : Text → Option Value) (name : Text) :
    (Expr.ofName name).evaluate values =
      match values name with
      | some value => .ok value
      | none => .error (.undefinedVariable name) := by
  simp only [Expr.evaluate, Expr.ofName]
  cases values name <;> rfl

section Levels

variable (levels : Nat) (n : Nesting)

theorem root?_eq : n.root? levels = if n.expr.depth ≤ levels then some n.expr.root else none :=
  descend_eq (f := Expr.root) (fun _ => rfl) (fun _ _ => rfl) levels n

theorem depth?_eq : n.depth? levels = if n.expr.depth ≤ levels then some n.expr.depth else none :=
  descend_eq (f := Expr.depth) (fun _ => rfl) (fun base s => base.expr.depth_push s) levels n

theorem text?_eq : n.text? levels = if n.expr.depth ≤ levels then some n.expr.text else none :=
  descend_eq (f := Expr.text) (fun name => by simp [Expr.ofName, Expr.text])
    (fun base s => base.expr.text_push s) levels n

theorem evaluate?_eq (values : Text → Option Value) :
    n.evaluate? values levels =
      if n.expr.depth ≤ levels then some (n.expr.evaluate values) else none :=
  descend_eq (f := (Expr.evaluate values ·)) (evaluate_ofName values) (evaluate_push values) levels n

end Levels

end Nesting

/-! ## The characters of the steps -/

theorem Group.five_le_length_text {limits : Limits} (g : Group limits) : 5 ≤ g.text.length := by
  have hdigits : 0 < g.digits.length := List.length_pos_iff.2 g.digits_ne_nil
  have hword : 3 ≤ g.word.length := by
    rcases TimeUnit.mem_words_iff.1 g.word_mem with h | h <;> rw [h] <;> cases g.unit <;> decide
  simp only [Group.text, List.length_append, List.length_cons, List.length_nil]
  omega

theorem Group.length_flatMap_text {limits : Limits} (groups : List (Group limits)) :
    5 * groups.length ≤ (groups.flatMap Group.text).length := by
  induction groups with
  | nil => simp
  | cons g groups ih =>
    have hg := g.five_le_length_text
    simp only [List.flatMap_cons, List.length_append, List.length_cons]
    omega

namespace Parser

variable {limits : Limits} {ts rest : Tokens} {ss : List Step}

/-- Of the tokens that are taken as steps one in three is a sign. -/
theorem countP_of_takes (h : Takes limits ts ss rest) (hrest : ∀ r ∈ rest, r.kind = .endOfInput) :
    ts.countP (·.kind = .operator) = ss.length := by
  induction h with
  | @stop ts _ =>
    refine List.countP_eq_zero.2 fun t ht => ?_
    simp [hrest t ht]
  | group hgroup _ ih =>
    simp [hgroup.sign_kind, hgroup.number_kind, hgroup.word_kind, ih hrest]

end Parser

namespace Expr

variable {limits : Limits} {input : Text} {e : Expr}

/-- The name takes one character or more, and each step takes five or more. -/
theorem length_trim_of_parse (h : parse limits input = .ok e) :
    1 + 5 * e.depth ≤ (Text.trim input).length := by
  obtain ⟨-, name, groups, hname, htrim, rfl⟩ := exists_groups_of_parse h
  have hpos : 0 < name.length := List.length_pos_iff.2 hname.1
  have hgroups := Group.length_flatMap_text groups
  rw [htrim, foldl_push, depth]
  simp only [ofName, List.nil_append, List.length_map, List.length_append]
  omega

/-- An accepted expression has one step for each sign among its tokens. -/
theorem exists_countP_of_parse (h : parse limits input = .ok e) :
    ∃ ts, Token.tokenize input = .ok ts ∧ ts.countP (·.kind = .operator) = e.depth := by
  have hlength := (exists_groups_of_parse h).1
  cases htokenize : Token.tokenize input with
  | error stray =>
    rw [parse, if_neg (Nat.not_lt.2 hlength), htokenize] at h
    cases h
  | ok ts =>
    rw [parse_of_tokenize hlength htokenize] at h
    obtain ⟨t, left, rest, rfl, hkind, -, htakes, hend⟩ := Parser.ofTokens_eq_ok_iff.1 h
    obtain ⟨taken, hleft, -⟩ := Parser.exists_after?_of_takes htakes
    have hlexes := Token.scan_eq_ok_iff.1 htokenize
    rw [hleft, ← List.cons_append] at hlexes
    have hcount := Parser.countP_of_takes htakes (hlexes.kind_eq_of_mem_rest hend)
    refine ⟨_, rfl, ?_⟩
    simp [hkind, hcount, depth]

/-- **How deep recursions down an accepted expression go.** The steps of an accepted text are as many
as the signs among its tokens. With one character or more for the name and five or more for each step
they fit into the text without the blanks around it, and so into the limit on its length. The root,
the number of steps, the written form and the value, each found by a recursion from the last step down
to the variable, are therefore found within a fifth of the levels that the limit has characters behind
the first. -/
theorem depth_of_parse (h : parse limits input = .ok e) :
    1 + 5 * e.depth ≤ (Text.trim input).length ∧
    (Text.trim input).length ≤ limits.maxLength ∧
    (∃ ts, Token.tokenize input = .ok ts ∧ ts.countP (·.kind = .operator) = e.depth) ∧
    e.nesting.expr = e ∧
    let levels := (limits.maxLength - 1) / 5
    e.nesting.root? levels = some e.root ∧
    e.nesting.depth? levels = some e.depth ∧
    e.nesting.text? levels = some e.text ∧
    ∀ values, e.nesting.evaluate? values levels = some (e.evaluate values) := by
  have hsteps := length_trim_of_parse h
  have hlength : (Text.trim input).length ≤ limits.maxLength :=
    Nat.le_trans (Text.length_trim_le input) (exists_groups_of_parse h).1
  have hlevels : e.depth ≤ (limits.maxLength - 1) / 5 := by omega
  refine ⟨hsteps, hlength, exists_countP_of_parse h, Nesting.expr_nesting e, ?_⟩
  simp [Nesting.root?_eq, Nesting.depth?_eq, Nesting.text?_eq, Nesting.evaluate?_eq, hlevels]

/-- Here the limit is reached: ten characters behind the first leave room for two steps, and the
variable is two levels down and no fewer. -/
theorem depth_of_parse_no_room :
    parse ⟨11, 1⟩ "A+1day-1day".toList =
      .ok ⟨['A'], [⟨.add, 1, .days⟩, ⟨.subtract, 1, .days⟩]⟩ ∧
    1 + 5 * 2 ≤ (Text.trim "A+1day-1day".toList).length ∧
    (Text.trim "A+1day-1day".toList).length ≤ 11 ∧
    (∃ ts, Token.tokenize "A+1day-1day".toList = .ok ts ∧ ts.countP (·.kind = .operator) = 2) ∧
    (Expr.mk ['A'] [⟨.add, 1, .days⟩, ⟨.subtract, 1, .days⟩]).nesting.root? 2 = some ['A'] ∧
    (Expr.mk ['A'] [⟨.add, 1, .days⟩, ⟨.subtract, 1, .days⟩]).nesting.root? 1 = none := by
  have hparse : parse ⟨11, 1⟩ "A+1day-1day".toList =
      .ok ⟨['A'], [⟨.add, 1, .days⟩, ⟨.subtract, 1, .days⟩]⟩ := by decide +kernel
  obtain ⟨hsteps, hlength, hsigns, -, hroot, -⟩ := depth_of_parse hparse
  exact ⟨hparse, hsteps, hlength, hsigns, hroot, rfl⟩

end Expr

end DateTemplate
