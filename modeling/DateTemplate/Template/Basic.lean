import DateTemplate.Text.Blank

set_option autoImplicit false

/-!
# Templates

A token of a template is two opening braces, a text on one line and the first two closing braces
behind it. `Template.ofText` cuts a text up from left to right into tokens and the gaps around them.
Main statements: `text_ofText`, nothing is lost or changed by that, and `length_open?`, which says
that a token is never empty.
-/

namespace DateTemplate

/-- A text cut up into tokens and gaps; a token is known by what stands between its braces. -/
inductive Template where
  /-- The gap behind the last token. -/
  | last (gap : Text)
  /-- A gap, the token behind it and what follows the token. -/
  | token (gap inner : Text) (rest : Template)
deriving DecidableEq, Repr

namespace Template

/-- A text between double braces. -/
def braced (inner : Text) : Text := '{' :: '{' :: inner ++ ['}', '}']

/-- What stands before the first two closing braces of a line, and what stands behind them. -/
def close? : Text → Option (Text × Text)
  | [] => none
  | '}' :: '}' :: t => some ([], t)
  | c :: t => if c = '\n' then none else (close? t).map fun (inner, rest) => (c :: inner, rest)

/-- The token at the front of a text, if one begins there, and what stands behind it. -/
def open? : Text → Option (Text × Text)
  | '{' :: '{' :: t => close? t
  | _ => none

/-- Puts a character in front of the first gap. -/
def cons (c : Char) : Template → Template
  | last gap => last (c :: gap)
  | token gap inner rest => token (c :: gap) inner rest

theorem eq_of_close? {t inner rest : Text} (h : close? t = some (inner, rest)) :
    t = inner ++ '}' :: '}' :: rest := by
  fun_induction close? t generalizing inner with
  | case1 => cases h
  | case2 t => cases h; rfl
  | case3 t _ => cases h
  | case4 c t _ hc ih =>
    obtain ⟨⟨i, r⟩, hclose, heq⟩ := Option.map_eq_some_iff.1 h
    cases heq
    rw [ih hclose, List.cons_append]

/-- A token and the text behind it make up the text. -/
theorem eq_of_open? {t inner rest : Text} (h : open? t = some (inner, rest)) :
    t = braced inner ++ rest := by
  unfold open? at h
  split at h
  · rw [eq_of_close? h]
    simp [braced]
  · cases h

/-- What follows a token is shorter by at least its four braces. -/
theorem length_open? {t inner rest : Text} (h : open? t = some (inner, rest)) :
    rest.length + 4 ≤ t.length := by
  have := congrArg List.length (eq_of_open? h)
  simp only [braced, List.length_append, List.length_cons, List.length_nil] at this
  omega

/-- Cuts a text up at its tokens, from left to right. -/
def ofText : Text → Template
  | [] => last []
  | c :: t =>
    match h : open? (c :: t) with
    | some (inner, rest) =>
      have := length_open? h
      token [] inner (ofText rest)
    | none => (ofText t).cons c
termination_by t => t.length
decreasing_by all_goals simp_all only [List.length_cons]; omega

/-- The tokens, without their braces. -/
def tokens : Template → List Text
  | last _ => []
  | token _ inner rest => inner :: rest.tokens

/-- The text with each token replaced. -/
def fill (f : Text → Text) : Template → Text
  | last gap => gap
  | token gap inner rest => gap ++ f inner ++ rest.fill f

/-- The text that was cut up. -/
def text (template : Template) : Text := template.fill braced

@[simp] theorem fill_cons (f : Text → Text) (c : Char) (template : Template) :
    (template.cons c).fill f = c :: template.fill f := by
  cases template <;> rfl

@[simp] theorem tokens_cons (c : Char) (template : Template) :
    (template.cons c).tokens = template.tokens := by
  cases template <;> rfl

/-- Cutting a text up loses nothing. -/
@[simp] theorem text_ofText (t : Text) : (ofText t).text = t := by
  fun_induction ofText t with
  | case1 => rfl
  | case2 c t inner rest h _ ih =>
    rw [text] at ih ⊢
    rw [eq_of_open? h, fill, ih, List.nil_append]
  | case3 c t h ih =>
    rw [text] at ih ⊢
    rw [fill_cons, ih]

/-- What stands inside a text's own double braces. -/
def inside? : Text → Option Text
  | '{' :: '{' :: t =>
    match t.reverse with
    | '}' :: '}' :: inner => some inner.reverse
    | _ => none
  | _ => none

/-- A text without its double braces, if it has both pairs, and without the blanks around. -/
def stripBraces (t : Text) : Text :=
  let t := Text.trim t
  Text.trim ((inside? t).getD t)

end Template

end DateTemplate
