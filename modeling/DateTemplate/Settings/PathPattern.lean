import DateTemplate.Bindings
import DateTemplate.Path
import DateTemplate.Text.Alphanumeric

set_option autoImplicit false

/-!
# Paths with names of the environment

In such a path `$NAME` and `${NAME}` stand for what the environment has for the name, `$$` for a
dollar, and a tilde at the front for the home directory. `${NAME:-default}` has a text for the case
that the environment lacks the name. Main statement: `expand_eq_none_iff`, a path has no meaning just
if it refers to a name that the environment lacks, without such a text.
-/

namespace DateTemplate

/-- A piece of a path: a text, or a name with a text for the case that it has no value. -/
inductive PathPiece where
  | literal (t : Text)
  | reference (name : Text) (fallback : Option Text)
deriving DecidableEq, Repr

namespace PathPiece

/-- Whether a character may stand in a name without braces. -/
def isNameChar (c : Char) : Bool := Text.isAlphanumeric c || c == '_'

/-- What stands before the first `:-` and behind it. -/
def splitFallback? : Text → Option (Text × Text)
  | [] => none
  | ':' :: '-' :: t => some ([], t)
  | c :: t => (splitFallback? t).map fun (name, fallback) => (c :: name, fallback)

/-- What braces hold: a name, and perhaps a fallback. A name is never empty before a fallback. -/
def ofBraced (inner : Text) : PathPiece :=
  match splitFallback? inner with
  | some (c :: name, fallback) => .reference (c :: name) (some fallback)
  | _ => .reference inner none

/-- The pieces of a path. A dollar that begins nothing stands for itself, and so do a dollar and a
brace that is not closed. -/
def ofText : Text → List PathPiece
  | [] => []
  | '$' :: t =>
    match t with
    | '$' :: t => .literal ['$'] :: ofText t
    | '{' :: t =>
      if t.contains '}' then
        have := Text.length_dropWhile_le (· != '}') t
        ofBraced (t.takeWhile (· != '}')) :: ofText ((t.dropWhile (· != '}')).drop 1)
      else .literal ['$', '{'] :: ofText t
    | t =>
      let name := t.takeWhile isNameChar
      if name.isEmpty then .literal ['$'] :: ofText t
      else
        have := Text.length_dropWhile_le isNameChar t
        .reference name none :: ofText (t.dropWhile isNameChar)
  | c :: t => .literal [c] :: ofText t
termination_by t => t.length
decreasing_by all_goals simp_wf <;> omega

/-- What a piece stands for. -/
def expand (env : Bindings Text) : PathPiece → Option Text
  | literal t => some t
  | reference name fallback => (env.get? name).or fallback

/-- The name that a piece refers to. -/
def name? : PathPiece → Option Text
  | literal _ => none
  | reference name _ => some name

end PathPiece

namespace Path

/-- The home directory that an environment tells. -/
def home? (env : Bindings Text) : Option Text := (env.get? "HOME".toList).filter (!·.isEmpty)

/-- A path with the home directory in the place of a tilde at its front, which stands alone or before
a slash. -/
def expandHome (home : Option Text) (p : Path) : Path :=
  match home, p with
  | some home, '~' :: rest =>
    if rest.isEmpty || rest.head? = some '/' then home ++ rest else p
  | _, p => p

/-- The names of the environment that the meaning of a path depends on. -/
def environmentNames (p : Path) : List Text :=
  "HOME".toList :: (PathPiece.ofText p).filterMap PathPiece.name?

/-- What a path with names stands for. A tilde that came from the value of a name is kept. -/
def expand (env : Bindings Text) (p : Path) : Option Path := do
  let pieces ← (PathPiece.ofText p).mapM (PathPiece.expand env)
  let expanded := pieces.flatten
  -- A tilde at the front counts only if it was written there.
  if p.head? = some '~' || expanded.head? ≠ some '~' then
    return expandHome (home? env) expanded
  else return expanded

/-- A path has no meaning just if it refers to a name without a value and without a fallback. -/
theorem expand_eq_none_iff (env : Bindings Text) (p : Path) :
    expand env p = none ↔ ∃ name, .reference name none ∈ PathPiece.ofText p ∧ env.get? name = none := by
  have hmap : ∀ pieces : List PathPiece, pieces.mapM (PathPiece.expand env) = none ↔
      ∃ name, .reference name none ∈ pieces ∧ env.get? name = none := by
    intro pieces
    induction pieces with
    | nil => simp
    | cons piece pieces ih =>
      simp only [List.mapM_cons, List.mem_cons]
      cases h : piece.expand env with
      | none =>
        cases piece with
        | literal t => simp [PathPiece.expand] at h
        | reference n fallback =>
          simp only [PathPiece.expand, Option.or_eq_none_iff] at h
          simp only [Option.bind_eq_bind, Option.bind_none, true_iff]
          exact ⟨n, Or.inl (by rw [h.2]), h.1⟩
      | some t =>
        have hne : ∀ n, PathPiece.reference n none = piece → env.get? n ≠ none := by
          intro n hn he
          simp [← hn, PathPiece.expand, he] at h
        simp only [Option.bind_eq_bind, Option.bind_some, Option.pure_def,
          Option.bind_eq_none_iff, reduceCtorEq, imp_false]
        rw [← Option.eq_none_iff_forall_ne_some, ih]
        constructor
        · rintro ⟨n, hn, he⟩
          exact ⟨n, Or.inr hn, he⟩
        · rintro ⟨n, hn | hn, he⟩
          · exact absurd he (hne n hn)
          · exact ⟨n, hn, he⟩
  unfold expand
  rw [← hmap]
  cases (PathPiece.ofText p).mapM (PathPiece.expand env) with
  | none => simp
  | some pieces =>
    simp only [Option.bind_eq_bind, Option.bind_some, reduceCtorEq, iff_false]
    split <;> simp

end Path

end DateTemplate
