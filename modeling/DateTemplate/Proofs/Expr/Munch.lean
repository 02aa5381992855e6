import DateTemplate.Proofs.Expr.Lexes

set_option autoImplicit false

/-!
# What tokens leave of a text

The tokens of a text lie side by side in it, each as long as its kind allows, and only blanks are left
over. Main statements: `lexes_iff_covers`, this says of a list of tokens that they are those of the
text; `tokenize_munch`, just when a text has tokens, which they are, and which character is reported
when it has none.
-/

namespace DateTemplate.Token

open TokenKind

/-! ## Tokens that cover a text -/

/-- A place is one of those where the characters of a token stand. -/
def Spans (token : Token) (place : Nat) : Prop :=
  token.offset ≤ place ∧ place < token.offset + token.text.length

/-- A token is cut out of a text that begins at an offset, as long as its kind allows: it is made of
characters of its kind only, and no such character follows it. A sign is one character. -/
structure IsMunch (token : Token) (offset : Nat) (t : Text) : Prop where
  kind_ne : token.kind ≠ .endOfInput
  text_ne_nil : token.text ≠ []
  has : ∀ c ∈ token.text, token.kind.Has c
  sign : token.kind = .operator → token.text.length = 1
  slice : ∃ front back, t = front ++ (token.text ++ back) ∧ token.offset = offset + front.length ∧
    (token.kind ≠ .operator → ∀ c ∈ back.head?, ¬ token.kind.Has c)

/-- Tokens cover a text that begins at an offset: they are cut out of it one behind the other, and what
stands in none of them are its blanks. -/
structure Covers (tokens : List Token) (offset : Nat) (t : Text) : Prop where
  increasing : tokens.Pairwise fun a b => a.offset < b.offset
  apart : tokens.Pairwise fun a b => a.offset + a.text.length ≤ b.offset
  isMunch : ∀ token ∈ tokens, token.IsMunch offset t
  isBlank_iff : ∀ (i : Nat) (c : Char), t[i]? = some c →
    (Text.isBlank c = true ↔ ∀ token ∈ tokens, ¬ token.Spans (offset + i))

variable {offset : Nat} {t blanks run : Text} {kind : TokenKind} {token : Token}
  {tokens : List Token}

theorem isMunch_run (hrun : kind.IsRun run) (hstops : kind.Stops t) (offset : Nat) (front : Text) :
    IsMunch ⟨kind, run, offset + front.length⟩ offset (front ++ (run ++ t)) := by
  obtain ⟨c, rest, rfl, hc, hrest⟩ := hrun
  refine ⟨ne_endOfInput_of_ofChar? hc, List.cons_ne_nil c rest, ?_, ?_, front, t, rfl, rfl, ?_⟩
  · intro d hd
    exact has_iff.2 (IsRun.ofChar?_eq_some ⟨c, rest, rfl, hc, hrest⟩ hd)
  · rintro rfl
    cases rest with
    | nil => rfl
    | cons d rest => cases hrest d List.mem_cons_self
  · intro hkind d hd hhas
    have hcontinues := continues_iff.2 ⟨hkind, has_iff.1 hhas⟩
    rw [hstops d hd] at hcontinues
    cases hcontinues

theorem IsMunch.isRun (h : token.IsMunch offset t) : token.kind.IsRun token.text := by
  obtain ⟨kind, text, place⟩ := token
  obtain ⟨c, rest, rfl⟩ := List.exists_cons_of_ne_nil h.text_ne_nil
  have hhas := List.forall_mem_cons.1 h.has
  refine ⟨c, rest, rfl, has_iff.1 hhas.1, fun d hd => ?_⟩
  refine continues_iff.2 ⟨?_, has_iff.1 (hhas.2 d hd)⟩
  rintro rfl
  have hlength := h.sign rfl
  obtain rfl : rest = [] := by simpa using hlength
  cases hd

/-- More text in front leaves a token what it is. -/
theorem IsMunch.append {front : Text} (h : token.IsMunch (offset + front.length) t) :
    token.IsMunch offset (front ++ t) := by
  obtain ⟨front', back, rfl, hoffset, hmaximal⟩ := h.slice
  refine ⟨h.kind_ne, h.text_ne_nil, h.has, h.sign, front ++ front', back, ?_, ?_, hmaximal⟩
  · rw [List.append_assoc]
  · rw [hoffset, List.length_append, Nat.add_assoc]

/-- A token that begins behind the front of a text is cut out of the rest. -/
theorem IsMunch.of_append {front : Text} (h : token.IsMunch offset (front ++ t))
    (hbehind : offset + front.length ≤ token.offset) :
    token.IsMunch (offset + front.length) t := by
  obtain ⟨front', back, heq, hoffset, hmaximal⟩ := h.slice
  have hprefix : front <+: front' :=
    List.prefix_of_prefix_length_le (heq ▸ List.prefix_append front t)
      (List.prefix_append front' _) (by omega)
  obtain ⟨mid, rfl⟩ := hprefix
  rw [List.append_assoc] at heq
  refine ⟨h.kind_ne, h.text_ne_nil, h.has, h.sign, mid, back, List.append_cancel_left heq, ?_,
    hmaximal⟩
  rw [hoffset, List.length_append, Nat.add_assoc]

theorem IsMunch.offset_le (h : token.IsMunch offset t) : offset ≤ token.offset := by
  obtain ⟨front, back, -, hoffset, -⟩ := h.slice
  omega

theorem IsMunch.end_le (h : token.IsMunch offset t) :
    token.offset + token.text.length ≤ offset + t.length := by
  obtain ⟨front, back, rfl, hoffset, -⟩ := h.slice
  simp only [List.length_append]
  omega

/-! ## The tokens of a text cover it -/

theorem covers_blanks (hblanks : ∀ c ∈ blanks, Text.isBlank c = true) : Covers [] offset blanks where
  increasing := List.Pairwise.nil
  apart := List.Pairwise.nil
  isMunch := by simp
  isBlank_iff := by
    intro i c hc
    simp [hblanks c (List.mem_of_getElem? hc)]

/-- A token and the blanks before it may be put in front of a text that is covered. -/
theorem Covers.cons (h : Covers tokens (offset + blanks.length + run.length) t)
    (hblanks : ∀ c ∈ blanks, Text.isBlank c = true) (hrun : kind.IsRun run) (hstops : kind.Stops t) :
    Covers (⟨kind, run, offset + blanks.length⟩ :: tokens) offset (blanks ++ (run ++ t)) where
  increasing := by
    refine List.pairwise_cons.2 ⟨fun b hb => ?_, h.increasing⟩
    have hlater := (h.isMunch b hb).offset_le
    have hpos := List.length_pos_iff.2 (isMunch_run hrun hstops offset blanks).text_ne_nil
    dsimp only at hpos ⊢
    omega
  apart := List.pairwise_cons.2 ⟨fun b hb => (h.isMunch b hb).offset_le, h.apart⟩
  isMunch := by
    rw [List.forall_mem_cons]
    refine ⟨isMunch_run hrun hstops offset blanks, fun b hb => ?_⟩
    exact (h.isMunch b hb).append.append
  isBlank_iff := by
    intro i c hc
    have hlater : ∀ b ∈ tokens, offset + blanks.length + run.length ≤ b.offset := fun b hb =>
      (h.isMunch b hb).offset_le
    rw [List.forall_mem_cons]
    unfold Spans at *
    dsimp only
    rcases Nat.lt_or_ge i blanks.length with hi | hi
    · rw [List.getElem?_append_left hi] at hc
      refine iff_of_true (hblanks c (List.mem_of_getElem? hc)) ⟨by omega, fun b hb => ?_⟩
      have := hlater b hb
      omega
    · rw [List.getElem?_append_right hi] at hc
      rcases Nat.lt_or_ge (i - blanks.length) run.length with hi' | hi'
      · rw [List.getElem?_append_left hi'] at hc
        have hclass := hrun.ofChar?_eq_some (List.mem_of_getElem? hc)
        refine iff_of_false ?_ (fun hnone => hnone.1 (by omega))
        rw [isBlank_eq_false_of_ofChar? hclass]
        exact Bool.false_ne_true
      · rw [List.getElem?_append_right hi'] at hc
        have hplace : offset + blanks.length + run.length + (i - blanks.length - run.length) =
            offset + i := by omega
        rw [h.isBlank_iff _ c hc, hplace]
        exact ⟨fun hrest => ⟨by omega, hrest⟩, fun hall => hall.2⟩

theorem Lexes.exists_covers {ts : List Token} (h : Lexes offset t ts) :
    ∃ tokens, ts = tokens ++ [endAt (offset + t.length)] ∧ Covers tokens offset t := by
  induction h with
  | done hblanks => exact ⟨[], rfl, covers_blanks hblanks⟩
  | @token offset blanks run t kind ts hblanks hrun hstops _ ih =>
    obtain ⟨tokens, rfl, hcovers⟩ := ih
    refine ⟨⟨kind, run, offset + blanks.length⟩ :: tokens, ?_, hcovers.cons hblanks hrun hstops⟩
    rw [List.cons_append, List.length_append, List.length_append, Nat.add_assoc, Nat.add_assoc]

/-! ## Tokens that cover a text are those of the text -/

/-- Before the first token of a text that is covered stand blanks. -/
theorem Covers.isBlank_front {front back : Text}
    (h : Covers (token :: tokens) offset (front ++ back))
    (hoffset : token.offset = offset + front.length) : ∀ c ∈ front, Text.isBlank c = true := by
  intro c hc
  obtain ⟨i, hi, rfl⟩ := List.mem_iff_getElem.1 hc
  have hget : (front ++ back)[i]? = some front[i] := by
    rw [List.getElem?_append_left hi, List.getElem?_eq_getElem hi]
  rw [h.isBlank_iff i _ hget, List.forall_mem_cons]
  unfold Spans
  refine ⟨by omega, fun b hb => ?_⟩
  have := (List.pairwise_cons.1 h.increasing).1 b hb
  omega

/-- Behind its first token a text that is covered is covered by the others. -/
theorem Covers.tail {front : Text} (h : Covers (token :: tokens) offset (front ++ t))
    (hend : token.offset + token.text.length = offset + front.length) :
    Covers tokens (offset + front.length) t where
  increasing := (List.pairwise_cons.1 h.increasing).2
  apart := (List.pairwise_cons.1 h.apart).2
  isMunch := by
    intro b hb
    have hbehind := (List.pairwise_cons.1 h.apart).1 b hb
    exact (h.isMunch b (List.mem_cons_of_mem _ hb)).of_append (by omega)
  isBlank_iff := by
    intro i c hc
    have hget : (front ++ t)[front.length + i]? = some c := by
      rwa [List.getElem?_append_right (Nat.le_add_right _ _), Nat.add_sub_cancel_left]
    rw [h.isBlank_iff _ c hget, List.forall_mem_cons, Nat.add_assoc]
    refine ⟨fun hall => hall.2, fun hrest => ⟨?_, hrest⟩⟩
    unfold Spans
    omega

theorem Covers.lexes (h : Covers tokens offset t) :
    Lexes offset t (tokens ++ [endAt (offset + t.length)]) := by
  induction tokens generalizing offset t with
  | nil =>
    refine .done fun c hc => ?_
    obtain ⟨i, hi, rfl⟩ := List.mem_iff_getElem.1 hc
    exact (h.isBlank_iff i _ (List.getElem?_eq_getElem hi)).2 (by simp)
  | cons token tokens ih =>
    have hmunch := h.isMunch token List.mem_cons_self
    obtain ⟨front, back, rfl, hoffset, hmaximal⟩ := hmunch.slice
    have hblanks := h.isBlank_front hoffset
    have hstops : token.kind.Stops back := by
      intro c hc
      refine Bool.eq_false_iff.2 fun hcontinues => ?_
      obtain ⟨hkind, hclass⟩ := continues_iff.1 hcontinues
      exact hmaximal hkind c hc (has_iff.2 hclass)
    have hlength : offset + (front ++ token.text).length =
        offset + front.length + token.text.length := by
      rw [List.length_append, Nat.add_assoc]
    rw [← List.append_assoc] at h
    have hrest := ih (h.tail (by rw [hlength, hoffset]))
    rw [hlength] at hrest
    have hlexes := Lexes.token hblanks hmunch.isRun hstops hrest
    rw [← hoffset] at hlexes
    rw [List.length_append, List.length_append, ← Nat.add_assoc, ← Nat.add_assoc, ← hoffset]
    exact hlexes

/-- The tokens of a text are those that cover it, with the mark of the end behind them. -/
theorem lexes_iff_covers {ts : List Token} :
    Lexes offset t ts ↔ ∃ tokens, ts = tokens ++ [endAt (offset + t.length)] ∧ Covers tokens offset t := by
  refine ⟨Lexes.exists_covers, ?_⟩
  rintro ⟨tokens, rfl, hcovers⟩
  exact hcovers.lexes

/-- Each token of a text begins before the next, and the mark of the end comes last. -/
theorem Lexes.increasing {ts : List Token} (h : Lexes offset t ts) :
    ts.Pairwise fun a b => a.offset < b.offset := by
  obtain ⟨tokens, rfl, hcovers⟩ := lexes_iff_covers.1 h
  refine List.pairwise_append.2 ⟨hcovers.increasing, List.pairwise_singleton _ _, ?_⟩
  intro a ha b hb
  obtain rfl := List.mem_singleton.1 hb
  have hend := (hcovers.isMunch a ha).end_le
  have hpos := List.length_pos_iff.2 (hcovers.isMunch a ha).text_ne_nil
  unfold endAt
  dsimp only
  omega

/-- Only the last token of a text marks the end. -/
theorem Lexes.kind_ne_of_append {before after : List Token}
    (h : Lexes offset t (before ++ token :: after)) : ∀ b ∈ before, b.kind ≠ .endOfInput := by
  obtain ⟨tokens, hts, hcovers⟩ := lexes_iff_covers.1 h
  have hfront := congrArg List.dropLast hts
  rw [List.dropLast_append_of_ne_nil (List.cons_ne_nil token after), List.dropLast_concat] at hfront
  intro b hb
  exact (hcovers.isMunch b (hfront ▸ List.mem_append_left _ hb)).kind_ne

/-- **Tokens take up all of a text but its blanks, each as much as it can.** A text has tokens just if,
without the blanks at its ends, each of its characters is a blank or of the class of some kind;
otherwise the first that is not is reported with its place. The tokens are those that stand in it where
they say, one behind the other, each made of characters of its kind and followed by no such character,
so that what is left over are its blanks; behind them, at the end, comes the mark of the end. -/
theorem tokenize_munch (input : Text) :
    ((∃ ts, tokenize input = .ok ts) ↔ ∀ c ∈ Text.trim input, IsKnown c) ∧
    (∀ stray, tokenize input = .error stray ↔
      ∃ front back, Text.trim input = front ++ stray.char :: back ∧ stray.offset = front.length ∧
        (∀ c ∈ front, IsKnown c) ∧ ¬ IsKnown stray.char) ∧
    ∀ ts, tokenize input = .ok ts ↔
      ∃ tokens, ts = tokens ++ [endAt (Text.trim input).length] ∧
        Covers tokens 0 (Text.trim input) := by
  unfold tokenize
  refine ⟨exists_scan_eq_ok_iff, fun stray => ?_, fun ts => ?_⟩
  · rw [scan_eq_error_iff]
    simp only [Nat.zero_add]
  · rw [scan_eq_ok_iff, lexes_iff_covers, Nat.zero_add]

end DateTemplate.Token
