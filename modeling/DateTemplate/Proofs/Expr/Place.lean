import DateTemplate.Proofs.Expr.Lexes

set_option autoImplicit false

/-!
# The place of a token

A token stands in its text at its offset, whatever blanks and other tokens are before it, and the mark
of the end stands at the end. Main statements: `Lexes.standsIn_of_mem`, each token of a text stands
where it says; `standsAt_of_scan_eq_error`, so does a character that begins no token;
`Lexes.endsMarked`, the last of the tokens marks the end.
-/

namespace DateTemplate

/-! ## Places in a text -/

/-- A part stands at a place of a text: so many characters are before it. The empty part stands
nowhere but at the end. -/
def Text.StandsAt (t part : Text) (place : Nat) : Prop :=
  ∃ front back, t = front ++ (part ++ back) ∧ place = front.length ∧ (part = [] → back = [])

namespace Text.StandsAt

variable {t part : Text} {place : Nat}

/-- A text put in front moves every place by its length. -/
theorem append (front : Text) (h : StandsAt t part place) :
    StandsAt (front ++ t) part (front.length + place) := by
  obtain ⟨before, back, rfl, rfl, hend⟩ := h
  refine ⟨front ++ before, back, ?_, ?_, hend⟩
  · rw [List.append_assoc]
  · rw [List.length_append]

theorem eq_length (h : StandsAt t [] place) : place = t.length := by
  obtain ⟨front, back, rfl, rfl, hend⟩ := h
  rw [hend rfl, List.append_nil, List.append_nil]

end Text.StandsAt

theorem Text.standsAt_front {part : Text} (hpart : part ≠ []) (back : Text) :
    StandsAt (part ++ back) part 0 :=
  ⟨[], back, rfl, rfl, fun hnil => absurd hnil hpart⟩

theorem Text.standsAt_end (t : Text) : StandsAt t [] t.length :=
  ⟨t, [], by rw [List.append_nil, List.append_nil], rfl, fun _ => rfl⟩

namespace Token

open TokenKind

/-! ## The tokens of a text -/

/-- Tokens that end with the mark of the end. -/
def EndsMarked (ts : List Token) : Prop := ∃ t ∈ ts.getLast?, t.kind = .endOfInput

theorem endsMarked_singleton (offset : Nat) : EndsMarked [endAt offset] := ⟨_, rfl, rfl⟩

theorem EndsMarked.cons {ts : List Token} (h : EndsMarked ts) (t : Token) : EndsMarked (t :: ts) := by
  cases ts with
  | nil =>
    obtain ⟨_, hlast, -⟩ := h
    cases hlast
  | cons t' ts => exact h

/-- Behind a token other than the mark there are more tokens. -/
theorem EndsMarked.tail {t : Token} {ts : List Token} (h : EndsMarked (t :: ts))
    (ht : t.kind ≠ .endOfInput) : EndsMarked ts := by
  cases ts with
  | nil =>
    obtain ⟨_, hlast, hkind⟩ := h
    cases hlast
    exact absurd hkind ht
  | cons t' ts => exact h

theorem EndsMarked.exists_cons {ts : List Token} (h : EndsMarked ts) : ∃ t rest, ts = t :: rest := by
  cases ts with
  | nil =>
    obtain ⟨_, hlast, -⟩ := h
    cases hlast
  | cons t rest => exact ⟨t, rest, rfl⟩

theorem Lexes.endsMarked {offset : Nat} {t : Text} {ts : List Token} (h : Lexes offset t ts) :
    EndsMarked ts := by
  induction h with
  | done hblanks => exact endsMarked_singleton _
  | token hblanks hrun hstops _ ih => exact ih.cons _

/-- Where a token stands in a text that begins at an offset, and that it is empty just if it marks the
end. -/
structure StandsIn (token : Token) (offset : Nat) (t : Text) : Prop where
  standsAt : ∃ place, token.offset = offset + place ∧ Text.StandsAt t token.text place
  isEmpty_iff : token.text = [] ↔ token.kind = .endOfInput

theorem StandsIn.append {token : Token} {offset : Nat} {t front : Text}
    (h : StandsIn token (offset + front.length) t) : StandsIn token offset (front ++ t) := by
  obtain ⟨⟨place, hoffset, hstands⟩, hempty⟩ := h
  refine ⟨⟨front.length + place, ?_, hstands.append front⟩, hempty⟩
  rw [hoffset, Nat.add_assoc]

theorem standsIn_endAt (offset : Nat) (t : Text) :
    StandsIn (endAt (offset + t.length)) offset t :=
  ⟨⟨t.length, rfl, Text.standsAt_end t⟩, iff_of_true rfl rfl⟩

theorem standsIn_run {kind : TokenKind} {run : Text} (hrun : kind.IsRun run) (offset : Nat)
    (t : Text) : StandsIn ⟨kind, run, offset⟩ offset (run ++ t) := by
  obtain ⟨c, rest, rfl, hc, -⟩ := hrun
  refine ⟨⟨0, rfl, Text.standsAt_front (List.cons_ne_nil c rest) t⟩, ?_⟩
  exact iff_of_false (List.cons_ne_nil c rest) (ne_endOfInput_of_ofChar? hc)

/-- **Each token stands where it says.** -/
theorem Lexes.standsIn_of_mem {offset : Nat} {t : Text} {ts : List Token} (h : Lexes offset t ts) :
    ∀ token ∈ ts, StandsIn token offset t := by
  induction h with
  | @done offset blanks hblanks =>
    intro token hmem
    obtain rfl := List.mem_singleton.1 hmem
    exact standsIn_endAt offset blanks
  | @token offset blanks run t kind ts hblanks hrun hstops _ ih =>
    intro token hmem
    rcases List.mem_cons.1 hmem with rfl | hmem
    · exact (standsIn_run hrun _ t).append
    · exact (ih token hmem).append.append

/-- A character that begins no token stands where the error says. -/
theorem standsAt_of_scan_eq_error {offset : Nat} {t : Text} {stray : StrayChar}
    (h : scan offset t = .error stray) :
    ∃ place, stray.offset = offset + place ∧ Text.StandsAt t [stray.char] place := by
  obtain ⟨front, back, ht, hoffset, -, -⟩ := scan_eq_error_iff.1 h
  exact ⟨front.length, hoffset, front, back, ht, rfl, fun hnil => absurd hnil (List.cons_ne_nil _ _)⟩

end Token

end DateTemplate
