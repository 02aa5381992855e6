import DateTemplate.Json
import DateTemplate.Proofs.Text.Digits
import DateTemplate.Toml.Quoted

set_option autoImplicit false

/-!
# JSON text is read back

A reader of JSON text: blanks may stand between its parts, and a text between quotes has escapes.
Main statement: `Json.read?_text`, what is written for a value is read as that value. So JSON text
says of each member what it is, and no two values have the same text.
-/

namespace DateTemplate.Json

/-! ## Reading -/

/-- A character that may stand between the parts of JSON text. -/
def isSpace (c : Char) : Bool := c == ' ' || c == '\n' || c == '\r' || c == '\t'

/-- The text behind the blanks at its front. -/
def skip (t : Text) : Text := t.dropWhile isSpace

/-- The character that the text behind a backslash stands for. Half of a surrogate pair stands for
none. -/
def escape? : Text → Option (Char × Text)
  | '"' :: t => some ('"', t)
  | '\\' :: t => some ('\\', t)
  | '/' :: t => some ('/', t)
  | 'b' :: t => some ('\x08', t)
  | 'f' :: t => some ('\x0c', t)
  | 'n' :: t => some ('\n', t)
  | 'r' :: t => some ('\r', t)
  | 't' :: t => some ('\t', t)
  | 'u' :: t => Toml.codeEscape? 4 t
  | _ => none

/-- A text up to its quote. The first argument bounds the number of characters. -/
def string? : Nat → Text → Option (Text × Text)
  | 0, _ => none
  | _ + 1, [] => none
  | _ + 1, '"' :: t => some ([], t)
  | fuel + 1, '\\' :: t => do
    let (c, t) ← escape? t
    let (s, t) ← string? fuel t
    return (c :: s, t)
  | fuel + 1, c :: t => do
    if c.toNat < 32 then none
    let (s, t) ← string? fuel t
    return (c :: s, t)

mutual

/-- A value. The first argument bounds the number of characters. -/
def value? : Nat → Text → Option (Json × Text)
  | 0, _ => none
  | fuel + 1, t =>
    match t with
    | '"' :: t => (string? fuel t).map fun (s, t) => (string s, t)
    | '[' :: t =>
      match skip t with
      | ']' :: t => some (array [], t)
      | t => do
        let (item, t) ← value? fuel t
        let (items, t) ← items? fuel t
        return (array (item :: items), t)
    | '{' :: t =>
      match skip t with
      | '}' :: t => some (object [], t)
      | t => do
        let (m, t) ← member? fuel t
        let (members, t) ← members? fuel t
        return (object (m :: members), t)
    | t =>
      let ds := t.takeWhile Char.isDigit
      if ds.isEmpty then none else some (number (Decimal.ofDigits ds), t.dropWhile Char.isDigit)

/-- The items behind one, up to the bracket. -/
def items? : Nat → Text → Option (List Json × Text)
  | 0, _ => none
  | fuel + 1, t =>
    match skip t with
    | ']' :: t => some ([], t)
    | ',' :: t => do
      let (item, t) ← value? fuel (skip t)
      let (items, t) ← items? fuel t
      return (item :: items, t)
    | _ => none

/-- A member: its name, a colon and its value. -/
def member? : Nat → Text → Option ((Text × Json) × Text)
  | 0, _ => none
  | fuel + 1, t =>
    match t with
    | '"' :: t => do
      let (name, t) ← string? fuel t
      match skip t with
      | ':' :: t =>
        let (value, t) ← value? fuel (skip t)
        return ((name, value), t)
      | _ => none
    | _ => none

/-- The members behind one, up to the brace. -/
def members? : Nat → Text → Option (List (Text × Json) × Text)
  | 0, _ => none
  | fuel + 1, t =>
    match skip t with
    | '}' :: t => some ([], t)
    | ',' :: t => do
      let (m, t) ← member? fuel (skip t)
      let (members, t) ← members? fuel t
      return (m :: members, t)
    | _ => none

end

/-- The value that a whole text is. -/
def read? (t : Text) : Option Json := do
  let (j, t) ← value? t.length (skip t)
  if (skip t).isEmpty then some j else none

/-- The value of a member; the first member of a name counts. -/
def get? (name : Text) : Json → Option Json
  | object members => members.lookup name
  | _ => none

/-! ## Texts between quotes -/

theorem codeEscape?_digits {n : Nat} (h : n < 32) (t : Text) :
    Toml.codeEscape? 4 ('0' :: '0' :: Nat.digitChar (n / 16) :: Nat.digitChar (n % 16) :: t) =
      some (Char.ofNat n, t) := by
  have hdigits : ∀ n < 32,
      (['0', '0', Nat.digitChar (n / 16), Nat.digitChar (n % 16)].all (Toml.isDigitOf 16) = true) ∧
        Toml.ofDigitsOf 16 ['0', '0', Nat.digitChar (n / 16), Nat.digitChar (n % 16)] = n := by
    decide
  obtain ⟨hall, hvalue⟩ := hdigits n h
  have hvalid : n.isValidChar := .inl (by omega)
  simp only [Toml.codeEscape?, List.take_succ_cons, List.take_zero, List.drop_succ_cons,
    List.drop_zero, hall, hvalue, Toml.charOfCode?, if_pos hvalid]
  rfl

theorem string?_backslash {c : Char} {t u : Text} (h : escape? t = some (c, u)) (fuel : Nat) :
    string? (fuel + 1) ('\\' :: t) = (string? fuel u).map fun (s, t) => (c :: s, t) := by
  cases hstring : string? fuel u <;> simp [string?, h, hstring]

theorem string?_plain {c : Char} (hquote : c ≠ '"') (hslash : c ≠ '\\') (hcontrol : ¬ c.toNat < 32)
    (fuel : Nat) (t : Text) :
    string? (fuel + 1) (c :: t) = (string? fuel t).map fun (s, t) => (c :: s, t) := by
  rw [string?, if_neg hcontrol]
  · cases string? fuel t <;> rfl
  · exact hquote
  · exact hslash

/-- An escaped character is read back. -/
theorem string?_escapedChar (c : Char) (fuel : Nat) (t : Text) :
    string? (fuel + 1) (escapedChar c ++ t) = (string? fuel t).map fun (s, t) => (c :: s, t) := by
  unfold escapedChar
  split
  · exact string?_backslash rfl fuel
  · exact string?_backslash rfl fuel
  · exact string?_backslash rfl fuel
  · exact string?_backslash rfl fuel
  · exact string?_backslash rfl fuel
  · exact string?_backslash rfl fuel
  · exact string?_backslash rfl fuel
  · next hquote hslash _ _ _ _ _ =>
    split
    · next hcontrol =>
      have hdigits := codeEscape?_digits hcontrol t
      rw [Char.ofNat_toNat] at hdigits
      have hescape : escape? ('u' :: '0' :: '0' :: Nat.digitChar (c.toNat / 16) ::
          Nat.digitChar (c.toNat % 16) :: t) = some (c, t) := hdigits
      exact string?_backslash hescape fuel
    · next hcontrol => exact string?_plain hquote hslash hcontrol fuel t

theorem escapedChar_ne_nil (c : Char) : escapedChar c ≠ [] := by
  unfold escapedChar
  split <;> (try split) <;> exact List.cons_ne_nil _ _

theorem length_lt_length_quoted (s : Text) : s.length < (quoted s).length := by
  have hflat : s.length ≤ (s.flatMap escapedChar).length := by
    induction s with
    | nil => exact Nat.le_refl _
    | cons c s ih =>
      have hpos := List.length_pos_iff.2 (escapedChar_ne_nil c)
      simp only [List.flatMap_cons, List.length_append, List.length_cons]
      omega
  simp only [quoted, List.length_append, List.length_cons]
  omega

/-- A text is read back from between its quotes. -/
theorem string?_flatMap {s : Text} {fuel : Nat} (h : (s.flatMap escapedChar).length < fuel)
    (t : Text) : string? fuel (s.flatMap escapedChar ++ '"' :: t) = some (s, t) := by
  induction s generalizing fuel with
  | nil =>
    cases fuel with
    | zero => cases h
    | succ fuel => rfl
  | cons c s ih =>
    rw [List.flatMap_cons, List.length_append] at h
    have hpos := List.length_pos_iff.2 (escapedChar_ne_nil c)
    cases fuel with
    | zero => cases h
    | succ fuel =>
      rw [List.flatMap_cons, List.append_assoc, string?_escapedChar, ih (by omega)]
      rfl

/-! ## Values -/

/-- Nothing is skipped of what does not begin with a blank. -/
theorem skip_of_not_isSpace {t : Text} (h : ∀ c ∈ t.head?, isSpace c = false) : skip t = t :=
  (Text.takeWhile_append_of_stops (List.forall_mem_nil _) h).2

theorem skip_newLine_append (level : Nat) {t : Text} (h : ∀ c ∈ t.head?, isSpace c = false) :
    skip (newLine level ++ t) = t := by
  refine (Text.takeWhile_append_of_stops (fun c hc => ?_) h).2
  rcases List.mem_cons.1 hc with rfl | hc
  · rfl
  · rw [List.eq_of_mem_replicate hc]
    rfl

theorem isSpace_eq_false_of_isDigit {c : Char} (h : c.isDigit = true) : isSpace c = false := by
  cases hspace : isSpace c with
  | false => rfl
  | true =>
    simp only [isSpace, Bool.or_eq_true, beq_iff_eq] at hspace
    rcases hspace with ((rfl | rfl) | rfl) | rfl <;> cases h

/-- What the text of a value begins with. -/
theorem exists_text_eq_cons (j : Json) (level : Nat) :
    ∃ c t, j.text level = c :: t ∧ isSpace c = false ∧ c ≠ ']' := by
  cases j with
  | string s => exact ⟨_, _, rfl, rfl, by decide⟩
  | number n =>
    obtain ⟨c, t, hdigits⟩ := List.exists_cons_of_ne_nil (Decimal.digits_ne_nil n)
    have hdigit : c.isDigit = true := Decimal.isDigit_of_mem_digits (hdigits ▸ List.mem_cons_self)
    refine ⟨c, t, hdigits, isSpace_eq_false_of_isDigit hdigit, ?_⟩
    rintro rfl
    cases hdigit
  | array items => cases items <;> exact ⟨_, _, rfl, rfl, by decide⟩
  | object members => cases members <;> exact ⟨_, _, rfl, rfl, by decide⟩

/-- A value begins with no blank. -/
theorem isSpace_head?_text (j : Json) (level : Nat) (t : Text) :
    ∀ c ∈ (j.text level ++ t).head?, isSpace c = false := by
  obtain ⟨c, u, htext, hspace, -⟩ := j.exists_text_eq_cons level
  rw [htext]
  rintro d ⟨⟩
  exact hspace

theorem isDigit_head?_itemsText (level level' : Nat) (items : List Json) (t : Text) :
    ∀ c ∈ (itemsText level items ++ (newLine level' ++ t)).head?, c.isDigit = false := by
  cases items <;> rintro c ⟨⟩ <;> rfl

theorem isDigit_head?_membersText (level level' : Nat) (members : List (Text × Json)) (t : Text) :
    ∀ c ∈ (membersText level members ++ (newLine level' ++ t)).head?, c.isDigit = false := by
  cases members <;> rintro c ⟨⟩ <;> rfl

theorem value?_number (n fuel : Nat) {t : Text} (h : ∀ c ∈ t.head?, c.isDigit = false) :
    value? (fuel + 1) (Decimal.digits n ++ t) = some (number n, t) := by
  have hdigits : ∀ c ∈ Decimal.digits n, c.isDigit = true := fun c =>
    Decimal.isDigit_of_mem_digits
  obtain ⟨htake, hdrop⟩ := Text.takeWhile_append_of_stops hdigits h
  obtain ⟨c, ds, hcons⟩ := List.exists_cons_of_ne_nil (Decimal.digits_ne_nil n)
  have hdigit := hdigits c (hcons ▸ List.mem_cons_self)
  have hempty : (Decimal.digits n).isEmpty = false := by rw [hcons]; rfl
  have hvalue : value? (fuel + 1) (Decimal.digits n ++ t) =
      let ds := (Decimal.digits n ++ t).takeWhile Char.isDigit
      if ds.isEmpty then none
      else some (number (Decimal.ofDigits ds), (Decimal.digits n ++ t).dropWhile Char.isDigit) := by
    rw [hcons, List.cons_append, value?]
    · rintro _ ⟨⟩
      cases hdigit
    · rintro _ ⟨⟩
      cases hdigit
    · rintro _ ⟨⟩
      cases hdigit
  rw [hvalue, htake, hdrop]
  simp [hempty]

section Steps

variable {fuel : Nat} {t u v w x : Text} {c : Char} {item value : Json} {items : List Json}
  {name : Text} {m : Text × Json} {members : List (Text × Json)}

theorem value?_array (hskip : skip t = c :: u) (hc : c ≠ ']')
    (hitem : value? fuel (c :: u) = some (item, v)) (hitems : items? fuel v = some (items, w)) :
    value? (fuel + 1) ('[' :: t) = some (array (item :: items), w) := by
  rw [value?, hskip]
  simp [hc, hitem, hitems]

theorem value?_object (hskip : skip t = '"' :: u)
    (hmember : member? fuel ('"' :: u) = some (m, v))
    (hmembers : members? fuel v = some (members, w)) :
    value? (fuel + 1) ('{' :: t) = some (object (m :: members), w) := by
  rw [value?, hskip]
  simp [hmember, hmembers]

theorem items?_nil (hskip : skip t = ']' :: u) : items? (fuel + 1) t = some ([], u) := by
  rw [items?, hskip]
  rfl

theorem items?_cons (hskip : skip t = ',' :: u) (hnext : skip u = v)
    (hitem : value? fuel v = some (item, w)) (hitems : items? fuel w = some (items, x)) :
    items? (fuel + 1) t = some (item :: items, x) := by
  rw [items?, hskip]
  simp [hnext, hitem, hitems]

theorem members?_nil (hskip : skip t = '}' :: u) : members? (fuel + 1) t = some ([], u) := by
  rw [members?, hskip]
  rfl

theorem members?_cons (hskip : skip t = ',' :: u) (hnext : skip u = v)
    (hmember : member? fuel v = some (m, w)) (hmembers : members? fuel w = some (members, x)) :
    members? (fuel + 1) t = some (m :: members, x) := by
  rw [members?, hskip]
  simp [hnext, hmember, hmembers]

theorem member?_text {level : Nat} (hname : (name.flatMap escapedChar).length < fuel)
    (hvalue : value? fuel (value.text level ++ t) = some (value, t)) :
    member? (fuel + 1) (quoted name ++ ':' :: ' ' :: (value.text level ++ t)) =
      some ((name, value), t) := by
  have hstring := string?_flatMap hname (':' :: ' ' :: (value.text level ++ t))
  have hskip : skip (' ' :: (value.text level ++ t)) = value.text level ++ t :=
    skip_of_not_isSpace (isSpace_head?_text value level t)
  have hcolon : skip (':' :: ' ' :: (value.text level ++ t)) =
      ':' :: ' ' :: (value.text level ++ t) := rfl
  simp [quoted, member?, hstring, hcolon, hskip, hvalue]

end Steps

/-! ## Reading undoes writing -/

theorem exists_eq_add_one_of_text {j : Json} {level fuel : Nat}
    (h : (j.text level).length ≤ fuel) : ∃ n, fuel = n + 1 := by
  obtain ⟨c, u, htext, -⟩ := j.exists_text_eq_cons level
  rw [htext, List.length_cons] at h
  exact Nat.exists_eq_add_one.2 (by omega)

mutual

theorem value?_text (j : Json) (level : Nat) {fuel : Nat} {t : Text}
    (hfuel : (j.text level).length ≤ fuel) (ht : ∀ c ∈ t.head?, c.isDigit = false) :
    value? fuel (j.text level ++ t) = some (j, t) := by
  obtain ⟨fuel, rfl⟩ := exists_eq_add_one_of_text hfuel
  cases j with
  | string s =>
    simp only [text, quoted, List.cons_append, List.nil_append, List.append_assoc,
      List.length_cons, List.length_append] at hfuel ⊢
    have hstring : string? fuel (s.flatMap escapedChar ++ '"' :: t) = some (s, t) :=
      string?_flatMap (by omega) t
    simp [value?, hstring]
  | number n => exact value?_number n fuel ht
  | array items =>
    cases items with
    | nil => rfl
    | cons item items =>
      simp only [text, List.cons_append, List.nil_append, List.append_assoc, List.length_cons,
        List.length_append, List.length_nil] at hfuel ⊢
      have hfirst : (item.text (level + 1)).length ≤ fuel := by omega
      have hmore : (itemsText (level + 1) items).length < fuel := by omega
      obtain ⟨c, u, htext, -, hc⟩ := item.exists_text_eq_cons (level + 1)
      have hskip := skip_newLine_append (level + 1) (isSpace_head?_text item (level + 1)
        (itemsText (level + 1) items ++ (newLine level ++ ']' :: t)))
      have hitem := value?_text item (level + 1) hfirst
        (isDigit_head?_itemsText (level + 1) level items (']' :: t))
      rw [htext] at hskip hitem
      rw [htext]
      exact value?_array hskip hc hitem (items?_text items (level + 1) level t hmore)
  | object members =>
    cases members with
    | nil => rfl
    | cons m members =>
      obtain ⟨name, value⟩ := m
      simp only [text, quoted, List.cons_append, List.nil_append, List.append_assoc,
        List.length_cons, List.length_append, List.length_nil] at hfuel ⊢
      obtain ⟨fuel, rfl⟩ : ∃ n, fuel = n + 1 := Nat.exists_eq_add_one.2 (by omega)
      have hname : (name.flatMap escapedChar).length < fuel := by omega
      have hfirst : (value.text (level + 1)).length ≤ fuel := by omega
      have hmore : (membersText (level + 1) members).length < fuel + 1 := by omega
      have hvalue := value?_text value (level + 1) hfirst
        (isDigit_head?_membersText (level + 1) level members ('}' :: t))
      have hmember := member?_text hname hvalue
      simp only [quoted, List.cons_append, List.nil_append, List.append_assoc] at hmember
      exact value?_object (skip_newLine_append (level + 1) (by rintro c ⟨⟩; rfl)) hmember
        (members?_text members (level + 1) level t hmore)

theorem items?_text (items : List Json) (level level' : Nat) {fuel : Nat} (t : Text)
    (hfuel : (itemsText level items).length < fuel) :
    items? fuel (itemsText level items ++ (newLine level' ++ ']' :: t)) = some (items, t) := by
  obtain ⟨fuel, rfl⟩ : ∃ n, fuel = n + 1 := Nat.exists_eq_add_one.2 (by omega)
  cases items with
  | nil => exact items?_nil (skip_newLine_append level' (by rintro c ⟨⟩; rfl))
  | cons item items =>
    simp only [itemsText, List.cons_append, List.append_assoc, List.length_cons,
      List.length_append] at hfuel ⊢
    have hfirst : (item.text level).length ≤ fuel := by omega
    have hmore : (itemsText level items).length < fuel := by omega
    have hitem := value?_text item level hfirst
      (isDigit_head?_itemsText level level' items (']' :: t))
    exact items?_cons rfl (skip_newLine_append level (isSpace_head?_text item level _)) hitem
      (items?_text items level level' t hmore)

theorem members?_text (members : List (Text × Json)) (level level' : Nat) {fuel : Nat} (t : Text)
    (hfuel : (membersText level members).length < fuel) :
    members? fuel (membersText level members ++ (newLine level' ++ '}' :: t)) =
      some (members, t) := by
  obtain ⟨fuel, rfl⟩ : ∃ n, fuel = n + 1 := Nat.exists_eq_add_one.2 (by omega)
  cases members with
  | nil => exact members?_nil (skip_newLine_append level' (by rintro c ⟨⟩; rfl))
  | cons m members =>
    obtain ⟨name, value⟩ := m
    simp only [membersText, quoted, List.cons_append, List.nil_append, List.append_assoc,
      List.length_cons, List.length_append] at hfuel ⊢
    obtain ⟨fuel, rfl⟩ : ∃ n, fuel = n + 1 := Nat.exists_eq_add_one.2 (by omega)
    have hname : (name.flatMap escapedChar).length < fuel := by omega
    have hfirst : (value.text level).length ≤ fuel := by omega
    have hmore : (membersText level members).length < fuel + 1 := by omega
    have hvalue := value?_text value level hfirst
      (isDigit_head?_membersText level level' members ('}' :: t))
    have hmember := member?_text hname hvalue
    simp only [quoted, List.cons_append, List.nil_append, List.append_assoc] at hmember
    exact members?_cons rfl (skip_newLine_append level (by rintro c ⟨⟩; rfl)) hmember
      (members?_text members level level' t hmore)

end

/-- **What is written for a value is read as that value.** Blanks behind it do not matter. -/
theorem read?_text (j : Json) {t : Text} (ht : ∀ c ∈ t, isSpace c = true) :
    read? (j.text 0 ++ t) = some j := by
  have hdigit : ∀ c ∈ t.head?, c.isDigit = false := by
    intro c hc
    have hspace := ht c (List.mem_of_mem_head? hc)
    cases hdigit : c.isDigit with
    | false => rfl
    | true =>
      rw [isSpace_eq_false_of_isDigit hdigit] at hspace
      cases hspace
  have hlength : (j.text 0).length ≤ (j.text 0 ++ t).length := by simp
  have hempty : skip (t ++ []) = [] := (Text.takeWhile_append_of_stops ht (by rintro c ⟨⟩)).2
  rw [List.append_nil] at hempty
  rw [read?, skip_of_not_isSpace (isSpace_head?_text j 0 t), value?_text j 0 hlength hdigit]
  simp [hempty]

/-- Escapes that writing does not use are read all the same. -/
example : (read? "[1, \"\\u00e9\\n\" ]".toList).map (text 0) =
    some "[\n  1,\n  \"é\\n\"\n]".toList := by decide +kernel

end DateTemplate.Json
