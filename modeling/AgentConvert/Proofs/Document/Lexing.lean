import AgentConvert.Document.Lexer
import AgentConvert.Proofs.Document.Grammar

/-!
# What the lexer makes of spelled tokens

The lexer takes the text of a token whole when what follows cannot be a part of it (`Ends`), and
skips blanks between tokens. `lexFrom_blank` and `lexFrom_token` are its two steps; the lemmas after
them are these steps for each kind of token:

* `readToken_mark`, `readToken_ident`, `readToken_quote`, `readToken_number`: the token at the head
  of a text that starts with its spelling;
* `takeNumber_append`: the number grammar is what the lexer takes as a number.
-/

namespace AgentConvert

/-! ## Steps -/

theorem lexFrom_eq (line : UInt32) (cs : List Char) :
    lexFrom line cs =
      match skipSeparators line cs with
      | .error e => .error e
      | .ok (l, []) => .ok [⟨l, .endOfText⟩]
      | .ok (l, c :: rest) =>
        match readToken c rest with
        | .error fault => .error (.lex l fault)
        | .ok (t, after) => (lexFrom l after).map (⟨l, t⟩ :: ·) := by
  rw [lexFrom]
  split
  · rename_i h; simp only [h]
  · rename_i h; simp only [h]
  · rename_i h
    simp only [h]
    split <;> rename_i ht <;> simp only [ht]

theorem lexFrom_nil (line : UInt32) : lexFrom line [] = .ok [⟨line, .endOfText⟩] := by
  rw [lexFrom_eq, skipSeparators]

/-- Whether `c` starts neither a separator nor a comment. -/
def startsToken (c : Char) : Bool := !Text.isBlank c && c != '/'

theorem skipSeparators_blank {c : Char} (h : Text.isBlank c = true) (line : UInt32) (cs : List Char) :
    skipSeparators line (c :: cs) = skipSeparators (if c == '\n' then line + 1 else line) cs := by
  have hc : c ≠ '/' := by rintro rfl; revert h; decide
  rw [skipSeparators.eq_def]
  simp [hc, h]

theorem skipSeparators_token {c : Char} (h : startsToken c = true) (line : UInt32) (cs : List Char) :
    skipSeparators line (c :: cs) = .ok (line, c :: cs) := by
  simp only [startsToken, Bool.and_eq_true, Bool.not_eq_eq_eq_not, Bool.not_true, bne_iff_ne,
    ne_eq] at h
  rw [skipSeparators.eq_def]
  simp [h.1, h.2]

/-- A blank is skipped. -/
theorem lexFrom_blank {c : Char} (h : Text.isBlank c = true) (line : UInt32) (cs : List Char) :
    lexFrom line (c :: cs) = lexFrom (if c == '\n' then line + 1 else line) cs := by
  rw [lexFrom_eq, skipSeparators_blank h, ← lexFrom_eq]

/-- The token at the head of a text is taken. -/
theorem lexFrom_token {c : Char} {rest after : List Char} {t : Token} (hc : startsToken c = true)
    (h : readToken c rest = .ok (t, after)) (line : UInt32) :
    lexFrom line (c :: rest) = (lexFrom line after).map (⟨line, t⟩ :: ·) := by
  rw [lexFrom_eq, skipSeparators_token hc]
  simp only [h]

/-! ## What follows a token -/

/-- Whether a text does not go on with the identifier or the number before it. -/
def Ends (rest : List Char) : Prop := ∀ c ∈ rest.head?, isIdentContinue c = false ∧ c ≠ '.'

theorem ends_nil : Ends [] := by simp [Ends]

theorem ends_cons {c : Char} (h : (isIdentContinue c || c == '.') = false) (rest : List Char) :
    Ends (c :: rest) := by
  simp only [Bool.or_eq_false_iff, beq_eq_false_iff_ne] at h
  rintro d ⟨⟩
  exact h

theorem takeWhile_append {α : Type} {p : α → Bool} {xs rest : List α}
    (hx : ∀ x ∈ xs, p x = true) (hr : ∀ x ∈ rest.head?, p x = false) :
    (xs ++ rest).takeWhile p = xs := by
  rw [List.takeWhile_append_of_pos hx]
  cases rest with
  | nil => simp
  | cons x rest => simp [hr x rfl]

theorem dropWhile_append {α : Type} {p : α → Bool} {xs rest : List α}
    (hx : ∀ x ∈ xs, p x = true) (hr : ∀ x ∈ rest.head?, p x = false) :
    (xs ++ rest).dropWhile p = rest := by
  rw [List.dropWhile_append_of_pos hx]
  cases rest with
  | nil => rfl
  | cons x rest => simp [hr x rfl]

/-! ## Characters -/

theorem isIdentContinue_of_isDigit {c : Char} (h : c.isDigit = true) :
    isIdentContinue c = true := by
  simp [isIdentContinue, Char.isAlphanum, h]

theorem isIdentContinue_of_isIdentStart {c : Char} (h : isIdentStart c = true) :
    isIdentContinue c = true := by
  simp only [isIdentStart, Bool.or_eq_true] at h
  simp only [isIdentContinue, Char.isAlphanum, Bool.or_eq_true]
  exact h.imp .inl id

theorem isDigit_of_isIdentContinue {c : Char} (h : isIdentContinue c = false) :
    c.isDigit = false := by
  cases hd : c.isDigit with
  | false => rfl
  | true => rw [isIdentContinue_of_isDigit hd] at h; exact h

theorem isAlpha_iff {c : Char} : c.isAlpha = true ↔
    65 ≤ c.toNat ∧ c.toNat ≤ 90 ∨ 97 ≤ c.toNat ∧ c.toNat ≤ 122 := by
  delta Char.isAlpha Char.isUpper Char.isLower
  simp only [Bool.or_eq_true, Bool.and_eq_true, decide_eq_true_eq, UInt32.le_iff_toNat_le, ge_iff_le]
  exact .rfl

theorem isDigit_iff {c : Char} : c.isDigit = true ↔ 48 ≤ c.toNat ∧ c.toNat ≤ 57 := by
  delta Char.isDigit
  simp only [Bool.and_eq_true, decide_eq_true_eq, UInt32.le_iff_toNat_le, ge_iff_le]
  exact .rfl

theorem isDigit_of_isIdentStart {c : Char} (h : isIdentStart c = true) : c.isDigit = false := by
  rw [isIdentStart, Bool.or_eq_true, isAlpha_iff, beq_iff_eq] at h
  rcases h with h | rfl
  · rw [Bool.eq_false_iff, Ne, isDigit_iff]
    omega
  · decide

/-- No character of an identifier is blank. -/
theorem isBlank_of_isIdentContinue {c : Char} (h : isIdentContinue c = true) :
    Text.isBlank c = false := by
  rw [isIdentContinue, Char.isAlphanum, Bool.or_eq_true, Bool.or_eq_true, isAlpha_iff, isDigit_iff,
    beq_iff_eq] at h
  rcases h with h | rfl
  · simp only [Text.isBlank, Text.inRanges, Text.blankRanges, List.any_cons, List.any_nil,
      Bool.or_false, Bool.or_eq_false_iff, Bool.and_eq_false_iff, decide_eq_false_iff_not,
      Nat.not_le]
    omega
  · decide

theorem startsToken_of_isIdentContinue {c : Char} (h : isIdentContinue c = true) :
    startsToken c = true := by
  have hc : c ≠ '/' := by rintro rfl; exact absurd h (by decide)
  simp [startsToken, isBlank_of_isIdentContinue h, hc]

/-- A digit is no other character of a number. -/
theorem digit_ne {d : Char} (h : d.isDigit = true) :
    d ≠ '+' ∧ d ≠ '-' ∧ d ≠ '.' ∧ d ≠ '"' := by
  refine ⟨?_, ?_, ?_, ?_⟩ <;> (rintro rfl; exact absurd h (by decide))

/-! ## Marks, identifiers and strings -/

/-- The characters that are tokens by themselves. -/
def marks : List Char := ['{', '}', '[', ']', '(', ')', ',', '.', '=']

theorem mem_marks {c : Char} {t : Token} (h : punctuation? c = some t) : c ∈ marks := by
  unfold punctuation? at h
  split at h <;> first | decide | exact absurd h (by simp)

theorem startsToken_of_punctuation? {c : Char} {t : Token} (h : punctuation? c = some t) :
    startsToken c = true := by
  have hall : marks.all startsToken = true := by decide
  exact List.all_eq_true.1 hall c (mem_marks h)

theorem readToken_mark {c : Char} {t : Token} (h : punctuation? c = some t) (rest : List Char) :
    readToken c rest = .ok (t, rest) := by
  have hc := mem_marks h
  have hn : (c == '"') = false ∧ startsNumber c rest = false ∧ isIdentStart c = false := by
    simp only [marks, List.mem_cons, List.not_mem_nil, or_false] at hc
    rcases hc with rfl | rfl | rfl | rfl | rfl | rfl | rfl | rfl | rfl <;> exact ⟨rfl, rfl, rfl⟩
  simp [readToken, hn, h]

theorem readToken_ident {c : Char} {word rest : List Char}
    (h : isIdentifierChars (c :: word) = true) (hr : ∀ x ∈ rest.head?, isIdentContinue x = false) :
    readToken c (word ++ rest) = .ok (.ident (String.ofList (c :: word)), rest) := by
  simp only [isIdentifierChars, Bool.and_eq_true, List.all_eq_true] at h
  have hq : c ≠ '"' := by rintro rfl; exact absurd h.1 (by decide)
  have hm : c ≠ '-' := by rintro rfl; exact absurd h.1 (by decide)
  simp [readToken, startsNumber, hq, hm, isDigit_of_isIdentStart h.1, h.1,
    takeWhile_append h.2 hr, dropWhile_append h.2 hr]

/-- A character of a string is read back from its spelling. -/
theorem readString_escapeChar (c : Char) (rest : List Char) :
    readString (escapeChar c ++ rest) = (readString rest).map fun r => (c :: r.1, r.2) := by
  unfold escapeChar
  split
  iterate 5 rfl
  rw [List.singleton_append, readString.eq_def]
  split <;> simp_all

theorem readString_quote (cs rest : List Char) :
    readString (cs.flatMap escapeChar ++ '"' :: rest) = .ok (cs, rest) := by
  induction cs with
  | nil => rfl
  | cons c cs ih =>
    rw [List.flatMap_cons, List.append_assoc, readString_escapeChar, ih]
    rfl

theorem readToken_quote (cs rest : List Char) :
    readToken '"' (cs.flatMap escapeChar ++ '"' :: rest) = .ok (.str (String.ofList cs), rest) := by
  simp [readToken, readString_quote, Except.map]

/-! ## Numbers -/

theorem AreDigits.exists_cons {ds : List Char} (h : AreDigits ds) :
    ∃ d rest, ds = d :: rest ∧ d.isDigit = true := by
  cases ds with
  | nil => exact absurd rfl h.1
  | cons d rest => exact ⟨d, rest, rfl, h.2 d (List.mem_cons_self ..)⟩

theorem takeExponent_append {exponent rest : List Char} (he : IsExponent exponent)
    (hr : Ends rest) : takeExponent (exponent ++ rest) = (exponent, rest) := by
  rcases he with rfl | ⟨e, sign, ds, rfl, hE, hsign, hds⟩
  · cases rest with
    | nil => rfl
    | cons c rest =>
      have hc := (hr c rfl).1
      have h₁ : c ≠ 'e' := by rintro rfl; exact absurd hc (by decide)
      have h₂ : c ≠ 'E' := by rintro rfl; exact absurd hc (by decide)
      simp [takeExponent, h₁, h₂]
  · have hr' : ∀ x ∈ rest.head?, x.isDigit = false :=
      fun x hx => isDigit_of_isIdentContinue (hr x hx).1
    obtain ⟨d, ds', hd, hdig⟩ := hds.exists_cons
    obtain ⟨hplus, hminus, -⟩ := digit_ne hdig
    have hmark : signMark (sign ++ (ds ++ rest)) = sign := by
      rcases hsign with rfl | rfl | rfl <;> simp [signMark, hd, hplus, hminus]
    have hhead : headIsDigit (ds ++ rest) = true := by simp [headIsDigit, hd, hdig]
    simp only [List.cons_append, List.append_assoc, takeExponent, hmark, List.drop_left, hhead,
      takeWhile_append hds.2 hr', dropWhile_append hds.2 hr']
    rcases hE with rfl | rfl <;> simp

theorem takeFraction_append {fraction rest : List Char} (hf : IsFraction fraction)
    (hr : ∀ x ∈ rest.head?, x.isDigit = false ∧ x ≠ '.') :
    takeFraction (fraction ++ rest) = (fraction, rest) := by
  rcases hf with rfl | ⟨ds, rfl, hds⟩
  · rw [List.nil_append]
    unfold takeFraction
    split
    · exact absurd rfl (hr '.' rfl).2
    · rfl
  · have hr' : ∀ x ∈ rest.head?, x.isDigit = false := fun x hx => (hr x hx).1
    obtain ⟨d, ds, rfl, hd⟩ := hds.exists_cons
    have ht := takeWhile_append hds.2 hr'
    have hw := dropWhile_append hds.2 hr'
    simp only [List.cons_append] at ht hw ⊢
    simp only [takeFraction, hd, ↓reduceIte, ht, hw]

/-- What may follow digits that are whole: an exponent, or what ends a number. -/
theorem head?_exponent {exponent rest : List Char} (he : IsExponent exponent) (hr : Ends rest) :
    ∀ x ∈ (exponent ++ rest).head?, x.isDigit = false ∧ x ≠ '.' := by
  rcases he with rfl | ⟨e, sign, ds, rfl, rfl | rfl, -⟩
  · exact fun x hx => ⟨isDigit_of_isIdentContinue (hr x hx).1, (hr x hx).2⟩
  · rintro x ⟨⟩; decide
  · rintro x ⟨⟩; decide

theorem head?_fraction {fraction rest : List Char} (hf : IsFraction fraction)
    (hr : ∀ x ∈ rest.head?, x.isDigit = false) :
    ∀ x ∈ (fraction ++ rest).head?, x.isDigit = false := by
  rcases hf with rfl | ⟨ds, rfl, -⟩
  · exact hr
  · rintro x ⟨⟩; decide

/-- A number is taken whole when what follows is no part of it. -/
theorem takeNumber_append {number rest : List Char} (hn : IsNumber number) (hr : Ends rest) :
    takeNumber (number ++ rest) = (number, rest) := by
  obtain ⟨sign, whole, fraction, exponent, rfl, hsign, hwhole, hfraction, hexponent⟩ := hn
  have hexp := head?_exponent hexponent hr
  have hfrac := head?_fraction hfraction fun x hx => (hexp x hx).1
  obtain ⟨d, ds, hd, hdig⟩ := hwhole.exists_cons
  have hminus : d ≠ '-' := (digit_ne hdig).2.1
  have hmark : (if (sign ++ (whole ++ (fraction ++ (exponent ++ rest)))).head? == some '-'
      then ['-'] else []) = sign := by
    rcases hsign with rfl | rfl <;> simp [hd, hminus]
  simp only [takeNumber, List.append_assoc, hmark, List.drop_left,
    takeWhile_append hwhole.2 hfrac, dropWhile_append hwhole.2 hfrac,
    takeFraction_append hfraction hexp, takeExponent_append hexponent hr]

theorem startsNumber_of_isNumber {c : Char} {cs : List Char} (h : IsNumber (c :: cs))
    (rest : List Char) : startsNumber c (cs ++ rest) = true ∧ startsToken c = true ∧ c ≠ '"' := by
  obtain ⟨sign, whole, fraction, exponent, heq, hsign, hwhole, -⟩ := h
  obtain ⟨d, ds, rfl, hd⟩ := hwhole.exists_cons
  rcases hsign with rfl | rfl <;> obtain ⟨rfl, rfl⟩ := List.cons.inj heq
  · exact ⟨by simp [startsNumber, hd],
      startsToken_of_isIdentContinue (isIdentContinue_of_isDigit hd), (digit_ne hd).2.2.2⟩
  · exact ⟨by simp [startsNumber, headIsDigit, hd], by decide, by decide⟩

theorem readToken_number {c : Char} {cs rest : List Char} (h : IsNumber (c :: cs))
    (hr : Ends rest) :
    readToken c (cs ++ rest) = .ok (.number (String.ofList (c :: cs)), rest) := by
  obtain ⟨hstart, -, hquote⟩ := startsNumber_of_isNumber h rest
  have htake := takeNumber_append h hr
  rw [List.cons_append] at htake
  simp [readToken, hquote, hstart, htake]

end AgentConvert
