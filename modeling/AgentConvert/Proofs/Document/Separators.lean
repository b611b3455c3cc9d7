import AgentConvert.Proofs.Document.Returned
import Mathlib.Data.List.Infix

/-!
# Tokens between separators

The lexer makes the same tokens of a text whatever separates them. A separator is a blank, a line
comment with its line feed, or a block comment; it is skipped, and its line feeds are counted
(`skipSeparators_chars`). The spelling of a token holds no line feed (`lineFeed_not_mem_spelling`)
and is read back where it ends (`lexFrom_spelling`). So of tokens that are spelled one after the
other, with separators between them, the lexer makes these tokens, each with the line on which it
starts (`lex_separated`).
-/

namespace AgentConvert

/-! ## Separators -/

/-- What may stand between tokens: a blank, a comment up to the end of its line, or a comment
between slashes and stars. -/
inductive Separator where
  | blank (c : Char) (h : Text.isBlank c = true)
  | lineComment (text : List Char) (h : '\n' ∉ text)
  | blockComment (text : List Char) (h : ¬['*', '/'] <:+: text)

/-- The characters of a separator. -/
def Separator.chars : Separator → List Char
  | blank c _ => [c]
  | lineComment text _ => '/' :: '/' :: (text ++ ['\n'])
  | blockComment text _ => '/' :: '*' :: (text ++ ['*', '/'])

/-- The characters of separators, one after the other. -/
def gapChars (gap : List Separator) : List Char := gap.flatMap Separator.chars

@[simp] theorem gapChars_nil : gapChars [] = [] := rfl

@[simp] theorem gapChars_cons (s : Separator) (gap : List Separator) :
    gapChars (s :: gap) = s.chars ++ gapChars gap := rfl

/-- The line behind characters the first of which is on `line`. -/
def lineAfter (line : UInt32) (cs : List Char) : UInt32 := line + .ofNat (cs.count '\n')

@[simp] theorem lineAfter_nil (line : UInt32) : lineAfter line [] = line := UInt32.add_zero line

theorem lineAfter_append (line : UInt32) (as bs : List Char) :
    lineAfter line (as ++ bs) = lineAfter (lineAfter line as) bs := by
  rw [lineAfter, List.count_append, UInt32.ofNat_add, ← UInt32.add_assoc, ← lineAfter, ← lineAfter]

theorem lineAfter_cons (line : UInt32) (c : Char) (cs : List Char) :
    lineAfter line (c :: cs) = lineAfter (if c == '\n' then line + 1 else line) cs := by
  rw [← List.singleton_append, lineAfter_append]
  congr 1
  rw [lineAfter, List.count_singleton]
  cases c == '\n' with
  | false => exact UInt32.add_zero line
  | true => rfl

theorem lineAfter_of_not_mem {cs : List Char} (h : '\n' ∉ cs) (line : UInt32) :
    lineAfter line cs = line := by
  rw [lineAfter, List.count_eq_zero.2 h]
  exact UInt32.add_zero line

/-- Lines are counted without a gap while their number fits. -/
theorem toNat_lineAfter {line : UInt32} {cs : List Char}
    (h : line.toNat + cs.count '\n' < UInt32.size) :
    (lineAfter line cs).toNat = line.toNat + cs.count '\n' := by
  rw [lineAfter, UInt32.toNat_add, UInt32.toNat_ofNat_of_lt' (Nat.lt_of_le_of_lt (by omega) h)]
  exact Nat.mod_eq_of_lt h

/-- A block comment goes on up to the first star that is followed by a slash. -/
theorem skipComment_append {text : List Char} (h : ¬['*', '/'] <:+: text) (line : UInt32)
    (rest : List Char) :
    skipComment line (text ++ '*' :: '/' :: rest) = .ok (lineAfter line text, rest) := by
  induction text generalizing line with
  | nil => rw [lineAfter_nil]; rfl
  | cons c text ih =>
    have htext : ¬['*', '/'] <:+: text := fun hin => h (hin.trans (List.suffix_cons c text).isInfix)
    have hopen : ∀ behind, c :: (text ++ '*' :: '/' :: rest) ≠ '*' :: '/' :: behind := by
      intro behind heq
      obtain ⟨rfl, htail⟩ := List.cons.inj heq
      cases text with
      | nil => exact absurd (List.cons.inj htail).1 (by decide)
      | cons d text =>
        obtain ⟨rfl, -⟩ := List.cons.inj htail
        exact h ⟨[], text, rfl⟩
    rw [List.cons_append, skipComment.eq_def]
    split
    · rename_i heq
      exact absurd heq (by simp)
    · rename_i heq
      exact absurd heq (hopen _)
    · rename_i heq
      obtain ⟨rfl, rfl⟩ := List.cons.inj heq
      rw [ih htext, lineAfter_cons]

/-- A separator is skipped, and its line feeds are counted. -/
theorem skipSeparators_chars (s : Separator) (line : UInt32) (rest : List Char) :
    skipSeparators line (s.chars ++ rest) =
      skipSeparators (lineAfter line s.chars) rest := by
  cases s with
  | blank c h =>
    rw [Separator.chars, List.singleton_append, skipSeparators_blank h, lineAfter_cons,
      lineAfter_nil]
  | lineComment text h =>
    have hall : ∀ c ∈ text, (c != '\n') = true := fun c hc => by
      simpa using fun heq : c = '\n' => h (heq ▸ hc)
    have hdrop : (text ++ '\n' :: rest).dropWhile (· != '\n') = '\n' :: rest :=
      dropWhile_append hall (by rintro c ⟨⟩; decide)
    have hline : lineAfter line (Separator.lineComment text h).chars = line + 1 := by
      have hslashes : '\n' ∉ '/' :: '/' :: text := by simpa using h
      rw [Separator.chars, ← List.cons_append, ← List.cons_append, lineAfter_append,
        lineAfter_of_not_mem hslashes]
      rfl
    rw [hline, Separator.chars, List.cons_append, List.cons_append, List.append_assoc,
      List.singleton_append, skipSeparators, hdrop, skipSeparators_blank (by decide)]
    rfl
  | blockComment text h =>
    have hskip := skipComment_append h line rest
    have hline : lineAfter line (Separator.blockComment text h).chars = lineAfter line text := by
      simp [Separator.chars, lineAfter]
    rw [hline, Separator.chars, List.cons_append, List.cons_append, List.append_assoc,
      List.cons_append, List.singleton_append, skipSeparators]
    split
    · rename_i heq
      exact absurd (hskip.symm.trans heq) (by simp)
    · rename_i heq
      obtain ⟨rfl, rfl⟩ := Prod.mk.inj (Except.ok.inj (hskip.symm.trans heq))
      rfl

theorem lexFrom_gapChars (gap : List Separator) (line : UInt32) (rest : List Char) :
    lexFrom line (gapChars gap ++ rest) = lexFrom (lineAfter line (gapChars gap)) rest := by
  induction gap generalizing line with
  | nil => rw [gapChars_nil, lineAfter_nil, List.nil_append]
  | cons s gap ih =>
    rw [gapChars_cons, List.append_assoc, lexFrom_eq, skipSeparators_chars, ← lexFrom_eq, ih,
      lineAfter_append]

/-- No token goes on with a separator. -/
theorem ends_gapChars {gap : List Separator} (h : gap ≠ []) (rest : List Char) :
    Ends (gapChars gap ++ rest) := by
  cases gap with
  | nil => exact absurd rfl h
  | cons s gap =>
    cases s with
    | blank c hc =>
      have hcontinue : isIdentContinue c = false := by
        rw [Bool.eq_false_iff]
        intro hcontinue
        rw [isBlank_of_isIdentContinue hcontinue] at hc
        exact absurd hc (by decide)
      have hdot : (c == '.') = false := by
        rw [beq_eq_false_iff_ne]
        rintro rfl
        exact absurd hc (by decide)
      exact ends_cons (by rw [hcontinue, hdot]; rfl) _
    | lineComment text hc => exact ends_cons rfl _
    | blockComment text hc => exact ends_cons rfl _

/-! ## Spellings -/

/-- How a text spells a token. -/
def Token.spelling : Token → List Char
  | .ident name => name.toList
  | .str text => quoteChars text.toList
  | .number spelling => spelling.toList
  | .openBrace => ['{']
  | .closeBrace => ['}']
  | .openBracket => ['[']
  | .closeBracket => [']']
  | .openParen => ['(']
  | .closeParen => [')']
  | .comma => [',']
  | .dot => ['.']
  | .assign => ['=']
  | .endOfText => []

/-- A token is read back from its spelling, in front of a text that does not go on with it. -/
theorem readToken_spelling {t : Token} (ht : t.WellFormed) (hend : t ≠ .endOfText)
    {rest : List Char} (hr : Ends rest) : ∃ c cs, t.spelling = c :: cs ∧ startsToken c = true ∧
      readToken c (cs ++ rest) = .ok (t, rest) := by
  have hmark : ∀ {c : Char}, punctuation? c = some t → t.spelling = [c] →
      ∃ c cs, t.spelling = c :: cs ∧ startsToken c = true ∧
        readToken c (cs ++ rest) = .ok (t, rest) := fun {c} hc hs =>
    ⟨c, [], hs, startsToken_of_punctuation? hc, readToken_mark hc rest⟩
  cases t with
  | ident name =>
    have hname : isIdentifierChars name.toList = true := ht
    cases hs : name.toList with
    | nil => rw [hs] at hname; exact absurd hname (by decide)
    | cons c cs =>
      rw [hs] at hname
      refine ⟨c, cs, hs, ?_, ?_⟩
      · rw [isIdentifierChars, Bool.and_eq_true] at hname
        exact startsToken_of_isIdentContinue (isIdentContinue_of_isIdentStart hname.1)
      · rw [readToken_ident hname fun x hx => (hr x hx).1, ← hs, String.ofList_toList]
  | str text =>
    refine ⟨'"', text.toList.flatMap escapeChar ++ ['"'], rfl, by decide, ?_⟩
    rw [List.append_assoc, List.singleton_append, readToken_quote, String.ofList_toList]
  | number spelling =>
    have hnumber : IsNumber spelling.toList := ht
    cases hs : spelling.toList with
    | nil =>
      obtain ⟨sign, whole, fraction, exponent, heq, -, hwhole, -⟩ := hs ▸ hnumber
      obtain ⟨d, ds, rfl, -⟩ := hwhole.exists_cons
      exact absurd heq.symm (by simp)
    | cons c cs =>
      rw [hs] at hnumber
      refine ⟨c, cs, hs, (startsNumber_of_isNumber hnumber rest).2.1, ?_⟩
      rw [readToken_number hnumber hr, ← hs, String.ofList_toList]
  | openBrace => exact hmark rfl rfl
  | closeBrace => exact hmark rfl rfl
  | openBracket => exact hmark rfl rfl
  | closeBracket => exact hmark rfl rfl
  | openParen => exact hmark rfl rfl
  | closeParen => exact hmark rfl rfl
  | comma => exact hmark rfl rfl
  | dot => exact hmark rfl rfl
  | assign => exact hmark rfl rfl
  | endOfText => exact absurd rfl hend

theorem lexFrom_spelling {t : Token} (ht : t.WellFormed) (hend : t ≠ .endOfText)
    {rest : List Char} (hr : Ends rest) (line : UInt32) :
    lexFrom line (t.spelling ++ rest) = (lexFrom line rest).map (⟨line, t⟩ :: ·) := by
  obtain ⟨c, cs, hs, hc, hread⟩ := readToken_spelling ht hend hr
  rw [hs, List.cons_append, lexFrom_token hc hread]

theorem AreDigits.lineFeed_not_mem {cs : List Char} (h : AreDigits cs) : '\n' ∉ cs :=
  fun hc => absurd (h.2 _ hc) (by decide)

theorem IsNumber.lineFeed_not_mem {cs : List Char} (h : IsNumber cs) : '\n' ∉ cs := by
  obtain ⟨sign, whole, fraction, exponent, rfl, hsign, hwhole, hfraction, hexponent⟩ := h
  have hsign' : '\n' ∉ sign := by rcases hsign with rfl | rfl <;> decide
  have hfraction' : '\n' ∉ fraction := by
    rcases hfraction with rfl | ⟨ds, rfl, hds⟩
    · decide
    · simp [hds.lineFeed_not_mem]
  have hexponent' : '\n' ∉ exponent := by
    rcases hexponent with rfl | ⟨e, mark, ds, rfl, he, hmark, hds⟩
    · decide
    · have he' : '\n' ≠ e := by rcases he with rfl | rfl <;> decide
      have hmark' : '\n' ∉ mark := by rcases hmark with rfl | rfl | rfl <;> decide
      simp [he', hmark', hds.lineFeed_not_mem]
  simp [hsign', hwhole.lineFeed_not_mem, hfraction', hexponent']

theorem lineFeed_not_mem_quoteChars (cs : List Char) : '\n' ∉ quoteChars cs := by
  have hescape : ∀ c : Char, '\n' ∉ escapeChar c := by
    intro c
    unfold escapeChar
    split
    iterate 5 decide
    rename_i hne _ _
    simpa using fun h : '\n' = c => hne h.symm
  simp [quoteChars, hescape]

/-- A token stands on one line. -/
theorem lineFeed_not_mem_spelling {t : Token} (ht : t.WellFormed) : '\n' ∉ t.spelling := by
  cases t with
  | ident name =>
    intro hc
    have hname : isIdentifierChars name.toList = true := ht
    rw [Token.spelling] at hc
    cases hs : name.toList with
    | nil => rw [hs] at hc; exact absurd hc (by decide)
    | cons c cs =>
      rw [hs] at hc hname
      simp only [isIdentifierChars, Bool.and_eq_true, List.all_eq_true] at hname
      rcases List.mem_cons.1 hc with rfl | hc
      · exact absurd hname.1 (by decide)
      · exact absurd (hname.2 _ hc) (by decide)
  | str text => exact lineFeed_not_mem_quoteChars _
  | number spelling => exact IsNumber.lineFeed_not_mem ht
  | openBrace | closeBrace | openBracket | closeBracket | openParen | closeParen | comma | dot
  | assign | endOfText => decide

/-! ## Texts -/

/-- Tokens that are spelled one after the other, with separators behind each. -/
def separatedChars (parts : List (Token × List Separator)) : List Char :=
  parts.flatMap fun part => part.1.spelling ++ gapChars part.2

theorem separatedChars_cons (part : Token × List Separator)
    (parts : List (Token × List Separator)) : separatedChars (part :: parts) =
      part.1.spelling ++ (gapChars part.2 ++ separatedChars parts) := by
  rw [separatedChars, List.flatMap_cons, List.append_assoc, ← separatedChars]

/-- Each token is read on the line that the line feeds before it lead to. -/
theorem lexFrom_separatedChars (parts : List (Token × List Separator))
    (hparts : ∀ part ∈ parts, part.1.WellFormed ∧ part.1 ≠ .endOfText)
    (hgaps : ∀ part ∈ parts.dropLast, part.2 ≠ []) (before : List Char) :
    lexFrom (lineAfter 1 before) (separatedChars parts) =
      .ok ((parts.map Prod.fst ++ [Token.endOfText]).mapIdx fun i t =>
        (⟨lineAfter 1 (before ++ separatedChars (parts.take i)), t⟩ : Located)) := by
  induction parts generalizing before with
  | nil => simp [separatedChars, lexFrom_nil]
  | cons part parts ih =>
    obtain ⟨t, gap⟩ := part
    obtain ⟨⟨ht, hend⟩, hparts⟩ := List.forall_mem_cons.1 hparts
    have hlines : lineAfter (lineAfter 1 before) (gapChars gap) =
        lineAfter 1 (before ++ t.spelling ++ gapChars gap) := by
      rw [lineAfter_append, lineAfter_append, lineAfter_of_not_mem (lineFeed_not_mem_spelling ht)]
    have hrest : Ends (gapChars gap ++ separatedChars parts) := by
      cases parts with
      | nil =>
        rw [separatedChars, List.flatMap_nil, List.append_nil]
        cases gap with
        | nil => exact ends_nil
        | cons s gap =>
          rw [← List.append_nil (gapChars _)]
          exact ends_gapChars (List.cons_ne_nil _ _) []
      | cons next parts =>
        exact ends_gapChars (hgaps (t, gap) (by simp)) _
    have htail : ∀ part ∈ parts.dropLast, part.2 ≠ [] := by
      intro part hp
      cases parts with
      | nil => exact absurd hp (by simp)
      | cons next parts =>
        exact hgaps part (List.mem_cons_of_mem _ hp)
    rw [separatedChars_cons, lexFrom_spelling ht hend hrest, lexFrom_gapChars, hlines,
      ih hparts htail]
    simp [Except.map, List.mapIdx_cons, separatedChars]

/-- Of tokens that are spelled one after the other, with separators around them and between every
two of them, the lexer makes these tokens, and the end of the text behind them. The line of each is
one more than the number of line feeds before it, in the 32 bits in which lines are counted, and so
that number itself as long as it fits. -/
theorem lex_separated (lead : List Separator) (parts : List (Token × List Separator))
    (hparts : ∀ part ∈ parts, part.1.WellFormed ∧ part.1 ≠ .endOfText)
    (hgaps : ∀ part ∈ parts.dropLast, part.2 ≠ []) :
    lex (String.ofList (gapChars lead ++ separatedChars parts)) =
      .ok ((parts.map Prod.fst ++ [Token.endOfText]).mapIdx fun i t =>
        (⟨1 + .ofNat ((gapChars lead ++ separatedChars (parts.take i)).count '\n'), t⟩ : Located)) ∧
    ∀ i, 1 + (gapChars lead ++ separatedChars (parts.take i)).count '\n' < UInt32.size →
      (1 + UInt32.ofNat ((gapChars lead ++ separatedChars (parts.take i)).count '\n')).toNat =
        1 + (gapChars lead ++ separatedChars (parts.take i)).count '\n' := by
  refine ⟨?_, fun i h => toNat_lineAfter h⟩
  rw [lex, String.toList_ofList, lexFrom_gapChars]
  exact lexFrom_separatedChars parts hparts hgaps _

/-- A comment over two lines, with a star before its end. -/
def noteOverLines : Separator := .blockComment "*a\n*".toList (by decide)

/-- A comment that holds a quotation mark and the start of another comment. -/
def noteInLine : Separator := .lineComment " \"/*".toList (by decide)

theorem lex_separated_commented :
    lex (String.ofList (gapChars [noteOverLines] ++ separatedChars
      [(.number "-1.50e+3", [noteInLine]), (.str "//\n", [noteOverLines, noteInLine]),
        (.comma, [])])) =
      .ok [⟨2, .number "-1.50e+3"⟩, ⟨3, .str "//\n"⟩, ⟨5, .comma⟩, ⟨5, .endOfText⟩] := by
  have hnumber : IsNumber "-1.50e+3".toList :=
    ⟨['-'], ['1'], ['.', '5', '0'], ['e', '+', '3'], by decide, by decide, by decide,
      .inr ⟨['5', '0'], by decide⟩, .inr ⟨'e', ['+'], ['3'], by decide⟩⟩
  refine (lex_separated [noteOverLines] [(.number "-1.50e+3", [noteInLine]),
    (.str "//\n", [noteOverLines, noteInLine]), (.comma, [])] ?_ (by simp)).1.trans (by decide)
  exact List.forall_mem_cons.2 ⟨⟨hnumber, by simp⟩, by simp [Token.WellFormed]⟩

end AgentConvert
