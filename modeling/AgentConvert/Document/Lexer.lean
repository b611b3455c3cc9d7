import AgentConvert.Document.Identifier
import AgentConvert.Document.Token
import AgentConvert.Text.Blank

/-!
# Reading tokens

A text is cut into tokens by skipping what separates them (blanks, line comments, block comments)
and taking the longest token at the head of the rest, again and again. Every step leaves a shorter
text (`length_skipSeparators`, `length_readToken`), so the cutting ends.
-/

namespace AgentConvert

/-! ## Separators -/

/-- What follows the end of a block comment, with its line, or the line of the text's end. -/
def skipComment (line : UInt32) : List Char → Except UInt32 (UInt32 × List Char)
  | [] => .error line
  | '*' :: '/' :: rest => .ok (line, rest)
  | c :: rest => skipComment (if c == '\n' then line + 1 else line) rest

theorem length_skipComment {line l : UInt32} {cs rest : List Char}
    (h : skipComment line cs = .ok (l, rest)) : rest.length ≤ cs.length := by
  fun_induction skipComment line cs with
  | case1 => simp at h
  | case2 line rest =>
    simp only [Except.ok.injEq, Prod.mk.injEq] at h
    rw [← h.2, List.length_cons, List.length_cons]
    omega
  | case3 line c rest _ ih =>
    have := ih h
    rw [List.length_cons]
    omega

/-- What follows the separators at the head of `cs`, with its line. -/
def skipSeparators (line : UInt32) (cs : List Char) :
    Except SyntaxError (UInt32 × List Char) :=
  match cs with
  | [] => .ok (line, [])
  | '/' :: '/' :: rest => skipSeparators line (rest.dropWhile (· != '\n'))
  | '/' :: '*' :: rest =>
    match _h : skipComment line rest with
    | .error last => .error (.lex last .openComment)
    | .ok (l, rest') => skipSeparators l rest'
  | c :: rest =>
    if Text.isBlank c then skipSeparators (if c == '\n' then line + 1 else line) rest
    else .ok (line, c :: rest)
  termination_by cs.length
  decreasing_by
    · have := (List.dropWhile_sublist (fun c : Char => c != '\n') (l := rest)).length_le
      simp only [List.length_cons]
      omega
    · have := length_skipComment _h
      simp only [List.length_cons]
      omega
    · simp

theorem length_skipSeparators {line l : UInt32} {cs rest : List Char}
    (h : skipSeparators line cs = .ok (l, rest)) : rest.length ≤ cs.length := by
  fun_induction skipSeparators line cs with
  | case1 => simp_all
  | case2 line rest' ih =>
    have := ih h
    have := (List.dropWhile_sublist (fun c : Char => c != '\n') (l := rest')).length_le
    simp only [List.length_cons]
    omega
  | case3 => simp at h
  | case4 line rest' l' rest'' hc ih =>
    have := ih h
    have := length_skipComment hc
    simp only [List.length_cons]
    omega
  | case5 line c rest' _ _ _ ih =>
    have := ih h
    rw [List.length_cons]
    omega
  | case6 => simp_all

/-! ## Tokens -/

/-- The content of a string literal behind its opening quote, and what follows the literal. -/
def readString : List Char → Except LexFault (List Char × List Char)
  | [] => .error .openString
  | '"' :: rest => .ok ([], rest)
  | ['\\'] => .error .openEscape
  | '\\' :: c :: rest =>
    match unescapeChar? c with
    | some d => (readString rest).map fun r => (d :: r.1, r.2)
    | none => .error (.unknownEscape c)
  | '\n' :: _ => .error .openString
  | c :: rest => (readString rest).map fun r => (c :: r.1, r.2)

/-- The fraction at the head of `cs`, a point and digits, and what follows it. -/
def takeFraction (cs : List Char) : List Char × List Char :=
  match cs with
  | '.' :: d :: rest =>
    if d.isDigit then
      ('.' :: (d :: rest).takeWhile Char.isDigit, (d :: rest).dropWhile Char.isDigit)
    else ([], cs)
  | _ => ([], cs)

/-- The sign at the head of `cs`, if there is one. -/
def signMark (cs : List Char) : List Char := (cs.take 1).filter fun c => c == '+' || c == '-'

/-- Whether a digit stands at the head of `cs`. -/
def headIsDigit (cs : List Char) : Bool := (cs.head?.map Char.isDigit).getD false

/-- The exponent at the head of `cs` and what follows it. -/
def takeExponent (cs : List Char) : List Char × List Char :=
  match cs with
  | e :: rest =>
    let sign := signMark rest
    let digits := rest.drop sign.length
    if (e == 'e' || e == 'E') && headIsDigit digits then
      (e :: sign ++ digits.takeWhile Char.isDigit, digits.dropWhile Char.isDigit)
    else ([], cs)
  | [] => ([], [])

/-- The number at the head of `cs`, which starts with a digit or with a minus and a digit, and what
follows it. -/
def takeNumber (cs : List Char) : List Char × List Char :=
  let sign := if cs.head? == some '-' then ['-'] else []
  let rest := cs.drop sign.length
  let fraction := takeFraction (rest.dropWhile Char.isDigit)
  let exponent := takeExponent fraction.2
  (sign ++ rest.takeWhile Char.isDigit ++ fraction.1 ++ exponent.1, exponent.2)

/-- Whether a number starts at the head of `c :: rest`. -/
def startsNumber (c : Char) (rest : List Char) : Bool :=
  c.isDigit || (c == '-' && headIsDigit rest)

/-- The token of a punctuation mark. -/
def punctuation? : Char → Option Token
  | '{' => some .openBrace
  | '}' => some .closeBrace
  | '[' => some .openBracket
  | ']' => some .closeBracket
  | '(' => some .openParen
  | ')' => some .closeParen
  | ',' => some .comma
  | '.' => some .dot
  | '=' => some .assign
  | _ => none

/-- The token at the head of `c :: rest` and what follows it. -/
def readToken (c : Char) (rest : List Char) : Except LexFault (Token × List Char) :=
  if c == '"' then (readString rest).map fun r => (.str (String.ofList r.1), r.2)
  else if startsNumber c rest then
    let r := takeNumber (c :: rest)
    .ok (.number (String.ofList r.1), r.2)
  else if isIdentStart c then
    .ok (.ident (String.ofList (c :: rest.takeWhile isIdentContinue)),
      rest.dropWhile isIdentContinue)
  else match punctuation? c with
    | some t => .ok (t, rest)
    | none => .error (.unexpected c)

theorem length_readString {cs : List Char} {r : List Char × List Char}
    (h : readString cs = .ok r) : r.2.length ≤ cs.length := by
  fun_induction readString cs generalizing r with
  | case1 => simp at h
  | case2 rest => simp only [Except.ok.injEq] at h; simp [← h]
  | case3 => simp at h
  | case4 c rest d _ ih =>
    cases hr : readString rest with
    | error e => simp [hr, Except.map] at h
    | ok s =>
      simp only [hr, Except.map, Except.ok.injEq] at h
      have := ih hr
      simp only [← h, List.length_cons]
      omega
  | case5 => simp at h
  | case6 => simp at h
  | case7 c rest _ _ _ _ ih =>
    cases hr : readString rest with
    | error e => simp [hr, Except.map] at h
    | ok s =>
      simp only [hr, Except.map, Except.ok.injEq] at h
      have := ih hr
      simp only [← h, List.length_cons]
      omega

theorem length_takeFraction (cs : List Char) : (takeFraction cs).2.length ≤ cs.length := by
  unfold takeFraction
  split
  · split
    · rename_i d rest _
      have := Text.length_dropWhile_le Char.isDigit (d :: rest)
      simp only [List.length_cons] at this ⊢
      omega
    · simp
  · simp

theorem length_takeExponent (cs : List Char) : (takeExponent cs).2.length ≤ cs.length := by
  unfold takeExponent
  split
  · rename_i e rest
    dsimp only
    split
    · refine Nat.le_trans (Text.length_dropWhile_le ..) ?_
      rw [List.length_drop, List.length_cons]
      omega
    · simp
  · simp

theorem length_takeNumber {c : Char} {rest : List Char} (h : startsNumber c rest = true) :
    (takeNumber (c :: rest)).2.length < (c :: rest).length := by
  unfold takeNumber
  dsimp only
  refine Nat.lt_of_le_of_lt (length_takeExponent _) ?_
  refine Nat.lt_of_le_of_lt (length_takeFraction _) ?_
  by_cases hc : c = '-'
  · subst hc
    have := Text.length_dropWhile_le Char.isDigit rest
    simp only [List.head?_cons, beq_self_eq_true, ↓reduceIte, List.length_cons, List.length_nil,
      Nat.zero_add, List.drop_succ_cons, List.drop_zero]
    omega
  · have hd : c.isDigit = true := by simpa [startsNumber, hc] using h
    have := Text.length_dropWhile_le Char.isDigit rest
    simp only [List.head?_cons, Option.some_beq_some, beq_iff_eq, hc, ↓reduceIte, List.length_nil,
      List.drop_zero, List.dropWhile_cons, hd, List.length_cons]
    omega

/-- A token takes one character at least. -/
theorem length_readToken {c : Char} {rest : List Char} {r : Token × List Char}
    (h : readToken c rest = .ok r) : r.2.length < (c :: rest).length := by
  unfold readToken at h
  split at h
  · cases hr : readString rest with
    | error e => simp [hr, Except.map] at h
    | ok s =>
      simp only [hr, Except.map, Except.ok.injEq] at h
      have := length_readString hr
      simp only [← h, List.length_cons]
      omega
  · split at h
    · rename_i hn
      simp only [Except.ok.injEq] at h
      rw [← h]
      exact length_takeNumber hn
    · split at h
      · simp only [Except.ok.injEq] at h
        have := Text.length_dropWhile_le isIdentContinue rest
        simp only [← h, List.length_cons]
        omega
      · split at h
        · simp only [Except.ok.injEq] at h
          simp [← h]
        · simp at h

/-- The tokens of `cs`, which starts on `line`, the end of the text being the last one. -/
def lexFrom (line : UInt32) (cs : List Char) : Except SyntaxError (List Located) :=
  match _hs : skipSeparators line cs with
  | .error e => .error e
  | .ok (l, []) => .ok [⟨l, .endOfText⟩]
  | .ok (l, c :: rest) =>
    match _ht : readToken c rest with
    | .error fault => .error (.lex l fault)
    | .ok (t, after) => (lexFrom l after).map (⟨l, t⟩ :: ·)
  termination_by cs.length
  decreasing_by
    have := length_skipSeparators _hs
    have := length_readToken _ht
    simp only at this ⊢
    omega

/-- The tokens of a text. -/
def lex (text : String) : Except SyntaxError (List Located) := lexFrom 1 text.toList

end AgentConvert
