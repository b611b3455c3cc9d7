import AgentConvert.Yaml.Character

/-!
# Plain and quoted scalars

Scalars that run over words with gaps between them. A gap on one line is kept as it is written. In
a gap over several lines the blanks are dropped and the first line break is folded: it becomes a
space, or nothing if further breaks follow.
-/

namespace AgentConvert.Yaml

/-! ## Gaps -/

/-- Blanks and line breaks between words. -/
structure Gap where
  /-- The blanks before the first line break. -/
  blanks : Chars
  /-- The rest of the gap, from the first line break on. -/
  further : Chars
  rest : Chars

namespace Gap

/-- The gap at the head of `cs`. -/
def of (cs : Chars) : Gap :=
  let blanks := cs.takeWhile Character.isBlank
  let rest := cs.dropWhile Character.isBlank
  ⟨blanks, rest.takeWhile Character.isGap, rest.dropWhile Character.isGap⟩

theorem length_rest_le (cs : Chars) : (of cs).rest.length ≤ cs.length :=
  Nat.le_trans (List.dropWhile_sublist _).length_le (List.dropWhile_sublist _).length_le

theorem length_rest_lt {c : Character} (rest : Chars) (h : c.isGap = true) :
    (of (c :: rest)).rest.length < (c :: rest).length := by
  have hrest := length_rest_le rest
  simp only [of, List.dropWhile_cons, List.length_cons] at hrest ⊢
  split
  · omega
  · rw [List.dropWhile_cons, if_pos h]
    have := (List.dropWhile_sublist Character.isGap (l := rest)).length_le
    omega

/-- Whether there is no gap. -/
def isEmpty (g : Gap) : Bool := g.blanks.isEmpty && g.further.isEmpty

/-- Whether the gap goes on on another line. -/
def isBroken (g : Gap) : Bool := !g.further.isEmpty

/-- The line breaks. -/
def breaks (g : Gap) : List Char := (g.further.filter Character.endsLine).map Character.char

/-- What the gap stands for. -/
def folded (g : Gap) : List Char :=
  match g.breaks with
  | [] => g.blanks.map Character.char
  | ['\n'] => [' ']
  | '\n' :: further => further
  | breaks => breaks

/-- Whether a tab stands left of a column on a line of its own. -/
def hasTabBefore (g : Gap) (column : Nat) : Bool :=
  g.further.any fun c => c.char == '\t' && c.column < column

end Gap

/-! ## Plain scalars -/

/-- A plain scalar, and whether a line was ended behind it. -/
structure Plain where
  text : String
  endsLine : Bool
  rest : Chars

namespace Plain

/-- Whether `c` is a bracket or comma of a flow collection. -/
def isFlowMark (c : Char) : Bool := ",[]\x7b\x7d".toList.contains c

/-- Whether a plain scalar ends before the head of `cs`. -/
def endsAt (inFlow : Bool) (cs : Chars) : Bool :=
  match cs with
  | [] => true
  | c :: rest =>
    c.isGap || (c.char == ':' && Chars.atGap rest) || (inFlow && isFlowMark c.char)

/-- Whether a colon stands before a mark of a flow collection. -/
def isMisplacedColon (cs : Chars) : Bool :=
  cs.startsWith ':' && (Chars.head? (cs.drop 1)).any fun c => c == '?' || isFlowMark c

/-- Takes the rest of a word, behind what is `done`; `done` is in reverse. -/
def word (inFlow : Bool) (cs : Chars) (done : List Char) : Option (List Char × Chars) :=
  match cs with
  | [] => some (done, [])
  | c :: rest =>
    if inFlow && isMisplacedColon (c :: rest) then none
    else if endsAt inFlow (c :: rest) then some (done, c :: rest)
    else word inFlow rest (c.char :: done)

theorem length_word {inFlow : Bool} {cs : Chars} {done : List Char} {r : List Char × Chars}
    (h : word inFlow cs done = some r) : r.2.length ≤ cs.length := by
  fun_induction word inFlow cs done with
  | case1 =>
    cases h
    exact Nat.le_refl _
  | case2 => simp at h
  | case3 =>
    cases h
    exact Nat.le_refl _
  | case4 done c rest _ _ ih =>
    have := ih h
    rw [List.length_cons]
    omega

/-- Whether the scalar ends behind a gap. -/
def endsBehind (inFlow : Bool) (indent : Nat) (g : Gap) : Bool :=
  match g.rest with
  | [] => true
  | c :: rest =>
    (g.isBroken && !inFlow && c.column < indent) || c.char == '#' || Chars.startsMark (c :: rest) ||
      endsAt inFlow (c :: rest)

/-- Takes the words from the one on that starts with `c`, behind what is `done`; `done` is in
reverse. -/
def wordsFrom (inFlow : Bool) (indent : Nat) (c : Character) (cs : Chars) (done : List Char) :
    Option Plain :=
  if inFlow && isMisplacedColon (c :: cs) then none
  else match _hw : word inFlow cs (c.char :: done) with
    | none => none
    | some (done, behind) =>
      let gap := Gap.of behind
      if gap.hasTabBefore indent then none
      else match _hg : gap.rest with
        | [] => some ⟨String.ofList done.reverse, gap.isBroken, []⟩
        | d :: rest =>
          if gap.isEmpty || endsBehind inFlow indent gap then
            some ⟨String.ofList done.reverse, gap.isBroken, d :: rest⟩
          else wordsFrom inFlow indent d rest (gap.folded.reverse ++ done)
  termination_by cs.length
  decreasing_by
    have hword : behind.length ≤ cs.length := length_word _hw
    have hgap : gap.rest.length ≤ behind.length := Gap.length_rest_le behind
    rw [_hg, List.length_cons] at hgap
    omega

end Plain

/-! ## Quoted scalars -/

namespace Quoted

/-- The escapes of one character. -/
def escapes : List (Char × Char) := [
  ('0', '\x00'), ('a', '\x07'), ('b', '\x08'), ('t', '\t'), ('\t', '\t'), ('n', '\n'),
  ('v', '\x0b'), ('f', '\x0c'), ('r', '\r'), ('e', '\x1b'), (' ', ' '), ('"', '"'), ('/', '/'),
  ('\\', '\\'), ('N', '\u0085'), ('_', '\u00a0'), ('L', '\u2028'), ('P', '\u2029')]

/-- How many digits follow the escape of a code point. -/
def codeLength? (c : Char) : Option Nat :=
  if c == 'x' then some 2 else if c == 'u' then some 4 else if c == 'U' then some 8 else none

/-- The character with the code point that the digits `cs` spell. -/
def ofDigits? (cs : Chars) : Option Char := do
  let n ← cs.foldlM (fun n c => c.hexDigit?.map (16 * n + ·)) 0
  if n.isValidChar then some (Char.ofNat n) else none

/-- What an escape stands for; `cs` follows the backslash. An escaped line break stands for the
further breaks of its gap. -/
def escape? (cs : Chars) : Option (List Char × Chars) :=
  match cs with
  | [] => none
  | c :: rest =>
    if c.endsLine then
      let gap := rest.takeWhile Character.isGap
      some ((gap.filter Character.endsLine).map Character.char, rest.dropWhile Character.isGap)
    else match codeLength? c.char with
      | some n =>
        if rest.length < n then none
        else (ofDigits? (rest.take n)).map fun c => ([c], rest.drop n)
      | none => (escapes.find? (·.1 == c.char)).map fun e => ([e.2], rest)

theorem length_escape? {cs : Chars} {r : List Char × Chars} (h : escape? cs = some r) :
    r.2.length ≤ cs.length := by
  unfold escape? at h
  split at h
  · simp at h
  · rename_i c rest
    have hdrop := (List.dropWhile_sublist Character.isGap (l := rest)).length_le
    split at h
    · simp only [Option.some.injEq] at h
      simp only [← h, List.length_cons]
      omega
    · split at h
      · split at h
        · simp at h
        · simp only [Option.map_eq_some_iff] at h
          obtain ⟨_, _, rfl⟩ := h
          simp only [List.length_drop, List.length_cons]
          omega
      · simp only [Option.map_eq_some_iff] at h
        obtain ⟨_, _, rfl⟩ := h
        simp

/-- Takes a scalar up to the closing quote, behind what is `done`; `done` is in reverse. -/
def textFrom (quote : Char) (cs : Chars) (done : List Char) : Option (String × Chars) :=
  match cs with
  | [] => none
  | c :: rest =>
    if c.char == quote then
      match rest with
      | c :: after =>
        if quote == '\'' && c.char == quote then textFrom quote after (quote :: done)
        else some (String.ofList done.reverse, c :: after)
      | [] => some (String.ofList done.reverse, [])
    else if _hgap : c.isGap then
      let gap := Gap.of (c :: rest)
      if Chars.startsMark gap.rest then none
      else textFrom quote gap.rest (gap.folded.reverse ++ done)
    else if quote == '"' && c.char == '\\' then
      match _hesc : escape? rest with
      | none => none
      | some (text, after) =>
        if Chars.startsMark after then none else textFrom quote after (text.reverse ++ done)
    else textFrom quote rest (c.char :: done)
  termination_by cs.length
  decreasing_by
    · simp only [List.length_cons]
      omega
    · exact Gap.length_rest_lt rest _hgap
    · exact Nat.lt_succ_of_le (length_escape? _hesc)
    · exact Nat.lt_succ_self _

end Quoted

end AgentConvert.Yaml
