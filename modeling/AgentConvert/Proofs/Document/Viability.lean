import AgentConvert.Proofs.Document.Recognition
import AgentConvert.Proofs.Document.Separators
import Mathlib.Data.List.TakeDrop

/-!
# The first impossible token

A text that has tokens and is no document is reported at the token that makes it impossible
(`parse_stops`). The tokens before it start a document: what `Halts` completes them with are marks,
words and texts, which a text can spell (`isDocument_of_bodyTokens`). With it they start none, since
the parser would read nothing of that document either.
-/

namespace AgentConvert

/-! ## Documents as tokens -/

/-- Whether these are the tokens of a document, with the end of its text. -/
def IsDocument (ts : List Token) : Prop :=
  ∃ text ls body, lex text = .ok ls ∧ parseDocument text = .ok body ∧ ls.map Located.token = ts

/-- Whether the tokens of some document start with these. -/
def IsViable (ts : List Token) : Prop := ∃ us, IsDocument (ts ++ us)

theorem IsViable.of_append {ts us : List Token} (h : IsViable (ts ++ us)) : IsViable ts := by
  obtain ⟨vs, hvs⟩ := h
  exact ⟨us ++ vs, by rwa [← List.append_assoc]⟩

theorem wellFormed_of_isPlain {t : Token} (h : t.isPlain = true) :
    t.WellFormed ∧ t ≠ .endOfText := by
  cases t with
  | ident name => exact ⟨h, by simp⟩
  | number _ | endOfText => exact absurd h Bool.false_ne_true
  | _ => exact ⟨trivial, by simp⟩

theorem map_token_mapIdx (line : Nat → UInt32) (ts : List Token) :
    (ts.mapIdx fun i t => (⟨line i, t⟩ : Located)).map Located.token = ts := by
  refine List.ext_getElem? fun i => ?_
  rw [List.getElem?_map, List.getElem?_mapIdx, Option.map_map]
  exact congrFun Option.map_id ts[i]?

theorem parseDocument_of_lex {text : String} {ls : List Located} (hlex : lex text = .ok ls) :
    parseDocument text = (parseBody true ls).map Parsed.value := by
  rw [parseDocument, hlex]

theorem parseBody_of_fault {text : String} {ls : List Located} {e : SyntaxError}
    (hlex : lex text = .ok ls) (h : parseDocument text = .error e) :
    parseBody true ls = .error e := by
  rw [parseDocument_of_lex hlex] at h
  cases hp : parseBody true ls with
  | error e' =>
    rw [hp] at h
    rw [Except.error.inj h]
  | ok p => simp [hp, Except.map] at h

/-- A blank between every two tokens makes a text of what the grammar derives. -/
theorem isDocument_of_bodyTokens {ts : List Token} {body : Body} (h : BodyTokens ts body)
    (hts : ∀ t ∈ ts, t.WellFormed) : IsDocument (ts ++ [.endOfText]) := by
  let parts : List (Token × List Separator) := ts.map (·, [.blank ' ' (by decide)])
  have hfst : parts.map Prod.fst = ts := by simp [parts, Function.comp_def]
  have hparts : ∀ part ∈ parts, part.1.WellFormed ∧ part.1 ≠ .endOfText := by
    intro part hp
    obtain ⟨t, ht, rfl⟩ := List.mem_map.1 hp
    exact ⟨hts t ht, fun heq : t = .endOfText => h.endOfText_not_mem (heq ▸ ht)⟩
  have hgaps : ∀ part ∈ parts.dropLast, part.2 ≠ [] := by
    intro part hp
    obtain ⟨t, -, rfl⟩ := List.mem_map.1 (List.dropLast_subset _ hp)
    simp
  obtain ⟨ls, hlex, hmap⟩ : ∃ ls, lex (String.ofList (separatedChars parts)) = .ok ls ∧
      ls.map Located.token = ts ++ [.endOfText] := by
    have hread := lexFrom_separatedChars parts hparts hgaps []
    rw [hfst] at hread
    exact ⟨_, by rw [lex, String.toList_ofList]; exact hread, map_token_mapIdx _ _⟩
  obtain ⟨line, ms, rfl, hms⟩ := map_token_closed hmap
  obtain ⟨p, hp, rfl, -⟩ : Reads (parseBody true (ms ++ [⟨line, .endOfText⟩])) body
      [⟨line, .endOfText⟩] := parseBody_reads body h hms rfl
  exact ⟨_, _, p.value, hlex, by rw [parseDocument_of_lex hlex, hp]; rfl, hmap⟩

/-! ## The cursor -/

/-- The `k`-th token is the first one that cannot stand where it does. -/
def IsImpossibleAt (ts : List Token) (k : Nat) : Prop :=
  IsViable (ts.take k) ∧ ¬IsViable (ts.take (k + 1))

theorem IsImpossibleAt.unique {ts : List Token} {j k : Nat} (hj : IsImpossibleAt ts j)
    (hk : IsImpossibleAt ts k) : j = k := by
  have hle : ∀ {i n}, IsImpossibleAt ts i → IsImpossibleAt ts n → n ≤ i := by
    intro i n hi hn
    by_contra hlt
    have htake : ts.take n = ts.take (i + 1) ++ (ts.drop (i + 1)).take (n - (i + 1)) := by
      rw [← List.take_add]
      congr 1
      omega
    exact hi.2 (IsViable.of_append (htake ▸ hn.1))
  exact Nat.le_antisymm (hle hk hj) (hle hj hk)

/-- A list of tokens that ends with its text is read, or is reported at its first impossible
token. -/
theorem parseBody_stops {ts : List Located} {e : SyntaxError} (h : parseBody true ts = .error e)
    (hts : ∀ t ∈ ts, t.token.WellFormed) (hend : .endOfText ∈ ts.map Located.token) :
    ∃ k t fault, ts[k]? = some t ∧ e = .parse t.line fault ∧
      IsImpossibleAt (ts.map Located.token) k := by
  obtain ⟨ls, rest, rfl, hls, ⟨fault, rfl⟩, ⟨us, hus, body, hbody⟩, hrefused⟩ :=
    parseBody_halts true ts h
  cases rest with
  | nil => exact absurd (by simpa using hend) hls
  | cons t rest =>
    refine ⟨ls.length, t, fault t.token, by simp, rfl, ?_, ?_⟩
    · have htake : ((ls ++ t :: rest).map Located.token).take ls.length =
          ls.map Located.token := by
        rw [List.map_append]
        exact List.take_left' (List.length_map _)
      rw [htake]
      refine ⟨us ++ [.endOfText], ?_⟩
      rw [← List.append_assoc]
      refine isDocument_of_bodyTokens hbody fun u hu => ?_
      rcases List.mem_append.1 hu with hu | hu
      · obtain ⟨v, hv, rfl⟩ := List.mem_map.1 hu
        exact hts v (List.mem_append_left _ hv)
      · exact (wellFormed_of_isPlain (List.all_eq_true.1 hus u hu)).1
    · have htake : ((ls ++ t :: rest).map Located.token).take (ls.length + 1) =
          ls.map Located.token ++ [t.token] := by
        rw [List.map_append, List.map_cons, List.take_append, List.length_map,
          List.take_of_length_le (by simp)]
        simp
      rintro ⟨vs, text, ds, body, hlex, hparse, hds⟩
      rw [htake, List.append_assoc] at hds
      obtain ⟨line, ms, after, rfl, hms, -⟩ := map_token_append_cons hds
      rw [parseDocument_of_lex hlex] at hparse
      cases hp : parseBody true (ms ++ ⟨line, t.token⟩ :: after) with
      | error e => rw [hp] at hparse; exact absurd hparse (by simp [Except.map])
      | ok p => exact hrefused ms (⟨line, t.token⟩ :: after) hms rfl p.value p.rest ⟨p, hp, rfl, rfl⟩

/-- Whether the parser stops does not depend on lines. -/
theorem parseBody_error_of_tokens {ts us : List Located} {e : SyntaxError}
    (h : parseBody true ts = .error e) (hus : us.map Located.token = ts.map Located.token) :
    ∃ e', parseBody true us = .error e' := by
  obtain ⟨ls, rest, rfl, -, -, -, hrefused⟩ := parseBody_halts true ts h
  rw [List.map_append] at hus
  obtain ⟨ms, after, rfl, hms, hafter⟩ := List.map_eq_append_iff.1 hus
  have hhead : headToken after = headToken rest := by
    cases rest with
    | nil => rw [List.map_eq_nil_iff.1 hafter]
    | cons t rest =>
      obtain ⟨line, vs, rfl, -⟩ := map_token_cons hafter
      rfl
  cases hp : parseBody true (ms ++ after) with
  | error e' => exact ⟨e', rfl⟩
  | ok p => exact absurd ⟨p, hp, rfl, rfl⟩ (hrefused ms after hms hhead p.value p.rest)

/-- Tokens of which only the `k`-th one is on the first line. -/
def markedAt (k : Nat) (ts : List Token) : List Located :=
  ts.mapIdx fun i t => ⟨if i = k then 1 else 0, t⟩

theorem map_token_markedAt (k : Nat) (ts : List Token) :
    (markedAt k ts).map Located.token = ts :=
  map_token_mapIdx (fun i => if i = k then 1 else 0) ts

theorem line_of_markedAt {ts : List Token} {j k : Nat} {t : Located}
    (h : (markedAt k ts)[j]? = some t) : t.line = if j = k then 1 else 0 := by
  rw [markedAt, List.getElem?_mapIdx, Option.map_eq_some_iff] at h
  obtain ⟨u, -, rfl⟩ := h
  rfl

/-- The index of the token at the parser's cursor when it stops with an error. The parser does not
look at lines, and puts the line of the token at its cursor into the error: of tokens of which only
one is on the first line, it reports that line if this one is at the cursor. -/
def cursor? (ts : List Token) : Option Nat :=
  (List.range ts.length).find? fun k =>
    match parseBody true (markedAt k ts) with
    | .ok _ => false
    | .error e => e.line == 1

/-- Whichever token is on the first line, the parser reports the first impossible one. -/
theorem parseBody_markedAt {ts : List Located} {e : SyntaxError} {k : Nat}
    (h : parseBody true ts = .error e) (hts : ∀ t ∈ ts, t.token.WellFormed)
    (hend : .endOfText ∈ ts.map Located.token) (hk : IsImpossibleAt (ts.map Located.token) k)
    (j : Nat) : ∃ e', parseBody true (markedAt j (ts.map Located.token)) = .error e' ∧
      e'.line = if k = j then 1 else 0 := by
  have hmap := map_token_markedAt j (ts.map Located.token)
  obtain ⟨e', he'⟩ := parseBody_error_of_tokens h hmap
  have hwell : ∀ t ∈ markedAt j (ts.map Located.token), t.token.WellFormed := by
    intro t ht
    have htoken : t.token ∈ ts.map Located.token := hmap ▸ List.mem_map_of_mem ht
    obtain ⟨u, hu, heq⟩ := List.mem_map.1 htoken
    exact heq ▸ hts u hu
  obtain ⟨i, t, fault, ht, rfl, hi⟩ := parseBody_stops he' hwell (hmap.symm ▸ hend)
  rw [hmap] at hi
  obtain rfl := hi.unique hk
  exact ⟨_, he', line_of_markedAt ht⟩

/-- The cursor is at the first impossible token. -/
theorem cursor?_eq {ts : List Located} {e : SyntaxError} {k : Nat}
    (h : parseBody true ts = .error e) (hts : ∀ t ∈ ts, t.token.WellFormed)
    (hend : .endOfText ∈ ts.map Located.token) (hk : IsImpossibleAt (ts.map Located.token) k)
    (hlt : k < ts.length) : cursor? (ts.map Located.token) = some k := by
  have hmarked := parseBody_markedAt h hts hend hk
  rw [cursor?, List.find?_range_eq_some]
  refine ⟨?_, by simpa using hlt, fun j hj => ?_⟩
  · obtain ⟨e', he', hline⟩ := hmarked k
    simp [he', hline]
  · obtain ⟨e', he', hline⟩ := hmarked j
    simp [he', hline, Nat.ne_of_gt hj]

/-- A text that has tokens and is no document is reported on the line of the token at the parser's
cursor. The tokens before this one start a document, and with it they start none. -/
theorem parse_stops {text : String} {ts : List Located} {e : SyntaxError}
    (hlex : lex text = .ok ts) (h : parseDocument text = .error e) :
    ∃ k t fault, ts[k]? = some t ∧ cursor? (ts.map Located.token) = some k ∧
      e = .parse t.line fault ∧ IsViable ((ts.map Located.token).take k) ∧
      ¬IsViable ((ts.map Located.token).take (k + 1)) := by
  have hbody := parseBody_of_fault hlex h
  have hts : ∀ t ∈ ts, t.token.WellFormed := wellFormed_of_lexFrom hlex
  have hend : .endOfText ∈ ts.map Located.token := by
    obtain ⟨ls, line, rfl, -⟩ := lexFrom_ends hlex
    simp
  obtain ⟨k, t, fault, ht, he, hk⟩ := parseBody_stops hbody hts hend
  have hlt : k < ts.length := (List.getElem?_eq_some_iff.1 ht).1
  exact ⟨k, t, fault, ht, cursor?_eq hbody hts hend hk hlt, he, hk.1, hk.2⟩

/-- A block over three lines. A comma is missing between the arguments of a call. -/
def missingComma : List (Token × List Separator) :=
  let blank := [.blank ' ' (by decide)]
  let lineFeed := [.blank '\n' (by decide)]
  [(.ident "a", blank), (.openBrace, lineFeed), (.ident "b", blank), (.assign, blank),
    (.ident "f", blank), (.openParen, blank), (.openBracket, blank), (.closeBracket, blank),
    (.ident "y", blank), (.closeParen, lineFeed), (.closeBrace, [])]

/-- The tokens of `missingComma`, on their lines. -/
def missingCommaTokens : List Located :=
  [⟨1, .ident "a"⟩, ⟨1, .openBrace⟩, ⟨2, .ident "b"⟩, ⟨2, .assign⟩, ⟨2, .ident "f"⟩, ⟨2, .openParen⟩,
    ⟨2, .openBracket⟩, ⟨2, .closeBracket⟩, ⟨2, .ident "y"⟩, ⟨2, .closeParen⟩, ⟨3, .closeBrace⟩,
    ⟨3, .endOfText⟩]

theorem lex_missingComma :
    lex (String.ofList (separatedChars missingComma)) = .ok missingCommaTokens := by
  rw [lex, String.toList_ofList]
  have hwords : ∀ word ∈ ["a", "b", "f", "y"], isIdentifier word = true := by decide
  exact (lexFrom_separatedChars missingComma (by simpa [missingComma, Token.WellFormed] using hwords)
    (by simp [missingComma]) []).trans (by decide)

theorem parse_stops_missingComma :
    lex (String.ofList (separatedChars missingComma)) = .ok missingCommaTokens ∧
      parseDocument (String.ofList (separatedChars missingComma)) =
        .error (.parse 2 (.expectedSeparator ')' (.ident "y"))) ∧
      IsViable ((missingCommaTokens.map Located.token).take 8) ∧
      ¬IsViable ((missingCommaTokens.map Located.token).take 9) := by
  have hlex := lex_missingComma
  have hparse : parseDocument (String.ofList (separatedChars missingComma)) =
      .error (.parse 2 (.expectedSeparator ')' (.ident "y"))) := by
    rw [parseDocument_of_lex hlex]
    cbv
  obtain ⟨k, t, fault, -, -, -, hviable, hnot⟩ := parse_stops hlex hparse
  have hmarked : parseBody true (markedAt 8 (missingCommaTokens.map Located.token)) =
      .error (.parse 1 (.expectedSeparator ')' (.ident "y"))) := by cbv
  obtain ⟨e, he, hline⟩ := parseBody_markedAt (parseBody_of_fault hlex hparse)
    (wellFormed_of_lexFrom hlex) (by decide) ⟨hviable, hnot⟩ 8
  obtain rfl := Except.error.inj (hmarked.symm.trans he)
  obtain rfl : k = 8 := by
    by_contra hne
    rw [if_neg hne] at hline
    exact absurd hline (by decide)
  exact ⟨hlex, hparse, hviable, hnot⟩

end AgentConvert
