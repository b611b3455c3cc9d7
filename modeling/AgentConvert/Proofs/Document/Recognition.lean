import AgentConvert.Proofs.Document.StatementFaults
import AgentConvert.Proofs.Document.Lexing

/-!
# The parser accepts exactly its grammar

The two halves put together. Tokens that the grammar derives are read as the tree of their
derivation (`Reading`), what is read is derived (`Deriving`), and a reader that reads nothing stops
at a token that it was given (`Faults`). So a text with tokens has one tree, which is returned, or
no tree and a fault at one of its tokens (`parse_recognises`).
-/

namespace AgentConvert

/-! ## The tokens of a text -/

theorem readToken_ne_endOfText {c : Char} {rest : List Char} {r : Token × List Char}
    (h : readToken c rest = .ok r) : r.1 ≠ .endOfText := by
  unfold readToken at h
  split at h
  · cases hs : readString rest with
    | error e => simp [hs, Except.map] at h
    | ok s =>
      rw [hs] at h
      obtain rfl := Except.ok.inj h
      simp
  · split at h
    · obtain rfl := Except.ok.inj h
      simp
    · split at h
      · obtain rfl := Except.ok.inj h
        simp
      · split at h
        · rename_i t ht
          obtain rfl := Except.ok.inj h
          rintro rfl
          unfold punctuation? at ht
          split at ht <;> simp at ht
        · exact absurd h (by simp)

/-- The end of the text is the last token, and no other. -/
theorem lexFrom_ends {line : UInt32} {cs : List Char} {ts : List Located}
    (h : lexFrom line cs = .ok ts) :
    ∃ ls l, ts = ls ++ [⟨l, .endOfText⟩] ∧ .endOfText ∉ ls.map Located.token := by
  fun_induction lexFrom line cs generalizing ts with
  | case1 | case3 => exact absurd h (by simp)
  | case2 _ _ l =>
    obtain rfl := Except.ok.inj h
    exact ⟨[], l, rfl, by simp⟩
  | case4 _ _ l c rest _ t after ht ih =>
    cases hr : lexFrom l after with
    | error e => simp [hr, Except.map] at h
    | ok us =>
      rw [hr] at h
      obtain rfl := Except.ok.inj h
      obtain ⟨ls, m, rfl, hls⟩ := ih hr
      refine ⟨⟨l, t⟩ :: ls, m, rfl, ?_⟩
      rw [List.map_cons, List.mem_cons, not_or]
      exact ⟨(readToken_ne_endOfText ht).symm, hls⟩

theorem skipSeparators_fails {line : UInt32} {cs : List Char} {e : SyntaxError}
    (h : skipSeparators line cs = .error e) : ∃ l fault, e = .lex l fault := by
  fun_induction skipSeparators line cs with
  | case1 | case6 => exact absurd h (by simp)
  | case3 => exact ⟨_, _, (Except.error.inj h).symm⟩
  | case2 | case4 | case5 => simp_all

/-- A text without tokens has a fault of its own. -/
theorem lexFrom_fails {line : UInt32} {cs : List Char} {e : SyntaxError}
    (h : lexFrom line cs = .error e) : ∃ l fault, e = .lex l fault := by
  fun_induction lexFrom line cs with
  | case1 line cs e' hs =>
    obtain rfl := Except.error.inj h
    exact skipSeparators_fails hs
  | case2 => exact absurd h (by simp)
  | case3 => exact ⟨_, _, (Except.error.inj h).symm⟩
  | case4 _ _ l _ _ _ _ after _ ih =>
    cases hr : lexFrom l after with
    | error e' =>
      rw [hr] at h
      obtain rfl := Except.error.inj h
      exact ih hr
    | ok us => simp [hr, Except.map] at h

/-! ## Trees and faults -/

/-- The tokens of `ts` before the end of the text. -/
def tokensBefore (ts : List Located) : List Token :=
  (ts.map Located.token).takeWhile (· ≠ .endOfText)

/-- Whether a reader of `ts` recognises what `Derives` has for the tokens of `ts`: it returns their
one tree, or they have none and it stops at one of them. -/
def Recognises {α : Type} (Derives : List Token → α → Prop) (ts : List Located)
    (r : Except SyntaxError α) : Prop :=
  (∃ v, r = .ok v ∧ ∀ w, Derives (tokensBefore ts) w ↔ w = v) ∨
    ∃ e, r = .error e ∧ FailsAt ts e ∧ ∀ w, ¬Derives (tokensBefore ts) w

/-- The tokens of a text before its end, and the end. -/
theorem exists_tokensBefore (ts : List Located) : ∃ ls rest, ts = ls ++ rest ∧
    ls.map Located.token = tokensBefore ts ∧ headToken rest = .endOfText := by
  induction ts with
  | nil => exact ⟨[], [], rfl, rfl, rfl⟩
  | cons t ts ih =>
    by_cases ht : t.token = .endOfText
    · exact ⟨[], t :: ts, rfl, by simp [tokensBefore, ht], ht⟩
    · obtain ⟨ls, rest, hts, hls, hend⟩ := ih
      refine ⟨t :: ls, rest, by rw [hts, List.cons_append], ?_, hend⟩
      rw [List.map_cons, hls, tokensBefore, tokensBefore, List.map_cons,
        List.takeWhile_cons_of_pos (by simpa using ht)]

theorem tokensBefore_eq {ts ls rest : List Located} (hts : ts = ls ++ rest)
    (hls : .endOfText ∉ ls.map Located.token) (hend : headToken rest = .endOfText) :
    tokensBefore ts = ls.map Located.token := by
  have hrest : (rest.map Located.token).takeWhile (· ≠ .endOfText) = [] := by
    cases rest with
    | nil => rfl
    | cons t rest => exact List.takeWhile_cons_of_neg (by simpa [headToken] using hend)
  rw [tokensBefore, hts, List.map_append, List.takeWhile_append_of_pos, hrest, List.append_nil]
  intro t ht
  simpa using fun h : t = .endOfText => hls (h ▸ ht)

/-- A reader whose trees are the derived ones recognises them. -/
theorem recognises_of_iff {α : Type} {Derives : List Token → α → Prop} {ts : List Located}
    {r : Except SyntaxError α} (hok : ∀ v, r = .ok v ↔ Derives (tokensBefore ts) v)
    (herror : ∀ e, r = .error e → FailsAt ts e) : Recognises Derives ts r := by
  cases r with
  | ok v =>
    refine .inl ⟨v, rfl, fun w => (hok w).symm.trans ?_⟩
    exact ⟨fun h => (Except.ok.inj h).symm, fun h => h ▸ rfl⟩
  | error e => exact .inr ⟨e, rfl, herror e rfl, fun w h => absurd ((hok w).2 h) (by simp)⟩

/-- The statements before the end of the text are read as the body that they derive. -/
theorem parseBody_recognises (ts : List Located) :
    Recognises BodyTokens ts ((parseBody true ts).map Parsed.value) := by
  refine recognises_of_iff (fun body => ⟨fun h => ?_, fun h => ?_⟩) fun e h => ?_
  · cases hp : parseBody true ts with
    | error e => simp [hp, Except.map] at h
    | ok p =>
      rw [hp] at h
      obtain rfl := Except.ok.inj h
      obtain ⟨ls, hts, hg, hend⟩ := parseBody_derives p.value ⟨p, hp, rfl, rfl⟩
      rwa [tokensBefore_eq hts hg.endOfText_not_mem hend]
  · obtain ⟨ls, rest, hts, hls, hend⟩ := exists_tokensBefore ts
    have hread : Reads (parseBody true ts) body rest := by
      rw [hts]
      exact parseBody_reads body h hls hend
    obtain ⟨p, hp, rfl, -⟩ := hread
    rw [hp]
    rfl
  · cases hp : parseBody true ts with
    | error e' =>
      rw [hp] at h
      obtain rfl := Except.error.inj h
      exact parseBody_fails true ts hp
    | ok p => simp [hp, Except.map] at h

/-- A text that has tokens is read as the document, and as the expression, that they derive. -/
theorem parse_text {text : String} {ts : List Located} (h : lex text = .ok ts) :
    Recognises BodyTokens ts (parseDocument text) ∧
      Recognises ExprTokens ts (parseExpression text) := by
  rw [parseDocument, parseExpression, h]
  refine ⟨parseBody_recognises ts, recognises_of_iff (fun e => ⟨fun he => ?_, fun he => ?_⟩) ?_⟩
  · dsimp only at he
    split at he
    · exact absurd he (by simp)
    · rename_i p hp
      split at he
      · rename_i hend
        obtain rfl := Except.ok.inj he
        obtain ⟨ls, hts, hg⟩ := parseExpr_derives p.value ⟨p, hp, rfl, rfl⟩
        rwa [tokensBefore_eq hts hg.endOfText_not_mem hend]
      · exact absurd he (by simp)
  · obtain ⟨ls, rest, hts, hls, hend⟩ := exists_tokensBefore ts
    have hread : Reads (parseExpr ts) e rest := by
      rw [hts]
      exact parseExpr_reads e he hls fun _ _ => by simp [EndsName, hend]
    obtain ⟨p, hp, rfl, hrest⟩ := hread
    simp only [hp, hrest, hend, ↓reduceIte]
  · intro e he
    dsimp only at he
    split at he
    · rename_i hp
      obtain rfl := Except.error.inj he
      exact parseExpr_fails ts hp
    · rename_i p hp
      split at he
      · exact absurd he (by simp)
      · obtain rfl := Except.error.inj he
        obtain ⟨ls, hts, hg⟩ := parseExpr_derives p.value ⟨p, hp, rfl, rfl⟩
        exact (failsAt_head _ _).append hts hg.endOfText_not_mem

/-- A list of tokens of any kind is read to a document's end or to a fault, and so is a text: where
it has tokens, the document is their one derivation by the grammar, and so is the expression. -/
theorem parse_recognises :
    (∀ ts : List Located, Recognises BodyTokens ts ((parseBody true ts).map Parsed.value)) ∧
    ∀ text : String,
      (∃ line fault, lex text = .error (.lex line fault) ∧
        parseDocument text = .error (.lex line fault) ∧
        parseExpression text = .error (.lex line fault)) ∨
      ∃ ls line, lex text = .ok (ls ++ [⟨line, .endOfText⟩]) ∧
        tokensBefore (ls ++ [⟨line, .endOfText⟩]) = ls.map Located.token ∧
        Recognises BodyTokens (ls ++ [⟨line, .endOfText⟩]) (parseDocument text) ∧
        Recognises ExprTokens (ls ++ [⟨line, .endOfText⟩]) (parseExpression text) := by
  refine ⟨parseBody_recognises, fun text => ?_⟩
  cases h : lex text with
  | error e =>
    obtain ⟨line, fault, rfl⟩ := lexFrom_fails h
    exact .inl ⟨line, fault, rfl, by rw [parseDocument, h], by rw [parseExpression, h]⟩
  | ok ts =>
    obtain ⟨ls, line, rfl, hls⟩ := lexFrom_ends h
    exact .inr ⟨ls, line, rfl, tokensBefore_eq rfl hls rfl, parse_text h⟩

end AgentConvert
