import AgentConvert.Document.Canonical
import AgentConvert.Proofs.Document.Grammar
import AgentConvert.Proofs.Document.Lexing

/-!
# What texts spell

`Spells cs ts` says that the lexer makes `ts` of the text `cs` in front of any text that does not go
on with its last token. Texts are put together token by token (`Spells.mark`, `Spells.quote`) and
piece by piece (`Spells.append`). Names, keys and assignments are such pieces in both layouts.
-/

namespace AgentConvert

/-- Whether the lexer makes `ts` of `cs` in front of a text that does not go on with its last
token. -/
def Spells (cs : List Char) (ts : List Token) : Prop :=
  ∀ line rest, Ends rest → ∃ ls l, ls.map Located.token = ts ∧
    lexFrom line (cs ++ rest) = (lexFrom l rest).map (ls ++ ·)

namespace Spells

variable {c : Char} {as bs cs : List Char} {t : Token} {ts us : List Token}

theorem map_map_append {α ε : Type} (x : Except ε (List α)) (as bs : List α) :
    (x.map (bs ++ ·)).map (as ++ ·) = x.map (as ++ bs ++ ·) := by
  cases x <;> simp [Except.map]

theorem nil : Spells [] [] := fun line rest _ => by
  refine ⟨[], line, rfl, ?_⟩
  cases h : lexFrom line rest <;> simp [Except.map, h]

/-- Two pieces, the second of which does not go on with the last token of the first. -/
theorem append (ha : Spells as ts) (hb : Spells bs us) (h : Ends bs) :
    Spells (as ++ bs) (ts ++ us) := fun line rest hr => by
  have hbr : Ends (bs ++ rest) := by
    cases bs with
    | nil => exact hr
    | cons c bs => exact h
  obtain ⟨ls, l, rfl, hls⟩ := ha line (bs ++ rest) hbr
  obtain ⟨ms, m, rfl, hms⟩ := hb l rest hr
  refine ⟨ls ++ ms, m, List.map_append, ?_⟩
  rw [List.append_assoc, hls, hms, map_map_append]

theorem blank (hc : Text.isBlank c = true) (h : Spells cs ts) : Spells (c :: cs) ts :=
  fun line rest hr => by
    rw [List.cons_append, lexFrom_blank hc]
    exact h _ rest hr

theorem blanks (has : ∀ c ∈ as, Text.isBlank c = true) (h : Spells cs ts) :
    Spells (as ++ cs) ts := by
  induction as with
  | nil => exact h
  | cons c as ih =>
    exact blank (has c (List.mem_cons_self ..)) (ih fun d hd => has d (List.mem_cons_of_mem _ hd))

/-- A token in front of a text that does not go on with it. -/
theorem token (hc : startsToken c = true)
    (ht : ∀ rest, Ends rest → readToken c (as ++ (cs ++ rest)) = .ok (t, cs ++ rest))
    (h : Spells cs ts) : Spells (c :: (as ++ cs)) (t :: ts) := fun line rest hr => by
  obtain ⟨ls, l, rfl, hls⟩ := h line rest hr
  refine ⟨⟨line, t⟩ :: ls, l, rfl, ?_⟩
  rw [List.cons_append, List.append_assoc, lexFrom_token hc (ht rest hr), hls]
  exact map_map_append _ [⟨line, t⟩] ls

theorem mark (ht : punctuation? c = some t) (h : Spells cs ts) : Spells (c :: cs) (t :: ts) := by
  rw [← List.nil_append cs]
  refine token (startsToken_of_punctuation? ht) (fun rest _ => ?_) h
  exact readToken_mark ht _

theorem quote (s : String) (h : Spells cs ts) :
    Spells (quoteChars s.toList ++ cs) (.str s :: ts) := by
  show Spells ('"' :: ((s.toList.flatMap escapeChar ++ ['"']) ++ cs)) _
  refine token (by decide) (fun rest _ => ?_) h
  rw [List.append_assoc, List.singleton_append, readToken_quote, String.ofList_toList]

/-- An identifier in front of a text that does not go on with an identifier. -/
theorem identBefore {s : String} (hs : isIdentifier s = true)
    (hc : ∀ rest, Ends rest → ∀ x ∈ (cs ++ rest).head?, isIdentContinue x = false)
    (h : Spells cs ts) : Spells (s.toList ++ cs) (.ident s :: ts) := by
  unfold isIdentifier at hs
  cases hw : s.toList with
  | nil => rw [hw] at hs; exact absurd hs (by decide)
  | cons c word =>
    rw [hw] at hs
    have hstart := hs
    simp only [isIdentifierChars, Bool.and_eq_true] at hstart
    have htoken := startsToken_of_isIdentContinue (isIdentContinue_of_isIdentStart hstart.1)
    refine token htoken (fun rest hr => ?_) h
    rw [readToken_ident hs (hc rest hr), ← hw, String.ofList_toList]

theorem ident {s : String} (h : isIdentifier s = true) : Spells s.toList [.ident s] := by
  rw [← List.append_nil s.toList]
  exact identBefore h (fun _ hr x hx => (hr x hx).1) nil

/-- A dot would go on with a number, but not with an identifier. -/
theorem identDot {s : String} (hs : isIdentifier s = true) (h : Spells cs ts) :
    Spells (s.toList ++ '.' :: cs) (.ident s :: .dot :: ts) := by
  refine identBefore hs (fun _ _ => ?_) (mark rfl h)
  rintro x ⟨⟩
  decide

theorem number {s : String} (h : IsNumber s.toList) : Spells s.toList [.number s] := by
  cases hs : s.toList with
  | nil =>
    obtain ⟨sign, whole, fraction, exponent, heq, -, hwhole, -⟩ := hs ▸ h
    obtain ⟨d, ds, rfl, -⟩ := hwhole.exists_cons
    exact absurd heq.symm (by simp)
  | cons c word =>
    rw [hs] at h
    rw [← List.append_nil word]
    refine token (startsNumber_of_isNumber h []).2.1 (fun rest hr => ?_) nil
    rw [List.nil_append, readToken_number h hr, ← hs, String.ofList_toList]

/-- The end of the text follows what a text spells. -/
theorem lexFrom_eq (h : Spells cs ts) (line : UInt32) :
    ∃ ls l, ls.map Located.token = ts ∧ lexFrom line cs = .ok (ls ++ [⟨l, .endOfText⟩]) := by
  obtain ⟨ls, l, hls, heq⟩ := h line [] ends_nil
  refine ⟨ls, l, hls, ?_⟩
  rw [List.append_nil, lexFrom_nil] at heq
  exact heq

end Spells

/-! ## Names and keys -/

theorem nameChars_cons (s t : String) (segments : List String) :
    nameChars (s :: t :: segments) = s.toList ++ '.' :: nameChars (t :: segments) := by
  simp [nameChars, dottedName, String.intercalate_cons_cons]

theorem spells_nameChars {word : String} {segments : List String}
    (h : ∀ s ∈ word :: segments, isIdentifier s = true) :
    Spells (nameChars (word :: segments)) (nameTokens word segments) := by
  induction segments generalizing word with
  | nil =>
    rw [nameChars, dottedName, String.intercalate_singleton]
    exact .ident (h word (List.mem_cons_self ..))
  | cons s segments ih =>
    rw [nameChars_cons]
    exact .identDot (h word (List.mem_cons_self ..)) (ih fun t ht => h t (List.mem_cons_of_mem _ ht))

/-- A key is bare or quoted, and the grammar has both. -/
theorem spells_keyChars (key : String) :
    ∃ k, Spells (keyChars key) [k] ∧ (k = .ident key ∨ k = .str key) := by
  unfold keyChars
  split
  · rename_i h
    exact ⟨.ident key, .ident h, .inl rfl⟩
  · refine ⟨.str key, ?_, .inr rfl⟩
    rw [← List.append_nil (quoteChars _)]
    exact .quote key .nil

theorem spells_tabs {cs : List Char} {ts : List Token} (depth : Nat) (h : Spells cs ts) :
    Spells (tabs depth ++ cs) ts := by
  refine .blanks (fun c hc => ?_) h
  rw [List.eq_of_mem_replicate hc]
  decide

/-- A key or a name, padded, with its value. -/
theorem spells_assignment {key value : List Char} {k : Token} {ts : List Token} (width : Nat)
    (hk : Spells key [k]) (hv : Spells value ts) :
    Spells (Expr.padTo width key ++ ' ' :: '=' :: ' ' :: value) (k :: .assign :: ts) := by
  have hassign : Spells (' ' :: '=' :: ' ' :: value) (.assign :: ts) :=
    .blank (by decide) (.mark rfl (.blank (by decide) hv))
  rw [Expr.padTo, List.append_assoc]
  refine hk.append (.blanks (fun c hc => ?_) hassign) ?_
  · rw [List.eq_of_mem_replicate hc]
    decide
  · cases width - key.length with
    | zero => exact ends_cons rfl _
    | succ n => exact ends_cons rfl _

theorem Expr.padTo_zero (cs : List Char) : Expr.padTo 0 cs = cs := by
  simp [Expr.padTo]

end AgentConvert
