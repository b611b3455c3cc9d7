import AgentConvert.Document.Parser
import AgentConvert.Proofs.Document.Grammar

/-!
# The parser reads what the grammar derives

Where the tokens of an expression, a statement or a body stand in front of tokens that do not go on
with it, the parser takes exactly these and returns what they stand for (`parseExpr_reads`,
`parseBody_reads`). The lemmas before them are the parser's steps, one for each way a list of
tokens can start.
-/

namespace AgentConvert

/-- Whether a reader returned `v` and left `rest`. -/
def Reads {α : Type} {n : Nat} (r : Except SyntaxError (Parsed Located α n)) (v : α)
    (rest : List Located) : Prop :=
  ∃ p, r = .ok p ∧ p.value = v ∧ p.rest = rest

/-- Whether a dotted name, and with it an expression, ends before `rest`. -/
def EndsName (rest : List Located) : Prop :=
  headToken rest ≠ .dot ∧ headToken rest ≠ .openParen

/-- Whether an expression ends before `rest`. Only a dotted name could go on. -/
def Expr.EndsBefore (e : Expr) (rest : List Located) : Prop :=
  ∀ name, e = .path name → EndsName rest

/-- Whether a statement ends before `rest`. Only an attribute could go on, with its value. -/
def Statement.EndsBefore (s : Statement) (rest : List Located) : Prop :=
  ∀ name value, s = .attribute name value → value.EndsBefore rest

/-! ## Names -/

theorem takeIdent_ident (line : UInt32) (name : String) (rest : List Located) :
    Reads (takeIdent (⟨line, .ident name⟩ :: rest)) name rest :=
  ⟨_, rfl, rfl, rfl⟩

theorem takeToken_self (line : UInt32) (t : Token) (mark : Char) (rest : List Located) :
    takeToken t mark (⟨line, t⟩ :: rest) = .ok ⟨(), rest, Nat.lt_succ_self _⟩ := by
  simp [takeToken]

/-- A name ends where no dot follows. -/
theorem parseSegments_end {rest : List Located} (h : headToken rest ≠ .dot) :
    Reads (parseSegments rest) [] rest := by
  rw [parseSegments.eq_def]
  split
  · exact absurd rfl h
  · exact ⟨_, rfl, rfl, rfl⟩

theorem parseSegments_dot (line : UInt32) {ts after rest : List Located} {s : String}
    {segments : List String} (hs : Reads (takeIdent ts) s after)
    (h : Reads (parseSegments after) segments rest) :
    Reads (parseSegments (⟨line, .dot⟩ :: ts)) (s :: segments) rest := by
  obtain ⟨p, hp, rfl, rfl⟩ := hs
  obtain ⟨q, hq, rfl, rfl⟩ := h
  rw [parseSegments]
  simp only [hp, hq]
  exact ⟨_, rfl, rfl, rfl⟩

theorem parseSegments_reads {segments : List String} {ls rest : List Located}
    (h : ls.map Located.token = segmentTokens segments) (hr : headToken rest ≠ .dot) :
    Reads (parseSegments (ls ++ rest)) segments rest := by
  induction segments generalizing ls with
  | nil =>
    rw [segmentTokens_nil, List.map_eq_nil_iff] at h
    subst h
    exact parseSegments_end hr
  | cons s segments ih =>
    simp only [segmentTokens_cons, List.map_eq_cons_iff] at h
    obtain ⟨⟨l, _⟩, _, rfl, rfl, ⟨m, _⟩, ls, rfl, rfl, hls⟩ := h
    exact parseSegments_dot l (takeIdent_ident m s _) (ih hls)

/-! ## Expressions -/

/-- A word that is no literal starts a name. -/
theorem parseExpr_path (line : UInt32) {word : String} {segments : List String}
    {ts rest : List Located} (hw : word ∉ literalWords)
    (h : Reads (parseSegments ts) segments rest) (hr : headToken rest ≠ .openParen) :
    Reads (parseExpr (⟨line, .ident word⟩ :: ts)) (.path (word :: segments)) rest := by
  obtain ⟨p, hp, rfl, rfl⟩ := h
  simp only [literalWords, List.mem_cons, List.not_mem_nil, or_false, not_or] at hw
  rw [parseExpr]
  simp only [hw, or_self, ↓reduceIte, hp]
  split
  · rename_i heq
    rw [heq] at hr
    exact absurd rfl hr
  · exact ⟨_, rfl, rfl, rfl⟩

theorem parseExpr_call (line l : UInt32) {word : String} {segments : List String} {args : List Expr}
    {ts inner rest : List Located} (hw : word ∉ literalWords)
    (h : Reads (parseSegments ts) segments (⟨l, .openParen⟩ :: inner))
    (ha : Reads (parseItems .closeParen ')' inner) args rest) :
    Reads (parseExpr (⟨line, .ident word⟩ :: ts)) (.call (word :: segments) args) rest := by
  obtain ⟨p, hp, rfl, hrest⟩ := h
  obtain ⟨q, hq, rfl, rfl⟩ := ha
  simp only [literalWords, List.mem_cons, List.not_mem_nil, or_false, not_or] at hw
  rw [parseExpr]
  simp only [hw, or_self, ↓reduceIte, hp]
  split
  · rename_i heq
    obtain ⟨-, rfl⟩ := List.cons.inj (hrest.symm.trans heq)
    simp only [hq]
    exact ⟨_, rfl, rfl, rfl⟩
  · rename_i hne
    exact absurd hrest (hne _ _)

theorem parseExpr_array (line : UInt32) {items : List Expr} {ts rest : List Located}
    (h : Reads (parseItems .closeBracket ']' ts) items rest) :
    Reads (parseExpr (⟨line, .openBracket⟩ :: ts)) (.array items) rest := by
  obtain ⟨p, hp, rfl, rfl⟩ := h
  rw [parseExpr]
  simp only [hp]
  exact ⟨_, rfl, rfl, rfl⟩

theorem parseExpr_object (line : UInt32) {fields : List (String × Expr)} {ts rest : List Located}
    (h : Reads (parseFields ts) fields rest) :
    Reads (parseExpr (⟨line, .openBrace⟩ :: ts)) (.object fields) rest := by
  obtain ⟨p, hp, rfl, rfl⟩ := h
  rw [parseExpr]
  simp only [hp]
  exact ⟨_, rfl, rfl, rfl⟩

/-! ## Items -/

theorem parseItems_close (line : UInt32) (close : Token) (mark : Char) (rest : List Located) :
    Reads (parseItems close mark (⟨line, close⟩ :: rest)) [] rest := by
  refine ⟨⟨[], rest, Nat.lt_succ_self _⟩, ?_, rfl, rfl⟩
  rw [parseItems]
  simp

theorem not_reads_parseExpr_nil {e : Expr} {rest : List Located} :
    ¬Reads (parseExpr []) e rest := by
  rintro ⟨p, hp, -, -⟩
  rw [parseExpr] at hp
  · exact absurd hp (by simp)
  all_goals simp

/-- An item and a comma, and what the items behind the comma are. -/
theorem parseItems_comma {close : Token} {mark : Char} {ts after rest : List Located} {e : Expr}
    {es : List Expr} {l : UInt32} (ht : headToken ts ≠ close)
    (h : Reads (parseExpr ts) e (⟨l, .comma⟩ :: after))
    (hs : Reads (parseItems close mark after) es rest) :
    Reads (parseItems close mark ts) (e :: es) rest := by
  cases ts with
  | nil => exact absurd h not_reads_parseExpr_nil
  | cons t ts =>
    obtain ⟨⟨e, _, _⟩, hp, rfl, rfl⟩ := h
    obtain ⟨q, hq, rfl, rfl⟩ := hs
    rw [headToken] at ht
    rw [parseItems]
    simp only [ht, ↓reduceIte, hp, hq]
    exact ⟨_, rfl, rfl, rfl⟩

/-- An item without a comma is the last one. -/
theorem parseItems_last {close : Token} {mark : Char} {ts rest : List Located} {e : Expr} {l : UInt32}
    (ht : headToken ts ≠ close) (hc : close ≠ .comma)
    (h : Reads (parseExpr ts) e (⟨l, close⟩ :: rest)) :
    Reads (parseItems close mark ts) [e] rest := by
  cases ts with
  | nil => exact absurd h not_reads_parseExpr_nil
  | cons t ts =>
    obtain ⟨⟨e, after, hlt⟩, hp, rfl, rfl⟩ := h
    obtain ⟨q, hq, hnil, hrest⟩ := parseItems_close l close mark rest
    rw [headToken] at ht
    rw [parseItems]
    simp only [ht, ↓reduceIte, hp]
    split
    · rename_i heq
      exact absurd (congrArg headToken heq) hc
    · simp only [headToken, ↓reduceIte, hq]
      exact ⟨_, rfl, by rw [hnil], hrest⟩

/-! ## Fields -/

theorem parseFields_close (line : UInt32) (rest : List Located) :
    Reads (parseFields (⟨line, .closeBrace⟩ :: rest)) [] rest := by
  rw [parseFields]
  exact ⟨_, rfl, rfl, rfl⟩

/-- A key is bare or quoted. -/
theorem parseFields_key {k : Token} {key : String} (line : UInt32) {fields : List (String × Expr)}
    {ts rest : List Located} (hk : k = .ident key ∨ k = .str key)
    (h : Reads (parseField key ts) fields rest) :
    Reads (parseFields (⟨line, k⟩ :: ts)) fields rest := by
  obtain ⟨p, hp, rfl, rfl⟩ := h
  rcases hk with rfl | rfl <;> (rw [parseFields, hp]; exact ⟨_, rfl, rfl, rfl⟩)

theorem parseField_comma {key : String} {e : Expr} {fields : List (String × Expr)}
    {ts after rest : List Located} (line l : UInt32)
    (h : Reads (parseExpr ts) e (⟨l, .comma⟩ :: after)) (hs : Reads (parseFields after) fields rest) :
    Reads (parseField key (⟨line, .assign⟩ :: ts)) ((key, e) :: fields) rest := by
  obtain ⟨⟨e, _, _⟩, hp, rfl, rfl⟩ := h
  obtain ⟨q, hq, rfl, rfl⟩ := hs
  rw [parseField]
  simp only [takeToken_self, hp, hq]
  exact ⟨_, rfl, rfl, rfl⟩

theorem parseField_last {key : String} {e : Expr} {ts rest : List Located} (line l : UInt32)
    (h : Reads (parseExpr ts) e (⟨l, .closeBrace⟩ :: rest)) :
    Reads (parseField key (⟨line, .assign⟩ :: ts)) [(key, e)] rest := by
  obtain ⟨⟨e, _, _⟩, hp, rfl, rfl⟩ := h
  obtain ⟨q, hq, hnil, hrest⟩ := parseFields_close l rest
  rw [parseField]
  simp only [takeToken_self, hp, hq]
  exact ⟨_, rfl, by rw [hnil], hrest⟩

/-! ## Derivations of expressions -/

theorem map_token_cons {ls : List Located} {t : Token} {ts : List Token}
    (h : ls.map Located.token = t :: ts) :
    ∃ line us, ls = ⟨line, t⟩ :: us ∧ us.map Located.token = ts := by
  obtain ⟨⟨line, _⟩, us, rfl, rfl, hus⟩ := List.map_eq_cons_iff.1 h
  exact ⟨line, us, rfl, hus⟩

theorem map_token_singleton {ls : List Located} {t : Token} (h : ls.map Located.token = [t]) :
    ∃ line, ls = [⟨line, t⟩] := by
  obtain ⟨line, us, rfl, hus⟩ := map_token_cons h
  rw [List.map_eq_nil_iff] at hus
  exact ⟨line, by rw [hus]⟩

theorem map_token_append_cons {ls : List Located} {t : Token} {ts us : List Token}
    (h : ls.map Located.token = ts ++ t :: us) :
    ∃ line ms ns, ls = ms ++ ⟨line, t⟩ :: ns ∧ ms.map Located.token = ts ∧
      ns.map Located.token = us := by
  obtain ⟨ms, ns', rfl, hms, hns⟩ := List.map_eq_append_iff.1 h
  obtain ⟨line, ns, rfl, hus⟩ := map_token_cons hns
  exact ⟨line, ms, ns, rfl, hms, hus⟩

/-- What stands between brackets. -/
theorem map_token_closed {ls : List Located} {t : Token} {ts : List Token}
    (h : ls.map Located.token = ts ++ [t]) :
    ∃ line ms, ls = ms ++ [⟨line, t⟩] ∧ ms.map Located.token = ts := by
  obtain ⟨line, ms, ns, rfl, hms, hns⟩ := map_token_append_cons h
  rw [List.map_eq_nil_iff] at hns
  exact ⟨line, ms, by rw [hns], hms⟩

/-- No expression starts with a closing bracket. -/
theorem ExprTokens.headToken_ne {ts : List Token} {e : Expr} {close : Token} {ls : List Located}
    (h : ExprTokens ts e) (hls : ls.map Located.token = ts)
    (hc : close = .closeBracket ∨ close = .closeParen) (rest : List Located) :
    headToken (ls ++ rest) ≠ close := by
  have hcons : ∃ t us, ts = t :: us ∧ t ≠ .closeBracket ∧ t ≠ .closeParen := by
    cases h <;> exact ⟨_, _, rfl, by simp, by simp⟩
  obtain ⟨t, us, rfl, hbracket, hparen⟩ := hcons
  obtain ⟨l, ms, rfl, -⟩ := map_token_cons hls
  rcases hc with rfl | rfl
  · exact hbracket
  · exact hparen

mutual
theorem parseExpr_reads : ∀ (e : Expr) {ts : List Token} {ls rest : List Located},
    ExprTokens ts e → ls.map Located.token = ts → e.EndsBefore rest →
    Reads (parseExpr (ls ++ rest)) e rest
  | .null, _, ls, rest, h, hls, _ => by
    cases h
    obtain ⟨l, rfl⟩ := map_token_singleton hls
    rw [List.cons_append, parseExpr]
    exact ⟨_, rfl, rfl, rfl⟩
  | .bool b, _, ls, rest, h, hls, _ => by
    cases h
    obtain ⟨l, rfl⟩ := map_token_singleton hls
    rw [List.cons_append, parseExpr]
    cases b <;> exact ⟨_, rfl, rfl, rfl⟩
  | .number n, _, ls, rest, h, hls, _ => by
    cases h
    obtain ⟨l, rfl⟩ := map_token_singleton hls
    rw [List.cons_append, parseExpr]
    exact ⟨_, rfl, rfl, rfl⟩
  | .str s, _, ls, rest, h, hls, _ => by
    cases h
    obtain ⟨l, rfl⟩ := map_token_singleton hls
    rw [List.cons_append, parseExpr]
    exact ⟨_, rfl, rfl, rfl⟩
  | .path name, _, ls, rest, h, hls, hr => by
    cases h with
    | path hw =>
      obtain ⟨l, us, rfl, hus⟩ := map_token_cons hls
      obtain ⟨hdot, hparen⟩ := hr _ rfl
      exact parseExpr_path l hw (parseSegments_reads hus hdot) hparen
  | .array items, _, ls, rest, h, hls, _ => by
    cases h with
    | array hi =>
      obtain ⟨l, us, rfl, hus⟩ := map_token_cons hls
      obtain ⟨m, ms, rfl, hms⟩ := map_token_closed hus
      rw [List.cons_append, List.append_assoc]
      exact parseExpr_array l (parseItems_reads _ items m (.inl rfl) hi hms)
  | .object fields, _, ls, rest, h, hls, _ => by
    cases h with
    | object hf =>
      obtain ⟨l, us, rfl, hus⟩ := map_token_cons hls
      obtain ⟨m, ms, rfl, hms⟩ := map_token_closed hus
      rw [List.cons_append, List.append_assoc]
      exact parseExpr_object l (parseFields_reads fields m hf hms)
  | .call callee args, _, ls, rest, h, hls, _ => by
    cases h with
    | call hw ha =>
      obtain ⟨l, us, rfl, hus⟩ := map_token_cons hls
      obtain ⟨m, ms, ns, rfl, hms, hns⟩ := map_token_append_cons hus
      obtain ⟨k, ks, rfl, hks⟩ := map_token_closed hns
      have hname : Reads (parseSegments (ms ++ ⟨m, .openParen⟩ :: (ks ++ ⟨k, .closeParen⟩ :: rest)))
          _ (⟨m, .openParen⟩ :: (ks ++ ⟨k, .closeParen⟩ :: rest)) :=
        parseSegments_reads hms (by simp [headToken])
      rw [List.cons_append, List.append_assoc, List.cons_append, List.append_assoc]
      exact parseExpr_call l m hw hname (parseItems_reads _ args k (.inr rfl) ha hks)

theorem parseItems_reads {close : Token} (mark : Char) : ∀ (es : List Expr) {ts : List Token}
    {ls rest : List Located} (l : UInt32), close = .closeBracket ∨ close = .closeParen →
    ItemsTokens ts es → ls.map Located.token = ts →
    Reads (parseItems close mark (ls ++ ⟨l, close⟩ :: rest)) es rest
  | [], _, ls, rest, l, _, h, hls => by
    cases h
    rw [List.map_eq_nil_iff] at hls
    subst hls
    exact parseItems_close l close mark rest
  | e :: es, _, ls, rest, l, hc, h, hls => by
    have hdot : close ≠ .dot ∧ close ≠ .openParen ∧ close ≠ .comma := by
      rcases hc with rfl | rfl <;> simp
    cases h with
    | last he =>
      have hexpr : Reads (parseExpr (ls ++ ⟨l, close⟩ :: rest)) e _ :=
        parseExpr_reads e he hls fun _ _ => ⟨hdot.1, hdot.2.1⟩
      exact parseItems_last (he.headToken_ne hls hc _) hdot.2.2 hexpr
    | cons he hs =>
      obtain ⟨m, ms, ns, rfl, hms, hns⟩ := map_token_append_cons hls
      have hexpr : Reads (parseExpr (ms ++ ⟨m, .comma⟩ :: (ns ++ ⟨l, close⟩ :: rest))) e _ :=
        parseExpr_reads e he hms fun _ _ => ⟨by simp [headToken], by simp [headToken]⟩
      rw [List.append_assoc, List.cons_append]
      exact parseItems_comma (he.headToken_ne hms hc _) hexpr (parseItems_reads mark es l hc hs hns)

theorem parseFields_reads : ∀ (fields : List (String × Expr)) {ts : List Token}
    {ls rest : List Located} (l : UInt32), FieldsTokens ts fields → ls.map Located.token = ts →
    Reads (parseFields (ls ++ ⟨l, .closeBrace⟩ :: rest)) fields rest
  | [], _, ls, rest, l, h, hls => by
    cases h
    rw [List.map_eq_nil_iff] at hls
    subst hls
    exact parseFields_close l rest
  | (key, e) :: fields, _, ls, rest, l, h, hls => by
    cases h with
    | last hk he =>
      obtain ⟨m, ms, rfl, hms⟩ := map_token_cons hls
      obtain ⟨n, ns, rfl, hns⟩ := map_token_cons hms
      have hexpr : Reads (parseExpr (ns ++ ⟨l, .closeBrace⟩ :: rest)) e _ :=
        parseExpr_reads e he hns fun _ _ => ⟨by simp [headToken], by simp [headToken]⟩
      exact parseFields_key m hk (parseField_last n l hexpr)
    | cons hk he hs =>
      obtain ⟨m, ms, rfl, hms⟩ := map_token_cons hls
      obtain ⟨n, ns, rfl, hns⟩ := map_token_cons hms
      obtain ⟨k, ks, us, rfl, hks, hus⟩ := map_token_append_cons hns
      have hexpr : Reads (parseExpr (ks ++ ⟨k, .comma⟩ :: (us ++ ⟨l, .closeBrace⟩ :: rest))) e _ :=
        parseExpr_reads e he hks fun _ _ => ⟨by simp [headToken], by simp [headToken]⟩
      rw [List.cons_append, List.cons_append, List.append_assoc, List.cons_append]
      exact parseFields_key m hk (parseField_comma n k hexpr (parseFields_reads fields l hs hus))
end

/-! ## Statements -/

theorem parseStatement_attribute (l m : UInt32) {name : String} {value : Expr}
    {ts rest : List Located} (h : Reads (parseExpr ts) value rest) :
    Reads (parseStatement (⟨l, .ident name⟩ :: ⟨m, .assign⟩ :: ts)) (.attribute name value) rest := by
  obtain ⟨p, hp, rfl, rfl⟩ := h
  rw [parseStatement]
  simp only [takeIdent, hp]
  exact ⟨_, rfl, rfl, rfl⟩

/-- A name without `=` behind it starts a block. -/
theorem parseStatement_block (l m n : UInt32) {word : String} {segments : List String}
    {label : Option String} {body : Body} {ts labels inner rest : List Located}
    (ht : headToken ts ≠ .assign) (hl : labels.map Located.token = labelTokens label)
    (h : Reads (parseSegments ts) segments (labels ++ ⟨m, .openBrace⟩ :: inner))
    (hb : Reads (parseBody false inner) body (⟨n, .closeBrace⟩ :: rest)) :
    Reads (parseStatement (⟨l, .ident word⟩ :: ts)) (.block (word :: segments) label body) rest := by
  obtain ⟨⟨segments, _, _⟩, hp, rfl, rfl⟩ := h
  obtain ⟨⟨body, _, _⟩, hq, rfl, rfl⟩ := hb
  rw [parseStatement]
  simp only [takeIdent]
  split
  · exact absurd rfl ht
  · cases label with
    | none =>
      rw [labelTokens, List.map_eq_nil_iff] at hl
      subst hl
      simp only [hp, List.nil_append, takeLabel, takeToken_self, hq]
      exact ⟨_, rfl, rfl, rfl⟩
    | some s =>
      obtain ⟨k, rfl⟩ := map_token_singleton hl
      simp only [hp, List.cons_append, List.nil_append, takeLabel, takeToken_self, hq]
      exact ⟨_, rfl, rfl, rfl⟩

/-- The token at which a body ends. -/
def bodyEnd (top : Bool) : Token := if top then .endOfText else .closeBrace

theorem parseBody_end {top : Bool} {rest : List Located} (h : headToken rest = bodyEnd top) :
    Reads (parseBody top rest) [] rest := by
  rw [parseBody]
  cases top <;> (simp only [h, bodyEnd, Bool.false_eq_true, ↓reduceIte]; exact ⟨_, rfl, rfl, rfl⟩)

theorem parseBody_cons {top : Bool} {s : Statement} {body : Body} {ts after rest : List Located}
    (ht : headToken ts ≠ .endOfText ∧ headToken ts ≠ .closeBrace)
    (h : Reads (parseStatement ts) s after) (hs : Reads (parseBody top after) body rest) :
    Reads (parseBody top ts) (s :: body) rest := by
  obtain ⟨p, hp, rfl, rfl⟩ := h
  obtain ⟨q, hq, rfl, rfl⟩ := hs
  rw [parseBody]
  split
  · rename_i heq
    exact absurd heq ht.1
  · rename_i heq
    exact absurd heq ht.2
  · simp only [hp, hq]
    exact ⟨_, rfl, rfl, rfl⟩

/-! ## Derivations of statements -/

/-- Neither `=` nor a further segment follows the name of a block. -/
theorem headToken_label {labels : List Located} {label : Option String} (l : UInt32)
    (inner : List Located) (h : labels.map Located.token = labelTokens label) :
    headToken (labels ++ ⟨l, .openBrace⟩ :: inner) ≠ .assign ∧
      headToken (labels ++ ⟨l, .openBrace⟩ :: inner) ≠ .dot := by
  cases label with
  | none =>
    rw [labelTokens, List.map_eq_nil_iff] at h
    subst h
    simp [headToken]
  | some s =>
    obtain ⟨m, rfl⟩ := map_token_singleton h
    simp [headToken]

theorem headToken_segments {ls rest : List Located} {segments : List String}
    (h : ls.map Located.token = segmentTokens segments) (hr : headToken rest ≠ .assign) :
    headToken (ls ++ rest) ≠ .assign := by
  cases segments with
  | nil =>
    rw [segmentTokens_nil, List.map_eq_nil_iff] at h
    rw [h]
    exact hr
  | cons s segments =>
    obtain ⟨l, us, rfl, -⟩ := map_token_cons h
    simp [headToken]

/-- A statement starts with a word. -/
theorem StatementTokens.exists_ident {ts : List Token} {s : Statement} {ls : List Located}
    (h : StatementTokens ts s) (hls : ls.map Located.token = ts) (rest : List Located) :
    ∃ word, headToken (ls ++ rest) = .ident word := by
  have hcons : ∃ word us, ts = .ident word :: us := by
    cases h <;> exact ⟨_, _, rfl⟩
  obtain ⟨word, us, rfl⟩ := hcons
  obtain ⟨l, ms, rfl, -⟩ := map_token_cons hls
  exact ⟨word, rfl⟩

/-- The statements of a body do not go on with what stands before them. -/
theorem BodyTokens.endsName {top : Bool} {ts : List Token} {body : Body} {ls rest : List Located}
    (h : BodyTokens ts body) (hls : ls.map Located.token = ts)
    (hr : headToken rest = bodyEnd top) : EndsName (ls ++ rest) := by
  cases h with
  | nil =>
    rw [List.map_eq_nil_iff] at hls
    subst hls
    rw [List.nil_append, EndsName, hr]
    cases top <;> simp [bodyEnd]
  | cons hs hb =>
    obtain ⟨ms, ns, rfl, hms, -⟩ := List.map_eq_append_iff.1 hls
    obtain ⟨word, hword⟩ := hs.exists_ident hms (ns ++ rest)
    rw [List.append_assoc, EndsName, hword]
    simp

mutual
theorem parseStatement_reads : ∀ (s : Statement) {ts : List Token} {ls rest : List Located},
    StatementTokens ts s → ls.map Located.token = ts → s.EndsBefore rest →
    Reads (parseStatement (ls ++ rest)) s rest
  | .attribute name value, _, ls, rest, h, hls, hr => by
    cases h with
    | «attribute» he =>
      obtain ⟨l, us, rfl, hus⟩ := map_token_cons hls
      obtain ⟨m, ms, rfl, hms⟩ := map_token_cons hus
      exact parseStatement_attribute l m (parseExpr_reads value he hms (hr _ _ rfl))
  | .block name label body, _, ls, rest, h, hls, _ => by
    cases h with
    | block hb =>
      obtain ⟨l, us, rfl, hus⟩ := map_token_cons hls
      obtain ⟨ms, ns, rfl, hms, hns⟩ := List.map_eq_append_iff.1 hus
      obtain ⟨k, labels, ks, rfl, hlabels, hks⟩ := map_token_append_cons hns
      obtain ⟨n, inner, rfl, hinner⟩ := map_token_closed hks
      have htail := headToken_label k (inner ++ ⟨n, .closeBrace⟩ :: rest) hlabels
      have hname := parseSegments_reads hms htail.2
      have hbody : Reads (parseBody false (inner ++ ⟨n, .closeBrace⟩ :: rest)) body _ :=
        parseBody_reads body hb hinner rfl
      have hassoc : ms ++ (labels ++ ⟨k, .openBrace⟩ :: (inner ++ [⟨n, .closeBrace⟩])) ++ rest =
          ms ++ (labels ++ ⟨k, .openBrace⟩ :: (inner ++ ⟨n, .closeBrace⟩ :: rest)) := by
        simp
      rw [List.cons_append, hassoc]
      exact parseStatement_block l k n (headToken_segments hms htail.1) hlabels hname hbody

theorem parseBody_reads : ∀ (body : Body) {top : Bool} {ts : List Token}
    {ls rest : List Located}, BodyTokens ts body → ls.map Located.token = ts →
    headToken rest = bodyEnd top → Reads (parseBody top (ls ++ rest)) body rest
  | [], top, _, ls, rest, h, hls, hr => by
    cases h
    rw [List.map_eq_nil_iff] at hls
    subst hls
    exact parseBody_end hr
  | s :: body, top, _, ls, rest, h, hls, hr => by
    cases h with
    | cons hs hb =>
      obtain ⟨ms, ns, rfl, hms, hns⟩ := List.map_eq_append_iff.1 hls
      obtain ⟨word, hword⟩ := hs.exists_ident hms (ns ++ rest)
      rw [List.append_assoc]
      have hends : s.EndsBefore (ns ++ rest) := fun _ _ _ _ _ => hb.endsName hns hr
      refine parseBody_cons ?_ (parseStatement_reads s hs hms hends) (parseBody_reads body hb hns hr)
      rw [hword]
      simp
end

end AgentConvert
