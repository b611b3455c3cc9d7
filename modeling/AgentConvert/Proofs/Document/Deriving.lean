import AgentConvert.Proofs.Document.Reading

/-!
# What the parser reads is derived by the grammar

The other half of `Reading`: where a reader succeeds, the tokens that it took derive what it
returned (`parseExpr_derives`, `parseBody_derives`). A step of a reader is given back by one lemma
for each (`parseExpr_step`, `parseItems_step`, `parseFields_step`, `parseStatement_step`,
`parseBody_step`), with the readers that it called; the derivations are then put together along the
tree that was returned.

With `Reading`, a reader takes the tokens that it took once again in front of any that start in the
same way (`parseExpr_again`, `parseStatement_again`).
-/

namespace AgentConvert

/-! ## Names -/

theorem takeIdent_derives {ts rest : List Located} {name : String}
    (h : Reads (takeIdent ts) name rest) : ∃ line, ts = ⟨line, .ident name⟩ :: rest := by
  obtain ⟨p, hp, rfl, rfl⟩ := h
  unfold takeIdent at hp
  split at hp
  · obtain rfl := Except.ok.inj hp
    exact ⟨_, rfl⟩
  · exact absurd hp (by simp)

theorem takeToken_derives {t : Token} {mark : Char} {ts rest : List Located}
    (h : Reads (takeToken t mark ts) () rest) : ∃ line, ts = ⟨line, t⟩ :: rest := by
  obtain ⟨p, hp, -, rfl⟩ := h
  unfold takeToken at hp
  split at hp
  · exact absurd hp (by simp)
  · split at hp
    · rename_i u _ ht
      obtain rfl := Except.ok.inj hp
      exact ⟨u.line, by rw [← ht]⟩
    · exact absurd hp (by simp)

theorem parseSegments_derives {ts rest : List Located} {segments : List String}
    (h : Reads (parseSegments ts) segments rest) :
    ∃ ls, ts = ls ++ rest ∧ ls.map Located.token = segmentTokens segments := by
  fun_induction parseSegments ts generalizing segments with
  | case1 | case2 => obtain ⟨p, hp, -⟩ := h; exact absurd hp (by simp)
  | case3 line after s hs tail htail ih =>
    obtain ⟨p, hp, rfl, rfl⟩ := h
    obtain rfl := Except.ok.inj hp
    obtain ⟨l, hafter⟩ := takeIdent_derives ⟨s, hs, rfl, rfl⟩
    obtain ⟨ls, hls, hmap⟩ := ih ⟨tail, htail, rfl, rfl⟩
    refine ⟨⟨line, .dot⟩ :: ⟨l, .ident s.value⟩ :: ls, ?_, ?_⟩
    · exact congrArg (⟨line, .dot⟩ :: ·) (hafter.trans (congrArg (_ :: ·) hls))
    · rw [List.map_cons, List.map_cons, hmap, segmentTokens_cons]
  | case4 =>
    obtain ⟨p, hp, rfl, rfl⟩ := h
    obtain rfl := Except.ok.inj hp
    exact ⟨[], rfl, rfl⟩

/-- A name is read as far as it goes. -/
theorem parseSegments_ends {ts rest : List Located} {segments : List String}
    (h : Reads (parseSegments ts) segments rest) : headToken rest ≠ .dot := by
  fun_induction parseSegments ts generalizing segments with
  | case1 | case2 => obtain ⟨p, hp, -⟩ := h; exact absurd hp (by simp)
  | case3 _ _ _ _ tail htail ih =>
    obtain ⟨p, hp, rfl, rfl⟩ := h
    obtain rfl := Except.ok.inj hp
    exact ih ⟨tail, htail, rfl, rfl⟩
  | case4 ts hdot =>
    obtain ⟨p, hp, rfl, rfl⟩ := h
    obtain rfl := Except.ok.inj hp
    cases ts with
    | nil => simp [headToken]
    | cons t ts => exact fun ht => hdot t.line ts (by rw [← ht]; rfl)

/-! ## Steps of expressions -/

/-- How an expression was read: the token at the head, and the readers of what is behind it. -/
inductive ExprStep : List Located → Expr → List Located → Prop
  | null {line : UInt32} {rest : List Located} : ExprStep (⟨line, .ident "null"⟩ :: rest) .null rest
  | bool {line : UInt32} {rest : List Located} (b : Bool) :
    ExprStep (⟨line, .ident (if b then "true" else "false")⟩ :: rest) (.bool b) rest
  | number {line : UInt32} {n : String} {rest : List Located} :
    ExprStep (⟨line, .number n⟩ :: rest) (.number n) rest
  | str {line : UInt32} {s : String} {rest : List Located} :
    ExprStep (⟨line, .str s⟩ :: rest) (.str s) rest
  | path {line : UInt32} {word : String} {segments : List String} {ts rest : List Located}
    (hw : word ∉ literalWords) (h : Reads (parseSegments ts) segments rest)
    (hr : headToken rest ≠ .openParen) :
    ExprStep (⟨line, .ident word⟩ :: ts) (.path (word :: segments)) rest
  | array {line : UInt32} {items : List Expr} {ts rest : List Located}
    (h : Reads (parseItems .closeBracket ']' ts) items rest) :
    ExprStep (⟨line, .openBracket⟩ :: ts) (.array items) rest
  | object {line : UInt32} {fields : List (String × Expr)} {ts rest : List Located}
    (h : Reads (parseFields ts) fields rest) :
    ExprStep (⟨line, .openBrace⟩ :: ts) (.object fields) rest
  | call {line l : UInt32} {word : String} {segments : List String} {args : List Expr}
    {ts inner rest : List Located} (hw : word ∉ literalWords)
    (h : Reads (parseSegments ts) segments (⟨l, .openParen⟩ :: inner))
    (ha : Reads (parseItems .closeParen ')' inner) args rest) :
    ExprStep (⟨line, .ident word⟩ :: ts) (.call (word :: segments) args) rest

theorem parseExpr_step {ts rest : List Located} {e : Expr} (h : Reads (parseExpr ts) e rest) :
    ExprStep ts e rest := by
  obtain ⟨p, hp, rfl, rfl⟩ := h
  rw [parseExpr.eq_def] at hp
  split at hp
  · rename_i line word after
    split at hp
    · rename_i hnull
      obtain rfl := Except.ok.inj hp
      subst hnull
      exact .null
    · rename_i hnull
      split at hp
      · rename_i hbool
        obtain rfl := Except.ok.inj hp
        rcases hbool with rfl | rfl
        · exact .bool true
        · exact .bool false
      · rename_i hbool
        have hw : word ∉ literalWords := by simpa [literalWords, hnull] using hbool
        split at hp
        · exact absurd hp (by simp)
        · rename_i segments hsegments
          split at hp
          · rename_i l inner hrest
            split at hp
            · exact absurd hp (by simp)
            · rename_i args hargs
              obtain rfl := Except.ok.inj hp
              exact .call hw ⟨segments, hsegments, rfl, hrest⟩ ⟨args, hargs, rfl, rfl⟩
          · rename_i hparen
            obtain rfl := Except.ok.inj hp
            refine .path hw ⟨segments, hsegments, rfl, rfl⟩ fun ht => ?_
            cases hrest : segments.rest with
            | nil => rw [hrest] at ht; exact absurd ht (by simp [headToken])
            | cons t after =>
              rw [hrest] at ht
              exact hparen t.line after (by rw [hrest, ← ht]; rfl)
  · obtain rfl := Except.ok.inj hp
    exact .str
  · obtain rfl := Except.ok.inj hp
    exact .number
  · split at hp
    · exact absurd hp (by simp)
    · rename_i items hitems
      obtain rfl := Except.ok.inj hp
      exact .array ⟨items, hitems, rfl, rfl⟩
  · split at hp
    · exact absurd hp (by simp)
    · rename_i fields hfields
      obtain rfl := Except.ok.inj hp
      exact .object ⟨fields, hfields, rfl, rfl⟩
  · exact absurd hp (by simp)

/-- How items were read. -/
inductive ItemsStep (close : Token) (mark : Char) : List Located → List Expr → List Located → Prop
  | close {line : UInt32} {rest : List Located} : ItemsStep close mark (⟨line, close⟩ :: rest) [] rest
  | last {line : UInt32} {ts rest : List Located} {e : Expr}
    (h : Reads (parseExpr ts) e (⟨line, close⟩ :: rest)) : ItemsStep close mark ts [e] rest
  | comma {line : UInt32} {ts after rest : List Located} {e : Expr} {es : List Expr}
    (h : Reads (parseExpr ts) e (⟨line, .comma⟩ :: after))
    (hs : Reads (parseItems close mark after) es rest) : ItemsStep close mark ts (e :: es) rest

/-- At the closing token there is nothing to read. -/
theorem parseItems_of_close {close : Token} {mark : Char} {ts rest : List Located}
    {es : List Expr} (ht : headToken ts = close) (hc : close ≠ .endOfText)
    (h : Reads (parseItems close mark ts) es rest) : ∃ line, ts = ⟨line, close⟩ :: rest ∧ es = [] := by
  cases ts with
  | nil => exact absurd ht hc.symm
  | cons t ts =>
    obtain ⟨p, hp, rfl, rfl⟩ := h
    rw [headToken] at ht
    rw [parseItems, if_pos ht] at hp
    obtain rfl := Except.ok.inj hp
    exact ⟨t.line, by rw [← ht], rfl⟩

theorem parseItems_step {close : Token} {mark : Char} {ts rest : List Located} {es : List Expr}
    (hc : close ≠ .endOfText) (h : Reads (parseItems close mark ts) es rest) :
    ItemsStep close mark ts es rest := by
  obtain ⟨p, hp, rfl, rfl⟩ := h
  rw [parseItems.eq_def] at hp
  split at hp
  · exact absurd hp (by simp)
  · rename_i t after
    split at hp
    · rename_i ht
      obtain rfl := Except.ok.inj hp
      obtain ⟨line, _⟩ := t
      subst ht
      exact .close
    · split at hp
      · exact absurd hp (by simp)
      · rename_i e he
        split at hp
        · rename_i l tail hrest
          split at hp
          · exact absurd hp (by simp)
          · rename_i es hes
            obtain rfl := Except.ok.inj hp
            exact .comma ⟨e, he, rfl, hrest⟩ ⟨es, hes, rfl, rfl⟩
        · split at hp
          · rename_i hclose
            split at hp
            · exact absurd hp (by simp)
            · rename_i es hes
              obtain rfl := Except.ok.inj hp
              obtain ⟨l, hrest, hnil⟩ := parseItems_of_close hclose hc ⟨es, hes, rfl, rfl⟩
              dsimp only
              rw [hnil]
              exact .last ⟨e, he, rfl, hrest⟩
          · exact absurd hp (by simp)

/-- How the fields of an object were read. -/
inductive FieldsStep : List Located → List (String × Expr) → List Located → Prop
  | close {line : UInt32} {rest : List Located} : FieldsStep (⟨line, .closeBrace⟩ :: rest) [] rest
  | last {l m n : UInt32} {k : Token} {key : String} {ts rest : List Located} {e : Expr}
    (hk : k = .ident key ∨ k = .str key) (h : Reads (parseExpr ts) e (⟨n, .closeBrace⟩ :: rest)) :
    FieldsStep (⟨l, k⟩ :: ⟨m, .assign⟩ :: ts) [(key, e)] rest
  | comma {l m n : UInt32} {k : Token} {key : String} {ts after rest : List Located} {e : Expr}
    {fields : List (String × Expr)} (hk : k = .ident key ∨ k = .str key)
    (h : Reads (parseExpr ts) e (⟨n, .comma⟩ :: after)) (hs : Reads (parseFields after) fields rest) :
    FieldsStep (⟨l, k⟩ :: ⟨m, .assign⟩ :: ts) ((key, e) :: fields) rest

theorem parseField_step {l : UInt32} {k : Token} {key : String} {ts rest : List Located}
    {fields : List (String × Expr)} (hk : k = .ident key ∨ k = .str key)
    (h : Reads (parseField key ts) fields rest) : FieldsStep (⟨l, k⟩ :: ts) fields rest := by
  obtain ⟨p, hp, rfl, rfl⟩ := h
  rw [parseField.eq_def] at hp
  split at hp
  · exact absurd hp (by simp)
  · rename_i a ha
    obtain ⟨m, hts⟩ := takeToken_derives ⟨a, ha, rfl, rfl⟩
    obtain ⟨_, after, _⟩ := a
    dsimp only at hts
    subst hts
    split at hp
    · exact absurd hp (by simp)
    · rename_i e he
      split at hp
      · rename_i n after hrest
        split at hp
        · exact absurd hp (by simp)
        · rename_i fields hfields
          obtain rfl := Except.ok.inj hp
          exact .comma hk ⟨e, he, rfl, hrest⟩ ⟨fields, hfields, rfl, rfl⟩
      · rename_i n after hrest
        split at hp
        · exact absurd hp (by simp)
        · rename_i fields hfields
          obtain rfl := Except.ok.inj hp
          have hclosed := parseFields_close n after
          rw [← hrest] at hclosed
          obtain ⟨q, hq, hnil, hafter⟩ := hclosed
          obtain rfl := Except.ok.inj (hfields.symm.trans hq)
          dsimp only
          rw [hnil, hafter]
          exact .last hk ⟨e, he, rfl, hrest⟩
      · exact absurd hp (by simp)

theorem parseFields_step {ts rest : List Located} {fields : List (String × Expr)}
    (h : Reads (parseFields ts) fields rest) : FieldsStep ts fields rest := by
  obtain ⟨p, hp, rfl, rfl⟩ := h
  rw [parseFields.eq_def] at hp
  split at hp
  · obtain rfl := Except.ok.inj hp
    exact .close
  · exact parseField_step (.inl rfl) ⟨_, hp, rfl, rfl⟩
  · exact parseField_step (.inr rfl) ⟨_, hp, rfl, rfl⟩
  · exact absurd hp (by simp)

/-! ## Derivations of expressions -/

mutual
theorem parseExpr_derives : ∀ (e : Expr) {ts rest : List Located}, Reads (parseExpr ts) e rest →
    ∃ ls, ts = ls ++ rest ∧ ExprTokens (ls.map Located.token) e
  | .null, _, _, h => by
    cases parseExpr_step h with
    | null => exact ⟨[_], rfl, .null⟩
  | .bool b, _, _, h => by
    cases parseExpr_step h with
    | bool => exact ⟨[_], rfl, .bool b⟩
  | .number n, _, _, h => by
    cases parseExpr_step h with
    | number => exact ⟨[_], rfl, .number n⟩
  | .str s, _, _, h => by
    cases parseExpr_step h with
    | str => exact ⟨[_], rfl, .str s⟩
  | .path segments, _, _, h => by
    cases parseExpr_step h with
    | path hw hs _ =>
      obtain ⟨ls, rfl, hls⟩ := parseSegments_derives hs
      refine ⟨_ :: ls, rfl, ?_⟩
      rw [List.map_cons, hls]
      exact .path hw
  | .array items, _, _, h => by
    cases parseExpr_step h with
    | @array line _ _ _ hi =>
      obtain ⟨l, ls, rfl, hg⟩ := parseItems_derives items (by simp) hi
      refine ⟨⟨line, .openBracket⟩ :: (ls ++ [⟨l, .closeBracket⟩]), ?_, ?_⟩
      · rw [List.cons_append, List.append_assoc]
        rfl
      · rw [List.map_cons, List.map_append]
        exact .array hg
  | .object fields, _, _, h => by
    cases parseExpr_step h with
    | @object line _ _ _ hf =>
      obtain ⟨l, ls, rfl, hg⟩ := parseFields_derives fields hf
      refine ⟨⟨line, .openBrace⟩ :: (ls ++ [⟨l, .closeBrace⟩]), ?_, ?_⟩
      · rw [List.cons_append, List.append_assoc]
        rfl
      · rw [List.map_cons, List.map_append]
        exact .object hg
  | .call callee args, _, _, h => by
    cases parseExpr_step h with
    | @call line k word _ _ _ _ _ hw hs ha =>
      obtain ⟨ms, rfl, hms⟩ := parseSegments_derives hs
      obtain ⟨l, ls, rfl, hg⟩ := parseItems_derives args (by simp) ha
      refine ⟨⟨line, .ident word⟩ :: (ms ++ ⟨k, .openParen⟩ :: (ls ++ [⟨l, .closeParen⟩])), ?_, ?_⟩
      · rw [List.cons_append, List.append_assoc, List.cons_append, List.append_assoc]
        rfl
      · rw [List.map_cons, List.map_append, List.map_cons, List.map_append, hms]
        exact .call hw hg

theorem parseItems_derives {close : Token} {mark : Char} : ∀ (es : List Expr)
    {ts rest : List Located}, close ≠ .endOfText → Reads (parseItems close mark ts) es rest →
    ∃ l ls, ts = ls ++ ⟨l, close⟩ :: rest ∧ ItemsTokens (ls.map Located.token) es
  | [], _, _, hc, h => by
    cases parseItems_step hc h with
    | close => exact ⟨_, [], rfl, .nil⟩
  | e :: es, _, _, hc, h => by
    cases parseItems_step hc h with
    | last he =>
      obtain ⟨ls, rfl, hg⟩ := parseExpr_derives e he
      exact ⟨_, ls, rfl, .last hg⟩
    | @comma line _ _ _ _ _ he hs =>
      obtain ⟨ls, rfl, hg⟩ := parseExpr_derives e he
      obtain ⟨l, ms, rfl, hgs⟩ := parseItems_derives es hc hs
      refine ⟨l, ls ++ ⟨line, .comma⟩ :: ms, ?_, ?_⟩
      · rw [List.append_assoc, List.cons_append]
      · rw [List.map_append, List.map_cons]
        exact .cons hg hgs

theorem parseFields_derives : ∀ (fields : List (String × Expr)) {ts rest : List Located},
    Reads (parseFields ts) fields rest →
    ∃ l ls, ts = ls ++ ⟨l, .closeBrace⟩ :: rest ∧ FieldsTokens (ls.map Located.token) fields
  | [], _, _, h => by
    cases parseFields_step h with
    | close => exact ⟨_, [], rfl, .nil⟩
  | (key, e) :: fields, _, _, h => by
    cases parseFields_step h with
    | last hk he =>
      obtain ⟨ls, rfl, hg⟩ := parseExpr_derives e he
      exact ⟨_, _ :: _ :: ls, rfl, .last hk hg⟩
    | @comma m n line k _ _ _ _ _ _ hk he hs =>
      obtain ⟨ls, rfl, hg⟩ := parseExpr_derives e he
      obtain ⟨l, ms, rfl, hgs⟩ := parseFields_derives fields hs
      refine ⟨l, ⟨m, k⟩ :: ⟨n, .assign⟩ :: (ls ++ ⟨line, .comma⟩ :: ms), ?_, ?_⟩
      · rw [List.cons_append, List.cons_append, List.append_assoc, List.cons_append]
      · rw [List.map_cons, List.map_cons, List.map_append, List.map_cons]
        exact .cons hk hg hgs
end

/-! ## Steps of statements -/

/-- How a statement was read. -/
inductive StatementStep : List Located → Statement → List Located → Prop
  | attribute {l m : UInt32} {name : String} {value : Expr} {ts rest : List Located}
    (h : Reads (parseExpr ts) value rest) :
    StatementStep (⟨l, .ident name⟩ :: ⟨m, .assign⟩ :: ts) (.attribute name value) rest
  | block {l m n : UInt32} {word : String} {segments : List String} {label : Option String}
    {body : Body} {ts labels inner rest : List Located}
    (hs : Reads (parseSegments ts) segments (labels ++ ⟨m, .openBrace⟩ :: inner))
    (hl : labels.map Located.token = labelTokens label)
    (hb : Reads (parseBody false inner) body (⟨n, .closeBrace⟩ :: rest)) :
    StatementStep (⟨l, .ident word⟩ :: ts) (.block (word :: segments) label body) rest

/-- A label is taken where one stands. -/
theorem takeLabel_derives (ts : List Located) : ∃ labels, ts = labels ++ (takeLabel ts).rest ∧
    labels.map Located.token = labelTokens (takeLabel ts).value := by
  unfold takeLabel
  split
  · exact ⟨[_], rfl, rfl⟩
  · exact ⟨[], rfl, rfl⟩

theorem parseStatement_step {ts rest : List Located} {s : Statement}
    (h : Reads (parseStatement ts) s rest) : StatementStep ts s rest := by
  obtain ⟨p, hp, rfl, rfl⟩ := h
  rw [parseStatement.eq_def] at hp
  split at hp
  · exact absurd hp (by simp)
  · rename_i first hfirst
    obtain ⟨l, hts⟩ := takeIdent_derives ⟨first, hfirst, rfl, rfl⟩
    obtain ⟨word, behind, _⟩ := first
    dsimp only at hts
    subst hts
    split at hp
    · rename_i m after hrest
      split at hp
      · exact absurd hp (by simp)
      · rename_i value hvalue
        obtain rfl := Except.ok.inj hp
        dsimp only at hrest
        subst hrest
        exact .attribute ⟨value, hvalue, rfl, rfl⟩
    · split at hp
      · exact absurd hp (by simp)
      · rename_i segments hsegments
        dsimp only at hp
        split at hp
        · exact absurd hp (by simp)
        · rename_i opened hopened
          split at hp
          · exact absurd hp (by simp)
          · rename_i body hbody
            split at hp
            · exact absurd hp (by simp)
            · rename_i closed hclosed
              obtain rfl := Except.ok.inj hp
              obtain ⟨labels, hlabels, hmap⟩ := takeLabel_derives segments.rest
              obtain ⟨m, hm⟩ := takeToken_derives ⟨opened, hopened, rfl, rfl⟩
              obtain ⟨n, hn⟩ := takeToken_derives ⟨closed, hclosed, rfl, rfl⟩
              rw [hm] at hlabels
              exact .block ⟨segments, hsegments, rfl, hlabels⟩ hmap ⟨body, hbody, rfl, hn⟩

/-- How a body was read. -/
inductive BodyStep (top : Bool) : List Located → Body → List Located → Prop
  | done {rest : List Located} (h : headToken rest = bodyEnd top) : BodyStep top rest [] rest
  | cons {ts after rest : List Located} {s : Statement} {body : Body}
    (h : Reads (parseStatement ts) s after) (hs : Reads (parseBody top after) body rest) :
    BodyStep top ts (s :: body) rest

theorem parseBody_step {top : Bool} {ts rest : List Located} {body : Body}
    (h : Reads (parseBody top ts) body rest) : BodyStep top ts body rest := by
  obtain ⟨p, hp, rfl, rfl⟩ := h
  rw [parseBody.eq_def] at hp
  split at hp
  · rename_i ht
    split at hp
    · rename_i htop
      obtain rfl := Except.ok.inj hp
      exact .done (by rw [ht, bodyEnd, if_pos htop])
    · exact absurd hp (by simp)
  · rename_i ht
    split at hp
    · exact absurd hp (by simp)
    · rename_i htop
      obtain rfl := Except.ok.inj hp
      exact .done (by rw [ht, bodyEnd, if_neg htop])
  · split at hp
    · exact absurd hp (by simp)
    · rename_i s hs
      split at hp
      · exact absurd hp (by simp)
      · rename_i body hbody
        obtain rfl := Except.ok.inj hp
        exact .cons ⟨s, hs, rfl, rfl⟩ ⟨body, hbody, rfl, rfl⟩

/-! ## Derivations of statements -/

mutual
theorem parseStatement_derives : ∀ (s : Statement) {ts rest : List Located},
    Reads (parseStatement ts) s rest →
    ∃ ls, ts = ls ++ rest ∧ StatementTokens (ls.map Located.token) s
  | .attribute name value, _, _, h => by
    cases parseStatement_step h with
    | «attribute» hv =>
      obtain ⟨ls, rfl, hg⟩ := parseExpr_derives value hv
      exact ⟨_ :: _ :: ls, rfl, .attribute hg⟩
  | .block name label body, _, _, h => by
    cases parseStatement_step h with
    | @block l m n word segments _ _ _ labels inner _ hs hl hb =>
      obtain ⟨ms, rfl, hms⟩ := parseSegments_derives hs
      obtain ⟨ls, rfl, hg, -⟩ := parseBody_derives body hb
      refine ⟨⟨l, .ident word⟩ :: (ms ++ (labels ++ ⟨m, .openBrace⟩ :: (ls ++ [⟨n, .closeBrace⟩]))),
        by simp, ?_⟩
      simp only [List.map_cons, List.map_append, hms, hl]
      exact .block hg

theorem parseBody_derives : ∀ (body : Body) {top : Bool} {ts rest : List Located},
    Reads (parseBody top ts) body rest →
    ∃ ls, ts = ls ++ rest ∧ BodyTokens (ls.map Located.token) body ∧ headToken rest = bodyEnd top
  | [], _, _, _, h => by
    cases parseBody_step h with
    | done hr => exact ⟨[], rfl, .nil, hr⟩
  | s :: body, _, _, _, h => by
    cases parseBody_step h with
    | cons hs hb =>
      obtain ⟨ls, rfl, hg⟩ := parseStatement_derives s hs
      obtain ⟨ms, rfl, hgs, hr⟩ := parseBody_derives body hb
      refine ⟨ls ++ ms, by simp, ?_, hr⟩
      rw [List.map_append]
      exact .cons hg hgs
end

/-! ## Reading the same tokens again -/

/-- A reader returns one result. -/
theorem Reads.unique {α : Type} {n : Nat} {r : Except SyntaxError (Parsed Located α n)} {v w : α}
    {rest rest' : List Located} (h : Reads r v rest) (h' : Reads r w rest') :
    v = w ∧ rest = rest' := by
  obtain ⟨p, hp, rfl, rfl⟩ := h
  obtain ⟨q, hq, rfl, rfl⟩ := h'
  obtain rfl := Except.ok.inj (hp.symm.trans hq)
  exact ⟨rfl, rfl⟩

theorem exists_of_headToken {ts : List Located} {t : Token} (h : headToken ts = t)
    (ht : t ≠ .endOfText) : ∃ line rest, ts = ⟨line, t⟩ :: rest := by
  cases ts with
  | nil => exact absurd h.symm ht
  | cons u rest => exact ⟨u.line, rest, by rw [← h]; rfl⟩

theorem headToken_append {ls ms rest after : List Located}
    (hms : ms.map Located.token = ls.map Located.token) (hr : headToken after = headToken rest) :
    headToken (ms ++ after) = headToken (ls ++ rest) := by
  cases ls with
  | nil =>
    rw [List.map_nil, List.map_eq_nil_iff] at hms
    rw [hms]
    exact hr
  | cons t ls =>
    obtain ⟨line, us, rfl, -⟩ := map_token_cons hms
    rfl

section Again

variable {ts ls ms rest after : List Located}

theorem parseSegments_again {segments : List String}
    (h : Reads (parseSegments ts) segments rest) (hts : ts = ls ++ rest)
    (hms : ms.map Located.token = ls.map Located.token) (hr : headToken after = headToken rest) :
    Reads (parseSegments (ms ++ after)) segments after := by
  obtain ⟨us, hus, hmap⟩ := parseSegments_derives h
  obtain rfl := List.append_cancel_right (hts.symm.trans hus)
  exact parseSegments_reads (hms.trans hmap) (hr ▸ parseSegments_ends h)

theorem parseExpr_ends {e : Expr} (h : Reads (parseExpr ts) e rest) :
    e.EndsBefore rest := by
  rintro name rfl
  cases parseExpr_step h with
  | path _ hs hr => exact ⟨parseSegments_ends hs, hr⟩

theorem parseExpr_again {e : Expr} (h : Reads (parseExpr ts) e rest) (hts : ts = ls ++ rest)
    (hms : ms.map Located.token = ls.map Located.token) (hr : headToken after = headToken rest) :
    Reads (parseExpr (ms ++ after)) e after := by
  obtain ⟨us, hus, hg⟩ := parseExpr_derives e h
  obtain rfl := List.append_cancel_right (hts.symm.trans hus)
  refine parseExpr_reads e hg hms fun name hname => ?_
  rw [EndsName, hr]
  exact parseExpr_ends h name hname

theorem parseStatement_ends {s : Statement} (h : Reads (parseStatement ts) s rest) :
    s.EndsBefore rest := by
  rintro name value rfl
  cases parseStatement_step h with
  | «attribute» hv => exact parseExpr_ends hv

theorem parseStatement_again {s : Statement} (h : Reads (parseStatement ts) s rest)
    (hts : ts = ls ++ rest) (hms : ms.map Located.token = ls.map Located.token)
    (hr : headToken after = headToken rest) :
    Reads (parseStatement (ms ++ after)) s after := by
  obtain ⟨us, hus, hg⟩ := parseStatement_derives s h
  obtain rfl := List.append_cancel_right (hts.symm.trans hus)
  refine parseStatement_reads s hg hms fun name value hs path hpath => ?_
  rw [EndsName, hr]
  exact parseStatement_ends h name value hs path hpath

end Again

end AgentConvert
