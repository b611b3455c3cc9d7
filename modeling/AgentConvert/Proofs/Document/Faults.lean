import AgentConvert.Proofs.Document.Deriving

/-!
# Where the parser stops

A reader that reads nothing stops at a token that it was given, which is the one that its error is
about, and never behind the end of the text (`FailsAt`). This is the first token that cannot stand
where it does (`Halts`): the tokens before it can be completed to what the grammar derives, and the
reader reads nothing of any tokens that start with these and with it (`parseExpr_halts`).

What a reader reads and refuses depends on no token behind the one at which it ends or stops. The
parts that it has passed it reads again in front of any tokens that start in the same way, and the
steps in `Deriving` leave it no other way on once a part is refused.
-/

namespace AgentConvert

/-! ## The end of the text is in no derivation -/

theorem endOfText_not_mem_segmentTokens (segments : List String) :
    Token.endOfText ∉ segmentTokens segments := by
  simp [segmentTokens]

theorem endOfText_not_mem_nameTokens (word : String) (segments : List String) :
    Token.endOfText ∉ nameTokens word segments := by
  simp [nameTokens, segmentTokens]

theorem endOfText_not_mem_labelTokens (label : Option String) :
    Token.endOfText ∉ labelTokens label := by
  cases label <;> simp [labelTokens]

theorem endOfText_ne_key {k : Token} {key : String} (hk : k = .ident key ∨ k = .str key) :
    Token.endOfText ≠ k := by
  rcases hk with rfl | rfl <;> simp

mutual
theorem ExprTokens.endOfText_not_mem : ∀ {ts : List Token} {e : Expr}, ExprTokens ts e →
    Token.endOfText ∉ ts
  | _, _, .null => by simp
  | _, _, .bool b => by simp
  | _, _, .number n => by simp
  | _, _, .str s => by simp
  | _, _, .path _ => endOfText_not_mem_nameTokens _ _
  | _, _, .array h => by simp [h.endOfText_not_mem]
  | _, _, .object h => by simp [h.endOfText_not_mem]
  | _, _, .call _ h => by simp [h.endOfText_not_mem, endOfText_not_mem_nameTokens]

theorem ItemsTokens.endOfText_not_mem : ∀ {ts : List Token} {es : List Expr},
    ItemsTokens ts es → Token.endOfText ∉ ts
  | _, _, .nil => by simp
  | _, _, .last h => h.endOfText_not_mem
  | _, _, .cons h hs => by simp [h.endOfText_not_mem, hs.endOfText_not_mem]

theorem FieldsTokens.endOfText_not_mem : ∀ {ts : List Token} {fields : List (String × Expr)},
    FieldsTokens ts fields → Token.endOfText ∉ ts
  | _, _, .nil => by simp
  | _, _, .last hk h => by simp [endOfText_ne_key hk, h.endOfText_not_mem]
  | _, _, .cons hk h hs => by
    simp [endOfText_ne_key hk, h.endOfText_not_mem, hs.endOfText_not_mem]
end

mutual
theorem StatementTokens.endOfText_not_mem : ∀ {ts : List Token} {s : Statement},
    StatementTokens ts s → Token.endOfText ∉ ts
  | _, _, .attribute h => by simp [h.endOfText_not_mem]
  | _, _, .block h => by
    simp [h.endOfText_not_mem, endOfText_not_mem_nameTokens, endOfText_not_mem_labelTokens]

theorem BodyTokens.endOfText_not_mem : ∀ {ts : List Token} {body : Body},
    BodyTokens ts body → Token.endOfText ∉ ts
  | _, _, .nil => by simp
  | _, _, .cons h hs => by simp [h.endOfText_not_mem, hs.endOfText_not_mem]
end

/-! ## Where a reader stops -/

/-- Whether a reader reads nothing. -/
def Refuses {α : Type} {n : Nat} (r : Except SyntaxError (Parsed Located α n)) : Prop :=
  ∀ v rest, ¬Reads r v rest

/-- Whether a token is a mark, a word or a text. Tokens that are missing can be made of these. -/
def Token.isPlain : Token → Bool
  | .ident name => isIdentifier name
  | .number _ | .endOfText => false
  | _ => true

/-- Whether `e` is a fault at one of the tokens of `ts`, up to the end of the text. -/
def FailsAt (ts : List Located) (e : SyntaxError) : Prop :=
  ∃ ls rest, ts = ls ++ rest ∧ .endOfText ∉ ls.map Located.token ∧
    ∃ fault, e = faultAt rest fault

theorem failsAt_head (ts : List Located) (fault : Token → ParseFault) :
    FailsAt ts (faultAt ts fault) :=
  ⟨[], ts, rfl, by simp, fault, rfl⟩

/-- A fault behind tokens that were read. -/
theorem FailsAt.append {ts ls rest : List Located} {e : SyntaxError} (h : FailsAt rest e)
    (hts : ts = ls ++ rest) (hls : .endOfText ∉ ls.map Located.token) : FailsAt ts e := by
  obtain ⟨ms, us, rfl, hms, hfault⟩ := h
  exact ⟨ls ++ ms, us, by simp [hts], by simp_all, hfault⟩

/-- Whether `e` is a fault at the first token of `ts` that cannot stand there: tokens that are
derived start with those before it, and what starts with these and with it is refused. -/
def Halts (Derives : List Token → Prop) (Refused : List Located → Prop) (ts : List Located)
    (e : SyntaxError) : Prop :=
  ∃ ls rest, ts = ls ++ rest ∧ .endOfText ∉ ls.map Located.token ∧
    (∃ fault, e = faultAt rest fault) ∧
    (∃ us, us.all Token.isPlain = true ∧ Derives (ls.map Located.token ++ us)) ∧
    ∀ ms after, ms.map Located.token = ls.map Located.token →
      headToken after = headToken rest → Refused (ms ++ after)

section Halts

variable {Derives Derives' : List Token → Prop} {Refused Refused' : List Located → Prop}
  {ts rest : List Located} {e : SyntaxError}

theorem Halts.failsAt (h : Halts Derives Refused ts e) : FailsAt ts e := by
  obtain ⟨ls, rest, hts, hls, hfault, -⟩ := h
  exact ⟨ls, rest, hts, hls, hfault⟩

/-- A fault behind tokens that can be completed with `us`. -/
theorem halts_behind (ms : List Located) (hts : ts = ms ++ rest)
    (hms : .endOfText ∉ ms.map Located.token) (us : List Token) (hus : us.all Token.isPlain = true)
    (hd : Derives (ms.map Located.token ++ us))
    (hr : ∀ ns after, ns.map Located.token = ms.map Located.token →
      headToken after = headToken rest → Refused (ns ++ after)) (fault : Token → ParseFault) :
    Halts Derives Refused ts (faultAt rest fault) :=
  ⟨ms, rest, hts, hms, ⟨fault, rfl⟩, ⟨us, hus, hd⟩, hr⟩

/-- A fault at the head. -/
theorem halts_head (us : List Token) (hus : us.all Token.isPlain = true) (hd : Derives us)
    (hr : ∀ after, headToken after = headToken ts → Refused after) (fault : Token → ParseFault) :
    Halts Derives Refused ts (faultAt ts fault) := by
  refine halts_behind [] rfl (by simp) us hus hd (fun ns after hns hafter => ?_) fault
  rw [List.map_nil, List.map_eq_nil_iff] at hns
  rw [hns]
  exact hr after hafter

/-- A fault of the reader of what is behind `ms`. Tokens that complete the part and then `close`
complete the whole. -/
theorem Halts.append (h : Halts Derives' Refused' rest e) (ms : List Located)
    (hts : ts = ms ++ rest) (hms : .endOfText ∉ ms.map Located.token) (close : List Token)
    (hclose : close.all Token.isPlain = true)
    (hd : ∀ us, Derives' us → Derives (ms.map Located.token ++ (us ++ close)))
    (hr : ∀ ns after, ns.map Located.token = ms.map Located.token →
      headToken after = headToken rest → Refused' after → Refused (ns ++ after)) :
    Halts Derives Refused ts e := by
  obtain ⟨ls, behind, rfl, hls, hfault, ⟨us, hus, hd'⟩, hr'⟩ := h
  refine ⟨ms ++ ls, behind, by rw [hts, List.append_assoc], ?_, hfault, ⟨us ++ close, ?_, ?_⟩, ?_⟩
  · rw [List.map_append, List.mem_append, not_or]
    exact ⟨hms, hls⟩
  · rw [List.all_append, hus, hclose]
    rfl
  · rw [List.map_append, List.append_assoc, ← List.append_assoc (ls.map _)]
    exact hd _ hd'
  · intro vs after hvs hafter
    rw [List.map_append] at hvs
    obtain ⟨ns, ks, rfl, hns, hks⟩ := List.map_eq_append_iff.1 hvs
    rw [List.append_assoc]
    exact hr ns (ks ++ after) hns (headToken_append hks hafter) (hr' ks after hks hafter)

/-- A fault of the reader of the first part. -/
theorem Halts.first (h : Halts Derives' Refused' ts e) (close : List Token)
    (hclose : close.all Token.isPlain = true) (hd : ∀ us, Derives' us → Derives (us ++ close))
    (hr : ∀ after, headToken after = headToken ts → Refused' after → Refused after) :
    Halts Derives Refused ts e := by
  refine h.append [] rfl (by simp) close hclose hd fun ns after hns hafter hrefused => ?_
  rw [List.map_nil, List.map_eq_nil_iff] at hns
  rw [hns]
  exact hr after hafter hrefused

/-- A fault of the reader of what is behind one token. -/
theorem Halts.cons (h : Halts Derives' Refused' rest e) {t : Located} (hts : ts = t :: rest)
    (ht : t.token ≠ .endOfText) (close : List Token) (hclose : close.all Token.isPlain = true)
    (hd : ∀ us, Derives' us → Derives (t.token :: (us ++ close)))
    (hr : ∀ line after, headToken after = headToken rest → Refused' after →
      Refused (⟨line, t.token⟩ :: after)) : Halts Derives Refused ts e := by
  refine h.append [t] hts (by simpa using ht.symm) close hclose hd
    fun ns after hns hafter hrefused => ?_
  obtain ⟨line, rfl⟩ := map_token_singleton hns
  exact hr line after hafter hrefused

end Halts

/-! ## Names -/

theorem takeIdent_halts {ts : List Located} {e : SyntaxError} (h : takeIdent ts = .error e) :
    Halts (fun us => ∃ name, us = [.ident name]) (fun us => Refuses (takeIdent us)) ts e := by
  unfold takeIdent at h
  split at h
  · exact absurd h (by simp)
  · rename_i hident
    obtain rfl := Except.error.inj h
    refine halts_head [.ident "a"] (by decide) ⟨"a", rfl⟩ (fun after hafter v rest hr => ?_) _
    obtain ⟨l, rfl⟩ := takeIdent_derives hr
    obtain ⟨m, us, rfl⟩ := exists_of_headToken hafter.symm (by simp [headToken])
    exact hident m v us rfl

theorem takeToken_fails {t : Token} {mark : Char} {ts : List Located} {e : SyntaxError}
    (ht : t ≠ .endOfText) (h : takeToken t mark ts = .error e) :
    headToken ts ≠ t ∧ e = faultAt ts (.expected mark) := by
  unfold takeToken at h
  split at h
  · obtain rfl := Except.error.inj h
    exact ⟨ht.symm, rfl⟩
  · split at h
    · exact absurd h (by simp)
    · rename_i hu
      obtain rfl := Except.error.inj h
      exact ⟨hu, rfl⟩

/-- A segment stands behind each dot. -/
theorem parseSegments_of_dot {line : UInt32} {ts rest : List Located} {segments : List String}
    (h : Reads (parseSegments (⟨line, .dot⟩ :: ts)) segments rest) :
    ∃ s tail after, Reads (takeIdent ts) s after ∧ Reads (parseSegments after) tail rest := by
  obtain ⟨p, hp, rfl, rfl⟩ := h
  rw [parseSegments] at hp
  split at hp
  · exact absurd hp (by simp)
  · rename_i s hs
    split at hp
    · exact absurd hp (by simp)
    · rename_i tail htail
      obtain rfl := Except.ok.inj hp
      exact ⟨s.value, tail.value, s.rest, ⟨s, hs, rfl, rfl⟩, ⟨tail, htail, rfl, rfl⟩⟩

theorem parseSegments_halts {ts : List Located} {e : SyntaxError}
    (h : parseSegments ts = .error e) :
    Halts (fun us => ∃ segments, us = segmentTokens segments)
      (fun us => Refuses (parseSegments us)) ts e := by
  fun_induction parseSegments ts with
  | case1 line rest e' hident =>
    obtain rfl := Except.error.inj h
    refine (takeIdent_halts hident).cons rfl (by simp) [] rfl ?_ ?_
    · rintro us ⟨name, rfl⟩
      exact ⟨[name], rfl⟩
    · intro l after _ hrefused segments behind hr
      obtain ⟨s, tail, us, hs, -⟩ := parseSegments_of_dot hr
      exact hrefused s us hs
  | case2 line rest p hp e' hs ih =>
    obtain rfl := Except.error.inj h
    obtain ⟨l, hrest⟩ := takeIdent_derives ⟨p, hp, rfl, rfl⟩
    refine (ih hs).append [⟨line, .dot⟩, ⟨l, .ident p.value⟩]
      (congrArg (⟨line, .dot⟩ :: ·) hrest) (by simp) [] rfl ?_ ?_
    · rintro us ⟨segments, rfl⟩
      exact ⟨p.value :: segments, by simp⟩
    · intro ns after hns _ hrefused segments behind hr
      obtain ⟨m, us, rfl, hus⟩ := map_token_cons hns
      obtain ⟨n, rfl⟩ := map_token_singleton hus
      obtain ⟨s, tail, vs, hs, htail⟩ := parseSegments_of_dot hr
      obtain ⟨-, rfl⟩ := hs.unique (takeIdent_ident n p.value after)
      exact hrefused tail behind htail
  | case3 | case4 => exact absurd h (by simp)

/-! ## Faults of expressions -/

/-- Whether an expression may start with a token. -/
def Token.startsExpr : Token → Bool
  | .ident _ | .str _ | .number _ | .openBracket | .openBrace => true
  | _ => false

theorem startsExpr_of_reads {ts rest : List Located} {e : Expr}
    (h : Reads (parseExpr ts) e rest) : (headToken ts).startsExpr = true := by
  cases parseExpr_step h <;> rfl

section Parts

variable {ts after rest : List Located}

/-- Behind a word that is no literal stands the rest of its name, and then the arguments if the
name is called. -/
theorem parseExpr_of_name {l : UInt32} {word : String} {e : Expr} (hw : word ∉ literalWords)
    (h : Reads (parseExpr (⟨l, .ident word⟩ :: ts)) e rest) :
    ∃ segments after, Reads (parseSegments ts) segments after ∧
      ∀ m inner, after = ⟨m, .openParen⟩ :: inner →
        ∃ args, Reads (parseItems .closeParen ')' inner) args rest := by
  cases parseExpr_step h with
  | null => exact absurd (by decide) hw
  | bool b => exact absurd (by cases b <;> decide) hw
  | @path _ _ segments _ _ _ hs hr =>
    refine ⟨segments, rest, hs, ?_⟩
    rintro m inner rfl
    exact absurd rfl hr
  | @call _ m _ segments args _ inner _ _ hs ha =>
    refine ⟨segments, _, hs, fun n us hus => ⟨args, ?_⟩⟩
    obtain ⟨-, rfl⟩ := List.cons.inj hus
    exact ha

/-- Whatever stands behind the opening parenthesis of a call, it starts with the arguments. -/
theorem parseItems_of_call {l m : UInt32} {word : String} {segments : List String}
    {ms ns : List Located} {e : Expr} (hw : word ∉ literalWords)
    (hms : ms.map Located.token = segmentTokens segments)
    (hns : ns.map Located.token = (⟨l, .ident word⟩ :: (ms ++ [⟨m, .openParen⟩])).map Located.token)
    (h : Reads (parseExpr (ns ++ after)) e rest) :
    ∃ args, Reads (parseItems .closeParen ')' after) args rest := by
  rw [List.map_cons, List.map_append, hms] at hns
  obtain ⟨k, ks, rfl, hks⟩ := map_token_cons hns
  obtain ⟨n, us, rfl, hus⟩ := map_token_closed hks
  rw [List.cons_append, List.append_assoc] at h
  obtain ⟨_, vs, hs, hargs⟩ := parseExpr_of_name hw h
  have hname : Reads (parseSegments (us ++ ⟨n, .openParen⟩ :: after)) segments
      (⟨n, .openParen⟩ :: after) := parseSegments_reads hus (by simp [headToken])
  obtain ⟨-, rfl⟩ := hs.unique hname
  exact hargs n after rfl

theorem parseItems_of_array {l : UInt32} {e : Expr}
    (h : Reads (parseExpr (⟨l, .openBracket⟩ :: ts)) e rest) :
    ∃ items, Reads (parseItems .closeBracket ']' ts) items rest := by
  cases parseExpr_step h with
  | array hi => exact ⟨_, hi⟩

theorem parseFields_of_object {l : UInt32} {e : Expr}
    (h : Reads (parseExpr (⟨l, .openBrace⟩ :: ts)) e rest) :
    ∃ fields, Reads (parseFields ts) fields rest := by
  cases parseExpr_step h with
  | object hf => exact ⟨_, hf⟩

/-- Items start with what closes them or with an expression. -/
theorem parseItems_start {close : Token} {mark : Char} {es : List Expr}
    (hc : close ≠ .endOfText) (h : Reads (parseItems close mark ts) es rest) :
    headToken ts = close ∨ ∃ e after, Reads (parseExpr ts) e after := by
  cases parseItems_step hc h with
  | close => exact .inl rfl
  | last he => exact .inr ⟨_, _, he⟩
  | comma he _ => exact .inr ⟨_, _, he⟩

/-- Behind an item stands what closes the items, or a comma and further items. -/
theorem parseItems_of_item {close : Token} {mark : Char} {e : Expr} {es : List Expr}
    (hc : close = .closeBracket ∨ close = .closeParen) (he : Reads (parseExpr ts) e after)
    (h : Reads (parseItems close mark ts) es rest) :
    headToken after = close ∨
      ∃ l us es', after = ⟨l, .comma⟩ :: us ∧ Reads (parseItems close mark us) es' rest := by
  have hstart := startsExpr_of_reads he
  cases parseItems_step (by rcases hc with rfl | rfl <;> simp) h with
  | close => rcases hc with rfl | rfl <;> exact absurd hstart Bool.false_ne_true
  | last he' =>
    obtain ⟨-, rfl⟩ := he.unique he'
    exact .inl rfl
  | @comma l _ us _ _ es' he' hs =>
    obtain ⟨-, rfl⟩ := he.unique he'
    exact .inr ⟨l, us, es', rfl, hs⟩

/-- Whatever stands behind an item and its comma, further items are read of it. -/
theorem parseItems_of_comma {close : Token} {mark : Char} {l : UInt32} {e : Expr} {es : List Expr}
    {us ms ns behind : List Located} (hc : close = .closeBracket ∨ close = .closeParen)
    (he : Reads (parseExpr ts) e (⟨l, .comma⟩ :: us)) (hms : ts = ms ++ ⟨l, .comma⟩ :: us)
    (hns : ns.map Located.token = List.map Located.token (ms ++ [⟨l, .comma⟩]))
    (h : Reads (parseItems close mark (ns ++ behind)) es rest) :
    ∃ es', Reads (parseItems close mark behind) es' rest := by
  rw [List.map_append] at hns
  obtain ⟨m, vs, rfl, hvs⟩ := map_token_closed hns
  rw [List.append_assoc] at h
  have hagain : Reads (parseExpr (vs ++ ⟨m, .comma⟩ :: behind)) e (⟨m, .comma⟩ :: behind) :=
    parseExpr_again he hms hvs rfl
  rcases parseItems_of_item hc hagain h with hhead | ⟨_, _, es', hus, hes⟩
  · rcases hc with rfl | rfl <;> exact absurd hhead (by simp [headToken])
  · obtain ⟨-, rfl⟩ := List.cons.inj hus
    exact ⟨es', hes⟩

/-- Fields start with what closes them or with a key. -/
theorem parseFields_start {fields : List (String × Expr)}
    (h : Reads (parseFields ts) fields rest) :
    headToken ts = .closeBrace ∨ ∃ key, headToken ts = .ident key ∨ headToken ts = .str key := by
  cases parseFields_step h with
  | close => exact .inl rfl
  | last hk _ => exact .inr ⟨_, hk⟩
  | comma hk _ _ => exact .inr ⟨_, hk⟩

theorem parseField_of_key {l : UInt32} {k : Token} {key : String} {fields : List (String × Expr)}
    (hk : k = .ident key ∨ k = .str key) (h : Reads (parseFields (⟨l, k⟩ :: ts)) fields rest) :
    Reads (parseField key ts) fields rest := by
  obtain ⟨p, hp, rfl, rfl⟩ := h
  rcases hk with rfl | rfl <;> (rw [parseFields] at hp; exact ⟨p, hp, rfl, rfl⟩)

/-- Behind a key stands its value. -/
theorem parseField_start {key : String} {fields : List (String × Expr)}
    (h : Reads (parseField key ts) fields rest) :
    ∃ m us e after, ts = ⟨m, .assign⟩ :: us ∧ Reads (parseExpr us) e after := by
  cases parseField_step (l := 0) (.inl rfl) h with
  | last _ he => exact ⟨_, _, _, _, rfl, he⟩
  | comma _ he _ => exact ⟨_, _, _, _, rfl, he⟩

/-- Behind the value of a field stands what closes the fields, or a comma and further fields. -/
theorem parseField_of_value {m : UInt32} {key : String} {e : Expr} {fields : List (String × Expr)}
    (he : Reads (parseExpr ts) e after)
    (h : Reads (parseField key (⟨m, .assign⟩ :: ts)) fields rest) :
    headToken after = .closeBrace ∨
      ∃ l us fields', after = ⟨l, .comma⟩ :: us ∧ Reads (parseFields us) fields' rest := by
  cases parseField_step (l := 0) (.inl rfl) h with
  | last _ he' =>
    obtain ⟨-, rfl⟩ := he.unique he'
    exact .inl rfl
  | @comma _ _ l _ _ _ us _ _ fields' _ he' hs =>
    obtain ⟨-, rfl⟩ := he.unique he'
    exact .inr ⟨l, us, fields', rfl, hs⟩

/-- Whatever stands behind a field and its comma, further fields are read of it. -/
theorem parseFields_of_comma {l m : UInt32} {key : String} {e : Expr}
    {fields : List (String × Expr)} {us ms ns behind : List Located}
    (he : Reads (parseExpr ts) e (⟨l, .comma⟩ :: us))
    (hms : ts = ms ++ ⟨l, .comma⟩ :: us)
    (hns : ns.map Located.token = (⟨m, .assign⟩ :: (ms ++ [⟨l, .comma⟩])).map Located.token)
    (h : Reads (parseField key (ns ++ behind)) fields rest) :
    ∃ fields', Reads (parseFields behind) fields' rest := by
  rw [List.map_cons, List.map_append] at hns
  obtain ⟨_, ks, rfl, hks⟩ := map_token_cons hns
  obtain ⟨n, vs, rfl, hvs⟩ := map_token_closed hks
  rw [List.cons_append, List.append_assoc] at h
  have hagain : Reads (parseExpr (vs ++ ⟨n, .comma⟩ :: behind)) e (⟨n, .comma⟩ :: behind) :=
    parseExpr_again he hms hvs rfl
  rcases parseField_of_value hagain h with hhead | ⟨_, _, fields', hus, hfields⟩
  · exact absurd hhead (by simp [headToken])
  · obtain ⟨-, rfl⟩ := List.cons.inj hus
    exact ⟨fields', hfields⟩

end Parts

mutual
/-- The tokens before a fault go on as an expression, which can be completed with `null` and with
what closes the brackets that are open. -/
theorem parseExpr_halts (ts : List Located) {e : SyntaxError} (h : parseExpr ts = .error e) :
    Halts (fun us => ∃ v, ExprTokens us v) (fun us => Refuses (parseExpr us)) ts e := by
  rw [parseExpr.eq_def] at h
  split at h
  · rename_i line word rest
    split at h
    · exact absurd h (by simp)
    rename_i hnull
    split at h
    · exact absurd h (by simp)
    rename_i hbool
    have hw : word ∉ literalWords := by simpa [literalWords, hnull] using hbool
    split at h
    · rename_i hs
      obtain rfl := Except.error.inj h
      refine (parseSegments_halts hs).cons rfl (by simp) [] rfl ?_ ?_
      · rintro us ⟨segments, rfl⟩
        rw [List.append_nil]
        exact ⟨.path (word :: segments), .path hw⟩
      · intro l after _ hrefused v behind hr
        obtain ⟨segments, us, hs, -⟩ := parseExpr_of_name hw hr
        exact hrefused segments us hs
    · rename_i p hp
      have := p.shorter
      split at h
      · rename_i m inner hrest
        split at h
        · rename_i hi
          obtain rfl := Except.error.inj h
          obtain ⟨ls, hls, hmap⟩ := parseSegments_derives ⟨p, hp, rfl, hrest⟩
          have := congrArg List.length hrest
          refine (parseItems_halts (.inr rfl) inner hi).append
            (⟨line, .ident word⟩ :: (ls ++ [⟨m, .openParen⟩])) (by simp [hls])
            (by simp [hmap, endOfText_not_mem_segmentTokens]) [.closeParen] rfl ?_ ?_
          · rintro us ⟨args, hargs⟩
            refine ⟨.call (word :: p.value) args, ?_⟩
            simpa [hmap, nameTokens] using @ExprTokens.call _ p.value _ _ hw hargs
          · intro ns after hns _ hrefused v behind hr
            obtain ⟨args, hread⟩ := parseItems_of_call hw hmap hns hr
            exact hrefused args behind hread
        · exact absurd h (by simp)
      · exact absurd h (by simp)
  · exact absurd h (by simp)
  · exact absurd h (by simp)
  · rename_i line rest
    split at h
    · rename_i hi
      obtain rfl := Except.error.inj h
      refine (parseItems_halts (.inl rfl) rest hi).cons rfl (by simp) [.closeBracket] rfl ?_ ?_
      · rintro us ⟨items, hitems⟩
        exact ⟨.array items, .array hitems⟩
      · intro l after _ hrefused v behind hr
        obtain ⟨items, hread⟩ := parseItems_of_array hr
        exact hrefused items behind hread
    · exact absurd h (by simp)
  · rename_i line rest
    split at h
    · rename_i hf
      obtain rfl := Except.error.inj h
      refine (parseFields_halts rest hf).cons rfl (by simp) [.closeBrace] rfl ?_ ?_
      · rintro us ⟨fields, hfields⟩
        exact ⟨.object fields, .object hfields⟩
      · intro l after _ hrefused v behind hr
        obtain ⟨fields, hread⟩ := parseFields_of_object hr
        exact hrefused fields behind hread
    · exact absurd h (by simp)
  · rename_i hident hstr hnumber hbracket hbrace
    obtain rfl := Except.error.inj h
    refine halts_head [.ident "null"] (by decide) ⟨.null, .null⟩ (fun after hafter v rest hr => ?_) _
    have hstart := startsExpr_of_reads hr
    rw [hafter] at hstart
    cases ts with
    | nil => exact absurd hstart (by decide)
    | cons t ts =>
      obtain ⟨line, t⟩ := t
      cases t with
      | ident word => exact hident line word ts rfl
      | str s => exact hstr line s ts rfl
      | number n => exact hnumber line n ts rfl
      | openBracket => exact hbracket line ts rfl
      | openBrace => exact hbrace line ts rfl
      | _ => exact absurd hstart Bool.false_ne_true
  termination_by (ts.length, 0)
  decreasing_by all_goals subst_vars; simp only [Prod.lex_def, List.length_cons] at *; omega

theorem parseItems_halts {close : Token} {mark : Char}
    (hc : close = .closeBracket ∨ close = .closeParen) (ts : List Located) {e : SyntaxError}
    (h : parseItems close mark ts = .error e) :
    Halts (fun us => ∃ es, ItemsTokens us es) (fun us => Refuses (parseItems close mark us)) ts
      e := by
  have hend : close ≠ .endOfText := by rcases hc with rfl | rfl <;> simp
  rw [parseItems.eq_def] at h
  split at h
  · obtain rfl := Except.error.inj h
    refine halts_head [] rfl ⟨[], .nil⟩ (fun after hafter es rest hr => ?_) _
    rcases parseItems_start hend hr with hclose | ⟨v, us, hv⟩
    · exact hend (hclose.symm.trans hafter)
    · have hstart := startsExpr_of_reads hv
      rw [hafter] at hstart
      exact absurd hstart (by decide)
  rename_i t rest
  split at h
  · exact absurd h (by simp)
  rename_i hclose
  split at h
  · rename_i he
    obtain rfl := Except.error.inj h
    refine (parseExpr_halts _ he).first [] rfl ?_ ?_
    · rintro us ⟨v, hv⟩
      rw [List.append_nil]
      exact ⟨[v], .last hv⟩
    · intro after hafter hrefused es behind hr
      rcases parseItems_start hend hr with hhead | ⟨v, us, hv⟩
      · exact hclose (hafter.symm.trans hhead)
      · exact hrefused v us hv
  rename_i p hp
  have hread : Reads (parseExpr (t :: rest)) p.value p.rest := ⟨p, hp, rfl, rfl⟩
  obtain ⟨ls, hls, hg⟩ := parseExpr_derives p.value hread
  have := p.shorter
  split at h
  · rename_i l after hrest
    have := congrArg List.length hrest
    split at h
    · rename_i hi
      obtain rfl := Except.error.inj h
      refine (parseItems_halts hc after hi).append (ls ++ [⟨l, .comma⟩])
        (by rw [hls, hrest, List.append_assoc]; rfl) (by simp [hg.endOfText_not_mem]) [] rfl ?_ ?_
      · rintro us ⟨es, hes⟩
        refine ⟨p.value :: es, ?_⟩
        simpa using ItemsTokens.cons hg hes
      · intro ns behind hns _ hrefused es final hr
        obtain ⟨es', hes⟩ := parseItems_of_comma hc (hrest ▸ hread) (hrest ▸ hls) hns hr
        exact hrefused es' final hes
    · exact absurd h (by simp)
  rename_i hcomma
  split at h
  · rename_i hhead
    split at h
    · rename_i hi
      obtain ⟨line, us, hus⟩ := exists_of_headToken hhead hend
      obtain ⟨q, hq, -⟩ := hus ▸ parseItems_close line close mark us
      exact absurd (hi.symm.trans hq) (by simp)
    · exact absurd h (by simp)
  · rename_i hhead
    obtain rfl := Except.error.inj h
    refine halts_behind ls hls hg.endOfText_not_mem [] rfl ?_ ?_ _
    · rw [List.append_nil]
      exact ⟨[p.value], .last hg⟩
    · intro ns after hns hafter es final hr
      rcases parseItems_of_item hc (parseExpr_again hread hls hns hafter) hr with
        hclose' | ⟨k, us, _, rfl, -⟩
      · exact hhead (hafter.symm.trans hclose')
      · obtain ⟨m, vs, hvs⟩ := exists_of_headToken hafter.symm (by simp [headToken])
        exact hcomma m vs hvs
  termination_by (ts.length, 1)
  decreasing_by
    · subst_vars
      simp [Prod.lex_def]
    · subst_vars
      simp only [Prod.lex_def, List.length_cons] at *
      omega

theorem parseFields_halts (ts : List Located) {e : SyntaxError} (h : parseFields ts = .error e) :
    Halts (fun us => ∃ fields, FieldsTokens us fields) (fun us => Refuses (parseFields us)) ts
      e := by
  rw [parseFields.eq_def] at h
  split at h
  · exact absurd h (by simp)
  · rename_i line key rest
    refine (parseField_halts key rest h).cons rfl (by simp) [] rfl ?_ ?_
    · intro us hus
      rw [List.append_nil]
      exact hus _ (.inl rfl)
    · intro l after _ hrefused fields behind hr
      exact hrefused fields behind (parseField_of_key (.inl rfl) hr)
  · rename_i line key rest
    refine (parseField_halts key rest h).cons rfl (by simp) [] rfl ?_ ?_
    · intro us hus
      rw [List.append_nil]
      exact hus _ (.inr rfl)
    · intro l after _ hrefused fields behind hr
      exact hrefused fields behind (parseField_of_key (.inr rfl) hr)
  · rename_i hbrace hident hstr
    obtain rfl := Except.error.inj h
    refine halts_head [] rfl ⟨[], .nil⟩ (fun after hafter fields rest hr => ?_) _
    rcases parseFields_start hr with hhead | ⟨key, hhead | hhead⟩ <;>
      obtain ⟨line, us, rfl⟩ := exists_of_headToken (hafter.symm.trans hhead) (by simp)
    · exact hbrace line us rfl
    · exact hident line key us rfl
    · exact hstr line key us rfl
  termination_by (ts.length, 0)
  decreasing_by all_goals subst_vars; simp only [Prod.lex_def, List.length_cons]; omega

/-- What completes a field does so behind each of its keys, the bare one and the quoted one. -/
theorem parseField_halts (key : String) (ts : List Located) {e : SyntaxError}
    (h : parseField key ts = .error e) :
    Halts (fun us => ∀ k, k = .ident key ∨ k = .str key → ∃ fields, FieldsTokens (k :: us) fields)
      (fun us => Refuses (parseField key us)) ts e := by
  rw [parseField.eq_def] at h
  split at h
  · rename_i ha
    obtain rfl := Except.error.inj h
    obtain ⟨hhead, rfl⟩ := takeToken_fails (by simp) ha
    refine halts_head [.assign, .ident "null"] (by decide) (fun k hk => ⟨_, .last hk .null⟩)
      (fun after hafter fields rest hr => ?_) _
    obtain ⟨m, us, v, behind, rfl, -⟩ := parseField_start hr
    exact hhead hafter.symm
  rename_i a ha
  obtain ⟨m, hts⟩ := takeToken_derives ⟨a, ha, rfl, rfl⟩
  have := a.shorter
  split at h
  · rename_i he
    obtain rfl := Except.error.inj h
    refine (parseExpr_halts _ he).cons hts (by simp) [] rfl ?_ ?_
    · rintro us ⟨v, hv⟩ k hk
      rw [List.append_nil]
      exact ⟨[(key, v)], .last hk hv⟩
    · intro l after _ hrefused fields behind hr
      obtain ⟨n, us, v, final, hus, hv⟩ := parseField_start hr
      obtain ⟨-, rfl⟩ := List.cons.inj hus
      exact hrefused v final hv
  rename_i p hp
  have hread : Reads (parseExpr a.rest) p.value p.rest := ⟨p, hp, rfl, rfl⟩
  obtain ⟨ls, hls, hg⟩ := parseExpr_derives p.value hread
  have := p.shorter
  split at h
  · rename_i l after hrest
    have := congrArg List.length hrest
    split at h
    · rename_i hf
      obtain rfl := Except.error.inj h
      refine (parseFields_halts after hf).append (⟨m, .assign⟩ :: (ls ++ [⟨l, .comma⟩]))
        (by rw [hts, hls, hrest]; simp) (by simp [hg.endOfText_not_mem]) [] rfl ?_ ?_
      · rintro us ⟨fields, hfields⟩ k hk
        refine ⟨(key, p.value) :: fields, ?_⟩
        simpa using FieldsTokens.cons hk hg hfields
      · intro ns behind hns _ hrefused fields final hr
        obtain ⟨fields', hfields⟩ := parseFields_of_comma (hrest ▸ hread) (hrest ▸ hls) hns hr
        exact hrefused fields' final hfields
    · exact absurd h (by simp)
  · rename_i l after hrest
    split at h
    · rename_i hf
      obtain ⟨q, hq, -⟩ := hrest ▸ parseFields_close l after
      exact absurd (hf.symm.trans hq) (by simp)
    · exact absurd h (by simp)
  · rename_i hcomma hbrace
    obtain rfl := Except.error.inj h
    refine halts_behind (⟨m, .assign⟩ :: ls) (hts.trans (congrArg (_ :: ·) hls))
      (by simp [hg.endOfText_not_mem]) [] rfl ?_ ?_ _
    · intro k hk
      rw [List.append_nil]
      exact ⟨[(key, p.value)], .last hk hg⟩
    · intro ns after hns hafter fields final hr
      obtain ⟨n, ms, rfl, hms⟩ := map_token_cons hns
      rcases parseField_of_value (parseExpr_again hread hls hms hafter) hr with
        hhead | ⟨k, us, _, rfl, -⟩
      · obtain ⟨j, vs, hvs⟩ := exists_of_headToken (hafter.symm.trans hhead) (by simp)
        exact hbrace j vs hvs
      · obtain ⟨j, vs, hvs⟩ := exists_of_headToken hafter.symm (by simp [headToken])
        exact hcomma j vs hvs
  termination_by (ts.length, 0)
  decreasing_by all_goals simp only [Prod.lex_def, List.length_cons] at *; omega
end

theorem parseExpr_fails (ts : List Located) {e : SyntaxError} (h : parseExpr ts = .error e) :
    FailsAt ts e :=
  (parseExpr_halts ts h).failsAt

end AgentConvert
