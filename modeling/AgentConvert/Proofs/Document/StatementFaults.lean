import AgentConvert.Proofs.Document.Faults

/-!
# Where a document stops

The first token that cannot stand where it does, for statements and bodies (`parseStatement_halts`,
`parseBody_halts`). Up to the opening brace of a block the tokens go on as a name and a label, and
behind it as a body; an attribute goes on as its value.
-/

namespace AgentConvert

/-! ## Labels -/

theorem takeLabel_of_ne {ts : List Located} (h : ∀ text, headToken ts ≠ .str text) :
    (takeLabel ts).rest = ts := by
  unfold takeLabel
  split
  · exact absurd rfl (h _)
  · rfl

theorem takeLabel_labelTokens {label : Option String} {ls rest : List Located}
    (hls : ls.map Located.token = labelTokens label) (hr : ∀ text, headToken rest ≠ .str text) :
    (takeLabel (ls ++ rest)).rest = rest := by
  cases label with
  | none =>
    rw [labelTokens, List.map_eq_nil_iff] at hls
    rw [hls]
    exact takeLabel_of_ne hr
  | some text =>
    obtain ⟨line, rfl⟩ := map_token_singleton hls
    rfl

/-- The label that was taken is taken again. -/
theorem takeLabel_again {ts ls ms after : List Located} (hts : ts = ls ++ (takeLabel ts).rest)
    (hms : ms.map Located.token = ls.map Located.token)
    (hr : headToken after = headToken (takeLabel ts).rest) :
    (takeLabel (ms ++ after)).rest = after := by
  generalize hrest : (takeLabel ts).rest = rest at hts hr
  unfold takeLabel at hrest
  split at hrest
  · rename_i line text us
    obtain rfl : us = rest := hrest
    obtain rfl : [⟨line, .str text⟩] = ls := List.append_cancel_right hts
    obtain ⟨m, rfl⟩ := map_token_singleton hms
    rfl
  · rename_i hstr
    obtain rfl : ts = rest := hrest
    obtain rfl : [] = ls := List.append_cancel_right hts
    rw [List.map_nil, List.map_eq_nil_iff] at hms
    rw [hms]
    refine takeLabel_of_ne fun text htext => ?_
    obtain ⟨line, us, rfl⟩ := exists_of_headToken (hr.symm.trans htext) (by simp)
    exact hstr line text us rfl

/-! ## Parts of statements -/

/-- A statement starts with a word. -/
theorem parseStatement_start {ts rest : List Located} {s : Statement}
    (h : Reads (parseStatement ts) s rest) : ∃ l word us, ts = ⟨l, .ident word⟩ :: us := by
  cases parseStatement_step h with
  | «attribute» _ => exact ⟨_, _, _, rfl⟩
  | block _ _ _ => exact ⟨_, _, _, rfl⟩

/-- Behind a word and an assignment stands a value. -/
theorem parseExpr_of_attribute {l m : UInt32} {word : String} {ts rest : List Located}
    {s : Statement} (h : Reads (parseStatement (⟨l, .ident word⟩ :: ⟨m, .assign⟩ :: ts)) s rest) :
    ∃ value, Reads (parseExpr ts) value rest := by
  cases parseStatement_step h with
  | «attribute» hv => exact ⟨_, hv⟩
  | @block _ _ _ _ _ label _ _ labels _ _ hs hl _ =>
    obtain ⟨-, hbehind⟩ := hs.unique (parseSegments_end (by simp [headToken]))
    have hhead := congrArg headToken hbehind
    cases label with
    | none =>
      rw [labelTokens, List.map_eq_nil_iff] at hl
      rw [hl] at hhead
      exact absurd hhead (by simp [headToken])
    | some text =>
      obtain ⟨n, rfl⟩ := map_token_singleton hl
      exact absurd hhead (by simp [headToken])

/-- Behind a word without an assignment stand the rest of a name, a label and a body. -/
theorem parseBody_of_block {l : UInt32} {word : String} {ts rest : List Located} {s : Statement}
    (h : Reads (parseStatement (⟨l, .ident word⟩ :: ts)) s rest) (hts : headToken ts ≠ .assign) :
    ∃ segments after m inner body behind, Reads (parseSegments ts) segments after ∧
      (takeLabel after).rest = ⟨m, .openBrace⟩ :: inner ∧
      Reads (parseBody false inner) body behind := by
  cases parseStatement_step h with
  | «attribute» _ => exact absurd rfl hts
  | block hs hl hb =>
    exact ⟨_, _, _, _, _, _, hs, takeLabel_labelTokens hl (by simp [headToken]), hb⟩

/-- Whatever stands behind the name and the label of a block, it starts with the opening brace and
the body. -/
theorem parseBody_of_heading {l : UInt32} {word : String} {segments : List String}
    {ts ms named labels ns after final : List Located} {s : Statement}
    (hassign : headToken ts ≠ .assign) (hname : Reads (parseSegments ts) segments named)
    (hms : ts = ms ++ named) (hlabels : named = labels ++ (takeLabel named).rest)
    (hns : ns.map Located.token = (⟨l, .ident word⟩ :: (ms ++ labels)).map Located.token)
    (hafter : headToken after = headToken (takeLabel named).rest)
    (h : Reads (parseStatement (ns ++ after)) s final) :
    ∃ m inner body behind, after = ⟨m, .openBrace⟩ :: inner ∧
      Reads (parseBody false inner) body behind := by
  rw [List.map_cons, List.map_append] at hns
  obtain ⟨k, ks, rfl, hks⟩ := map_token_cons hns
  obtain ⟨us, vs, rfl, hus, hvs⟩ := List.map_eq_append_iff.1 hks
  have hbehind : headToken (vs ++ after) = headToken named :=
    (headToken_append hvs hafter).trans (congrArg headToken hlabels.symm)
  have hhead : headToken (us ++ (vs ++ after)) = headToken ts :=
    (headToken_append hus hbehind).trans (congrArg headToken hms.symm)
  rw [List.cons_append, List.append_assoc] at h
  obtain ⟨_, _, m, inner, body, behind, hread, hopen, hbody⟩ :=
    parseBody_of_block h (hhead ▸ hassign)
  obtain ⟨-, rfl⟩ := hread.unique (parseSegments_again hname hms hus hbehind)
  rw [takeLabel_again hlabels hvs hafter] at hopen
  exact ⟨m, inner, body, behind, hopen, hbody⟩

/-- A body starts with its end or with a statement. -/
theorem parseBody_start {top : Bool} {ts rest : List Located} {body : Body}
    (h : Reads (parseBody top ts) body rest) :
    headToken ts = bodyEnd top ∨ ∃ s after, Reads (parseStatement ts) s after := by
  cases parseBody_step h with
  | done hr => exact .inl hr
  | cons hs _ => exact .inr ⟨_, _, hs⟩

/-- Behind a statement stands the rest of the body. -/
theorem parseBody_of_statement {top : Bool} {ts after rest : List Located} {s : Statement}
    {body : Body} (hs : Reads (parseStatement ts) s after) (h : Reads (parseBody top ts) body rest) :
    ∃ tail, Reads (parseBody top after) tail rest := by
  cases parseBody_step h with
  | done hr =>
    obtain ⟨l, word, us, rfl⟩ := parseStatement_start hs
    cases top <;> exact absurd hr (by simp [headToken, bodyEnd])
  | cons hs' hb =>
    obtain ⟨-, rfl⟩ := hs.unique hs'
    exact ⟨_, hb⟩

/-! ## Faults of statements -/

/-- At the end of the other kind of body nothing is read. -/
theorem parseBody_refuses {top : Bool} {ts : List Located} (h : headToken ts = bodyEnd (!top)) :
    Refuses (parseBody top ts) := by
  intro body rest hr
  rcases parseBody_start hr with hdone | ⟨s, us, hs⟩
  · rw [h] at hdone
    cases top <;> exact absurd hdone (by simp [bodyEnd])
  · obtain ⟨l, word, vs, rfl⟩ := parseStatement_start hs
    cases top <;> exact absurd h (by simp [headToken, bodyEnd])

mutual
/-- The tokens before a fault go on as a statement, an attribute or a block. -/
theorem parseStatement_halts (ts : List Located) {e : SyntaxError}
    (h : parseStatement ts = .error e) :
    Halts (fun us => ∃ s, StatementTokens us s) (fun us => Refuses (parseStatement us)) ts e := by
  rw [parseStatement.eq_def] at h
  split at h
  · rename_i hi
    obtain rfl := Except.error.inj h
    refine (takeIdent_halts hi).first [.assign, .ident "null"] (by decide) ?_ ?_
    · rintro us ⟨name, rfl⟩
      exact ⟨.attribute name .null, .attribute .null⟩
    · intro after _ hrefused s behind hr
      obtain ⟨l, word, us, rfl⟩ := parseStatement_start hr
      exact hrefused word us (takeIdent_ident l word us)
  rename_i first hfirst
  obtain ⟨l, hts⟩ := takeIdent_derives ⟨first, hfirst, rfl, rfl⟩
  have := first.shorter
  split at h
  · rename_i m after hrest
    split at h
    · rename_i he
      obtain rfl := Except.error.inj h
      refine (parseExpr_halts after he).append [⟨l, .ident first.value⟩, ⟨m, .assign⟩]
        (hts.trans (congrArg (_ :: ·) hrest)) (by simp) [] rfl ?_ ?_
      · rintro us ⟨value, hvalue⟩
        rw [List.append_nil]
        exact ⟨.attribute first.value value, .attribute hvalue⟩
      · intro ns behind hns _ hrefused s final hr
        obtain ⟨k, us, rfl, hus⟩ := map_token_cons hns
        obtain ⟨n, rfl⟩ := map_token_singleton hus
        obtain ⟨value, hvalue⟩ := parseExpr_of_attribute hr
        exact hrefused value final hvalue
    · exact absurd h (by simp)
  rename_i hne
  have hassign : headToken first.rest ≠ .assign := fun hhead => by
    obtain ⟨m, us, hus⟩ := exists_of_headToken hhead (by simp)
    exact hne m us hus
  split at h
  · rename_i hs
    obtain rfl := Except.error.inj h
    refine (parseSegments_halts hs).cons hts (by simp) [.openBrace, .closeBrace] rfl ?_ ?_
    · rintro us ⟨segments, rfl⟩
      exact ⟨_, @StatementTokens.block first.value segments none [] [] .nil⟩
    · intro k after hafter hrefused s final hr
      obtain ⟨segments, behind, _, _, _, _, hread, -⟩ := parseBody_of_block hr (hafter ▸ hassign)
      exact hrefused segments behind hread
  rename_i segments hsegments
  have hname : Reads (parseSegments first.rest) segments.value segments.rest :=
    ⟨segments, hsegments, rfl, rfl⟩
  obtain ⟨ms, hms, hmap⟩ := parseSegments_derives hname
  have := segments.shorter
  dsimp only at h
  obtain ⟨labels, hlabels, hlabel⟩ := takeLabel_derives segments.rest
  have := (takeLabel segments.rest).shorter
  have hall : ts = ⟨l, .ident first.value⟩ :: (ms ++ labels) ++ (takeLabel segments.rest).rest := by
    rw [List.cons_append, List.append_assoc, ← hlabels, ← hms]
    exact hts
  have hend : .endOfText ∉ (⟨l, .ident first.value⟩ :: (ms ++ labels)).map Located.token := by
    simp [hmap, hlabel, endOfText_not_mem_segmentTokens, endOfText_not_mem_labelTokens]
  split at h
  · rename_i ho
    obtain rfl := Except.error.inj h
    obtain ⟨hhead, rfl⟩ := takeToken_fails (by simp) ho
    refine halts_behind _ hall hend [.openBrace, .closeBrace] rfl ?_ ?_ _
    · refine ⟨.block (first.value :: segments.value) (takeLabel segments.rest).value [], ?_⟩
      simpa [hmap, hlabel, nameTokens] using
        @StatementTokens.block first.value segments.value (takeLabel segments.rest).value _ _ .nil
    · intro ns after hns hafter s final hr
      obtain ⟨m, inner, _, _, rfl, -⟩ := parseBody_of_heading hassign hname hms hlabels hns hafter hr
      exact hhead hafter.symm
  rename_i opened hopened
  obtain ⟨n, hn⟩ := takeToken_derives ⟨opened, hopened, rfl, rfl⟩
  have := opened.shorter
  split at h
  · rename_i hb
    obtain rfl := Except.error.inj h
    refine (parseBody_halts false opened.rest hb).append
      ((⟨l, .ident first.value⟩ :: (ms ++ labels)) ++ [⟨n, .openBrace⟩]) ?_ ?_ [.closeBrace] rfl
      ?_ ?_
    · rw [List.append_assoc]
      exact hall.trans (congrArg (_ ++ ·) hn)
    · rw [List.map_append, List.mem_append, not_or]
      exact ⟨hend, by simp⟩
    · rintro us ⟨body, hbody⟩
      refine ⟨.block (first.value :: segments.value) (takeLabel segments.rest).value body, ?_⟩
      simpa [hmap, hlabel, nameTokens] using
        @StatementTokens.block first.value segments.value (takeLabel segments.rest).value _ _ hbody
    · intro ns after hns _ hrefused s final hr
      rw [List.map_append] at hns
      obtain ⟨k, us, rfl, hus⟩ := map_token_closed hns
      rw [List.append_assoc] at hr
      obtain ⟨_, _, body, behind, heq, hbody⟩ :=
        parseBody_of_heading hassign hname hms hlabels hus (by rw [hn]; rfl) hr
      obtain ⟨-, rfl⟩ := List.cons.inj heq
      exact hrefused body behind hbody
  rename_i body hbody
  split at h
  · rename_i hc
    obtain ⟨_, _, _, hclosed⟩ := parseBody_derives body.value ⟨body, hbody, rfl, rfl⟩
    exact absurd hclosed (takeToken_fails (by simp) hc).1
  · exact absurd h (by simp)
  termination_by (ts.length, 0)
  decreasing_by
    simp only [Prod.lex_def]
    omega

/-- The tokens before a fault go on as a body, which may end where the fault is if no block is
open. -/
theorem parseBody_halts (top : Bool) (ts : List Located) {e : SyntaxError}
    (h : parseBody top ts = .error e) :
    Halts (fun us => ∃ body, BodyTokens us body) (fun us => Refuses (parseBody top us)) ts e := by
  rw [parseBody.eq_def] at h
  split at h
  · rename_i hhead
    split at h
    · exact absurd h (by simp)
    · rename_i htop
      obtain rfl := Except.error.inj h
      refine halts_head [] rfl ⟨[], .nil⟩ (fun after hafter => parseBody_refuses ?_) _
      rw [hafter, hhead, Bool.eq_false_iff.2 htop]
      rfl
  · rename_i hhead
    split at h
    · rename_i htop
      obtain rfl := Except.error.inj h
      refine halts_head [] rfl ⟨[], .nil⟩ (fun after hafter => parseBody_refuses ?_) _
      rw [hafter, hhead, htop]
      rfl
    · exact absurd h (by simp)
  · rename_i hend hbrace
    split at h
    · rename_i hs
      obtain rfl := Except.error.inj h
      refine (parseStatement_halts ts hs).first [] rfl ?_ ?_
      · rintro us ⟨s, hs⟩
        refine ⟨[s], ?_⟩
        simpa using BodyTokens.cons hs .nil
      · intro after hafter hrefused body behind hr
        rcases parseBody_start hr with hdone | ⟨s, us, hs⟩
        · rw [hafter] at hdone
          cases top
          · exact hbrace hdone
          · exact hend hdone
        · exact hrefused s us hs
    rename_i s hs
    have hread : Reads (parseStatement ts) s.value s.rest := ⟨s, hs, rfl, rfl⟩
    obtain ⟨ls, hls, hg⟩ := parseStatement_derives s.value hread
    have := s.shorter
    split at h
    · rename_i hb
      obtain rfl := Except.error.inj h
      refine (parseBody_halts top s.rest hb).append ls hls hg.endOfText_not_mem [] rfl ?_ ?_
      · rintro us ⟨body, hbody⟩
        rw [List.append_nil]
        exact ⟨s.value :: body, .cons hg hbody⟩
      · intro ns after hns hafter hrefused body behind hr
        obtain ⟨tail, htail⟩ :=
          parseBody_of_statement (parseStatement_again hread hls hns hafter) hr
        exact hrefused tail behind htail
    · exact absurd h (by simp)
  termination_by (ts.length, 1)
  decreasing_by
    · simp [Prod.lex_def]
    · simp only [Prod.lex_def]
      omega
end

theorem parseBody_fails (top : Bool) (ts : List Located) {e : SyntaxError}
    (h : parseBody top ts = .error e) : FailsAt ts e :=
  (parseBody_halts top ts h).failsAt

end AgentConvert
