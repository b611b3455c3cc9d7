import AgentConvert.Proofs.Document.Spelling

/-!
# What the layouts spell

Both layouts of a well-formed expression or document spell tokens that the grammar has for it:

* `Expr.spells_compactChars`, `Expr.spells_layoutChars` for expressions;
* `Statement.spells_compactBody`, `Statement.spells_layoutBody` for bodies.

An expression is followed by something that does not go on with it; a statement ends its last line,
so anything may follow it.
-/

namespace AgentConvert

theorem IsReference.exists_cons {name : List String} (h : IsReference name) :
    ∃ word segments, name = word :: segments ∧ (∀ s ∈ word :: segments, isIdentifier s = true) ∧
      word ∉ literalWords := by
  obtain ⟨⟨hne, hid⟩, hw⟩ := h
  cases name with
  | nil => exact absurd rfl hne
  | cons word segments => exact ⟨word, segments, rfl, hid, hw word rfl⟩

namespace Expr

/-! ## Brackets -/

theorem spells_array {cs : List Char} {ts : List Token} {items : List Expr} (h : Spells cs ts)
    (hg : ItemsTokens ts items) :
    ∃ us, Spells ('[' :: (cs ++ [']'])) us ∧ ExprTokens us (.array items) :=
  ⟨_, .mark rfl (h.append (.mark rfl .nil) (ends_cons rfl _)), .array hg⟩

theorem spells_object {cs : List Char} {ts : List Token} {fields : List (String × Expr)}
    (h : Spells cs ts) (hg : FieldsTokens ts fields) :
    ∃ us, Spells ('{' :: (cs ++ ['}'])) us ∧ ExprTokens us (.object fields) :=
  ⟨_, .mark rfl (h.append (.mark rfl .nil) (ends_cons rfl _)), .object hg⟩

theorem spells_call {callee : List String} {cs : List Char} {ts : List Token} {args : List Expr}
    (hc : IsReference callee) (h : Spells cs ts) (hg : ItemsTokens ts args) :
    ∃ us, Spells (nameChars callee ++ '(' :: (cs ++ [')'])) us ∧
      ExprTokens us (.call callee args) := by
  obtain ⟨word, segments, rfl, hid, hw⟩ := hc.exists_cons
  have hargs : Spells ('(' :: (cs ++ [')'])) (.openParen :: (ts ++ [.closeParen])) :=
    .mark rfl (h.append (.mark rfl .nil) (ends_cons rfl _))
  exact ⟨_, (spells_nameChars hid).append hargs (ends_cons rfl _), .call hw hg⟩

/-- Blanks before a closing bracket belong to what it closes. -/
theorem spells_tabs_close {cs : List Char} {ts : List Token} (depth : Nat) (h : Spells cs ts) :
    Spells ('\n' :: (cs ++ tabs depth)) ts := by
  have htabs : Spells (tabs depth) [] := by
    rw [← List.append_nil (tabs depth)]
    exact spells_tabs depth .nil
  have hends : Ends (tabs depth) := by
    cases depth with
    | zero => exact ends_nil
    | succ depth => exact ends_cons rfl _
  rw [← List.append_nil ts]
  exact .blank (by decide) (h.append htabs hends)

/-! ## Compact layout -/

mutual
theorem spells_compactChars : ∀ e : Expr, e.WellFormed →
    ∃ ts, Spells e.compactChars ts ∧ ExprTokens ts e
  | .null, _ => ⟨_, .ident (by decide), .null⟩
  | .bool true, _ => ⟨_, .ident (by decide), .bool true⟩
  | .bool false, _ => ⟨_, .ident (by decide), .bool false⟩
  | .number n, h => ⟨_, .number h, .number n⟩
  | .str s, _ => by
    rw [compactChars, ← List.append_nil (quoteChars _)]
    exact ⟨_, .quote s .nil, .str s⟩
  | .path name, h => by
    obtain ⟨word, segments, rfl, hid, hw⟩ := IsReference.exists_cons h
    exact ⟨_, spells_nameChars hid, .path hw⟩
  | .array items, h => by
    obtain ⟨ts, hts, hg⟩ := spells_compactItems items h
    exact spells_array hts hg
  | .object [], _ => spells_object .nil .nil
  | .object (field :: fields), h => by
    obtain ⟨ts, hts, hg⟩ := spells_compactFields (field :: fields) h
    have hblank : Spells (' ' :: (compactFields (field :: fields) ++ [' '])) ts := by
      rw [← List.append_nil ts]
      exact .blank (by decide) (hts.append (.blank (by decide) .nil) (ends_cons rfl _))
    obtain ⟨us, hus, hu⟩ := spells_object hblank hg
    refine ⟨us, ?_, hu⟩
    simpa [compactChars] using hus
  | .call callee args, h => by
    obtain ⟨ts, hts, hg⟩ := spells_compactItems args h.2
    obtain ⟨us, hus, hu⟩ := spells_call h.1 hts hg
    refine ⟨us, ?_, hu⟩
    simpa [compactChars] using hus

theorem spells_compactItems : ∀ es : List Expr, WellFormedItems es →
    ∃ ts, Spells (compactItems es) ts ∧ ItemsTokens ts es
  | [], _ => ⟨[], .nil, .nil⟩
  | [e], h => by
    obtain ⟨ts, hts, hg⟩ := spells_compactChars e h.1
    exact ⟨ts, hts, .last hg⟩
  | e :: e' :: es, h => by
    obtain ⟨ts, hts, hg⟩ := spells_compactChars e h.1
    obtain ⟨us, hus, hu⟩ := spells_compactItems (e' :: es) h.2
    exact ⟨_, hts.append (.mark rfl (.blank (by decide) hus)) (ends_cons rfl _), .cons hg hu⟩

theorem spells_compactFields : ∀ fields : List (String × Expr), WellFormedFields fields →
    ∃ ts, Spells (compactFields fields) ts ∧ FieldsTokens ts fields
  | [], _ => ⟨[], .nil, .nil⟩
  | [(key, e)], h => by
    obtain ⟨k, hk, hkey⟩ := spells_keyChars key
    obtain ⟨ts, hts, hg⟩ := spells_compactChars e h.1
    have hfield := spells_assignment 0 hk hts
    rw [padTo_zero] at hfield
    exact ⟨_, hfield, .last hkey hg⟩
  | (key, e) :: field :: fields, h => by
    obtain ⟨k, hk, hkey⟩ := spells_keyChars key
    obtain ⟨ts, hts, hg⟩ := spells_compactChars e h.1
    obtain ⟨us, hus, hu⟩ := spells_compactFields (field :: fields) h.2
    have hvalue : Spells (e.compactChars ++ ',' :: ' ' :: compactFields (field :: fields))
        (ts ++ .comma :: us) :=
      hts.append (.mark rfl (.blank (by decide) hus)) (ends_cons rfl _)
    have hfield := spells_assignment 0 hk hvalue
    rw [padTo_zero] at hfield
    refine ⟨_, ?_, .cons hkey hg hu⟩
    simpa [compactFields] using hfield
end

/-! ## Canonical layout -/

mutual
theorem spells_layoutChars : ∀ (depth : Nat) (e : Expr), e.WellFormed →
    ∃ ts, Spells (e.layoutChars depth) ts ∧ ExprTokens ts e
  | _, .null, h => spells_compactChars .null h
  | _, .bool b, h => spells_compactChars (.bool b) h
  | _, .number n, h => spells_compactChars (.number n) h
  | _, .str s, h => spells_compactChars (.str s) h
  | _, .path name, h => spells_compactChars (.path name) h
  | depth, .array items, h => by
    rw [layoutChars]
    split
    · obtain ⟨ts, hts, hg⟩ := spells_layoutInline depth items h
      exact spells_array hts hg
    · obtain ⟨ts, hts, hg⟩ := spells_layoutItems (depth + 1) items h
      obtain ⟨us, hus, hu⟩ := spells_array (spells_tabs_close depth hts) hg
      refine ⟨us, ?_, hu⟩
      simpa using hus
  | _, .object [], _ => spells_object .nil .nil
  | depth, .object (field :: fields), h => by
    rw [layoutChars]
    obtain ⟨ts, hts, hg⟩ :=
      spells_layoutFields (depth + 1) (keyWidth (field :: fields)) (field :: fields) h
    obtain ⟨us, hus, hu⟩ := spells_object (spells_tabs_close depth hts) hg
    refine ⟨us, ?_, hu⟩
    simpa using hus
  | depth, .call callee args, h => by
    rw [layoutChars]
    split
    · obtain ⟨ts, hts, hg⟩ := spells_layoutItems (depth + 1) args h.2
      obtain ⟨us, hus, hu⟩ := spells_call h.1 (spells_tabs_close depth hts) hg
      refine ⟨us, ?_, hu⟩
      simpa using hus
    · exact spells_compactChars (.call callee args) h

theorem spells_layoutInline : ∀ (depth : Nat) (es : List Expr), WellFormedItems es →
    ∃ ts, Spells (layoutInline depth es) ts ∧ ItemsTokens ts es
  | _, [], _ => ⟨[], .nil, .nil⟩
  | depth, [e], h => by
    obtain ⟨ts, hts, hg⟩ := spells_layoutChars depth e h.1
    exact ⟨ts, hts, .last hg⟩
  | depth, e :: e' :: es, h => by
    obtain ⟨ts, hts, hg⟩ := spells_layoutChars depth e h.1
    obtain ⟨us, hus, hu⟩ := spells_layoutInline depth (e' :: es) h.2
    exact ⟨_, hts.append (.mark rfl (.blank (by decide) hus)) (ends_cons rfl _), .cons hg hu⟩

theorem spells_layoutItems : ∀ (depth : Nat) (es : List Expr), WellFormedItems es →
    ∃ ts, Spells (layoutItems depth es) ts ∧ ItemsTokens ts es
  | _, [], _ => ⟨[], .nil, .nil⟩
  | depth, e :: es, h => by
    obtain ⟨ts, hts, hg⟩ := spells_layoutChars depth e h.1
    obtain ⟨us, hus, hu⟩ := spells_layoutItems depth es h.2
    have hitem : Spells (e.layoutChars depth ++ ',' :: '\n' :: layoutItems depth es)
        (ts ++ .comma :: us) :=
      hts.append (.mark rfl (.blank (by decide) hus)) (ends_cons rfl _)
    refine ⟨_, ?_, .cons hg hu⟩
    rw [layoutItems, List.append_assoc]
    exact spells_tabs depth hitem

theorem spells_layoutFields : ∀ (depth width : Nat) (fields : List (String × Expr)),
    WellFormedFields fields →
    ∃ ts, Spells (layoutFields depth width fields) ts ∧ FieldsTokens ts fields
  | _, _, [], _ => ⟨[], .nil, .nil⟩
  | depth, width, (key, e) :: fields, h => by
    obtain ⟨k, hk, hkey⟩ := spells_keyChars key
    obtain ⟨ts, hts, hg⟩ := spells_layoutChars depth e h.1
    obtain ⟨us, hus, hu⟩ := spells_layoutFields depth width fields h.2
    have hvalue : Spells (e.layoutChars depth ++ ',' :: '\n' :: layoutFields depth width fields)
        (ts ++ .comma :: us) :=
      hts.append (.mark rfl (.blank (by decide) hus)) (ends_cons rfl _)
    refine ⟨_, ?_, .cons hkey hg hu⟩
    simpa [layoutFields] using spells_tabs depth (spells_assignment width hk hvalue)
end

end Expr

namespace Statement

/-! ## Lines and headers -/

theorem spells_header {name : List String} (hn : IsName name) (label : Option String) :
    ∃ word segments, name = word :: segments ∧
      Spells (headerChars name label) (nameTokens word segments ++ labelTokens label) := by
  obtain ⟨hne, hid⟩ := hn
  cases name with
  | nil => exact absurd rfl hne
  | cons word segments =>
    refine ⟨word, segments, rfl, ?_⟩
    cases label with
    | none => exact (spells_nameChars hid).append .nil ends_nil
    | some l =>
      have hlabel : Spells (' ' :: quoteChars l.toList) [.str l] := by
        rw [← List.append_nil (quoteChars _)]
        exact .blank (by decide) (.quote l .nil)
      exact (spells_nameChars hid).append hlabel (ends_cons rfl _)

/-- The line of an attribute, and anything behind it. -/
theorem spells_attribute {name : String} {value cs : List Char} {ts us : List Token}
    (depth width : Nat) (hn : isIdentifier name = true) (hv : Spells value ts)
    (hr : Spells cs us) :
    Spells (tabs depth ++ Expr.padTo width name.toList ++ ' ' :: '=' :: ' ' :: value ++ ['\n'] ++ cs)
      (.ident name :: .assign :: ts ++ us) := by
  have hvalue : Spells (value ++ '\n' :: cs) (ts ++ us) :=
    hv.append (.blank (by decide) hr) (ends_cons rfl _)
  simpa using spells_tabs depth (spells_assignment width (.ident hn) hvalue)

/-- The lines of a block, and anything behind them. -/
theorem spells_block {name : List String} {body : Body} {inner : List Char} {ts : List Token}
    (depth : Nat) (label : Option String) (hn : IsName name) (hi : Spells inner ts)
    (hg : BodyTokens ts body) :
    ∃ vs, (∀ cs us, Spells cs us →
        Spells (tabs depth ++ headerChars name label ++ ' ' :: '{' :: inner ++ ['}', '\n'] ++ cs)
          (vs ++ us)) ∧ StatementTokens vs (.block name label body) := by
  obtain ⟨word, segments, rfl, hh⟩ := spells_header hn label
  refine ⟨_, fun cs us hr => ?_, .block hg⟩
  have hinner : Spells (inner ++ '}' :: '\n' :: cs) (ts ++ .closeBrace :: us) :=
    hi.append (.mark rfl (.blank (by decide) hr)) (ends_cons rfl _)
  have hbody : Spells (' ' :: '{' :: (inner ++ '}' :: '\n' :: cs))
      (.openBrace :: (ts ++ .closeBrace :: us)) :=
    .blank (by decide) (.mark rfl hinner)
  simpa using spells_tabs depth (hh.append hbody (ends_cons rfl _))

/-! ## Compact layout -/

mutual
theorem spells_compactChars : ∀ (depth : Nat) (s : Statement), s.WellFormed →
    ∃ ts, (∀ cs us, Spells cs us → Spells (s.compactChars depth ++ cs) (ts ++ us)) ∧
      StatementTokens ts s
  | depth, .attribute name value, h => by
    obtain ⟨ts, hts, hg⟩ := Expr.spells_compactChars value h.2
    refine ⟨_, fun cs us hr => ?_, .attribute hg⟩
    rw [compactChars, ← Expr.padTo_zero name.toList]
    exact spells_attribute depth 0 h.1 hts hr
  | depth, .block name label body, h => by
    obtain ⟨ts, hts, hg⟩ := spells_compactBody (depth + 1) body h.2
    obtain ⟨us, hus, hu⟩ := spells_block depth label h.1 (Expr.spells_tabs_close depth hts) hg
    refine ⟨us, fun cs vs hr => ?_, hu⟩
    simpa [compactChars] using hus cs vs hr

theorem spells_compactBody : ∀ (depth : Nat) (body : Body), body.WellFormed →
    ∃ ts, Spells (compactBody depth body) ts ∧ BodyTokens ts body
  | _, [], _ => ⟨[], .nil, .nil⟩
  | depth, s :: body, h => by
    obtain ⟨ts, hts, hg⟩ := spells_compactChars depth s h.1
    obtain ⟨us, hus, hu⟩ := spells_compactBody depth body h.2
    exact ⟨_, hts _ _ hus, .cons hg hu⟩
end

/-! ## Canonical layout -/

/-- An attribute is laid out with the width of its run, whatever precedes it. -/
theorem layoutBody_attribute (depth : Nat) (before : Preceding) (name : String) (value : Expr)
    (rest : Body) :
    ∃ width, layoutBody depth before (.attribute name value :: rest) =
      (if before = .aBlock then ['\n'] else []) ++
        (Statement.attribute name value).layoutChars depth width ++
        layoutBody depth (.aRun width) rest := by
  cases before with
  | nothing => exact ⟨runWidth (.attribute name value :: rest), by rw [layoutBody]; simp⟩
  | aBlock => exact ⟨runWidth (.attribute name value :: rest), by rw [layoutBody]; simp⟩
  | aRun width => exact ⟨width, by rw [layoutBody]⟩

/-- An empty line goes before some statements. -/
theorem spells_gap {gap cs : List Char} {ts : List Token} (hg : gap = [] ∨ gap = ['\n'])
    (h : Spells cs ts) : Spells (gap ++ cs) ts := by
  rcases hg with rfl | rfl
  · exact h
  · exact .blank (by decide) h

mutual
theorem spells_layoutChars : ∀ (depth width : Nat) (s : Statement), s.WellFormed →
    ∃ ts, (∀ cs us, Spells cs us → Spells (s.layoutChars depth width ++ cs) (ts ++ us)) ∧
      StatementTokens ts s
  | depth, width, .attribute name value, h => by
    obtain ⟨ts, hts, hg⟩ := Expr.spells_layoutChars depth value h.2
    refine ⟨_, fun cs us hr => ?_, .attribute hg⟩
    exact spells_attribute depth width h.1 hts hr
  | depth, _, .block name label [], h => by
    obtain ⟨us, hus, hu⟩ := spells_block depth label h.1 (.blank (c := ' ') (by decide) .nil) .nil
    refine ⟨us, fun cs vs hr => ?_, hu⟩
    simpa [layoutChars] using hus cs vs hr
  | depth, _, .block name label (s :: body), h => by
    obtain ⟨ts, hts, hg⟩ := spells_layoutBody (depth + 1) .nothing (s :: body) h.2
    obtain ⟨us, hus, hu⟩ := spells_block depth label h.1 (Expr.spells_tabs_close depth hts) hg
    refine ⟨us, fun cs vs hr => ?_, hu⟩
    simpa [layoutChars] using hus cs vs hr

theorem spells_layoutBody : ∀ (depth : Nat) (before : Preceding) (body : Body),
    body.WellFormed → ∃ ts, Spells (layoutBody depth before body) ts ∧ BodyTokens ts body
  | _, _, [], _ => ⟨[], .nil, .nil⟩
  | depth, before, .attribute name value :: body, h => by
    obtain ⟨width, heq⟩ := layoutBody_attribute depth before name value body
    obtain ⟨ts, hts, hg⟩ := spells_layoutChars depth width (.attribute name value) h.1
    obtain ⟨us, hus, hu⟩ := spells_layoutBody depth (.aRun width) body h.2
    refine ⟨_, ?_, .cons hg hu⟩
    rw [heq, List.append_assoc]
    exact spells_gap (by split <;> simp) (hts _ _ hus)
  | depth, before, .block name label body :: rest, h => by
    obtain ⟨ts, hts, hg⟩ := spells_layoutChars depth 0 (.block name label body) h.1
    obtain ⟨us, hus, hu⟩ := spells_layoutBody depth .aBlock rest h.2
    refine ⟨_, ?_, .cons hg hu⟩
    rw [layoutBody, List.append_assoc]
    exact spells_gap (by split <;> simp) (hts _ _ hus)
end

end Statement

end AgentConvert
