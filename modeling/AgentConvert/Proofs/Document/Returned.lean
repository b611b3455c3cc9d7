import AgentConvert.Proofs.Document.Deriving
import AgentConvert.Proofs.Document.Lexing
import Mathlib.Data.List.TakeWhile

/-!
# Documents that the parser returns

Every document that the parser returns is well formed (`wellFormed_of_parseDocument`), however its
text is laid out: a token that the lexer makes is spelled as the grammar has it
(`wellFormed_of_lexFrom`), and a tree takes its names and numbers from the tokens that derive it
(`BodyTokens.wellFormed`).
-/

namespace AgentConvert

/-! ## Numbers -/

theorem areDigits_takeWhile {cs : List Char} (h : headIsDigit cs = true) :
    AreDigits (cs.takeWhile Char.isDigit) := by
  refine ⟨?_, fun c hc => List.mem_takeWhile_imp hc⟩
  cases cs with
  | nil => exact absurd h (by decide)
  | cons c cs =>
    have hc : c.isDigit = true := h
    rw [List.takeWhile_cons_of_pos hc]
    simp

theorem isFraction_takeFraction (cs : List Char) : IsFraction (takeFraction cs).1 := by
  unfold takeFraction
  split
  · split
    · rename_i hd
      exact .inr ⟨_, rfl, areDigits_takeWhile hd⟩
    · exact .inl rfl
  · exact .inl rfl

/-- A sign is a plus, a minus or nothing. -/
theorem signMark_eq (cs : List Char) :
    signMark cs = [] ∨ signMark cs = ['+'] ∨ signMark cs = ['-'] := by
  cases cs with
  | nil => exact .inl rfl
  | cons c cs =>
    by_cases hplus : c = '+'
    · exact .inr (.inl (by simp [signMark, hplus]))
    · by_cases hminus : c = '-'
      · exact .inr (.inr (by simp [signMark, hminus]))
      · exact .inl (by simp [signMark, hplus, hminus])

theorem isExponent_takeExponent (cs : List Char) : IsExponent (takeExponent cs).1 := by
  unfold takeExponent
  split
  · rename_i e rest
    dsimp only
    split
    · rename_i h
      rw [Bool.and_eq_true, Bool.or_eq_true, beq_iff_eq, beq_iff_eq] at h
      exact .inr ⟨e, signMark rest, _, rfl, h.1, signMark_eq rest, areDigits_takeWhile h.2⟩
    · exact .inl rfl
  · exact .inl rfl

/-- What the lexer takes as a number is spelled as one. -/
theorem isNumber_takeNumber {c : Char} {rest : List Char} (h : startsNumber c rest = true) :
    IsNumber (takeNumber (c :: rest)).1 := by
  let sign : List Char := if (c :: rest).head? == some '-' then ['-'] else []
  let behind := (c :: rest).drop sign.length
  let fraction := takeFraction (behind.dropWhile Char.isDigit)
  have hdigit : headIsDigit behind = true := by
    by_cases hc : c = '-'
    · subst hc
      exact h
    · have hsign : sign = [] := by simp [sign, hc]
      have hd : c.isDigit = true := by simpa [startsNumber, hc] using h
      show headIsDigit ((c :: rest).drop sign.length) = true
      rw [hsign]
      exact hd
  refine ⟨sign, behind.takeWhile Char.isDigit, fraction.1, (takeExponent fraction.2).1, ?_, ?_,
    areDigits_takeWhile hdigit, isFraction_takeFraction _, isExponent_takeExponent _⟩
  · show sign ++ behind.takeWhile Char.isDigit ++ fraction.1 ++ (takeExponent fraction.2).1 = _
    rw [List.append_assoc, List.append_assoc]
  · by_cases hc : c = '-'
    · exact .inr (by simp [sign, hc])
    · exact .inl (by simp [sign, hc])

/-! ## Tokens -/

/-- Whether a text can spell the token. -/
def Token.WellFormed : Token → Prop
  | .ident name => isIdentifier name = true
  | .number spelling => IsNumber spelling.toList
  | _ => True

theorem wellFormed_of_punctuation {c : Char} {t : Token} (h : punctuation? c = some t) :
    t.WellFormed := by
  unfold punctuation? at h
  split at h
  all_goals simp only [Option.some.injEq, reduceCtorEq] at h
  all_goals subst h; trivial

theorem wellFormed_of_readToken {c : Char} {rest : List Char} {r : Token × List Char}
    (h : readToken c rest = .ok r) : r.1.WellFormed := by
  unfold readToken at h
  split at h
  · cases hs : readString rest with
    | error e => simp [hs, Except.map] at h
    | ok s =>
      rw [hs] at h
      obtain rfl := Except.ok.inj h
      trivial
  · split at h
    · rename_i hn
      obtain rfl := Except.ok.inj h
      show IsNumber (String.ofList _).toList
      rw [String.toList_ofList]
      exact isNumber_takeNumber hn
    · split at h
      · rename_i hstart
        obtain rfl := Except.ok.inj h
        have hall : (rest.takeWhile isIdentContinue).all isIdentContinue = true :=
          List.all_eq_true.2 fun d hd => List.mem_takeWhile_imp hd
        show isIdentifier (String.ofList _) = true
        rw [isIdentifier, String.toList_ofList, isIdentifierChars, hstart, hall]
        rfl
      · split at h
        · rename_i t ht
          obtain rfl := Except.ok.inj h
          exact wellFormed_of_punctuation ht
        · exact absurd h (by simp)

/-- Every token of a text is spelled as the grammar has it. -/
theorem wellFormed_of_lexFrom {line : UInt32} {cs : List Char} {ts : List Located}
    (h : lexFrom line cs = .ok ts) : ∀ t ∈ ts, t.token.WellFormed := by
  fun_induction lexFrom line cs generalizing ts with
  | case1 | case3 => exact absurd h (by simp)
  | case2 =>
    obtain rfl := Except.ok.inj h
    exact List.forall_mem_singleton.2 trivial
  | case4 _ _ l c rest _ t after ht ih =>
    cases hr : lexFrom l after with
    | error e => simp [hr, Except.map] at h
    | ok us =>
      rw [hr] at h
      obtain rfl := Except.ok.inj h
      exact List.forall_mem_cons.2 ⟨wellFormed_of_readToken ht, ih hr⟩

/-! ## Names -/

/-- The tokens of a name spell its segments. -/
theorem isName_of_nameTokens {word : String} {segments : List String}
    (h : ∀ t ∈ nameTokens word segments, t.WellFormed) : IsName (word :: segments) := by
  refine ⟨by simp, List.forall_mem_cons.2 ⟨h _ (List.mem_cons_self ..), fun s hs => ?_⟩⟩
  refine h (.ident s) (List.mem_cons_of_mem _ ?_)
  exact List.mem_flatMap.2 ⟨s, hs, by simp⟩

theorem isReference_of_nameTokens {word : String} {segments : List String}
    (hw : word ∉ literalWords) (h : ∀ t ∈ nameTokens word segments, t.WellFormed) :
    IsReference (word :: segments) :=
  ⟨isName_of_nameTokens h, by rintro s ⟨⟩; exact hw⟩

/-! ## Trees -/

mutual
theorem ExprTokens.wellFormed : ∀ {e : Expr} {ts : List Token}, ExprTokens ts e →
    (∀ t ∈ ts, t.WellFormed) → e.WellFormed
  | .null, _, _, _ | .bool _, _, _, _ | .str _, _, _, _ => trivial
  | .number n, _, h, ht => by
    cases h with
    | number => exact ht (.number n) (List.mem_singleton_self _)
  | .path _, _, h, ht => by
    cases h with
    | path hw => exact isReference_of_nameTokens hw ht
  | .array _, _, h, ht => by
    cases h with
    | array hi =>
      exact hi.wellFormed fun t hm => ht t (List.mem_cons_of_mem _ (List.mem_append_left _ hm))
  | .object _, _, h, ht => by
    cases h with
    | object hf =>
      exact hf.wellFormed fun t hm => ht t (List.mem_cons_of_mem _ (List.mem_append_left _ hm))
  | .call _ _, _, h, ht => by
    cases h with
    | call hw ha =>
      obtain ⟨hname, hargs⟩ := List.forall_mem_append.1 ht
      refine ⟨isReference_of_nameTokens hw hname, ha.wellFormed fun t hm => ?_⟩
      exact hargs t (List.mem_cons_of_mem _ (List.mem_append_left _ hm))

theorem ItemsTokens.wellFormed : ∀ {es : List Expr} {ts : List Token}, ItemsTokens ts es →
    (∀ t ∈ ts, t.WellFormed) → Expr.WellFormedItems es
  | [], _, _, _ => trivial
  | _ :: _, _, h, ht => by
    cases h with
    | last he => exact ⟨he.wellFormed ht, trivial⟩
    | cons he hs =>
      obtain ⟨hfirst, hrest⟩ := List.forall_mem_append.1 ht
      exact ⟨he.wellFormed hfirst, hs.wellFormed fun t hm => hrest t (List.mem_cons_of_mem _ hm)⟩

theorem FieldsTokens.wellFormed : ∀ {fields : List (String × Expr)} {ts : List Token},
    FieldsTokens ts fields → (∀ t ∈ ts, t.WellFormed) → Expr.WellFormedFields fields
  | [], _, _, _ => trivial
  | _ :: _, _, h, ht => by
    cases h with
    | last _ he =>
      exact ⟨he.wellFormed fun t hm => ht t (List.mem_cons_of_mem _ (List.mem_cons_of_mem _ hm)),
        trivial⟩
    | cons _ he hs =>
      have hbehind := fun t hm => ht t (List.mem_cons_of_mem _ (List.mem_cons_of_mem _ hm))
      obtain ⟨hfirst, hrest⟩ := List.forall_mem_append.1 hbehind
      exact ⟨he.wellFormed hfirst, hs.wellFormed fun t hm => hrest t (List.mem_cons_of_mem _ hm)⟩
end

mutual
theorem StatementTokens.wellFormed : ∀ {s : Statement} {ts : List Token}, StatementTokens ts s →
    (∀ t ∈ ts, t.WellFormed) → s.WellFormed
  | .attribute name _, _, h, ht => by
    cases h with
    | «attribute» hv =>
      refine ⟨ht (.ident name) (List.mem_cons_self ..), hv.wellFormed fun t hm => ?_⟩
      exact ht t (List.mem_cons_of_mem _ (List.mem_cons_of_mem _ hm))
  | .block _ _ _, _, h, ht => by
    cases h with
    | block hb =>
      obtain ⟨hname, hrest⟩ := List.forall_mem_append.1 ht
      obtain ⟨-, hbody⟩ := List.forall_mem_append.1 hrest
      refine ⟨isName_of_nameTokens hname, hb.wellFormed fun t hm => ?_⟩
      exact hbody t (List.mem_cons_of_mem _ (List.mem_append_left _ hm))

theorem BodyTokens.wellFormed : ∀ {body : Body} {ts : List Token}, BodyTokens ts body →
    (∀ t ∈ ts, t.WellFormed) → body.WellFormed
  | [], _, _, _ => trivial
  | _ :: _, _, h, ht => by
    cases h with
    | cons hs hb =>
      obtain ⟨hfirst, hrest⟩ := List.forall_mem_append.1 ht
      exact ⟨hs.wellFormed hfirst, hb.wellFormed hrest⟩
end

/-! ## Documents -/

/-- Every document that the parser returns is well formed. -/
theorem wellFormed_of_parseDocument {text : String} {body : Body}
    (h : parseDocument text = .ok body) : body.WellFormed := by
  rw [parseDocument] at h
  cases hlex : lex text with
  | error e => rw [hlex] at h; exact absurd h (by simp)
  | ok ts =>
    rw [hlex] at h
    cases hp : parseBody true ts with
    | error e => simp [hp, Except.map] at h
    | ok p =>
      simp only [hp, Except.map, Except.ok.injEq] at h
      subst h
      obtain ⟨ls, hts, hg, -⟩ := parseBody_derives p.value ⟨p, hp, rfl, rfl⟩
      refine hg.wellFormed (List.forall_mem_map.2 fun t ht => ?_)
      refine wellFormed_of_lexFrom hlex t ?_
      rw [hts]
      exact List.mem_append_left _ ht

end AgentConvert
