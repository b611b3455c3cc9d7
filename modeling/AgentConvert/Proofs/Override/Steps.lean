import AgentConvert.Argument.Encode

/-!
# Steps of the encoding

An encoding succeeds just if each of its steps does. These are the steps: what each constructor of
an argument needs and what it then comes to (`Argument.encode_list_eq_ok` and its like), and what
becomes of an encoded argument as an expression (`Encoded.toExpr_fields_eq_ok`) and as statements
(`Encoded.body_cons_eq_ok`).
-/

namespace AgentConvert

section

/-! ## Results -/

variable {ε α β σ : Type}

theorem bind_eq_ok {x : Except ε α} {f : α → Except ε β} {b : β} :
    x >>= f = .ok b ↔ ∃ a, x = .ok a ∧ f a = .ok b := by
  cases x <;> simp [bind, Except.bind]

theorem pure_eq_ok {a b : α} : (pure a : Except ε α) = .ok b ↔ b = a :=
  ⟨fun h => (Except.ok.inj h).symm, fun h => h ▸ rfl⟩

theorem run_bind_eq_ok {x : StateT σ (Except ε) α} {f : α → StateT σ (Except ε) β} {s : σ}
    {r : β × σ} : (x >>= f) s = .ok r ↔ ∃ a s', x s = .ok (a, s') ∧ f a s' = .ok r := by
  have hbind : (x >>= f) s = x s >>= fun p => f p.1 p.2 := rfl
  rw [hbind, bind_eq_ok, Prod.exists]

theorem run_pure_eq_ok {a b : α} {s s' : σ} :
    (pure a : StateT σ (Except ε) α) s = .ok (b, s') ↔ b = a ∧ s' = s := by
  have hpure : (pure a : StateT σ (Except ε) α) s = .ok (a, s) := rfl
  rw [hpure, Except.ok.injEq, Prod.mk.injEq, eq_comm, @eq_comm _ s]

theorem run_lift_eq_ok {x : Except ε α} {a : α} {s s' : σ} :
    (liftM x : StateT σ (Except ε) α) s = .ok (a, s') ↔ x = .ok a ∧ s' = s := by
  have hlift : (liftM x : StateT σ (Except ε) α) s = x >>= fun a => pure (a, s) := rfl
  simp only [hlift, bind_eq_ok, pure_eq_ok, Prod.mk.injEq]
  exact ⟨fun ⟨_, hx, ha, hs⟩ => ⟨ha ▸ hx, hs⟩, fun ⟨hx, hs⟩ => ⟨a, hx, rfl, hs⟩⟩

theorem run_map_eq_ok {x : StateT σ (Except ε) α} {f : α → β} {b : β} {s s' : σ} :
    (x >>= fun a => pure (f a)) s = .ok (b, s') ↔ ∃ a, x s = .ok (a, s') ∧ b = f a := by
  simp only [run_bind_eq_ok, run_pure_eq_ok]
  constructor
  · rintro ⟨a, s₁, hx, rfl, rfl⟩
    exact ⟨a, hx, rfl⟩
  · rintro ⟨a, hx, rfl⟩
    exact ⟨a, s', hx, rfl, rfl⟩

theorem run_mapM_cons_eq_ok {f : α → StateT σ (Except ε) β} {a : α} {as : List α} {bs : List β}
    {s s' : σ} : (a :: as).mapM f s = .ok (bs, s') ↔
      ∃ b s₁ rest, f a s = .ok (b, s₁) ∧ as.mapM f s₁ = .ok (rest, s') ∧ bs = b :: rest := by
  rw [List.mapM_cons, run_bind_eq_ok]
  simp only [run_map_eq_ok, exists_and_left]

theorem run_throw_ne_ok {e : ε} {s : σ} {r : α × σ} :
    (throw e : StateT σ (Except ε) α) s ≠ .ok r := by
  intro h
  cases h

/-! ## Failures -/

variable {e : ε} {s s' : σ}

theorem run_bind_eq_error {x : StateT σ (Except ε) α} {f : α → StateT σ (Except ε) β} :
    (x >>= f) s = .error e ↔ x s = .error e ∨ ∃ a s', x s = .ok (a, s') ∧ f a s' = .error e := by
  have hbind : (x >>= f) s = x s >>= fun p => f p.1 p.2 := rfl
  rw [hbind]
  cases x s with
  | error e' => simp [bind, Except.bind]
  | ok r => simp [bind, Except.bind, Prod.ext_iff, and_assoc]

theorem run_pure_ne_error {a : α} : (pure a : StateT σ (Except ε) α) s ≠ .error e := by
  intro h
  cases h

theorem run_map_eq_error {x : StateT σ (Except ε) α} {f : α → β} :
    (x >>= fun a => pure (f a)) s = .error e ↔ x s = .error e := by
  rw [run_bind_eq_error]
  exact or_iff_left fun ⟨_, _, _, h⟩ => run_pure_ne_error h

theorem run_lift_eq_error {x : Except ε α} :
    (liftM x : StateT σ (Except ε) α) s = .error e ↔ x = .error e := by
  have hlift : (liftM x : StateT σ (Except ε) α) s = x >>= fun a => pure (a, s) := rfl
  rw [hlift]
  cases x <;> simp [bind, Except.bind, pure, Except.pure]

/-- If the steps fail, one of them does. -/
theorem exists_of_run_mapM_eq_error {f : α → StateT σ (Except ε) β} {as : List α}
    (herror : as.mapM f s = .error e) : ∃ a ∈ as, ∃ s, f a s = .error e := by
  induction as generalizing s with
  | nil => exact absurd herror run_pure_ne_error
  | cons a as ih =>
    rw [List.mapM_cons, run_bind_eq_error] at herror
    rcases herror with herror | ⟨b, s₁, -, hrest⟩
    · exact ⟨a, List.mem_cons_self .., s, herror⟩
    · obtain ⟨c, hc, hfails⟩ := ih (run_map_eq_error.1 hrest)
      exact ⟨c, List.mem_cons_of_mem _ hc, hfails⟩

/-! ## Steps in a row -/

/-- Each of the steps that went well did so in some state. -/
theorem exists_of_run_mapM_eq_ok {f : α → StateT σ (Except ε) β} {as : List α} {bs : List β}
    (hok : as.mapM f s = .ok (bs, s')) : ∀ a ∈ as, ∃ b s₁ s₂, f a s₁ = .ok (b, s₂) := by
  induction as generalizing s bs with
  | nil => exact fun a ha => absurd ha List.not_mem_nil
  | cons a as ih =>
    obtain ⟨b, s₁, rest, hb, hrest, -⟩ := run_mapM_cons_eq_ok.1 hok
    exact List.forall_mem_cons.2 ⟨⟨b, s, s₁, hb⟩, ih hrest⟩

/-- Steps whose results do not depend on the state. -/
theorem eq_map_of_run_mapM_eq_ok {f : α → StateT σ (Except ε) β} {g : α → β} {as : List α}
    {bs : List β} (h : ∀ a ∈ as, ∀ s b s', f a s = .ok (b, s') → b = g a)
    (hok : as.mapM f s = .ok (bs, s')) : bs = as.map g := by
  induction as generalizing s bs with
  | nil => exact (run_pure_eq_ok.1 hok).1
  | cons a as ih =>
    obtain ⟨b, s₁, rest, hb, hrest, rfl⟩ := run_mapM_cons_eq_ok.1 hok
    rw [h a (List.mem_cons_self ..) s b s₁ hb,
      ih (fun c hc => h c (List.mem_cons_of_mem _ hc)) hrest, List.map_cons]

end

namespace Encoded

variable {name context : String} {e : Encoded} {fs rest : List (String × Encoded)} {out : Body}

/-! ## Expressions -/

theorem toExpr_fields_eq_ok {x : Expr} : (fields fs).toExpr context = .ok x ↔
    ∃ xs, fieldExprs fs = .ok xs ∧ x = .object xs := by
  simp only [toExpr, bind_eq_ok, pure_eq_ok]

theorem fieldExprs_cons_skip : fieldExprs ((name, .skip) :: rest) = fieldExprs rest := by
  rw [fieldExprs]

theorem fieldExprs_cons_eq_ok (h : e ≠ .skip) {xs : List (String × Expr)} :
    fieldExprs ((name, e) :: rest) = .ok xs ↔
      ∃ x, e.toExpr name = .ok x ∧ ∃ others, fieldExprs rest = .ok others ∧
        xs = (name, x) :: others := by
  rw [fieldExprs.eq_3 _ _ _ h]
  simp only [bind_eq_ok, pure_eq_ok]

/-- The encoded argument under the name of an alternative: a block without a name takes it. -/
def named (own : String) : Encoded → Encoded
  | .block none inner => .block (some own) inner
  | other => other

/-! ## Statements -/

theorem body_skip : body [(name, .skip)] = .ok [] := by
  rw [body, body]

theorem body_expr (x : Expr) : body [(name, .expr x)] = .ok [.attribute name x] := by
  rw [body, body]
  rfl

theorem body_fields_eq_ok : body [(name, .fields fs)] = .ok out ↔
    ∃ xs, fieldExprs fs = .ok xs ∧ out = [.attribute name (.object xs)] := by
  rw [body, body]
  simp only [bind_eq_ok, pure_eq_ok, Except.ok.injEq, exists_eq_left']

theorem body_block_eq_ok {own : Option String} : body [(name, .block own fs)] = .ok out ↔
    ∃ inside, body fs = .ok inside ∧ out = [.block (dotted (own.getD name)) none inside] := by
  rw [body, body]
  simp only [bind_eq_ok, pure_eq_ok, Except.ok.injEq, exists_eq_left']

theorem body_blocks_eq (list : List (Option String × List (String × Encoded))) :
    body [(name, .blocks list)] = bodies name list := by
  rw [body, body]
  cases bodies name list <;> simp [bind, Except.bind, pure, Except.pure]

/-- A body is the first field's statements and the others'. -/
theorem body_cons_eq_ok : body ((name, e) :: rest) = .ok out ↔
    ∃ first, body [(name, e)] = .ok first ∧ ∃ others, body rest = .ok others ∧
      out = first ++ others := by
  cases e with
  | skip => simp [body]
  | expr x =>
    rw [body, body_expr]
    simp only [bind_eq_ok, pure_eq_ok, Except.ok.injEq, exists_eq_left', List.singleton_append]
  | fields fs =>
    rw [body]
    simp only [bind_eq_ok, pure_eq_ok, body_fields_eq_ok]
    constructor
    · rintro ⟨xs, hxs, others, hothers, rfl⟩
      exact ⟨_, ⟨xs, hxs, rfl⟩, others, hothers, rfl⟩
    · rintro ⟨_, ⟨xs, hxs, rfl⟩, others, hothers, rfl⟩
      exact ⟨xs, hxs, others, hothers, rfl⟩
  | block own fs =>
    rw [body]
    simp only [bind_eq_ok, pure_eq_ok, body_block_eq_ok]
    constructor
    · rintro ⟨inside, hinside, others, hothers, rfl⟩
      exact ⟨_, ⟨inside, hinside, rfl⟩, others, hothers, rfl⟩
    · rintro ⟨_, ⟨inside, hinside, rfl⟩, others, hothers, rfl⟩
      exact ⟨inside, hinside, others, hothers, rfl⟩
  | blocks list =>
    rw [body, body_blocks_eq]
    simp only [bind_eq_ok, pure_eq_ok]

/-- Nested blocks under one name are fields of that name. -/
theorem bodies_eq (list : List (Option String × List (String × Encoded))) :
    bodies name list = body (list.map fun b => (name, .block b.1 b.2)) := by
  induction list with
  | nil => rw [bodies, List.map_nil, body]
  | cons b list ih => rw [bodies, List.map_cons, body, ih]

/-- The statements of a whole block. -/
def whole : Encoded → Except EncodeError Body
  | fields fs => body fs
  | skip => .ok []
  | other => .error (.notARecord other.shape)

end Encoded

namespace Argument

variable {σ : Type} {hook : Override σ} {s s' : σ} {a : Argument} {e : Encoded}

/-! ## Items, fields and entries -/

/-- Encodes a field of a record. -/
def encodeField (hook : Override σ) (e : String × Argument) :
    StateT σ (Except EncodeError) (String × Encoded) := do
  return (e.1, ← e.2.encode hook)

/-- Encodes an entry of a map. -/
def encodeEntry (hook : Override σ) (e : Argument × Argument) :
    StateT σ (Except EncodeError) (String × Encoded) := do
  match (← e.1.encode hook).key? with
  | none => throw .keyNotText
  | some key => return (key, ← e.2.encode hook)

theorem encodeItems_eq (hook : Override σ) (items : List Argument) :
    encodeItems hook items = items.mapM (encode hook) := by
  induction items with
  | nil => rw [encodeItems, List.mapM_nil]
  | cons a items ih => rw [encodeItems, List.mapM_cons, ih]

theorem encodeFields_eq (hook : Override σ) (fields : Fields) :
    encodeFields hook fields = fields.mapM (encodeField hook) := by
  induction fields with
  | nil => rw [encodeFields, List.mapM_nil]
  | cons e fields ih =>
    simp only [encodeFields, List.mapM_cons, ih, encodeField, bind_assoc, pure_bind]

theorem encodeEntries_eq (hook : Override σ) (entries : List (Argument × Argument)) :
    encodeEntries hook entries = entries.mapM (encodeEntry hook) := by
  induction entries with
  | nil => rw [encodeEntries, List.mapM_nil]
  | cons e entries ih =>
    rw [encodeEntries, List.mapM_cons, ih, encodeEntry, bind_assoc]
    refine congrArg (e.1.encode hook >>= ·) (funext fun key => ?_)
    cases key.key? with
    | none => rfl
    | some name => simp only [bind_assoc, pure_bind]

theorem encodeField_eq_ok {field : String × Argument} {x : String × Encoded} :
    encodeField hook field s = .ok (x, s') ↔
      ∃ e, field.2.encode hook s = .ok (e, s') ∧ x = (field.1, e) := by
  rw [encodeField, run_map_eq_ok]

theorem encodeEntry_eq_ok {entry : Argument × Argument} {x : String × Encoded} :
    encodeEntry hook entry s = .ok (x, s') ↔
      ∃ key s₁ name, entry.1.encode hook s = .ok (key, s₁) ∧ key.key? = some name ∧
        ∃ e, entry.2.encode hook s₁ = .ok (e, s') ∧ x = (name, e) := by
  rw [encodeEntry, run_bind_eq_ok]
  refine exists_congr fun key => exists_congr fun s₁ => ?_
  cases hname : key.key? with
  | none =>
    refine ⟨fun ⟨_, h⟩ => absurd h run_throw_ne_ok, ?_⟩
    rintro ⟨name, -, h, -⟩
    exact absurd h (by simp)
  | some name =>
    simp only [run_map_eq_ok, Option.some.injEq, exists_and_left, exists_eq_left']

/-! ## Arguments -/

theorem encode_float_eq_ok {x : Binary64} : (float x).encode hook s = .ok (e, s') ↔
    x.isFinite = true ∧ e = .expr (.number x.text) ∧ s' = s := by
  rw [encode]
  split
  · rename_i h
    rw [run_pure_eq_ok]
    simp [h]
  · rename_i h
    simp [h, run_throw_ne_ok]

theorem encode_list_eq_ok {items : List Argument} : (list items).encode hook s = .ok (e, s') ↔
    ∃ es, items.mapM (encode hook) s = .ok (es, s') ∧ Encoded.ofList es = .ok e := by
  rw [encode, encodeItems_eq, run_bind_eq_ok]
  simp only [run_lift_eq_ok]
  constructor
  · rintro ⟨es, s₁, hes, he, rfl⟩
    exact ⟨es, hes, he⟩
  · rintro ⟨es, hes, he⟩
    exact ⟨es, s', hes, he, rfl⟩

theorem encode_record_eq_ok {fields : Fields} : (record fields).encode hook s = .ok (e, s') ↔
    ∃ fs, fields.mapM (encodeField hook) s = .ok (fs, s') ∧ e = .fields fs := by
  rw [encode, encodeFields_eq, run_map_eq_ok]

theorem encode_map_eq_ok {entries : List (Argument × Argument)} :
    (map entries).encode hook s = .ok (e, s') ↔
      ∃ fs, entries.mapM (encodeEntry hook) s = .ok (fs, s') ∧ e = .fields fs := by
  rw [encode, encodeEntries_eq, run_map_eq_ok]

theorem encode_variant (own : String) : (variant own a).encode hook =
    a.encode hook >>= fun inner => pure (inner.named own) := by
  rw [encode]
  refine congrArg (a.encode hook >>= ·) (funext fun inner => ?_)
  cases inner with
  | block own inner => cases own <;> rfl
  | _ => rfl

theorem encode_variant_eq_ok {own : String} : (variant own a).encode hook s = .ok (e, s') ↔
    ∃ inner, a.encode hook s = .ok (inner, s') ∧ e = inner.named own := by
  rw [encode_variant, run_map_eq_ok]

theorem encode_block_eq_ok : (block a).encode hook s = .ok (e, s') ↔
    ∃ fs, a.encode hook s = .ok (.fields fs, s') ∧ e = .block none fs := by
  rw [encode, run_bind_eq_ok]
  constructor
  · rintro ⟨inner, s₁, hinner, he⟩
    cases inner with
    | fields fs =>
      obtain ⟨rfl, rfl⟩ := run_pure_eq_ok.1 he
      exact ⟨fs, hinner, rfl⟩
    | _ => exact absurd he run_throw_ne_ok
  · rintro ⟨fs, hfs, rfl⟩
    exact ⟨_, s', hfs, rfl⟩

/-- The override is asked for the value of the payload, in the state in which it is behind the
payload. -/
theorem encode_special_eq_ok {category : Category} :
    (special category a).encode hook s = .ok (e, s') ↔
      ∃ payload s₁ v, a.encode hook s = .ok (payload, s₁) ∧ payload.special category = .ok v ∧
        e = .expr (hook v s₁).1.render ∧ s' = (hook v s₁).2 := by
  rw [encode, run_bind_eq_ok]
  refine exists_congr fun payload => exists_congr fun s₁ => ?_
  rw [run_bind_eq_ok]
  simp only [run_lift_eq_ok, consult, Except.ok.injEq, Prod.mk.injEq]
  constructor
  · rintro ⟨hpayload, v, _, ⟨hv, rfl⟩, rfl, rfl⟩
    exact ⟨v, hpayload, hv, rfl, rfl⟩
  · rintro ⟨v, hpayload, hv, rfl, rfl⟩
    exact ⟨hpayload, v, s₁, ⟨hv, rfl⟩, rfl, rfl⟩

theorem encode_concat_eq_ok : (concat a).encode hook s = .ok (e, s') ↔
    ∃ lists args, a.encode hook s = .ok (lists, s') ∧ lists.toExpr "concat" = .ok (.array args) ∧
      e = .expr (.call ["concat"] args) := by
  rw [encode, run_bind_eq_ok]
  constructor
  · rintro ⟨lists, s₁, hlists, h⟩
    obtain ⟨x, s₂, hlift, h⟩ := run_bind_eq_ok.1 h
    obtain ⟨hx, rfl⟩ := run_lift_eq_ok.1 hlift
    cases x with
    | array args =>
      obtain ⟨rfl, rfl⟩ := run_pure_eq_ok.1 h
      exact ⟨lists, args, hlists, hx, rfl⟩
    | _ => exact absurd h run_throw_ne_ok
  · rintro ⟨lists, args, hlists, hx, rfl⟩
    exact ⟨lists, s', hlists, run_bind_eq_ok.2 ⟨_, s', run_lift_eq_ok.2 ⟨hx, rfl⟩, rfl⟩⟩

/-! ## Whole blocks -/

theorem toBody_eq_ok {out : Body} : a.toBody hook s = .ok (out, s') ↔
    ∃ e, a.encode hook s = .ok (e, s') ∧ e.whole = .ok out := by
  rw [toBody, bind_eq_ok, Prod.exists]
  refine exists_congr fun e => ?_
  cases e with
  | fields fs =>
    simp only [bind_eq_ok, pure_eq_ok, Prod.mk.injEq, Encoded.whole]
    constructor
    · rintro ⟨s₁, hok, _, hout, rfl, rfl⟩
      exact ⟨hok, hout⟩
    · rintro ⟨hok, hout⟩
      exact ⟨s', hok, out, hout, rfl, rfl⟩
  | skip =>
    simp only [pure_eq_ok, Prod.mk.injEq, Encoded.whole, Except.ok.injEq]
    constructor
    · rintro ⟨s₁, hok, rfl, rfl⟩
      exact ⟨hok, rfl⟩
    · rintro ⟨hok, rfl⟩
      exact ⟨s', hok, rfl, rfl⟩
  | _ => simp [throw, throwThe, MonadExceptOf.throw, Encoded.whole]

/-- A block is built of what the argument is encoded as. -/
theorem buildWith_eq_ok {kind : ComponentKind} {label : String} {b : Block} :
    Block.buildWith hook kind label a s = .ok (b, s') ↔
      ∃ e out, a.encode hook s = .ok (e, s') ∧ e.whole = .ok out ∧
        b = ⟨kind.segments, if label = "" then none else some label, out⟩ := by
  rw [Block.buildWith, bind_eq_ok]
  simp only [Prod.exists, toBody_eq_ok, pure_eq_ok, Prod.mk.injEq]
  constructor
  · rintro ⟨out, s₁, ⟨e, hok, hout⟩, rfl, rfl⟩
    exact ⟨e, out, hok, hout, rfl⟩
  · rintro ⟨e, out, hok, hout, rfl⟩
    exact ⟨out, s', ⟨e, hok, hout⟩, rfl, rfl⟩

end Argument

end AgentConvert
