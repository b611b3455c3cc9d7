import AgentConvert.Proofs.Override.Form
import AgentConvert.Proofs.Override.Steps

/-!
# What becomes of a form

An encoded form is turned into its expression just if it is no block and has none inside
(`Form.toExpr_encoded`), and into its statements just if it can be a field (`Form.body_encoded`). As
the payload of a category it is a value of the category just if its expression is the value's
payload (`Form.special_encoded`), and as a key just if its expression is a text or a number
(`Form.key?_encoded`).
-/

namespace AgentConvert

/-- The text that an expression is as a key. -/
def Expr.keyText? : Expr → Option String
  | .str s => some s
  | .number n => some n
  | _ => none

/-- The expression that has to be the payload for the value of a category. -/
def Special.payload : Special → Expr
  | secret s => .str s
  | regex pattern => .str pattern
  | targets ts => .array (ts.map targetExpr)
  | reference path => .str path
  | placeholder p => .str p.name

namespace Form

variable {α : Type} {f : α → Expr} {t : Form α} {name context : String} {x : Expr}

/-! ## Expressions -/

theorem encoded_eq_skip_iff : t.encoded f = .skip ↔ t.isNothing = true := by
  cases t with
  | list items =>
    rw [encoded]
    split <;> simp [isNothing]
  | _ => simp [encoded, isNothing]

theorem isShown_of_isNothing (h : t.isNothing = true) : t.IsShown := by
  cases t with
  | nothing => simp [IsShown]
  | _ => exact absurd h (by simp [isNothing])

theorem fieldExprs_encoded {fields : List (String × Form α)} {xs : List (String × Expr)}
    (h : ∀ e ∈ fields, ∀ context x, (e.2.encoded f).toExpr context = .ok x ↔
      e.2.IsShown ∧ x = e.2.expr f) :
    Encoded.fieldExprs (fields.map fun e => (e.1, e.2.encoded f)) = .ok xs ↔
      (∀ e ∈ fields, e.2.IsShown) ∧
        xs = (fields.filter (!·.2.isNothing)).map fun e => (e.1, e.2.expr f) := by
  induction fields generalizing xs with
  | nil => simp [Encoded.fieldExprs, eq_comm]
  | cons e fields ih =>
    have hrest (ys : List (String × Expr)) := @ih ys fun e he => h e (List.mem_cons_of_mem _ he)
    rw [List.map_cons, List.forall_mem_cons]
    by_cases hnothing : e.2.isNothing = true
    · rw [encoded_eq_skip_iff.2 hnothing, Encoded.fieldExprs_cons_skip, hrest,
        List.filter_cons_of_neg (by simpa using hnothing)]
      simp only [isShown_of_isNothing hnothing, true_and]
    · rw [Encoded.fieldExprs_cons_eq_ok fun heq => hnothing (encoded_eq_skip_iff.1 heq),
        List.filter_cons_of_pos (by simpa using hnothing), List.map_cons]
      simp only [h e (List.mem_cons_self ..), hrest]
      constructor
      · rintro ⟨x, ⟨hshown, rfl⟩, ys, ⟨hfields, rfl⟩, rfl⟩
        exact ⟨⟨hshown, hfields⟩, rfl⟩
      · rintro ⟨⟨hshown, hfields⟩, rfl⟩
        exact ⟨_, ⟨hshown, rfl⟩, _, ⟨hfields, rfl⟩, rfl⟩

/-- A form is turned into its expression, unless there is a block in it. -/
theorem toExpr_encoded (t : Form α) (context : String) (x : Expr) :
    (t.encoded f).toExpr context = .ok x ↔ t.IsShown ∧ x = t.expr f := by
  induction t using of_children generalizing context x with | _ t ih
  cases t with
  | struct fields =>
    rw [encoded, Encoded.toExpr_fields_eq_ok, IsShown, expr]
    have hfields (xs : List (String × Expr)) := @fieldExprs_encoded α f fields xs fun e he =>
      ih e.2 (List.mem_map_of_mem he)
    simp only [hfields, and_assoc, exists_and_left, exists_eq_left]
  | list items =>
    rw [encoded, IsShown, expr]
    split
    · rename_i h
      simp [h, Encoded.toExpr]
    · rename_i h
      simp [h, Encoded.toExpr, eq_comm]
  | block own fields => simp [encoded, Encoded.toExpr, IsShown]
  | _ => simp [encoded, Encoded.toExpr, IsShown, expr, eq_comm]

/-! ## Statements -/

theorem body_fields_of {fields : List (String × Form α)} {out : Body}
    (h : ∀ e ∈ fields, ∀ out, Encoded.body [(e.1, e.2.encoded f)] = .ok out ↔
      e.2.IsPart ∧ out = e.2.part f e.1) :
    Encoded.body (fields.map fun e => (e.1, e.2.encoded f)) = .ok out ↔
      (∀ e ∈ fields, e.2.IsPart) ∧ out = fields.flatMap fun e => e.2.part f e.1 := by
  induction fields generalizing out with
  | nil => simp [Encoded.body, eq_comm]
  | cons e fields ih =>
    have hrest (others : Body) := @ih others fun e he => h e (List.mem_cons_of_mem _ he)
    rw [List.map_cons, Encoded.body_cons_eq_ok, List.forall_mem_cons, List.flatMap_cons]
    simp only [h e (List.mem_cons_self ..), hrest]
    constructor
    · rintro ⟨_, ⟨hpart, rfl⟩, _, ⟨hfields, rfl⟩, rfl⟩
      exact ⟨⟨hpart, hfields⟩, rfl⟩
    · rintro ⟨⟨hpart, hfields⟩, rfl⟩
      exact ⟨_, ⟨hpart, rfl⟩, _, ⟨hfields, rfl⟩, rfl⟩

theorem block?_encoded_of_not (h : t.isBlock = false) : (t.encoded f).block? = none := by
  cases t with
  | list items =>
    rw [encoded]
    split <;> rfl
  | block own fields => exact absurd h (by simp [isBlock])
  | _ => simp [encoded, Encoded.block?]

/-- A block is encoded as a block. -/
theorem exists_block?_encoded (h : t.isBlock = true) :
    ∃ b, (t.encoded f).block? = some b ∧ t.encoded f = .block b.1 b.2 := by
  cases t with
  | block own fields => exact ⟨_, by rw [encoded]; rfl, by rw [encoded]⟩
  | _ => exact absurd h (by simp [isBlock])

/-- The blocks of a list are fields of one name. -/
theorem map_block?_encoded (name : String) (items : List (Form α)) :
    ((items.filterMap fun t => (t.encoded f).block?).map fun b => (name, Encoded.block b.1 b.2)) =
      ((items.filter isBlock).map (name, ·)).map fun e => (e.1, e.2.encoded f) := by
  induction items with
  | nil => rfl
  | cons t items ih =>
    by_cases hblock : t.isBlock = true
    · obtain ⟨b, hb, hencoded⟩ := exists_block?_encoded (f := f) hblock
      rw [List.filterMap_cons, hb, List.filter_cons_of_pos hblock, List.map_cons, ih,
        List.map_cons, List.map_cons, hencoded]
    · have hnone := block?_encoded_of_not (f := f) (Bool.not_eq_true _ ▸ hblock)
      rw [List.filterMap_cons, hnone, List.filter_cons_of_neg hblock, ih]

/-- A form is turned into its statements, if it can be a field. -/
theorem body_field (t : Form α) (name : String) (out : Body) :
    Encoded.body [(name, t.encoded f)] = .ok out ↔ t.IsPart ∧ out = t.part f name := by
  induction t using of_children generalizing name out with | _ t ih
  cases t with
  | list items =>
    rw [encoded, part, IsPart]
    split
    · have hblocks : ∀ e ∈ (items.filter isBlock).map (name, ·), ∀ out,
          Encoded.body [(e.1, e.2.encoded f)] = .ok out ↔ e.2.IsPart ∧ out = e.2.part f e.1 := by
        intro e he
        obtain ⟨t, ht, rfl⟩ := List.mem_map.1 he
        exact ih t (List.mem_filter.1 ht).1 name
      rw [Encoded.body_blocks_eq, Encoded.bodies_eq, map_block?_encoded, body_fields_of hblocks,
        List.forall_mem_map, List.flatMap_map]
      simp only [List.mem_filter, and_imp]
    · rename_i h
      have hvalues : ∀ t ∈ items, t.isBlock = true → t.IsPart := fun t ht hblock =>
        absurd (List.any_eq_true.2 ⟨t, ht, hblock⟩) h
      rw [Encoded.body_expr, Except.ok.injEq, eq_comm]
      exact (and_iff_right hvalues).symm
  | struct fields =>
    have hfields (xs : List (String × Expr)) := @fieldExprs_encoded α f fields xs fun e _ =>
      toExpr_encoded e.2
    rw [encoded, Encoded.body_fields_eq_ok, IsPart]
    simp only [hfields, and_assoc, exists_and_left, exists_eq_left, part, expr]
  | block own fields =>
    have hfields (inside : Body) := @body_fields_of α f fields inside fun e he =>
      ih e.2 (List.mem_map_of_mem he) e.1
    rw [encoded, Encoded.body_block_eq_ok, IsPart, part]
    simp only [hfields, and_assoc, exists_and_left, exists_eq_left]
  | _ => simp [encoded, Encoded.body_skip, Encoded.body_expr, IsPart, part, eq_comm]

/-- Forms are turned into the statements of a block, if all of them can be fields. -/
theorem body_encoded {fields : List (String × Form α)} {out : Body} :
    Encoded.body (fields.map fun e => (e.1, e.2.encoded f)) = .ok out ↔
      (∀ e ∈ fields, e.2.IsPart) ∧ out = (struct fields).body f :=
  body_fields_of fun e _ => body_field e.2 e.1

/-- Whether the form can be a whole block: that of a record of fields, or of nothing. -/
def IsBody (t : Form α) : Prop :=
  t.isNothing = true ∨ ∃ fields, t = .struct fields ∧ ∀ e ∈ fields, e.2.IsPart

/-- A form is turned into the statements of a whole block, if it can be one. -/
theorem whole_encoded (t : Form α) (out : Body) :
    (t.encoded f).whole = .ok out ↔ t.IsBody ∧ out = t.body f := by
  rw [IsBody]
  cases t with
  | struct fields =>
    rw [encoded, Encoded.whole, body_encoded]
    simp [isNothing]
  | nothing => simp [encoded, Encoded.whole, isNothing, body, eq_comm]
  | list items =>
    rw [encoded]
    split <;> simp [Encoded.whole, isNothing]
  | _ => simp [encoded, Encoded.whole, isNothing]

/-- The block with the statements of the form. An empty label is no label. -/
def toBlock (f : α → Expr) (kind : ComponentKind) (label : String) (t : Form α) : Block :=
  ⟨kind.segments, if label = "" then none else some label, t.body f⟩

/-! ## Lists -/

/-- Whether forms are the items of a list: blocks alone, or expressions alone. -/
def AreItems (items : List (Form α)) : Prop :=
  (∀ t ∈ items, t.isBlock = false ∧ t.IsShown) ∨ items ≠ [] ∧ ∀ t ∈ items, t.isBlock = true

theorem mapM_toExpr_encoded {items : List (Form α)} {xs : List Expr} :
    (items.map (encoded f)).mapM (Encoded.toExpr "list element") = .ok xs ↔
      (∀ t ∈ items, t.IsShown) ∧ xs = items.map (expr f) := by
  induction items generalizing xs with
  | nil => simp [pure_eq_ok]
  | cons t items ih =>
    rw [List.map_cons, List.mapM_cons]
    simp only [bind_eq_ok, pure_eq_ok, toExpr_encoded, ih, List.forall_mem_cons, List.map_cons]
    constructor
    · rintro ⟨_, ⟨ht, rfl⟩, _, ⟨hitems, rfl⟩, rfl⟩
      exact ⟨⟨ht, hitems⟩, rfl⟩
    · rintro ⟨⟨ht, hitems⟩, rfl⟩
      exact ⟨_, ⟨ht, rfl⟩, _, ⟨hitems, rfl⟩, rfl⟩

theorem length_block?_encoded (items : List (Form α)) :
    (items.filterMap fun t => (t.encoded f).block?).length = (items.filter isBlock).length := by
  have hlength := congrArg List.length (map_block?_encoded (f := f) "" items)
  simpa using hlength

theorem isEmpty_block?_encoded (items : List (Form α)) :
    (items.filterMap fun t => (t.encoded f).block?).isEmpty = !items.any isBlock := by
  rw [Bool.eq_iff_iff, List.isEmpty_iff_length_eq_zero, length_block?_encoded,
    List.length_eq_zero_iff, List.filter_eq_nil_iff]
  simp

theorem areItems_of_any {items : List (Form α)} (h : items.any isBlock = true) :
    AreItems items ↔ (items.filter isBlock).length = items.length := by
  obtain ⟨t, ht, hblock⟩ := List.any_eq_true.1 h
  rw [List.length_filter_eq_length_iff]
  refine ⟨?_, fun hall => .inr ⟨List.ne_nil_of_mem ht, hall⟩⟩
  rintro (hnone | ⟨-, hall⟩)
  · exact absurd hblock (by simp [(hnone t ht).1])
  · exact hall

theorem areItems_of_not_any {items : List (Form α)} (h : items.any isBlock = false) :
    AreItems items ↔ ∀ t ∈ items, t.IsShown := by
  have hnone : ∀ t ∈ items, t.isBlock = false := by simpa using h
  refine ⟨?_, fun hall => .inl fun t ht => ⟨hnone t ht, hall t ht⟩⟩
  rintro (hall | ⟨hne, hall⟩)
  · exact fun t ht => (hall t ht).2
  · obtain ⟨t, ht⟩ := List.exists_mem_of_ne_nil items hne
    exact absurd (hall t ht) (by simp [hnone t ht])

/-- Items are turned into a list, if they can be the items of one. -/
theorem ofList_encoded {items : List (Form α)} {e : Encoded} :
    Encoded.ofList (items.map (encoded f)) = .ok e ↔
      AreItems items ∧ e = (list items).encoded f := by
  have hblocks : (items.map (encoded f)).filterMap Encoded.block? =
      items.filterMap fun t => (t.encoded f).block? := List.filterMap_map
  unfold Encoded.ofList
  simp only [hblocks, List.length_map, length_block?_encoded, isEmpty_block?_encoded, encoded]
  cases hany : items.any isBlock with
  | true =>
    rw [areItems_of_any hany]
    split
    · rename_i h
      simp at h
    · split
      · rename_i h
        simp [h, pure_eq_ok]
      · rename_i h
        simp [h, throw, throwThe, MonadExceptOf.throw]
  | false =>
    rw [areItems_of_not_any hany]
    simp only [Bool.not_false, if_true, bind_eq_ok, pure_eq_ok, mapM_toExpr_encoded]
    constructor
    · rintro ⟨_, ⟨hitems, rfl⟩, rfl⟩
      exact ⟨hitems, rfl⟩
    · rintro ⟨hitems, rfl⟩
      exact ⟨_, ⟨hitems, rfl⟩, rfl⟩

/-! ## Keys and payloads -/

/-- A form is a key, if its expression is a text or a number. -/
theorem key?_encoded (t : Form α) (name : String) :
    (t.encoded f).key? = some name ↔ t.IsShown ∧ (t.expr f).keyText? = some name := by
  cases t with
  | list items =>
    rw [encoded, expr]
    split <;> simp [Encoded.key?, Expr.keyText?]
  | block own fields => simp [encoded, Encoded.key?, IsShown]
  | struct fields => simp [encoded, expr, Encoded.key?, Expr.keyText?]
  | nothing => simp [encoded, expr, Encoded.key?, Expr.keyText?]
  | given e | hole a | concat lists =>
    simp only [encoded, IsShown, true_and]
    cases expr f _ <;> simp [Encoded.key?, Expr.keyText?]

theorem toText_encoded (t : Form α) (s : String) :
    (t.encoded f).toText = .ok s ↔ t.IsShown ∧ t.expr f = .str s := by
  cases t with
  | list items =>
    rw [encoded, expr]
    split <;> simp [Encoded.toText]
  | block own fields => simp [encoded, Encoded.toText, IsShown]
  | struct fields => simp [encoded, expr, Encoded.toText]
  | nothing => simp [encoded, expr, Encoded.toText]
  | given e | hole a | concat lists =>
    simp only [encoded, IsShown, true_and]
    cases expr f _ <;> simp [Encoded.toText]

theorem mapM_eq_ok_iff {ε β γ : Type} {g : β → Except ε γ} {g' : γ → β}
    (h : ∀ b c, g b = .ok c ↔ b = g' c) {bs : List β} {cs : List γ} :
    bs.mapM g = .ok cs ↔ bs = cs.map g' := by
  induction bs generalizing cs with
  | nil =>
    rw [List.mapM_nil, pure_eq_ok]
    cases cs <;> simp
  | cons b bs ih =>
    rw [List.mapM_cons]
    simp only [bind_eq_ok, pure_eq_ok, h, ih]
    cases cs with
    | nil => simp
    | cons c cs => simp

theorem target_eq_ok {e : Expr} {t : Target} :
    Encoded.target e = .ok t ↔ e = Special.targetExpr t := by
  cases e with
  | object labels =>
    rw [Encoded.target, Special.targetExpr, Expr.object.injEq]
    refine mapM_eq_ok_iff fun l c => ?_
    obtain ⟨key, value⟩ := l
    cases value <;> simp [Prod.ext_iff, eq_comm]
  | _ => simp [Encoded.target, Special.targetExpr]

theorem targets_encoded (t : Form α) (ts : List Target) :
    (t.encoded f).targets = .ok ts ↔
      t.IsShown ∧ t.expr f = .array (ts.map Special.targetExpr) := by
  simp only [Encoded.targets, bind_eq_ok, toExpr_encoded, and_assoc, exists_and_left,
    exists_eq_left]
  refine and_congr_right fun _ => ?_
  cases t.expr f with
  | array items =>
    rw [Expr.array.injEq]
    exact mapM_eq_ok_iff fun _ _ => target_eq_ok
  | _ => simp

theorem ofName?_eq_some {s : String} {p : Placeholder} :
    Placeholder.ofName? s = some p ↔ s = p.name := by
  constructor
  · intro h
    have hname := List.find?_some h
    exact (eq_of_beq hname).symm
  · rintro rfl
    cases p <;> rfl

/-- A form is the payload of a category, if its expression is that of a value. -/
theorem special_encoded (t : Form α) (category : Category) (v : Special) :
    (t.encoded f).special category = .ok v ↔
      t.IsShown ∧ v.category = category ∧ t.expr f = v.payload := by
  cases category with
  | secret =>
    simp only [Encoded.special, bind_eq_ok, pure_eq_ok, toText_encoded]
    cases v <;> simp [Special.category, Special.payload]
  | regex =>
    simp only [Encoded.special, bind_eq_ok, pure_eq_ok, toText_encoded]
    cases v <;> simp [Special.category, Special.payload]
  | reference =>
    simp only [Encoded.special, bind_eq_ok, pure_eq_ok, toText_encoded]
    cases v <;> simp [Special.category, Special.payload]
  | targets =>
    simp only [Encoded.special, bind_eq_ok, pure_eq_ok, targets_encoded]
    cases v <;> simp [Special.category, Special.payload]
  | placeholder =>
    rw [Encoded.special, bind_eq_ok]
    simp only [toText_encoded]
    constructor
    · rintro ⟨s, ⟨hshown, hs⟩, h⟩
      split at h
      · rename_i p hp
        obtain rfl := Except.ok.inj h
        exact ⟨hshown, rfl, by rw [hs, ofName?_eq_some.1 hp]; rfl⟩
      · exact absurd h (by simp)
    · rintro ⟨hshown, hcategory, hx⟩
      cases v with
      | placeholder p =>
        have hp : Placeholder.ofName? p.name = some p := ofName?_eq_some.2 rfl
        exact ⟨p.name, ⟨hshown, hx⟩, by rw [hp]⟩
      | _ => exact absurd hcategory (by simp [Special.category])

end Form

end AgentConvert
