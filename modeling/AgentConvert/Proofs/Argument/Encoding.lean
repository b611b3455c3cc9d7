import AgentConvert.Proofs.Argument.Rendering
import AgentConvert.Proofs.Override.Placed

/-!
# Encoding makes the parts of arguments

What an argument stands for is what its form is: a value fits where values stand and has the form's
expression (`Argument.fits_of_isValue`, `Argument.expr_form`), and a part fits where fields stand
and has the form's statements (`Argument.fits_of_isPart`, `Argument.part_form`). So fields that can
stand in a block are encoded and make their parts, whatever an override that keeps no state renders
(`Block.build_parts`).
-/

namespace AgentConvert

/-- The rendering that an override without a state leads to. -/
def renderBy (g : Special → Special.Answer) (v : Special) : Expr := (g v).render

theorem noOverride_eq : noOverride = overrideBy .error := rfl

theorem renderBy_error : renderBy .error = Special.render := rfl

namespace Form

variable {α : Type} {f : α → Expr} {t : Form α}

/-- A value is one attribute, unless it is absent. -/
theorem part_of_isShown (name : String) (h : t.IsShown) :
    t.part f name = if t.isNothing then [] else [.attribute name (t.expr f)] := by
  cases t with
  | list items =>
    rw [IsShown] at h
    rw [part, if_neg (by simp [h]), expr]
    rfl
  | block own fields => simp [IsShown] at h
  | _ => simp [part, isNothing]

theorem isPart_of_isShown (h : t.IsShown) : t.IsPart := by
  cases t with
  | list items =>
    rw [IsShown, List.any_eq_false] at h
    rw [IsPart]
    exact fun t ht hblock => absurd hblock (h t ht)
  | struct fields =>
    rw [IsShown] at h
    rwa [IsPart]
  | block own fields => simp [IsShown] at h
  | _ => simp [IsPart]

theorem isBlock_named (own : String) (t : Form α) : (t.named own).isBlock = t.isBlock := by
  cases t with
  | block name fields => cases name <;> rfl
  | _ => rfl

/-- The name of an alternative is that of the block right inside. -/
theorem part_named (own name : String) (h : t.isBlock = true) :
    (t.named own).part f name = t.part f own := by
  cases t with
  | block inner fields => cases inner <;> simp [named, part]
  | _ => exact absurd h (by simp [isBlock])

end Form

namespace Argument

variable {p : Special → Prop} {f : Special → Expr} {category : Category} {a : Argument}

/-! ## Payloads -/

theorem form_target (t : Target) :
    (target t).form = .struct (t.map fun l => (l.1, .given (.str l.2))) := by
  simp [target, form]

theorem expr_form_target (t : Target) : (target t).form.expr f = Special.targetExpr t := by
  have hall : (t.map fun l => (l.1, Form.given (α := Special) (.str l.2))).filter
      (!·.2.isNothing) = t.map fun l => (l.1, .given (.str l.2)) := by
    refine List.filter_eq_self.2 fun e he => ?_
    obtain ⟨l, -, rfl⟩ := List.mem_map.1 he
    rfl
  rw [form_target, Form.expr, hall, Special.targetExpr, List.map_map]
  simp [Function.comp_def, Form.expr]

/-- Targets are encoded as what they are rendered as. -/
theorem encoded_form_targets (ts : List Target) :
    (Argument.list (ts.map target)).form.encoded f =
      .expr (.array (ts.map Special.targetExpr)) := by
  have hnone : ((ts.map target).map form).any Form.isBlock = false := by
    simp [form_target, Form.isBlock]
  rw [form, Form.encoded, hnone, List.map_map, List.map_map]
  simp [Function.comp_def, expr_form_target]

theorem payloadTargets_targets (ts : List Target) :
    (Argument.list (ts.map target)).payloadTargets = ts := by
  have htarget : ∀ t : Target, (target t).payloadTarget = t := fun t => by
    show (t.map fun l => (l.1, Argument.text l.2)).map (fun e => (e.1, e.2.payloadText)) = t
    rw [List.map_map]
    exact List.map_id t
  show (ts.map target).map payloadTarget = ts
  rw [List.map_map, show payloadTarget ∘ target = id from funext htarget, List.map_id]

theorem category_ofPayload (category : Category) (a : Argument) :
    (ofPayload category a).category = category := by
  cases category <;> rfl

namespace IsPayload

/-- A payload is shown as the value of the category needs it. -/
theorem shown_eq (h : IsPayload category a) : a.shown = (ofPayload category a).payload := by
  cases category with
  | targets =>
    obtain ⟨ts, rfl⟩ := h
    rw [ofPayload, payloadTargets_targets, shown, form, Form.expr, List.map_map, List.map_map]
    simp [Function.comp_def, expr_form_target, Special.payload]
  | placeholder =>
    obtain ⟨p, rfl⟩ := h
    rw [shown, form, Form.expr]
    cases p <;> rfl
  | secret | regex | reference =>
    obtain ⟨s, rfl⟩ := h
    rw [shown, form, Form.expr]
    rfl

theorem specials_eq_nil (h : IsPayload category a) : a.specials = [] := by
  cases category with
  | targets =>
    obtain ⟨ts, rfl⟩ := h
    rw [specials, List.flatMap_eq_nil_iff, List.forall_mem_map]
    intro t _
    rw [target, specials, List.flatMap_eq_nil_iff, List.forall_mem_map]
    exact fun l _ => by simp [specials]
  | placeholder | secret | regex | reference =>
    obtain ⟨s, rfl⟩ := h
    simp [specials]

/-- A payload is a value itself. -/
theorem isValue (h : IsPayload category a) : a.IsValue p := by
  cases category with
  | targets =>
    obtain ⟨ts, rfl⟩ := h
    refine (areValues_iff _).2 (List.forall_mem_map.2 fun t _ => ?_)
    exact (areFieldValues_iff _).2 (List.forall_mem_map.2 fun l _ => trivial)
  | placeholder | secret | regex | reference =>
    obtain ⟨s, rfl⟩ := h
    trivial

theorem form_special (h : IsPayload category a) :
    (Argument.special category a).form = .hole (ofPayload category a) := by
  have hvalue := Special.ofPayload?_payload (ofPayload category a)
  rw [category_ofPayload, ← h.shown_eq] at hvalue
  rw [form, ← shown, hvalue, Option.getD_some]

end IsPayload

/-! ## Values -/

/-- A value fits where values stand, hides nothing from an override and joins no value of a
category. -/
theorem fits_of_isValue (h : a.IsValue p) : a.Fits .value ∧ a.IsPlain ∧ a.JoinsLists := by
  induction a using of_children with | _ a ih
  cases a with
  | wrapped a =>
    rw [Fits, IsPlain, JoinsLists]
    exact ih a (List.mem_singleton_self _) h
  | list items =>
    have hitems := fun a ha => ih a ha ((areValues_iff items).1 h a ha)
    rw [Fits, IsPlain, JoinsLists]
    exact ⟨.inl ⟨.inl rfl, fun a ha => (hitems a ha).1⟩, fun a ha => (hitems a ha).2.1,
      fun a ha => (hitems a ha).2.2⟩
  | record fields =>
    have hfields := fun e he => ih e.2 (snd_mem_children he) ((areFieldValues_iff fields).1 h e he)
    rw [Fits, IsPlain, JoinsLists]
    exact ⟨⟨Position.noConfusion, fun e he => (hfields e he).1⟩, fun e he => (hfields e he).2.1,
      fun e he => (hfields e he).2.2⟩
  | special category a =>
    obtain ⟨hfits, -, hjoins⟩ := ih a (List.mem_singleton_self _) h.1.isValue
    rw [Fits, IsPlain, JoinsLists]
    exact ⟨⟨.inl rfl, hfits, _, category_ofPayload category a, h.1.shown_eq⟩,
      h.1.specials_eq_nil, hjoins⟩
  | concat a =>
    obtain ⟨hfits, hplain, hjoins⟩ := ih a (List.mem_singleton_self _) h.2
    rw [Fits, IsPlain, JoinsLists]
    cases a with
    | list items =>
      have hshown : (Argument.list items).IsShownAsList := ⟨_, by rw [shown, form, Form.expr]⟩
      exact ⟨⟨.inl rfl, hfits, hshown⟩, hplain, id, hjoins⟩
    | _ => exact absurd h.1 (by simp [isList])
  | float x =>
    have hfinite : x.isFinite = true := h
    simp [Fits, IsPlain, JoinsLists, Position.TakesValue, hfinite]
  | map _ | keyless _ | variant _ _ | block _ | unsupported _ | failing _ => exact h.elim
  | _ => simp [Fits, IsPlain, JoinsLists, Position.TakesValue]

theorem isShown_form (h : a.IsValue p) : a.form.IsShown :=
  ((fits_iff a .value).1 (fits_of_isValue h).1).2

theorem isNothing_form (h : a.IsValue p) : a.form.isNothing = a.isAbsent := by
  induction a using of_children with | _ a ih
  cases a with
  | wrapped a =>
    rw [form, isAbsent]
    exact ih a (List.mem_singleton_self _) h
  | map _ | keyless _ | variant _ _ | block _ | unsupported _ | failing _ => exact h.elim
  | _ => simp [form, Form.isNothing, isAbsent]

/-- A value stands for the expression of its form. -/
theorem expr_form (h : a.IsValue p) : a.form.expr f = a.expr f := by
  induction a using of_children with | _ a ih
  cases a with
  | wrapped a =>
    rw [form, expr]
    exact ih a (List.mem_singleton_self _) h
  | list items =>
    rw [form, Form.expr, expr, exprs_eq_map, List.map_map]
    exact congrArg Expr.array
      (List.map_congr_left fun a ha => ih a ha ((areValues_iff items).1 h a ha))
  | record fields =>
    have hvalues := (areFieldValues_iff fields).1 h
    have hfilter : fields.filter ((!·.2.isNothing) ∘ fun e => (e.1, e.2.form)) =
        fields.filter (!·.2.isAbsent) :=
      List.filter_congr fun e he => congrArg not (isNothing_form (hvalues e he))
    rw [form, Form.expr, expr, fieldExprs_eq_map, List.filter_map, List.map_map, hfilter]
    refine congrArg Expr.object (List.map_congr_left fun e he => ?_)
    have hmem := (List.mem_filter.1 he).1
    exact congrArg (e.1, ·) (ih e.2 (snd_mem_children hmem) (hvalues e hmem))
  | special category a => rw [h.1.form_special, Form.expr, expr]
  | concat a =>
    have hlists := ih a (List.mem_singleton_self _) h.2
    cases a with
    | list items =>
      rw [form, Form.expr, hlists]
      rfl
    | _ => exact absurd h.1 (by simp [isList])
  | map _ | keyless _ | variant _ _ | block _ | unsupported _ | failing _ => exact h.elim
  | _ => simp [form, Form.expr, expr]

/-! ## Parts -/

theorem not_isBlock_of_isValue : ∀ a : Argument, a.IsValue p → a.isBlock = false
  | .wrapped a, h => not_isBlock_of_isValue a h
  | .absent, _ | .unit, _ | .bool _, _ | .int _, _ | .float _, _ | .text _, _ | .list _, _
  | .record _, _ | .special .., _ | .concat _, _ => rfl
  | .map _, h | .keyless _, h | .variant .., h | .block _, h | .unsupported _, h | .failing _, h =>
    h.elim

/-- A value is an attribute, unless it is absent. -/
theorem part_value {f : Special → Expr} (name : String) : ∀ a : Argument, a.IsValue p →
    a.part f name = if a.isAbsent then [] else [.attribute name (a.expr f)]
  | .wrapped a, h => part_value name a h
  | .list items, h => by
    have hany : items.any isBlock = false := by
      refine List.any_eq_false.2 fun a ha => ?_
      rw [not_isBlock_of_isValue a ((areValues_iff items).1 h a ha)]
      exact Bool.false_ne_true
    rw [part, hany]
    rfl
  | .absent, _ | .unit, _ | .bool _, _ | .int _, _ | .float _, _ | .text _, _
  | .record _, _ | .special .., _ | .concat _, _ => rfl
  | .map _, h | .keyless _, h | .variant .., h | .block _, h | .unsupported _, h | .failing _, h =>
    h.elim

/-- A part is a value, or is made of parts. -/
theorem isPart_cases (h : a.IsPart p) : a.IsValue p ∨
    (∃ b, a = .wrapped b ∧ b.IsPart p) ∨
    (∃ own b, a = .variant own b ∧ b.isBlock = true ∧ b.IsPart p) ∨
    (∃ fields, a = .block (.record fields) ∧ ∀ e ∈ fields, e.2.IsPart p) ∨
    ∃ items, a = .list items ∧ items ≠ [] ∧ ∀ b ∈ items, b.isBlock = true ∧ b.IsPart p := by
  cases a with
  | wrapped b => exact .inr (.inl ⟨b, rfl, h⟩)
  | variant own b => exact .inr (.inr (.inl ⟨own, b, rfl, h⟩))
  | block b =>
    cases b with
    | record fields => exact .inr (.inr (.inr (.inl ⟨fields, rfl, (areParts_iff fields).1 h⟩)))
    | _ => exact h.elim
  | list items =>
    rcases h with h | ⟨hne, h⟩
    · exact .inl h
    · exact .inr (.inr (.inr (.inr ⟨items, rfl, hne, (areBlocks_iff items).1 h⟩)))
  | _ => exact .inl h

/-- What values have, and what blocks and lists of blocks have if the parts inside have it, every
part has. -/
theorem of_isPart {motive : Argument → Prop} (value : ∀ a, a.IsValue p → motive a)
    (wrapped : ∀ a, motive a → motive (.wrapped a))
    (variant : ∀ own a, a.isBlock = true → a.IsPart p → motive a → motive (.variant own a))
    (block : ∀ fields : Fields, (∀ e ∈ fields, e.2.IsPart p ∧ motive e.2) →
      motive (.block (.record fields)))
    (blocks : ∀ items : List Argument, items ≠ [] →
      (∀ a ∈ items, a.isBlock = true ∧ a.IsPart p ∧ motive a) → motive (.list items))
    {a : Argument} (h : a.IsPart p) : motive a := by
  induction hn : sizeOf a using Nat.strongRecOn generalizing a with | _ n ih
  subst hn
  have hpart {b c : Argument} (hb : b ∈ c.children) (hlt : sizeOf c ≤ sizeOf a)
      (h : b.IsPart p) : motive b :=
    ih _ (Nat.lt_of_lt_of_le (sizeOf_lt_of_mem_children hb) hlt) h rfl
  rcases isPart_cases h with hvalue | ⟨b, rfl, hb⟩ | ⟨own, b, rfl, hblock, hb⟩ |
    ⟨fields, rfl, hfields⟩ | ⟨items, rfl, hne, hitems⟩
  · exact value a hvalue
  · exact wrapped b (hpart (List.mem_singleton_self _) (Nat.le_refl _) hb)
  · exact variant own b hblock hb (hpart (List.mem_singleton_self _) (Nat.le_refl _) hb)
  · have hrecord : sizeOf (record fields) ≤ sizeOf (Argument.block (.record fields)) :=
      Nat.le_of_lt (sizeOf_lt_of_mem_children (List.mem_singleton_self _))
    exact block fields fun e he =>
      ⟨hfields e he, hpart (snd_mem_children he) hrecord (hfields e he)⟩
  · have hitem {b : Argument} (hb : b ∈ items) : b ∈ (list items).children := hb
    exact blocks items hne fun b hb =>
      ⟨(hitems b hb).1, (hitems b hb).2, hpart (hitem hb) (Nat.le_refl _) (hitems b hb).2⟩

theorem isBlock_form (h : a.IsPart p) : a.form.isBlock = a.isBlock := by
  refine of_isPart (motive := fun a => a.form.isBlock = a.isBlock) (fun a h => ?_) (fun a ih => ?_)
    (fun own a _ _ ih => ?_) (fun fields _ => ?_) (fun items _ _ => ?_) h
  · rw [Form.isBlock_of_isShown (isShown_form h), not_isBlock_of_isValue a h]
  · rwa [form, isBlock]
  · rwa [form, isBlock, Form.isBlock_named]
  · simp [form, Form.marked, Form.isBlock, isBlock]
  · simp [form, Form.isBlock, isBlock]

theorem fits_record {fields : Fields} (h : ∀ e ∈ fields, e.2.Fits .field) :
    (record fields).Fits .fields := by
  rw [Fits]
  exact ⟨Position.noConfusion, h⟩

/-- A part fits where fields stand, hides nothing from an override and joins no value of a category.
-/
theorem fits_of_isPart (h : a.IsPart p) : a.Fits .field ∧ a.IsPlain ∧ a.JoinsLists := by
  refine of_isPart (motive := fun a => a.Fits .field ∧ a.IsPlain ∧ a.JoinsLists) (fun a h => ?_)
    (fun a ih => ?_) (fun own a _ _ ih => ?_) (fun fields ih => ?_) (fun items hne ih => ?_) h
  · obtain ⟨hfits, hjoins⟩ := fits_of_isValue h
    obtain ⟨hok, hshown⟩ := (fits_iff a .value).1 hfits
    exact ⟨(fits_iff a .field).2 ⟨hok, Form.isPart_of_isShown hshown⟩, hjoins⟩
  · rwa [Fits, IsPlain, JoinsLists]
  · rwa [Fits, IsPlain, JoinsLists]
  · have hfields : (record fields).Fits .fields := fits_record fun e he => (ih e he).2.1
    rw [Fits, IsPlain, JoinsLists, IsPlain, JoinsLists]
    exact ⟨⟨.inl rfl, hfields⟩, fun e he => (ih e he).2.2.1, fun e he => (ih e he).2.2.2⟩
  · have hblock : ∀ a ∈ items, a.Fits .block := by
      intro a ha
      obtain ⟨hblock, hpart, hfits, -⟩ := ih a ha
      obtain ⟨hok, hform⟩ := (fits_iff a .field).1 hfits
      exact (fits_iff a .block).2 ⟨hok, (isBlock_form hpart).trans hblock, hform⟩
    rw [Fits, IsPlain, JoinsLists]
    exact ⟨.inr ⟨rfl, hne, hblock⟩, fun a ha => (ih a ha).2.2.2.1, fun a ha => (ih a ha).2.2.2.2⟩

/-- A part stands for the statements of its form. -/
theorem part_form (h : a.IsPart p) : ∀ name, a.form.part f name = a.part f name := by
  refine of_isPart (motive := fun a => ∀ name, a.form.part f name = a.part f name)
    (fun a h name => ?_) (fun a ih name => ?_) (fun own a hblock hpart ih name => ?_)
    (fun fields ih name => ?_) (fun items hne ih name => ?_) h
  · rw [Form.part_of_isShown name (isShown_form h), isNothing_form h, expr_form h,
      part_value name a h]
  · rw [form, part, ih]
  · rw [form, part, Form.part_named own name ((isBlock_form hpart).trans hblock), ih]
  · rw [form, form, Form.marked, Form.part, part, parts_eq_flatMap, List.flatMap_map]
    exact congrArg (fun inside => [Statement.block _ none inside])
      (List.flatMap_congr fun e he => (ih e he).2 e.1)
  · have hblocks : AreBlocks p items :=
      (areBlocks_iff items).2 fun a ha => ⟨(ih a ha).1, (ih a ha).2.1⟩
    have hforms : ∀ t ∈ items.map form, t.isBlock = true :=
      List.forall_mem_map.2 fun a ha => (isBlock_form (ih a ha).2.1).trans (ih a ha).1
    have hany : (items.map form).any Form.isBlock = true := by
      obtain ⟨a, rest, rfl⟩ := List.exists_cons_of_ne_nil hne
      rw [List.map_cons, List.any_cons, hforms a.form List.mem_cons_self, Bool.true_or]
    rw [form, Form.part, if_pos hany, List.filter_eq_self.2 hforms, List.flatMap_map,
      part_blocks name hne hblocks, itemParts_eq_flatMap]
    exact List.flatMap_congr fun a ha => (ih a ha).2.2 name

/-! ## Encodings -/

section

variable {σ : Type} {hook : Override σ} {s : σ} {g : Special → Special.Answer}

/-- Where there is nothing to ask for, every override leads to the default rendering. -/
theorem encode_of_specials (hok : a.Encodable) (hnone : a.specials = []) (hjoins : a.JoinsLists) :
    a.encode hook s = .ok (a.form.encoded Special.render, s) := by
  have hplain := isPlain_of_specials hnone
  cases hencoded : a.encode hook s with
  | error e => exact absurd hjoins (error_of_encodable (.inr hplain) hok hencoded).2.2
  | ok r =>
    obtain ⟨e, s'⟩ := r
    obtain ⟨t, hform, rfl, hfills⟩ := exists_form (.inr hplain) hencoded
    obtain ⟨hrender, hstate⟩ := encoded_of_settled hform hfills (.inr hnone)
    rw [hrender, hstate hnone]

/-- An override without a state leads to the form with what it renders in the holes. -/
theorem encode_overrideBy (hok : a.Encodable) (hplain : a.IsPlain) (hjoins : a.JoinsLists) :
    a.encode (overrideBy g) () = .ok (a.form.encoded (renderBy g), ()) := by
  cases hencoded : a.encode (overrideBy g) () with
  | error e => exact absurd hjoins (error_of_encodable (.inr hplain) hok hencoded).2.2
  | ok r =>
    obtain ⟨e, s'⟩ := r
    obtain ⟨t, hform, rfl, hfills⟩ := exists_form (.inr hplain) hencoded
    have hanswers : ∀ x ∈ t.holes, Special.answered x = renderBy g x.1 := by
      intro x hx
      obtain ⟨_, hx⟩ := (hfills.answers hplain).exists_of_mem x hx
      rw [Special.answered, ← hx]
      rfl
    rw [Form.encoded_congr hanswers, ← hform, Form.encoded_map]

/-- Targets are encoded as what they are rendered as. -/
theorem encode_targets (hook : Override σ) (ts : List Target) (s : σ) :
    (Argument.list (ts.map target)).encode hook s =
      .ok (.expr (.array (ts.map Special.targetExpr)), s) := by
  have hpayload : IsPayload .targets (.list (ts.map target)) := ⟨ts, rfl⟩
  obtain ⟨hfits, -, hjoins⟩ := fits_of_isValue (p := fun _ => True) hpayload.isValue
  have hok := ((fits_iff _ .value).1 hfits).1
  rw [encode_of_specials hok hpayload.specials_eq_nil hjoins, encoded_form_targets]

end

end Argument

/-- Fields that can stand in a block make a block of their parts. -/
theorem Block.build_parts {p : Special → Prop} {fields : Fields} (g : Special → Special.Answer)
    (h : Argument.AreParts p fields) (kind : ComponentKind) (label : String) :
    Block.build (overrideBy g) kind label (.record fields) =
      .ok ⟨kind.segments, if label = "" then none else some label,
        Argument.parts (renderBy g) fields⟩ := by
  have hparts := (Argument.areParts_iff fields).1 h
  have hfits : (Argument.record fields).Fits .fields :=
    Argument.fits_record fun e he => (Argument.fits_of_isPart (hparts e he)).1
  have hplain : (Argument.record fields).IsPlain := by
    rw [Argument.IsPlain]
    exact fun e he => (Argument.fits_of_isPart (hparts e he)).2.1
  have hjoins : (Argument.record fields).JoinsLists := by
    rw [Argument.JoinsLists]
    exact fun e he => (Argument.fits_of_isPart (hparts e he)).2.2
  obtain ⟨hok, hbody⟩ := (Argument.isPlaced_iff _).1 (.inr hfits)
  have hencoded := Argument.encode_overrideBy (g := g) hok hplain hjoins
  have hform : (Argument.record fields).form.body (renderBy g) =
      Argument.parts (renderBy g) fields := by
    rw [Argument.form, Form.body, List.flatMap_map, Argument.parts_eq_flatMap]
    exact List.flatMap_congr fun e he => Argument.part_form (hparts e he) e.1
  refine Block.build_eq_ok.2 ((Argument.buildWith_of_encoded hencoded).2 ⟨hbody, ?_, rfl⟩)
  rw [Form.toBlock, hform]

end AgentConvert
