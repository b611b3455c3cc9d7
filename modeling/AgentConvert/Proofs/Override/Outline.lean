import AgentConvert.Proofs.Override.Rendered

/-!
# Forms of arguments

An argument has a form, with a hole for each of its values of categories (`Argument.form`). Whatever
an override does, an argument that can be encoded comes to its form, with the values that the
override is asked for and its answers in the holes, in that order (`Argument.exists_form`). Values
inside a key or inside the payload of another value have no hole, so there must be none, unless the
override hands all values back.
-/

namespace AgentConvert

/-- The value of a category that has this expression for a payload. -/
def Special.ofPayload? (category : Category) (e : Expr) : Option Special :=
  ((Encoded.expr e).special category).toOption

/-- The payload of a value is read back. -/
theorem Special.special_payload (v : Special) :
    (Encoded.expr v.payload).special v.category = .ok v := by
  have hspecial := (Form.special_encoded (f := id) (.given v.payload) v.category v).2
    ⟨by simp [Form.IsShown], rfl, by simp [Form.expr]⟩
  rw [Form.encoded, Form.expr] at hspecial
  · exact hspecial
  all_goals simp

theorem Special.ofPayload?_payload (v : Special) : ofPayload? v.category v.payload = some v := by
  rw [ofPayload?, special_payload]
  rfl

namespace Form

variable {α : Type}

/-- The form under the name of an alternative: a block without a name takes it. -/
def named (own : String) : Form α → Form α
  | .block none fields => .block (some own) fields
  | t => t

/-- The form as a block, if it can be one. -/
def marked : Form α → Form α
  | .struct fields => .block none fields
  | t => t

variable {β : Type}

theorem map_named (g : α → β) (own : String) (t : Form α) :
    (t.named own).map g = (t.map g).named own := by
  cases t with
  | block name fields => cases name <;> simp [map, named]
  | _ => simp [map, named]

theorem map_marked (g : α → β) (t : Form α) : t.marked.map g = (t.map g).marked := by
  cases t <;> simp [map, marked]

theorem holes_named (own : String) (t : Form α) : (t.named own).holes = t.holes := by
  cases t with
  | block name fields => cases name <;> simp [holes, named]
  | _ => rfl

theorem holes_marked (t : Form α) : t.marked.holes = t.holes := by
  cases t <;> simp [holes, marked]

theorem encoded_named (f : α → Expr) (own : String) (t : Form α) :
    (t.named own).encoded f = (t.encoded f).named own := by
  cases t with
  | block name fields => cases name <;> simp [encoded, named, Encoded.named]
  | list items =>
    simp only [named, encoded]
    split <;> rfl
  | _ => simp [encoded, named, Encoded.named]

end Form

namespace Argument

/-! ## Parts of an argument -/

/-- The arguments right inside, in order. -/
def children : Argument → List Argument
  | .wrapped a | .variant _ a | .block a | .special _ a | .concat a => [a]
  | .list items => items
  | .record fields => fields.map Prod.snd
  | .map entries => entries.flatMap fun e => [e.1, e.2]
  | _ => []

theorem sizeOf_lt_of_mem_children {a c : Argument} (h : c ∈ a.children) :
    sizeOf c < sizeOf a := by
  cases a with
  | list items =>
    have := List.sizeOf_lt_of_mem (show c ∈ items from h)
    simp only [list.sizeOf_spec]
    omega
  | record fields =>
    obtain ⟨⟨name, c⟩, he, rfl⟩ := List.mem_map.1 (show c ∈ fields.map Prod.snd from h)
    have := List.sizeOf_lt_of_mem he
    simp only [record.sizeOf_spec, Prod.mk.sizeOf_spec] at this ⊢
    omega
  | map entries =>
    obtain ⟨⟨k, v⟩, he, hc⟩ :=
      List.mem_flatMap.1 (show c ∈ entries.flatMap fun e => [e.1, e.2] from h)
    have := List.sizeOf_lt_of_mem he
    simp only [List.mem_cons, List.not_mem_nil, or_false] at hc
    simp only [map.sizeOf_spec, Prod.mk.sizeOf_spec] at this ⊢
    rcases hc with rfl | rfl <;> omega
  | wrapped a | variant own a | block a | special category a | concat a =>
    obtain rfl := List.mem_singleton.1 h
    simp only [wrapped.sizeOf_spec, variant.sizeOf_spec, block.sizeOf_spec, special.sizeOf_spec,
      concat.sizeOf_spec]
    omega
  | _ => exact absurd h List.not_mem_nil

/-- What an argument has if its parts have it, every argument has. -/
theorem of_children {motive : Argument → Prop}
    (h : ∀ a, (∀ c ∈ a.children, motive c) → motive a) (a : Argument) : motive a :=
  h a fun c _ => of_children h c
termination_by sizeOf a
decreasing_by exact sizeOf_lt_of_mem_children ‹_›

theorem snd_mem_children {fields : Fields} {e : String × Argument} (h : e ∈ fields) :
    e.2 ∈ (record fields).children :=
  List.mem_map_of_mem h

theorem key_mem_children {entries : List (Argument × Argument)} {e : Argument × Argument}
    (h : e ∈ entries) : e.1 ∈ (map entries).children :=
  List.mem_flatMap.2 ⟨e, h, List.mem_cons_self ..⟩

theorem value_mem_children {entries : List (Argument × Argument)} {e : Argument × Argument}
    (h : e ∈ entries) : e.2 ∈ (map entries).children :=
  List.mem_flatMap.2 ⟨e, h, List.mem_cons_of_mem _ (List.mem_singleton_self _)⟩

/-- The values of categories in an argument, each with its payload and behind those in its payload.
-/
def specials : Argument → List (Category × Argument)
  | .wrapped a | .variant _ a | .block a | .concat a => a.specials
  | .special category a => a.specials ++ [(category, a)]
  | .list items => items.flatMap specials
  | .record fields => fields.flatMap fun e => e.2.specials
  | .map entries => entries.flatMap fun e => e.1.specials ++ e.2.specials
  | _ => []
termination_by a => a
decreasing_by
  all_goals first
    | decreasing_tactic
    | exact sizeOf_lt_of_mem_children (snd_mem_children ‹_›)
    | exact sizeOf_lt_of_mem_children (key_mem_children ‹_›)
    | exact sizeOf_lt_of_mem_children (value_mem_children ‹_›)

/-- Whether no value of a category stands inside the key of a map or inside the payload of another
value. -/
def IsPlain : Argument → Prop
  | .wrapped a | .variant _ a | .block a | .concat a => a.IsPlain
  | .special _ a => a.specials = []
  | .list items => ∀ a ∈ items, a.IsPlain
  | .record fields => ∀ e ∈ fields, e.2.IsPlain
  | .map entries => ∀ e ∈ entries, e.1.specials = [] ∧ e.2.IsPlain
  | _ => True
termination_by a => a
decreasing_by
  all_goals first
    | decreasing_tactic
    | exact sizeOf_lt_of_mem_children (snd_mem_children ‹_›)
    | exact sizeOf_lt_of_mem_children (value_mem_children ‹_›)

/-! ## Its form -/

/-- What the argument comes to, with a hole for each value of a category. Keys and payloads are what
they are without an override. -/
def form : Argument → Form Special
  | .unit => .given .null
  | .bool b => .given (.bool b)
  | .int n => .given (.number (toString n))
  | .float x => .given (.number x.text)
  | .text s => .given (.str s)
  | .wrapped a => a.form
  | .list items => .list (items.map form)
  | .record fields => .struct (fields.map fun e => (e.1, e.2.form))
  | .map entries => .struct (entries.map fun e =>
      (((e.1.form.expr Special.render).keyText?).getD "", e.2.form))
  | .variant own a => a.form.named own
  | .block a => a.form.marked
  | .special category a =>
    .hole ((Special.ofPayload? category (a.form.expr Special.render)).getD (.secret ""))
  | .concat a => .concat a.form
  | .absent | .keyless _ | .unsupported _ | .failing _ => .nothing
termination_by a => a
decreasing_by
  all_goals first
    | decreasing_tactic
    | exact sizeOf_lt_of_mem_children (snd_mem_children ‹_›)
    | exact sizeOf_lt_of_mem_children (key_mem_children ‹_›)
    | exact sizeOf_lt_of_mem_children (value_mem_children ‹_›)

theorem isPlain_of_specials {a : Argument} (h : a.specials = []) : a.IsPlain := by
  induction a using of_children with | _ a ih
  cases a with
  | wrapped a | variant own a | block a | concat a =>
    rw [specials] at h
    rw [IsPlain]
    exact ih a (List.mem_singleton_self _) h
  | list items =>
    rw [specials, List.flatMap_eq_nil_iff] at h
    rw [IsPlain]
    exact fun a ha => ih a ha (h a ha)
  | record fields =>
    rw [specials, List.flatMap_eq_nil_iff] at h
    rw [IsPlain]
    exact fun e he => ih e.2 (snd_mem_children he) (h e he)
  | map entries =>
    rw [specials, List.flatMap_eq_nil_iff] at h
    rw [IsPlain]
    intro e he
    obtain ⟨hkey, hvalue⟩ := List.append_eq_nil_iff.1 (h e he)
    exact ⟨hkey, ih e.2 (value_mem_children he) hvalue⟩
  | special category a =>
    rw [specials] at h
    exact absurd h (by simp)
  | _ => simp [IsPlain]

/-- Without values of categories there are no holes. -/
theorem holes_form_of_specials {a : Argument} (h : a.specials = []) : a.form.holes = [] := by
  induction a using of_children with | _ a ih
  cases a with
  | wrapped a =>
    rw [specials] at h
    rw [form, ih a (List.mem_singleton_self _) h]
  | variant own a =>
    rw [specials] at h
    rw [form, Form.holes_named, ih a (List.mem_singleton_self _) h]
  | block a =>
    rw [specials] at h
    rw [form, Form.holes_marked, ih a (List.mem_singleton_self _) h]
  | concat a =>
    rw [specials] at h
    rw [form, Form.holes, ih a (List.mem_singleton_self _) h]
  | list items =>
    rw [specials, List.flatMap_eq_nil_iff] at h
    rw [form, Form.holes, List.flatMap_map, List.flatMap_eq_nil_iff]
    exact fun a ha => ih a ha (h a ha)
  | record fields =>
    rw [specials, List.flatMap_eq_nil_iff] at h
    rw [form, Form.holes, List.flatMap_map, List.flatMap_eq_nil_iff]
    exact fun e he => ih e.2 (snd_mem_children he) (h e he)
  | map entries =>
    rw [specials, List.flatMap_eq_nil_iff] at h
    rw [form, Form.holes, List.flatMap_map, List.flatMap_eq_nil_iff]
    exact fun e he => ih e.2 (value_mem_children he) (List.append_eq_nil_iff.1 (h e he)).2
  | special category a =>
    rw [specials] at h
    exact absurd h (by simp)
  | _ => simp [form, Form.holes]

/-- The expression of the argument as a value, without an override. -/
def shown (a : Argument) : Expr := a.form.expr Special.render

end Argument

/-! ## Asking an override -/

/-- The expression of a value of a category, with the answer of an override about it. -/
def Special.answered (x : Special × Special.Answer) : Expr := x.2.render

namespace Override

variable {σ : Type}

/-- Whether the override hands all values back. -/
def HandsBack (hook : Override σ) : Prop := ∀ v s, (hook v s).1 = .error v

/-- Whether the override, asked for these values one after another, gives these answers and goes
from the one state to the other. -/
def Answers (hook : Override σ) : σ → List (Special × Special.Answer) → σ → Prop
  | s, [], s' => s' = s
  | s, (v, answer) :: rest, s' => (hook v s).1 = answer ∧ hook.Answers (hook v s).2 rest s'

variable {hook : Override σ} {s s₁ s' : σ} {xs ys : List (Special × Special.Answer)}

theorem Answers.append (h : hook.Answers s xs s₁) (h' : hook.Answers s₁ ys s') :
    hook.Answers s (xs ++ ys) s' := by
  induction xs generalizing s with
  | nil =>
    obtain rfl : s₁ = s := h
    exact h'
  | cons x xs ih => exact ⟨h.1, ih h.2⟩

/-- What is answered about a value is what the override makes of it. -/
theorem Answers.exists_of_mem (h : hook.Answers s xs s') :
    ∀ x ∈ xs, ∃ s, (hook x.1 s).1 = x.2 := by
  induction xs generalizing s with
  | nil => exact fun x hx => absurd hx List.not_mem_nil
  | cons x xs ih => exact List.forall_mem_cons.2 ⟨⟨s, h.1⟩, ih h.2⟩

/-- Whether values and answers are those between two states, if nothing is hidden from the override,
and are values that it hands back, if the override hands back all of them. -/
structure Fills (hook : Override σ) (plain : Prop) (s s' : σ)
    (xs : List (Special × Special.Answer)) : Prop where
  answers : plain → hook.Answers s xs s'
  back : hook.HandsBack → ∀ x ∈ xs, x.2 = .error x.1

theorem fills_nil (hook : Override σ) (plain : Prop) (s : σ) : hook.Fills plain s s [] :=
  ⟨fun _ => rfl, fun _ _ h => absurd h List.not_mem_nil⟩

theorem Fills.append {plain plain' : Prop} (h : hook.Fills plain s s₁ xs)
    (h' : hook.Fills plain' s₁ s' ys) : hook.Fills (plain ∧ plain') s s' (xs ++ ys) :=
  ⟨fun hp => (h.answers hp.1).append (h'.answers hp.2), fun hb =>
    List.forall_mem_append.2 ⟨h.back hb, h'.back hb⟩⟩

theorem Fills.imp {plain plain' : Prop} (h : hook.Fills plain s s' xs) (himp : plain' → plain) :
    hook.Fills plain' s s' xs :=
  ⟨fun hp => h.answers (himp hp), h.back⟩

/-- Items one after another come to forms, if each of them does. -/
theorem exists_forms {α β τ φ : Type} {f : α → StateT σ (Except EncodeError) β} (enc : τ → β)
    (form : α → φ) (base : τ → φ) (holes : τ → List (Special × Special.Answer)) (plain : α → Prop)
    {as : List α} {bs : List β}
    (h : ∀ a ∈ as, ∀ s b s', f a s = .ok (b, s') →
      ∃ t, base t = form a ∧ b = enc t ∧ hook.Fills (plain a) s s' (holes t))
    (hok : as.mapM f s = .ok (bs, s')) :
    ∃ ts : List τ, ts.map base = as.map form ∧ bs = ts.map enc ∧
      hook.Fills (∀ a ∈ as, plain a) s s' (ts.flatMap holes) := by
  induction as generalizing s bs with
  | nil =>
    obtain ⟨rfl, rfl⟩ := run_pure_eq_ok.1 hok
    exact ⟨[], rfl, rfl, fills_nil ..⟩
  | cons a as ih =>
    obtain ⟨b, s₁, rest, hb, hrest, rfl⟩ := run_mapM_cons_eq_ok.1 hok
    obtain ⟨t, hform, rfl, hfills⟩ := h a (List.mem_cons_self ..) s b s₁ hb
    obtain ⟨ts, hforms, rfl, hall⟩ := ih (fun c hc => h c (List.mem_cons_of_mem _ hc)) hrest
    refine ⟨t :: ts, by rw [List.map_cons, List.map_cons, hform, hforms], rfl, ?_⟩
    rw [List.flatMap_cons]
    exact (hfills.append hall).imp List.forall_mem_cons.1

end Override

namespace Form

variable {t : Form (Special × Special.Answer)}

/-- A form with values that are handed back gets the default rendering. -/
theorem encoded_answered (h : ∀ x ∈ t.holes, x.2 = .error x.1) :
    t.encoded Special.answered = (t.map Prod.fst).encoded Special.render := by
  rw [encoded_map]
  exact encoded_congr fun x hx => by rw [Special.answered, h x hx, Special.Answer.render]

theorem exists_struct {α : Type} {f : α → Expr} {t : Form α} {fs : List (String × Encoded)}
    (h : t.encoded f = .fields fs) : ∃ fields, t = .struct fields ∧
      fs = fields.map fun e => (e.1, e.2.encoded f) := by
  cases t with
  | struct fields =>
    rw [encoded] at h
    exact ⟨fields, rfl, (Encoded.fields.inj h).symm⟩
  | list items =>
    rw [encoded] at h
    split at h <;> exact absurd h (by simp)
  | _ => exact absurd h (by simp [encoded])

end Form

namespace Argument

variable {σ : Type} {hook : Override σ} {s s' : σ} {a : Argument} {e : Encoded}

/-- Where there is nothing to ask for, what an override renders is the default. -/
theorem encoded_of_settled {t : Form (Special × Special.Answer)} (hform : t.map Prod.fst = a.form)
    (hfills : hook.Fills a.IsPlain s s' t.holes) (h : hook.HandsBack ∨ a.specials = []) :
    t.encoded Special.answered = a.form.encoded Special.render ∧
      (a.specials = [] → s' = s) := by
  have hholes (hnone : a.specials = []) : t.holes = [] := by
    have hmap : t.holes.map Prod.fst = [] := by
      rw [← Form.holes_map, hform, holes_form_of_specials hnone]
    exact List.map_eq_nil_iff.1 hmap
  refine ⟨?_, fun hnone => ?_⟩
  · rw [← hform]
    refine Form.encoded_answered fun x hx => ?_
    rcases h with hback | hnone
    · exact hfills.back hback x hx
    · exact absurd (hholes hnone ▸ hx) List.not_mem_nil
  · have hanswers := hfills.answers (isPlain_of_specials hnone)
    rw [hholes hnone] at hanswers
    exact hanswers

/-- A value without parts comes to its expression. -/
theorem exists_form_given {x : Expr} {plain : Prop}
    (hok : (pure (.expr x) : StateT σ (Except EncodeError) Encoded) s = .ok (e, s'))
    (hform : a.form = .given x) : ∃ t : Form (Special × Special.Answer), t.map Prod.fst = a.form ∧
      e = t.encoded Special.answered ∧ hook.Fills plain s s' t.holes := by
  obtain ⟨rfl, rfl⟩ := run_pure_eq_ok.1 hok
  refine ⟨.given x, by rw [hform, Form.map], by simp [Form.encoded, Form.expr], ?_⟩
  simp only [Form.holes]
  exact Override.fills_nil ..

/-- Whether all that the argument is encoded as is its form, filled in. -/
def ComesToForm (hook : Override σ) (a : Argument) : Prop :=
  ∀ s e s', a.encode hook s = .ok (e, s') → ∃ t : Form (Special × Special.Answer),
    t.map Prod.fst = a.form ∧ e = t.encoded Special.answered ∧ hook.Fills a.IsPlain s s' t.holes

/-- An entry comes to the text of its key, for which an override is asked nothing, and the form of
its value. -/
theorem exists_form_entry {entry : Argument × Argument} {x : String × Encoded}
    (h : hook.HandsBack ∨ entry.1.specials = [] ∧ entry.2.IsPlain)
    (hkey : entry.1.ComesToForm hook) (hvalue : entry.2.ComesToForm hook)
    (hok : encodeEntry hook entry s = .ok (x, s')) :
    ∃ t : String × Form (Special × Special.Answer),
      (t.1, t.2.map Prod.fst) =
        (((entry.1.form.expr Special.render).keyText?).getD "", entry.2.form) ∧
      x = (t.1, t.2.encoded Special.answered) ∧
      hook.Fills (entry.1.specials = [] ∧ entry.2.IsPlain) s s' t.2.holes := by
  obtain ⟨key, s₁, name, hencoded, hname, e, he, rfl⟩ := encodeEntry_eq_ok.1 hok
  obtain ⟨k, hform, rfl, hfills⟩ := hkey _ _ _ hencoded
  obtain ⟨hdefault, hsame⟩ := encoded_of_settled hform hfills (h.imp_right And.left)
  rw [hdefault, Form.key?_encoded] at hname
  obtain ⟨t, hform', rfl, hfills'⟩ := hvalue _ _ _ he
  refine ⟨(name, t), by rw [hform', hname.2, Option.getD_some], rfl, ?_, hfills'.back⟩
  intro hplain
  rw [← hsame hplain.1]
  exact hfills'.answers hplain.2

/-- A value of a category comes to a hole, with what the override answers about it. -/
theorem comesToForm_special {category : Category} (h : hook.HandsBack ∨ a.specials = [])
    (ha : a.ComesToForm hook) : (special category a).ComesToForm hook := by
  intro s e s' hok
  obtain ⟨payload, s₁, v, hpayload, hv, rfl, rfl⟩ := encode_special_eq_ok.1 hok
  obtain ⟨t, hform, rfl, hfills⟩ := ha _ _ _ hpayload
  obtain ⟨hencoded, hsame⟩ := encoded_of_settled hform hfills h
  rw [hencoded, Form.special_encoded] at hv
  obtain ⟨-, rfl, hv⟩ := hv
  refine ⟨.hole (v, (hook v s₁).1), ?_, ?_, ?_⟩
  · rw [Form.map, form, hv, Special.ofPayload?_payload, Option.getD_some]
  · simp [Form.encoded, Form.expr, Special.answered]
  · rw [Form.holes, IsPlain]
    refine ⟨fun hnone => ?_, fun hback x hx => ?_⟩
    · rw [hsame hnone]
      exact ⟨rfl, rfl⟩
    · rw [List.mem_singleton.1 hx]
      exact hback v s₁

/-- An argument that is encoded comes to its form, filled in. -/
theorem exists_form (h : hook.HandsBack ∨ a.IsPlain) (hok : a.encode hook s = .ok (e, s')) :
    ∃ t : Form (Special × Special.Answer), t.map Prod.fst = a.form ∧
      e = t.encoded Special.answered ∧ hook.Fills a.IsPlain s s' t.holes := by
  induction a using of_children generalizing s s' e with | _ a ih
  cases a with
  | wrapped a =>
    rw [IsPlain] at h
    rw [encode] at hok
    simp only [form, IsPlain]
    exact ih a (List.mem_singleton_self _) h hok
  | variant own a =>
    rw [IsPlain] at h
    obtain ⟨inner, hinner, rfl⟩ := encode_variant_eq_ok.1 hok
    obtain ⟨t, hform, rfl, hfills⟩ := ih a (List.mem_singleton_self _) h hinner
    refine ⟨t.named own, ?_, (Form.encoded_named _ own t).symm, ?_⟩
    · rw [Form.map_named, hform, form]
    · rwa [Form.holes_named, IsPlain]
  | block a =>
    rw [IsPlain] at h
    obtain ⟨fs, hfs, rfl⟩ := encode_block_eq_ok.1 hok
    obtain ⟨t, hform, hencoded, hfills⟩ := ih a (List.mem_singleton_self _) h hfs
    obtain ⟨fields, rfl, rfl⟩ := Form.exists_struct hencoded.symm
    refine ⟨(Form.struct fields).marked, ?_, ?_, ?_⟩
    · rw [Form.map_marked, hform, form]
    · rw [Form.marked, Form.encoded]
    · rwa [Form.holes_marked, IsPlain]
  | list items =>
    rw [IsPlain] at h
    obtain ⟨es, hes, he⟩ := encode_list_eq_ok.1 hok
    obtain ⟨ts, hforms, rfl, hfills⟩ := Override.exists_forms (Form.encoded Special.answered) form
      (Form.map Prod.fst) Form.holes IsPlain
      (fun a (ha : a ∈ items) s e s' => ih a ha (h.imp_right fun h => h a ha)) hes
    obtain ⟨-, rfl⟩ := Form.ofList_encoded.1 he
    refine ⟨.list ts, ?_, rfl, ?_⟩
    · rw [Form.map, hforms, form]
    · rwa [Form.holes, IsPlain]
  | record fields =>
    rw [IsPlain] at h
    obtain ⟨fs, hfs, rfl⟩ := encode_record_eq_ok.1 hok
    obtain ⟨ts, hforms, rfl, hfills⟩ := Override.exists_forms
      (fun e : String × Form (Special × Special.Answer) => (e.1, e.2.encoded Special.answered))
      (fun e : String × Argument => (e.1, e.2.form)) (fun e => (e.1, e.2.map Prod.fst))
      (fun e => e.2.holes) (fun e => e.2.IsPlain) (fun field hfield s x s' hx => by
        obtain ⟨e, he, rfl⟩ := encodeField_eq_ok.1 hx
        obtain ⟨t, hform, rfl, hfills⟩ :=
          ih field.2 (snd_mem_children hfield) (h.imp_right fun h => h field hfield) he
        exact ⟨(field.1, t), by rw [hform], rfl, hfills⟩) hfs
    refine ⟨.struct ts, ?_, ?_, ?_⟩
    · rw [Form.map, hforms, form]
    · rw [Form.encoded]
    · rwa [Form.holes, IsPlain]
  | map entries =>
    rw [IsPlain] at h
    obtain ⟨fs, hfs, rfl⟩ := encode_map_eq_ok.1 hok
    obtain ⟨ts, hforms, rfl, hfills⟩ := Override.exists_forms
      (fun e : String × Form (Special × Special.Answer) => (e.1, e.2.encoded Special.answered))
      (fun e : Argument × Argument =>
        (((e.1.form.expr Special.render).keyText?).getD "", e.2.form))
      (fun e => (e.1, e.2.map Prod.fst)) (fun e => e.2.holes)
      (fun e => e.1.specials = [] ∧ e.2.IsPlain) (fun entry hentry s x s' hx =>
        have hsettled := h.imp_right fun h => h entry hentry
        exists_form_entry hsettled
          (fun _ _ _ => ih entry.1 (key_mem_children hentry)
            (hsettled.imp_right fun h => isPlain_of_specials h.1))
          (fun _ _ _ => ih entry.2 (value_mem_children hentry) (hsettled.imp_right And.right))
          hx) hfs
    refine ⟨.struct ts, ?_, ?_, ?_⟩
    · rw [Form.map, hforms, form]
    · rw [Form.encoded]
    · rwa [Form.holes, IsPlain]
  | special category a =>
    rw [IsPlain] at h
    have ha : a.ComesToForm hook := fun _ _ _ =>
      ih a (List.mem_singleton_self _) (h.imp_right isPlain_of_specials)
    exact comesToForm_special h ha s e s' hok
  | concat a =>
    rw [IsPlain] at h
    obtain ⟨lists, args, hlists, hargs, rfl⟩ := encode_concat_eq_ok.1 hok
    obtain ⟨t, hform, rfl, hfills⟩ := ih a (List.mem_singleton_self _) h hlists
    rw [Form.toExpr_encoded] at hargs
    refine ⟨.concat t, ?_, ?_, ?_⟩
    · rw [Form.map, hform, form]
    · simp [Form.encoded, Form.expr, ← hargs.2]
    · rwa [Form.holes, IsPlain]
  | keyless a | unsupported form | failing message => exact absurd hok run_throw_ne_ok
  | float x =>
    obtain ⟨-, rfl, rfl⟩ := encode_float_eq_ok.1 hok
    exact exists_form_given (run_pure_eq_ok.2 ⟨rfl, rfl⟩) (by rw [form])
  | absent =>
    obtain ⟨rfl, rfl⟩ := run_pure_eq_ok.1 hok
    exact ⟨.nothing, by simp [Form.map, form], by simp [Form.encoded],
      by simp only [Form.holes]; exact Override.fills_nil ..⟩
  | unit => exact exists_form_given hok (by rw [form])
  | bool b => exact exists_form_given hok (by rw [form])
  | int n => exact exists_form_given hok (by rw [form])
  | text s => exact exists_form_given hok (by rw [form])

/-- Of an argument that is encoded as a form a block is built, if the form can be a whole block. -/
theorem buildWith_of_encoded {α : Type} {f : α → Expr} {t : Form α} {kind : ComponentKind}
    {label : String} {b : Block} {s₂ : σ} (hok : a.encode hook s = .ok (t.encoded f, s')) :
    Block.buildWith hook kind label a s = .ok (b, s₂) ↔
      t.IsBody ∧ b = t.toBlock f kind label ∧ s₂ = s' := by
  rw [buildWith_eq_ok]
  simp only [hok, Except.ok.injEq, Prod.mk.injEq]
  constructor
  · rintro ⟨e, out, ⟨rfl, rfl⟩, hout, rfl⟩
    rw [Form.whole_encoded] at hout
    obtain ⟨hbody, rfl⟩ := hout
    exact ⟨hbody, rfl, rfl⟩
  · rintro ⟨hbody, rfl, rfl⟩
    exact ⟨_, _, ⟨rfl, rfl⟩, (Form.whole_encoded ..).2 ⟨hbody, rfl⟩, rfl⟩

end Argument

end AgentConvert
