import AgentConvert.Proofs.Override.Outline

/-!
# Arguments that can be encoded

Which arguments can be encoded when all values get the default rendering
(`Argument.Encodable`): what an argument needs besides its parts depends on the forms of these
alone. Such an argument is encoded under every override that hands all values back, and no other
argument is (`encodable_of_ok`). Any other override can get in the way of a
plain argument at one place only: where a call that joins lists is given one value of a category and
the override renders it as something else than a list (`error_of_encodable`).
-/

namespace AgentConvert

namespace Form

variable {α : Type}

/-- Whether the form is that of a record. -/
def IsStruct (t : Form α) : Prop := ∃ fields, t = .struct fields

theorem eq_hole_of_named {own : String} {t : Form α} {v : α} (h : t.named own = .hole v) :
    t = .hole v := by
  cases t with
  | block name fields => cases name <;> simp [named] at h
  | _ => exact h

theorem areItems_map {β : Type} {g : α → β} {items : List (Form α)} :
    AreItems (items.map (map g)) ↔ AreItems items := by
  simp only [AreItems, List.forall_mem_map, isBlock_map, isShown_map, ne_eq, List.map_eq_nil_iff]

theorem isStruct_of_map {β : Type} {g : α → β} {t : Form α} (h : (t.map g).IsStruct) :
    t.IsStruct := by
  obtain ⟨fields, hfields⟩ := h
  cases t with
  | struct fields => exact ⟨fields, rfl⟩
  | _ => exact absurd hfields (by simp [map])

/-- A list is one whatever an override answers about what is in it. -/
theorem exists_array_of_map {t : Form (Special × Special.Answer)} {items : List Expr}
    (h : (t.map Prod.fst).expr Special.render = .array items) (hhole : ∀ x, t ≠ .hole x) :
    ∃ items, t.expr Special.answered = .array items := by
  cases t with
  | given e =>
    rw [map, expr] at h
    exact ⟨items, by rw [expr, h]⟩
  | list ts => exact ⟨_, by rw [expr]⟩
  | hole x => exact absurd rfl (hhole x)
  | concat lists =>
    rw [map, expr] at h
    split at h <;> exact absurd h (by simp)
  | _ => exact absurd h (by simp [map, expr])

end Form

namespace Argument

/-- Whether the argument can be the payload for a value of the category. -/
def IsPayloadOf (category : Category) (a : Argument) : Prop :=
  ∃ v : Special, v.category = category ∧ a.shown = v.payload

/-- Whether the expression of the argument is a list. -/
def IsShownAsList (a : Argument) : Prop := ∃ items, a.shown = .array items

/-- Whether the expression of the argument is a text or a number. -/
def IsShownAsKey (a : Argument) : Prop := ∃ name, a.shown.keyText? = some name

/-- Whether the argument can be encoded. -/
def Encodable : Argument → Prop
  | .float x => x.isFinite = true
  | .wrapped a | .variant _ a => a.Encodable
  | .list items => (∀ a ∈ items, a.Encodable) ∧ Form.AreItems (items.map form)
  | .record fields => ∀ e ∈ fields, e.2.Encodable
  | .map entries =>
    ∀ e ∈ entries, (e.1.Encodable ∧ e.1.form.IsShown ∧ e.1.IsShownAsKey) ∧ e.2.Encodable
  | .block a => a.Encodable ∧ a.form.IsStruct
  | .special category a => a.Encodable ∧ a.form.IsShown ∧ a.IsPayloadOf category
  | .concat a => a.Encodable ∧ a.form.IsShown ∧ a.IsShownAsList
  | .keyless _ | .unsupported _ | .failing _ => False
  | _ => True
termination_by a => a
decreasing_by
  all_goals first
    | decreasing_tactic
    | exact sizeOf_lt_of_mem_children (snd_mem_children ‹_›)
    | exact sizeOf_lt_of_mem_children (key_mem_children ‹_›)
    | exact sizeOf_lt_of_mem_children (value_mem_children ‹_›)

/-- Whether the argument is a value of a category, perhaps under other names. -/
def IsSpecial : Argument → Prop
  | .wrapped a | .variant _ a => a.IsSpecial
  | .special .. => True
  | _ => False

/-- Whether no call that joins lists is given a value of a category for its lists. -/
def JoinsLists : Argument → Prop
  | .concat a => ¬ a.IsSpecial ∧ a.JoinsLists
  | .wrapped a | .variant _ a | .block a | .special _ a => a.JoinsLists
  | .list items => ∀ a ∈ items, a.JoinsLists
  | .record fields => ∀ e ∈ fields, e.2.JoinsLists
  | .map entries => ∀ e ∈ entries, e.1.JoinsLists ∧ e.2.JoinsLists
  | _ => True
termination_by a => a
decreasing_by
  all_goals first
    | decreasing_tactic
    | exact sizeOf_lt_of_mem_children (snd_mem_children ‹_›)
    | exact sizeOf_lt_of_mem_children (key_mem_children ‹_›)
    | exact sizeOf_lt_of_mem_children (value_mem_children ‹_›)

variable {σ : Type} {hook : Override σ} {s s' : σ} {a : Argument} {e : Encoded}

/-! ## What is encoded can be -/

/-- The encoded argument, where all gets the default rendering. -/
theorem eq_encoded_of_ok (h : hook.HandsBack ∨ a.specials = [])
    (hok : a.encode hook s = .ok (e, s')) : e = a.form.encoded Special.render := by
  obtain ⟨t, hform, rfl, hfills⟩ := exists_form (h.imp_right isPlain_of_specials) hok
  exact (encoded_of_settled hform hfills h).1

theorem encodable_of_ok (hback : hook.HandsBack) (hok : a.encode hook s = .ok (e, s')) :
    a.Encodable := by
  induction a using of_children generalizing s s' e with | _ a ih
  cases a with
  | wrapped a =>
    rw [encode] at hok
    rw [Encodable]
    exact ih a (List.mem_singleton_self _) hok
  | variant own a =>
    obtain ⟨inner, hinner, -⟩ := encode_variant_eq_ok.1 hok
    rw [Encodable]
    exact ih a (List.mem_singleton_self _) hinner
  | list items =>
    obtain ⟨es, hes, he⟩ := encode_list_eq_ok.1 hok
    have hitems : es = (items.map form).map (Form.encoded Special.render) := by
      rw [List.map_map]
      exact eq_map_of_run_mapM_eq_ok (fun _ _ _ _ _ hok => eq_encoded_of_ok (.inl hback) hok) hes
    rw [hitems, Form.ofList_encoded] at he
    rw [Encodable]
    refine ⟨fun a ha => ?_, he.1⟩
    obtain ⟨e, s₁, s₂, hok⟩ := exists_of_run_mapM_eq_ok hes a ha
    exact ih a ha hok
  | record fields =>
    obtain ⟨fs, hfs, -⟩ := encode_record_eq_ok.1 hok
    rw [Encodable]
    intro field hfield
    obtain ⟨x, s₁, s₂, hok⟩ := exists_of_run_mapM_eq_ok hfs field hfield
    obtain ⟨e, he, -⟩ := encodeField_eq_ok.1 hok
    exact ih field.2 (snd_mem_children hfield) he
  | map entries =>
    obtain ⟨fs, hfs, -⟩ := encode_map_eq_ok.1 hok
    rw [Encodable]
    intro entry hentry
    obtain ⟨x, s₁, s₂, hok⟩ := exists_of_run_mapM_eq_ok hfs entry hentry
    obtain ⟨key, s₃, name, hkey, hname, e, he, -⟩ := encodeEntry_eq_ok.1 hok
    rw [eq_encoded_of_ok (.inl hback) hkey, Form.key?_encoded] at hname
    exact ⟨⟨ih entry.1 (key_mem_children hentry) hkey, hname.1, name, hname.2⟩,
      ih entry.2 (value_mem_children hentry) he⟩
  | block a =>
    obtain ⟨fs, hfs, -⟩ := encode_block_eq_ok.1 hok
    obtain ⟨fields, hform, -⟩ := Form.exists_struct (eq_encoded_of_ok (.inl hback) hfs).symm
    rw [Encodable]
    exact ⟨ih a (List.mem_singleton_self _) hfs, fields, hform⟩
  | special category a =>
    obtain ⟨payload, s₁, v, hpayload, hv, -, -⟩ := encode_special_eq_ok.1 hok
    rw [eq_encoded_of_ok (.inl hback) hpayload, Form.special_encoded] at hv
    rw [Encodable]
    exact ⟨ih a (List.mem_singleton_self _) hpayload, hv.1, v, hv.2⟩
  | concat a =>
    obtain ⟨lists, args, hlists, hargs, -⟩ := encode_concat_eq_ok.1 hok
    rw [eq_encoded_of_ok (.inl hback) hlists, Form.toExpr_encoded] at hargs
    rw [Encodable]
    exact ⟨ih a (List.mem_singleton_self _) hlists, hargs.1, args, hargs.2.symm⟩
  | float x =>
    rw [Encodable]
    exact (encode_float_eq_ok.1 hok).1
  | keyless a | unsupported form | failing message => exact absurd hok run_throw_ne_ok
  | _ => simp [Encodable]

/-! ## What can be is encoded -/

/-- The form of a value of a category comes from such a value. -/
theorem isSpecial_of_hole {v : Special} (hok : a.Encodable) (h : a.form = .hole v) :
    a.IsSpecial := by
  induction a using of_children with | _ a ih
  cases a with
  | wrapped a =>
    rw [Encodable] at hok
    rw [form] at h
    exact ih a (List.mem_singleton_self _) hok h
  | variant own a =>
    rw [Encodable] at hok
    rw [form] at h
    exact ih a (List.mem_singleton_self _) hok (Form.eq_hole_of_named h)
  | block a =>
    rw [Encodable] at hok
    obtain ⟨-, fields, hfields⟩ := hok
    rw [form, hfields, Form.marked] at h
    exact absurd h (by simp)
  | special category a => trivial
  | _ => exact absurd h (by simp [form])

/-- What is shown as a list is one under every override, unless it is a value of a category. -/
theorem exists_array_of_not_isSpecial {t : Form (Special × Special.Answer)} (hok : a.Encodable)
    (hlist : a.IsShownAsList) (hform : t.map Prod.fst = a.form) (h : ¬ a.IsSpecial) :
    ∃ args, t.expr Special.answered = .array args := by
  obtain ⟨items, hitems⟩ := hlist
  rw [shown, ← hform] at hitems
  refine Form.exists_array_of_map hitems fun x hx => h (isSpecial_of_hole (v := x.1) hok ?_)
  rw [← hform, hx, Form.map]

/-- Why an argument that can be encoded is not: an override that does render values has put
something else than a list where lists are joined. -/
theorem error_of_encodable {error : EncodeError} (h : hook.HandsBack ∨ a.IsPlain)
    (hok : a.Encodable) (herror : a.encode hook s = .error error) :
    error = .concatNotList ∧ ¬ hook.HandsBack ∧ ¬ a.JoinsLists := by
  induction a using of_children generalizing s with | _ a ih
  cases a with
  | wrapped a =>
    rw [IsPlain] at h
    rw [Encodable] at hok
    rw [encode] at herror
    rw [JoinsLists]
    exact ih a (List.mem_singleton_self _) h hok herror
  | variant own a =>
    rw [IsPlain] at h
    rw [Encodable] at hok
    rw [encode_variant, run_map_eq_error] at herror
    rw [JoinsLists]
    exact ih a (List.mem_singleton_self _) h hok herror
  | list items =>
    rw [IsPlain] at h
    rw [Encodable] at hok
    rw [encode, encodeItems_eq, run_bind_eq_error] at herror
    rw [JoinsLists]
    rcases herror with herror | ⟨es, s₁, hes, herror⟩
    · obtain ⟨a, ha, s₁, herror⟩ := exists_of_run_mapM_eq_error herror
      obtain ⟨he, hback, hjoins⟩ := ih a ha (h.imp_right fun h => h a ha) (hok.1 a ha) herror
      exact ⟨he, hback, fun hall => hjoins (hall a ha)⟩
    · obtain ⟨ts, hforms, rfl, -⟩ := Override.exists_forms
        (Form.encoded Special.answered) form (Form.map Prod.fst) Form.holes IsPlain
        (fun a ha s e s' => exists_form (h.imp_right fun h => h a ha)) hes
      have hlist := Form.ofList_encoded.2
        ⟨Form.areItems_map.1 (hforms ▸ hok.2), Eq.refl ((Form.list ts).encoded Special.answered)⟩
      rw [run_lift_eq_error, hlist] at herror
      cases herror
  | record fields =>
    rw [IsPlain] at h
    rw [Encodable] at hok
    rw [encode, encodeFields_eq, run_map_eq_error] at herror
    rw [JoinsLists]
    obtain ⟨field, hfield, s₁, herror⟩ := exists_of_run_mapM_eq_error herror
    rw [encodeField, run_map_eq_error] at herror
    obtain ⟨he, hback, hjoins⟩ := ih field.2 (snd_mem_children hfield)
      (h.imp_right fun h => h field hfield) (hok field hfield) herror
    exact ⟨he, hback, fun hall => hjoins (hall field hfield)⟩
  | map entries =>
    rw [IsPlain] at h
    rw [Encodable] at hok
    rw [encode, encodeEntries_eq, run_map_eq_error] at herror
    rw [JoinsLists]
    obtain ⟨entry, hentry, s₁, herror⟩ := exists_of_run_mapM_eq_error herror
    have hplain := h.imp_right fun h => h entry hentry
    obtain ⟨⟨hkey, hshown, name, hname⟩, hvalue⟩ := hok entry hentry
    rw [encodeEntry, run_bind_eq_error] at herror
    rcases herror with herror | ⟨key, s₂, hok, herror⟩
    · obtain ⟨he, hback, hjoins⟩ := ih entry.1 (key_mem_children hentry)
        (hplain.imp_right fun h => isPlain_of_specials h.1) hkey herror
      exact ⟨he, hback, fun hall => hjoins (hall entry hentry).1⟩
    · rw [eq_encoded_of_ok (hplain.imp_right And.left) hok,
        (Form.key?_encoded ..).2 ⟨hshown, hname⟩] at herror
      obtain ⟨he, hback, hjoins⟩ := ih entry.2 (value_mem_children hentry)
        (hplain.imp_right And.right) hvalue (run_map_eq_error.1 herror)
      exact ⟨he, hback, fun hall => hjoins (hall entry hentry).2⟩
  | block a =>
    rw [IsPlain] at h
    rw [Encodable] at hok
    obtain ⟨hok, fields, hfields⟩ := hok
    rw [encode, run_bind_eq_error] at herror
    rw [JoinsLists]
    rcases herror with herror | ⟨inner, s₁, hinner, herror⟩
    · exact ih a (List.mem_singleton_self _) h hok herror
    · obtain ⟨t, hform, rfl, -⟩ := exists_form h hinner
      obtain ⟨fields', rfl⟩ := Form.isStruct_of_map ⟨fields, hform.trans hfields⟩
      rw [Form.encoded] at herror
      exact absurd herror run_pure_ne_error
  | special category a =>
    rw [IsPlain] at h
    rw [Encodable] at hok
    obtain ⟨hok, hshown, v, hv⟩ := hok
    rw [encode, run_bind_eq_error] at herror
    rw [JoinsLists]
    rcases herror with herror | ⟨payload, s₁, hpayload, herror⟩
    · exact ih a (List.mem_singleton_self _) (h.imp_right isPlain_of_specials) hok herror
    · have hspecial := (Form.special_encoded (f := Special.render) a.form category v).2 ⟨hshown, hv⟩
      rw [eq_encoded_of_ok h hpayload, hspecial] at herror
      cases herror
  | concat a =>
    rw [IsPlain] at h
    rw [Encodable] at hok
    obtain ⟨hok, hshown, hlist⟩ := hok
    rw [encode, run_bind_eq_error] at herror
    rw [JoinsLists]
    rcases herror with herror | ⟨lists, s₁, hlists, herror⟩
    · obtain ⟨he, hback, hjoins⟩ := ih a (List.mem_singleton_self _) h hok herror
      exact ⟨he, hback, fun hall => hjoins hall.2⟩
    · obtain ⟨t, hform, rfl, -⟩ := exists_form h hlists
      have hexpr (context : String) := (Form.toExpr_encoded (f := Special.answered) t context _).2
        ⟨(Form.isShown_map Prod.fst t).1 (hform ▸ hshown), rfl⟩
      have hother : ∀ args, t.expr Special.answered ≠ .array args := by
        intro args hargs
        rw [hexpr, hargs] at herror
        cases herror
      refine ⟨?_, fun hback => ?_, fun hall => ?_⟩
      · rw [hexpr] at herror
        cases hx : t.expr Special.answered with
        | array args => exact absurd hx (hother args)
        | _ =>
          rw [hx] at herror
          cases herror
          rfl
      · have hsame := hexpr "concat"
        rw [eq_encoded_of_ok (.inl hback) hlists, Form.toExpr_encoded] at hsame
        obtain ⟨args, hargs⟩ := hlist
        exact hother args (hsame.2.trans hargs)
      · obtain ⟨args, hargs⟩ := exists_array_of_not_isSpecial hok hlist hform hall.1
        exact hother args hargs
  | float x =>
    rw [Encodable] at hok
    rw [encode, if_pos hok] at herror
    exact absurd herror run_pure_ne_error
  | keyless a | unsupported form | failing message =>
    rw [Encodable] at hok
    exact hok.elim
  | _ =>
    rw [encode] at herror
    exact absurd herror run_pure_ne_error

end Argument

end AgentConvert
