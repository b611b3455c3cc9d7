import AgentConvert.Decoding.Record
import Mathlib.Data.List.Forall2
import Mathlib.Data.List.Nodup

/-!
# What decoding gives

`Decode.Gives d P` says that whatever `d` comes to satisfies `P`; it says nothing when `d` fails. A
record of settings keeps what holds of its initial settings, if each of its fields does: from parts
of opaque bodies only (`Record.gives_decode`), or from any value (`Record.gives_settings`,
`OpenRecord.gives_settings`). What one field establishes from the value that a body gives it holds
of the settings too, since no entry is read for this field twice (`Record.gives_of_given`).

A part of an opaque body is a value whose maps have texts for keys, and it is read back as the same
part (`Decode.gives_json`).
-/

namespace AgentConvert

variable {α β σ τ : Type}

theorem pairwise_zip {R : α → α → Prop} {as : List α} {bs : List β} (h : as.Pairwise R) :
    (as.zip bs).Pairwise fun x y => R x.1 y.1 := by
  induction h generalizing bs with
  | nil => simp
  | cons ha _ ih =>
    cases bs with
    | nil => simp
    | cons b bs => exact .cons (fun e he => ha _ (List.of_mem_zip he).1) ih

/-! ## Opaque bodies as values -/

namespace Json

theorem toItems_eq (items : List Json) : toItems items = items.map toValue := by
  induction items with
  | nil => rfl
  | cons j items ih => rw [toItems, ih, List.map_cons]

theorem toEntries_eq (fields : List (String × Json)) :
    toEntries fields = fields.map fun e => (.text e.1, e.2.toValue) := by
  induction fields with
  | nil => rfl
  | cons e fields ih => rw [toEntries, ih, List.map_cons]

mutual
/-- Whether the objects of a body have their fields in ascending order. -/
def IsOrdered : Json → Prop
  | .list items => AreOrdered items
  | .object fields => (fields.Pairwise fun a b => a.1 < b.1) ∧ AreOrderedFields fields
  | .null | .bool _ | .int _ | .float .. | .text _ => True

/-- Whether the objects of bodies have their fields in ascending order. -/
def AreOrdered : List Json → Prop
  | [] => True
  | j :: rest => j.IsOrdered ∧ AreOrdered rest

/-- Whether the objects in fields have their fields in ascending order. -/
def AreOrderedFields : List (String × Json) → Prop
  | [] => True
  | (_, j) :: rest => j.IsOrdered ∧ AreOrderedFields rest
end

theorem areOrderedFields_iff {fields : List (String × Json)} :
    AreOrderedFields fields ↔ ∀ e ∈ fields, e.2.IsOrdered := by
  induction fields with
  | nil => simp [AreOrderedFields]
  | cons e rest ih => rw [AreOrderedFields, ih, List.forall_mem_cons]

theorem isOrdered_ofFields {fields : List (String × Json)} (h : AreOrderedFields fields) :
    (ofFields fields).IsOrdered :=
  ⟨Dictionary.ascending _, areOrderedFields_iff.2 fun e he =>
    areOrderedFields_iff.1 h e (Dictionary.mem_of_mem_ofList he)⟩

theorem isOrdered_ofFloat (x : Binary64) : (ofFloat x).IsOrdered := by
  cases x <;> trivial

theorem isOrdered_ofInt (n : Int) : (ofInt n).IsOrdered := by
  unfold ofInt
  split
  · trivial
  · exact isOrdered_ofFloat _

mutual
/-- Bodies that are read have the fields of their objects in ascending order. -/
theorem isOrdered_ofValue : ∀ v : Value, (ofValue v).IsOrdered
  | .null | .bool _ | .text _ | .scalar .. | .reference _ => trivial
  | .int n => isOrdered_ofInt n
  | .float x => isOrdered_ofFloat x
  | .tagged _ v => isOrdered_ofValue v
  | .list items => areOrdered_ofItems items
  | .map entries => isOrdered_ofFields (areOrderedFields_ofEntries entries)

theorem areOrdered_ofItems : ∀ items : List Value, AreOrdered (ofItems items)
  | [] => trivial
  | v :: rest => ⟨isOrdered_ofValue v, areOrdered_ofItems rest⟩

theorem areOrderedFields_ofEntries : ∀ entries : List (Value × Value),
    AreOrderedFields (ofEntries entries)
  | [] => trivial
  | (k, v) :: rest => by
    have hrest := areOrderedFields_ofEntries rest
    cases k with
    | text key => exact ⟨isOrdered_ofValue v, hrest⟩
    | _ => exact hrest
end

mutual
theorem ofValue_toValue : ∀ j : Json, j.IsOrdered → ofValue j.toValue = j
  | .null, _ | .bool _, _ | .float .., _ | .text _, _ => rfl
  | .int n, _ => by
    rw [toValue, ofValue, ofInt, dif_pos n.fits]
  | .list items, h => by
    rw [toValue, ofValue, ofItems_toItems items h]
  | .object fields, h => by
    rw [toValue, ofValue, ofEntries_toEntries fields h.2, ofFields, Dictionary.entries_ofList h.1]

theorem ofItems_toItems : ∀ items : List Json, AreOrdered items → ofItems (toItems items) = items
  | [], _ => rfl
  | j :: rest, h => by
    rw [toItems, ofItems, ofValue_toValue j h.1, ofItems_toItems rest h.2]

theorem ofEntries_toEntries : ∀ fields : List (String × Json), AreOrderedFields fields →
    ofEntries (toEntries fields) = fields
  | [], _ => rfl
  | (key, j) :: rest, h => by
    rw [toEntries, ofEntries, ofValue_toValue j h.1, ofEntries_toEntries rest h.2]
end

end Json

namespace Decode

/-- Whether whatever decoding comes to satisfies `P`. -/
def Gives (d : Decode α) (P : α → Prop) : Prop :=
  ∀ place n a m, d place n = .ok (a, m) → P a

variable {P : α → Prop} {Q : β → Prop}

theorem gives_true (d : Decode α) : d.Gives fun _ => True := fun _ _ _ _ _ => trivial

theorem gives_pure {a : α} (h : P a) : Gives (pure a) P := by
  intro place n b m heq
  obtain ⟨rfl, -⟩ := Prod.mk.inj (Except.ok.inj heq)
  exact h

theorem gives_throw (e : DecodeError) : Gives (throw e) P := by
  intro place n a m heq
  have hthrow : (throw e : Decode α) place n = .error e := rfl
  rw [hthrow] at heq
  exact absurd heq (by simp)

theorem gives_bind {d : Decode α} {f : α → Decode β} (hd : d.Gives P)
    (hf : ∀ a, P a → (f a).Gives Q) : (d >>= f).Gives Q := by
  intro place n b m heq
  change (d place n).bind (fun r => f r.1 place r.2) = _ at heq
  cases hr : d place n with
  | error e =>
    rw [hr] at heq
    exact absurd heq (by simp [Except.bind])
  | ok r =>
    rw [hr] at heq
    exact hf r.1 (hd _ _ _ _ hr) _ _ _ _ heq

theorem gives_map {d : Decode α} {f : α → β} (hd : d.Gives P) (hf : ∀ a, P a → Q (f a)) :
    (f <$> d).Gives Q := by
  rw [map_eq_pure_bind]
  exact gives_bind hd fun a ha => gives_pure (hf a ha)

theorem gives_within {d : Decode α} (hd : d.Gives P) : (within d).Gives P := by
  refine gives_bind (gives_true _) fun place _ => ?_
  split
  · exact gives_throw _
  · exact fun place n a m heq => hd _ n a m heq

theorem gives_readAs {d : Decode α} (reading : Reading) (hd : d.Gives P) :
    (readAs reading d).Gives P :=
  fun _ n a m heq => hd _ n a m heq

theorem gives_foldlM {f : σ → α → Decode σ} {I : σ → Prop} {as : List α} {s : σ} (hs : I s)
    (hf : ∀ a ∈ as, ∀ s, I s → (f s a).Gives I) : (as.foldlM f s).Gives I := by
  induction as generalizing s with
  | nil => exact gives_pure hs
  | cons a as ih =>
    rw [List.foldlM_cons]
    exact gives_bind (hf a (List.mem_cons_self ..) s hs) fun s hs =>
      ih hs fun b hb => hf b (List.mem_cons_of_mem _ hb)

/-- What one step establishes, if the later ones keep it. -/
theorem gives_foldlM_append {f : σ → α → Decode σ} {I : σ → Prop} {as bs : List α} {a : α} {s : σ}
    (ha : ∀ s, (f s a).Gives I) (hbs : ∀ b ∈ bs, ∀ s, I s → (f s b).Gives I) :
    ((as ++ a :: bs).foldlM f s).Gives I := by
  rw [List.foldlM_append]
  refine gives_bind (gives_true _) fun s _ => ?_
  rw [List.foldlM_cons]
  exact gives_bind (ha s) fun s hs => gives_foldlM hs hbs

theorem gives_mapM {f : α → Decode β} {R : α → β → Prop} {as : List α}
    (hf : ∀ a ∈ as, (f a).Gives (R a)) : (as.mapM f).Gives (List.Forall₂ R as) := by
  induction as with
  | nil => exact gives_pure .nil
  | cons a as ih =>
    obtain ⟨ha, has⟩ := List.forall_mem_cons.1 hf
    rw [List.mapM_cons]
    exact gives_bind ha fun b hb => gives_bind (ih has) fun bs hbs => gives_pure (.cons hb hbs)

theorem of_runAt {d : Decoder α} {v : Value} (hd : (d v).Gives P) {place : Place} {a : α}
    (h : runAt place d v = .ok a) : P a := by
  unfold runAt at h
  cases hr : (d v place).run 0 with
  | error e =>
    rw [hr] at h
    exact absurd h (by simp [Except.map])
  | ok r =>
    rw [hr] at h
    obtain rfl := Except.ok.inj h
    exact hd _ _ _ _ hr

theorem of_run {d : Decoder α} {v : Value} (hd : (d v).Gives P) {reading : Reading} {a : α}
    (h : run reading d v = .ok a) : P a :=
  of_runAt hd h

theorem gives_some {d : Decode α} (hd : d.Gives P) :
    (some <$> d : Decode (Option α)).Gives fun o => ∀ a ∈ o, P a :=
  gives_map hd fun _ ha _ hb => Option.some.inj hb ▸ ha

/-- An optional value, whatever it is decoded from. -/
theorem gives_optional_of {d : Decoder α} (hd : ∀ v, (d v).Gives P) (v : Value) :
    (optional d v).Gives fun o => ∀ a ∈ o, P a := by
  have hnone : (pure none : Decode (Option α)).Gives fun o => ∀ a ∈ o, P a := gives_pure (by simp)
  refine gives_bind (gives_true _) fun v _ => ?_
  split
  · exact hnone
  · split
    · split
      · exact hnone
      · exact gives_throw _
    · split
      · exact hnone
      · exact gives_some (hd _)
  · exact gives_some (hd _)

/-! ## Opaque bodies -/

/-- Parts of opaque bodies are no references and have no tags. -/
theorem gives_bare (j : Json) : (bare j.toValue).Gives fun v => v = j.toValue := by
  cases j <;> exact gives_pure rfl

theorem gives_follow (j : Json) : (follow j.toValue).Gives fun v => v = j.toValue := by
  cases j <;> exact gives_pure rfl

theorem gives_optional {d : Decoder α} {j : Json} (hd : (d j.toValue).Gives P) :
    (optional d j.toValue).Gives fun o => ∀ a ∈ o, P a := by
  have hsome := gives_some hd
  refine gives_bind (gives_follow j) ?_
  rintro v rfl
  cases j with
  | null => exact gives_pure (by simp)
  | bool _ | int _ | float _ _ | text _ | list _ | object _ => exact hsome

/-- An optional value is there unless it is null. -/
theorem gives_optional_of_ne {d : Decoder α} {j : Json} (hj : j ≠ .null)
    (hd : (d j.toValue).Gives P) :
    (optional d j.toValue).Gives fun o => ∃ a, o = some a ∧ P a := by
  have hsome : (some <$> d j.toValue : Decode (Option α)).Gives fun o => ∃ a, o = some a ∧ P a :=
    gives_map hd fun a ha => ⟨a, rfl, ha⟩
  refine gives_bind (gives_follow j) ?_
  rintro v rfl
  cases j with
  | null => exact absurd rfl hj
  | bool _ | int _ | float _ _ | text _ | list _ | object _ => exact hsome

theorem gives_list {d : Decoder α} {R : Json → α → Prop} (hd : ∀ j, (d j.toValue).Gives (R j))
    (items : List Json) : (list d (Json.list items).toValue).Gives (List.Forall₂ R items) := by
  refine gives_bind (gives_bare (.list items)) ?_
  rintro v rfl
  refine gives_within ?_
  rw [Json.toItems_eq, List.mapM_map]
  exact gives_mapM fun j _ => hd j

theorem settle_list (depth : Nat) (items : List Value) :
    settle .body (depth + 1) (.list items) = Value.list <$> items.mapM (settle .body depth) := by
  rw [map_eq_pure_bind, settle.eq_def]
  simp only [follow, ownTag, pure_bind]

theorem settle_map (depth : Nat) (entries : List (Value × Value)) :
    settle .body (depth + 1) (.map entries) = Value.map <$> entries.zipIdx.mapM fun e => do
      let key ← objectKey (e.2 == 0) e.1.1
      return (key, ← settle .body depth e.1.2) := by
  have hkept : (Purpose.body == Purpose.kept) = false := rfl
  rw [map_eq_pure_bind, settle.eq_def]
  simp only [follow, ownTag, pure_bind, beq_self_eq_true, hkept, Bool.false_and, reduceIte,
    Bool.false_eq_true]

theorem gives_objectKey (isFirst : Bool) (key : String) :
    (objectKey isFirst (.text key)).Gives fun v => .text key = v :=
  gives_pure rfl

mutual
/-- A part of an opaque body has no references and no scalars of a text, so it is settled as it
is. -/
theorem gives_settle : ∀ (j : Json) (depth : Nat),
    (settle .body depth j.toValue).Gives fun v => j.toValue = v
  | .null, _ | .bool _, _ | .int _, _ | .float .., _ | .text _, _ => by
    unfold settle
    exact gives_pure rfl
  | .list _, 0 | .object _, 0 => by
    unfold settle
    exact gives_throw _
  | .list items, depth + 1 => by
    rw [Json.toValue, settle_list]
    refine gives_map (gives_mapM (gives_settleItems items depth)) fun vs hvs => ?_
    rw [List.forall₂_eq_eq_eq] at hvs
    rw [hvs]
  | .object fields, depth + 1 => by
    rw [Json.toValue, settle_map]
    have hentries := gives_settleEntries fields depth
    refine gives_map (gives_mapM (R := fun e e' => e.1 = e') fun e he => ?_) fun es hes => ?_
    · have hmem : e.1 ∈ Json.toEntries fields := List.fst_mem_of_mem_zipIdx he
      obtain ⟨⟨key, hkey⟩, hvalue⟩ := hentries e.1 hmem
      rw [hkey]
      refine gives_bind (gives_objectKey _ key) ?_
      rintro _ rfl
      exact gives_bind hvalue fun v hv => gives_pure (Prod.ext hkey hv)
    · rw [← List.forall₂_map_left_iff, List.forall₂_eq_eq_eq, List.zipIdx_map_fst] at hes
      rw [hes]

theorem gives_settleItems : ∀ (items : List Json) (depth : Nat), ∀ v ∈ Json.toItems items,
    (settle .body depth v).Gives fun w => v = w
  | [], _ => fun _ hv => absurd hv (by simp [Json.toItems])
  | j :: rest, depth => by
    rw [Json.toItems, List.forall_mem_cons]
    exact ⟨gives_settle j depth, gives_settleItems rest depth⟩

theorem gives_settleEntries : ∀ (fields : List (String × Json)) (depth : Nat),
    ∀ e ∈ Json.toEntries fields,
      (∃ key, e.1 = .text key) ∧ (settle .body depth e.2).Gives fun w => e.2 = w
  | [], _ => fun _ he => absurd he (by simp [Json.toEntries])
  | (key, j) :: rest, depth => by
    rw [Json.toEntries, List.forall_mem_cons]
    exact ⟨⟨⟨key, rfl⟩, gives_settle j depth⟩, gives_settleEntries rest depth⟩
end

/-- A part of an opaque body that is opaque itself is taken as it is. -/
theorem gives_json {j : Json} (h : j.IsOrdered) : (json j.toValue).Gives fun j' => j = j' := by
  refine gives_bind (P := fun v => j.toValue = v)
    (gives_bind (gives_true _) fun place _ => gives_settle j place.depth) ?_
  rintro _ rfl
  exact gives_pure (Json.ofValue_toValue j h).symm

end Decode


/-! ## Records -/

namespace Field

/-- Whether a field keeps what holds of the settings when it is decoded from `v`. -/
def KeepsFrom (f : Field σ) (I : σ → Prop) (v : Value) : Prop :=
  (f.update v).Gives fun update => ∀ s, I s → I (update s)

theorem KeepsFrom.of {key : String} {d : Decoder α} {set : α → σ → σ} {P : α → Prop}
    {I : σ → Prop} {v : Value} (hd : (d v).Gives P) (hset : ∀ a, P a → ∀ s, I s → I (set a s)) :
    (Field.of key d set).KeepsFrom I v :=
  Decode.gives_bind hd fun a ha => Decode.gives_pure (hset a ha)

/-- A field that `I` does not look at. -/
theorem KeepsFrom.aside {key : String} {d : Decoder α} {set : α → σ → σ} {I : σ → Prop} {v : Value}
    (hset : ∀ a s, I s → I (set a s)) : (Field.of key d set).KeepsFrom I v :=
  .of (Decode.gives_true _) fun a _ => hset a

/-- A field of a part that `I` does not look at. -/
theorem KeepsFrom.inside {change : (τ → τ) → σ → σ} {f : Field τ} {I : σ → Prop} {v : Value}
    (hchange : ∀ g s, I s → I (change g s)) : (Field.inside change f).KeepsFrom I v :=
  Decode.gives_bind (Decode.gives_true _) fun g _ => Decode.gives_pure (hchange g)

/-- Whether a field keeps what holds of the settings when it is decoded from a part of an opaque
body. -/
def Keeps (f : Field σ) (I : σ → Prop) : Prop :=
  ∀ j : Json, (f.update j.toValue).Gives fun update => ∀ s, I s → I (update s)

theorem Keeps.of {key : String} {d : Decoder α} {set : α → σ → σ} {P : α → Prop} {I : σ → Prop}
    (hd : ∀ j : Json, (d j.toValue).Gives P) (hset : ∀ a, P a → ∀ s, I s → I (set a s)) :
    (Field.of key d set).Keeps I :=
  fun j => KeepsFrom.of (hd j) hset

/-- A field that `I` does not look at. -/
theorem Keeps.aside {key : String} {d : Decoder α} {set : α → σ → σ} {I : σ → Prop}
    (hset : ∀ a s, I s → I (set a s)) : (Field.of key d set).Keeps I :=
  .of (fun _ => Decode.gives_true _) fun a _ => hset a

theorem gives_pick (fields : List (Field σ)) (key : Value) :
    (pick fields key).Gives fun f => ∀ g ∈ f, g ∈ fields := by
  refine Decode.gives_bind (Decode.gives_true _) fun key _ => ?_
  split
  · exact Decode.gives_pure fun g hg => List.mem_of_find?_eq_some hg
  · exact Decode.gives_pure fun g hg => List.mem_of_find?_eq_some hg
  · refine Decode.gives_bind (Decode.gives_true _) fun place _ => ?_
    split
    · exact Decode.gives_pure fun g hg => List.mem_of_getElem? hg
    · exact Decode.gives_throw _
  · exact Decode.gives_throw _

theorem gives_readOnce {f : Field σ} {I : σ → Prop} {v : Value} (hf : f.KeepsFrom I v)
    {done : σ × List String} (hdone : I done.1) :
    (f.readOnce v done).Gives fun done => I done.1 := by
  unfold readOnce
  split
  · exact Decode.gives_throw _
  · exact Decode.gives_bind hf fun update hupdate => Decode.gives_pure (hupdate _ hdone)

theorem mem_of_withKey? {fields : List (Field σ)} {key : String} {f : Field σ}
    (h : withKey? fields key = some f) : f ∈ fields :=
  List.mem_of_find?_eq_some h

end Field

namespace Record

variable {r : Record σ} {I : σ → Prop}

theorem gives_finish {done : σ × List String} (h : I done.1) : (r.finish done).Gives I := by
  unfold finish
  split
  · exact Decode.gives_throw _
  · exact Decode.gives_pure h

theorem mem_toEntries {fields : List (String × Json)} {e : Value × Value}
    (h : e ∈ Json.toEntries fields) : ∃ j : Json, e.2 = j.toValue := by
  rw [Json.toEntries_eq] at h
  obtain ⟨field, -, rfl⟩ := List.mem_map.1 h
  exact ⟨field.2, rfl⟩

theorem mem_toItems {items : List Json} {v : Value} (h : v ∈ Json.toItems items) :
    ∃ j : Json, v = j.toValue := by
  rw [Json.toItems_eq] at h
  obtain ⟨j, -, rfl⟩ := List.mem_map.1 h
  exact ⟨j, rfl⟩

theorem gives_readEntry {entry : Value × Value} (hfields : ∀ f ∈ r.fields, f.KeepsFrom I entry.2)
    {done : σ × List String} (hdone : I done.1) :
    (r.readEntry done entry).Gives fun done => I done.1 := by
  refine Decode.gives_bind (Field.gives_pick r.fields entry.1) fun f hf => ?_
  cases f with
  | none => exact Decode.gives_pure hdone
  | some f => exact Field.gives_readOnce (hfields f (hf f rfl)) hdone

theorem gives_readEntries {entries : List (Value × Value)} (hinit : I r.initial)
    (hfields : ∀ e ∈ entries, ∀ f ∈ r.fields, f.KeepsFrom I e.2) :
    (Decode.within do r.finish (← entries.foldlM r.readEntry (r.initial, []))).Gives I := by
  refine Decode.gives_within (Decode.gives_bind (P := fun done => I done.1) ?_ fun done hdone =>
    gives_finish hdone)
  exact Decode.gives_foldlM (I := fun done : σ × List String => I done.1) hinit
    fun e he done hdone => gives_readEntry (hfields e he) hdone

theorem gives_readItems {items : List Value} (hinit : I r.initial)
    (hfields : ∀ v ∈ items, ∀ f ∈ r.fields, f.KeepsFrom I v) : (r.readItems items).Gives I := by
  refine Decode.gives_bind (Decode.gives_foldlM hinit fun e he settings hs => ?_)
    fun settings hs => ?_
  · have hmem := List.of_mem_zip he
    exact Decode.gives_bind (hfields e.2 hmem.2 e.1 hmem.1) fun update hupdate =>
      Decode.gives_pure (hupdate _ hs)
  · split
    · exact Decode.gives_throw _
    · exact Decode.gives_pure hs

/-- A record decoded from a part of an opaque body keeps what holds of its initial settings. -/
theorem gives_decode (hinit : I r.initial) (hfields : ∀ f ∈ r.fields, f.Keeps I) (j : Json) :
    (r.decode j.toValue).Gives I := by
  refine Decode.gives_bind (Decode.gives_bare j) ?_
  rintro v rfl
  cases j with
  | object fields =>
    refine gives_readEntries hinit fun e he f hf => ?_
    obtain ⟨j, hj⟩ := mem_toEntries he
    exact hj ▸ hfields f hf j
  | list items =>
    refine Decode.gives_bind (Decode.gives_true _) fun place _ => ?_
    split
    · exact Decode.gives_throw _
    · refine Decode.gives_within (gives_readItems hinit fun v hv f hf => ?_)
      obtain ⟨j, rfl⟩ := mem_toItems hv
      exact hfields f hf j
  | null | bool _ | int _ | float _ _ | text _ =>
    refine Decode.gives_bind (Decode.gives_true _) fun empty _ => ?_
    split
    · exact gives_finish hinit
    · exact Decode.gives_throw _

/-- A record decoded from any value keeps what holds of its initial settings. -/
theorem gives_settings (hinit : I r.initial) (hfields : ∀ f ∈ r.fields, ∀ v, f.KeepsFrom I v)
    (v : Value) : (r.decode v).Gives I := by
  refine Decode.gives_bind (Decode.gives_true _) fun v _ => ?_
  split
  · exact gives_readEntries hinit fun e _ f hf => hfields f hf e.2
  · refine Decode.gives_bind (Decode.gives_true _) fun place _ => ?_
    split
    · exact Decode.gives_throw _
    · exact Decode.gives_within (gives_readItems hinit fun v _ f hf => hfields f hf v)
  · refine Decode.gives_bind (Decode.gives_true _) fun empty _ => ?_
    split
    · exact gives_finish hinit
    · exact Decode.gives_throw _

end Record

/-! ## Given fields -/

namespace Record

variable {r : Record σ} {I : σ → Prop} {key : String} {f : Field σ} {v : Json}

/-- The value that a body gives to a field: under its key in an object, in its place in a list. -/
def given? (r : Record σ) (key : String) : Json → Option Json
  | .object fields => (fields.find? (·.1 == key)).map Prod.snd
  | .list items => ((r.fields.zip items).find? (·.1.key == key)).map Prod.snd
  | _ => none

theorem key_of_withKey? {fields : List (Field σ)} (h : Field.withKey? fields key = some f) :
    f.key = key := by
  simpa using List.find?_some h

theorem pick_text (fields : List (Field σ)) (key : String) :
    Field.pick fields (.text key) = pure (Field.withKey? fields key) :=
  rfl

theorem gives_readEntry_of_given (hf : Field.withKey? r.fields key = some f)
    (hset : (f.update v.toValue).Gives fun update => ∀ s, I (update s)) (done : σ × List String) :
    (r.readEntry done (.text key, v.toValue)).Gives fun done => I done.1 ∧ key ∈ done.2 := by
  unfold readEntry
  rw [pick_text, pure_bind, hf]
  dsimp only
  unfold Field.readOnce
  split
  · exact Decode.gives_throw _
  · exact Decode.gives_bind hset fun update hupdate =>
      Decode.gives_pure ⟨hupdate _, key_of_withKey? hf ▸ List.mem_cons_self⟩

/-- Once the field was seen, an entry is for another one, or it is an error. -/
theorem gives_readEntry_of_seen (hkeep : ∀ g ∈ r.fields, g.key ≠ key → g.Keeps I) (k : String)
    (j : Json) {done : σ × List String} (hdone : I done.1 ∧ key ∈ done.2) :
    (r.readEntry done (.text k, j.toValue)).Gives fun done => I done.1 ∧ key ∈ done.2 := by
  unfold readEntry
  rw [pick_text, pure_bind]
  cases hg : Field.withKey? r.fields k with
  | none => exact Decode.gives_pure hdone
  | some g =>
    dsimp only
    unfold Field.readOnce
    split
    · exact Decode.gives_throw _
    · rename_i hnew
      have hne : g.key ≠ key := fun heq => hnew (by simpa [heq] using hdone.2)
      exact Decode.gives_bind (hkeep g (Field.mem_of_withKey? hg) hne j) fun update hupdate =>
        Decode.gives_pure ⟨hupdate _ hdone.1, List.mem_cons_of_mem _ hdone.2⟩

theorem gives_readEntries_of_given (hf : Field.withKey? r.fields key = some f)
    (hset : (f.update v.toValue).Gives fun update => ∀ s, I (update s))
    (hkeep : ∀ g ∈ r.fields, g.key ≠ key → g.Keeps I) (before after : List (String × Json)) :
    (Decode.within do r.finish (← (Json.toEntries (before ++ (key, v) :: after)).foldlM r.readEntry
      (r.initial, []))).Gives I := by
  refine Decode.gives_within (Decode.gives_bind (P := fun done => I done.1 ∧ key ∈ done.2) ?_
    fun done hdone => gives_finish hdone.1)
  rw [Json.toEntries_eq, List.map_append, List.map_cons]
  refine Decode.gives_foldlM_append (I := fun done : σ × List String => I done.1 ∧ key ∈ done.2)
    (gives_readEntry_of_given hf hset) fun entry hentry done hdone => ?_
  obtain ⟨⟨k, j⟩, -, rfl⟩ := List.mem_map.1 hentry
  exact gives_readEntry_of_seen hkeep k j hdone

theorem gives_readItems_of_given {items : List Json} {before after : List (Field σ × Json)}
    (hzip : r.fields.zip items = before ++ (f, v) :: after)
    (hset : (f.update v.toValue).Gives fun update => ∀ s, I (update s))
    (hkeep : ∀ e ∈ after, e.1.Keeps I) : (r.readItems (Json.toItems items)).Gives I := by
  refine Decode.gives_bind (P := I) ?_ fun settings hs => ?_
  · rw [Json.toItems_eq, List.zip_map_right, hzip, List.map_append, List.map_cons]
    refine Decode.gives_foldlM_append (fun s => ?_) fun b hb s hs => ?_
    · exact Decode.gives_bind hset fun update hupdate => Decode.gives_pure (hupdate s)
    · obtain ⟨e, he, rfl⟩ := List.mem_map.1 hb
      exact Decode.gives_bind (hkeep e he e.2) fun update hupdate =>
        Decode.gives_pure (hupdate s hs)
  · split
    · exact Decode.gives_throw _
    · exact Decode.gives_pure hs

/-- What a field establishes from the value that it is given holds of the settings, if the other
fields keep it. -/
theorem gives_of_given (hf : Field.withKey? r.fields key = some f)
    (hset : (f.update v.toValue).Gives fun update => ∀ s, I (update s))
    (hkeep : ∀ g ∈ r.fields, g.key ≠ key → g.Keeps I) (hnodup : (r.fields.map Field.key).Nodup)
    {j : Json} (h : r.given? key j = some v) : (r.decode j.toValue).Gives I := by
  refine Decode.gives_bind (Decode.gives_bare j) ?_
  rintro _ rfl
  cases j with
  | object fields =>
    obtain ⟨⟨k, v⟩, he, rfl⟩ := Option.map_eq_some_iff.1 h
    obtain ⟨hkey, before, after, rfl, -⟩ := List.find?_eq_some_iff_append.1 he
    obtain rfl : k = key := by simpa using hkey
    exact gives_readEntries_of_given hf hset hkeep before after
  | list items =>
    obtain ⟨⟨g, v⟩, he, rfl⟩ := Option.map_eq_some_iff.1 h
    obtain ⟨hkey, before, after, hzip, -⟩ := List.find?_eq_some_iff_append.1 he
    obtain rfl : g.key = key := by simpa using hkey
    have hmem : ∀ e ∈ r.fields.zip items, e.1 ∈ r.fields := fun e he => (List.of_mem_zip he).1
    rw [hzip] at hmem
    obtain rfl : g = f := List.inj_on_of_nodup_map hnodup (hmem _ List.mem_append_cons_self)
      (Field.mem_of_withKey? hf) (key_of_withKey? hf).symm
    have hdistinct : (r.fields.zip items).Pairwise fun e e' => e.1.key ≠ e'.1.key :=
      pairwise_zip (List.pairwise_map.1 hnodup)
    rw [hzip] at hdistinct
    have hafter : ∀ e ∈ after, e.1.Keeps I := fun e he =>
      hkeep e.1 (hmem e (List.mem_append_right _ (List.mem_cons_of_mem _ he)))
        ((List.pairwise_cons.1 (List.pairwise_append.1 hdistinct).2.1).1 e he).symm
    refine Decode.gives_bind (Decode.gives_true _) fun place _ => ?_
    split
    · exact Decode.gives_throw _
    · exact Decode.gives_within (gives_readItems_of_given hzip hset hafter)
  | null | bool _ | int _ | float _ _ | text _ => exact absurd h (by simp [given?])

end Record

/-! ## Open records -/

namespace OpenRecord

variable {r : OpenRecord σ} {I : σ → Prop}

theorem gives_readEntry (hfields : ∀ f ∈ r.fields, ∀ v, f.KeepsFrom I v) (entry : Value × Value)
    {p : Progress σ} (hp : I p.done.1) : (r.readEntry p entry).Gives fun p => I p.done.1 := by
  refine Decode.gives_bind (Decode.gives_true _) fun key _ => ?_
  split
  case h_3 => exact Decode.gives_throw _
  all_goals
    split
    · rename_i f hf
      exact Decode.gives_bind
        (Field.gives_readOnce (hfields f (Field.mem_of_withKey? hf) entry.2) hp)
        fun done hdone => Decode.gives_pure hdone
    · exact Decode.gives_bind (Decode.gives_true _) fun v _ => Decode.gives_pure hp

theorem gives_readInlined (hinlined : ∀ f ∈ r.inlined, ∀ v, f.KeepsFrom I v) {p : Progress σ}
    (hp : I p.done.1) : (r.readInlined p).Gives I := by
  refine Decode.gives_bind (P := fun done => I done.1) ?_ fun done hdone => Decode.gives_pure hdone
  refine Decode.gives_foldlM (I := fun done : σ × List String => I done.1) hp
    fun e _ done hdone => ?_
  split
  · rename_i f hf
    exact Field.gives_readOnce (hinlined f (Field.mem_of_withKey? hf) e.2) hdone
  · exact Decode.gives_pure hdone

/-- An open record keeps what holds of its initial settings, if what it keeps of other entries does
not matter. -/
theorem gives_settings (hinit : I r.initial) (hfields : ∀ f ∈ r.fields, ∀ v, f.KeepsFrom I v)
    (hinlined : ∀ f ∈ r.inlined, ∀ v, f.KeepsFrom I v)
    (hkeep : ∀ keep ∈ r.keep, ∀ others s, I s → I (keep others s)) (v : Value) :
    (r.decode v).Gives I := by
  refine Decode.gives_bind (Decode.gives_true _) fun v _ => ?_
  split
  · refine Decode.gives_within (Decode.gives_bind (P := fun p => I p.done.1) ?_ fun p hp => ?_)
    · exact Decode.gives_foldlM (I := fun p : Progress σ => I p.done.1) hinit
        fun e _ p hp => gives_readEntry hfields e hp
    · refine Decode.gives_bind (Decode.gives_readAs _ (gives_readInlined hinlined hp))
        fun settings hs => ?_
      split
      · rename_i keep hk
        exact Decode.gives_bind (Decode.gives_true _) fun others _ =>
          Decode.gives_pure (hkeep keep hk others settings hs)
      · exact Decode.gives_pure hs
  · refine Decode.gives_bind (Decode.gives_true _) fun empty _ => ?_
    split
    · exact Decode.gives_pure hinit
    · exact Decode.gives_throw _

end OpenRecord

end AgentConvert
