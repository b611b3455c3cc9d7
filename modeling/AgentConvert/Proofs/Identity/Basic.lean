import AgentConvert.Collector.Component
import AgentConvert.Draft
import AgentConvert.Proofs.Label

/-!
# Identities of blocks

A block is told apart by the dotted name of its kind and its label. Some kinds have labels of their
own, and all other kinds share theirs (`scopeOf`).

`Labels.Covers ls ids` is the invariant of a conversion: the identities are distinct, and the label
of each was handed out in its kind's scope. A fresh label covers one block of each of several kinds
(`Labels.Covers.fresh`). Work keeps the invariant if it adds the identities of what it comes to
(`Labelling.Keeps`).
-/

namespace AgentConvert

/-! ## Identities -/

/-- What tells a block apart: the dotted name of its kind, and its label. -/
abbrev Identity := String × Option String

def Block.identity (b : Block) : Identity := (dottedName b.name, b.label)

namespace Draft

/-- The identities of the blocks in order. -/
def identities (d : Draft) : List Identity := d.blocks.map Block.identity

@[simp] theorem identities_empty : empty.identities = [] := rfl

@[simp] theorem identities_report (ds : Diagnostics) : (report ds).identities = [] := rfl

@[simp] theorem identities_append (a b : Draft) :
    (a ++ b).identities = a.identities ++ b.identities := by
  simp [identities]

@[simp] theorem identities_concat (ds : List Draft) :
    (concat ds).identities = ds.flatMap identities := by
  simp [identities, List.map_flatMap]
  rfl

theorem identities_when (condition : Bool) (d : Draft) :
    (Draft.when condition d).identities.Sublist d.identities := by
  cases condition
  · exact List.nil_sublist _
  · exact .refl _

end Draft

/-- The identity of the block with this label and kind. -/
def labelled (label : String) (kind : ComponentKind) : Identity := (kind.name, some label)

namespace Draft

theorem identities_blockWith (hook : Override Unit) (kind : ComponentKind) {label : String}
    (h : label ≠ "") (args : Argument) :
    (blockWith hook kind label args).identities.Sublist [labelled label kind] := by
  unfold blockWith Block.build Block.buildWith
  cases args.toBody hook () with
  | error e => exact List.nil_sublist _
  | ok r =>
    show List.Sublist [(kind.name, if label = "" then none else some label)] _
    rw [if_neg h]
    exact .refl _

theorem identities_block (kind : ComponentKind) {label : String} (h : label ≠ "")
    (args : Argument) : (block kind label args).identities.Sublist [labelled label kind] :=
  identities_blockWith noOverride kind h args

/-- A block without a label is the only one of its kind. -/
theorem identities_unlabelled (kind : ComponentKind) (args : Option Argument) :
    (Draft.ofOption (block kind "") args).identities.Sublist [(kind.name, none)] := by
  cases args with
  | none => exact List.nil_sublist _
  | some args =>
    show (blockWith noOverride kind "" args).identities.Sublist _
    unfold blockWith Block.build Block.buildWith
    cases args.toBody noOverride () with
    | error e => exact List.nil_sublist _
    | ok r => exact .refl _

end Draft

/-! ## Scopes -/

/-- The kinds whose labels are handed out among those of the kind. -/
def ownScopes : List String :=
  ["prometheus.remote_write", "loki.write", "discovery.static", "discovery.dns", "discovery.http",
    "discovery.file", "discovery.consul", "discovery.ovhcloud"] ++
  Collector.SourceKind.all.map (·.component.name)

/-- The scope in which the labels of a kind are handed out. -/
def scopeOf (name : String) : String := if ownScopes.contains name then name else ""

namespace Labels

/-- The identities are distinct, and each label was handed out in the scope of its kind. -/
structure Covers (ls : Labels) (ids : List Identity) : Prop where
  nodup : ids.Nodup
  taken : ∀ {name label}, (name, some label) ∈ ids → (scopeOf name, label) ∈ ls.taken

/-- Without labels there may be a block that has none. -/
theorem covers_unlabelled (kind : ComponentKind) : empty.Covers [(kind.name, none)] :=
  ⟨by simp, by simp⟩

namespace Covers

variable {ls : Labels} {ids ids' : List Identity} {scope : String}

theorem sublist (h : ls.Covers ids) (hs : ids'.Sublist ids) : ls.Covers ids' :=
  ⟨hs.nodup h.nodup, fun hid => h.taken (hs.subset hid)⟩

theorem perm (h : ls.Covers ids) (hp : ids.Perm ids') : ls.Covers ids' :=
  ⟨hp.nodup h.nodup, fun hid => h.taken (hp.mem_iff.2 hid)⟩

/-- What comes first may be put behind. -/
theorem swap {as bs : List Identity} (h : ls.Covers (ids ++ as ++ bs)) :
    ls.Covers (ids ++ (bs ++ as)) := by
  rw [List.append_assoc] at h
  exact h.perm (.append_left ids List.perm_append_comm)

/-- A fresh label covers one block of each of the kinds that share its scope. -/
theorem fresh (h : ls.Covers ids) (base : String) {kinds : List ComponentKind}
    (hnodup : (kinds.map ComponentKind.name).Nodup)
    (hscope : ∀ kind ∈ kinds, scopeOf kind.name = scope) :
    (ls.assign scope base).2.Covers (ids ++ kinds.map (labelled (ls.assign scope base).1)) := by
  have hnew := ls.assign_not_taken scope base
  refine ⟨List.nodup_append.2 ⟨h.nodup, ?_, ?_⟩, fun {name label} hid => ?_⟩
  · rw [List.Nodup, List.pairwise_map] at hnodup ⊢
    exact hnodup.imp fun hne heq => hne (congrArg Prod.fst heq)
  · rintro id hid id' hid' rfl
    obtain ⟨kind, hkind, rfl⟩ := List.mem_map.1 hid'
    have htaken := h.taken hid
    rw [hscope kind hkind] at htaken
    exact hnew htaken
  · rw [taken_assign]
    rcases List.mem_append.1 hid with hid | hid
    · exact List.mem_cons_of_mem _ (h.taken hid)
    · obtain ⟨kind, hkind, heq⟩ := List.mem_map.1 hid
      obtain ⟨rfl, hlabel⟩ := Prod.mk.inj heq
      rw [hscope kind hkind, Option.some.inj hlabel]
      exact List.mem_cons_self ..

/-- A fresh label of a kind's own covers a block of this kind. -/
theorem fresh_own (h : ls.Covers ids) {kind : ComponentKind} (base : String)
    (hscope : scopeOf kind.name = kind.name) :
    (ls.assign kind.name base).2.Covers (ids ++ [labelled (ls.assign kind.name base).1 kind]) := by
  have hnodup : ([kind].map ComponentKind.name).Nodup := by simp
  exact h.fresh base hnodup (by simpa using hscope)

/-- Labels handed out one by one, each in the scope of its kind, cover a block each. -/
theorem mapM_fresh {α : Type} (h : ls.Covers ids) (kind : α → ComponentKind) (base : α → String)
    {as : List α} (hscope : ∀ a ∈ as, scopeOf (kind a).name = (kind a).name) :
    let r := as.mapM (fun a => Labelling.fresh (kind a).name (base a)) ls
    r.2.Covers (ids ++ (as.zip r.1).map fun e => labelled e.2 (kind e.1)) := by
  induction as generalizing ls ids with
  | nil => simpa using h
  | cons a as ih =>
    have hfirst := h.fresh_own (base a) (hscope a (List.mem_cons_self ..))
    have hrest := ih hfirst fun b hb => hscope b (List.mem_cons_of_mem _ hb)
    simpa using hrest

end Covers

end Labels

/-! ## Work -/

namespace Labelling

/-- Whether work keeps the invariant when what it comes to is added. -/
def Keeps (w : Labelling Draft) : Prop :=
  ∀ {ls ids}, Labels.Covers ls ids → (w ls).2.Covers (ids ++ (w ls).1.identities)

theorem keeps_mapM {α : Type} {f : α → Labelling Draft} {as : List α}
    (h : ∀ a ∈ as, (f a).Keeps) {ls : Labels} {ids : List Identity} (hc : ls.Covers ids) :
    (as.mapM f ls).2.Covers (ids ++ (Draft.concat (as.mapM f ls).1).identities) := by
  induction as generalizing ls ids with
  | nil => simpa using hc
  | cons a as ih =>
    have hfirst := h a (List.mem_cons_self ..) hc
    have hrest := ih (fun b hb => h b (List.mem_cons_of_mem _ hb)) hfirst
    simpa using hrest

end Labelling

end AgentConvert
