import AgentConvert.Proofs.Identity.LogShipper
import AgentConvert.Proofs.References.LogShipper
import AgentConvert.Proofs.Routing.Basic
import AgentConvert.Proofs.Routing.Sources
import Mathlib.Data.List.Nodup

/-!
# The blocks of a job

A job has at most one block of each of its kinds, and which of them it has is a matter of its
sources, rules and stages (`ScrapeJob.plan`). Its draft has these blocks and no others
(`ScrapeJob.places_draft`), so a block of the job is the only one of its kind and label
(`ScrapeJob.blocksAt_draft`), and their number is the plan's (`ScrapeJob.length_blocksAt_draft`).
-/

namespace AgentConvert

open Argument

/-! ## Places -/

/-- The name and the label of a block. -/
def Block.place (b : Block) : List String × Option String := (b.name, b.label)

/-- The place of the block with this kind and label. -/
def placeOf (label : String) (kind : ComponentKind) : List String × Option String :=
  (kind.segments, some label)

/-- Of values that are told apart, one is all that is like it. -/
theorem filter_eq_singleton {α β : Type} [DecidableEq β] {f : α → β} {as : List α} {a : α}
    (hnodup : (as.map f).Nodup) (ha : a ∈ as) : as.filter (fun b => f b = f a) = [a] := by
  induction as with
  | nil => exact absurd ha List.not_mem_nil
  | cons b as ih =>
    rw [List.map_cons, List.nodup_cons] at hnodup
    rcases List.mem_cons.1 ha with rfl | ha
    · rw [List.filter_cons_of_pos (by simp), List.filter_eq_nil_iff.2 fun b hb => ?_]
      have hne : f b ≠ f a := fun heq => hnodup.1 (heq ▸ List.mem_map_of_mem hb)
      simpa using hne
    · have hne : f b ≠ f a := fun heq => hnodup.1 (heq ▸ List.mem_map_of_mem ha)
      rw [List.filter_cons_of_neg (by simpa using hne), ih hnodup.2 ha]

theorem blocksAt_eq_singleton {blocks : List Block} {kind : ComponentKind} {label : String}
    {b : Block} (hnodup : (blocks.map Block.place).Nodup) (hb : b ∈ blocks)
    (hplace : b.place = placeOf label kind) : blocksAt blocks kind label = [b] := by
  have hfilter := filter_eq_singleton hnodup hb
  rw [hplace] at hfilter
  rw [← hfilter]
  exact List.filter_congr fun c _ => by simp [Block.place, placeOf]

namespace Draft

variable {p : Special → Prop} {fields : Fields} {label : String}

@[simp] theorem blocks_when (condition : Bool) (d : Draft) :
    (Draft.when condition d).blocks = if condition then d.blocks else [] := by
  cases condition <;> rfl

theorem blocks_labelled (h : AreParts p fields) (kind : ComponentKind) (hl : label ≠ "") :
    (block kind label (.record fields)).blocks =
      [⟨kind.segments, some label, parts Special.render fields⟩] := by
  rw [block_eq h, if_neg hl]

theorem mem_labelled (h : AreParts p fields) (kind : ComponentKind) (hl : label ≠ "") :
    ⟨kind.segments, some label, parts Special.render fields⟩ ∈
      (block kind label (.record fields)).blocks := by
  rw [blocks_labelled h kind hl]
  exact List.mem_singleton_self _

end Draft

namespace LogShipper

variable {around : Surroundings} {job : ScrapeJob} {label : String}

/-! ## Which blocks a job has -/

namespace ScrapeJob

/-- The kinds of a job's blocks in their order, each with whether the job has a block of it. -/
def plan (job : ScrapeJob) : List (ComponentKind × Bool) :=
  [(Kind.discoveryRelabel, job.relabelsTargets), (Kind.fileMatch, job.readsFiles),
    (Kind.sourceFile, job.readsFiles)] ++
  Source.others.map (fun s => (s.kind, s.isIn job)) ++
  [(Kind.lokiRelabel, job.relabelsPulled), (Kind.process, !job.acceptedStages.isEmpty)]

theorem map_fst_plan (job : ScrapeJob) : job.plan.map Prod.fst = Kind.ofJob := rfl

/-- The kinds that a job has a block of. -/
def kinds (job : ScrapeJob) : List ComponentKind := (job.plan.filter Prod.snd).map Prod.fst

theorem nodup_kinds (job : ScrapeJob) : job.kinds.Nodup := by
  have hofJob : Kind.ofJob.Nodup := Kind.nodup_ofJob.of_map
  exact (List.filter_sublist.map Prod.fst).nodup hofJob

/-- Whether a job has a block of a kind is what the plan says. -/
theorem mem_kinds {kind : ComponentKind} {has : Bool} (h : (kind, has) ∈ job.plan) :
    kind ∈ job.kinds ↔ has = true := by
  have hofJob : (job.plan.map Prod.fst).Nodup := Kind.nodup_ofJob.of_map
  constructor
  · intro hkind
    obtain ⟨e, he, rfl⟩ := List.mem_map.1 hkind
    obtain ⟨hplan, hhas⟩ := List.mem_filter.1 he
    rw [List.inj_on_of_nodup_map hofJob hplan h rfl] at hhas
    exact hhas
  · rintro rfl
    exact List.mem_map.2 ⟨_, List.mem_filter.2 ⟨h, rfl⟩, rfl⟩

/-- The kinds of a job one by one. -/
theorem kinds_eq (job : ScrapeJob) : job.kinds =
    (if job.relabelsTargets then [Kind.discoveryRelabel] else []) ++
    (if job.readsFiles then [Kind.fileMatch, Kind.sourceFile] else []) ++
    (Source.others.filter (·.isIn job)).map Source.kind ++
    (if job.relabelsPulled then [Kind.lokiRelabel] else []) ++
    (if !job.acceptedStages.isEmpty then [Kind.process] else []) := by
  have hothers : (Source.others.map fun s => (s.kind, s.isIn job)).filter Prod.snd =
      (Source.others.filter (·.isIn job)).map fun s => (s.kind, s.isIn job) := List.filter_map
  rw [kinds, plan]
  simp only [List.filter_append, List.map_append, hothers, List.map_map, List.filter_cons,
    List.filter_nil]
  cases job.relabelsTargets <;> cases job.readsFiles <;> cases job.relabelsPulled <;>
    cases job.acceptedStages.isEmpty <;> simp [Function.comp_def]

/-! ## Its sources -/

/-- A job without a fault in its subscription has a block for each source that it has. -/
theorem isSome_block? (hmode : job.modeFault? = none) {s : Source} (hs : s ≠ .files) :
    (s.block? around job label).isSome = s.isIn job := by
  cases s with
  | files => exact absurd rfl hs
  | subscription =>
    rw [Source.block?, Source.isIn]
    rw [modeFault?] at hmode
    cases hsub : job.subscription with
    | none => rfl
    | some g =>
      rw [hsub, Option.bind_some] at hmode
      cases hg : g.mode? with
      | none => rw [hg] at hmode; exact absurd hmode (by simp)
      | some mode => simp [hg]
  | gelf | heroku | api | syslog | cloudflare | eventLog => exact Option.isSome_map

theorem mem_sources {s : Source} {b : SourceBlock} (h : b ∈ s.block? around job label) :
    b ∈ job.sources around label := by
  have hs : s ∈ Source.others := by
    cases s with
    | files => exact absurd h (by simp [Source.block?])
    | _ => decide
  rw [Source.sources_eq]
  exact List.mem_filterMap.2 ⟨s, hs, h⟩

/-- What the fields of a source use. -/
theorem areParts_source {b : SourceBlock} (h : b ∈ job.sources around label) :
    AreParts (Special.Uses (job.references around label) job.holes) b.arguments :=
  areParts_sources h (fun path hpath => receivers_subset hpath) (fun hr => by simp [holes, hr])
    fun hp => by simp [holes, hp]

theorem blocks_sourceDraft {b : SourceBlock} (h : b ∈ job.sources around label) (hl : label ≠ "") :
    (job.sourceDraft around label b).blocks = [⟨b.kind.segments, some label,
      parts (renderBy (job.fillIn around label)) b.arguments⟩] := by
  rw [sourceDraft, Draft.blocks_append, Draft.blocks_report, List.nil_append,
    Draft.blocks_blockWith _ (areParts_source h), if_neg hl]

theorem mem_sourceDraft {b : SourceBlock} (h : b ∈ job.sources around label) (hl : label ≠ "") :
    ⟨b.kind.segments, some label, parts (renderBy (job.fillIn around label)) b.arguments⟩ ∈
      (job.sourceDraft around label b).blocks := by
  rw [blocks_sourceDraft h hl]
  exact List.mem_singleton_self _

theorem places_sources (hmode : job.modeFault? = none) (hl : label ≠ "") {ss : List Source}
    (hss : .files ∉ ss) :
    ((ss.filterMap (Source.block? around job label)).flatMap fun b =>
        (job.sourceDraft around label b).blocks.map Block.place) =
      (ss.filter (·.isIn job)).map fun s => placeOf label s.kind := by
  induction ss with
  | nil => rfl
  | cons s ss ih =>
    rw [List.mem_cons, not_or] at hss
    have hsome := @isSome_block? around job label hmode s (Ne.symm hss.1)
    cases hb : s.block? around job label with
    | none =>
      rw [hb] at hsome
      rw [List.filterMap_cons_none hb, List.filter_cons_of_neg (by simp [← hsome]), ih hss.2]
    | some b =>
      rw [hb] at hsome
      rw [List.filterMap_cons_some hb, List.flatMap_cons, ih hss.2,
        List.filter_cons_of_pos (by simp [← hsome]), List.map_cons,
        blocks_sourceDraft (mem_sources hb) hl, ← Source.kind_block? hb]
      rfl

/-! ## Its draft -/

theorem mem_draft {b : Block} : b ∈ (job.draft around label).blocks ↔
    (job.relabelsTargets = true ∧ b ∈ (job.targetRules label).blocks) ∨
    (job.readsFiles = true ∧ b ∈ (job.files around label).blocks) ∨
    (∃ s ∈ job.sources around label, b ∈ (job.sourceDraft around label s).blocks) ∨
    (job.relabelsPulled = true ∧ b ∈ (job.pulledRules around label).blocks) ∨
    (job.acceptedStages ≠ [] ∧ b ∈ (job.processing around label).blocks) := by
  simp [draft]

/-- The blocks of a job are those of its plan. -/
theorem places_draft (hmode : job.modeFault? = none) (hl : label ≠ "") :
    (job.draft around label).blocks.map Block.place = job.kinds.map (placeOf label) := by
  have hrules : (job.targetRules label).blocks.map Block.place =
      [placeOf label Kind.discoveryRelabel] := by
    rw [targetRules, Draft.blocks_labelled (areParts_targetRules [] job) _ hl]
    rfl
  have hfiles : job.readsFiles = true → (job.files around label).blocks.map Block.place =
      [placeOf label Kind.fileMatch, placeOf label Kind.sourceFile] := fun h => by
    rw [files, Draft.blocks_append, Draft.blocks_labelled (areParts_fileMatch h) _ hl,
      Draft.blocks_labelled (areParts_sourceFile h) _ hl]
    rfl
  have hsources : (Draft.concat ((job.sources around label).map
      (job.sourceDraft around label))).blocks.map Block.place =
      (Source.others.filter (·.isIn job)).map fun s => placeOf label s.kind := by
    have hothers : Source.files ∉ Source.others := by decide
    rw [← places_sources hmode hl hothers, Draft.blocks_concat, List.flatMap_map,
      List.map_flatMap, Source.sources_eq]
  have hpulled : (job.pulledRules around label).blocks.map Block.place =
      [placeOf label Kind.lokiRelabel] := by
    rw [pulledRules, Draft.blocks_labelled areParts_pulledRules _ hl]
    rfl
  have hstages : (job.processing around label).blocks.map Block.place =
      [placeOf label Kind.process] := by
    rw [processing, Draft.blocks_labelled areParts_processing _ hl]
    rfl
  have hwhen : ∀ (condition : Bool) (d : Draft) (ps : List (List String × Option String)),
      (condition = true → d.blocks.map Block.place = ps) →
      (Draft.when condition d).blocks.map Block.place = if condition then ps else [] := by
    intro condition d ps h
    cases condition with
    | false => rfl
    | true => exact h rfl
  simp only [draft, Draft.blocks_append, Draft.blocks_report, List.nil_append, List.map_append,
    hwhen _ _ _ fun _ => hrules, hwhen _ _ _ hfiles, hsources, hwhen _ _ _ fun _ => hpulled,
    hwhen _ _ _ fun _ => hstages]
  simp only [kinds_eq, List.map_append, List.map_map, apply_ite (List.map (placeOf label))]
  rfl

theorem nodup_places_draft (hmode : job.modeFault? = none) (hl : label ≠ "") :
    ((job.draft around label).blocks.map Block.place).Nodup := by
  rw [places_draft hmode hl]
  refine job.nodup_kinds.map fun kind kind' heq => ?_
  cases kind
  cases kind'
  exact congrArg ComponentKind.mk (Prod.mk.inj heq).1

/-- A block of the job is the only one of its kind with the job's label. -/
theorem blocksAt_draft (hmode : job.modeFault? = none) (hl : label ≠ "") {kind : ComponentKind}
    {b : Block} (hb : b ∈ (job.draft around label).blocks) (hplace : b.place = placeOf label kind) :
    blocksAt (job.draft around label).blocks kind label = [b] :=
  blocksAt_eq_singleton (nodup_places_draft hmode hl) hb hplace

/-- A job has as many blocks of a kind as the plan says. -/
theorem length_blocksAt_draft (hmode : job.modeFault? = none) (hl : label ≠ "")
    {kind : ComponentKind} {has : Bool} (h : (kind, has) ∈ job.plan) :
    (blocksAt (job.draft around label).blocks kind label).length = if has then 1 else 0 := by
  have hkind := mem_kinds h
  have hplaces := @places_draft around job label hmode hl
  cases has with
  | true =>
    have hplace : placeOf label kind ∈ job.kinds.map (placeOf label) :=
      List.mem_map_of_mem (hkind.2 rfl)
    rw [← hplaces] at hplace
    obtain ⟨b, hb, hplace⟩ := List.mem_map.1 hplace
    rw [blocksAt_eq_singleton (nodup_places_draft hmode hl) hb hplace]
    rfl
  | false =>
    rw [blocksAt_eq_nil fun b hb hname hlabel => ?_]
    · rfl
    have hplace : b.place ∈ job.kinds.map (placeOf label) := by
      rw [← hplaces]
      exact List.mem_map_of_mem hb
    obtain ⟨kind', hkind', heq⟩ := List.mem_map.1 hplace
    obtain rfl : kind' = kind := by
      cases kind
      cases kind'
      exact congrArg ComponentKind.mk ((Prod.mk.inj heq).1.trans hname)
    exact Bool.false_ne_true (hkind.1 hkind')

end ScrapeJob

end LogShipper

end AgentConvert
