import AgentConvert.Proofs.Argument.Nested
import AgentConvert.Proofs.Routing.Blocks

/-!
# The routes of a job

What comes from a source of a job reaches every client and nothing else, through the job's stages
if it has any, and its relabel rules are applied once on the way (`ScrapeJob.IsRouted`). This is so
in every document that has the job's blocks under a label of their own (`ScrapeJob.IsPlaced`,
`ScrapeJob.IsPlaced.isRouted`).

The routes are found from their ends: those of a block that forwards to the clients
(`ScrapeJob.IsPlaced.route_writers`), of one that forwards to the stages or past them
(`ScrapeJob.IsPlaced.route_receivers`), and of one that forwards to the rules for sources that pull
or past them (`ScrapeJob.IsPlaced.route_pulledReceivers`).
-/

namespace AgentConvert.LogShipper

open Argument

/-! ## What is applied -/

/-- Whether a rule can be applied: its action, if it names one, is known in any case of letters, its
pattern is a regular expression, and a rule that hashes has a modulus other than zero. -/
structure IsApplicable (r : RelabelRule) : Prop where
  action : ∀ a ∈ r.action, Text.lowercase a ∈ RelabelRule.actions
  pattern : ∀ p ∈ r.regex, Pattern.fault? p = none
  modulus : r.action.map Text.lowercase = some "hashmod" → ∃ m, r.modulus = some m ∧ m ≠ 0

theorem isApplicable_iff (r : RelabelRule) : IsApplicable r ↔ r.fault? = none := by
  have haction : r.actionFault? = none ↔
      ∀ a ∈ r.action, Text.lowercase a ∈ RelabelRule.actions := by
    simp [RelabelRule.actionFault?, Option.filter_eq_none_iff]
  have hpattern : r.patternFault? = none ↔ ∀ p ∈ r.regex, Pattern.fault? p = none := by
    simp [RelabelRule.patternFault?, Option.bind_eq_none_iff]
  have hmodulus : r.modulusFault? = none ↔
      (r.action.map Text.lowercase = some "hashmod" → ∃ m, r.modulus = some m ∧ m ≠ 0) := by
    rw [RelabelRule.modulusFault?]
    cases r.modulus <;> simp
  rw [RelabelRule.fault?, Option.or_eq_none_iff, Option.or_eq_none_iff, haction, hpattern,
    hmodulus]
  exact ⟨fun h => ⟨h.action, h.pattern, h.modulus⟩, fun ⟨ha, hp, hm⟩ => ⟨ha, hp, hm⟩⟩

instance : DecidablePred IsApplicable := fun r => decidable_of_iff _ (isApplicable_iff r).symm

/-- The relabel rules of the job that can be applied, in order. -/
def ScrapeJob.applicableRules (job : ScrapeJob) : List RelabelRule :=
  job.relabelRules.filter fun r => IsApplicable r

/-- The stages that the values in the job's pipeline are read as, in order. A value that cannot be
read is passed over. -/
def ScrapeJob.readStages (job : ScrapeJob) : List Stage :=
  job.stages.filterMap fun v => (Stage.ofValue v).toOption

/-- The rules that are applied are those that can be. -/
theorem ScrapeJob.applicableRules_eq (job : ScrapeJob) : job.applicableRules = job.rules := by
  rw [applicableRules, rules, RelabelRule.accepted]
  refine List.filter_congr fun r _ => Bool.eq_iff_iff.2 ?_
  rw [decide_eq_true_eq, isApplicable_iff, Option.isNone_iff_eq_none]

/-- The stages that entries pass are those that can be read. -/
theorem ScrapeJob.readStages_eq (job : ScrapeJob) : job.readStages = job.acceptedStages := rfl

/-! ## What routing means -/

/-- Whether a document takes what comes from the sources of a job, under its label, through the
job's rules and stages to `writes`. -/
structure ScrapeJob.IsRouted (document writes : List Block) (job : ScrapeJob) (label : String) :
    Prop where
  /-- There is one block for each source of the job, and none for other sources. -/
  sources : ∀ s : Source,
    (blocksAt document s.kind label).length = if s.isIn job then 1 else 0
  /-- Files are searched for by one block. -/
  search : (blocksAt document Kind.fileMatch label).length =
    if Source.files.isIn job then 1 else 0
  /-- One block holds the stages, if there are any. -/
  stages : (blocksAt document Kind.process label).length =
    if job.readStages = [] then 0 else 1
  /-- One block holds the rules for sources that do not pull, if there are both. -/
  targetRules : (blocksAt document Kind.discoveryRelabel label).length =
    if job.applicableRules ≠ [] ∧ ∃ s ∈ Source.all, s.isIn job = true ∧ s.pulls = false
    then 1 else 0
  /-- One block holds the rules for sources that pull, if there are both. -/
  pulledRules : (blocksAt document Kind.lokiRelabel label).length =
    if job.applicableRules ≠ [] ∧ ∃ s ∈ Source.all, s.isIn job = true ∧ s.pulls = true
    then 1 else 0
  /-- A route from a source leads to one of `writes`, past the stages, and before them past the
  rules if the source pulls. Such a route leads to each of `writes`. -/
  routes : ∀ s : Source, ∀ b ∈ blocksAt document s.kind label, ∀ way,
    Route document b way ↔ ∃ w ∈ writes, way =
      (if s.pulls then blocksAt document Kind.lokiRelabel label else []) ++
      blocksAt document Kind.process label ++ [w]
  /-- The stages are those that can be read, in order. -/
  readStages : ∀ b ∈ blocksAt document Kind.process label,
    b.blocks = job.readStages.flatMap fun s => Body.blocks (s.block.part Special.render "stage")
  /-- The rules are those that can be applied, in order. -/
  rules : ∀ b ∈ blocksAt document Kind.discoveryRelabel label ++
      blocksAt document Kind.lokiRelabel label,
    b.blocks = job.applicableRules.flatMap fun r => Body.blocks (r.block.part Special.render "rule")
  /-- Sources that are pushed to, and no others, apply the rules themselves, if there are any. -/
  pushedRules : ∀ s : Source, ∀ b ∈ blocksAt document s.kind label,
    b.attribute? "relabel_rules" =
      if s.isPushedTo = true ∧ job.applicableRules ≠ [] then
        some (Kind.discoveryRelabel.reference label "rules")
      else none
  /-- The rules for targets apply to those that the job lists. -/
  listed : ∀ b ∈ blocksAt document Kind.discoveryRelabel label, b.attribute? "targets" =
    some (Special.render (.targets (TargetGroup.listed job.targetGroups)))
  /-- Files are searched for at what the rules make of these targets, or else at the targets
  themselves. -/
  paths : ∀ b ∈ blocksAt document Kind.fileMatch label, b.attribute? "path_targets" =
    if job.applicableRules = [] then
      some (Special.render (.targets (TargetGroup.listed job.targetGroups)))
    else some (Kind.discoveryRelabel.reference label "output")
  /-- The files that are found are read. -/
  found : ∀ b ∈ blocksAt document Kind.sourceFile label,
    b.attribute? "targets" = some (Kind.fileMatch.reference label "targets")

namespace ScrapeJob

variable {around : Surroundings} {job : ScrapeJob} {label : String}

/-! ## When rules apply -/

theorem exists_pulling_iff :
    (∃ s ∈ Source.all, s.isIn job = true ∧ s.pulls = true) ↔ job.pulls = true := by
  simp [Source.all, Source.others, Source.isIn, Source.pulls, pulls]

theorem exists_not_pulling_iff :
    (∃ s ∈ Source.all, s.isIn job = true ∧ s.pulls = false) ↔
      (job.readsFiles || job.isPushedTo) = true := by
  simp [Source.all, Source.others, Source.isIn, Source.pulls, isPushedTo, or_assoc]

theorem relabelsTargets_iff : job.relabelsTargets = true ↔
    job.rules ≠ [] ∧ ∃ s ∈ Source.all, s.isIn job = true ∧ s.pulls = false := by
  rw [exists_not_pulling_iff, relabelsTargets, Bool.and_eq_true]
  simp

theorem relabelsPulled_iff : job.relabelsPulled = true ↔
    job.rules ≠ [] ∧ ∃ s ∈ Source.all, s.isIn job = true ∧ s.pulls = true := by
  rw [exists_pulling_iff, relabelsPulled, Bool.and_eq_true]
  simp

/-- A source that does not pull has the rules applied in front of it or in it. -/
theorem relabelsTargets_of_isIn {s : Source} (hs : s.isIn job = true) (hpulls : s.pulls = false) :
    job.relabelsTargets = true ↔ job.rules ≠ [] := by
  rw [relabelsTargets_iff]
  exact and_iff_left ⟨s, s.mem_all, hs, hpulls⟩

/-! ## The blocks -/

theorem blocks_rules (f : Special → Expr) (rules : List RelabelRule) :
    Body.blocks (parts f (Field.always "rule" (RelabelRule.blocks rules))) =
      rules.flatMap fun r => Body.blocks (r.block.part f "rule") := by
  have hrule : ∀ r : RelabelRule,
      r.block.isBlock = true ∧ r.block.IsPart (Special.Uses [] []) := fun r =>
    ⟨rfl, by simp [RelabelRule.block]⟩
  exact blocks_list f "rule" hrule rules

theorem blocks_stages (f : Special → Expr) (stages : List Stage) :
    Body.blocks (parts f (Field.always "stage" (.list (stages.map Stage.block)))) =
      stages.flatMap fun s => Body.blocks (s.block.part f "stage") := by
  have hstage : ∀ s : Stage,
      s.block.isBlock = true ∧ s.block.IsPart (Special.Uses [] []) := fun s =>
    ⟨rfl, rfl, s.areParts_fields⟩
  exact blocks_list f "stage" hstage stages

/-- The block with the rules for targets and for sources that are pushed to. -/
theorem exists_targetRules (hl : label ≠ "") (h : job.relabelsTargets = true) :
    ∃ b ∈ (job.draft around label).blocks, b.place = placeOf label Kind.discoveryRelabel ∧
      b.attribute? "targets" =
        some (Special.render (.targets (TargetGroup.listed job.targetGroups))) ∧
      b.blocks = job.rules.flatMap fun r =>
        Body.blocks (r.block.part Special.render "rule") := by
  have hrules : AreParts (Special.Uses [] [])
      (Field.always "rule" (RelabelRule.blocks job.rules)) := by simp
  have hmem := Draft.mem_labelled (areParts_targetRules [] job) Kind.discoveryRelabel hl
  refine ⟨_, mem_draft.2 (.inl ⟨h, hmem⟩), rfl, ?_, ?_⟩
  · rw [Block.attribute?_mk, attribute?_drop _ hrules (by simp (disch := decide))]
    exact attribute?_targets _
  · rw [Block.blocks_mk, blocks_value _ _ (isValue_targets _), blocks_rules]

/-- The block with the rules for sources that pull. -/
theorem exists_pulledRules (hl : label ≠ "") (h : job.relabelsPulled = true) :
    ∃ b ∈ (job.draft around label).blocks, b.place = placeOf label Kind.lokiRelabel ∧
      b.attribute? "forward_to" =
        some (.array ((job.receivers around label).map Expr.ofDotted)) ∧
      b.blocks = job.rules.flatMap fun r =>
        Body.blocks (r.block.part Special.render "rule") := by
  have hrules : AreParts (Special.Uses [] [])
      (Field.always "rule" (RelabelRule.blocks job.rules)) := by simp
  have hmem := Draft.mem_labelled (@areParts_pulledRules around job label) Kind.lokiRelabel hl
  refine ⟨_, mem_draft.2 (.inr (.inr (.inr (.inl ⟨h, hmem⟩)))), rfl, ?_, ?_⟩
  · rw [Block.attribute?_mk, attribute?_drop _ hrules (by simp (disch := decide))]
    exact attribute?_references _
  · rw [Block.blocks_mk, blocks_value _ _ (isValue_references _), blocks_rules]

/-- The block with the stages. -/
theorem exists_processing (hl : label ≠ "") (h : job.acceptedStages ≠ []) :
    ∃ b ∈ (job.draft around label).blocks, b.place = placeOf label Kind.process ∧
      b.attribute? "forward_to" = some (.array (around.writers.map Expr.ofDotted)) ∧
      b.blocks = job.acceptedStages.flatMap fun s =>
        Body.blocks (s.block.part Special.render "stage") := by
  have hstages : AreParts (Special.Uses [] [])
      (Field.always "stage" (.list (job.acceptedStages.map Stage.block))) := by simp
  have hmem := Draft.mem_labelled (@areParts_processing around job) Kind.process hl
  refine ⟨_, mem_draft.2 (.inr (.inr (.inr (.inr ⟨h, hmem⟩)))), rfl, ?_, ?_⟩
  · rw [Block.attribute?_mk, attribute?_drop _ hstages (by simp (disch := decide))]
    exact attribute?_references _
  · rw [Block.blocks_mk, blocks_value _ _ (isValue_references _), blocks_stages]

/-- The block that searches for files. -/
theorem exists_fileMatch (hl : label ≠ "") (h : job.readsFiles = true) :
    ∃ b ∈ (job.draft around label).blocks, b.place = placeOf label Kind.fileMatch ∧
      b.attribute? "path_targets" =
        if job.relabelsTargets = true then
          some (.ofDotted (Kind.discoveryRelabel.exportPath label "output"))
        else some (Special.render (.targets (TargetGroup.listed job.targetGroups))) := by
  have hperiod : AreParts (Special.Uses [] [])
      (Field.optional "sync_period" .duration around.syncPeriod) := by simp
  have hmem := Draft.mem_labelled (@areParts_fileMatch around job label h) Kind.fileMatch hl
  refine ⟨_, mem_draft.2 (.inr (.inl ⟨h, List.mem_append_left _ hmem⟩)), rfl, ?_⟩
  rw [Block.attribute?_mk, attribute?_drop _ hperiod (by simp (disch := decide)), pathSource]
  split
  · exact attribute?_reference _
  · exact attribute?_targets _

/-- The block that reads files. -/
theorem exists_sourceFile (hl : label ≠ "") (h : job.readsFiles = true) :
    ∃ b ∈ (job.draft around label).blocks, b.place = placeOf label Kind.sourceFile ∧
      b.attribute? "targets" =
        some (.ofDotted (Kind.fileMatch.exportPath label "targets")) ∧
      b.attribute? "forward_to" =
        some (.array ((job.receivers around label).map Expr.ofDotted)) ∧
      b.attribute? "relabel_rules" = none := by
  have hparts := @areParts_sourceFile around job label h
  have hbehind := ((areParts_append _ _).1 hparts).2
  have hfront := (areParts_append _ _).1 ((areParts_append _ _).1 hparts).1
  have hmem := Draft.mem_labelled hparts Kind.sourceFile hl
  refine ⟨_, mem_draft.2 (.inr (.inl ⟨h, List.mem_append_right _ hmem⟩)), rfl, ?_, ?_,
    attribute?_parts_of_lacks hparts (by simp (disch := decide))⟩
  · rw [Block.attribute?_mk, attribute?_drop _ hbehind (by simp (disch := decide)),
      attribute?_drop _ hfront.2 (by simp (disch := decide))]
    exact attribute?_reference _
  · rw [Block.attribute?_mk, attribute?_drop _ hbehind (by simp (disch := decide)),
      attribute?_skip _ hfront.1 (by simp (disch := decide))]
    exact attribute?_references _

/-- Where a source of the job forwards to. -/
def receiversOf (around : Surroundings) (job : ScrapeJob) (label : String) (s : Source) :
    List String :=
  if s.pulls then job.pulledReceivers around label else job.receivers around label

/-- The block of a source. -/
theorem exists_source (hmode : job.modeFault? = none) (hl : label ≠ "") {s : Source}
    (h : s.isIn job = true) :
    ∃ b ∈ (job.draft around label).blocks, b.place = placeOf label s.kind ∧
      b.attribute? "forward_to" =
        some (.array ((job.receiversOf around label s).map Expr.ofDotted)) ∧
      b.attribute? "relabel_rules" =
        if s.isPushedTo = true ∧ job.relabelsTargets = true then
          some (.ofDotted (Kind.discoveryRelabel.exportPath label "rules"))
        else none := by
  by_cases hs : s = .files
  · subst hs
    obtain ⟨b, hmem, hplace, -, hforward, hrules⟩ := @exists_sourceFile around job label hl h
    exact ⟨b, hmem, hplace, hforward, by simpa [Source.isPushedTo] using hrules⟩
  have hsome := @isSome_block? around job label hmode s hs
  rw [h] at hsome
  obtain ⟨b, hb⟩ := Option.isSome_iff_exists.1 hsome
  have hmem := mem_sourceDraft (mem_sources hb) hl
  rw [← Source.kind_block? hb]
  refine ⟨_, mem_draft.2 (.inr (.inr (.inl ⟨b, mem_sources hb, hmem⟩))), rfl, ?_⟩
  rw [Block.attribute?_mk, Block.attribute?_mk]
  cases hpulls : s.pulls with
  | true =>
    have hpushed : s.isPushedTo = false := by
      cases s <;> first | rfl | exact absurd hpulls Bool.false_ne_true
    obtain ⟨hforward, hrules⟩ := Source.forwards_block? hpulls hb
    refine ⟨?_, by simpa [hpushed] using hrules⟩
    rw [hforward, receiversOf, hpulls]
    rfl
  | false =>
    have hpushed : s.isPushedTo = true := by
      cases s <;> first | rfl | exact absurd rfl hs | exact absurd hpulls (by decide)
    obtain ⟨hforward, hrules⟩ := Source.feeds_block? hpushed hb
    refine ⟨?_, ?_⟩
    · rw [hforward, receiversOf, hpulls]
      rfl
    · rw [hrules, outlet, hpushed]
      cases job.relabelsTargets <;> rfl

/-! ## Jobs in documents -/

/-- Whether a document has the blocks of a job under its label, and no others of a job's kinds, and
`writes` where the job forwards to. -/
structure IsPlaced (document writes : List Block) (around : Surroundings) (job : ScrapeJob)
    (label : String) : Prop where
  mode : job.modeFault? = none
  identifier : isIdentifier label = true
  own : ∀ kind ∈ Kind.ofJob,
    blocksAt document kind label = blocksAt (job.draft around label).blocks kind label
  writers : ∃ labels : List String,
    around.writers = labels.map (Kind.write.exportPath · "receiver") ∧
    (∀ l ∈ labels, isIdentifier l = true) ∧
    ∀ w, w ∈ writes ↔ ∃ l ∈ labels, w ∈ blocksAt document Kind.write l
  ends : ∀ w ∈ writes, w.attribute? "forward_to" = none

namespace IsPlaced

variable {document writes way : List Block} {b : Block}

/-- The document has the blocks of a kind that the plan says. -/
theorem length_blocksAt (h : job.IsPlaced document writes around label) {kind : ComponentKind}
    {has : Bool} (hplan : (kind, has) ∈ job.plan) :
    (blocksAt document kind label).length = if has then 1 else 0 := by
  have hkind : kind ∈ Kind.ofJob := by
    rw [← map_fst_plan]
    exact List.mem_map_of_mem hplan
  rw [h.own kind hkind]
  exact length_blocksAt_draft h.mode (ne_of_isIdentifier h.identifier) hplan

/-- A block of the job's is the only one of its kind in the document. -/
theorem blocksAt_eq (h : job.IsPlaced document writes around label) {kind : ComponentKind}
    (hkind : kind ∈ Kind.ofJob) (hb : b ∈ (job.draft around label).blocks)
    (hplace : b.place = placeOf label kind) : blocksAt document kind label = [b] := by
  rw [h.own kind hkind]
  exact blocksAt_draft h.mode (ne_of_isIdentifier h.identifier) hb hplace

/-- What is true of the block that the job has of a kind is true of each such block of the
document. -/
theorem forall_mem_blocksAt (h : job.IsPlaced document writes around label) {kind : ComponentKind}
    {has : Bool} (hplan : (kind, has) ∈ job.plan) {P : Block → Prop}
    (hblock : has = true →
      ∃ b ∈ (job.draft around label).blocks, b.place = placeOf label kind ∧ P b) :
    ∀ b ∈ blocksAt document kind label, P b := by
  intro b hb
  have hlength := h.length_blocksAt hplan
  cases has with
  | false => exact absurd hb (List.eq_nil_of_length_eq_zero hlength ▸ List.not_mem_nil)
  | true =>
    obtain ⟨c, hmem, hplace, hc⟩ := hblock rfl
    have hkind : kind ∈ Kind.ofJob := by
      rw [← map_fst_plan]
      exact List.mem_map_of_mem hplan
    rw [h.blocksAt_eq hkind hmem hplace] at hb
    obtain rfl := List.mem_singleton.1 hb
    exact hc

/-! ## Routes -/

/-- From a block that forwards to the clients each of them is next, and last. -/
theorem route_writers (h : job.IsPlaced document writes around label)
    (hb : b.attribute? "forward_to" = some (.array (around.writers.map Expr.ofDotted))) :
    Route document b way ↔ ∃ w ∈ writes, way = [w] := by
  obtain ⟨labels, hwriters, hlabels, hwrites⟩ := h.writers
  have hends : b.attribute? "forward_to" = some (.array
      ((labels.map fun l => (Kind.write, l)).map fun e => e.1.reference e.2 "receiver")) := by
    rw [hb, hwriters, List.map_map, List.map_map]
    refine congrArg (fun receivers => some (Expr.array receivers)) ?_
    refine List.map_congr_left fun l hl => ?_
    exact ComponentKind.ofDotted_exportPath (by decide) (hlabels l hl) (by decide)
  rw [Route.iff_of_forwards hends]
  constructor
  · rintro ⟨e, he, w, hw, rest, rfl, hroute⟩
    obtain ⟨l, hl, rfl⟩ := List.mem_map.1 he
    have hmem : w ∈ writes := (hwrites w).2 ⟨l, hl, hw⟩
    rw [Route.iff_nil (h.ends w hmem)] at hroute
    exact ⟨w, hmem, by rw [hroute]⟩
  · rintro ⟨w, hmem, rfl⟩
    obtain ⟨l, hl, hw⟩ := (hwrites w).1 hmem
    exact ⟨_, List.mem_map_of_mem hl, w, hw, [], rfl, (Route.iff_nil (h.ends w hmem)).2 rfl⟩

/-- From a block that forwards past the stages each client is reached through them. -/
theorem route_receivers (h : job.IsPlaced document writes around label)
    (hb : b.attribute? "forward_to" =
      some (.array ((job.receivers around label).map Expr.ofDotted))) :
    Route document b way ↔
      ∃ w ∈ writes, way = blocksAt document Kind.process label ++ [w] := by
  have hplan : (Kind.process, !job.acceptedStages.isEmpty) ∈ job.plan := by simp [plan]
  by_cases hstages : job.acceptedStages = []
  · have hnil : blocksAt document Kind.process label = [] := by
      have hlength := h.length_blocksAt hplan
      rw [hstages] at hlength
      exact List.eq_nil_of_length_eq_zero hlength
    rw [receivers, hstages] at hb
    rw [hnil]
    exact h.route_writers hb
  · obtain ⟨c, hmem, hplace, hforward, -⟩ :=
      @exists_processing around job label (ne_of_isIdentifier h.identifier) hstages
    have hprocess := h.blocksAt_eq (by simp [Kind.ofJob]) hmem hplace
    have hone : b.attribute? "forward_to" =
        some (.array [Kind.process.reference label "receiver"]) := by
      rw [hb, receivers, if_neg (by simpa using hstages), List.map_singleton,
        ComponentKind.ofDotted_exportPath (by decide) h.identifier (by decide)]
    rw [hprocess]
    exact Route.iff_ends_of_forwards_one hone hprocess fun _ => h.route_writers hforward

/-- From a source that pulls each client is reached through the rules for such sources, and then
the stages. -/
theorem route_pulledReceivers (h : job.IsPlaced document writes around label)
    (hb : b.attribute? "forward_to" =
      some (.array ((job.pulledReceivers around label).map Expr.ofDotted))) :
    Route document b way ↔ ∃ w ∈ writes, way = blocksAt document Kind.lokiRelabel label ++
      blocksAt document Kind.process label ++ [w] := by
  have hplan : (Kind.lokiRelabel, job.relabelsPulled) ∈ job.plan := by simp [plan]
  have hlength := h.length_blocksAt hplan
  rw [pulledReceivers] at hb
  cases hrules : job.relabelsPulled with
  | false =>
    rw [hrules] at hb hlength
    rw [List.eq_nil_of_length_eq_zero hlength]
    exact h.route_receivers hb
  | true =>
    obtain ⟨c, hmem, hplace, hforward, -⟩ :=
      @exists_pulledRules around job label (ne_of_isIdentifier h.identifier) hrules
    have hrelabel := h.blocksAt_eq (by simp [Kind.ofJob]) hmem hplace
    have hone : b.attribute? "forward_to" =
        some (.array [Kind.lokiRelabel.reference label "receiver"]) := by
      rw [hb, hrules, if_pos rfl, List.map_singleton,
        ComponentKind.ofDotted_exportPath (by decide) h.identifier (by decide)]
    rw [hrelabel]
    exact Route.iff_ends_of_forwards_one hone hrelabel fun _ => h.route_receivers hforward

/-- The routes from a source. -/
theorem route_source (h : job.IsPlaced document writes around label) {s : Source}
    (hb : b.attribute? "forward_to" =
      some (.array ((job.receiversOf around label s).map Expr.ofDotted))) :
    Route document b way ↔ ∃ w ∈ writes, way =
      (if s.pulls then blocksAt document Kind.lokiRelabel label else []) ++
      blocksAt document Kind.process label ++ [w] := by
  rw [receiversOf] at hb
  cases hpulls : s.pulls with
  | true =>
    rw [hpulls] at hb
    exact h.route_pulledReceivers hb
  | false =>
    rw [hpulls] at hb
    exact h.route_receivers hb

/-- A job is routed in every document in which it is placed. -/
theorem isRouted (h : job.IsPlaced document writes around label) :
    job.IsRouted document writes label := by
  have hl := ne_of_isIdentifier h.identifier
  have hsource : ∀ s : Source, (s.kind, s.isIn job) ∈ job.plan := fun s => by
    cases s <;> simp [plan, Source.others, Source.kind, Source.isIn]
  have hplanTargets : (Kind.discoveryRelabel, job.relabelsTargets) ∈ job.plan := by simp [plan]
  have hplanSearch : (Kind.fileMatch, job.readsFiles) ∈ job.plan := by simp [plan]
  have hplanPulled : (Kind.lokiRelabel, job.relabelsPulled) ∈ job.plan := by simp [plan]
  have hplanStages : (Kind.process, !job.acceptedStages.isEmpty) ∈ job.plan := by simp [plan]
  have hexported : ∀ field, isIdentifier field = true →
      Expr.ofDotted (Kind.discoveryRelabel.exportPath label field) =
        Kind.discoveryRelabel.reference label field := fun field hf =>
    ComponentKind.ofDotted_exportPath (by decide) h.identifier hf
  constructor
  case sources => exact fun s => h.length_blocksAt (hsource s)
  case search => exact h.length_blocksAt hplanSearch
  case stages =>
    rw [readStages_eq, h.length_blocksAt hplanStages]
    simp
  case targetRules =>
    rw [applicableRules_eq, h.length_blocksAt hplanTargets]
    exact if_congr relabelsTargets_iff rfl rfl
  case pulledRules =>
    rw [applicableRules_eq, h.length_blocksAt hplanPulled]
    exact if_congr relabelsPulled_iff rfl rfl
  case routes =>
    refine fun s => h.forall_mem_blocksAt (hsource s) fun hs => ?_
    obtain ⟨b, hmem, hplace, hforward, -⟩ := @exists_source around job label h.mode hl s hs
    exact ⟨b, hmem, hplace, fun way => h.route_source hforward⟩
  case readStages =>
    rw [readStages_eq]
    refine h.forall_mem_blocksAt hplanStages fun hs => ?_
    obtain ⟨b, hmem, hplace, -, hblocks⟩ :=
      @exists_processing around job label hl (by simpa using hs)
    exact ⟨b, hmem, hplace, hblocks⟩
  case rules =>
    rw [applicableRules_eq]
    refine List.forall_mem_append.2 ⟨h.forall_mem_blocksAt hplanTargets fun hs => ?_,
      h.forall_mem_blocksAt hplanPulled fun hs => ?_⟩
    · obtain ⟨b, hmem, hplace, -, hblocks⟩ := @exists_targetRules around job label hl hs
      exact ⟨b, hmem, hplace, hblocks⟩
    · obtain ⟨b, hmem, hplace, -, hblocks⟩ := @exists_pulledRules around job label hl hs
      exact ⟨b, hmem, hplace, hblocks⟩
  case pushedRules =>
    rw [applicableRules_eq]
    refine fun s => h.forall_mem_blocksAt (hsource s) fun hs => ?_
    obtain ⟨b, hmem, hplace, -, hrules⟩ := @exists_source around job label h.mode hl s hs
    refine ⟨b, hmem, hplace, hrules.trans ?_⟩
    rw [hexported _ (by decide)]
    refine if_congr (and_congr_right fun hpushed => ?_) rfl rfl
    exact relabelsTargets_of_isIn hs (by cases s <;> first | rfl | exact absurd hpushed (by decide))
  case listed =>
    refine h.forall_mem_blocksAt hplanTargets fun hs => ?_
    obtain ⟨b, hmem, hplace, htargets, -⟩ := @exists_targetRules around job label hl hs
    exact ⟨b, hmem, hplace, htargets⟩
  case paths =>
    rw [applicableRules_eq]
    refine h.forall_mem_blocksAt hplanSearch fun hs => ?_
    obtain ⟨b, hmem, hplace, hpaths⟩ := @exists_fileMatch around job label hl hs
    refine ⟨b, hmem, hplace, hpaths.trans ?_⟩
    have hrules := @relabelsTargets_of_isIn job .files hs rfl
    rw [hexported _ (by decide), ← ite_not]
    exact if_congr (not_congr hrules |>.trans not_not) rfl rfl
  case found =>
    refine h.forall_mem_blocksAt (hsource .files) fun hs => ?_
    obtain ⟨b, hmem, hplace, htargets, -⟩ := @exists_sourceFile around job label hl hs
    rw [ComponentKind.ofDotted_exportPath (by decide) h.identifier (by decide)] at htargets
    exact ⟨b, hmem, hplace, htargets⟩

end IsPlaced

end ScrapeJob

end AgentConvert.LogShipper
