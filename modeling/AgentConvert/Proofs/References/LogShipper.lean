import AgentConvert.Proofs.LogShipper.Fields
import AgentConvert.Proofs.References.Basic

/-!
# References of a log shipper

What the blocks of a job refer to are the clients and the blocks of the job that are there under the
same condition (`ScrapeJob.references`), so a job resolves its references up to the clients
(`ScrapeJob.resolves_draft`). The clients' blocks stand in every configuration that hands out their
labels, so a configuration resolves all of its references (`Config.yields_convertJobs`).
-/

namespace AgentConvert.LogShipper

open Argument

variable {around : Surroundings} {job : ScrapeJob} {label : String}

namespace ScrapeJob

/-! ## What a job refers to -/

/-- The paths that the blocks of a job can name: the clients, and what the job's own blocks export
when they are there. -/
def references (around : Surroundings) (job : ScrapeJob) (label : String) : List String :=
  around.writers ++
  (if job.relabelsTargets then [Kind.discoveryRelabel.exportPath label "output",
    Kind.discoveryRelabel.exportPath label "rules"] else []) ++
  (if job.readsFiles then [Kind.fileMatch.exportPath label "targets"] else []) ++
  (if job.relabelsPulled then [Kind.lokiRelabel.exportPath label "receiver"] else []) ++
  (if job.acceptedStages.isEmpty then [] else [Kind.process.exportPath label "receiver"])

theorem receivers_subset : job.receivers around label ⊆ job.references around label := by
  intro path h
  unfold receivers at h
  split at h <;> simp_all [references]

theorem pulledReceivers_subset : job.pulledReceivers around label ⊆ job.references around label := by
  intro path h
  unfold pulledReceivers at h
  split at h
  · simp_all [references]
  · exact receivers_subset h

/-! ## The blocks of a job -/

theorem areParts_targetRules (refs : List String) (job : ScrapeJob) :
    AreParts (Special.Uses refs []) (Field.always "targets"
      (.targets (TargetGroup.listed job.targetGroups)) ++
      Field.always "rule" (RelabelRule.blocks job.rules)) := by
  simp

theorem areParts_fileMatch (h : job.readsFiles = true) :
    AreParts (Special.Uses (job.references around label) []) (
      Field.always "path_targets" (job.pathSource label).argument ++
      Field.optional "sync_period" .duration around.syncPeriod) := by
  have hsource : ∀ path ∈ (job.pathSource label).references, path ∈ job.references around label := by
    intro path hpath
    unfold pathSource at hpath
    split at hpath <;> simp_all [TargetSource.references, references]
  simpa using hsource

theorem areParts_sourceFile (h : job.readsFiles = true) :
    AreParts (Special.Uses (job.references around label) []) (
      Field.always "targets" (.reference (Kind.fileMatch.exportPath label "targets")) ++
      Field.always "forward_to" (.references (job.receivers around label)) ++
      Field.optional "legacy_positions_file" .text around.positionsFile) := by
  have htargets : Kind.fileMatch.exportPath label "targets" ∈ job.references around label := by
    simp [references, h]
  simpa [htargets] using fun path hpath => receivers_subset hpath

theorem areParts_pulledRules :
    AreParts (Special.Uses (job.references around label) []) (
      Field.always "forward_to" (.references (job.receivers around label)) ++
      Field.always "rule" (RelabelRule.blocks job.rules)) := by
  simpa using fun path hpath => receivers_subset hpath

theorem areParts_processing :
    AreParts (Special.Uses around.writers []) (
      Field.always "forward_to" (.references around.writers) ++
      Field.always "stage" (.list (job.acceptedStages.map Stage.block))) := by
  simp

/-! ## Placeholders -/

/-- The placeholders that the sources of a job can have. -/
def holes (job : ScrapeJob) : List Placeholder :=
  (if job.relabelsTargets then [.relabelRules] else []) ++
  if job.pulls then [.logsReceivers] else []

theorem fillsPlaceholders_fillIn : FillsPlaceholders (job.fillIn around label) := by
  intro v h
  cases v with
  | placeholder hole => exact absurd rfl (h hole)
  | _ => rfl

theorem path_mem_references {paths segments : List String}
    (h : .path segments ∈ (Expr.array (paths.map Expr.ofDotted)).walk) :
    ∃ path ∈ paths, segments = dotted path := by
  rw [Expr.walk, List.mem_cons] at h
  replace h := h.resolve_left (by simp)
  induction paths with
  | nil => exact absurd h (by simp [Expr.walkItems])
  | cons path paths ih =>
    rw [List.map_cons, Expr.walkItems, List.mem_append] at h
    rcases h with h | h
    · simp only [Expr.ofDotted, Expr.walk, List.mem_singleton, Expr.path.injEq] at h
      exact ⟨path, List.mem_cons_self .., h⟩
    · obtain ⟨p, hp, hs⟩ := ih h
      exact ⟨p, List.mem_cons_of_mem _ hp, hs⟩

/-- What the job fills in are paths of its own blocks and of the clients. -/
theorem path_mem_fillIn {hole : Placeholder} {segments : List String} (hh : hole ∈ job.holes)
    (h : .path segments ∈ (renderBy (job.fillIn around label) (.placeholder hole)).walk) :
    ∃ path ∈ job.references around label, segments = dotted path := by
  simp only [holes, List.mem_append] at hh
  rcases hh with hh | hh
  · split at hh
    · rename_i hrules
      obtain rfl := List.mem_singleton.1 hh
      refine ⟨Kind.discoveryRelabel.exportPath label "rules", by simp [references, hrules], ?_⟩
      simpa [renderBy, Special.Answer.render, fillIn, Expr.ofDotted, Expr.walk] using h
    · exact absurd hh (by simp)
  · split at hh
    · obtain rfl := List.mem_singleton.1 hh
      obtain ⟨path, hpath, hs⟩ := path_mem_references h
      exact ⟨path, pulledReceivers_subset hpath, hs⟩
    · exact absurd hh (by simp)

theorem refersTo_sourceDraft {s : SourceBlock} (h : s ∈ job.sources around label) :
    (job.sourceDraft around label s).RefersTo (job.references around label) := by
  have hparts : AreParts (Special.Uses (job.references around label) job.holes) s.arguments :=
    areParts_sources h (fun path hpath => receivers_subset hpath) (fun hr => by simp [holes, hr])
      fun hp => by simp [holes, hp]
  rw [sourceDraft, Draft.refersTo_append]
  refine ⟨Draft.refersTo_report _, ?_⟩
  exact Draft.refersTo_blockWith fillsPlaceholders_fillIn hparts
    (fun hole hh segments => path_mem_fillIn hh) s.kind label

/-! ## Jobs -/

theorem refersTo_draft : (job.draft around label).RefersTo (job.references around label) := by
  have hrules : (job.targetRules label).RefersTo (job.references around label) :=
    Draft.refersTo_block (areParts_targetRules _ job) _ _
  have hfiles : job.readsFiles = true →
      (job.files around label).RefersTo (job.references around label) := fun h => by
    rw [files, Draft.refersTo_append]
    exact ⟨Draft.refersTo_block (areParts_fileMatch h) _ _,
      Draft.refersTo_block (areParts_sourceFile h) _ _⟩
  have hsources : ∀ s ∈ job.sources around label,
      (job.sourceDraft around label s).RefersTo (job.references around label) :=
    fun s hs => refersTo_sourceDraft hs
  have hpulled : (job.pulledRules around label).RefersTo (job.references around label) :=
    Draft.refersTo_block areParts_pulledRules _ _
  have hstages : (job.processing around label).RefersTo (job.references around label) :=
    (Draft.refersTo_block areParts_processing _ _).mono fun path h => by simp_all [references]
  simp_all [draft]

/-- What a job refers to is there: its own blocks, and the clients. -/
theorem exports_references (hl : isIdentifier label = true) {path : String}
    (h : path ∈ job.references around label) :
    (job.draft around label).Exports (dotted path) ∨ path ∈ around.writers := by
  have hrules : ∀ field, isIdentifier field = true → (job.targetRules label).Exports
      (dotted (Kind.discoveryRelabel.exportPath label field)) := fun field hf =>
    Draft.exports_block (areParts_targetRules [] job) (by decide) hl hf
  have hpulled : (job.pulledRules around label).Exports
      (dotted (Kind.lokiRelabel.exportPath label "receiver")) :=
    Draft.exports_block areParts_pulledRules (by decide) hl (by decide)
  have hstages : (job.processing around label).Exports
      (dotted (Kind.process.exportPath label "receiver")) :=
    Draft.exports_block areParts_processing (by decide) hl (by decide)
  simp only [references, List.mem_append] at h
  rcases h with (((h | h) | h) | h) | h
  · exact .inr h
  · split at h
    · rename_i hc
      simp only [List.mem_cons, List.not_mem_nil, or_false] at h
      rcases h with rfl | rfl
      · simp [draft, hc, hrules "output" (by decide)]
      · simp [draft, hc, hrules "rules" (by decide)]
    · exact absurd h (by simp)
  · split at h
    · rename_i hc
      obtain rfl := List.mem_singleton.1 h
      have hfiles : (job.files around label).Exports
          (dotted (Kind.fileMatch.exportPath label "targets")) := by
        rw [files, Draft.exports_append]
        exact .inl (Draft.exports_block (areParts_fileMatch hc) (by decide) hl (by decide))
      simp [draft, hc, hfiles]
    · exact absurd h (by simp)
  · split at h
    · rename_i hc
      obtain rfl := List.mem_singleton.1 h
      simp [draft, hc, hpulled]
    · exact absurd h (by simp)
  · split at h
    · exact absurd h (by simp)
    · rename_i hc
      obtain rfl := List.mem_singleton.1 h
      simp [draft, hc, hstages]

/-- A job resolves its references up to the clients. -/
theorem resolves_draft (around : Surroundings) (job : ScrapeJob) (hl : isIdentifier label = true) :
    (job.draft around label).Resolves around.writers :=
  refersTo_draft.resolves fun _ h => exports_references hl h

theorem yields_convert (around : Surroundings) (job : ScrapeJob) :
    (job.convert around).Yields fun d => d.Resolves around.writers := by
  unfold convert
  split
  · exact Labelling.yields_pure (Draft.resolves_report _)
  · exact Labelling.yields_bind (Labelling.yields_fresh _ _) fun label hl =>
      Labelling.yields_pure (resolves_draft around job hl)

end ScrapeJob

/-! ## Configurations -/

namespace Config

theorem areParts_write (refs : List String) (c : Client) :
    AreParts (Special.Uses refs []) c.arguments := by
  simp

/-- The blocks that write to the clients are there under all of their labels. -/
theorem exports_writes {cs : List Client} {labels : List String} (hlength : labels.length = cs.length)
    (h : ∀ l ∈ labels, isIdentifier l = true) {path : String}
    (hpath : path ∈ labels.map fun label => Kind.write.exportPath label "receiver") :
    (Draft.concat ((cs.zip labels).map fun e => writeDraft e.1 e.2)).Exports (dotted path) := by
  obtain ⟨label, hlabel, rfl⟩ := List.mem_map.1 hpath
  have hsnd : (cs.zip labels).map Prod.snd = labels := List.map_snd_zip (Nat.le_of_eq hlength)
  rw [← hsnd] at hlabel
  obtain ⟨e, he, rfl⟩ := List.mem_map.1 hlabel
  rw [Draft.exports_concat]
  refine ⟨writeDraft e.1 e.2, List.mem_map.2 ⟨e, he, rfl⟩, ?_⟩
  exact Draft.exports_block (areParts_write [] e.1) (by decide)
    (h e.2 (List.of_mem_zip he).2) (by decide)

/-- The clients and jobs of a configuration resolve all of their references. -/
theorem yields_convertJobs (labelBase : String) (config : Config) :
    (config.convertJobs labelBase).Yields fun d => d.Resolves [] := by
  intro ls
  let base := if labelBase = "" then "default" else labelBase
  let r := config.clients.mapM (fun _ => Labelling.fresh Kind.write.name base) ls
  let around : Surroundings := {
    labelBase
    writers := r.1.map fun label => Kind.write.exportPath label "receiver"
    syncPeriod := config.target.syncPeriod
    positionsFile := config.positions.filename }
  have hlabels : ∀ label ∈ r.1, isIdentifier label = true :=
    Labelling.yields_mapM (fun _ _ => Labelling.yields_fresh Kind.write.name base) ls
  have hlength : r.1.length = config.clients.length := Labelling.length_mapM _ _ _
  have hjobs := Labelling.yields_mapM
    (fun job (_ : job ∈ config.jobs) => ScrapeJob.yields_convert around job) r.2
  let writes := Draft.concat ((config.clients.zip r.1).map fun e => writeDraft e.1 e.2)
  have hwrites : writes.Resolves around.writers := by
    refine Draft.Resolves.concat fun d hd => ?_
    obtain ⟨e, -, rfl⟩ := List.mem_map.1 hd
    have hrefers : (writeDraft e.1 e.2).RefersTo [] := Draft.refersTo_block (areParts_write [] e.1) _ _
    exact hrefers.resolves_nil
  have hall := ((Draft.resolves_report config.findings).append (.concat hjobs)).append hwrites
  exact hall.supply fun path hpath =>
    .inl (Draft.exports_append.2 (.inr (exports_writes hlength hlabels hpath)))

/-- A configuration that stands for itself resolves all of its references. -/
theorem yields_convert (config : Config) : config.convert.Yields fun d => d.Resolves [] := by
  refine Labelling.yields_bind (yields_convertJobs "" config) fun jobs hjobs => ?_
  refine Labelling.yields_pure (.append (.append (Draft.resolves_report _) ?_) hjobs)
  exact (Draft.refersTo_ofOption fun _ h => ServerSettings.logging?_fields h).resolves_nil

end Config

end AgentConvert.LogShipper
