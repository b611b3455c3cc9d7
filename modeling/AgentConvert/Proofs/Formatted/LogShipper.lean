import AgentConvert.Proofs.Formatted.Draft
import AgentConvert.Proofs.Formatted.Fields
import AgentConvert.Proofs.Identity.LogShipper
import AgentConvert.Proofs.References.LogShipper

/-!
# Sound log shippers

Every draft on the way to the document of a log shipper is sound, whatever the texts of the
configuration are: the references of a job are those of its own blocks and of the clients
(`ScrapeJob.references`), and what is reported is not about blocks.
-/

namespace AgentConvert

open Argument Diagnostics

/-! ## Findings of common settings -/

theorem RelabelRule.areClean_rejections (context : String) (rules : List RelabelRule) :
    AreClean (rejections context rules) :=
  areClean_map fun _ _ => Diagnostic.clean_of
    (by simp (disch := decide) only [String.append_assoc, startsApart_append]) _

theorem ServerSettings.areClean_agentFindings (s : ServerSettings) : AreClean s.agentFindings :=
  areClean_map fun _ _ => Diagnostic.clean_of
    (by simp (disch := decide) only [String.append_assoc, startsApart_append]) _

theorem ServerSettings.areClean_embeddedFindings {context : String}
    (h : startsApart context = true) (s : ServerSettings) : AreClean (s.embeddedFindings context) :=
  areClean_when.2 fun _ => Diagnostic.clean_of (startsApart_append _ h) _

theorem HttpClient.areClean_findings {context : String} (h : startsApart context = true)
    (client : HttpClient) : AreClean (client.findings context) := by
  refine areClean_append.2 ⟨areClean_when.2 fun _ => ?_, areClean_when.2 fun _ => ?_⟩
  · exact Diagnostic.clean_of (startsApart_append _ h) _
  · exact Diagnostic.clean_of (startsApart_append _ h) _

/-- The `logging` block, if there is one, is sound. -/
theorem ServerSettings.isSound_logging (s : ServerSettings) :
    (Draft.ofOption (Draft.block (.ofDotted "logging") "") s.logging?).IsSound := by
  refine Draft.isSound_ofOption fun args hargs => ?_
  obtain ⟨fields, rfl, hparts⟩ := logging?_fields hargs
  have hplain : AreParts (Special.Uses [] []) fields := hparts
  exact Draft.isSound_block (by decide) (by simp) hplain (areNamed_logging? hargs) _

namespace LogShipper

variable {around : Surroundings} {job : ScrapeJob} {label : String}

namespace ScrapeJob

/-! ## References -/

theorem isPath_references (hl : isIdentifier label = true)
    (hw : ∀ path ∈ around.writers, IsPath path) :
    ∀ path ∈ job.references around label, IsPath path := by
  intro path h
  simp only [references, List.mem_append] at h
  rcases h with (((h | h) | h) | h) | h
  · exact hw path h
  · split at h
    · simp only [List.mem_cons, List.not_mem_nil, or_false] at h
      rcases h with rfl | rfl
      · exact isPath_exportPath (by decide) hl (by decide)
      · exact isPath_exportPath (by decide) hl (by decide)
    · exact absurd h (by simp)
  · split at h
    · obtain rfl := List.mem_singleton.1 h
      exact isPath_exportPath (by decide) hl (by decide)
    · exact absurd h (by simp)
  · split at h
    · obtain rfl := List.mem_singleton.1 h
      exact isPath_exportPath (by decide) hl (by decide)
    · exact absurd h (by simp)
  · split at h
    · exact absurd h (by simp)
    · obtain rfl := List.mem_singleton.1 h
      exact isPath_exportPath (by decide) hl (by decide)

theorem wellFormed_references {paths : List String} (h : ∀ path ∈ paths, IsPath path) :
    (Expr.array (paths.map Expr.ofDotted)).WellFormed := by
  show Expr.WellFormedItems (paths.map Expr.ofDotted)
  induction paths with
  | nil => trivial
  | cons path paths ih =>
    exact ⟨h path (List.mem_cons_self ..), ih fun p hp => h p (List.mem_cons_of_mem _ hp)⟩

/-- What the job fills in can be spelled. -/
theorem wellFormed_fillIn (hl : isIdentifier label = true)
    (hw : ∀ path ∈ around.writers, IsPath path) (hole : Placeholder) :
    (renderBy (job.fillIn around label) (.placeholder hole)).WellFormed := by
  cases hole with
  | logsReceivers =>
    exact wellFormed_references fun path hpath =>
      isPath_references hl hw path (pulledReceivers_subset hpath)
  | relabelRules =>
    have hrules : IsPath (Kind.discoveryRelabel.exportPath label "rules") :=
      isPath_exportPath (by decide) hl (by decide)
    exact hrules
  | metricsReceivers => trivial

/-! ## Jobs -/

theorem startsApart_context (job : ScrapeJob) : startsApart job.context = true := by
  simp (disch := decide) only [context, startsApart_append]

theorem isNamed_sources {s : SourceBlock} (h : s ∈ job.sources around label) : s.kind.IsNamed := by
  have hkind := sublist_sources.subset (List.mem_map_of_mem (f := SourceBlock.kind) h)
  have hall : ∀ kind ∈ Kind.sources, kind.IsNamed := by decide
  exact hall s.kind hkind

theorem areClean_sources {s : SourceBlock} (h : s ∈ job.sources around label) :
    AreClean s.findings := by
  have hserver : ∀ server : ServerSettings, AreClean (server.embeddedFindings job.context) :=
    ServerSettings.areClean_embeddedFindings job.startsApart_context
  simp only [sources, List.mem_filterMap, id_eq, exists_eq_right, List.mem_cons, List.not_mem_nil,
    or_false] at h
  rcases h with h | h | h | h | h | h | h
  · obtain ⟨g, -, hg⟩ := Option.bind_eq_some_iff.1 h.symm
    obtain ⟨mode, -, rfl⟩ := Option.map_eq_some_iff.1 hg
    cases mode with
    | pull => exact areClean_nil
    | push => exact hserver g.server
  · obtain ⟨g, -, rfl⟩ := Option.map_eq_some_iff.1 h.symm
    exact areClean_nil
  · obtain ⟨r, -, rfl⟩ := Option.map_eq_some_iff.1 h.symm
    exact hserver r.server
  · obtain ⟨r, -, rfl⟩ := Option.map_eq_some_iff.1 h.symm
    exact hserver r.server
  · obtain ⟨l, -, rfl⟩ := Option.map_eq_some_iff.1 h.symm
    exact areClean_nil
  · obtain ⟨c, -, rfl⟩ := Option.map_eq_some_iff.1 h.symm
    exact areClean_nil
  · obtain ⟨e, -, rfl⟩ := Option.map_eq_some_iff.1 h.symm
    exact areClean_nil

theorem isSound_sourceDraft (hl : isIdentifier label = true)
    (hw : ∀ path ∈ around.writers, IsPath path) {s : SourceBlock}
    (h : s ∈ job.sources around label) : (job.sourceDraft around label s).IsSound := by
  have hparts : AreParts (Special.Uses (job.references around label) Placeholder.all) s.arguments :=
    areParts_sources h (fun path hpath => receivers_subset hpath) (fun _ => by decide)
      fun _ => by decide
  rw [sourceDraft, Draft.isSound_append, Draft.isSound_report]
  refine ⟨areClean_sources h, ?_⟩
  exact Draft.isSound_blockWith fillsPlaceholders_fillIn (isNamed_sources h)
    (isPath_references hl hw) (fun hole _ => wellFormed_fillIn hl hw hole) hparts
    (areNamed_sources h) label

theorem startsApart_stageFault (fault : StageFault) : startsApart fault.message = true := by
  cases fault with
  | notSingleKey =>
    exact (by decide : startsApart "each pipeline stage must be a map with a single key" = true)
  | nameNotText => exact (by decide : startsApart "pipeline stage names must be strings" = true)
  | unsupported name => exact startsApart_append _ (startsApart_append _ (by decide))
  | unknown name => exact startsApart_append _ (startsApart_append _ (by decide))
  | badBody name error =>
    exact startsApart_append _ (startsApart_append _ (startsApart_append _ (by decide)))

theorem areClean_stageRejections (context : String) (vs : List Value) :
    AreClean (Stage.rejections context vs) := by
  intro d hd
  obtain ⟨v, -, hv⟩ := List.mem_filterMap.1 hd
  generalize Stage.ofValue v = stage at hv
  cases stage with
  | ok stage => exact absurd hv (by simp)
  | error fault =>
    rw [Option.some.injEq] at hv
    subst hv
    exact Diagnostic.clean_of
      (startsApart_append _ (startsApart_append _ (startsApart_stageFault fault))) _

theorem isSound_draft (hl : isIdentifier label = true)
    (hw : ∀ path ∈ around.writers, IsPath path) (job : ScrapeJob) :
    (job.draft around label).IsSound := by
  have hrefs : ∀ path ∈ job.references around label, IsPath path := isPath_references hl hw
  have hrules : (job.targetRules label).IsSound :=
    Draft.isSound_block (by decide) (by simp) (areParts_targetRules [] job)
      (by simp (disch := decide)) _
  have hfiles : job.readsFiles = true → (job.files around label).IsSound := fun h => by
    rw [files, Draft.isSound_append]
    exact ⟨Draft.isSound_block (by decide) hrefs (areParts_fileMatch h)
        (by simp (disch := decide)) _,
      Draft.isSound_block (by decide) hrefs (areParts_sourceFile h) (by simp (disch := decide)) _⟩
  have hsources : (Draft.concat
      ((job.sources around label).map (job.sourceDraft around label))).IsSound :=
    Draft.isSound_concat (List.forall_mem_map.2 fun s hs => isSound_sourceDraft hl hw hs)
  have hpulled : (job.pulledRules around label).IsSound :=
    Draft.isSound_block (by decide) hrefs areParts_pulledRules (by simp (disch := decide)) _
  have hstages : (job.processing around label).IsSound :=
    Draft.isSound_block (by decide) hw areParts_processing (by simp (disch := decide)) _
  simp only [draft, Draft.isSound_append, Draft.isSound_report, Draft.isSound_when]
  exact ⟨⟨⟨⟨⟨⟨RelabelRule.areClean_rejections _ _, areClean_stageRejections _ _⟩, fun _ => hrules⟩,
    hfiles⟩, hsources⟩, fun _ => hpulled⟩, fun _ => hstages⟩

theorem areClean_modeFault {fault : Diagnostic} (h : job.modeFault? = some fault) :
    ¬fault.ReportsFailure := by
  obtain ⟨s, -, hs⟩ := Option.bind_eq_some_iff.1 h
  split at hs
  · rw [Option.some.injEq] at hs
    subst hs
    have hmessage : startsApart s.modeMessage = true :=
      startsApart_append _ (startsApart_append _ (by decide))
    exact Diagnostic.clean_of (startsApart_append _ (startsApart_append _ hmessage)) _
  · exact absurd hs (by simp)

theorem yields_isSound (hw : ∀ path ∈ around.writers, IsPath path) (job : ScrapeJob) :
    (job.convert around).Yields Draft.IsSound := by
  unfold convert
  split
  · rename_i fault hfault
    exact Labelling.yields_pure
      (Draft.isSound_report.2 (areClean_cons.2 ⟨areClean_modeFault hfault, areClean_nil⟩))
  · exact Labelling.yields_bind (Labelling.yields_fresh _ _) fun label hl =>
      Labelling.yields_pure (isSound_draft hl hw job)

end ScrapeJob

/-! ## Configurations -/

namespace Config

theorem areClean_findings (config : Config) : AreClean config.findings := by
  simp only [findings, areClean_append, areClean_when]
  refine ⟨⟨⟨⟨⟨fun _ => ?_, fun _ => ?_⟩, fun _ => ?_⟩, fun _ => ?_⟩, ?_⟩, ?_⟩
  · exact Diagnostic.clean_of (by decide) _
  · exact Diagnostic.clean_of (by decide) _
  · exact Diagnostic.clean_of (by decide) _
  · exact Diagnostic.clean_of (by decide) _
  · exact areClean_flatMap fun e _ => HttpClient.areClean_findings
      (by simp (disch := decide) only [String.append_assoc, startsApart_append]) _
  · exact areClean_flatMap fun job _ => areClean_map fun key _ =>
      Diagnostic.clean_of (by simp (disch := decide) only [String.append_assoc, startsApart_append]) _

theorem isSound_writeDraft (c : Client) (label : String) : (writeDraft c label).IsSound :=
  Draft.isSound_block (by decide) (by simp) (areParts_write [] c) c.areNamed_arguments label

theorem yields_isSound_convertJobs (labelBase : String) (config : Config) :
    (config.convertJobs labelBase).Yields Draft.IsSound := by
  refine Labelling.yields_bind
    (Labelling.yields_mapM fun _ _ => Labelling.yields_fresh _ _) fun labels hlabels => ?_
  have hw : ∀ path ∈ labels.map fun label => Kind.write.exportPath label "receiver", IsPath path :=
    List.forall_mem_map.2 fun label hl =>
      isPath_exportPath (by decide) (hlabels label hl) (by decide)
  refine Labelling.yields_bind
    (Labelling.yields_mapM fun job _ => ScrapeJob.yields_isSound hw job) fun jobs hjobs => ?_
  refine Labelling.yields_pure (Draft.isSound_append.2 ⟨Draft.isSound_append.2 ⟨?_, ?_⟩, ?_⟩)
  · exact Draft.isSound_report.2 config.areClean_findings
  · exact Draft.isSound_concat hjobs
  · exact Draft.isSound_concat (List.forall_mem_map.2 fun e _ => isSound_writeDraft e.1 e.2)

theorem yields_isSound (config : Config) : config.convert.Yields Draft.IsSound := by
  refine Labelling.yields_bind (config.yields_isSound_convertJobs "") fun jobs hjobs => ?_
  refine Labelling.yields_pure (Draft.isSound_append.2 ⟨Draft.isSound_append.2 ⟨?_, ?_⟩, hjobs⟩)
  · exact Draft.isSound_report.2 config.server.areClean_agentFindings
  · exact config.server.isSound_logging

end Config

end LogShipper

end AgentConvert
