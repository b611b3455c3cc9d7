import AgentConvert.Proofs.Formatted.LogShipper
import AgentConvert.Proofs.Identity.Agent
import AgentConvert.Proofs.References.Agent

/-!
# Sound agents

The metrics, the integrations and the logs of an agent make sound drafts. What a scrape refers to
are the components that discover its targets, the rules around it, and the block that takes the
samples (`Scrape.isPath_references`); all of these have labels that were handed out.
-/

namespace AgentConvert.Agent

open Argument Diagnostics

variable {label : String}

/-! ## Scrapes -/

namespace Scrape

variable {rules metricRules : List RelabelRule} {targets : TargetSource} {receivers : List String}

theorem isPath_references (hl : isIdentifier label = true)
    (htargets : ∀ path ∈ targets.references, IsPath path)
    (hreceivers : ∀ path ∈ receivers, IsPath path) :
    ∀ path ∈ references label rules metricRules targets receivers, IsPath path := by
  intro path h
  simp only [references, List.mem_append] at h
  rcases h with ((h | h) | h) | h
  · exact htargets path h
  · exact hreceivers path h
  · split at h
    · exact absurd h (by simp)
    · obtain rfl := List.mem_singleton.1 h
      exact isPath_exportPath (by decide) hl (by decide)
  · split at h
    · exact absurd h (by simp)
    · obtain rfl := List.mem_singleton.1 h
      exact isPath_exportPath (by decide) hl (by decide)

theorem isSound_targetRules (htargets : ∀ path ∈ targets.references, IsPath path) :
    (targetRules label rules targets).IsSound := by
  rw [targetRules, Draft.isSound_when]
  exact fun _ => Draft.isSound_block (by decide) htargets areParts_targetRules
    (by simp (disch := decide)) _

theorem isSound_metricRules (hreceivers : ∀ path ∈ receivers, IsPath path) :
    (Scrape.metricRules label metricRules receivers).IsSound := by
  rw [Scrape.metricRules, Draft.isSound_when]
  exact fun _ => Draft.isSound_block (by decide) hreceivers areParts_metricRules
    (by simp (disch := decide)) _

theorem isSound_scrape (hl : isIdentifier label = true)
    (htargets : ∀ path ∈ targets.references, IsPath path)
    (hreceivers : ∀ path ∈ receivers, IsPath path) (jobName : String) {settings : Fields}
    (h : AreParts (Special.Uses (references label rules metricRules targets receivers) []) settings)
    (hn : AreNamed settings) :
    (Draft.block kind label (arguments (relabelled label rules targets)
      (forwardTo label metricRules receivers) jobName settings)).IsSound := by
  rw [arguments]
  refine Draft.isSound_block (by decide) (isPath_references hl htargets hreceivers)
    (areParts_scrape label rules metricRules targets receivers jobName h) ?_ _
  simp (disch := decide) [hn]

end Scrape

/-! ## Jobs -/

namespace ScrapeJob

variable {job : ScrapeJob}

theorem startsApart_context (job : ScrapeJob) : startsApart job.context = true :=
  startsApart_append _ (by decide)

theorem areClean_discoveries {d : Discovery} (h : d ∈ job.discoveries) : AreClean d.findings := by
  have hhttp : ∀ client : HttpClient, AreClean (client.findings job.context) :=
    HttpClient.areClean_findings job.startsApart_context
  simp only [discoveries, listedTargets, List.mem_append, List.mem_map] at h
  rcases h with ((((h | ⟨d, -, rfl⟩) | ⟨d, -, rfl⟩) | ⟨d, -, rfl⟩) | ⟨d, -, rfl⟩) | ⟨d, -, rfl⟩
  · split at h
    · exact absurd h (by simp)
    · rw [List.mem_singleton] at h
      subst h
      exact areClean_nil
  · exact areClean_nil
  · exact hhttp d.http
  · exact areClean_nil
  · exact hhttp d.http
  · exact areClean_nil

theorem isSound_found (job : ScrapeJob) (labels : List String) :
    (Draft.concat ((job.discoveries.zip labels).map fun (d, l) =>
      .report d.findings ++ .block d.kind l (.record d.arguments))).IsSound := by
  refine Draft.isSound_concat (List.forall_mem_map.2 fun e he => ?_)
  have hd := (List.of_mem_zip he).1
  have hparts : AreParts (Special.Uses [] []) e.1.arguments := areParts_discoveries hd
  rw [Draft.isSound_append, Draft.isSound_report]
  exact ⟨areClean_discoveries hd, Draft.isSound_block (isNamed_discoveries hd) (by simp) hparts
    (areNamed_discoveries hd) _⟩

theorem isSound_draft (defaults : MetricsDefaults) {receivers : List String} (job : ScrapeJob)
    {labels : List String} (hl : isIdentifier label = true)
    (hlabels : ∀ l ∈ labels, isIdentifier l = true) (hreceivers : ∀ path ∈ receivers, IsPath path) :
    (job.draft defaults receivers label labels).IsSound := by
  let found := job.discoveries.zip labels
  let targets := TargetSource.ofExports (found.map fun e => e.1.kind.exportPath e.2 "targets")
  have htargets : ∀ path ∈ targets.references, IsPath path := by
    rw [TargetSource.references_ofExports]
    refine List.forall_mem_map.2 fun e he => ?_
    have hmem := List.of_mem_zip he
    exact isPath_exportPath (isReference_discoveries hmem.1) (hlabels e.2 hmem.2) (by decide)
  let rules := RelabelRule.accepted job.relabelRules
  let metricRules := RelabelRule.accepted job.metricRelabelRules
  have hsettings : AreParts (Special.Uses
      (Scrape.references label rules metricRules targets receivers) []) (job.settings defaults) :=
    job.areParts_settings defaults
  have hscrape := Scrape.isSound_scrape hl htargets hreceivers job.name hsettings
    (job.areNamed_settings defaults)
  unfold draft
  simp only [Draft.isSound_append, Draft.isSound_report]
  exact ⟨⟨⟨⟨⟨⟨HttpClient.areClean_findings job.startsApart_context _, job.isSound_found labels⟩,
    RelabelRule.areClean_rejections _ _⟩, Scrape.isSound_targetRules htargets⟩,
    RelabelRule.areClean_rejections _ _⟩, hscrape⟩, Scrape.isSound_metricRules hreceivers⟩

theorem yields_isSound (labelBase : String) (defaults : MetricsDefaults)
    {receivers : List String} (hreceivers : ∀ path ∈ receivers, IsPath path) (job : ScrapeJob) :
    (job.convert labelBase defaults receivers).Yields Draft.IsSound := by
  refine Labelling.yields_bind (Labelling.yields_fresh _ _) fun label hl => ?_
  have hlabels : (labelDiscoveries label job.discoveries).Yields
      fun labels => ∀ l ∈ labels, isIdentifier l = true :=
    Labelling.yields_mapM fun _ _ => Labelling.yields_fresh _ _
  exact Labelling.yields_bind hlabels fun labels hlabels =>
    Labelling.yields_pure (isSound_draft defaults job hl hlabels hreceivers)

end ScrapeJob

/-! ## Remote write -/

theorem Endpoint.startsApart_context (e : Endpoint) : startsApart e.context = true :=
  startsApart_append _ (by decide)

theorem Endpoint.areClean_findings (e : Endpoint) : AreClean e.findings := by
  rw [findings, areClean_append, areClean_when]
  refine ⟨fun _ => Diagnostic.clean_of (startsApart_append _ e.startsApart_context) _, ?_⟩
  exact HttpClient.areClean_findings e.startsApart_context _

namespace RemoteWrite

theorem isPath_receiver (hl : isIdentifier label = true) : IsPath (receiver label) :=
  isPath_exportPath (by decide) hl (by decide)

theorem isPath_receivers {shared : Option String} (h : ∀ l ∈ shared, isIdentifier l = true) :
    ∀ path ∈ shared.toList.map receiver, IsPath path :=
  List.forall_mem_map.2 fun l hl => isPath_receiver (h l (Option.mem_toList.1 hl))

theorem isSound_draft (label : String) (endpoints : List Endpoint)
    (externalLabels : Dictionary String) : (draft label endpoints externalLabels).IsSound := by
  rw [draft, Draft.isSound_append, Draft.isSound_report]
  refine ⟨areClean_flatMap fun e _ => RelabelRule.areClean_rejections _ _, ?_⟩
  have hparts : AreParts (Special.Uses [] []) _ := RemoteWrite.areParts endpoints externalLabels
  exact Draft.isSound_block (by decide) (by simp) hparts
    (RemoteWrite.areNamed endpoints externalLabels) _

end RemoteWrite

/-! ## Metrics -/

theorem MetricsInstance.yields_isSound (defaults : MetricsDefaults) (i : MetricsInstance) :
    (i.convert defaults).Yields Draft.IsSound := by
  refine Labelling.yields_bind (i.yields_writeLabel defaults) fun label hlabel => ?_
  refine Labelling.yields_bind (Labelling.yields_mapM fun job _ =>
    ScrapeJob.yields_isSound i.name defaults (RemoteWrite.isPath_receivers hlabel) job) ?_
  refine fun jobs hjobs => Labelling.yields_pure ?_
  rw [Draft.isSound_append]
  exact ⟨Draft.isSound_concat hjobs, Draft.isSound_ofOption fun l _ =>
    RemoteWrite.isSound_draft l _ _⟩

/-! ## Integrations -/

namespace Integration

theorem isPath_exportedTargets (kind : ExporterKind) (hl : isIdentifier label = true) :
    ∀ path ∈ (exportedTargets kind label).references, IsPath path := by
  intro path h
  obtain rfl := List.mem_singleton.1 h
  exact isPath_exportPath (isReference_component kind) hl (by decide)

theorem isSound_exporterDraft (kind : ExporterKind) (i : Integration)
    (hl : isIdentifier label = true) : (i.exporterDraft kind label).IsSound := by
  have hparts : AreParts (Special.Uses [] []) (kind.arguments i.exporter) :=
    kind.areParts_arguments i.exporter
  have hexporter :
      (Draft.block kind.component label (.record (kind.arguments i.exporter))).IsSound :=
    Draft.isSound_block (isNamed_component kind) (by simp) hparts
      (kind.areNamed_arguments i.exporter) _
  rw [exporterDraft, Draft.isSound_append, Draft.isSound_append, Draft.isSound_report]
  exact ⟨⟨hexporter, RelabelRule.areClean_rejections _ _⟩,
    Scrape.isSound_targetRules (isPath_exportedTargets kind hl)⟩

theorem isSound_scrapeDraft (kind : ExporterKind) (defaults : MetricsDefaults) (i : Integration)
    (hl : isIdentifier label = true) {writeLabel : String} (hw : isIdentifier writeLabel = true) :
    (i.scrapeDraft kind defaults label writeLabel).IsSound := by
  have htargets := isPath_exportedTargets kind hl
  have hreceivers : ∀ path ∈ [RemoteWrite.receiver writeLabel], IsPath path := by
    simpa using RemoteWrite.isPath_receiver hw
  unfold scrapeDraft
  simp only [Draft.isSound_append, Draft.isSound_report]
  refine ⟨⟨RelabelRule.areClean_rejections _ _, ?_⟩, Scrape.isSound_metricRules hreceivers⟩
  exact Scrape.isSound_scrape hl htargets hreceivers _ (by simp) (by simp (disch := decide))

theorem yields_isSound (scrape : Option Bool) (defaults : MetricsDefaults) (kind : ExporterKind)
    (i : Integration) {shared : Option String} (h : ∀ l ∈ shared, isIdentifier l = true) :
    (i.convert scrape defaults kind shared).Yields fun r => r.1.IsSound := by
  refine Labelling.yields_bind (Labelling.yields_fresh _ _) fun label hl => ?_
  have hexporter := isSound_exporterDraft kind i hl
  split
  · refine Labelling.yields_bind (yields_sharedLabel h) fun writeLabel hw => ?_
    refine Labelling.yields_pure ?_
    exact Draft.isSound_append.2 ⟨hexporter, isSound_scrapeDraft kind defaults i hl hw⟩
  · exact Labelling.yields_pure hexporter

end Integration

namespace IntegrationsSection

theorem yields_isSound_convertActive (scrape : Option Bool) (defaults : MetricsDefaults)
    (active : List (ExporterKind × Integration)) {shared : Option String}
    (h : ∀ l ∈ shared, isIdentifier l = true) :
    (convertActive scrape defaults active shared).Yields fun r => r.1.IsSound := by
  induction active generalizing shared with
  | nil => exact Labelling.yields_pure Draft.isSound_empty
  | cons e active ih =>
    obtain ⟨kind, i⟩ := e
    have hfirst : (i.convert scrape defaults kind shared).Yields fun r =>
        r.1.IsSound ∧ ∀ l ∈ r.2, isIdentifier l = true := fun ls =>
      ⟨Integration.yields_isSound scrape defaults kind i h ls,
        Integration.isIdentifier_shared scrape defaults kind i h ls⟩
    refine Labelling.yields_bind hfirst fun r hr => ?_
    refine Labelling.yields_bind (ih hr.2) fun rs hrs => Labelling.yields_pure ?_
    exact Draft.isSound_append.2 ⟨hr.1, hrs⟩

theorem yields_isSound (defaults : MetricsDefaults) (s : IntegrationsSection) :
    (s.convert defaults).Yields Draft.IsSound := by
  refine Labelling.yields_bind
    (yields_isSound_convertActive s.scrape defaults s.active (by simp)) fun r hr => ?_
  refine Labelling.yields_pure (Draft.isSound_append.2 ⟨hr, ?_⟩)
  exact Draft.isSound_ofOption fun l _ => RemoteWrite.isSound_draft l _ _

end IntegrationsSection

/-! ## Agents -/

theorem LogsSection.yields_isSound (s : LogsSection) : s.convert.Yields Draft.IsSound := by
  refine Labelling.yields_bind (Labelling.yields_mapM fun i _ =>
    (i.standalone s).yields_isSound_convertJobs (labelOfParts ["logs", i.name])) ?_
  exact fun ds hds => Labelling.yields_pure (Draft.isSound_concat hds)

namespace Config

theorem areClean_jobFindings (job : ScrapeJob) : AreClean (jobFindings job) := by
  refine areClean_map fun key _ => ?_
  dsimp only
  split
  · exact Diagnostic.clean_of
      (by simp (disch := decide) only [String.append_assoc, startsApart_append]) _
  · exact Diagnostic.clean_of
      (by simp (disch := decide) only [String.append_assoc, startsApart_append]) _

theorem areClean_findings (config : Config) : AreClean config.findings := by
  simp only [findings, areClean_append, areClean_when]
  refine ⟨⟨⟨⟨⟨⟨⟨config.server.areClean_agentFindings, fun _ => ?_⟩, fun _ => ?_⟩, fun _ => ?_⟩, ?_⟩,
    ?_⟩, ?_⟩, ?_⟩
  · exact Diagnostic.clean_of (by decide) _
  · exact Diagnostic.clean_of (by decide) _
  · exact Diagnostic.clean_of (by decide) _
  · exact areClean_map fun key _ =>
      Diagnostic.clean_of (startsApart_append _ (startsApart_append _ (by decide))) _
  · exact areClean_flatMap fun e _ => e.areClean_findings
  · exact areClean_flatMap fun e _ => e.areClean_findings
  · refine areClean_flatMap fun i _ => areClean_append.2 ⟨?_, ?_⟩
    · exact areClean_flatMap fun e _ => e.areClean_findings
    · exact areClean_flatMap fun job _ => areClean_jobFindings job

theorem yields_isSound (config : Config) : config.convert.Yields Draft.IsSound := by
  refine Labelling.yields_bind (Labelling.yields_mapM fun i _ =>
    MetricsInstance.yields_isSound config.metrics.defaults i) fun metrics hmetrics => ?_
  refine Labelling.yields_bind (IntegrationsSection.yields_isSound _ _) fun integrations hi => ?_
  have hall : ∀ logs : Draft, logs.IsSound → (.report config.findings ++
      .ofOption (Draft.block (.ofDotted "logging") "") config.server.logging? ++
      .concat metrics ++ integrations ++ logs : Draft).IsSound := fun logs hlogs => by
    simp only [Draft.isSound_append, Draft.isSound_report]
    exact ⟨⟨⟨⟨config.areClean_findings, config.server.isSound_logging⟩,
      Draft.isSound_concat hmetrics⟩, hi⟩, hlogs⟩
  cases config.logs with
  | none => exact Labelling.yields_pure (hall _ Draft.isSound_empty)
  | some s =>
    exact Labelling.yields_bind s.yields_isSound fun logs hlogs =>
      Labelling.yields_pure (hall _ hlogs)

end Config

end AgentConvert.Agent
