import AgentConvert.Proofs.Agent.Fields
import AgentConvert.Proofs.Document.Grammar
import AgentConvert.Proofs.Identity.Agent
import AgentConvert.Proofs.References.LogShipper

/-!
# References of an agent

A scrape refers to the components that discover its targets, to the rules around it when there are
any, and to where its samples go; the block that takes the samples is there whenever something
refers to it. So each of the metrics, the integrations and the logs resolves all of its references.
-/

namespace AgentConvert.Agent

open Argument

variable {label : String}

/-! ## Scrapes -/

namespace Scrape

variable {rules metricRules : List RelabelRule} {targets : TargetSource} {receivers : List String}

/-- The paths that a scrape can name. -/
def references (label : String) (rules metricRules : List RelabelRule) (targets : TargetSource)
    (receivers : List String) : List String :=
  targets.references ++ receivers ++
  (if rules.isEmpty then [] else [targetRelabel.exportPath label "output"]) ++
  (if metricRules.isEmpty then [] else [metricRelabel.exportPath label "receiver"])

theorem areParts_targetRules :
    AreParts (Special.Uses targets.references []) (Field.always "targets" targets.argument ++
      Field.always "rule" (RelabelRule.blocks rules)) := by
  simp

theorem areParts_metricRules :
    AreParts (Special.Uses receivers []) (Field.always "forward_to" (.references receivers) ++
      Field.always "rule" (RelabelRule.blocks rules)) := by
  simp

theorem refersTo_targetRules : (targetRules label rules targets).RefersTo targets.references :=
  Draft.refersTo_when.2 fun _ => Draft.refersTo_block areParts_targetRules _ _

theorem refersTo_metricRules : (Scrape.metricRules label rules receivers).RefersTo receivers :=
  Draft.refersTo_when.2 fun _ => Draft.refersTo_block areParts_metricRules _ _

theorem exports_targetRules (hl : isIdentifier label = true) (h : rules.isEmpty = false) :
    (targetRules label rules targets).Exports (dotted (targetRelabel.exportPath label "output")) := by
  rw [targetRules, Draft.exports_when, h]
  exact ⟨rfl, Draft.exports_block areParts_targetRules (by decide) hl (by decide)⟩

theorem exports_metricRules (hl : isIdentifier label = true) (h : rules.isEmpty = false) :
    (Scrape.metricRules label rules receivers).Exports
      (dotted (metricRelabel.exportPath label "receiver")) := by
  rw [Scrape.metricRules, Draft.exports_when, h]
  exact ⟨rfl, Draft.exports_block areParts_metricRules (by decide) hl (by decide)⟩

/-- A scrape names its targets and its receivers, or the rules that stand before them. -/
theorem areParts_scrape (label : String) (rules metricRules : List RelabelRule)
    (targets : TargetSource) (receivers : List String) (jobName : String) {settings : Fields}
    (h : AreParts (Special.Uses (references label rules metricRules targets receivers) []) settings) :
    AreParts (Special.Uses (references label rules metricRules targets receivers) [])
      (Field.always "targets" (relabelled label rules targets).argument ++
        Field.always "forward_to" (.references (forwardTo label metricRules receivers)) ++
        Field.always "job_name" (.text jobName) ++ settings) := by
  have htargets : ∀ path ∈ (relabelled label rules targets).references,
      path ∈ references label rules metricRules targets receivers := by
    intro path hpath
    unfold relabelled at hpath
    split at hpath <;> simp_all [references, TargetSource.references]
  have hreceivers : ∀ path ∈ forwardTo label metricRules receivers,
      path ∈ references label rules metricRules targets receivers := by
    intro path hpath
    unfold forwardTo at hpath
    split at hpath <;> simp_all [references]
  simpa [h] using ⟨htargets, hreceivers⟩

theorem refersTo_scrape (label : String) (rules metricRules : List RelabelRule)
    (targets : TargetSource) (receivers : List String) (jobName : String) {settings : Fields}
    (h : AreParts (Special.Uses (references label rules metricRules targets receivers) []) settings) :
    (Draft.block kind label (arguments (relabelled label rules targets)
      (forwardTo label metricRules receivers) jobName settings)).RefersTo
      (references label rules metricRules targets receivers) :=
  Draft.refersTo_block (areParts_scrape label rules metricRules targets receivers jobName h) _ _

/-- The rules around a scrape are there when it refers to them. -/
theorem exports_references {d : Draft} (hl : isIdentifier label = true)
    (hrules : ∀ path, (targetRules label rules targets).Exports path → d.Exports path)
    (hmetrics : ∀ path, (Scrape.metricRules label metricRules receivers).Exports path →
      d.Exports path)
    (htargets : ∀ path ∈ targets.references, d.Exports (dotted path)) {path : String}
    (h : path ∈ references label rules metricRules targets receivers) :
    d.Exports (dotted path) ∨ path ∈ receivers := by
  simp only [references, List.mem_append] at h
  rcases h with ((h | h) | h) | h
  · exact .inl (htargets path h)
  · exact .inr h
  · split at h
    · exact absurd h (by simp)
    · rename_i hne
      obtain rfl := List.mem_singleton.1 h
      exact .inl (hrules _ (exports_targetRules hl (by simpa using hne)))
  · split at h
    · exact absurd h (by simp)
    · rename_i hne
      obtain rfl := List.mem_singleton.1 h
      exact .inl (hmetrics _ (exports_metricRules hl (by simpa using hne)))

end Scrape

namespace ScrapeJob

theorem isReference_discoveries {job : ScrapeJob} {d : Discovery} (h : d ∈ job.discoveries) :
    IsReference d.kind.segments := by
  simp only [discoveries, listedTargets, List.mem_append, List.mem_map] at h
  rcases h with ((((h | ⟨d, -, rfl⟩) | ⟨d, -, rfl⟩) | ⟨d, -, rfl⟩) | ⟨d, -, rfl⟩) | ⟨d, -, rfl⟩
  · split at h
    · exact absurd h (by simp)
    · rw [List.mem_singleton] at h
      subst h
      exact (by decide : IsReference (ComponentKind.ofDotted "discovery.static").segments)
  · exact (by decide : IsReference (ComponentKind.ofDotted "discovery.dns").segments)
  · exact (by decide : IsReference (ComponentKind.ofDotted "discovery.http").segments)
  · exact (by decide : IsReference (ComponentKind.ofDotted "discovery.file").segments)
  · exact (by decide : IsReference (ComponentKind.ofDotted "discovery.consul").segments)
  · exact (by decide : IsReference (ComponentKind.ofDotted "discovery.ovhcloud").segments)

theorem isNamed_discoveries {job : ScrapeJob} {d : Discovery} (h : d ∈ job.discoveries) :
    d.kind.IsNamed :=
  (isReference_discoveries h).1

/-- The components that discover targets refer to nothing, and each exports its targets. -/
theorem exports_found {job : ScrapeJob} {labels : List String} {e : Discovery × String}
    (hlabels : ∀ l ∈ labels, isIdentifier l = true) (he : e ∈ job.discoveries.zip labels) :
    (Draft.concat ((job.discoveries.zip labels).map fun (d, l) =>
      .report d.findings ++ .block d.kind l (.record d.arguments))).Exports
      (dotted (e.1.kind.exportPath e.2 "targets")) := by
  have hmem := List.of_mem_zip he
  have hparts : AreParts (Special.Uses [] []) e.1.arguments := areParts_discoveries hmem.1
  rw [Draft.exports_concat]
  refine ⟨_, List.mem_map.2 ⟨e, he, rfl⟩, Draft.exports_append.2 (.inr ?_)⟩
  exact Draft.exports_block hparts (isNamed_discoveries hmem.1) (hlabels e.2 hmem.2) (by decide)

theorem refersTo_found (refs : List String) (job : ScrapeJob) (labels : List String) :
    (Draft.concat ((job.discoveries.zip labels).map fun (d, l) =>
      .report d.findings ++ .block d.kind l (.record d.arguments))).RefersTo refs := by
  rw [Draft.refersTo_concat]
  intro d hd
  obtain ⟨e, he, rfl⟩ := List.mem_map.1 hd
  refine Draft.refersTo_append.2 ⟨Draft.refersTo_report _, ?_⟩
  exact Draft.refersTo_block (areParts_discoveries (List.of_mem_zip he).1) _ _

/-- A job resolves its references up to the receivers of its samples. -/
theorem resolves_draft (defaults : MetricsDefaults) (receivers : List String) (job : ScrapeJob)
    {labels : List String} (hl : isIdentifier label = true)
    (hlabels : ∀ l ∈ labels, isIdentifier l = true) :
    (job.draft defaults receivers label labels).Resolves receivers := by
  let found := job.discoveries.zip labels
  let targets := TargetSource.ofExports (found.map fun e => e.1.kind.exportPath e.2 "targets")
  let rules := RelabelRule.accepted job.relabelRules
  let metricRules := RelabelRule.accepted job.metricRelabelRules
  let refs := Scrape.references label rules metricRules targets receivers
  have hfound := refersTo_found refs job labels
  have hrules : (Scrape.targetRules label rules targets).RefersTo refs :=
    Scrape.refersTo_targetRules.mono fun path h => by simp [refs, Scrape.references, h]
  have hscrape := Scrape.refersTo_scrape label rules metricRules targets receivers job.name
    (job.areParts_settings defaults)
  have hmetrics : (Scrape.metricRules label metricRules receivers).RefersTo refs :=
    Scrape.refersTo_metricRules.mono fun path h => by simp [refs, Scrape.references, h]
  have hdraft : (job.draft defaults receivers label labels).RefersTo refs := by
    unfold draft
    simp only [Draft.refersTo_append, Draft.refersTo_report, true_and, and_true]
    exact ⟨⟨⟨hfound, hrules⟩, hscrape⟩, hmetrics⟩
  refine hdraft.resolves fun path hpath => Scrape.exports_references hl ?_ ?_ ?_ hpath
  · intro path h
    unfold draft
    simp only [Draft.exports_append]
    exact .inl (.inl (.inl (.inr h)))
  · intro path h
    unfold draft
    simp only [Draft.exports_append]
    exact .inr h
  · intro path hpath
    rw [TargetSource.references_ofExports] at hpath
    obtain ⟨e, he, rfl⟩ := List.mem_map.1 hpath
    unfold draft
    simp only [Draft.exports_append]
    exact .inl (.inl (.inl (.inl (.inl (.inr (exports_found hlabels he))))))

theorem yields_convert (labelBase : String) (defaults : MetricsDefaults)
    (receivers : List String) (job : ScrapeJob) :
    (job.convert labelBase defaults receivers).Yields fun d => d.Resolves receivers := by
  refine Labelling.yields_bind (Labelling.yields_fresh _ _) fun label hl => ?_
  have hlabels : (labelDiscoveries label job.discoveries).Yields
      fun labels => ∀ l ∈ labels, isIdentifier l = true :=
    Labelling.yields_mapM fun _ _ => Labelling.yields_fresh _ _
  exact Labelling.yields_bind hlabels fun labels hlabels =>
    Labelling.yields_pure (resolves_draft defaults receivers job hl hlabels)

end ScrapeJob

/-! ## Remote write -/

namespace RemoteWrite

theorem resolves_draft (label : String) (endpoints : List Endpoint)
    (externalLabels : Dictionary String) :
    (draft label endpoints externalLabels).Resolves [] := by
  have hblock : (Draft.block kind label _).RefersTo [] :=
    Draft.refersTo_block (RemoteWrite.areParts endpoints externalLabels) kind label
  exact (Draft.resolves_report _).append hblock.resolves_nil

/-- The block that takes the samples exports its receiver. -/
theorem exports_draft (hl : isIdentifier label = true) (endpoints : List Endpoint)
    (externalLabels : Dictionary String) :
    (draft label endpoints externalLabels).Exports (dotted (receiver label)) := by
  have hparts : AreParts (Special.Uses [] []) _ := RemoteWrite.areParts endpoints externalLabels
  exact Draft.exports_append.2 (.inr (Draft.exports_block hparts (by decide) hl (by decide)))

/-- With the block that takes the samples behind it, a draft resolves all of its references. -/
theorem resolves_append {d : Draft} {shared : Option String}
    (hd : d.Resolves (shared.toList.map receiver)) (h : ∀ l ∈ shared, isIdentifier l = true)
    (endpoints : List Endpoint) (externalLabels : Dictionary String) :
    (d ++ .ofOption (fun l => draft l endpoints externalLabels) shared).Resolves [] := by
  cases shared with
  | none => exact hd.append (Draft.resolves_report [])
  | some l =>
    have hwrite : (draft l endpoints externalLabels).Resolves [receiver l] :=
      (resolves_draft l endpoints externalLabels).supply fun _ h => absurd h (by simp)
    refine (hd.append hwrite).supply fun path hpath => .inl ?_
    obtain rfl := List.mem_singleton.1 hpath
    exact Draft.exports_append.2 (.inr (exports_draft (h l rfl) endpoints externalLabels))

end RemoteWrite

/-! ## Metrics -/

namespace MetricsInstance

theorem yields_writeLabel (defaults : MetricsDefaults) (i : MetricsInstance) :
    (i.writeLabel defaults).Yields fun label => ∀ l ∈ label, isIdentifier l = true := by
  unfold writeLabel
  split
  · exact Labelling.yields_pure (by simp)
  · intro ls l hl
    obtain rfl := Option.some.inj hl
    exact ls.isIdentifier_assign _ _

theorem yields_convert (defaults : MetricsDefaults) (i : MetricsInstance) :
    (i.convert defaults).Yields fun d => d.Resolves [] := by
  refine Labelling.yields_bind (i.yields_writeLabel defaults) fun label hlabel => ?_
  refine Labelling.yields_bind (Labelling.yields_mapM fun job _ =>
    ScrapeJob.yields_convert i.name defaults (label.toList.map RemoteWrite.receiver) job) ?_
  exact fun jobs hjobs => Labelling.yields_pure
    (RemoteWrite.resolves_append (.concat hjobs) hlabel _ _)

end MetricsInstance

/-! ## Integrations -/

namespace Integration

theorem isReference_component (kind : ExporterKind) : IsReference kind.component.segments := by
  cases kind <;> decide

theorem isNamed_component (kind : ExporterKind) : kind.component.IsNamed :=
  (isReference_component kind).1

/-- What an exporter exports when it is there. -/
def exportedTargets (kind : ExporterKind) (label : String) : TargetSource :=
  .exported (kind.component.exportPath label "targets")

theorem refersTo_exporterDraft (kind : ExporterKind) (i : Integration) (label : String) :
    (i.exporterDraft kind label).RefersTo (exportedTargets kind label).references := by
  have hexporter : (Draft.block kind.component label (.record (kind.arguments i.exporter))).RefersTo
      (exportedTargets kind label).references := Draft.refersTo_block (kind.areParts_arguments _) _ _
  have hrules : (Scrape.targetRules label i.targetRules (exportedTargets kind label)).RefersTo
      (exportedTargets kind label).references := Scrape.refersTo_targetRules
  simpa [exporterDraft] using ⟨hexporter, hrules⟩

theorem exports_exporterDraft (kind : ExporterKind) (i : Integration)
    (hl : isIdentifier label = true) {path : String}
    (h : path ∈ (exportedTargets kind label).references) :
    (i.exporterDraft kind label).Exports (dotted path) := by
  obtain rfl := List.mem_singleton.1 h
  have hparts : AreParts (Special.Uses [] []) (kind.arguments i.exporter) :=
    kind.areParts_arguments i.exporter
  have hblock := Draft.exports_block hparts (isNamed_component kind) hl
    (by decide : isIdentifier "targets" = true)
  simp [exporterDraft, hblock]

/-- An exporter and the rules for its targets resolve their references. -/
theorem resolves_exporterDraft (kind : ExporterKind) (i : Integration)
    (hl : isIdentifier label = true) : (i.exporterDraft kind label).Resolves [] :=
  (refersTo_exporterDraft kind i label).resolves fun _ h => .inl (exports_exporterDraft kind i hl h)

/-- With its scrape, an exporter resolves its references up to the shared block. -/
theorem resolves_scraped (kind : ExporterKind) (defaults : MetricsDefaults) (i : Integration)
    (hl : isIdentifier label = true) (writeLabel : String) :
    (i.exporterDraft kind label ++ i.scrapeDraft kind defaults label writeLabel).Resolves
      [RemoteWrite.receiver writeLabel] := by
  let metricRules := RelabelRule.accepted i.common.metricRelabelRules
  let receivers := [RemoteWrite.receiver writeLabel]
  let refs := Scrape.references label i.targetRules metricRules (exportedTargets kind label) receivers
  have hexporter : (i.exporterDraft kind label).RefersTo refs :=
    (refersTo_exporterDraft kind i label).mono fun path h => by simp [refs, Scrape.references, h]
  have hmetrics : (Scrape.metricRules label metricRules receivers).RefersTo refs :=
    Scrape.refersTo_metricRules.mono fun path h => by simp [refs, Scrape.references, h]
  have hscrape : (i.scrapeDraft kind defaults label writeLabel).RefersTo refs := by
    unfold scrapeDraft
    simp only [Draft.refersTo_append, Draft.refersTo_report, true_and]
    refine ⟨Scrape.refersTo_scrape label i.targetRules metricRules (exportedTargets kind label) receivers _
      ?_, hmetrics⟩
    simp
  have hboth := Draft.refersTo_append.2 ⟨hexporter, hscrape⟩
  refine hboth.resolves fun path hpath => Scrape.exports_references hl ?_ ?_ ?_ hpath
  · intro path h
    refine Draft.exports_append.2 (.inl ?_)
    exact Draft.exports_append.2 (.inr h)
  · intro path h
    refine Draft.exports_append.2 (.inr ?_)
    exact Draft.exports_append.2 (.inr h)
  · intro path h
    exact Draft.exports_append.2 (.inl (exports_exporterDraft kind i hl h))

/-- The shared block keeps the label that it has, and whatever refers to it uses this label. -/
def Shares (shared : Option String) (r : Draft × Option String) : Prop :=
  (∀ l ∈ shared, r.2 = some l) ∧ r.1.Resolves (r.2.toList.map RemoteWrite.receiver)

theorem yields_convert (scrape : Option Bool) (defaults : MetricsDefaults) (kind : ExporterKind)
    (i : Integration) (shared : Option String) :
    (i.convert scrape defaults kind shared).Yields (Shares shared) := by
  refine Labelling.yields_bind (Labelling.yields_fresh _ _) fun label hl => ?_
  split
  · have hshared : (sharedLabel shared).Yields fun l => ∀ l' ∈ shared, l = l' := by
      cases shared with
      | some l => exact Labelling.yields_pure fun l' h => Option.some.inj h
      | none => exact fun _ _ h => absurd h (by simp)
    refine Labelling.yields_bind hshared fun writeLabel hw => Labelling.yields_pure ⟨?_, ?_⟩
    · exact fun l h => congrArg some (hw l h)
    · exact resolves_scraped kind defaults i hl writeLabel
  · refine Labelling.yields_pure ⟨fun l h => h, ?_⟩
    exact (resolves_exporterDraft kind i hl).supply fun _ h => absurd h (by simp)

end Integration

namespace IntegrationsSection

open Integration (Shares)

theorem yields_convertActive (scrape : Option Bool) (defaults : MetricsDefaults)
    (active : List (ExporterKind × Integration)) (shared : Option String) :
    (convertActive scrape defaults active shared).Yields (Shares shared) := by
  induction active generalizing shared with
  | nil =>
    exact Labelling.yields_pure ⟨fun l h => h, Draft.resolves_report []⟩
  | cons e active ih =>
    obtain ⟨kind, i⟩ := e
    refine Labelling.yields_bind (Integration.yields_convert scrape defaults kind i shared) ?_
    rintro ⟨draft, shared₁⟩ ⟨hkeep, hdraft⟩
    refine Labelling.yields_bind (ih shared₁) ?_
    rintro ⟨drafts, shared₂⟩ ⟨hkeep', hdrafts⟩
    refine Labelling.yields_pure ⟨fun l h => hkeep' l (hkeep l h), ?_⟩
    refine Draft.Resolves.append (hdraft.supply fun path hpath => .inr ?_) hdrafts
    obtain ⟨l, hl, rfl⟩ := List.mem_map.1 hpath
    have hl' : shared₂ = some l := hkeep' l (Option.mem_toList.1 hl)
    rw [hl']
    exact List.mem_singleton_self _

theorem yields_convert (defaults : MetricsDefaults) (s : IntegrationsSection) :
    (s.convert defaults).Yields fun d => d.Resolves [] := by
  intro ls
  have hshared := isIdentifier_shared s.scrape defaults s.active (by simp : ∀ l ∈ none, _) ls
  have hactive := yields_convertActive s.scrape defaults s.active none ls
  exact RemoteWrite.resolves_append hactive.2 hshared _ _

end IntegrationsSection

/-! ## Agents -/

theorem LogsSection.yields_convert (s : LogsSection) : s.convert.Yields fun d => d.Resolves [] := by
  refine Labelling.yields_bind (Labelling.yields_mapM fun i _ =>
    LogShipper.Config.yields_convertJobs (labelOfParts ["logs", i.name]) (i.standalone s)) ?_
  exact fun ds hds => Labelling.yields_pure (.concat hds)

/-- An agent's configuration resolves all of its references. -/
theorem Config.yields_convert (config : Config) : config.convert.Yields fun d => d.Resolves [] := by
  refine Labelling.yields_bind (Labelling.yields_mapM fun i _ =>
    MetricsInstance.yields_convert config.metrics.defaults i) fun metrics hmetrics => ?_
  refine Labelling.yields_bind (IntegrationsSection.yields_convert _ _) fun integrations hi => ?_
  have hlogging : (Draft.ofOption (Draft.block (.ofDotted "logging") "")
      config.server.logging?).Resolves [] :=
    (Draft.refersTo_ofOption fun _ h => ServerSettings.logging?_fields h).resolves_nil
  have hall : ∀ logs : Draft, logs.Resolves [] → (.report config.findings ++
      .ofOption (Draft.block (.ofDotted "logging") "") config.server.logging? ++
      .concat metrics ++ integrations ++ logs : Draft).Resolves [] := fun logs hlogs =>
    ((((Draft.resolves_report _).append hlogging).append (.concat hmetrics)).append hi).append hlogs
  cases config.logs with
  | none => exact Labelling.yields_pure (hall _ (Draft.resolves_report []))
  | some s =>
    exact Labelling.yields_bind s.yields_convert fun logs hlogs => Labelling.yields_pure (hall _ hlogs)

end AgentConvert.Agent
