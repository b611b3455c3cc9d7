import AgentConvert.Agent.Conversion
import AgentConvert.Proofs.Identity.LogShipper

/-!
# Identities of an agent's blocks

A scrape and the rules around it share the label of their job, and a component that discovers
targets has a label of its own kind. The block that takes the samples gets its label before the
blocks that write to it, and stands behind them; the integrations share one such block, and its
label is handed out when the first scrape needs it (`IntegrationsSection.covers_convertActive`).
-/

namespace AgentConvert.Agent

variable {ls : Labels} {ids : List Identity} {label : String}

/-! ## Scrapes -/

namespace Scrape

/-- The kinds of a scrape and the rules around it, in the order of their blocks. -/
def kinds : List ComponentKind := [targetRelabel, kind, metricRelabel]

theorem nodup_kinds : (kinds.map ComponentKind.name).Nodup := by decide

theorem scopeOf_kinds : ∀ kind ∈ kinds, scopeOf kind.name = "" := by decide

theorem identities_targetRules (h : label ≠ "") (rules : List RelabelRule)
    (targets : TargetSource) :
    (targetRules label rules targets).identities.Sublist [labelled label targetRelabel] :=
  (Draft.identities_when _ _).trans (Draft.identities_block targetRelabel h _)

theorem identities_metricRules (h : label ≠ "") (rules : List RelabelRule)
    (receivers : List String) :
    (metricRules label rules receivers).identities.Sublist [labelled label metricRelabel] :=
  (Draft.identities_when _ _).trans (Draft.identities_block metricRelabel h _)

end Scrape

namespace ScrapeJob

/-- The labels of components that discover are handed out among those of their kind. -/
theorem scopeOf_discoveries {job : ScrapeJob} {d : Discovery} (h : d ∈ job.discoveries) :
    scopeOf d.kind.name = d.kind.name := by
  simp only [discoveries, listedTargets, List.mem_append, List.mem_map] at h
  rcases h with ((((h | ⟨d, -, rfl⟩) | ⟨d, -, rfl⟩) | ⟨d, -, rfl⟩) | ⟨d, -, rfl⟩) | ⟨d, -, rfl⟩
  · split at h
    · exact absurd h (by simp)
    · rw [List.mem_singleton] at h
      subst h
      rfl
  all_goals rfl

theorem identities_found (found : List (Discovery × String)) (h : ∀ e ∈ found, e.2 ≠ "") :
    (Draft.concat (found.map fun (d, l) =>
      .report d.findings ++ .block d.kind l (.record d.arguments))).identities.Sublist
      (found.map fun e => labelled e.2 e.1.kind) := by
  rw [Draft.identities_concat]
  induction found with
  | nil => exact .refl _
  | cons e found ih =>
    simp only [List.map_cons, List.flatMap_cons, Draft.identities_append,
      Draft.identities_report, List.nil_append]
    exact (Draft.identities_block e.1.kind (h e (List.mem_cons_self ..)) _).append
      (ih fun e he => h e (List.mem_cons_of_mem _ he))

theorem identities_draft {job : ScrapeJob} {defaults : MetricsDefaults} {receivers : List String}
    {labels : List String} (h : label ≠ "") (hl : ∀ l ∈ labels, l ≠ "") :
    (job.draft defaults receivers label labels).identities.Sublist
      (((job.discoveries.zip labels).map fun e => labelled e.2 e.1.kind) ++
        Scrape.kinds.map (labelled label)) := by
  have hfound := identities_found (job.discoveries.zip labels) fun e he =>
    hl e.2 (List.of_mem_zip he).2
  have hrules := Scrape.identities_targetRules h (RelabelRule.accepted job.relabelRules)
  have hscrape := fun args => Draft.identities_block Scrape.kind h args
  have hmetrics := Scrape.identities_metricRules h (RelabelRule.accepted job.metricRelabelRules)
    receivers
  simpa [draft, Scrape.kinds] using
    ((hfound.append (hrules _)).append (hscrape _)).append hmetrics

theorem keeps_convert (labelBase : String) (defaults : MetricsDefaults) (receivers : List String)
    (job : ScrapeJob) : (job.convert labelBase defaults receivers).Keeps := by
  intro ls ids h
  let base := labelOfParts [labelBase, job.name]
  let label := (ls.assign "" base).1
  have hlabel : label ≠ "" := ne_of_isIdentifier (ls.isIdentifier_assign _ _)
  have hscrape := h.fresh base Scrape.nodup_kinds Scrape.scopeOf_kinds
  have hfound := hscrape.mapM_fresh Discovery.kind (fun _ => label)
    fun d (hd : d ∈ job.discoveries) => scopeOf_discoveries hd
  refine hfound.swap.sublist (.append (.refl _) (identities_draft hlabel fun l hl => ?_))
  exact ne_of_isIdentifier
    (Labelling.yields_mapM (fun _ _ => Labelling.yields_fresh _ label) _ l hl)

end ScrapeJob

/-! ## Remote write -/

theorem RemoteWrite.identities_draft (h : label ≠ "") (endpoints : List Endpoint)
    (externalLabels : Dictionary String) :
    (draft label endpoints externalLabels).identities.Sublist [labelled label kind] := by
  rw [draft, Draft.identities_append, Draft.identities_report, List.nil_append]
  exact Draft.identities_block kind h _

/-- A fresh label covers the block that takes the samples. -/
theorem RemoteWrite.covers_fresh (h : ls.Covers ids) (base : String) :
    (ls.assign kind.name base).2.Covers (ids ++ [labelled (ls.assign kind.name base).1 kind]) :=
  h.fresh_own base (by decide)

/-! ## Metrics -/

theorem MetricsInstance.keeps_convert (defaults : MetricsDefaults) (i : MetricsInstance) :
    (i.convert defaults).Keeps := by
  intro ls ids h
  by_cases hempty : (i.endpoints defaults).isEmpty = true
  · have hlabel : i.writeLabel defaults = pure none := by simp only [writeLabel, hempty, if_true]
    have hjobs := Labelling.keeps_mapM
      (fun job (_ : job ∈ i.jobs) => ScrapeJob.keeps_convert i.name defaults [] job) h
    simpa [convert, hlabel, Draft.ofOption] using hjobs
  · let base := if i.name = "" then "default" else i.name
    let label := (ls.assign RemoteWrite.kind.name base).1
    have hwrite : i.writeLabel defaults = some <$> Labelling.fresh RemoteWrite.kind.name base := by
      simp only [writeLabel, hempty]
      rfl
    have hlabel : label ≠ "" := ne_of_isIdentifier (ls.isIdentifier_assign _ _)
    have hjobs := Labelling.keeps_mapM (fun job (_ : job ∈ i.jobs) =>
      ScrapeJob.keeps_convert i.name defaults [RemoteWrite.receiver label] job)
      (RemoteWrite.covers_fresh h base)
    have hblock := RemoteWrite.identities_draft hlabel (i.endpoints defaults)
      defaults.externalLabels
    have hall := hjobs.swap.sublist (.append (.refl _) (.append (.refl _) hblock))
    simpa [convert, hwrite, Draft.ofOption] using hall

/-! ## Integrations -/

namespace Integration

/-- The kinds of an integration's blocks, in their order. -/
def kinds (kind : ExporterKind) : List ComponentKind := kind.component :: Scrape.kinds

theorem nodup_kinds (kind : ExporterKind) : ((kinds kind).map ComponentKind.name).Nodup := by
  cases kind <;> decide

theorem scopeOf_kinds (exporter : ExporterKind) :
    ∀ kind ∈ kinds exporter, scopeOf kind.name = "" := by
  cases exporter <;> decide

theorem identities_exporterDraft (kind : ExporterKind) (i : Integration) (h : label ≠ "") :
    (i.exporterDraft kind label).identities.Sublist
      [labelled label kind.component, labelled label Scrape.targetRelabel] := by
  have hexporter := Draft.identities_block kind.component h (.record (kind.arguments i.exporter))
  have hrules := Scrape.identities_targetRules h i.targetRules
    (.exported (kind.component.exportPath label "targets"))
  simpa [exporterDraft] using hexporter.append hrules

theorem identities_scrapeDraft (kind : ExporterKind) (defaults : MetricsDefaults) (i : Integration)
    (h : label ≠ "") (writeLabel : String) :
    (i.scrapeDraft kind defaults label writeLabel).identities.Sublist
      [labelled label Scrape.kind, labelled label Scrape.metricRelabel] := by
  have hscrape := fun args => Draft.identities_block Scrape.kind h args
  have hmetrics := Scrape.identities_metricRules h
    (RelabelRule.accepted i.common.metricRelabelRules) [RemoteWrite.receiver writeLabel]
  simpa [scrapeDraft] using (hscrape _).append hmetrics

/-- The identity of the shared block, if it has a label by now. -/
def pending (shared : Option String) : List Identity :=
  shared.toList.map (labelled · RemoteWrite.kind)

/-- The label of the shared block is covered, whether it was handed out before or is now. -/
theorem covers_sharedLabel {shared : Option String} (h : ls.Covers (ids ++ pending shared)) :
    (sharedLabel shared ls).2.Covers (ids ++ pending (some (sharedLabel shared ls).1)) := by
  cases shared with
  | some writeLabel => exact h
  | none =>
    have hids : ls.Covers ids := by simpa [pending] using h
    exact RemoteWrite.covers_fresh hids labelBase

/-- Converting one integration keeps the invariant, with the shared block behind it. -/
theorem covers_convert (scrape : Option Bool) (defaults : MetricsDefaults) (kind : ExporterKind)
    (i : Integration) {shared : Option String} (h : ls.Covers (ids ++ pending shared)) :
    let r := i.convert scrape defaults kind shared ls
    r.2.Covers (ids ++ r.1.1.identities ++ pending r.1.2) := by
  let base := labelOfParts [labelBase, kind.key]
  let label := (ls.assign "" base).1
  have hlabel : label ≠ "" := ne_of_isIdentifier (ls.isIdentifier_assign _ _)
  have hfresh := (h.fresh base (nodup_kinds kind) (scopeOf_kinds kind)).swap
  rw [← List.append_assoc] at hfresh
  have hexporter := identities_exporterDraft kind i hlabel
  by_cases hscrape : i.isScraped scrape = true
  · have hshared := covers_sharedLabel hfresh
    have hboth := hexporter.append (identities_scrapeDraft kind defaults i hlabel
      (sharedLabel shared (ls.assign "" base).2).1)
    have hall := hshared.sublist (.append (.append (.refl ids) hboth) (.refl _))
    simpa [convert, hscrape] using hall
  · have hkinds : [labelled label kind.component, labelled label Scrape.targetRelabel].Sublist
        ((kinds kind).map (labelled label)) := by
      refine .cons_cons _ (.cons_cons _ (List.nil_sublist _))
    have hall := hfresh.sublist (.append (.append (.refl ids) (hexporter.trans hkinds)) (.refl _))
    simpa [convert, hscrape] using hall

theorem yields_sharedLabel {shared : Option String} (h : ∀ l ∈ shared, isIdentifier l = true) :
    (sharedLabel shared).Yields fun l => isIdentifier l = true := by
  cases shared with
  | some l => exact Labelling.yields_pure (h l rfl)
  | none => exact Labelling.yields_fresh _ _

/-- The label of the shared block is an identifier, once it has one. -/
theorem isIdentifier_shared (scrape : Option Bool) (defaults : MetricsDefaults)
    (kind : ExporterKind) (i : Integration) {shared : Option String}
    (h : ∀ l ∈ shared, isIdentifier l = true) :
    (i.convert scrape defaults kind shared).Yields fun r => ∀ l ∈ r.2, isIdentifier l = true := by
  refine Labelling.yields_bind (Labelling.yields_fresh _ _) fun label _ => ?_
  split
  · refine Labelling.yields_bind (yields_sharedLabel h) fun l hl => ?_
    refine Labelling.yields_pure fun l' hl' => ?_
    obtain rfl := Option.some.inj hl'
    exact hl
  · exact Labelling.yields_pure h

end Integration

namespace IntegrationsSection

open Integration (pending)

/-- Converting integrations one after the other keeps the invariant, with the shared block behind
them. -/
theorem covers_convertActive (scrape : Option Bool) (defaults : MetricsDefaults)
    (active : List (ExporterKind × Integration)) {shared : Option String}
    (h : ls.Covers (ids ++ pending shared)) :
    let r := convertActive scrape defaults active shared ls
    r.2.Covers (ids ++ r.1.1.identities ++ pending r.1.2) := by
  induction active generalizing ls ids shared with
  | nil => simpa [convertActive] using h
  | cons e active ih =>
    obtain ⟨kind, i⟩ := e
    have hfirst := Integration.covers_convert scrape defaults kind i h
    simpa [convertActive] using ih hfirst

theorem isIdentifier_shared (scrape : Option Bool) (defaults : MetricsDefaults)
    (active : List (ExporterKind × Integration)) {shared : Option String}
    (h : ∀ l ∈ shared, isIdentifier l = true) :
    (convertActive scrape defaults active shared).Yields
      fun r => ∀ l ∈ r.2, isIdentifier l = true := by
  induction active generalizing shared with
  | nil => exact Labelling.yields_pure h
  | cons e active ih =>
    obtain ⟨kind, i⟩ := e
    refine Labelling.yields_bind (Integration.isIdentifier_shared scrape defaults kind i h) ?_
    exact fun r hr => Labelling.yields_bind (ih hr) fun r hr => Labelling.yields_pure hr

/-- The shared block, if there is one, is covered by its label. -/
theorem identities_shared {shared : Option String} (h : ∀ l ∈ shared, isIdentifier l = true)
    (endpoints : List Endpoint) (externalLabels : Dictionary String) :
    (Draft.ofOption (fun l => RemoteWrite.draft l endpoints externalLabels)
      shared).identities.Sublist (pending shared) := by
  cases shared with
  | none => exact .refl _
  | some l => exact RemoteWrite.identities_draft (ne_of_isIdentifier (h l rfl)) _ _

theorem keeps_convert (defaults : MetricsDefaults) (s : IntegrationsSection) :
    (s.convert defaults).Keeps := by
  intro ls ids h
  have hstart : ls.Covers (ids ++ pending none) := by simpa [pending] using h
  have hactive := covers_convertActive s.scrape defaults s.active hstart
  have hshared : ∀ l ∈ (none : Option String), isIdentifier l = true := by simp
  have hwrite := identities_shared (isIdentifier_shared s.scrape defaults s.active hshared ls)
    (s.endpoints defaults) defaults.externalLabels
  have hall := hactive.sublist (.append (.refl _) hwrite)
  simpa [convert] using hall

end IntegrationsSection

/-! ## Logs -/

theorem LogsSection.keeps_convert (s : LogsSection) : s.convert.Keeps := by
  intro ls ids h
  have hinstances := Labelling.keeps_mapM (fun i (_ : i ∈ s.instances) =>
    LogShipper.Config.keeps_convertJobs (labelOfParts ["logs", i.name]) (i.standalone s)) h
  exact hinstances

/-! ## Agents -/

/-- An agent's logs stand behind blocks that are covered by the labels handed out before. -/
theorem Config.exists_before_logs (config : Config) : ∃ (before : Draft) (ls : Labels),
    ls.Covers before.identities ∧ config.convert .empty =
      match config.logs with
      | some s => (before ++ (s.convert ls).1, (s.convert ls).2)
      | none => (before ++ .empty, ls) := by
  let defaults := config.metrics.defaults
  have hlogging := (Labels.covers_unlabelled (.ofDotted "logging")).sublist
    (Draft.identities_unlabelled (.ofDotted "logging") config.server.logging?)
  have hmetrics := Labelling.keeps_mapM (fun i (_ : i ∈ config.metrics.instances) =>
    MetricsInstance.keeps_convert defaults i) hlogging
  have hintegrations := IntegrationsSection.keeps_convert defaults config.integrations hmetrics
  let metrics := config.metrics.instances.mapM (·.convert defaults) .empty
  let integrations := config.integrations.convert defaults metrics.2
  let logging := Draft.ofOption (Draft.block (.ofDotted "logging") "") config.server.logging?
  refine ⟨.report config.findings ++ logging ++ .concat metrics.1 ++ integrations.1,
    integrations.2, by simpa using hintegrations, ?_⟩
  unfold convert
  cases config.logs <;> rfl

/-- An agent's blocks are covered, behind the one block without a label. -/
theorem Config.covers_convert (config : Config) :
    let r := config.convert .empty
    r.2.Covers r.1.identities := by
  obtain ⟨before, ls, hcovers, hconvert⟩ := config.exists_before_logs
  rw [hconvert]
  cases config.logs with
  | none => simpa using hcovers
  | some s => simpa using LogsSection.keeps_convert s hcovers

end AgentConvert.Agent
