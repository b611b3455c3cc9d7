import AgentConvert.Proofs.Scraping.Layout

/-!
# Jobs are scraped

In the document of an agent, the scrape of a job takes the targets of every source that the job has,
once and in order, and its samples are taken to the block that writes those of the job's instance
(`ScrapeJob.IsScraped`). This is so wherever the blocks of a job stand, as long as no other block
has their kind and label (`ScrapeJob.isScraped_blocks`).
-/

namespace AgentConvert

namespace Agent

/-! ## What scraping means -/

/-- Whether a document has a job scraped by these blocks, with the samples taken to `write`. -/
structure ScrapeJob.IsScraped (document : List Block) (write : Option Block) (job : ScrapeJob)
    (s : JobBlocks) : Prop where
  /-- There is one block for the targets that the job lists, if it lists any, and one for each of
  its other ways to find targets, in order. -/
  kinds : s.sources.map Block.name =
    (if ∃ g ∈ job.targetGroups, g.targets ≠ [] then [["discovery", "static"]] else []) ++
    job.dns.map (fun _ => ["discovery", "dns"]) ++
    job.httpDiscovery.map (fun _ => ["discovery", "http"]) ++
    job.file.map (fun _ => ["discovery", "file"]) ++
    job.consul.map (fun _ => ["discovery", "consul"]) ++
    job.ovhcloud.map fun _ => ["discovery", "ovhcloud"]
  /-- They have the settings of these, in the same order. -/
  sources : s.sources.map Block.body =
    job.discoveries.map fun d => Argument.parts Special.render d.arguments
  /-- One block scrapes. -/
  scrape : s.scrape.name = ["prometheus", "scrape"]
  /-- One block holds the rules for targets, if some are accepted. -/
  targetRules : (s.targetRules.isSome ↔ ∃ r ∈ job.relabelRules, r.fault? = none) ∧
    ∀ r ∈ s.targetRules, r.name = ["discovery", "relabel"]
  /-- One block holds the rules for samples, if some are accepted. -/
  metricRules : (s.metricRules.isSome ↔ ∃ r ∈ job.metricRelabelRules, r.fault? = none) ∧
    ∀ r ∈ s.metricRules, r.name = ["prometheus", "relabel"]
  /-- What is scraped are the targets of exactly these sources, in order, past the rules. -/
  supplied : ∀ passed sources, Supplied document s.scrape passed sources ↔
    passed = s.targetRules.toList ∧ sources = s.sources
  /-- Without a source no targets are listed. -/
  unsupplied : s.sources = [] →
    (s.targetRules.getD s.scrape).attribute? "targets" = some (.array [])
  /-- The samples go past the rules to where they are written, and nowhere else. -/
  routes : ∀ way, Route document s.scrape way ↔
    ∃ w ∈ write, way = s.metricRules.toList ++ [w]

/-- Whether a document has the jobs of an instance scraped by these blocks. -/
structure MetricsInstance.IsScraped (document : List Block) (defaults : MetricsDefaults)
    (i : MetricsInstance) (s : InstanceBlocks) : Prop where
  /-- All jobs are there, in order. -/
  jobs : s.jobs.map Prod.fst = i.jobs
  /-- Samples are written if there is an endpoint for them. -/
  write : s.write.isSome ↔
    (if i.remoteWrite = [] then defaults.remoteWrite else i.remoteWrite) ≠ []
  /-- They are written to the endpoints. -/
  writes : ∀ w ∈ s.write, RemoteWrite.Writes
    (if i.remoteWrite = [] then defaults.remoteWrite else i.remoteWrite) w
  /-- Each job is scraped, and its samples are taken to this block. -/
  scraped : ∀ e ∈ s.jobs, e.1.IsScraped document s.write e.2

namespace ScrapeJob

variable {document : List Block} {job : ScrapeJob} {s : JobBlocks} {defaults : MetricsDefaults}

/-- The blocks of a job under labels of their own scrape what it discovers. -/
theorem isScraped_blocks (hnodup : (document.map Block.place).Nodup) {written : Option String}
    (hwritten : ∀ l ∈ written, isIdentifier l = true) {endpoints : List Endpoint}
    {externalLabels : Dictionary String}
    (hwrite : ∀ w ∈ written.map (RemoteWrite.block · endpoints externalLabels), w ∈ document)
    (h : job.HasBlocks defaults (written.toList.map RemoteWrite.receiver) s)
    (hmem : ∀ b ∈ s.all, b ∈ document) :
    job.IsScraped document (written.map (RemoteWrite.block · endpoints externalLabels)) s := by
  obtain ⟨label, labels, hlabel, hlabels, hlength, rfl⟩ := h
  simp only [JobBlocks.all, List.forall_mem_append, Option.mem_toList,
    List.forall_mem_singleton] at hmem
  obtain ⟨⟨⟨hsources, htargetRules⟩, hscrape⟩, hmetricRules⟩ := hmem
  have hzip : (job.discoveries.zip labels).map Prod.fst = job.discoveries :=
    List.map_fst_zip (Nat.le_of_eq hlength.symm)
  let s := job.blocks defaults (written.toList.map RemoteWrite.receiver) label labels
  have hsupplied : ∀ passed sources, Supplied document s.scrape passed sources ↔
      passed = s.targetRules.toList ∧ sources = s.sources := fun passed sources =>
    Scrape.supplied_iff hnodup hlabel (discoveredBy_sources hlabels hsources) htargetRules
      (Scrape.attribute?_targets_block _ _)
  constructor
  case kinds =>
    rw [← kinds_discoveries]
    conv_rhs => rw [← hzip]
    show ((job.discoveries.zip labels).map _).map _ = _
    rw [List.map_map, List.map_map]
    rfl
  case sources =>
    conv_rhs => rw [← hzip]
    show ((job.discoveries.zip labels).map _).map _ = _
    rw [List.map_map, List.map_map]
    rfl
  case scrape => exact (by decide : Scrape.kind.segments = ["prometheus", "scrape"])
  case targetRules =>
    exact ⟨Scrape.isSome_targetRules?.trans RelabelRule.accepted_ne_nil,
      fun r hr => Scrape.name_of_targetRules? hr⟩
  case metricRules =>
    exact ⟨Scrape.isSome_metricRules?.trans RelabelRule.accepted_ne_nil,
      fun r hr => Scrape.name_of_metricRules? hr⟩
  case supplied => exact hsupplied
  case unsupplied =>
    exact fun hnil => Supplied.attribute?_of_nil ((hsupplied _ _).2 ⟨rfl, hnil.symm⟩)
  case routes =>
    exact fun way => Scrape.route_iff hnodup hlabel hwritten hwrite hmetricRules
      (Scrape.attribute?_forwardTo_block _ _)

end ScrapeJob

/-- The blocks of an instance in a document scrape what its jobs discover. -/
theorem MetricsInstance.isScraped_blocks {document : List Block}
    (hnodup : (document.map Block.place).Nodup) {defaults : MetricsDefaults} {i : MetricsInstance}
    {s : InstanceBlocks} (h : i.HasBlocks defaults s) (hmem : ∀ b ∈ s.all, b ∈ document) :
    i.IsScraped document defaults s := by
  obtain ⟨written, hwritten, hsome, hwrite, hjobs, hblocks⟩ := h
  simp only [InstanceBlocks.all, List.forall_mem_append, List.forall_mem_flatMap,
    Option.mem_toList] at hmem
  constructor
  case jobs => exact hjobs
  case write => rw [hwrite, Option.isSome_map, hsome, endpoints_eq]
  case writes =>
    intro w hw
    rw [hwrite] at hw
    exact endpoints_eq defaults i ▸ RemoteWrite.writes_of_mem hw
  case scraped =>
    intro e he
    rw [hwrite] at hmem ⊢
    exact ScrapeJob.isScraped_blocks hnodup hwritten hmem.2 (hblocks e he) (hmem.1 e he)

/-- Only jobs have blocks that discover targets. -/
theorem Config.name_notMem_discoveryNames {config : Config} {l : Layout} (h : config.HasLayout l) :
    ∀ b ∈ l.logging ++ (l.integrations.all ++ l.logs), b.name ∉ discoveryNames := by
  have hintegrations : ∀ kind, ∀ k ∈ RemoteWrite.kind :: Integration.kinds kind,
      k.segments ∉ discoveryNames := by
    intro kind
    have hscrape : ∀ k ∈ Scrape.kinds, k.segments ∉ discoveryNames := by decide
    simp only [Integration.kinds, List.forall_mem_cons]
    refine ⟨by decide, ?_, hscrape⟩
    rw [Integration.component_segments]
    simp [discoveryNames]
  have hlogs : ∀ k ∈ LogShipper.Kind.write :: LogShipper.Kind.ofJob,
      k.segments ∉ discoveryNames := by decide
  simp only [List.forall_mem_append]
  refine ⟨fun b hb => ?_, fun b hb => ?_, fun b hb => ?_⟩
  · rw [h.logging b hb]
    decide
  · obtain ⟨kind, k, hk, hname⟩ := IntegrationsSection.exists_kind h.integrations hb
    rw [hname]
    exact hintegrations kind k hk
  · obtain ⟨k, hk, hname⟩ := h.logs b hb
    rw [hname]
    exact hlogs k hk

end Agent

open Agent in
/-- In the document of an agent every job of every metrics instance is scraped, and the blocks that
discover targets are those of the jobs. -/
theorem SourceConfig.jobs_scraped (registry : Collector.Registry) (config : Agent.Config) :
    let document := Body.blocks ((agent config).standalone registry).document
    (document.map Block.identity).Nodup ∧
    ∃ (before after : List Block) (instances : List (MetricsInstance × InstanceBlocks)),
      document = before ++ (instances.flatMap fun p => p.2.all) ++ after ∧
      (∀ b ∈ before ++ after, b.name ∉ discoveryNames) ∧
      instances.map Prod.fst = config.metrics.instances ∧
      ∀ p ∈ instances, p.1.IsScraped document config.metrics.defaults p.2 := by
  obtain ⟨l, hlayout, hblocks⟩ := config.yields_layout .empty
  rw [Draft.blocks_document]
  have hdocument : ((agent config).standalone registry).blocks = l.logging ++
      (l.instances.flatMap fun p => p.2.all) ++ (l.integrations.all ++ l.logs) :=
    hblocks.trans (List.append_assoc ..)
  have hidentities : (((agent config).standalone registry).blocks.map Block.identity).Nodup :=
    config.covers_convert.nodup
  refine ⟨hidentities, l.logging, l.integrations.all ++ l.logs, l.instances, hdocument,
    Config.name_notMem_discoveryNames hlayout, hlayout.instances, fun p hp => ?_⟩
  refine MetricsInstance.isScraped_blocks (Block.nodup_places hidentities)
    (hlayout.instanceBlocks p hp) fun b hb => ?_
  rw [hdocument]
  exact List.mem_append_left _ (List.mem_append_right _ (List.mem_flatMap.2 ⟨p, hp, hb⟩))

end AgentConvert
