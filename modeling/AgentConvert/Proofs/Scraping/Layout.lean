import AgentConvert.Proofs.Routing.Routed
import AgentConvert.Proofs.Scraping.Blocks

/-!
# The layout of an agent's document

The blocks of an agent stand in four regions: the one for its own logging, those of the metrics
instances, those of the integrations with the block that these write to, and those of the logs
(`Layout`). Each instance, each job and each integration has its blocks side by side, under the
labels that were handed out for it (`Config.HasLayout`).

The label of the block that the integrations write to is handed out with the first scrape and kept
from then on, so all scrapes use the last one (`IntegrationsSection.yields_parts`).
-/

namespace AgentConvert

/-! ## Regions -/

/-- Whether every path in the blocks names what one of them exports. -/
def Closed (blocks : List Block) : Prop :=
  ∀ b ∈ blocks, ∀ segments, .path segments ∈ exprsOfBody b.body → ∃ c ∈ blocks, c.Exports segments

theorem Draft.Resolves.closed {d : Draft} (h : d.Resolves []) : Closed d.blocks := by
  intro b hb segments hpath
  rcases h segments (mem_paths_document.2 ⟨b, hb, hpath⟩) with hexports | ⟨path, hpath, -⟩
  · exact hexports
  · exact absurd hpath (by simp)

namespace Closed

variable {as bs : List Block}

theorem append (ha : Closed as) (hb : Closed bs) : Closed (as ++ bs) := by
  intro b hmem segments hpath
  rcases List.mem_append.1 hmem with h | h
  · obtain ⟨c, hc, hexports⟩ := ha b h segments hpath
    exact ⟨c, List.mem_append_left _ hc, hexports⟩
  · obtain ⟨c, hc, hexports⟩ := hb b h segments hpath
    exact ⟨c, List.mem_append_right _ hc, hexports⟩

theorem flatMap {α : Type} {f : α → List Block} {items : List α} (h : ∀ a ∈ items, Closed (f a)) :
    Closed (items.flatMap f) := by
  intro b hmem segments hpath
  obtain ⟨a, ha, hb⟩ := List.mem_flatMap.1 hmem
  obtain ⟨c, hc, hexports⟩ := h a ha b hb segments hpath
  exact ⟨c, List.mem_flatMap.2 ⟨a, ha, hc⟩, hexports⟩

end Closed

namespace Labelling

variable {α γ : Type}

/-- Work whose pieces come to blocks of their own comes to these blocks side by side. -/
theorem yields_parts_mapM {f : α → Labelling Draft} {ok : α → γ → Prop} {blocks : γ → List Block}
    {as : List α} (h : ∀ a ∈ as, (f a).Yields fun d => ∃ c, ok a c ∧ d.blocks = blocks c) :
    (as.mapM f).Yields fun ds => ∃ parts : List (α × γ), parts.map Prod.fst = as ∧
      (∀ p ∈ parts, ok p.1 p.2) ∧ (Draft.concat ds).blocks = parts.flatMap fun p => blocks p.2 := by
  intro ls
  have hforall := yields_forall₂_mapM h ls
  generalize (as.mapM f ls).1 = ds at hforall
  induction hforall with
  | nil => exact ⟨[], rfl, by simp, rfl⟩
  | @cons a d as ds hfirst _ ih =>
    obtain ⟨c, hc, hblocks⟩ := hfirst
    obtain ⟨parts, hkeys, hok, hrest⟩ := ih fun b hb => h b (List.mem_cons_of_mem _ hb)
    refine ⟨(a, c) :: parts, by rw [List.map_cons, hkeys], ?_, ?_⟩
    · exact List.forall_mem_cons.2 ⟨hc, hok⟩
    · rw [Draft.blocks_concat, List.flatMap_cons, hblocks, List.flatMap_cons]
      exact congrArg _ hrest

end Labelling

namespace Agent

/-! ## Metrics -/

/-- Whether these are the blocks of the job, under some labels. -/
def ScrapeJob.HasBlocks (defaults : MetricsDefaults) (receivers : List String) (job : ScrapeJob)
    (s : JobBlocks) : Prop :=
  ∃ (label : String) (labels : List String), isIdentifier label = true ∧
    (∀ l ∈ labels, isIdentifier l = true) ∧ labels.length = job.discoveries.length ∧
    s = job.blocks defaults receivers label labels

theorem ScrapeJob.yields_blocks (labelBase : String) (defaults : MetricsDefaults)
    (receivers : List String) (job : ScrapeJob) :
    (job.convert labelBase defaults receivers).Yields fun d =>
      ∃ s, job.HasBlocks defaults receivers s ∧ d.blocks = s.all := by
  refine Labelling.yields_bind (Labelling.yields_fresh _ _) fun label hl => ?_
  have hlabels : (labelDiscoveries label job.discoveries).Yields fun labels =>
      (∀ l ∈ labels, isIdentifier l = true) ∧ labels.length = job.discoveries.length := fun ls =>
    ⟨Labelling.yields_mapM (fun _ _ => Labelling.yields_fresh _ _) ls,
      Labelling.length_mapM _ _ ls⟩
  refine Labelling.yields_bind hlabels fun labels h => Labelling.yields_pure ?_
  exact ⟨_, ⟨label, labels, hl, h.1, h.2, rfl⟩, blocks_draft defaults receivers
    (ne_of_isIdentifier hl) fun l hmem => ne_of_isIdentifier (h.1 l hmem)⟩

theorem MetricsInstance.endpoints_eq (defaults : MetricsDefaults) (i : MetricsInstance) :
    i.endpoints defaults =
      if i.remoteWrite = [] then defaults.remoteWrite else i.remoteWrite := by
  simp [endpoints]

/-- The blocks of a metrics instance: those of its jobs, and the one that its samples are written
by, if they are. -/
structure InstanceBlocks where
  jobs : List (ScrapeJob × JobBlocks)
  write : Option Block

/-- All blocks of the instance, in order. -/
def InstanceBlocks.all (s : InstanceBlocks) : List Block :=
  (s.jobs.flatMap fun e => e.2.all) ++ s.write.toList

/-- Whether these are the blocks of the instance, under some labels. -/
def MetricsInstance.HasBlocks (defaults : MetricsDefaults) (i : MetricsInstance)
    (s : InstanceBlocks) : Prop :=
  ∃ written : Option String, (∀ l ∈ written, isIdentifier l = true) ∧
    (written.isSome ↔ i.endpoints defaults ≠ []) ∧
    s.write = written.map (RemoteWrite.block · (i.endpoints defaults) defaults.externalLabels) ∧
    s.jobs.map Prod.fst = i.jobs ∧
    ∀ e ∈ s.jobs, e.1.HasBlocks defaults (written.toList.map RemoteWrite.receiver) e.2

/-- The blocks that samples are written by, if there is a label for them. -/
theorem RemoteWrite.blocks_ofOption {written : Option String}
    (h : ∀ l ∈ written, isIdentifier l = true) (endpoints : List Endpoint)
    (externalLabels : Dictionary String) :
    (Draft.ofOption (fun l => draft l endpoints externalLabels) written).blocks =
      (written.map (block · endpoints externalLabels)).toList := by
  cases written with
  | none => rfl
  | some l => exact blocks_draft (ne_of_isIdentifier (h l rfl)) endpoints externalLabels

theorem MetricsInstance.yields_blocks (defaults : MetricsDefaults) (i : MetricsInstance) :
    (i.convert defaults).Yields fun d =>
      ∃ s, i.HasBlocks defaults s ∧ d.blocks = s.all := by
  have hlabel : (i.writeLabel defaults).Yields fun written =>
      written.isSome ↔ i.endpoints defaults ≠ [] := by
    unfold writeLabel
    split
    · rename_i hempty
      exact Labelling.yields_pure (by simpa using hempty)
    · rename_i hempty
      exact fun ls => by simpa using hempty
  have hwritten : (i.writeLabel defaults).Yields fun written =>
      (∀ l ∈ written, isIdentifier l = true) ∧
        (written.isSome ↔ i.endpoints defaults ≠ []) := fun ls =>
    ⟨i.yields_writeLabel defaults ls, hlabel ls⟩
  refine Labelling.yields_bind hwritten fun written ⟨hidentifiers, hsome⟩ => ?_
  refine Labelling.yields_bind (Labelling.yields_parts_mapM fun job _ =>
    ScrapeJob.yields_blocks i.name defaults (written.toList.map RemoteWrite.receiver) job) ?_
  rintro ds ⟨jobs, hjobs, hblocks, hconcat⟩
  refine Labelling.yields_pure ⟨⟨jobs, _⟩, ⟨written, hidentifiers, hsome, rfl, hjobs, hblocks⟩, ?_⟩
  rw [Draft.blocks_append, hconcat, RemoteWrite.blocks_ofOption hidentifiers]
  rfl

/-! ## Integrations -/

/-- Whether these are the blocks of the integration, under some label. -/
def Integration.HasBlocks (kind : ExporterKind) (defaults : MetricsDefaults) (i : Integration)
    (written : Option String) (s : IntegrationBlocks) : Prop :=
  ∃ label : String, isIdentifier label = true ∧ s = i.blocks kind defaults label written

/-- The kinds of the blocks of an integration. -/
theorem Integration.exists_kind {kind : ExporterKind} {defaults : MetricsDefaults} {i : Integration}
    {written : Option String} {s : IntegrationBlocks} (h : i.HasBlocks kind defaults written s)
    {b : Block} (hb : b ∈ s.all) : ∃ k ∈ kinds kind, b.name = k.segments := by
  obtain ⟨label, -, rfl⟩ := h
  simp only [IntegrationBlocks.all, blocks, List.mem_append, List.mem_cons, Option.mem_toList,
    Option.map_eq_some_iff, Option.bind_eq_some_iff] at hb
  rcases hb with (rfl | hb) | ⟨l, -, rfl⟩ | ⟨l, -, hb⟩
  · exact ⟨kind.component, by simp [kinds], rfl⟩
  · exact ⟨Scrape.targetRelabel, by simp [kinds, Scrape.kinds], Scrape.name_of_targetRules? hb⟩
  · exact ⟨Scrape.kind, by simp [kinds, Scrape.kinds], rfl⟩
  · exact ⟨Scrape.metricRelabel, by simp [kinds, Scrape.kinds], Scrape.name_of_metricRules? hb⟩

theorem Integration.yields_blocks (scrape : Option Bool) (defaults : MetricsDefaults)
    (kind : ExporterKind) (i : Integration) (shared : Option String) :
    (i.convert scrape defaults kind shared).Yields fun r =>
      (r.2.isSome ↔ shared.isSome ∨ i.isScraped scrape = true) ∧
      ∃ s, i.HasBlocks kind defaults (if i.isScraped scrape then r.2 else none) s ∧
        r.1.blocks = s.all := by
  refine Labelling.yields_bind (Labelling.yields_fresh _ _) fun label hl => ?_
  have hne := ne_of_isIdentifier hl
  split
  · rename_i hscraped
    exact fun ls => ⟨by simp [hscraped], _, ⟨label, hl, rfl⟩, blocks_scraped defaults hne _⟩
  · rename_i hscraped
    exact Labelling.yields_pure
      ⟨by simp [hscraped], _, ⟨label, hl, rfl⟩, blocks_exporterDraft defaults hne⟩

namespace IntegrationsSection

/-- What integrations become, with the label that the block that they write to has at the end. -/
theorem yields_parts (scrape : Option Bool) (defaults : MetricsDefaults)
    (active : List (ExporterKind × Integration)) (shared : Option String) :
    (convertActive scrape defaults active shared).Yields fun r =>
      (r.2.isSome ↔ shared.isSome ∨ ∃ e ∈ active, e.2.isScraped scrape = true) ∧
      ∃ parts : List ((ExporterKind × Integration) × IntegrationBlocks),
        parts.map Prod.fst = active ∧ (∀ p ∈ parts, p.1.2.HasBlocks p.1.1 defaults
          (if p.1.2.isScraped scrape then r.2 else none) p.2) ∧
        r.1.blocks = parts.flatMap fun p => p.2.all := by
  induction active generalizing shared with
  | nil => exact Labelling.yields_pure ⟨by simp, [], rfl, by simp, rfl⟩
  | cons e active ih =>
    obtain ⟨kind, i⟩ := e
    refine Labelling.yields_bind (Integration.yields_blocks scrape defaults kind i shared) ?_
    rintro ⟨draft, shared₁⟩ ⟨hsome, s, hs, hblocks⟩
    intro ls
    let r := (convertActive scrape defaults active shared₁ ls).1
    obtain ⟨hsome', parts, hkeys, hparts, hblocks'⟩ := ih shared₁ ls
    have hkeep : ∀ l ∈ shared₁, r.2 = some l :=
      (yields_convertActive scrape defaults active shared₁ ls).1
    have hwritten : (if i.isScraped scrape then shared₁ else none) =
        if i.isScraped scrape then r.2 else none := by
      split
      · rename_i hscraped
        obtain ⟨l, hl⟩ := Option.isSome_iff_exists.1 (hsome.2 (.inr hscraped))
        exact hl.trans (hkeep l hl).symm
      · rfl
    refine ⟨?_, ((kind, i), s) :: parts, ?_, ?_, ?_⟩
    · show r.2.isSome ↔ _
      rw [hsome', hsome]
      simp [or_assoc]
    · rw [List.map_cons, hkeys]
    · exact List.forall_mem_cons.2 ⟨hwritten ▸ hs, hparts⟩
    · show (draft ++ r.1).blocks = _
      rw [Draft.blocks_append, List.flatMap_cons, ← hblocks']
      exact congrArg (· ++ _) hblocks

end IntegrationsSection

/-- The blocks of the integrations section: those of the integrations, and the one that their
samples are written by, if they are. -/
structure SectionBlocks where
  integrations : List ((ExporterKind × Integration) × IntegrationBlocks)
  write : Option Block

/-- All blocks of the section, in order. -/
def SectionBlocks.all (s : SectionBlocks) : List Block :=
  (s.integrations.flatMap fun p => p.2.all) ++ s.write.toList

namespace IntegrationsSection

theorem endpoints_eq (defaults : MetricsDefaults) (s : IntegrationsSection) :
    s.endpoints defaults =
      if s.remoteWrite = [] then defaults.remoteWrite else s.remoteWrite := by
  simp [endpoints]

/-- Whether these are the blocks of the section, under some labels. -/
def HasBlocks (defaults : MetricsDefaults) (s : IntegrationsSection) (t : SectionBlocks) : Prop :=
  ∃ written : Option String, (∀ l ∈ written, isIdentifier l = true) ∧
    (written.isSome ↔ ∃ e ∈ s.active, e.2.isScraped s.scrape = true) ∧
    t.write = written.map (RemoteWrite.block · (s.endpoints defaults) defaults.externalLabels) ∧
    t.integrations.map Prod.fst = s.active ∧
    ∀ p ∈ t.integrations, p.1.2.HasBlocks p.1.1 defaults
      (if p.1.2.isScraped s.scrape then written else none) p.2

/-- The kinds of the blocks of the section. -/
theorem exists_kind {defaults : MetricsDefaults} {s : IntegrationsSection} {t : SectionBlocks}
    (h : s.HasBlocks defaults t) {b : Block} (hb : b ∈ t.all) :
    ∃ kind, ∃ k ∈ RemoteWrite.kind :: Integration.kinds kind, b.name = k.segments := by
  obtain ⟨written, -, -, hwrite, -, hparts⟩ := h
  rw [SectionBlocks.all, hwrite] at hb
  rcases List.mem_append.1 hb with hb | hb
  · obtain ⟨p, hp, hb⟩ := List.mem_flatMap.1 hb
    obtain ⟨k, hk, hname⟩ := Integration.exists_kind (hparts p hp) hb
    exact ⟨p.1.1, k, List.mem_cons_of_mem _ hk, hname⟩
  · obtain ⟨l, -, rfl⟩ := Option.map_eq_some_iff.1 (Option.mem_toList.1 hb)
    exact ⟨.azure, RemoteWrite.kind, List.mem_cons_self .., rfl⟩

theorem yields_blocks (defaults : MetricsDefaults) (s : IntegrationsSection) :
    (s.convert defaults).Yields fun d => ∃ t, s.HasBlocks defaults t ∧ d.blocks = t.all := by
  intro ls
  have hwritten := isIdentifier_shared s.scrape defaults s.active (by simp : ∀ l ∈ none, _) ls
  obtain ⟨hsome, parts, hkeys, hparts, hblocks⟩ := yields_parts s.scrape defaults s.active none ls
  have hwrite := RemoteWrite.blocks_ofOption hwritten (s.endpoints defaults) defaults.externalLabels
  exact ⟨⟨parts, _⟩, ⟨_, hwritten, by simpa using hsome, rfl, hkeys, hparts⟩,
    congrArg₂ (· ++ ·) hblocks hwrite⟩

end IntegrationsSection

/-! ## Agents -/

/-- The blocks of an agent, region by region. -/
structure Layout where
  logging : List Block
  instances : List (MetricsInstance × InstanceBlocks)
  integrations : SectionBlocks
  logs : List Block

/-- All blocks of the agent, in order. -/
def Layout.all (l : Layout) : List Block :=
  l.logging ++ (l.instances.flatMap fun p => p.2.all) ++ l.integrations.all ++ l.logs

/-- Whether the regions hold what the configuration makes of them, under some labels. -/
structure Config.HasLayout (config : Config) (l : Layout) : Prop where
  logging : ∀ b ∈ l.logging, b.name = ["logging"]
  instances : l.instances.map Prod.fst = config.metrics.instances
  instanceBlocks : ∀ p ∈ l.instances, p.1.HasBlocks config.metrics.defaults p.2
  integrations : config.integrations.HasBlocks config.metrics.defaults l.integrations
  logs : ∀ b ∈ l.logs, ∃ kind ∈ LogShipper.Kind.write :: LogShipper.Kind.ofJob,
    b.name = kind.segments
  /-- What stands in another region than that of the integrations names nothing outside of it. -/
  closed : Closed l.logging ∧ (∀ p ∈ l.instances, Closed p.2.all) ∧ Closed l.logs

end Agent

open LogShipper in
/-- The kinds of the blocks of a log shipper. -/
theorem LogShipper.Shipment.exists_kind {s : Shipment} (h : s.IsLabelled) {b : Block}
    (hb : b ∈ s.blocks) : ∃ kind ∈ Kind.write :: Kind.ofJob, b.name = kind.segments := by
  rw [blocks_eq] at hb
  rcases List.mem_append.1 hb with hb | hb
  · obtain ⟨e, he, hb⟩ := List.mem_flatMap.1 hb
    have hplace : b.place ∈ (e.1.draft s.around e.2).blocks.map Block.place :=
      List.mem_map_of_mem hb
    rw [ScrapeJob.places_draft (mode_of_mem h he) (ne_of_isIdentifier (h.identifiers.2 e he))]
      at hplace
    obtain ⟨kind, hkind, heq⟩ := List.mem_map.1 hplace
    refine ⟨kind, List.mem_cons_of_mem _ ?_, (Prod.mk.inj heq).1.symm⟩
    rw [← ScrapeJob.map_fst_plan e.1]
    exact (List.filter_sublist.map Prod.fst).subset hkind
  · obtain ⟨e, -, rfl⟩ := List.mem_map.1 hb
    exact ⟨Kind.write, List.mem_cons_self .., rfl⟩

namespace Agent

theorem LogsSection.yields_kinds (s : LogsSection) : s.convert.Yields fun d =>
    ∀ b ∈ d.blocks, ∃ kind ∈ LogShipper.Kind.write :: LogShipper.Kind.ofJob,
      b.name = kind.segments := by
  intro ls b hb
  obtain ⟨shipments, -, hlabelled, hblocks, -⟩ := s.delivers_convert ls
  rw [hblocks] at hb
  obtain ⟨shipment, hmem, hb⟩ := List.mem_flatMap.1 hb
  exact LogShipper.Shipment.exists_kind (hlabelled shipment hmem) hb

/-- The block for the agent's own logging stands for itself. -/
theorem Config.logging_blocks (config : Config) :
    let d := Draft.ofOption (Draft.block (.ofDotted "logging") "") config.server.logging?
    (∀ b ∈ d.blocks, b.name = ["logging"]) ∧ Closed d.blocks := by
  have hfields : ∀ a ∈ config.server.logging?, ∃ fields, a = .record fields ∧
      Argument.AreParts (Special.Uses [] []) fields := fun _ h => ServerSettings.logging?_fields h
  refine ⟨fun b hb => ?_, (Draft.refersTo_ofOption hfields).resolves_nil.closed⟩
  cases hlogging : config.server.logging? with
  | none =>
    rw [hlogging] at hb
    exact absurd hb List.not_mem_nil
  | some args =>
    obtain ⟨fields, rfl, hparts⟩ := hfields args hlogging
    rw [hlogging, Draft.ofOption, Draft.block_eq hparts] at hb
    rw [List.mem_singleton.1 hb]
    exact (by decide : (ComponentKind.ofDotted "logging").segments = ["logging"])

/-- The blocks of an agent are laid out region by region. -/
theorem Config.yields_layout (config : Config) :
    config.convert.Yields fun d => ∃ l, config.HasLayout l ∧ d.blocks = l.all := by
  let defaults := config.metrics.defaults
  have hinstance : ∀ i ∈ config.metrics.instances, (i.convert defaults).Yields fun d =>
      ∃ s, (i.HasBlocks defaults s ∧ Closed s.all) ∧ d.blocks = s.all := by
    intro i _ ls
    obtain ⟨s, hs, hblocks⟩ := i.yields_blocks defaults ls
    exact ⟨s, ⟨hs, hblocks ▸ (i.yields_convert defaults ls).closed⟩, hblocks⟩
  refine Labelling.yields_bind (Labelling.yields_parts_mapM hinstance) ?_
  rintro metrics ⟨parts, hkeys, hparts, hblocks⟩
  refine Labelling.yields_bind (config.integrations.yields_blocks defaults) ?_
  rintro integrations ⟨t, ht, hintegrations⟩
  obtain ⟨hlogging, hloggingClosed⟩ := config.logging_blocks
  have hall : ∀ logs : Draft, Closed logs.blocks → (∀ b ∈ logs.blocks,
      ∃ kind ∈ LogShipper.Kind.write :: LogShipper.Kind.ofJob, b.name = kind.segments) →
      ∃ l, config.HasLayout l ∧ (.report config.findings ++
        .ofOption (Draft.block (.ofDotted "logging") "") config.server.logging? ++
        .concat metrics ++ integrations ++ logs : Draft).blocks = l.all := by
    intro logs hclosed hkinds
    refine ⟨⟨_, parts, t, logs.blocks⟩, ⟨hlogging, hkeys, fun p hp => (hparts p hp).1, ht, hkinds,
      hloggingClosed, fun p hp => (hparts p hp).2, hclosed⟩, ?_⟩
    simp only [Draft.blocks_append, Draft.blocks_report, List.nil_append, hblocks, hintegrations]
    rfl
  cases config.logs with
  | none => exact Labelling.yields_pure (hall _ (fun b hb => absurd hb List.not_mem_nil) (by simp))
  | some s => exact fun ls => hall _ (s.yields_convert ls).closed (s.yields_kinds ls)

end Agent

end AgentConvert
