import AgentConvert.Proofs.Scraping.Layout

/-!
# Integrations write to one block

In the document of an agent, the samples of all integrations that are scraped are taken to one
block, which stands behind them (`IntegrationsSection.IsWritten`). It is there exactly if some
integration is scraped, and nothing refers to it but the blocks that these samples leave from: the
other regions of the document name nothing outside of them (`Closed.not_refersTo`), and an
integration names what its own blocks export, and this one block
(`Integration.outlet_of_refersTo`).
-/

namespace AgentConvert

open Argument

/-! ## References between blocks -/

/-- Whether a block names, anywhere in it, what another block exports. -/
def Block.RefersTo (b c : Block) : Prop :=
  ∃ segments, .path segments ∈ exprsOfBody b.body ∧ c.Exports segments

/-- Blocks that name nothing outside of them refer to no block outside of them. -/
theorem Closed.not_refersTo {document blocks : List Block}
    (hnodup : (document.map Block.place).Nodup) (hclosed : Closed blocks)
    (hsub : ∀ b ∈ blocks, b ∈ document) {b w : Block} (hb : b ∈ blocks) (hw : w ∈ document)
    (hout : w ∉ blocks) : ¬ b.RefersTo w := by
  rintro ⟨segments, hpath, hexports⟩
  obtain ⟨c, hc, hexports'⟩ := hclosed b hb segments hpath
  have hplace : w.place = c.place := Prod.ext_iff.2 (hexports.same hexports')
  have heq := List.inj_on_of_nodup_map hnodup hw (hsub c hc) hplace
  exact hout (heq ▸ hc)

/-- A block refers to blocks that export one of its references. -/
theorem ComponentKind.exports_of_refersTo {kind : ComponentKind} {label : String} {fields : Fields}
    {refs : List String} (h : AreParts (Special.Uses refs []) fields) (hl : label ≠ "") {w : Block}
    (hrefers : (kind.block label fields).RefersTo w) : ∃ path ∈ refs, w.Exports (dotted path) := by
  obtain ⟨segments, hpath, hexports⟩ := hrefers
  have hmem : kind.block label fields ∈ (Draft.block kind label (.record fields)).blocks := by
    rw [Draft.blocks_block h kind hl]
    exact List.mem_singleton_self _
  obtain ⟨path, hmem, rfl⟩ := Draft.refersTo_block h kind label segments
    (Draft.mem_paths_document.2 ⟨_, hmem, hpath⟩)
  exact ⟨path, hmem, hexports⟩

/-- What is exported under a kind and a label is exported by a block of this kind. -/
theorem Block.Exports.name_eq {w : Block} {kind : ComponentKind} {label field : String}
    (hkind : kind.IsNamed) (hl : isIdentifier label = true) (hf : isIdentifier field = true)
    (h : w.Exports (dotted (kind.exportPath label field))) : w.name = kind.segments := by
  obtain ⟨-, label', field', -, heq⟩ := h
  rw [ComponentKind.dotted_exportPath hkind hl hf] at heq
  exact (List.append_inj' heq rfl).1.symm

namespace Agent

/-! ## What writing means -/

/-- Whether a document has an integration scraped by these blocks if it is to be scraped, with the
samples taken to `write`. -/
structure Integration.IsScraped (document : List Block) (write : Option Block)
    (sectionScrape : Option Bool) (kind : ExporterKind) (i : Integration) (s : IntegrationBlocks) :
    Prop where
  /-- One block exports metrics. -/
  exporter : s.exporter.name = ["prometheus", "exporter", kind.name]
  /-- One block holds the rules for its targets, if there are any. -/
  targetRules : ∀ r ∈ s.targetRules, r.name = ["discovery", "relabel"]
  /-- One block scrapes it, unless it is told not to, or the section is and it is told nothing. -/
  scrape : (s.scrape.isSome ↔ (i.common.scrape.or sectionScrape).getD true = true) ∧
    ∀ b ∈ s.scrape, b.name = ["prometheus", "scrape"]
  /-- One block holds the rules for what is scraped, if some are accepted. -/
  metricRules : (s.metricRules.isSome ↔
      s.scrape.isSome ∧ ∃ r ∈ i.common.metricRelabelRules, r.fault? = none) ∧
    ∀ r ∈ s.metricRules, r.name = ["prometheus", "relabel"]
  /-- The samples go past these rules to where they are written, and nowhere else. -/
  routes : ∀ b ∈ s.scrape, ∀ way, Route document b way ↔
    ∃ w ∈ write, way = s.metricRules.toList ++ [w]

/-- Whether a document has the integrations of a section as these blocks, all of which are written
by one block. -/
structure IntegrationsSection.IsWritten (document : List Block) (defaults : MetricsDefaults)
    (s : IntegrationsSection) (t : SectionBlocks) : Prop where
  /-- The integrations that are there and not switched off have blocks, in order. -/
  integrations : t.integrations.map Prod.fst = s.active
  /-- Samples are written if some integration is there, not switched off and scraped. -/
  write : t.write.isSome ↔ ∃ kind i, s.integration kind = some i ∧
    i.common.enabled ≠ some false ∧ (i.common.scrape.or s.scrape).getD true = true
  /-- They are written to the endpoints of the section, or else to those for all. -/
  writes : ∀ w ∈ t.write, RemoteWrite.Writes
    (if s.remoteWrite = [] then defaults.remoteWrite else s.remoteWrite) w
  /-- Each integration is scraped, and its samples are taken to this block. -/
  scraped : ∀ p ∈ t.integrations,
    p.1.2.IsScraped document t.write s.scrape p.1.1 p.2
  /-- Nothing else refers to this block. -/
  references : ∀ w ∈ t.write, ∀ b ∈ document,
    b.RefersTo w ↔ ∃ p ∈ t.integrations, p.2.outlet? = some b

/-! ## References of a scrape -/

namespace Scrape

variable {label : String} {rules : List RelabelRule} {targets : TargetSource} {w : Block}

/-- The rules for targets refer to where these come from. -/
theorem exports_of_targetRules? (hl : label ≠ "") {r : Block}
    (hr : r ∈ targetRules? label rules targets) (h : r.RefersTo w) :
    ∃ path ∈ targets.references, w.Exports (dotted path) := by
  rw [targetRules?] at hr
  split at hr
  · exact absurd hr (by simp)
  · obtain rfl := Option.some.inj hr
    exact ComponentKind.exports_of_refersTo areParts_targetRules hl h

/-- A scrape refers to where its targets come from and to where it forwards. -/
theorem exports_of_block (hl : label ≠ "") {receivers : List String} {jobName : String}
    {settings : Fields} (hsettings : ∀ refs, AreParts (Special.Uses refs []) settings)
    (h : (block label targets receivers jobName settings).RefersTo w) :
    ∃ path ∈ targets.references ++ receivers, w.Exports (dotted path) := by
  have hparts : AreParts (Special.Uses (targets.references ++ receivers) [])
      (Field.always "targets" targets.argument ++
        Field.always "forward_to" (.references receivers) ++
        Field.always "job_name" (.text jobName) ++ settings) := by
    simpa [hsettings] using ⟨fun _ h => .inl h, fun _ h => .inr h⟩
  exact ComponentKind.exports_of_refersTo hparts hl h

end Scrape

namespace Integration

variable {document : List Block} {kind : ExporterKind} {i : Integration} {label : String}
  {defaults : MetricsDefaults} {written : Option String}

/-- The block that the samples of an integration leave from forwards them. -/
theorem forwards_outlet {l : String} {b : Block}
    (h : (i.blocks kind defaults label (some l)).outlet? = some b) :
    b.attribute? "forward_to" = some (.array [.ofDotted (RemoteWrite.receiver l)]) := by
  let rules := RelabelRule.accepted i.common.metricRelabelRules
  have houtlet : (Scrape.metricRules? label rules [RemoteWrite.receiver l]).or
      (i.blocks kind defaults label (some l)).scrape = some b := h
  by_cases hempty : rules.isEmpty = true
  · rw [Scrape.metricRules?, if_pos hempty, Option.none_or] at houtlet
    obtain rfl := Option.some.inj houtlet
    rw [Scrape.attribute?_forwardTo_block, Scrape.forwardTo, if_pos hempty]
    rfl
  · obtain ⟨r, hr⟩ : ∃ r, Scrape.metricRules? label rules [RemoteWrite.receiver l] = some r :=
      ⟨_, if_neg hempty⟩
    rw [hr, Option.some_or] at houtlet
    obtain rfl := Option.some.inj houtlet
    exact (Scrape.metricRules?_eq_some hr).2

theorem isOwn_of_mem_kinds {k : ComponentKind} (hk : k ∈ kinds kind) :
    k.IsNamed ∧ k.segments ≠ RemoteWrite.kind.segments := by
  have hwrite : RemoteWrite.kind.segments = ["prometheus", "remote_write"] := by decide
  have hscrape : ∀ k ∈ Scrape.kinds, k.IsNamed ∧ k.segments ≠ RemoteWrite.kind.segments := by
    decide
  rcases List.mem_cons.1 hk with rfl | hk
  · refine ⟨isNamed_component kind, ?_⟩
    rw [component_segments, hwrite]
    simp
  · exact hscrape k hk

/-- The blocks of an integration are not where samples are written. -/
theorem not_exports_own (kind : ExporterKind) {w : Block}
    (hname : w.name = RemoteWrite.kind.segments) (hl : isIdentifier label = true)
    {k : ComponentKind} (hk : k ∈ kinds kind) {field : String} (hf : isIdentifier field = true) :
    ¬ w.Exports (dotted (k.exportPath label field)) := by
  intro h
  obtain ⟨hnamed, hne⟩ := isOwn_of_mem_kinds hk
  exact hne ((h.name_eq hnamed hl hf).symm.trans hname)

/-- A scrape refers to where samples are written only if no rules apply to these. -/
theorem isEmpty_of_scrape_refersTo (hl : isIdentifier label = true) {l : String} {b w : Block}
    (hname : w.name = RemoteWrite.kind.segments)
    (hb : b ∈ (i.blocks kind defaults label (some l)).scrape) (h : b.RefersTo w) :
    (RelabelRule.accepted i.common.metricRelabelRules).isEmpty = true := by
  have hsettings : ∀ refs, AreParts (Special.Uses refs []) (i.settings defaults) := fun refs => by
    simp [settings]
  obtain rfl := Option.some.inj hb
  obtain ⟨path, hpath, hexports⟩ := Scrape.exports_of_block (ne_of_isIdentifier hl) hsettings h
  rcases List.mem_append.1 hpath with hpath | hpath
  · unfold Scrape.relabelled at hpath
    split at hpath
    · obtain rfl := List.mem_singleton.1 hpath
      exact absurd hexports (not_exports_own kind hname hl (List.mem_cons_self ..) (by decide))
    · obtain rfl := List.mem_singleton.1 hpath
      exact absurd hexports
        (not_exports_own kind hname hl (by simp [kinds, Scrape.kinds]) (by decide))
  · by_contra hrules
    rw [Scrape.forwardTo, if_neg hrules] at hpath
    obtain rfl := List.mem_singleton.1 hpath
    exact absurd hexports
      (not_exports_own kind hname hl (by simp [kinds, Scrape.kinds]) (by decide))

/-- Only the block that the samples leave from refers to where they are written. -/
theorem outlet_of_refersTo (hl : isIdentifier label = true) {b w : Block}
    (hname : w.name = RemoteWrite.kind.segments)
    (hb : b ∈ (i.blocks kind defaults label written).all) (h : b.RefersTo w) :
    (i.blocks kind defaults label written).outlet? = some b := by
  have hne := ne_of_isIdentifier hl
  rcases List.mem_append.1 hb with hb | hb
  · rcases List.mem_cons.1 hb with rfl | hb
    · obtain ⟨path, hpath, -⟩ :=
        ComponentKind.exports_of_refersTo (kind.areParts_arguments i.exporter) hne h
      exact absurd hpath List.not_mem_nil
    · obtain ⟨path, hpath, hexports⟩ :=
        Scrape.exports_of_targetRules? hne (Option.mem_toList.1 hb) h
      obtain rfl := List.mem_singleton.1 hpath
      exact absurd hexports (not_exports_own kind hname hl (List.mem_cons_self ..) (by decide))
  · rw [List.mem_append, Option.mem_toList, Option.mem_toList] at hb
    cases written with
    | none => exact absurd hb (by simp [blocks])
    | some l =>
      rcases hb with hb | hb
      · have hrules := isEmpty_of_scrape_refersTo hl hname hb h
        show (Scrape.metricRules? label _ _).or _ = _
        rw [Scrape.metricRules?, if_pos hrules]
        exact hb
      · exact Option.or_eq_some_iff.2 (.inl hb)

/-- The blocks of an integration under a label of its own scrape it. `scraped` is the label of the
block that its samples go to, if it is scraped. -/
theorem isScraped_blocks (hnodup : (document.map Block.place).Nodup)
    (hwritten : ∀ l ∈ written, isIdentifier l = true) {endpoints : List Endpoint}
    {externalLabels : Dictionary String}
    (hwrite : ∀ w ∈ written.map (RemoteWrite.block · endpoints externalLabels), w ∈ document)
    {scrape : Option Bool} {scraped : Option String} (hscraped : ∀ l ∈ scraped, written = some l)
    (hsome : scraped.isSome ↔ i.isScraped scrape = true) {s : IntegrationBlocks}
    (h : i.HasBlocks kind defaults scraped s) (hmem : ∀ b ∈ s.all, b ∈ document) :
    i.IsScraped document (written.map (RemoteWrite.block · endpoints externalLabels)) scrape
      kind s := by
  obtain ⟨label, hl, rfl⟩ := h
  constructor
  case exporter => exact component_segments kind
  case targetRules => exact fun r hr => Scrape.name_of_targetRules? hr
  case scrape =>
    refine ⟨Option.isSome_map.symm ▸ hsome, fun b hb => ?_⟩
    obtain ⟨l, -, rfl⟩ := Option.map_eq_some_iff.1 hb
    exact (by decide : Scrape.kind.segments = ["prometheus", "scrape"])
  case metricRules =>
    refine ⟨?_, fun r hr => ?_⟩
    · cases scraped with
      | none => simp [blocks]
      | some l =>
        have hrules := @Scrape.isSome_metricRules? label
          (RelabelRule.accepted i.common.metricRelabelRules) [RemoteWrite.receiver l]
        rw [RelabelRule.accepted_ne_nil] at hrules
        exact hrules.trans (iff_and_self.2 fun _ => rfl)
    · obtain ⟨l, -, hr⟩ := Option.bind_eq_some_iff.1 hr
      exact Scrape.name_of_metricRules? hr
  case routes =>
    intro b hb way
    obtain ⟨l, rfl, rfl⟩ := Option.map_eq_some_iff.1 hb
    obtain rfl := hscraped l rfl
    refine Scrape.route_iff hnodup hl hwritten hwrite (fun r hr => hmem r ?_)
      (Scrape.attribute?_forwardTo_block _ _)
    exact List.mem_append_right _ (List.mem_append_right _ (Option.mem_toList.2 hr))

end Integration

/-! ## The section -/

namespace IntegrationsSection

variable {s : IntegrationsSection}

theorem mem_active {kind : ExporterKind} {i : Integration} :
    (kind, i) ∈ s.active ↔ s.integration kind = some i ∧ i.common.enabled ≠ some false := by
  have hall : kind ∈ ExporterKind.all := by cases kind <;> decide
  simp only [active, List.mem_filterMap, Option.bind_eq_some_iff]
  constructor
  · rintro ⟨kind', -, i', hi', h⟩
    split at h
    · exact absurd h (by simp)
    · rename_i henabled
      obtain ⟨rfl, rfl⟩ := Prod.mk.inj (Option.some.inj h)
      exact ⟨hi', henabled⟩
  · rintro ⟨hi, henabled⟩
    exact ⟨kind, hall, i, hi, if_neg henabled⟩

/-- An integration that is scraped has the label of the block that all write to. -/
theorem isSome_scraped {t : SectionBlocks} {written : Option String}
    (hkeys : t.integrations.map Prod.fst = s.active)
    (hsome : written.isSome ↔ ∃ e ∈ s.active, e.2.isScraped s.scrape = true)
    {p : (ExporterKind × Integration) × IntegrationBlocks} (hp : p ∈ t.integrations) :
    (if p.1.2.isScraped s.scrape then written else none).isSome ↔
      p.1.2.isScraped s.scrape = true := by
  split
  · rename_i hscraped
    have hactive : p.1 ∈ s.active := hkeys ▸ List.mem_map_of_mem hp
    exact iff_of_true (hsome.2 ⟨p.1, hactive, hscraped⟩) hscraped
  · rename_i hscraped
    exact iff_of_false (by simp) hscraped

/-- Of the blocks of the section, those refer to the block that all write to that samples leave
from. -/
theorem refersTo_written_iff {t : SectionBlocks} {defaults : MetricsDefaults} {l : String}
    (hl : isIdentifier l = true)
    (hparts : ∀ p ∈ t.integrations, p.1.2.HasBlocks p.1.1 defaults
      (if p.1.2.isScraped s.scrape then some l else none) p.2)
    (hwrite : t.write = some (RemoteWrite.block l (s.endpoints defaults) defaults.externalLabels))
    {b : Block} : (b ∈ t.all ∧ b.RefersTo (RemoteWrite.block l (s.endpoints defaults)
      defaults.externalLabels)) ↔ ∃ p ∈ t.integrations, p.2.outlet? = some b := by
  constructor
  · rintro ⟨hb, hrefers⟩
    rcases List.mem_append.1 hb with hb | hb
    · obtain ⟨p, hp, hb⟩ := List.mem_flatMap.1 hb
      obtain ⟨label, hlabel, hblocks⟩ := hparts p hp
      rw [hblocks] at hb
      exact ⟨p, hp, hblocks ▸ Integration.outlet_of_refersTo hlabel rfl hb hrefers⟩
    · rw [hwrite] at hb
      obtain rfl := List.mem_singleton.1 hb
      have hfields : AreParts (Special.Uses [] []) _ :=
        RemoteWrite.areParts (s.endpoints defaults) defaults.externalLabels
      obtain ⟨path, hpath, -⟩ :=
        ComponentKind.exports_of_refersTo hfields (ne_of_isIdentifier hl) hrefers
      exact absurd hpath List.not_mem_nil
  · rintro ⟨p, hp, houtlet⟩
    have hall := IntegrationBlocks.mem_all_of_outlet? houtlet
    obtain ⟨label, hlabel, hblocks⟩ := hparts p hp
    rw [hblocks] at houtlet
    split at houtlet
    · have hpath := Block.path_mem_of_attribute? (Integration.forwards_outlet houtlet)
        (List.mem_singleton_self _)
      refine ⟨List.mem_append_left _ (List.mem_flatMap.2 ⟨p, hp, hall⟩), _, hpath, ?_⟩
      exact ⟨(by decide : RemoteWrite.kind.segments ≠ []), l, "receiver", rfl,
        ComponentKind.dotted_exportPath (by decide) hl (by decide)⟩
    · exact absurd houtlet (by simp [IntegrationBlocks.outlet?, Integration.blocks])

/-- The blocks of a section are written by one block, and nothing else refers to this, in a document
whose other blocks name nothing outside of them. -/
theorem isWritten_blocks {document before after : List Block} {defaults : MetricsDefaults}
    {t : SectionBlocks} (hdocument : document = before ++ t.all ++ after)
    (hnodup : (document.map Block.place).Nodup) (hbefore : Closed before) (hafter : Closed after)
    (h : s.HasBlocks defaults t) : s.IsWritten document defaults t := by
  obtain ⟨written, hwritten, hsome, hwrite, hkeys, hparts⟩ := h
  have hmem : ∀ b ∈ t.all, b ∈ document := fun b hb => by
    rw [hdocument]
    exact List.mem_append_left _ (List.mem_append_right _ hb)
  have hwritemem : ∀ w ∈ t.write, w ∈ t.all := fun w hw =>
    List.mem_append_right _ (Option.mem_toList.2 hw)
  constructor
  case integrations => exact hkeys
  case write =>
    rw [hwrite, Option.isSome_map, hsome]
    simp only [Prod.exists, mem_active, and_assoc]
    rfl
  case writes =>
    intro w hw
    rw [hwrite] at hw
    exact endpoints_eq defaults s ▸ RemoteWrite.writes_of_mem hw
  case scraped =>
    intro p hp
    rw [hwrite] at hwritemem ⊢
    refine Integration.isScraped_blocks hnodup hwritten (fun w hw => hmem w (hwritemem w hw)) ?_
      (isSome_scraped hkeys hsome hp) (hparts p hp) fun b hb => hmem b ?_
    · intro l hl
      split at hl
      · exact hl
      · exact absurd hl (by simp)
    · exact List.mem_append_left _ (List.mem_flatMap.2 ⟨p, hp, hb⟩)
  case references =>
    intro w hw b hb
    have hall := hwritemem w hw
    have hdistinct : (before ++ t.all ++ after).Nodup := hdocument ▸ hnodup.of_map Block.place
    obtain ⟨hfront, -, hapart⟩ := List.nodup_append.1 hdistinct
    have hout : w ∉ before := fun h => (List.nodup_append.1 hfront).2.2 w h w hall rfl
    have hout' : w ∉ after := fun h => hapart w (List.mem_append_right _ hall) w h rfl
    obtain ⟨l, rfl, rfl⟩ := Option.map_eq_some_iff.1 (hwrite.symm.trans hw)
    rw [← refersTo_written_iff (hwritten l rfl) hparts hwrite]
    refine ⟨fun hrefers => ⟨?_, hrefers⟩, And.right⟩
    have hsub : ∀ c ∈ before ++ t.all ++ after, c ∈ document := fun c hc => hdocument ▸ hc
    rw [hdocument] at hb
    rcases List.mem_append.1 hb with hb | hb
    · rcases List.mem_append.1 hb with hb | hb
      · refine absurd hrefers (hbefore.not_refersTo hnodup (fun c hc => hsub c ?_) hb
          (hmem _ hall) hout)
        exact List.mem_append_left _ (List.mem_append_left _ hc)
      · exact hb
    · exact absurd hrefers (hafter.not_refersTo hnodup (fun c hc => hsub c
        (List.mem_append_right _ hc)) hb (hmem _ hall) hout')

end IntegrationsSection

/-! ## Blocks that write samples -/

/-- Whether a block writes samples. -/
def writesSamples (b : Block) : Bool := b.name = ["prometheus", "remote_write"]

theorem countP_eq_zero_of_names {blocks : List Block}
    (h : ∀ b ∈ blocks, b.name ≠ RemoteWrite.kind.segments) : blocks.countP writesSamples = 0 :=
  List.countP_eq_zero.2 fun b hb => mt of_decide_eq_true (h b hb)

/-- The block under a label, if there is one, writes samples. -/
theorem countP_write (written : Option String) (endpoints : List Endpoint)
    (externalLabels : Dictionary String) :
    (written.map (RemoteWrite.block · endpoints externalLabels)).toList.countP writesSamples =
      if written.isSome then 1 else 0 := by
  cases written <;> rfl

/-- An instance has one block that writes samples if it has an endpoint. -/
theorem MetricsInstance.countP_blocks {defaults : MetricsDefaults} {i : MetricsInstance}
    {s : InstanceBlocks} (h : i.HasBlocks defaults s) :
    s.all.countP writesSamples = if i.endpoints defaults ≠ [] then 1 else 0 := by
  obtain ⟨written, -, hsome, hwrite, -, hjobs⟩ := h
  have hdiscovery : ∀ name ∈ discoveryNames, name ≠ RemoteWrite.kind.segments := by decide
  have hscrape : ∀ k ∈ Scrape.kinds, k.segments ≠ RemoteWrite.kind.segments := by decide
  have hnone : (s.jobs.flatMap fun e => e.2.all).countP writesSamples = 0 := by
    refine countP_eq_zero_of_names fun b hb => ?_
    obtain ⟨e, he, hb⟩ := List.mem_flatMap.1 hb
    obtain ⟨label, labels, -, -, -, hblocks⟩ := hjobs e he
    rw [hblocks] at hb
    rcases ScrapeJob.name_of_mem_all hb with hname | ⟨k, hk, hname⟩
    · exact hdiscovery b.name hname
    · exact hname ▸ hscrape k hk
  rw [InstanceBlocks.all, List.countP_append, hnone, Nat.zero_add, hwrite, countP_write]
  exact if_congr hsome rfl rfl

/-- The integrations have one block that writes samples if some are scraped. -/
theorem IntegrationsSection.countP_blocks {defaults : MetricsDefaults} {s : IntegrationsSection}
    {t : SectionBlocks} (h : s.HasBlocks defaults t) :
    t.all.countP writesSamples = if t.write.isSome then 1 else 0 := by
  obtain ⟨written, -, -, hwrite, -, hparts⟩ := h
  have hnone : (t.integrations.flatMap fun p => p.2.all).countP writesSamples = 0 := by
    refine countP_eq_zero_of_names fun b hb => ?_
    obtain ⟨p, hp, hb⟩ := List.mem_flatMap.1 hb
    obtain ⟨k, hk, hname⟩ := Integration.exists_kind (hparts p hp) hb
    exact hname ▸ (Integration.isOwn_of_mem_kinds hk).2
  rw [SectionBlocks.all, List.countP_append, hnone, Nat.zero_add, hwrite, countP_write,
    Option.isSome_map]

theorem countP_flatMap_of {α β : Type} {f : α → List β} {q : β → Bool} {r : α → Bool}
    {as : List α} (h : ∀ a ∈ as, (f a).countP q = if r a then 1 else 0) :
    (as.flatMap f).countP q = as.countP r := by
  induction as with
  | nil => rfl
  | cons a as ih =>
    rw [List.flatMap_cons, List.countP_append, h a (List.mem_cons_self ..),
      ih fun b hb => h b (List.mem_cons_of_mem _ hb), List.countP_cons, Nat.add_comm]

/-- There is one block that writes samples for each instance that has an endpoint, and one for the
integrations if some are scraped. -/
theorem Config.countP_layout {config : Config} {l : Layout} (h : config.HasLayout l) :
    l.all.countP writesSamples =
      config.metrics.instances.countP (fun i => i.endpoints config.metrics.defaults ≠ []) +
        if l.integrations.write.isSome then 1 else 0 := by
  have hkinds : ∀ k ∈ LogShipper.Kind.write :: LogShipper.Kind.ofJob,
      k.segments ≠ RemoteWrite.kind.segments := by decide
  have hlogging : l.logging.countP writesSamples = 0 :=
    countP_eq_zero_of_names fun b hb => by
      rw [h.logging b hb]
      decide
  have hlogs : l.logs.countP writesSamples = 0 := by
    refine countP_eq_zero_of_names fun b hb => ?_
    obtain ⟨k, hk, hname⟩ := h.logs b hb
    exact hname ▸ hkinds k hk
  have hinstances : (l.instances.flatMap fun p => p.2.all).countP writesSamples =
      l.instances.countP fun p => p.1.endpoints config.metrics.defaults ≠ [] := by
    refine countP_flatMap_of fun p hp => ?_
    rw [MetricsInstance.countP_blocks (h.instanceBlocks p hp)]
    simp
  rw [Layout.all, List.countP_append, List.countP_append, List.countP_append, hlogging, hlogs,
    hinstances, IntegrationsSection.countP_blocks h.integrations, ← h.instances, List.countP_map]
  simp [Function.comp_def]

end Agent

open Agent in
/-- In the document of an agent the integrations that are scraped write to one block, which stands
behind all of them and which nothing else refers to. -/
theorem SourceConfig.integrations_written (registry : Collector.Registry)
    (config : Agent.Config) :
    let document := Body.blocks ((agent config).standalone registry).document
    let defaults := config.metrics.defaults
    (document.map Block.identity).Nodup ∧
    ∃ (before after : List Block) (t : SectionBlocks),
      document = before ++ t.all ++ after ∧
      config.integrations.IsWritten document defaults t ∧
      document.countP writesSamples = config.metrics.instances.countP (fun i =>
        (if i.remoteWrite = [] then defaults.remoteWrite else i.remoteWrite) ≠ []) +
        if t.write.isSome then 1 else 0 := by
  obtain ⟨l, hlayout, hblocks⟩ := config.yields_layout .empty
  rw [Draft.blocks_document]
  have hdocument : ((agent config).standalone registry).blocks =
      (l.logging ++ l.instances.flatMap fun p => p.2.all) ++ l.integrations.all ++ l.logs := hblocks
  have hidentities : (((agent config).standalone registry).blocks.map Block.identity).Nodup :=
    config.covers_convert.nodup
  obtain ⟨hlogging, hinstances, hlogs⟩ := hlayout.closed
  refine ⟨hidentities, _, l.logs, l.integrations, hdocument, ?_, ?_⟩
  · exact IntegrationsSection.isWritten_blocks hdocument (Block.nodup_places hidentities)
      (hlogging.append (.flatMap hinstances)) hlogs hlayout.integrations
  · have hcount := Config.countP_layout hlayout
    simp only [MetricsInstance.endpoints_eq] at hcount
    exact hblocks ▸ hcount

end AgentConvert
