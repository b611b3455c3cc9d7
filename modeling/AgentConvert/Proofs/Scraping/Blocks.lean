import AgentConvert.Proofs.Argument.Nested
import AgentConvert.Proofs.References.Agent
import AgentConvert.Proofs.Scraping.Supply

/-!
# The blocks of scrapes

A job and an integration come to a few blocks, which their labels and settings determine
(`ScrapeJob.blocks`, `Integration.blocks`). Both scrape in the same way: targets come past the
rules for them, if there are any (`Scrape.supplied_iff`), and samples go past the rules for these,
if there are any, to the block that writes them (`Scrape.route_iff`).
-/

namespace AgentConvert

open Argument

variable {label : String}

/-! ## Blocks with labels -/

/-- The block of this kind with this label and these fields. -/
def ComponentKind.block (kind : ComponentKind) (label : String) (fields : Fields) : Block :=
  ⟨kind.segments, some label, parts Special.render fields⟩

theorem Draft.blocks_block {p : Special → Prop} {fields : Fields} (h : AreParts p fields)
    (kind : ComponentKind) (hl : label ≠ "") :
    (Draft.block kind label (.record fields)).blocks = [kind.block label fields] :=
  blocks_labelled h kind hl

/-! ## Rules and sources of targets -/

theorem RelabelRule.accepted_ne_nil {rules : List RelabelRule} :
    accepted rules ≠ [] ↔ ∃ r ∈ rules, r.fault? = none := by
  simp [accepted]

namespace TargetSource

theorem isValue_argument (source : TargetSource) : source.argument.IsValue fun _ => True := by
  cases source with
  | listed ts => exact isValue_targets ts
  | exported path => exact (isValue_reference path).2 trivial
  | joined paths => exact ⟨rfl, isValue_references paths⟩

theorem attribute?_argument (source : TargetSource) (name : String) :
    Body.attribute? (parts Special.render (Field.always name source.argument)) name =
      some (source.argument.expr Special.render) := by
  refine attribute?_always source.isValue_argument ?_
  cases source <;> rfl

end TargetSource

namespace Agent

/-! ## Scrapes -/

namespace Scrape

variable {rules : List RelabelRule} {targets : TargetSource} {receivers : List String}

/-- The block with the rules for targets, if there are any. -/
def targetRules? (label : String) (rules : List RelabelRule) (targets : TargetSource) :
    Option Block :=
  if rules.isEmpty then none
  else some (targetRelabel.block label
    (Field.always "targets" targets.argument ++ Field.always "rule" (RelabelRule.blocks rules)))

/-- The block with the rules for samples, if there are any. -/
def metricRules? (label : String) (rules : List RelabelRule) (receivers : List String) :
    Option Block :=
  if rules.isEmpty then none
  else some (metricRelabel.block label
    (Field.always "forward_to" (.references receivers) ++
      Field.always "rule" (RelabelRule.blocks rules)))

/-- The block of the scrape itself. -/
def block (label : String) (targets : TargetSource) (receivers : List String) (jobName : String)
    (settings : Fields) : Block :=
  kind.block label (Field.always "targets" targets.argument ++
    Field.always "forward_to" (.references receivers) ++
    Field.always "job_name" (.text jobName) ++ settings)

theorem blocks_targetRules (hl : label ≠ "") :
    (targetRules label rules targets).blocks = (targetRules? label rules targets).toList := by
  rw [targetRules, targetRules?, Draft.blocks_when, Draft.blocks_block areParts_targetRules _ hl]
  cases rules <;> rfl

theorem blocks_metricRules (hl : label ≠ "") :
    (Scrape.metricRules label rules receivers).blocks =
      (metricRules? label rules receivers).toList := by
  rw [Scrape.metricRules, metricRules?, Draft.blocks_when,
    Draft.blocks_block areParts_metricRules _ hl]
  cases rules <;> rfl

/-! ### What they take and where they forward -/

theorem attribute?_targets_block (jobName : String) (settings : Fields) :
    (block label targets receivers jobName settings).attribute? "targets" =
      some (targets.argument.expr Special.render) := by
  rw [block, ComponentKind.block, Block.attribute?_mk]
  simp only [attribute?_parts_append, TargetSource.attribute?_argument, Option.some_or]

theorem attribute?_forwardTo_block (jobName : String) (settings : Fields) :
    (block label targets receivers jobName settings).attribute? "forward_to" =
      some (.array (receivers.map Expr.ofDotted)) := by
  have htargets : Body.attribute? (parts Special.render (Field.always "targets" targets.argument))
      "forward_to" = none := by
    refine attribute?_parts_of_lacks (p := fun _ => True) ?_ (by simp (disch := decide))
    exact (Field.areParts_always _ _).2 (isPart_of_isValue _ targets.isValue_argument)
  rw [block, ComponentKind.block, Block.attribute?_mk]
  simp only [attribute?_parts_append, htargets, Option.none_or, attribute?_references,
    Option.some_or]
  rfl

theorem isSome_targetRules? : (targetRules? label rules targets).isSome ↔ rules ≠ [] := by
  rw [targetRules?]
  cases rules <;> simp

theorem isSome_metricRules? : (metricRules? label rules receivers).isSome ↔ rules ≠ [] := by
  rw [metricRules?]
  cases rules <;> simp

theorem targetRules?_eq_some {r : Block} (h : r ∈ targetRules? label rules targets) :
    r.place = placeOf label targetRelabel ∧
      r.attribute? "targets" = some (targets.argument.expr Special.render) := by
  rw [targetRules?] at h
  split at h
  · exact absurd h (by simp)
  · obtain rfl := Option.some.inj h
    refine ⟨rfl, ?_⟩
    rw [ComponentKind.block, Block.attribute?_mk, attribute?_parts_append,
      TargetSource.attribute?_argument, Option.some_or]

theorem metricRules?_eq_some {r : Block} (h : r ∈ metricRules? label rules receivers) :
    r.place = placeOf label metricRelabel ∧
      r.attribute? "forward_to" = some (.array (receivers.map Expr.ofDotted)) := by
  rw [metricRules?] at h
  split at h
  · exact absurd h (by simp)
  · obtain rfl := Option.some.inj h
    refine ⟨rfl, ?_⟩
    rw [ComponentKind.block, Block.attribute?_mk, attribute?_parts_append, attribute?_references,
      Option.some_or]
    rfl

theorem name_of_targetRules? {r : Block} (h : r ∈ targetRules? label rules targets) :
    r.name = targetRelabel.segments :=
  (Prod.mk.inj (targetRules?_eq_some h).1).1

theorem name_of_metricRules? {r : Block} (h : r ∈ metricRules? label rules receivers) :
    r.name = metricRelabel.segments :=
  (Prod.mk.inj (metricRules?_eq_some h).1).1

end Scrape

/-! ## Remote write -/

/-- Whether a nested block is for an endpoint: it says where this is, and how it is written to. -/
structure Endpoint.IsShown (e : Endpoint) (b : Block) : Prop where
  name : b.name = ["endpoint"]
  label : b.label = none
  url : b.attribute? "url" = some (.str e.url)
  ownName : b.attribute? "name" = e.name.map .str
  timeout : b.attribute? "remote_timeout" = e.remoteTimeout.map fun d => .str d.text
  exemplars : b.attribute? "send_exemplars" = e.sendExemplars.map .bool
  histograms : b.attribute? "send_native_histograms" = e.sendNativeHistograms.map .bool

/-- An endpoint comes to a nested block for it. -/
theorem Endpoint.exists_block (e : Endpoint) :
    ∃ b, Body.blocks (e.block.part Special.render "endpoint") = [b] ∧ e.IsShown b := by
  have hurl (name : String) :
      Body.attribute? (parts Special.render (Field.always "url" (.text e.url))) name =
        if "url" = name then some (.str e.url) else none :=
    attribute?_field (p := fun _ => True) _ _ trivial rfl
  have hheaders {name : String} (h : name ≠ "headers") :
      Body.attribute? (parts Special.render (Field.unlessEmpty "headers" e.headers)) name = none :=
    attribute?_parts_of_lacks (p := Special.Uses [] []) (by simp) (by simp [h])
  have hhttp {name : String} (h : Lacks name e.http.arguments) :
      Body.attribute? (parts Special.render e.http.arguments) name = none :=
    attribute?_parts_of_lacks (p := Special.Uses [] []) e.http.areParts_arguments h
  have hqueue {name : String} (h : name ≠ "queue_config") : Body.attribute? (parts Special.render
      (Field.optional "queue_config" Queue.block e.queue)) name = none :=
    attribute?_parts_of_lacks (p := Special.Uses [] []) (by simp) (by simp [h])
  have hrules {name : String} (h : name ≠ "write_relabel_config") : Body.attribute?
      (parts Special.render (Field.unlessNil "write_relabel_config" RelabelRule.blocks
        (RelabelRule.accepted e.writeRelabelRules))) name = none :=
    attribute?_parts_of_lacks (p := Special.Uses [] []) (by simp) (by simp [h])
  refine ⟨_, rfl, (by decide : dotted "endpoint" = ["endpoint"]), rfl, ?_, ?_, ?_, ?_, ?_⟩ <;>
    rw [Block.attribute?_mk] <;>
    simp (disch := simp (disch := decide) [HttpClient.arguments]) [attribute?_parts_append, hurl,
      hheaders, hhttp, hqueue, hrules]

namespace RemoteWrite

/-- The block that writes samples to these endpoints. -/
def block (label : String) (endpoints : List Endpoint) (externalLabels : Dictionary String) :
    Block :=
  kind.block label (Field.unlessEmpty "external_labels" externalLabels ++
    Field.unlessNil "endpoint" (fun es => .list (es.map Endpoint.block)) endpoints)

theorem blocks_draft (hl : label ≠ "") (endpoints : List Endpoint)
    (externalLabels : Dictionary String) :
    (draft label endpoints externalLabels).blocks = [block label endpoints externalLabels] := by
  have hparts : AreParts (Special.Uses [] []) _ := RemoteWrite.areParts endpoints externalLabels
  rw [draft, Draft.blocks_append, Draft.blocks_report, List.nil_append,
    Draft.blocks_block hparts kind hl]
  rfl

theorem forwards_block (label : String) (endpoints : List Endpoint)
    (externalLabels : Dictionary String) :
    (block label endpoints externalLabels).attribute? "forward_to" = none := by
  have hparts : AreParts (Special.Uses [] []) _ := RemoteWrite.areParts endpoints externalLabels
  exact attribute?_parts_of_lacks hparts (by simp (disch := decide))

/-- There is a nested block for each endpoint, in order. -/
theorem blocks_block (label : String) (endpoints : List Endpoint)
    (externalLabels : Dictionary String) :
    (block label endpoints externalLabels).blocks =
      endpoints.flatMap fun e => Body.blocks (e.block.part Special.render "endpoint") := by
  have hlabels : Body.blocks (parts Special.render
      (Field.unlessEmpty "external_labels" externalLabels)) = [] := by
    rw [Field.unlessEmpty]
    split <;> rfl
  have hendpoint : ∀ e : Endpoint, e.block.isBlock = true ∧ e.block.IsPart (Special.Uses [] []) :=
    fun e => ⟨rfl, e.isPart_block⟩
  have hlist := blocks_list Special.render "endpoint" hendpoint endpoints
  rw [block, ComponentKind.block, Block.blocks_mk, parts_append, Body.blocks_append, hlabels,
    List.nil_append, ← hlist]
  cases endpoints <;> rfl

/-- Whether a block writes samples to these endpoints, with one nested block for each, in order. -/
structure Writes (endpoints : List Endpoint) (w : Block) : Prop where
  name : w.name = ["prometheus", "remote_write"]
  names : w.blocks.map Block.name = endpoints.map fun _ => ["endpoint"]
  blocks : w.blocks =
    endpoints.flatMap fun e => Body.blocks (e.block.part Special.render "endpoint")
  /-- Each endpoint is shown by the nested block in its place. -/
  shown : List.Forall₂ Endpoint.IsShown endpoints w.blocks

theorem writes_block (label : String) (endpoints : List Endpoint)
    (externalLabels : Dictionary String) :
    Writes endpoints (block label endpoints externalLabels) := by
  refine ⟨(by decide : kind.segments = _), ?_, blocks_block label endpoints externalLabels, ?_⟩
  · rw [blocks_block, List.map_flatMap, List.map_eq_flatMap]
    exact List.flatMap_congr fun e _ => rfl
  · rw [blocks_block]
    induction endpoints with
    | nil => exact .nil
    | cons e rest ih =>
      obtain ⟨b, hb, hshown⟩ := e.exists_block
      rw [List.flatMap_cons, hb]
      exact .cons hshown ih

/-- The block under a label, if there is one, writes to the endpoints. -/
theorem writes_of_mem {written : Option String} {endpoints : List Endpoint}
    {externalLabels : Dictionary String} {w : Block}
    (hw : w ∈ written.map (block · endpoints externalLabels)) : Writes endpoints w := by
  obtain ⟨l, -, rfl⟩ := Option.map_eq_some_iff.1 hw
  exact writes_block l endpoints externalLabels

/-- The routes of a block that forwards to the block under this label, if there is one. -/
theorem route_iff {document : List Block} (hnodup : (document.map Block.place).Nodup)
    {written : Option String} (hl : ∀ l ∈ written, isIdentifier l = true)
    {endpoints : List Endpoint} {externalLabels : Dictionary String}
    (hmem : ∀ w ∈ written.map (block · endpoints externalLabels), w ∈ document) {b : Block}
    (hb : b.attribute? "forward_to" =
      some (.array ((written.toList.map receiver).map Expr.ofDotted))) {way : List Block} :
    Route document b way ↔ ∃ w ∈ written.map (block · endpoints externalLabels), way = [w] := by
  cases written with
  | none =>
    have hends : b.attribute? "forward_to" = some (.array (([] : List (ComponentKind × String)).map
        fun e => e.1.reference e.2 "receiver")) := hb
    rw [Route.iff_of_forwards hends]
    simp
  | some l =>
    have hreceiver : Expr.ofDotted (receiver l) = kind.reference l "receiver" :=
      ComponentKind.ofDotted_exportPath (by decide) (hl l rfl) (by decide)
    have hat := blocksAt_eq_singleton hnodup (hmem _ rfl) (rfl : _ = placeOf l kind)
    rw [Option.toList_some, List.map_singleton, List.map_singleton, hreceiver] at hb
    rw [Route.iff_of_forwards_one hb hat]
    simp [Route.iff_nil (forwards_block l endpoints externalLabels)]

end RemoteWrite

namespace Scrape

variable {document : List Block} {rules : List RelabelRule} {b : Block}

/-- What forwards as a scrape does is taken past the rules for samples, if there are any, to where
samples are written, if they are. -/
theorem route_iff (hnodup : (document.map Block.place).Nodup) (hlabel : isIdentifier label = true)
    {written : Option String} (hl : ∀ l ∈ written, isIdentifier l = true)
    {endpoints : List Endpoint} {externalLabels : Dictionary String}
    (hmem : ∀ w ∈ written.map (RemoteWrite.block · endpoints externalLabels), w ∈ document)
    (hrules : ∀ r ∈ metricRules? label rules (written.toList.map RemoteWrite.receiver),
      r ∈ document)
    (hb : b.attribute? "forward_to" = some (.array
      ((forwardTo label rules (written.toList.map RemoteWrite.receiver)).map Expr.ofDotted)))
    {way : List Block} :
    Route document b way ↔ ∃ w ∈ written.map (RemoteWrite.block · endpoints externalLabels), way =
      (metricRules? label rules (written.toList.map RemoteWrite.receiver)).toList ++ [w] := by
  by_cases hempty : rules.isEmpty = true
  · rw [forwardTo, if_pos hempty] at hb
    rw [metricRules?, if_pos hempty]
    exact RemoteWrite.route_iff hnodup hl hmem hb
  · have hpath : Expr.ofDotted (metricRelabel.exportPath label "receiver") =
        metricRelabel.reference label "receiver" :=
      ComponentKind.ofDotted_exportPath (by decide) hlabel (by decide)
    obtain ⟨r, hr⟩ : ∃ r, metricRules? label rules (written.toList.map RemoteWrite.receiver) =
      some r := ⟨_, if_neg hempty⟩
    obtain ⟨hplace, hforward⟩ := metricRules?_eq_some hr
    have hat := blocksAt_eq_singleton hnodup (hrules r hr) hplace
    rw [forwardTo, if_neg hempty, List.map_singleton, hpath] at hb
    rw [Route.iff_of_forwards_one hb hat, hr]
    simp only [RemoteWrite.route_iff hnodup hl hmem hforward, Option.toList_some]
    constructor
    · rintro ⟨rest, rfl, w, hw, rfl⟩
      exact ⟨w, hw, rfl⟩
    · rintro ⟨w, hw, rfl⟩
      exact ⟨_, rfl, w, hw, rfl⟩

/-- What takes targets as a scrape does is supplied by what discovers them, past the rules for
targets, if there are any. -/
theorem supplied_iff (hnodup : (document.map Block.place).Nodup)
    (hlabel : isIdentifier label = true) {paths : List String} {found : List Block}
    (hfound : List.Forall₂ (DiscoveredBy document) (paths.map Expr.ofDotted) found)
    (hrules : ∀ r ∈ targetRules? label rules (.ofExports paths), r ∈ document)
    (hb : b.attribute? "targets" = some
      ((relabelled label rules (.ofExports paths)).argument.expr Special.render))
    {passed sources : List Block} :
    Supplied document b passed sources ↔
      passed = (targetRules? label rules (.ofExports paths)).toList ∧ sources = found := by
  have hgathers := TargetSource.gathers_ofExports paths
  by_cases hempty : rules.isEmpty = true
  · rw [relabelled, if_pos hempty] at hb
    rw [targetRules?, if_pos hempty]
    exact Supplied.iff_of_gathers hnodup hb hgathers hfound
  · have hpath : Expr.ofDotted (targetRelabel.exportPath label "output") =
        targetRelabel.reference label "output" :=
      ComponentKind.ofDotted_exportPath (by decide) hlabel (by decide)
    obtain ⟨r, hr⟩ : ∃ r, targetRules? label rules (.ofExports paths) = some r :=
      ⟨_, if_neg hempty⟩
    obtain ⟨hplace, htargets⟩ := targetRules?_eq_some hr
    have hexport : r.export? "output" = some (targetRelabel.reference label "output") :=
      Block.export?_eq_some_iff.2 ⟨(Prod.mk.inj hplace).1, (Prod.mk.inj hplace).2⟩
    rw [relabelled, if_neg hempty] at hb
    have hb : b.attribute? "targets" = some (targetRelabel.reference label "output") :=
      hb.trans (congrArg some hpath)
    rw [Supplied.iff_of_output hnodup hb (hrules r hr) hexport, hr]
    simp only [Supplied.iff_of_gathers hnodup htargets hgathers hfound, Option.toList_some]
    constructor
    · rintro ⟨rest, rfl, rfl, rfl⟩
      exact ⟨rfl, rfl⟩
    · rintro ⟨rfl, rfl⟩
      exact ⟨[], rfl, rfl, rfl⟩

end Scrape

/-! ## Jobs -/

/-- The blocks of a scrape job: those that discover its targets, the rules for these, the scrape and
the rules for what is scraped. -/
structure JobBlocks where
  sources : List Block
  targetRules : Option Block
  scrape : Block
  metricRules : Option Block

/-- All blocks of the job, in order. -/
def JobBlocks.all (s : JobBlocks) : List Block :=
  s.sources ++ s.targetRules.toList ++ [s.scrape] ++ s.metricRules.toList

/-- The names of the blocks that discover targets. -/
def discoveryNames : List (List String) :=
  ["static", "dns", "http", "file", "consul", "ovhcloud"].map (["discovery", ·])

namespace ScrapeJob

variable {job : ScrapeJob} {labels : List String}

theorem listed_ne_nil {groups : List TargetGroup} :
    TargetGroup.listed groups ≠ [] ↔ ∃ g ∈ groups, g.targets ≠ [] := by
  simp [TargetGroup.listed]

/-- The kinds of the blocks that discover the targets of a job. -/
theorem kinds_discoveries (job : ScrapeJob) : job.discoveries.map (·.kind.segments) =
    (if ∃ g ∈ job.targetGroups, g.targets ≠ [] then [["discovery", "static"]] else []) ++
    job.dns.map (fun _ => ["discovery", "dns"]) ++
    job.httpDiscovery.map (fun _ => ["discovery", "http"]) ++
    job.file.map (fun _ => ["discovery", "file"]) ++
    job.consul.map (fun _ => ["discovery", "consul"]) ++
    job.ovhcloud.map fun _ => ["discovery", "ovhcloud"] := by
  have hlisted : job.listedTargets.map (·.kind.segments) =
      if ∃ g ∈ job.targetGroups, g.targets ≠ [] then [["discovery", "static"]] else [] := by
    rw [listedTargets]
    split
    · rename_i hnil
      rw [if_neg fun h => listed_ne_nil.2 h hnil]
      rfl
    · rename_i hne
      rw [if_pos (listed_ne_nil.1 hne)]
      rfl
  simp only [discoveries, List.map_append, List.map_map, hlisted]
  rfl

/-- The blocks that discover the targets of the job, under these labels. -/
def sources (job : ScrapeJob) (labels : List String) : List Block :=
  (job.discoveries.zip labels).map fun e => e.1.kind.block e.2 e.1.arguments

/-- What these blocks export. -/
def exports (job : ScrapeJob) (labels : List String) : List String :=
  (job.discoveries.zip labels).map fun e => e.1.kind.exportPath e.2 "targets"

/-- The blocks of the job, given its label and those of the blocks that discover. -/
def blocks (defaults : MetricsDefaults) (receivers : List String) (job : ScrapeJob)
    (label : String) (labels : List String) : JobBlocks :=
  let targets := TargetSource.ofExports (job.exports labels)
  let rules := RelabelRule.accepted job.relabelRules
  let metricRules := RelabelRule.accepted job.metricRelabelRules
  { sources := job.sources labels
    targetRules := Scrape.targetRules? label rules targets
    scrape := Scrape.block label (Scrape.relabelled label rules targets)
      (Scrape.forwardTo label metricRules receivers) job.name (job.settings defaults)
    metricRules := Scrape.metricRules? label metricRules receivers }

theorem blocks_found (hlabels : ∀ l ∈ labels, l ≠ "") :
    (Draft.concat ((job.discoveries.zip labels).map fun (d, l) =>
      .report d.findings ++ .block d.kind l (.record d.arguments))).blocks =
      job.sources labels := by
  rw [Draft.blocks_concat, List.flatMap_map, sources, List.map_eq_flatMap]
  refine List.flatMap_congr fun e he => ?_
  obtain ⟨hd, hl⟩ := List.of_mem_zip he
  have hparts : AreParts (Special.Uses [] []) e.1.arguments := areParts_discoveries hd
  exact Draft.blocks_block hparts e.1.kind (hlabels e.2 hl)

theorem blocks_draft (defaults : MetricsDefaults) (receivers : List String) (hl : label ≠ "")
    (hlabels : ∀ l ∈ labels, l ≠ "") : (job.draft defaults receivers label labels).blocks =
      (job.blocks defaults receivers label labels).all := by
  have hscrape := Draft.blocks_block (Scrape.areParts_scrape label
    (RelabelRule.accepted job.relabelRules) (RelabelRule.accepted job.metricRelabelRules)
    (.ofExports (job.exports labels)) receivers job.name (job.areParts_settings defaults))
    Scrape.kind hl
  simp only [draft, Draft.blocks_append, Draft.blocks_report, List.nil_append, List.append_nil,
    blocks_found hlabels, Scrape.blocks_targetRules hl, Scrape.blocks_metricRules hl]
  exact congrArg (fun bs => _ ++ _ ++ bs ++ _) hscrape

/-- The names of the blocks of a job. -/
theorem name_of_mem_all {defaults : MetricsDefaults} {receivers : List String} {b : Block}
    (hb : b ∈ (job.blocks defaults receivers label labels).all) :
    b.name ∈ discoveryNames ∨ ∃ k ∈ Scrape.kinds, b.name = k.segments := by
  simp only [JobBlocks.all, blocks, List.mem_append, Option.mem_toList, List.mem_singleton] at hb
  rcases hb with ((hb | hb) | rfl) | hb
  · obtain ⟨e, he, rfl⟩ := List.mem_map.1 hb
    have hkind : e.1.kind.segments ∈ job.discoveries.map (·.kind.segments) :=
      List.mem_map_of_mem (List.of_mem_zip he).1
    simp only [kinds_discoveries, List.mem_append, List.mem_map] at hkind
    refine .inl (show e.1.kind.segments ∈ discoveryNames from ?_)
    rcases hkind with ((((h | ⟨_, -, h⟩) | ⟨_, -, h⟩) | ⟨_, -, h⟩) | ⟨_, -, h⟩) | ⟨_, -, h⟩
    · split at h
      · rw [List.mem_singleton.1 h]
        decide
      · exact absurd h List.not_mem_nil
    all_goals
      rw [← h]
      decide
  · exact .inr ⟨Scrape.targetRelabel, by simp [Scrape.kinds], Scrape.name_of_targetRules? hb⟩
  · exact .inr ⟨Scrape.kind, by simp [Scrape.kinds], rfl⟩
  · exact .inr ⟨Scrape.metricRelabel, by simp [Scrape.kinds], Scrape.name_of_metricRules? hb⟩

/-- The blocks that discover targets export them, in order. -/
theorem discoveredBy_sources {document : List Block} (hlabels : ∀ l ∈ labels, isIdentifier l = true)
    (hmem : ∀ b ∈ job.sources labels, b ∈ document) : List.Forall₂ (DiscoveredBy document)
      ((job.exports labels).map Expr.ofDotted) (job.sources labels) := by
  rw [exports, List.map_map, sources, List.forall₂_map_left_iff, List.forall₂_map_right_iff,
    List.forall₂_same]
  intro e he
  obtain ⟨hd, hl⟩ := List.of_mem_zip he
  refine ⟨hmem _ (List.mem_map_of_mem he), ?_⟩
  have hexport := ComponentKind.ofDotted_exportPath (isNamed_discoveries hd) (hlabels e.2 hl)
    (by decide : isIdentifier "targets" = true)
  rw [Function.comp_apply, hexport]
  rfl

end ScrapeJob

/-! ## Integrations -/

/-- The blocks of an integration: its exporter, the rules for the targets that this exports, and, if
it is scraped, the scrape and the rules for what is scraped. -/
structure IntegrationBlocks where
  exporter : Block
  targetRules : Option Block
  scrape : Option Block
  metricRules : Option Block

namespace IntegrationBlocks

/-- All blocks of the integration, in order. -/
def all (s : IntegrationBlocks) : List Block :=
  s.exporter :: s.targetRules.toList ++ (s.scrape.toList ++ s.metricRules.toList)

/-- The block that the samples leave from, if the integration is scraped. -/
def outlet? (s : IntegrationBlocks) : Option Block := s.metricRules.or s.scrape

theorem mem_all_of_outlet? {s : IntegrationBlocks} {b : Block} (h : s.outlet? = some b) :
    b ∈ s.all := by
  refine List.mem_append_right _ (List.mem_append.2 ?_)
  rcases Option.or_eq_some_iff.1 h with h | ⟨-, h⟩
  · exact .inr (Option.mem_toList.2 h)
  · exact .inl (Option.mem_toList.2 h)

end IntegrationBlocks

namespace Integration

variable {kind : ExporterKind} {i : Integration}

/-- The settings of the scrape. -/
def settings (defaults : MetricsDefaults) (i : Integration) : Fields :=
  Field.optional "scrape_interval" .duration
      (i.common.scrapeInterval.or defaults.scrapeInterval) ++
    Field.optional "scrape_timeout" .duration
      (i.common.scrapeTimeout.or defaults.scrapeTimeout)

/-- The blocks of the integration, given its label and that of the block that its samples go to, if
it is scraped. -/
def blocks (kind : ExporterKind) (defaults : MetricsDefaults) (i : Integration) (label : String)
    (written : Option String) : IntegrationBlocks :=
  let targets := exportedTargets kind label
  let metricRules := RelabelRule.accepted i.common.metricRelabelRules
  { exporter := kind.component.block label (kind.arguments i.exporter)
    targetRules := Scrape.targetRules? label i.targetRules targets
    scrape := written.map fun l => Scrape.block label
      (Scrape.relabelled label i.targetRules targets)
      (Scrape.forwardTo label metricRules [RemoteWrite.receiver l]) (labelBase ++ "/" ++ kind.key)
      (i.settings defaults)
    metricRules := written.bind fun l =>
      Scrape.metricRules? label metricRules [RemoteWrite.receiver l] }

theorem component_segments (kind : ExporterKind) :
    kind.component.segments = ["prometheus", "exporter", kind.name] := by
  cases kind <;> decide +kernel

theorem blocks_exporterDraft (defaults : MetricsDefaults) (hl : label ≠ "") :
    (i.exporterDraft kind label).blocks = (i.blocks kind defaults label none).all := by
  have hparts : AreParts (Special.Uses [] []) (kind.arguments i.exporter) :=
    kind.areParts_arguments i.exporter
  rw [exporterDraft, Draft.blocks_append, Draft.blocks_append, Draft.blocks_report,
    Draft.blocks_block hparts _ hl, Scrape.blocks_targetRules hl]
  exact (List.append_nil _).symm

theorem blocks_scraped (defaults : MetricsDefaults) (hl : label ≠ "") (writeLabel : String) :
    (i.exporterDraft kind label ++ i.scrapeDraft kind defaults label writeLabel).blocks =
      (i.blocks kind defaults label (some writeLabel)).all := by
  have hsettings : ∀ refs, AreParts (Special.Uses refs []) (i.settings defaults) := fun refs => by
    simp [settings]
  have hscrape := Draft.blocks_block (Scrape.areParts_scrape label i.targetRules
    (RelabelRule.accepted i.common.metricRelabelRules) (exportedTargets kind label)
    [RemoteWrite.receiver writeLabel] (labelBase ++ "/" ++ kind.key) (hsettings _)) Scrape.kind hl
  have hexporter : (i.exporterDraft kind label).blocks =
      (i.blocks kind defaults label none).exporter ::
        (i.blocks kind defaults label none).targetRules.toList :=
    (blocks_exporterDraft defaults hl).trans (List.append_nil _)
  rw [Draft.blocks_append, hexporter, scrapeDraft, Draft.blocks_append, Draft.blocks_append,
    Draft.blocks_report, List.nil_append, Scrape.blocks_metricRules hl]
  exact congrArg (fun bs => _ ++ (bs ++ _)) hscrape

end Integration

end Agent

end AgentConvert
