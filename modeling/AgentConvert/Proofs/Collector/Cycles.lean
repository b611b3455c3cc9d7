import AgentConvert.Proofs.Collector.Document
import AgentConvert.Proofs.References.Resolved
import Mathlib.Logic.Relation

/-!
# Cycles

The blocks of a collector's document make a graph by the references in their `output` blocks
(`Block.Feeds`). A pipeline is a chain, but a block serves all pipelines that name its instance and
takes their places in all of them. So a processor may come to follow itself: one that a pipeline
names twice in a row, or two that two pipelines name in both orders. There are no other cycles: data
enters no receiver and leaves no exporter, so a cycle passes processors only, and a processor feeds
the ones that stand right behind it in some pipeline (`Config.feeds_iff_precedes`).
-/

namespace AgentConvert

open Relation

/-- Whether a block refers, in a block called `output`, to what another block of the document
exports. -/
def Block.Feeds (document : List Block) (b c : Block) : Prop :=
  b ∈ document ∧ c ∈ document ∧ ∃ out ∈ b.blocks, out.name = ["output"] ∧
    ∃ segments, .path segments ∈ exprsOfBody out.body ∧ c.Exports segments

namespace Collector

/-! ## Neighbours in a pipeline -/

namespace SignalPipeline

variable {sources exporters processors : List InstanceId} {a b : InstanceId}

/-- What is linked to something else than an exporter is the first processor, or stands right behind
another one. -/
theorem mem_links_iff_of_not_mem (h : b ∉ exporters) :
    (a, b) ∈ links (sources :: (processors.map ([·]) ++ [exporters])) ↔
      (a ∈ sources ∧ [b] <+: processors) ∨ [a, b] <:+: processors := by
  induction processors generalizing sources with
  | nil => simp [links, h]
  | cons p processors ih =>
    have hlink : (a, b) ∈ (sources.flatMap fun a => [p].map (a, ·)) ↔ a ∈ sources ∧ b = p := by
      simp
    have hfirst : [b] <+: p :: processors ↔ b = p := by simp
    rw [List.map_cons, List.cons_append, links, List.mem_append, hlink, ih, hfirst,
      List.infix_cons_iff, List.cons_prefix_cons, List.mem_singleton]

/-- Nothing is linked behind an exporter. -/
theorem mem_of_mem_links (h : (a, b) ∈ links (sources :: (processors.map ([·]) ++ [exporters]))) :
    a ∈ sources ∨ a ∈ processors := by
  induction processors generalizing sources with
  | nil =>
    simp only [List.map_nil, List.nil_append, links, List.append_nil, List.mem_flatMap] at h
    obtain ⟨a', ha, h⟩ := h
    obtain ⟨b', -, heq⟩ := List.mem_map.1 h
    exact .inl ((Prod.mk.inj heq).1 ▸ ha)
  | cons p processors ih =>
    rw [List.map_cons, List.cons_append, links, List.mem_append] at h
    rcases h with h | h
    · obtain ⟨a', ha, h⟩ := List.mem_flatMap.1 h
      obtain ⟨b', -, heq⟩ := List.mem_map.1 h
      exact .inl ((Prod.mk.inj heq).1 ▸ ha)
    · refine .inr (List.mem_cons.2 ?_)
      exact (ih h).imp_left List.mem_singleton.1

end SignalPipeline

namespace Config

variable {registry : Registry} {config : Config} {id target : InstanceId} {signal : Signal}

/-- Exporters are not followed. -/
theorem cls_of_followers_ne_nil (h : target ∈ config.followers id signal) : id.cls ≠ .exporter := by
  obtain ⟨p, -, -, hlink⟩ := mem_followers.1 h
  rcases SignalPipeline.mem_of_mem_links hlink with hid | hid
  · rw [SignalPipeline.cls_of_mem_instances hid]
    decide
  · rw [SignalPipeline.cls_of_mem_instances hid]
    decide

/-- A processor is followed by the processors that stand right behind it in some pipeline. -/
theorem exists_mem_followers_iff (hid : id.cls = .processor) (htarget : target.cls = .processor) :
    (∃ signal, target ∈ config.followers id signal) ↔
      ∃ p ∈ config.signalPipelines, [id, target] <:+: p.instances config .processor := by
  have hlinks : ∀ p : SignalPipeline, (id, target) ∈ links (p.layers config) ↔
      [id, target] <:+: p.instances config .processor := fun p => by
    have hexporter : target ∉ p.instances config .exporter := fun h => by
      rw [SignalPipeline.cls_of_mem_instances h] at htarget
      exact absurd htarget (by decide)
    have hreceiver : id ∉ p.instances config .receiver := fun h => by
      rw [SignalPipeline.cls_of_mem_instances h] at hid
      exact absurd hid (by decide)
    rw [SignalPipeline.layers, SignalPipeline.mem_links_iff_of_not_mem hexporter]
    exact or_iff_right fun h => hreceiver h.1
  simp only [mem_followers, hlinks]
  constructor
  · rintro ⟨signal, p, hp, -, h⟩
    exact ⟨p, hp, h⟩
  · rintro ⟨p, hp, h⟩
    exact ⟨p.signal, p, hp, rfl, h⟩

/-- Whether both instances get a block and the second stands right behind the first among the
processors of some pipeline. -/
def Precedes (registry : Registry) (config : Config) (id target : InstanceId) : Prop :=
  id ∈ (config.accepted registry).map Accepted.id ∧
    target ∈ (config.accepted registry).map Accepted.id ∧
    ∃ p ∈ config.signalPipelines, [id, target] <:+: p.instances config .processor

instance : Decidable (config.Precedes registry id target) :=
  inferInstanceAs (Decidable (_ ∧ _ ∧ ∃ p ∈ config.signalPipelines,
    [id, target] <:+: p.instances config .processor))

theorem Precedes.cls (h : config.Precedes registry id target) :
    id.cls = .processor ∧ target.cls = .processor := by
  obtain ⟨-, -, p, -, hbehind⟩ := h
  exact ⟨SignalPipeline.cls_of_mem_instances (hbehind.subset (by simp)),
    SignalPipeline.cls_of_mem_instances (hbehind.subset (by simp))⟩

/-! ## References between blocks -/

/-- The blocks of the document of a collector. -/
abbrev document (registry : Registry) (config : Config) : List Block :=
  ((SourceConfig.collector config).standalone registry).blocks

variable {p q : Placement} {b c : Block}

theorem block_mem_document (hp : p ∈ config.placements registry) :
    p.block ∈ config.document registry := by
  obtain ⟨e, he, rfl⟩ := List.mem_map.1 hp
  show _ ∈ (config.convert registry .empty).1.blocks
  rw [blocks_convert]
  exact List.mem_append_right _ (List.mem_map_of_mem he)

theorem accepted_mem (hp : p ∈ config.placements registry) :
    p.accepted ∈ config.accepted registry := by
  rw [← map_accepted_placements]
  exact List.mem_map_of_mem hp

theorem exists_placement (h : id ∈ (config.accepted registry).map Accepted.id) :
    ∃ p ∈ config.placements registry, p.accepted.id = id := by
  rw [← map_accepted_placements, List.map_map] at h
  exact List.mem_map.1 h

/-- Placements are told apart by their instances. -/
theorem placement_inj (hp : p ∈ config.placements registry) (hq : q ∈ config.placements registry)
    (h : p.accepted.id = q.accepted.id) : p = q := by
  have hnodup := nodup_accepted registry config
  rw [← map_accepted_placements, List.map_map] at hnodup
  exact List.inj_on_of_nodup_map hnodup hp hq h

/-- Placements are told apart by their blocks. -/
theorem placement_inj_block (hp : p ∈ config.placements registry)
    (hq : q ∈ config.placements registry) (h : p.block = q.block) : p = q :=
  List.inj_on_of_nodup_map nodup_identity_placements hp hq (congrArg Block.identity h)

/-- Two blocks of the document that export the same are one. -/
theorem eq_of_exports {segments : List String} (hb : b ∈ config.document registry)
    (hc : c ∈ config.document registry) (hb' : b.Exports segments) (hc' : c.Exports segments) :
    b = c := by
  have hidentity : b.identity = c.identity := by
    obtain ⟨hname, hlabel⟩ := hb'.same hc'
    rw [Block.identity, Block.identity, hname, hlabel]
  exact List.inj_on_of_nodup_map (config.covers_convert registry).nodup hb hc hidentity

/-- A block that feeds another is that of an instance, and the other that of one of its
followers. -/
theorem exists_of_feeds (h : Block.Feeds (config.document registry) b c) :
    ∃ p ∈ config.placements registry, ∃ q ∈ config.placements registry,
      p.block = b ∧ q.block = c ∧
        ∃ signal, q.accepted.id ∈ config.followers p.accepted.id signal := by
  obtain ⟨hb, hc, out, hout, -, segments, hpath, hexports⟩ := h
  have hpath := Block.mem_exprs_of_mem_blocks hout hpath
  have hblocks := blocks_convert registry config
  have hmem : b ∈ (config.convert registry .empty).1.blocks := hb
  rw [hblocks] at hmem
  rcases List.mem_append.1 hmem with hlogging | hlabelled
  · obtain ⟨path, hnil, -⟩ := refersTo_logging config.service.telemetry.logs segments
      (Draft.mem_paths_document.2 ⟨b, hlogging, hpath⟩)
    exact absurd hnil List.not_mem_nil
  · obtain ⟨e, he, rfl⟩ := List.mem_map.1 hlabelled
    obtain ⟨signal, path, hnext, rfl⟩ := next_of_mem_block he hpath
    rw [next_wired] at hnext
    obtain ⟨target, htarget, hlookup⟩ := List.mem_filterMap.1 hnext
    obtain ⟨e', hfind, rfl⟩ := Option.map_eq_some_iff.1 hlookup
    have he' := List.mem_of_find?_eq_some hfind
    obtain rfl : e'.1.id = target := by simpa using List.find?_some hfind
    have hq : (⟨e'.1, e'.1.block (config.wired registry) e'.2,
        e'.1.report (config.wired registry) e'.2⟩ : Placement) ∈ config.placements registry :=
      List.mem_map_of_mem he'
    have hnamed := e'.1.kind.isNamed_component
    have hinput : (e'.1.block (config.wired registry) e'.2).Exports
        (dotted (e'.1.kind.component.exportPath e'.2 "input")) := by
      refine ⟨hnamed.1, e'.2, "input", rfl, ?_⟩
      exact ComponentKind.dotted_exportPath hnamed
        (isIdentifier_labels e'.2 (List.of_mem_zip he').2) (by decide)
    exact ⟨_, List.mem_map_of_mem he, _, hq, rfl,
      eq_of_exports (block_mem_document hq) hc hinput hexports, signal, htarget⟩

/-- The block of a processor feeds the blocks of its followers. -/
theorem feeds_of_follower (hp : p ∈ config.placements registry)
    (hq : q ∈ config.placements registry) (hcls : p.accepted.id.cls = .processor)
    (h : q.accepted.id ∈ config.followers p.accepted.id signal) :
    Block.Feeds (config.document registry) p.block q.block := by
  have hwired := isWired_of_mem hp
  have hkind : p.accepted.kind ≠ .zipkinReceiver := fun hkind => by
    have hsame := cls_of_mem_accepted (accepted_mem hp)
    rw [hkind, hcls] at hsame
    exact absurd hsame (by decide)
  obtain ⟨out, hfilter, -, hout⟩ := hwired.output (by rw [hcls]; decide)
  have hmem : out ∈ p.block.blocks.filter (·.name = ["output"]) := by
    rw [hfilter]
    exact List.mem_singleton_self out
  obtain ⟨hblocks, hname⟩ := List.mem_filter.1 hmem
  obtain ⟨label, hlabel⟩ := Option.isSome_iff_exists.1 (isWired_of_mem hq).label
  -- The target of the signal that is the input of the follower's block.
  have htarget : .path (q.block.name ++ [label, "input"]) ∈
      p.targets config (config.placements registry) signal := by
    rw [Placement.targets, if_neg (not_and.2 fun h => absurd h hkind), Placement.inputs,
      List.mem_filterMap]
    refine ⟨q.accepted.id, h, ?_⟩
    have hfound : ((config.placements registry).find? (·.accepted.id = q.accepted.id)).isSome :=
      List.find?_isSome.2 ⟨q, hq, decide_eq_true rfl⟩
    obtain ⟨r, hfind⟩ := Option.isSome_iff_exists.1 hfound
    have hr := placement_inj (List.mem_of_find?_eq_some hfind) hq
      (by simpa using List.find?_some hfind)
    rw [hfind, hr, Option.bind_some, Placement.input?, hlabel]
    rfl
  have hvalue := hout signal
  rw [if_neg (List.ne_nil_of_mem htarget)] at hvalue
  refine ⟨block_mem_document hp, block_mem_document hq, out, hblocks, of_decide_eq_true hname, _,
    Block.path_mem_of_attribute? hvalue htarget, ?_, label, "input", hlabel, rfl⟩
  rw [(isWired_of_mem hq).name]
  exact q.accepted.kind.isNamed_component.1

/-- Between processors, a block feeds what stands right behind it in some pipeline. -/
theorem feeds_iff_precedes (hp : p ∈ config.placements registry)
    (hq : q ∈ config.placements registry) (hcls : p.accepted.id.cls = .processor)
    (hcls' : q.accepted.id.cls = .processor) :
    Block.Feeds (config.document registry) p.block q.block ↔
      config.Precedes registry p.accepted.id q.accepted.id := by
  constructor
  · intro h
    obtain ⟨p', hp', q', hq', hb, hc, hfollows⟩ := exists_of_feeds h
    obtain rfl := placement_inj_block hp' hp hb
    obtain rfl := placement_inj_block hq' hq hc
    exact ⟨List.mem_map_of_mem (accepted_mem hp), List.mem_map_of_mem (accepted_mem hq),
      (exists_mem_followers_iff hcls hcls').1 hfollows⟩
  · rintro ⟨-, -, h⟩
    obtain ⟨signal, hfollows⟩ := (exists_mem_followers_iff hcls hcls').2 h
    exact feeds_of_follower hp hq hcls hfollows

/-! ## Ways around -/

/-- What a block is fed by and feeds is the block of a processor. -/
theorem exists_processor_between (hin : Block.Feeds (config.document registry) b c) {d : Block}
    (hout : Block.Feeds (config.document registry) c d) :
    ∃ p ∈ config.placements registry, p.block = c ∧ p.accepted.id.cls = .processor := by
  obtain ⟨_, _, p, hp, _, rfl, signal, htarget⟩ := exists_of_feeds hin
  obtain ⟨p', hp', _, _, hblock, _, signal', hsource⟩ := exists_of_feeds hout
  obtain rfl := placement_inj_block hp' hp hblock
  refine ⟨p', hp, rfl, ?_⟩
  have hreceiver := cls_of_mem_followers htarget
  have hexporter := cls_of_followers_ne_nil hsource
  cases hcls : p'.accepted.id.cls with
  | processor => rfl
  | receiver => exact absurd hcls hreceiver
  | exporter => exact absurd hcls hexporter

/-- A cycle passes processors only. -/
theorem exists_processor_of_cycle (h : TransGen (Block.Feeds (config.document registry)) b b) :
    ∃ p ∈ config.placements registry, p.block = b ∧ p.accepted.id.cls = .processor := by
  obtain ⟨_, hout, _⟩ := TransGen.head'_iff.1 h
  obtain ⟨_, _, hin⟩ := TransGen.tail'_iff.1 h
  exact exists_processor_between hin hout

/-- Ways between the blocks of processors are ways along the pipelines. -/
theorem feeds_transGen_iff (hp : p ∈ config.placements registry)
    (hq : q ∈ config.placements registry) (hcls : p.accepted.id.cls = .processor)
    (hcls' : q.accepted.id.cls = .processor) :
    TransGen (Block.Feeds (config.document registry)) p.block q.block ↔
      TransGen (config.Precedes registry) p.accepted.id q.accepted.id := by
  constructor
  · intro h
    generalize hc : q.block = c at h
    induction h generalizing q with
    | single hfeeds =>
      rw [← hc] at hfeeds
      exact .single ((feeds_iff_precedes hp hq hcls hcls').1 hfeeds)
    | @tail b c hway hfeeds ih =>
      rw [← hc] at hfeeds
      obtain ⟨_, _, hin⟩ := TransGen.tail'_iff.1 hway
      obtain ⟨r, hr, rfl, hrcls⟩ := exists_processor_between hin hfeeds
      exact (ih hr hrcls rfl).tail ((feeds_iff_precedes hr hq hrcls hcls').1 hfeeds)
  · intro h
    generalize hid : q.accepted.id = id at h
    induction h generalizing q with
    | single hprecedes =>
      rw [← hid] at hprecedes
      exact .single ((feeds_iff_precedes hp hq hcls hcls').2 hprecedes)
    | @tail id id' hway hprecedes ih =>
      rw [← hid] at hprecedes
      have hrcls := hprecedes.cls.1
      obtain ⟨r, hr, rfl⟩ := exists_placement hprecedes.1
      exact (ih hr hrcls rfl).tail ((feeds_iff_precedes hr hq hrcls hcls').2 hprecedes)

/-- A processor that stands behind itself along the pipelines is on a cycle. -/
theorem exists_cycle_of_precedes (h : TransGen (config.Precedes registry) id id) :
    ∃ b, TransGen (Block.Feeds (config.document registry)) b b := by
  obtain ⟨_, hprecedes, _⟩ := TransGen.head'_iff.1 h
  have hcls := hprecedes.cls.1
  obtain ⟨p, hp, rfl⟩ := exists_placement hprecedes.1
  exact ⟨p.block, (feeds_transGen_iff hp hp hcls hcls).2 h⟩

/-- The document of a collector has a cycle exactly if some processor that gets a block stands
behind itself along the pipelines; all blocks of a cycle are those of processors. -/
theorem cyclic_iff (registry : Registry) (config : Config) :
    ((∃ b, TransGen (Block.Feeds (config.document registry)) b b) ↔
      ∃ id, TransGen (config.Precedes registry) id id) ∧
    ∀ b, TransGen (Block.Feeds (config.document registry)) b b →
      ∃ kind : SourceKind, kind.cls = .processor ∧ b.name = kind.component.segments := by
  refine ⟨⟨?_, ?_⟩, ?_⟩
  · rintro ⟨b, hcycle⟩
    obtain ⟨p, hp, rfl, hcls⟩ := exists_processor_of_cycle hcycle
    exact ⟨_, (feeds_transGen_iff hp hp hcls hcls).1 hcycle⟩
  · rintro ⟨id, hcycle⟩
    exact exists_cycle_of_precedes hcycle
  · intro b hcycle
    obtain ⟨p, hp, rfl, hcls⟩ := exists_processor_of_cycle hcycle
    refine ⟨p.accepted.kind, ?_, (isWired_of_mem hp).name⟩
    rw [cls_of_mem_accepted (accepted_mem hp), hcls]

/-- Two pipelines for traces that batch twice, in both orders. -/
def crossed : Config where
  receivers := .ofList [("otlp", .null)]
  processors := .ofList [("batch", .null), ("batch/second", .null)]
  exporters := .ofList [("debug", .null)]
  service := { pipelines := .ofList [
    ("traces", ⟨["otlp"], ["batch", "batch/second"], ["debug"]⟩),
    ("traces/other", ⟨["otlp"], ["batch/second", "batch"], ["debug"]⟩)] }

/-- Processors in both orders feed each other. -/
theorem cyclic_crossed : ∃ b, TransGen (Block.Feeds (crossed.document .builtin)) b b := by
  have hforth : crossed.Precedes .builtin ⟨.processor, "batch"⟩ ⟨.processor, "batch/second"⟩ := by
    decide +kernel
  have hback : crossed.Precedes .builtin ⟨.processor, "batch/second"⟩ ⟨.processor, "batch"⟩ := by
    decide +kernel
  exact exists_cycle_of_precedes (.tail (.single hforth) hback)

end Config

end Collector

end AgentConvert
