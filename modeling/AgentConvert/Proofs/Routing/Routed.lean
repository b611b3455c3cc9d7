import AgentConvert.Conversion
import AgentConvert.Proofs.Identity.Agent
import AgentConvert.Proofs.Routing.Shipment
import Mathlib.Data.List.Flatten

/-!
# Jobs are routed

In the document of a configuration, whether it is one of a log shipper or one of an agent that
embeds log shippers, every job that can be converted is routed to the clients of its log shipper.

A label that is handed out stands for one part of the document (`filter_parts`), so the blocks with
the label of a job are the job's own, whatever else the document holds (`Consists.isPlaced`).
-/

namespace AgentConvert

open LogShipper

/-! ## Parts of documents -/

/-- The label of a block, with the scope that it was handed out in. -/
def Block.handle? (b : Block) : Option (String × String) :=
  b.label.map fun label => (scopeOf (dottedName b.name), label)

/-- In blocks that are put together from parts with labels of their own, the blocks with the label
of a part are this part. -/
theorem filter_parts {before : List Block} {parts : List ((String × String) × List Block)}
    {key : String × String} {blocks : List Block} (hbefore : ∀ b ∈ before, b.handle? ≠ some key)
    (hparts : ∀ e ∈ parts, ∀ b ∈ e.2, b.handle? = some e.1)
    (hnodup : (parts.map Prod.fst).Nodup) (hmem : (key, blocks) ∈ parts) :
    (before ++ parts.flatMap Prod.snd).filter (fun b => b.handle? = some key) = blocks := by
  have hbefore : before.filter (fun b => b.handle? = some key) = [] :=
    List.filter_eq_nil_iff.2 fun b hb => by simpa using hbefore b hb
  rw [List.filter_append, hbefore, List.nil_append]
  induction parts with
  | nil => exact absurd hmem List.not_mem_nil
  | cons e parts ih =>
    rw [List.map_cons, List.nodup_cons] at hnodup
    have hfirst := hparts e (List.mem_cons_self ..)
    have hrest := fun e he => hparts e (List.mem_cons_of_mem _ he)
    rw [List.flatMap_cons, List.filter_append]
    rcases List.mem_cons.1 hmem with rfl | hmem
    · rw [List.filter_eq_self.2 fun b hb => by simpa using hfirst b hb,
        List.filter_eq_nil_iff.2 fun b hb => ?_, List.append_nil]
      obtain ⟨e, he, hb⟩ := List.mem_flatMap.1 hb
      have hkey : e.1 ∈ parts.map Prod.fst := List.mem_map_of_mem he
      have hne : e.1 ≠ key := fun heq => hnodup.1 (heq ▸ hkey)
      simpa [hrest e he b hb] using hne
    · have hkey : key ∈ parts.map Prod.fst := List.mem_map_of_mem hmem
      have hne : e.1 ≠ key := fun heq => hnodup.1 (heq ▸ hkey)
      rw [ih hrest hnodup.2 hmem, List.filter_eq_nil_iff.2 fun b hb => ?_, List.nil_append]
      simpa [hfirst b hb] using hne

theorem handle?_of_place {b : Block} {label : String} {kind : ComponentKind}
    (h : b.place = placeOf label kind) : b.handle? = some (scopeOf kind.name, label) := by
  obtain ⟨hname, hlabel⟩ := Prod.mk.inj h
  rw [Block.handle?, hlabel, hname]
  rfl

namespace LogShipper

/-! ## Shipments in documents -/

theorem Kind.scopeOf_write : scopeOf Kind.write.name = Kind.write.name := by decide

namespace Shipment

/-- Whether a document takes what comes from the jobs of a log shipper to its clients. -/
structure IsRouted (document : List Block) (s : Shipment) : Prop where
  /-- There is a label for each client. -/
  clients : s.writeLabels.length = s.config.clients.length
  /-- The document has a block of its own for each client. -/
  writes : s.writes.Nodup ∧ ∀ w ∈ s.writes, w ∈ document
  /-- All jobs are converted but those whose subscription names no mode. -/
  jobs : s.jobs.map Prod.fst = s.config.jobs.filter (·.modeFault?.isNone)
  /-- Each job is routed to the clients. -/
  routed : ∀ e ∈ s.jobs, e.1.IsRouted document s.writes e.2

variable {s : Shipment}

theorem mode_of_mem (h : s.IsLabelled) {e : ScrapeJob × String} (he : e ∈ s.jobs) :
    e.1.modeFault? = none := by
  have hjob : e.1 ∈ s.jobs.map Prod.fst := List.mem_map_of_mem he
  rw [h.jobs] at hjob
  exact Option.isNone_iff_eq_none.1 (List.mem_filter.1 hjob).2

/-- A block that writes to a client forwards nothing. -/
theorem forwards_write (client : Client) (label : String) :
    (write client label).attribute? "forward_to" = none := by
  rw [write, Block.attribute?_mk]
  refine Argument.attribute?_parts_of_lacks (Config.areParts_write [] client) ?_
  simp (disch := decide) [Client.arguments]

theorem handle?_write (client : Client) (label : String) :
    (write client label).handle? = some (Kind.write.name, label) := by
  have hplace : (write client label).place = placeOf label Kind.write := rfl
  rw [handle?_of_place hplace, Kind.scopeOf_write]

/-- The blocks of each part have its label. -/
theorem handle?_parts (h : s.IsLabelled) :
    ∀ e ∈ s.parts, ∀ b ∈ e.2, b.handle? = some e.1 := by
  refine List.forall_mem_append.2 ⟨?_, ?_⟩
  · rintro part hpart b hb
    obtain ⟨e, he, rfl⟩ := List.mem_map.1 hpart
    have hl := ne_of_isIdentifier (h.identifiers.2 e he)
    have hplace : b.place ∈ (e.1.draft s.around e.2).blocks.map Block.place :=
      List.mem_map_of_mem hb
    rw [ScrapeJob.places_draft (mode_of_mem h he) hl] at hplace
    obtain ⟨kind, hkind, hplace⟩ := List.mem_map.1 hplace
    have hofJob : kind ∈ Kind.ofJob := by
      rw [← ScrapeJob.map_fst_plan e.1]
      exact (List.filter_sublist.map Prod.fst).subset hkind
    rw [handle?_of_place hplace.symm, Kind.scopeOf_ofJob kind hofJob]
  · rintro part hpart b hb
    obtain ⟨e, -, rfl⟩ := List.mem_map.1 hpart
    obtain rfl := List.mem_singleton.1 hb
    exact handle?_write e.1 e.2

end Shipment

/-- Whether a document has shipments behind other blocks, with labels of their own. -/
structure Consists (document : List Block) (shipments : List Shipment) : Prop where
  labelled : ∀ s ∈ shipments, s.IsLabelled
  nodup : (shipments.flatMap Shipment.labels).Nodup
  blocks : ∃ before, document = before ++ shipments.flatMap Shipment.blocks ∧
    ∀ b ∈ before, ∀ key ∈ shipments.flatMap Shipment.labels, b.handle? ≠ some key

namespace Consists

variable {document : List Block} {shipments : List Shipment} {s : Shipment}

/-- The blocks of the kinds of a part that have its label are the part's own. -/
theorem blocksAt_eq (h : Consists document shipments) (hs : s ∈ shipments)
    {kind : ComponentKind} {label : String} {blocks : List Block}
    (hpart : ((scopeOf kind.name, label), blocks) ∈ s.parts) :
    blocksAt document kind label = blocksAt blocks kind label := by
  obtain ⟨before, hdocument, hbefore⟩ := h.blocks
  have hblocks : shipments.flatMap Shipment.blocks =
      (shipments.flatMap Shipment.parts).flatMap Prod.snd := List.flatMap_assoc.symm
  have hlabels : shipments.flatMap Shipment.labels =
      (shipments.flatMap Shipment.parts).map Prod.fst := List.map_flatMap.symm
  have hnodup := h.nodup
  have hmem : ((scopeOf kind.name, label), blocks) ∈ shipments.flatMap Shipment.parts :=
    List.mem_flatMap.2 ⟨s, hs, hpart⟩
  have hkey : (scopeOf kind.name, label) ∈ shipments.flatMap Shipment.labels := by
    rw [hlabels]
    exact List.mem_map_of_mem hmem
  have hparts : ∀ e ∈ shipments.flatMap Shipment.parts, ∀ b ∈ e.2, b.handle? = some e.1 := by
    intro e he
    obtain ⟨s, hs, he⟩ := List.mem_flatMap.1 he
    exact Shipment.handle?_parts (h.labelled s hs) e he
  rw [hlabels] at hnodup
  have hfilter := filter_parts (fun b hb => hbefore b hb _ hkey) hparts hnodup hmem
  rw [← hblocks, ← hdocument] at hfilter
  rw [← hfilter, blocksAt, blocksAt, List.filter_filter]
  refine List.filter_congr fun b _ => ?_
  by_cases hb : b.name = kind.segments ∧ b.label = some label
  · have hplace : b.place = placeOf label kind := Prod.ext hb.1 hb.2
    simp [hb, handle?_of_place hplace]
  · simp [hb]

/-- There is one block for a client under its label. -/
theorem blocksAt_write (h : Consists document shipments) (hs : s ∈ shipments)
    {e : Client × String} (he : e ∈ s.config.clients.zip s.writeLabels) :
    blocksAt document Kind.write e.2 = [Shipment.write e.1 e.2] := by
  have hpart : ((scopeOf Kind.write.name, e.2), [Shipment.write e.1 e.2]) ∈ s.parts := by
    rw [Kind.scopeOf_write]
    exact List.mem_append_right _ (List.mem_map.2 ⟨e, he, rfl⟩)
  rw [h.blocksAt_eq hs hpart]
  exact blocksAt_eq_singleton (by simp) (List.mem_singleton_self _) rfl

theorem mem_writes_iff (h : Consists document shipments) (hs : s ∈ shipments) {w : Block} :
    w ∈ s.writes ↔ ∃ l ∈ s.writeLabels, w ∈ blocksAt document Kind.write l := by
  constructor
  · intro hw
    obtain ⟨e, he, rfl⟩ := List.mem_map.1 hw
    refine ⟨e.2, (List.of_mem_zip he).2, ?_⟩
    rw [h.blocksAt_write hs he]
    exact List.mem_singleton_self _
  · rintro ⟨l, hl, hw⟩
    have hzip : (s.config.clients.zip s.writeLabels).map Prod.snd = s.writeLabels :=
      List.map_snd_zip (Nat.le_of_eq (h.labelled s hs).clients)
    rw [← hzip] at hl
    obtain ⟨e, he, rfl⟩ := List.mem_map.1 hl
    rw [h.blocksAt_write hs he, List.mem_singleton] at hw
    rw [hw]
    exact List.mem_map_of_mem he

/-- A job of a shipment is placed in the document. -/
theorem isPlaced (h : Consists document shipments) (hs : s ∈ shipments)
    {e : ScrapeJob × String} (he : e ∈ s.jobs) :
    e.1.IsPlaced document s.writes s.around e.2 := by
  have hlabelled := h.labelled s hs
  constructor
  case mode => exact Shipment.mode_of_mem hlabelled he
  case identifier => exact hlabelled.identifiers.2 e he
  case own =>
    intro kind hkind
    refine h.blocksAt_eq hs (List.mem_append_left _ ?_)
    rw [Kind.scopeOf_ofJob kind hkind]
    exact List.mem_map.2 ⟨e, he, rfl⟩
  case writers =>
    exact ⟨s.writeLabels, rfl, hlabelled.identifiers.1, fun w => h.mem_writes_iff hs⟩
  case ends =>
    intro w hw
    obtain ⟨e, -, rfl⟩ := List.mem_map.1 hw
    exact Shipment.forwards_write e.1 e.2

/-- The jobs of a shipment are routed in the document. -/
theorem isRouted (h : Consists document shipments) (hs : s ∈ shipments) :
    s.IsRouted document := by
  constructor
  case clients => exact (h.labelled s hs).clients
  case jobs => exact (h.labelled s hs).jobs
  case routed => exact fun e he => (h.isPlaced hs he).isRouted
  case writes =>
    refine ⟨?_, fun w hw => ?_⟩
    · have hlabels := (List.nodup_flatMap.1 h.nodup).1 s hs
      rw [Shipment.labels_eq] at hlabels
      have hhandles : s.writes.map Block.handle? = ((s.config.clients.zip s.writeLabels).map
          fun e => (Kind.write.name, e.2)).map some := by
        rw [Shipment.writes, List.map_map, List.map_map]
        exact List.map_congr_left fun e _ => Shipment.handle?_write e.1 e.2
      refine List.Nodup.of_map Block.handle? ?_
      rw [hhandles]
      exact (List.nodup_append.1 hlabels).2.1.map fun _ _ => Option.some.inj
    · obtain ⟨l, -, hw⟩ := (h.mem_writes_iff hs).1 hw
      exact (mem_blocksAt.1 hw).1

/-- Every job of every shipment has a label of its own. -/
theorem nodup_jobLabels (h : Consists document shipments) :
    (shipments.flatMap fun s => s.jobs.map Prod.snd).Nodup := by
  have hsub : (shipments.flatMap fun s => s.jobs.map fun e => ("", e.2)).Sublist
      (shipments.flatMap Shipment.labels) := by
    refine List.Sublist.flatMap_right _ fun s _ => ?_
    rw [Shipment.labels_eq, ← List.map_eq_flatMap]
    exact List.sublist_append_left _ _
  refine List.Nodup.of_map (fun l => ("", l)) ?_
  rw [List.map_flatMap]
  simpa [List.map_map, Function.comp_def] using hsub.nodup h.nodup

end Consists

/-- Shipments that are delivered behind blocks that are covered make up the rest of a document. -/
theorem consists_of_delivers {w : Labelling Draft} {configs : List Config} {before : Draft}
    {ls : Labels} (hbefore : ls.Covers before.identities)
    (h : w.Delivers Shipment.blocks Shipment.labels Shipment.IsLabelled Shipment.config configs) :
    ∃ shipments, shipments.map Shipment.config = configs ∧
      Consists (before ++ (w ls).1).blocks shipments := by
  obtain ⟨shipments, hconfigs, hlabelled, hblocks, hlabels⟩ := h ls
  refine ⟨shipments, hconfigs, hlabelled, hlabels.nodup, before.blocks, ?_, ?_⟩
  · rw [Draft.blocks_append, hblocks]
  · intro b hb key hkey hhandle
    obtain ⟨label, hlabel, rfl⟩ := Option.map_eq_some_iff.1 hhandle
    have hidentity : (dottedName b.name, some label) ∈ before.identities :=
      List.mem_map.2 ⟨b, hb, by rw [Block.identity, hlabel]⟩
    exact hlabels.fresh _ hkey (hbefore.taken hidentity)

end LogShipper

/-! ## Documents -/

theorem Agent.LogsSection.delivers_convert (s : LogsSection) :
    s.convert.Delivers Shipment.blocks Shipment.labels Shipment.IsLabelled Shipment.config
      (s.instances.map (·.standalone s)) := by
  have hinstances := Labelling.delivers_mapM fun i (_ : i ∈ s.instances) =>
    (i.standalone s).delivers_convertJobs (labelOfParts ["logs", i.name])
  rw [← List.map_eq_flatMap] at hinstances
  exact hinstances

namespace SourceConfig

/-- The configurations of log shippers in a configuration: itself, or what an agent embeds. -/
def logShippers : SourceConfig → List LogShipper.Config
  | agent config => config.logs.elim [] fun s => s.instances.map (·.standalone s)
  | logShipper config => [config]
  | collector _ => []

theorem consists_standalone (registry : Collector.Registry) (config : SourceConfig) :
    ∃ shipments, shipments.map Shipment.config = config.logShippers ∧
      Consists (config.standalone registry).blocks shipments := by
  cases config with
  | collector config =>
    exact ⟨[], rfl, by simp, by simp, _, (List.append_nil _).symm, by simp⟩
  | logShipper config =>
    have hlogging := (Labels.covers_unlabelled (.ofDotted "logging")).sublist
      (Draft.identities_unlabelled (.ofDotted "logging") config.server.logging?)
    have hbefore : Labels.empty.Covers (Draft.report config.server.agentFindings ++
        .ofOption (Draft.block (.ofDotted "logging") "") config.server.logging?).identities := by
      simpa using hlogging
    exact consists_of_delivers hbefore (config.delivers_convertJobs "")
  | agent config =>
    obtain ⟨before, ls, hcovers, hconvert⟩ := config.exists_before_logs
    have hstandalone : (standalone registry (.agent config)) = (config.convert .empty).1 := rfl
    rw [hstandalone, hconvert, logShippers]
    cases config.logs with
    | none => exact ⟨[], rfl, by simp, by simp, before.blocks, by simp, by simp⟩
    | some s => exact consists_of_delivers hcovers s.delivers_convert

/-- What comes from the sources of the jobs of every log shipper, whether it stands for itself or is
embedded in an agent, is taken to the clients of that log shipper and to nothing else, through the
stages and once through the rules of the job. -/
theorem jobs_routed (registry : Collector.Registry) (config : SourceConfig) :
    let document := Body.blocks (config.standalone registry).document
    ∃ shipments : List Shipment, shipments.map Shipment.config = config.logShippers ∧
      (shipments.flatMap fun s => s.jobs.map Prod.snd).Nodup ∧
      ∀ s ∈ shipments, s.IsRouted document := by
  obtain ⟨shipments, hconfigs, h⟩ := config.consists_standalone registry
  rw [Draft.blocks_document]
  exact ⟨shipments, hconfigs, h.nodup_jobLabels, fun s hs => h.isRouted hs⟩

end SourceConfig

end AgentConvert
