import AgentConvert.Conversion
import AgentConvert.Proofs.Collector.Blocks
import AgentConvert.Proofs.Draft
import AgentConvert.Proofs.Identity.Agent
import AgentConvert.Proofs.Identity.Basic

/-!
# Identities are unique

No two blocks of a document have the same kind and the same label. In a collector every accepted
instance has a label of its kind's own, and its block has this label; the labels are handed out for
all instances before the first block is built.
-/

namespace AgentConvert.Collector

theorem SourceKind.scopeOf_component (kind : SourceKind) :
    scopeOf kind.component.name = kind.component.name := by
  cases kind <;> decide

/-- A collector's blocks are covered, behind the one block without a label. -/
theorem Config.covers_convert (registry : Registry) (config : Config) :
    let r := config.convert registry .empty
    r.2.Covers r.1.identities := by
  have hlogging := (Labels.covers_unlabelled (.ofDotted "logging")).sublist
    (Draft.identities_unlabelled (.ofDotted "logging") config.service.telemetry.logs.logging?)
  have hlabels := hlogging.mapM_fresh (fun a : Accepted => a.kind.component)
    (fun a => (ComponentId.ofText a.id.name).labelBase)
    fun a (_ : a ∈ config.accepted registry) => a.kind.scopeOf_component
  have hblocks : (config.convert registry .empty).1.identities =
      (Draft.ofOption (Draft.block (.ofDotted "logging") "")
        config.service.telemetry.logs.logging?).identities ++
      (config.labelled registry).map fun e => AgentConvert.labelled e.2 e.1.kind.component := by
    rw [Draft.identities, blocks_convert, List.map_append, List.map_map]
    rfl
  dsimp only
  rw [hblocks]
  exact hlabels

end AgentConvert.Collector

namespace AgentConvert

/-- No two top-level blocks of the document of a configuration have the same dotted kind and the
same label; a block without a label has none to share. -/
theorem SourceConfig.nodup_identities (registry : Collector.Registry) (config : SourceConfig) :
    ((Body.blocks (config.standalone registry).document).map fun b =>
      (dottedName b.name, b.label)).Nodup := by
  show ((Body.blocks (config.standalone registry).document).map Block.identity).Nodup
  rw [Draft.blocks_document]
  cases config with
  | agent config => exact (Agent.Config.covers_convert config).nodup
  | logShipper config => exact (LogShipper.Config.covers_convert config).nodup
  | collector config => exact (Collector.Config.covers_convert registry config).nodup

end AgentConvert
