import AgentConvert.Conversion
import AgentConvert.Proofs.Collector.Blocks
import AgentConvert.Proofs.References.Agent
import AgentConvert.Proofs.References.Basic

/-!
# References are resolved

Every reference in a document names a field of a block of that document, whatever was left out on
the way, and the check of the references finds nothing.

In a collector a reference names the input of a registered instance, and every registered instance
has a block, in whatever order the pipelines name them. Instances that are not accepted are not
registered, so nothing refers to them.
-/

namespace AgentConvert.Collector

namespace Config

variable {registry : Registry} {config : Config}

/-- Where an instance sends its data is the input of a block of the document. -/
theorem exports_next {id : InstanceId} {signal : Signal} {path : String}
    (h : path ∈ (config.wired registry).next id signal) :
    (config.convert registry .empty).1.Exports (dotted path) := by
  simp only [Wiring.next, List.mem_filterMap, Option.bind_eq_some_iff, Option.map_eq_some_iff] at h
  obtain ⟨target, -, r, hr, kind, hkind, rfl⟩ := h
  obtain ⟨e, he, -, rfl⟩ := of_instance?_wired hr
  have hinput : e.1.kind.component = kind := SourceKind.component_of_input? hkind
  have hnamed := e.1.kind.isNamed_component
  have hlabel := isIdentifier_labels e.2 (List.of_mem_zip he).2
  rw [Draft.Exports, blocks_convert]
  refine ⟨e.1.block (config.wired registry) e.2,
    List.mem_append_right _ (List.mem_map.2 ⟨e, he, rfl⟩), hnamed.1, e.2, "input", rfl, ?_⟩
  rw [← hinput]
  exact ComponentKind.dotted_exportPath hnamed hlabel (by decide)

/-- Every path in the block of an instance says where the instance sends its data. -/
theorem next_of_mem_block {e : Accepted × String} (he : e ∈ config.labelled registry)
    {segments : List String}
    (h : .path segments ∈ exprsOfBody (e.1.block (config.wired registry) e.2).body) :
    ∃ signal, ∃ path ∈ (config.wired registry).next e.1.id signal, segments = dotted path := by
  have hparts := Accepted.areParts_arguments
    (isFinite_of_mem_accepted (List.of_mem_zip he).1) (config.wired registry)
  have hpath := Argument.path_mem_parts_uses (g := .error) (fun _ _ => rfl) hparts h
  rcases hpath with ⟨path, hpath, rfl⟩ | ⟨hole, hhole, -⟩
  · obtain ⟨signal, -, hnext⟩ := List.mem_flatMap.1 hpath
    exact ⟨signal, path, hnext, rfl⟩
  · exact absurd hhole (by simp)

theorem refersTo_logging (logs : TelemetryLogs) :
    (Draft.ofOption (Draft.block (.ofDotted "logging") "") logs.logging?).RefersTo [] :=
  Draft.refersTo_ofOption fun _ h => TelemetryLogs.logging?_fields h

/-- The references of a document are where its instances send their data. -/
theorem next_of_mem_paths {segments : List String}
    (h : segments ∈ References.paths (config.convert registry .empty).1.document) :
    ∃ id signal, ∃ path ∈ (config.wired registry).next id signal, segments = dotted path := by
  rw [Draft.mem_paths_document, blocks_convert] at h
  obtain ⟨b, hb, hs⟩ := h
  rcases List.mem_append.1 hb with hb | hb
  · obtain ⟨path, hpath, -⟩ := refersTo_logging config.service.telemetry.logs segments
      (Draft.mem_paths_document.2 ⟨b, hb, hs⟩)
    exact absurd hpath (by simp)
  · obtain ⟨e, he, rfl⟩ := List.mem_map.1 hb
    exact ⟨e.1.id, next_of_mem_block he hs⟩

/-- A collector resolves all of its references. -/
theorem resolves_convert (registry : Registry) (config : Config) :
    (config.convert registry .empty).1.Resolves [] := by
  intro segments hs
  obtain ⟨id, signal, path, hpath, rfl⟩ := next_of_mem_paths hs
  exact .inl (exports_next hpath)

end Config

end AgentConvert.Collector

namespace AgentConvert

theorem SourceConfig.resolves_standalone (registry : Collector.Registry) (config : SourceConfig) :
    (config.standalone registry).Resolves [] := by
  cases config with
  | agent config => exact config.yields_convert .empty
  | logShipper config => exact config.yields_convert .empty
  | collector config => exact config.resolves_convert registry

/-- Every path in the document of a configuration is the kind, the label and a field of one of its
blocks, and so the check of the references finds nothing. -/
theorem SourceConfig.references_resolved (registry : Collector.Registry) (config : SourceConfig) :
    let document := (config.standalone registry).document
    (∀ segments ∈ References.paths document, ∃ b ∈ Body.blocks document, ∃ label field,
      b.label = some label ∧ segments = b.name ++ [label, field]) ∧
    References.check document = [] := by
  intro document
  have hexports : ∀ segments ∈ References.paths document,
      ∃ b ∈ Body.blocks document, b.Exports segments := by
    intro segments hs
    rw [Draft.blocks_document]
    rcases config.resolves_standalone registry segments hs with h | ⟨path, hpath, -⟩
    · exact h
    · exact absurd hpath (by simp)
  refine ⟨fun segments hs => ?_, References.check_eq_nil hexports⟩
  obtain ⟨b, hb, -, label, field, hlabel, hsegments⟩ := hexports segments hs
  exact ⟨b, hb, label, field, hlabel, hsegments⟩

end AgentConvert
