import AgentConvert.Conversion
import AgentConvert.Proofs.Document.Formatting
import AgentConvert.Proofs.Formatted.Agent
import AgentConvert.Proofs.Formatted.Collector
import AgentConvert.Proofs.References.Resolved

/-!
# Conversions end in formatted documents

The draft of every configuration is sound (`SourceConfig.isSound_standalone`), so its compact layout
is read back, and formatting replaces it by the canonical layout (`Format.formatBytes_compact`).
-/

namespace AgentConvert

/-! ## Formatting -/

namespace Format

/-- Formatting replaces the compact layout of a well-formed document by the canonical one. -/
theorem formatBytes_compact {body : Body} (h : body.WellFormed) :
    formatBytes body.compact.toUTF8 = (body.canonical.toUTF8, []) :=
  formatBytes_of_encodes (encodes_compact h)

end Format

/-! ## Conversions -/

namespace SourceConfig

theorem isSound_standalone (registry : Collector.Registry) (config : SourceConfig) :
    (config.standalone registry).IsSound := by
  cases config with
  | agent config => exact config.yields_isSound .empty
  | logShipper config => exact config.yields_isSound .empty
  | collector config => exact config.isSound_convert registry

theorem check_standalone (registry : Collector.Registry) (config : SourceConfig) :
    References.check (config.standalone registry).document = [] := by
  refine References.check_eq_nil fun segments hs => ?_
  rw [Draft.blocks_document]
  rcases config.resolves_standalone registry segments hs with h | ⟨path, hpath, -⟩
  · exact h
  · exact absurd hpath (by simp)

/-- A conversion lays its draft out, and has nothing to say beyond it. -/
theorem convert_eq (registry : Collector.Registry) (config : SourceConfig) :
    config.convert registry = ⟨(config.standalone registry).document.canonical.toUTF8,
      (config.standalone registry).findings⟩ := by
  have hformat := Format.formatBytes_compact (config.isSound_standalone registry).wellFormed
  show Conversion.ofDraft (config.standalone registry) = _
  rw [Conversion.ofDraft, hformat]
  dsimp only
  rw [check_standalone, List.append_nil, List.append_nil]

/-- The document of a conversion is that of the draft. -/
theorem encodes_convert (registry : Collector.Registry) (config : SourceConfig) :
    Format.Encodes (config.convert registry).document (config.standalone registry).document := by
  rw [convert_eq]
  exact Format.encodes_canonical (config.isSound_standalone registry).wellFormed

/-- Every conversion ends in a formatted document: the compact layout of the draft is read back, the
result is its canonical layout, which is read as the same document, and nothing is reported about
blocks that could not be built or about the formatting. -/
theorem convert_formatted (registry : Collector.Registry) (config : SourceConfig) :
    let draft := config.standalone registry
    let result := config.convert registry
    parseDocument draft.document.compact = .ok draft.document ∧
    result.document = draft.document.canonical.toUTF8 ∧
    (∃ text, Text.Utf8.decode result.document = .ok text ∧
      parseDocument text = .ok draft.document) ∧
    result.findings = draft.findings ∧
    ∀ d ∈ result.findings, ¬d.ReportsFailure := by
  intro draft result
  have hsound : draft.IsSound := config.isSound_standalone registry
  have hresult : result = ⟨draft.document.canonical.toUTF8, draft.findings⟩ :=
    config.convert_eq registry
  rw [hresult]
  refine ⟨parseDocument_compact hsound.wellFormed, rfl, ?_, rfl, hsound.findings⟩
  exact ⟨draft.document.canonical, Text.Utf8.decode_toUTF8 _,
    parseDocument_canonical hsound.wellFormed⟩

end SourceConfig

end AgentConvert
