import AgentConvert.Document.Format
import AgentConvert.Document.References
import AgentConvert.SourceConfig

/-!
# Conversions

The result of a conversion: a document in canonical layout, and everything there is to say about
it. A conversion never fails; what cannot be converted is reported.
-/

namespace AgentConvert

/-- A document, and the findings in order. -/
structure Conversion where
  document : ByteArray
  findings : Diagnostics

namespace Conversion

/-- The document of a draft, laid out, with what its references and its layout are reported for. -/
def ofDraft (d : Draft) : Conversion :=
  let (document, faults) := Format.formatBytes d.document.compact.toUTF8
  ⟨document, d.findings ++ References.check d.document ++ faults⟩

/-- Whether some finding is an error. -/
def hasErrors (c : Conversion) : Bool := c.findings.hasErrors

end Conversion

/-- The draft of a configuration in a document of its own. -/
def SourceConfig.standalone (registry : Collector.Registry) (config : SourceConfig) : Draft :=
  ((config.draft registry).run .empty).1

/-- Converts a configuration. -/
def SourceConfig.convert (registry : Collector.Registry) (config : SourceConfig) : Conversion :=
  .ofDraft (config.standalone registry)

end AgentConvert
