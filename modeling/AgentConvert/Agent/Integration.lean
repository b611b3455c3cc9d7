import AgentConvert.Agent.Exporter
import AgentConvert.Agent.Scrape

/-!
# Integrations

Exporters that the agent runs and, unless told otherwise, scrapes. All scrapes write to one block,
which stands behind the integrations; its label is handed out when the first scrape needs it.
-/

namespace AgentConvert.Agent

/-! ## Settings -/

/-- The settings that every integration has. -/
structure IntegrationSettings where
  enabled : Option Bool := none
  instanceName : Option String := none
  scrape : Option Bool := none
  scrapeInterval : Option Duration := none
  scrapeTimeout : Option Duration := none
  relabelRules : List RelabelRule := []
  metricRelabelRules : List RelabelRule := []
  deriving Inhabited

def IntegrationSettings.fields : List (Field IntegrationSettings) := [
  .of "enabled" (Decode.optional Decode.bool) fun v s => { s with enabled := v },
  .of "instance" (Decode.optional Decode.text) fun v s => { s with instanceName := v },
  .of "scrape_integration" (Decode.optional Decode.bool) fun v s => { s with scrape := v },
  .of "scrape_interval" (Decode.optional Decode.duration) fun v s => { s with scrapeInterval := v },
  .of "scrape_timeout" (Decode.optional Decode.duration) fun v s => { s with scrapeTimeout := v },
  .of "relabel_configs" RelabelRule.list fun v s => { s with relabelRules := v },
  .of "metric_relabel_configs" RelabelRule.list fun v s => { s with metricRelabelRules := v }]

/-- An integration: what all have, and the settings of its exporter. -/
structure Integration where
  common : IntegrationSettings := {}
  exporter : ExporterSettings := .none
  deriving Inhabited

def Integration.record (kind : ExporterKind) : OpenRecord Integration where
  name := kind.recordName
  initial := {}
  fields := kind.specs.map fun spec =>
    .of spec.key spec.type.decode fun v s => { s with exporter := s.exporter.set spec.key v }
  inlined := IntegrationSettings.fields.map
    (.inside fun change s => { s with common := change s.common })

/-- The integrations section. -/
structure IntegrationsSection where
  scrape : Option Bool := none
  remoteWrite : List Endpoint := []
  integration : ExporterKind → Option Integration := fun _ => none
  /-- Integrations that are not supported. -/
  others : Dictionary Value := .empty
  deriving Inhabited

namespace IntegrationsSection

/-- The field of an integration. -/
def integrationField (kind : ExporterKind) : Field IntegrationsSection :=
  .of kind.key (Decode.optional (Integration.record kind).decode) fun v s =>
    { s with integration := fun k => if k = kind then v else s.integration k }

def record : OpenRecord IntegrationsSection where
  name := "IntegrationsConfig"
  initial := {}
  fields := [
    .of "scrape_integrations" (Decode.optional Decode.bool) fun v s => { s with scrape := v },
    .of "prometheus_remote_write" Endpoint.list fun v s => { s with remoteWrite := v }] ++
    ExporterKind.all.map integrationField
  keep := some fun others s => { s with others := others }

end IntegrationsSection

/-! ## Conversion -/

namespace Integration

/-- What the labels of integrations begin with. -/
def labelBase : String := "integrations"

/-- How messages name the integration. -/
def context (kind : ExporterKind) : String := "integration " ++ kind.key

/-- The rules for the targets: first the one that sets the instance, if a name is given. -/
def targetRules (i : Integration) : List RelabelRule :=
  (i.common.instanceName.map (RelabelRule.setLabel "instance")).toList ++
    RelabelRule.accepted i.common.relabelRules

/-- Whether the integration is scraped: as it says itself, or else as the section says. -/
def isScraped (sectionScrape : Option Bool) (i : Integration) : Bool :=
  (i.common.scrape.or sectionScrape).getD true

/-- The exporter, and the rules for its targets. -/
def exporterDraft (kind : ExporterKind) (i : Integration) (label : String) : Draft :=
  .block kind.component label (.record (kind.arguments i.exporter)) ++
  .report (RelabelRule.rejections (context kind) i.common.relabelRules) ++
  Scrape.targetRules label i.targetRules (.exported (kind.component.exportPath label "targets"))

/-- The scrape, which forwards to the block with `writeLabel`. -/
def scrapeDraft (kind : ExporterKind) (defaults : MetricsDefaults) (i : Integration)
    (label writeLabel : String) : Draft :=
  let rules := RelabelRule.accepted i.common.metricRelabelRules
  let receivers := [RemoteWrite.receiver writeLabel]
  let targets := Scrape.relabelled label i.targetRules
    (.exported (kind.component.exportPath label "targets"))
  .report (RelabelRule.rejections (context kind) i.common.metricRelabelRules) ++
  .block Scrape.kind label (Scrape.arguments targets (Scrape.forwardTo label rules receivers)
    (labelBase ++ "/" ++ kind.key)
    (Field.optional "scrape_interval" .duration
        (i.common.scrapeInterval.or defaults.scrapeInterval) ++
      Field.optional "scrape_timeout" .duration
        (i.common.scrapeTimeout.or defaults.scrapeTimeout))) ++
  Scrape.metricRules label rules receivers

/-- The label of the shared block: the one that was handed out, or else a fresh one. -/
def sharedLabel : Option String → Labelling String
  | some label => return label
  | none => Labelling.fresh RemoteWrite.kind.name labelBase

/-- Converts an integration. `shared` is the label of the shared block, if it has one by now. -/
def convert (sectionScrape : Option Bool) (defaults : MetricsDefaults) (kind : ExporterKind)
    (i : Integration) (shared : Option String) : Labelling (Draft × Option String) := do
  let label ← Labelling.fresh "" (labelOfParts [labelBase, kind.key])
  if i.isScraped sectionScrape then
    let writeLabel ← sharedLabel shared
    return (i.exporterDraft kind label ++ i.scrapeDraft kind defaults label writeLabel,
      some writeLabel)
  else return (i.exporterDraft kind label, shared)

end Integration

namespace IntegrationsSection

/-- The integrations that are there and not switched off, in order. -/
def active (s : IntegrationsSection) : List (ExporterKind × Integration) :=
  ExporterKind.all.filterMap fun kind => (s.integration kind).bind fun i =>
    if i.common.enabled = some false then none else some (kind, i)

/-- Converts integrations one after the other, with the label of the shared block. -/
def convertActive (scrape : Option Bool) (defaults : MetricsDefaults) :
    List (ExporterKind × Integration) → Option String → Labelling (Draft × Option String)
  | [], shared => return (.empty, shared)
  | (kind, i) :: rest, shared => do
    let (draft, shared) ← i.convert scrape defaults kind shared
    let (drafts, shared) ← convertActive scrape defaults rest shared
    return (draft ++ drafts, shared)

/-- The endpoints of the shared block: those of the section, or else those for all. -/
def endpoints (defaults : MetricsDefaults) (s : IntegrationsSection) : List Endpoint :=
  if s.remoteWrite.isEmpty then defaults.remoteWrite else s.remoteWrite

/-- Converts the section. -/
def convert (defaults : MetricsDefaults) (s : IntegrationsSection) : Labelling Draft := do
  let (draft, shared) ← convertActive s.scrape defaults s.active none
  return draft ++ .ofOption
    (fun label => RemoteWrite.draft label (s.endpoints defaults) defaults.externalLabels) shared

end IntegrationsSection

end AgentConvert.Agent
